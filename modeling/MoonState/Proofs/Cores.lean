/-
How packets are spread over cores and cut into batches does not show.

What a packet does depends on the entry of its connection, the pool and the rest,
and changes no other entry: `Service.Share` relates what a core holds to what one
machine would hold that served all of them.  A core whose packets are the ones that
are steered to it keeps its share (`receiveAll_share`), so the cores together hold
what the one machine holds (`Cores.Holds`), job by job.
-/
import MoonState.Model.Cores
import MoonState.Proofs.Responder

namespace MoonState

variable {K D B R : Type} [DecidableEq K]

/-! ### A part of the connections -/

namespace Service

/-- `g` and `h` hold the same, as far as the connections in `S` are concerned. -/
structure Share (S : K → Prop) (g h : Held K D R) : Prop where
  table : ∀ id, S id → g.table.lookup id = h.table.lookup id
  pool : g.pool = h.pool
  rest : g.rest = h.rest

/-- The entries of all connections but these are the same. -/
def Keeps (S : K → Prop) (g g' : Held K D R) : Prop :=
  ∀ id, ¬S id → g'.table.lookup id = g.table.lookup id

variable {u : Service K D B R} {S : K → Prop} {g h : Held K D R}

/-- A change to one connection is a change to these. -/
theorem Keeps.of_one {id : K} (hid : S id) {g' : Held K D R}
    (h : ∀ j, j ≠ id → g'.table.lookup j = g.table.lookup j) : Keeps S g g' :=
  fun _ hj => h _ fun hc => hj (hc ▸ hid)

theorem Keeps.trans {g' g'' : Held K D R} (h : Keeps S g g') (h' : Keeps S g' g'') :
    Keeps S g g'' :=
  fun id hid => (h' id hid).trans (h id hid)

/-- Both get the entry, and it is the only one that changes. -/
theorem Share.of_lookup (hs : Share S g h) (id : K) {t t' : FMap K (State D)} {pool : FMap K (State D)}
    {rest : R} (ht : t.lookup id = t'.lookup id)
    (hg : ∀ j, j ≠ id → t.lookup j = g.table.lookup j)
    (hh : ∀ j, j ≠ id → t'.lookup j = h.table.lookup j) : Share S ⟨t, pool, rest⟩ ⟨t', pool, rest⟩ := by
  refine ⟨fun j hj => ?_, rfl, rfl⟩
  by_cases hji : j = id
  · rw [hji]
    exact ht
  · show t.lookup j = t'.lookup j
    rw [hg j hji, hh j hji]
    exact hs.table j hj

variable [Inhabited D]

variable (u) in
/-- The lookup. -/
theorem find_share (hs : Share S g h) {id : K} (hid : S id) :
    (u.find id g = none ∧ u.find id h = none) ∨
      ∃ g' h' o, u.find id g = some (g', o) ∧ u.find id h = some (h', o) ∧ Share S g' h' ∧
        Keeps S g g' ∧ Keeps S h h' := by
  have hnew : ∀ (st : State D) (pool : FMap K (State D)) (rest : R),
      Share S ⟨FMap.insertNew id st g.table, pool, rest⟩ ⟨FMap.insertNew id st h.table, pool, rest⟩ := by
    intro st pool rest
    refine hs.of_lookup id ?_ (fun j hj => FMap.lookup_insertNew_ne _ _ hj)
      fun j hj => FMap.lookup_insertNew_ne _ _ hj
    rw [FMap.lookup_insertNew_self, FMap.lookup_insertNew_self, hs.table id hid]
  have hkeeps : ∀ (x : Held K D R) (st : State D) (pool : FMap K (State D)) (rest : R),
      Keeps S x ⟨FMap.insertNew id st x.table, pool, rest⟩ :=
    fun _ _ _ _ => Keeps.of_one hid fun _ hj => FMap.lookup_insertNew_ne _ _ hj
  unfold find
  rw [hs.table id hid, hs.pool, hs.rest]
  cases h.table.lookup id with
  | some st => exact Or.inr ⟨g, h, some st, rfl, rfl, hs, fun _ _ => rfl, fun _ _ => rfl⟩
  | none =>
      cases h.pool.lookup id with
      | some st =>
          exact Or.inr ⟨_, _, some st, rfl, rfl, hnew st _ _, hkeeps g st _ _, hkeeps h st _ _⟩
      | none =>
          dsimp only
          by_cases hlisten : u.listenToConnections = true
          · rw [if_pos hlisten, if_pos hlisten]
            cases u.newData id h.rest with
            | none => exact Or.inl ⟨rfl, rfl⟩
            | some dr =>
                exact Or.inr ⟨_, _, _, rfl, rfl, hnew _ _ _, hkeeps g _ _ _, hkeeps h _ _ _⟩
          · rw [if_neg hlisten, if_neg hlisten]
            exact Or.inr ⟨g, h, none, rfl, rfl, hs, fun _ _ => rfl, fun _ _ => rfl⟩

variable (u) in
omit [Inhabited D] in
/-- The function of a connection. -/
theorem serve_share (hs : Share S g h) {id : K} (hid : S id) (st : State D) (b : B) :
    (u.serve id st g b = none ∧ u.serve id st h b = none) ∨
      ∃ g' h' out, u.serve id st g b = some (g', out) ∧ u.serve id st h b = some (h', out) ∧
        Share S g' h' ∧ Keeps S g g' ∧ Keeps S h h' := by
  have hkeeps : ∀ (x : Held K D R) (a : Answer D B R) j, j ≠ id →
      (if (after st a).state = u.endStateID then (x.table.insert id (after st a)).erase id
        else x.table.insert id (after st a)).lookup j = x.table.lookup j := by
    intro x a j hj
    split
    · rw [Finmap.lookup_erase_ne hj, Finmap.lookup_insert_of_ne _ hj]
    · exact Finmap.lookup_insert_of_ne _ hj
  unfold serve
  rw [hs.rest]
  cases u.answer st b h.rest with
  | none => exact Or.inl ⟨rfl, rfl⟩
  | some a =>
      refine Or.inr ⟨_, _, (a.pkt, !a.free), rfl, rfl, ?_, Keeps.of_one hid (hkeeps g a),
        Keeps.of_one hid (hkeeps h a)⟩
      rw [hs.pool]
      refine hs.of_lookup id ?_ (hkeeps g a) (hkeeps h a)
      split
      · rw [Finmap.lookup_erase, Finmap.lookup_erase]
      · rw [Finmap.lookup_insert, Finmap.lookup_insert]

variable (u) in
/-- **One packet.** -/
theorem receive_share (hs : Share S g h) {b : B} (hb : ∀ id, u.ident b = some id → S id) :
    (u.receive g b = none ∧ u.receive h b = none) ∨
      ∃ g' h' out, u.receive g b = some (g', out) ∧ u.receive h b = some (h', out) ∧
        Share S g' h' ∧ Keeps S g g' ∧ Keeps S h h' := by
  unfold receive
  cases hi : u.ident b with
  | none => exact Or.inr ⟨g, h, (b, false), rfl, rfl, hs, fun _ _ => rfl, fun _ _ => rfl⟩
  | some id =>
      have hid := hb id hi
      dsimp only
      rcases find_share u hs hid with ⟨hg, hh⟩ | ⟨g₁, h₁, o, hg, hh, hs₁, hkg, hkh⟩
      · rw [hg, hh]
        exact Or.inl ⟨rfl, rfl⟩
      · rw [hg, hh]
        cases o with
        | none => exact Or.inr ⟨g₁, h₁, (b, false), rfl, rfl, hs₁, hkg, hkh⟩
        | some st =>
            rcases serve_share u hs₁ hid st b with hnone | ⟨g₂, h₂, out, hg₂, hh₂, hs₂, hkg₂, hkh₂⟩
            · exact Or.inl hnone
            · exact Or.inr ⟨g₂, h₂, out, hg₂, hh₂, hs₂, hkg.trans hkg₂, hkh.trans hkh₂⟩

variable (u) in
/-- **A batch.** -/
theorem receiveAll_share (bs : List B) (hbs : ∀ b ∈ bs, ∀ id, u.ident b = some id → S id)
    {g h : Held K D R} (hs : Share S g h) :
    (u.receiveAll bs g = none ∧ u.receiveAll bs h = none) ∨
      ∃ g' h' outs, u.receiveAll bs g = some (g', outs) ∧ u.receiveAll bs h = some (h', outs) ∧
        Share S g' h' ∧ Keeps S g g' ∧ Keeps S h h' := by
  induction bs generalizing g h with
  | nil => exact Or.inr ⟨g, h, [], rfl, rfl, hs, fun _ _ => rfl, fun _ _ => rfl⟩
  | cons b bs ih =>
      rw [receiveAll, receiveAll]
      rcases receive_share u hs (hbs b List.mem_cons_self) with ⟨hg, hh⟩ |
        ⟨g₁, h₁, out, hg, hh, hs₁, hkg, hkh⟩
      · rw [hg, hh]
        exact Or.inl ⟨rfl, rfl⟩
      · rw [hg, hh]
        dsimp only
        rcases ih (fun b hb => hbs b (List.mem_cons_of_mem _ hb)) hs₁ with ⟨hg₂, hh₂⟩ |
          ⟨g₂, h₂, outs, hg₂, hh₂, hs₂, hkg₂, hkh₂⟩
        · rw [hg₂, hh₂]
          exact Or.inl ⟨rfl, rfl⟩
        · rw [hg₂, hh₂]
          exact Or.inr ⟨g₂, h₂, out :: outs, rfl, rfl, hs₂, hkg.trans hkg₂, hkh.trans hkh₂⟩

/-! ### One machine, job by job -/

variable (u)

/-- What a job does to a machine that serves all connections. -/
def job (h : Held K D R) : Cores.Job K D B R → Option (Held K D R × List (B × Bool))
  | .packet b => (u.receive h b).map fun r => (r.1, [r.2])
  | .opening id state create inPkts =>
    match inPkts.pkts with
    | [] => none
    | b :: bs => ((create h.rest).bind fun d =>
        u.openWith id (State.new state d.1) { h with rest := d.2 } b).map fun r =>
          (r.1, r.2 :: bs.map fun b => (b, true))

def jobs : List (Cores.Job K D B R) → Held K D R → Option (Held K D R × List (B × Bool))
  | [], h => some (h, [])
  | j :: js, h => (u.job h j).bind fun r => (jobs js r.1).map fun r' => (r'.1, r.2 ++ r'.2)

theorem jobs_append (js js' : List (Cores.Job K D B R)) (h : Held K D R) :
    u.jobs (js ++ js') h = (u.jobs js h).bind fun r =>
      (u.jobs js' r.1).map fun r' => (r'.1, r.2 ++ r'.2) := by
  induction js generalizing h with
  | nil => simp [jobs]
  | cons j js ih =>
      rw [List.cons_append, jobs, jobs]
      cases u.job h j with
      | none => rfl
      | some r =>
          rw [Option.bind_some, Option.bind_some, ih]
          cases u.jobs js r.1 with
          | none => rfl
          | some r' =>
              cases hr : u.jobs js' r'.1 <;> simp [hr]

/-- The packets of a batch, one after the other. -/
theorem jobs_packets (bs : List B) (h : Held K D R) :
    u.jobs (bs.map .packet) h = u.receiveAll bs h := by
  induction bs generalizing h with
  | nil => rfl
  | cons b bs ih =>
      rw [List.map_cons, jobs, job, receiveAll]
      cases u.receive h b with
      | none => rfl
      | some r =>
          rw [Option.map_some, Option.bind_some, ih]
          rfl

end Service

/-! ### The cores -/

namespace Cores

variable {ι ι' : Type} [DecidableEq ι] [DecidableEq ι']

omit [DecidableEq K] in
/-- What the cores see once one of them has left its part. -/
theorem core_put (x : Cores ι K D B R) (i j : ι) (y : Instance K D B R) :
    (x.put i y).core j = if j = i then y else ⟨x.sms j, y.connPool, y.rest⟩ := by
  unfold core put
  dsimp only
  rw [Function.update_apply]
  split <;> rfl

/-- The cores hold what one machine with `h` would; each has the connections steered to it. -/
structure Holds (u : Service K D B R) (steer : K → ι) (x : Cores ι K D B R) (h : Held K D R) :
    Prop where
  runs : ∀ i, u.Runs (x.sms i)
  table : ∀ id, (x.sms (steer id)).stateTable.lookup id = h.table.lookup id
  elsewhere : ∀ i id, steer id ≠ i → (x.sms i).stateTable.lookup id = none
  connPool : x.connPool = h.pool
  rest : x.rest = h.rest

variable {u : Service K D B R} {steer : K → ι} {x : Cores ι K D B R} {h : Held K D R}

omit [DecidableEq ι] in
theorem Holds.share (hx : Holds u steer x h) (i : ι) :
    Service.Share (fun id => steer id = i) (x.core i).held h where
  table := by
    rintro id rfl
    exact hx.table id
  pool := hx.connPool
  rest := hx.rest

/-- The core `i` was at work, and the one machine would have done the same. -/
theorem Holds.put (hx : Holds u steer x h) (i : ι) {y : Instance K D B R} {h' : Held K D R}
    (hruns : u.Runs y.sm) (hs : Service.Share (fun id => steer id = i) y.held h')
    (hy : Service.Keeps (fun id => steer id = i) (x.core i).held y.held)
    (hh : Service.Keeps (fun id => steer id = i) h h') : Holds u steer (x.put i y) h' := by
  have hsm : ∀ j, (x.put i y).sms j = if j = i then y.sm else x.sms j := fun j =>
    Function.update_apply x.sms i y.sm j
  refine ⟨fun j => ?_, fun id => ?_, fun j id hj => ?_, hs.pool, hs.rest⟩
  · rw [hsm]
    split
    · exact hruns
    · exact hx.runs j
  · rw [hsm]
    by_cases hid : steer id = i
    · rw [if_pos hid]
      exact hs.table id hid
    · rw [if_neg hid, hx.table]
      exact (hh id hid).symm
  · rw [hsm]
    by_cases hji : j = i
    · rw [if_pos hji]
      exact (hy id fun hc => hj (hc.trans hji.symm)).trans (hx.elsewhere i id (hji ▸ hj))
    · rw [if_neg hji]
      exact hx.elsewhere j id hj

variable [Inhabited D] [Inhabited B] (pl : Service.Platform)

omit [DecidableEq ι] [Inhabited D] [Inhabited B] in
theorem Holds.start (u : Service K D B R) (steer : K → ι) (rest : R) :
    Holds u steer (Cores.start u rest) ⟨∅, ∅, rest⟩ :=
  ⟨fun _ => Instance.start_runs u rest, fun _ => rfl, fun _ _ _ => rfl, rfl, rfl⟩

/-- **A call is its jobs.** -/
theorem Holds.call (hx : Holds u steer x h) {c : Call ι K D B R} (hc : c.Steered u.ident steer) :
    ((∃ e, x.call u pl c = .error e) ∧ u.jobs c.jobs h = none) ∨
      ∃ x' h' outs, x.call u pl c = .ok (x', outs) ∧ u.jobs c.jobs h = some (h', outs) ∧
        Holds u steer x' h' := by
  cases c with
  | process i inPkts =>
      have hp := Instance.process_eq pl (x := x.core i) (hx.runs i) inPkts.pkts inPkts.nonempty
        inPkts.fits
      rw [Call.jobs, Service.jobs_packets, Cores.call]
      rcases Service.receiveAll_share u inPkts.pkts hc (hx.share i) with ⟨hg, hh⟩ |
        ⟨g', h', outs, hg, hh, hs, hkg, hkh⟩
      · rw [hg] at hp
        obtain ⟨e, he⟩ := hp
        exact Or.inl ⟨⟨e, by rw [he]; rfl⟩, hh⟩
      · rw [hg] at hp
        obtain ⟨y, hy, rfl, hruns⟩ := hp
        exact Or.inr ⟨_, h', outs, by rw [hy]; rfl, hh, hx.put i hruns hs hkg hkh⟩
  | connect i id state create inPkts =>
      obtain ⟨pkts, hpos, hlt⟩ := inPkts
      obtain ⟨b, bs, rfl⟩ := List.exists_cons_of_length_pos hpos
      have hp := Instance.connect_eq pl (x := x.core i) (hx.runs i) id state create b bs hlt
      have hrest : (x.core i).rest = h.rest := hx.rest
      rw [hrest] at hp
      have hjobs : u.jobs (Call.connect i id state create ⟨b :: bs, hpos, hlt⟩ : Call ι K D B R).jobs h
          = ((create h.rest).bind fun d =>
              u.openWith id (State.new state d.1) { h with rest := d.2 } b).map fun r =>
                (r.1, r.2 :: bs.map fun b => (b, true)) := by
        rw [Call.jobs, Service.jobs, Service.job]
        dsimp only
        cases (create h.rest).bind fun d =>
            u.openWith id (State.new state d.1) { h with rest := d.2 } b <;> simp [Service.jobs]
      rw [hjobs, Cores.call]
      cases hcreate : create h.rest with
      | none =>
          rw [hcreate] at hp
          obtain ⟨e, he⟩ := hp
          exact Or.inl ⟨⟨e, by rw [he]; rfl⟩, rfl⟩
      | some d =>
          rw [hcreate, Option.bind_some] at hp
          rw [Option.bind_some]
          unfold Service.openWith at hp ⊢
          cases ha : u.answer (State.new state d.1) b d.2 with
          | none =>
              rw [ha] at hp
              obtain ⟨e, he⟩ := hp
              exact Or.inl ⟨⟨e, by rw [he]; rfl⟩, rfl⟩
          | some a =>
              rw [ha] at hp
              obtain ⟨y, hy, hheld, hruns⟩ := hp
              refine Or.inr ⟨_, _, _, by rw [hy]; rfl, rfl, hx.put i hruns ?_ ?_ ?_⟩
              · rw [hheld]
                refine ⟨(hx.share i).table, ?_, rfl⟩
                show (if _ then x.connPool else FMap.insertNew id _ x.connPool) = _
                rw [hx.connPool]
              · rw [hheld]
                exact fun _ _ => rfl
              · exact fun _ _ => rfl

/-- **The calls of all cores are their jobs**, in that order. -/
theorem Holds.feed {cs : List (Call ι K D B R)} (hcs : ∀ c ∈ cs, c.Steered u.ident steer)
    {x : Cores ι K D B R} {h : Held K D R} (hx : Holds u steer x h) :
    ((∃ e, MoonState.feed (Cores.call u pl) x cs = .error e) ∧
        u.jobs (cs.flatMap Call.jobs) h = none) ∨
      ∃ x' h' outs, MoonState.feed (Cores.call u pl) x cs = .ok (x', outs) ∧
        u.jobs (cs.flatMap Call.jobs) h = some (h', outs.flatten) ∧ Holds u steer x' h' := by
  induction cs generalizing x h with
  | nil => exact Or.inr ⟨x, h, [], rfl, rfl, hx⟩
  | cons c cs ih =>
      rw [List.flatMap_cons, Service.jobs_append, MoonState.feed]
      rcases hx.call pl (hcs c List.mem_cons_self) with ⟨⟨e, he⟩, hnone⟩ |
        ⟨x₁, h₁, out, hx₁, hh₁, hholds⟩
      · exact Or.inl ⟨⟨e, by rw [he]⟩, by rw [hnone]; rfl⟩
      · rw [hx₁, hh₁, Option.bind_some]
        dsimp only
        rcases ih (fun c hc => hcs c (List.mem_cons_of_mem _ hc)) hholds with ⟨⟨e, he⟩, hnone⟩ |
          ⟨x', h', outs, hx', hh', hholds'⟩
        · exact Or.inl ⟨⟨e, by rw [he]⟩, by rw [hnone]; rfl⟩
        · refine Or.inr ⟨x', h', out :: outs, by rw [hx'], ?_, hholds'⟩
          rw [hh', List.flatten_cons]
          rfl

/-- Each connection has the same `State`, on the core it is steered to and on no other. -/
structure Same (steer : K → ι) (steer' : K → ι') (x : Cores ι K D B R) (y : Cores ι' K D B R) :
    Prop where
  table : ∀ id, (x.sms (steer id)).stateTable.lookup id = (y.sms (steer' id)).stateTable.lookup id
  elsewhere : ∀ id, (∀ i, steer id ≠ i → (x.sms i).stateTable.lookup id = none) ∧
    ∀ i, steer' id ≠ i → (y.sms i).stateTable.lookup id = none
  connPool : x.connPool = y.connPool
  rest : x.rest = y.rest

/-- **Cores do not show.**  Two programs that do the same jobs in the same order, on any cores and
in any batches, send the same packets and hold the same connections, or are both stopped. -/
theorem same_of_jobs (u : Service K D B R) (pl' : Service.Platform) (steer : K → ι) (steer' : K → ι')
    (rest : R) {cs : List (Call ι K D B R)} {cs' : List (Call ι' K D B R)}
    (hcs : ∀ c ∈ cs, c.Steered u.ident steer) (hcs' : ∀ c ∈ cs', c.Steered u.ident steer')
    (hjobs : cs.flatMap Call.jobs = cs'.flatMap Call.jobs) :
    ((∃ e, MoonState.feed (Cores.call u pl) (Cores.start u rest) cs = .error e) ∧
        ∃ e, MoonState.feed (Cores.call u pl') (Cores.start u rest) cs' = .error e) ∨
      ∃ x y outs outs', MoonState.feed (Cores.call u pl) (Cores.start u rest) cs = .ok (x, outs) ∧
        MoonState.feed (Cores.call u pl') (Cores.start u rest) cs' = .ok (y, outs') ∧
        outs.flatten = outs'.flatten ∧ Same steer steer' x y := by
  rcases (Holds.start u steer rest).feed pl hcs with ⟨he, hnone⟩ | ⟨x, h, outs, hx, hh, hholds⟩
  · rcases (Holds.start u steer' rest).feed pl' hcs' with ⟨he', -⟩ | ⟨y, h', outs', -, hh', -⟩
    · exact Or.inl ⟨he, he'⟩
    · rw [← hjobs, hnone] at hh'
      exact absurd hh' (by simp)
  · rcases (Holds.start u steer' rest).feed pl' hcs' with ⟨-, hnone⟩ | ⟨y, h', outs', hy, hh', hholds'⟩
    · rw [← hjobs, hh] at hnone
      exact absurd hnone (by simp)
    · rw [← hjobs, hh] at hh'
      obtain ⟨rfl, houts⟩ := Prod.mk.inj (Option.some.inj hh')
      refine Or.inr ⟨x, y, outs, outs', hx, hy, houts, ?_, ?_, ?_, ?_⟩
      · exact fun id => (hholds.table id).trans (hholds'.table id).symm
      · exact fun id => ⟨fun i => hholds.elsewhere i id, fun i => hholds'.elsewhere i id⟩
      · exact hholds.connPool.trans hholds'.connPool.symm
      · exact hholds.rest.trans hholds'.rest.symm

/-- The first packet a HelloBye2 client sends, as far as the server looks at it. -/
def hello (ident : UInt8) : Packet where
  data := fun k => if k = 12 then 8 else if k = 14 then 0x45 else if k = 23 then 17
    else if k = 42 then ident else 0
  dataLen := 60

/-- A machine nobody sets timeouts on. -/
def calm : Service.Platform where
  clock := fun _ => 0
  topRule := Timeout.firstRule
  ndebug := false

/-- Two cores with a batch each, and one core with both batches in one. -/
theorem same_of_jobs_hello :
    ((∃ e, MoonState.feed (Cores.call HelloBye2.Server.service calm)
          (Cores.start HelloBye2.Server.service id)
          [.process true ⟨[hello 1], by decide, by decide⟩,
            .process false ⟨[hello 2, hello 2], by decide, by decide⟩] = .error e) ∧
        ∃ e, MoonState.feed (Cores.call HelloBye2.Server.service calm)
          (Cores.start HelloBye2.Server.service id)
          [.process () ⟨[hello 1, hello 2, hello 2], by decide, by decide⟩] = .error e) ∨
      ∃ x y outs outs', MoonState.feed (Cores.call HelloBye2.Server.service calm)
          (Cores.start HelloBye2.Server.service id)
          [.process true ⟨[hello 1], by decide, by decide⟩,
            .process false ⟨[hello 2, hello 2], by decide, by decide⟩] = .ok (x, outs) ∧
        MoonState.feed (Cores.call HelloBye2.Server.service calm)
          (Cores.start HelloBye2.Server.service id)
          [.process () ⟨[hello 1, hello 2, hello 2], by decide, by decide⟩] = .ok (y, outs') ∧
        outs.flatten = outs'.flatten ∧ Same (fun id => id == 1) (fun _ => ()) x y := by
  refine same_of_jobs calm HelloBye2.Server.service calm (fun id => id == 1) (fun _ => ()) id ?_ ?_ rfl
  · intro c hc
    rcases List.mem_cons.mp hc with rfl | hc
    · intro b hb id hid
      obtain rfl := List.mem_singleton.mp hb
      obtain rfl := Option.some.inj hid
      decide
    · obtain rfl := List.mem_singleton.mp hc
      intro b hb id hid
      obtain rfl : b = hello 2 := by simpa using hb
      obtain rfl := Option.some.inj hid
      decide
  · intro c hc
    obtain rfl := List.mem_singleton.mp hc
    exact fun _ _ _ _ => rfl

end Cores

/-! ### One machine -/

/-- Batches do not matter: what a program does with them is what it does with the packets. -/
theorem Instance.feed_inPkts {K D B R : Type} [DecidableEq K] [Inhabited D] [Inhabited B]
    {u : Service K D B R} (pl : Service.Platform) (bs : List (InPkts B)) {x : Instance K D B R}
    (h : u.Runs x.sm) {h' : Held K D R} {outs : List (B × Bool)}
    (hall : u.receiveAll (bs.flatMap InPkts.pkts) x.held = some (h', outs)) :
    ∃ x' os, feed (fun x (b : InPkts B) => x.process u pl b.pkts) x bs = .ok (x', os) ∧
      os.flatten = outs ∧ x'.held = h' ∧ u.Runs x'.sm := by
  induction bs generalizing x outs with
  | nil =>
      obtain ⟨rfl, rfl⟩ := Prod.mk.inj (Option.some.inj hall)
      exact ⟨x, [], rfl, rfl, rfl, h⟩
  | cons b bs ih =>
      have hb := Instance.process_eq pl h b.pkts b.nonempty b.fits
      rw [List.flatMap_cons, Service.receiveAll_append] at hall
      obtain ⟨⟨h₁, o⟩, hr, hall⟩ := Option.bind_eq_some_iff.mp hall
      rw [hr] at hb
      obtain ⟨x₁, hx₁, rfl, hruns⟩ := hb
      obtain ⟨⟨h₂, o'⟩, hrest, heq⟩ := Option.map_eq_some_iff.mp hall
      obtain ⟨rfl, rfl⟩ := Prod.mk.inj heq
      obtain ⟨x', os, hfeed, rfl, hheld, hruns'⟩ := ih hruns hrest
      refine ⟨x', o :: os, ?_, rfl, hheld, hruns'⟩
      simp only [feed, hx₁, hfeed]

end MoonState
