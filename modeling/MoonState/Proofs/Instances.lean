/-
Timeouts of several instances.

The ID of a timeout is a number of one instance.  The `State` that remembers it
goes through the pool to whichever instance gets the connection's next packet, and
that one cancels its own timeout of this number: another connection loses a
timeout, and the timeout that should have been cancelled stays where it was set.

`Recalls` is the exact condition on the system a packet finds.  `System.SetSince`
is what it buys: in any interleaving, a timeout that is still valid was set after
the last packet of its connection, on whichever instance that packet came.
-/
import MoonState.Lib.Steps
import MoonState.Proofs.Timeouts

namespace MoonState

variable {K P D W : Type}

/-! ### Functions cancel nothing -/

/-- A valid timeout stays valid while a function runs. -/
theorem exec_keeps {env : Env K P W} {c : Code P D W} {a a' : Activation K P D W}
    (h : exec env c a = .ok a') : ∀ tid td, a.sys.sm.timeoutFunctions.lookup tid = some td →
      a'.sys.sm.timeoutFunctions.lookup tid = some td := by
  refine exec_rule env Powers.all
    (R := fun a a' => ∀ tid td, a.sys.sm.timeoutFunctions.lookup tid = some td →
      a'.sys.sm.timeoutFunctions.lookup tid = some td)
    (fun a tid td hl => hl) (fun h h' tid td hl => h' tid td (h tid td hl))
    (fun a d w tid td hl => hl) (fun a tid td hl => hl) ?_ (fun a n tid td hl => hl)
    (fun _ a n tid td hl => hl) ?_ c c.within_all h
  · intro a p a' hp tid td hl
    obtain ⟨cb, ba, -, -, -, rfl⟩ := Activation.getPkt_eq_ok hp
    exact hl
  · intro _ a t f tid td hl
    show (FMap.insertNew _ _ a.sys.sm.timeoutFunctions).lookup tid = some td
    by_cases htid : tid = a.sys.sm.curTimeoutID
    · subst htid
      rw [FMap.lookup_insertNew_self, hl]
      rfl
    · rw [FMap.lookup_insertNew_ne _ _ htid]
      exact hl

theorem callFun_keeps {env : Env K P W} {a a' : Activation K P D W} (h : callFun env a = .ok a')
    {tid : TimeoutID} {td : TimeoutData K P D W}
    (hl : a.sys.sm.timeoutFunctions.lookup tid = some td) :
    a'.sys.sm.timeoutFunctions.lookup tid = some td := by
  obtain ⟨f, p, -, -, hexec⟩ := callFun_eq_ok h
  exact exec_keeps hexec tid td hl

variable [DecidableEq K]

theorem Activation.destroy_keeps {env : Env K P W} {home : Home} {a a' : Activation K P D W}
    (h : a.destroy env home = .ok a') {tid : TimeoutID} {td : TimeoutData K P D W}
    (hl : a.sys.sm.timeoutFunctions.lookup tid = some td) :
    a'.sys.sm.timeoutFunctions.lookup tid = some td := by
  obtain ⟨ba, -, ⟨-, rfl⟩ | ⟨-, -, b, s, hb, hs, rfl⟩⟩ := destroy_eq_ok h
  · exact hl
  · have hb' := callFun_keeps hb hl
    have hs' : s.sm.timeoutFunctions.lookup tid = some td := by
      rw [hs]
      split
      · exact hb'
      · exact hb'
    dsimp only
    split
    · exact hs'
    · exact hs'

theorem runState_keeps {env : Env K P W} {cur : Nat} {id : K} {st : State D} {s s' : Sys K P D W}
    (h : runState env cur id st s = .ok s') {tid : TimeoutID} {td : TimeoutData K P D W}
    (hl : (s.cancelTimeout st).sm.timeoutFunctions.lookup tid = some td) :
    s'.sm.timeoutFunctions.lookup tid = some td := by
  obtain ⟨a, b, ha, rfl, hb⟩ := runState_eq_ok h
  have ha' := callFun_keeps ha hl
  rcases hb with ⟨-, hb⟩ | ⟨-, hb⟩
  · exact Activation.destroy_keeps hb ha'
  · exact Activation.destroy_keeps hb ha'

/-! ### One packet -/

/-- The `State` a packet of the connection would find remembers the ID. -/
def Sys.Remembers (s : Sys K P D W) (id : K) (tid : TimeoutID) : Prop :=
  ∃ st, s.stateOf id = some st ∧ st.timeoutID = tid ∧ tid ≠ timeoutIDInvalid

variable [Inhabited D]

/-- What `findState` returns is what the connection's `State` was, or new. -/
theorem Sys.findState_remembers {id : K} {s s' : Sys K P D W} {st : State D}
    (h : s.findState id = .ok (s', some st)) (tid : TimeoutID) :
    s.Remembers id tid ↔ st.timeoutID = tid ∧ tid ≠ timeoutIDInvalid := by
  have hstate : s.stateOf id = some st ∨
      (s.stateOf id = none ∧ st.timeoutID = timeoutIDInvalid) := by
    unfold stateOf
    rcases findState_cases h with ⟨_, ht, -, ho⟩ | ⟨_, ht, hp, -, ho⟩ |
      ⟨d, w, ht, hp, -, -, -, ho⟩ | ⟨-, -, -, -, ho⟩
    · rw [ht, Option.some_or]
      exact Or.inl ho.symm
    · rw [ht, hp, Option.none_or]
      exact Or.inl ho.symm
    · rw [ht, hp, Option.some.inj ho]
      exact Or.inr ⟨rfl, rfl⟩
    · simp at ho
  constructor
  · rintro ⟨st', hst', rfl, hvalid⟩
    rcases hstate with hs | ⟨hs, -⟩
    · obtain rfl := Option.some.inj (hs.symm.trans hst')
      exact ⟨rfl, hvalid⟩
    · rw [hs] at hst'
      simp at hst'
  · rintro ⟨rfl, hvalid⟩
    rcases hstate with hs | ⟨-, hs⟩
    · exact ⟨st, hs, rfl, hvalid⟩
    · exact absurd hs hvalid

omit [DecidableEq K] [Inhabited D] in
/-- Cancelling takes out the one ID. -/
theorem Sys.cancelTimeout_lookup_iff {s : Sys K P D W} {st : State D} {tid : TimeoutID}
    {td : TimeoutData K P D W} :
    (s.cancelTimeout st).sm.timeoutFunctions.lookup tid = some td ↔
      s.sm.timeoutFunctions.lookup tid = some td ∧
        ¬ (st.timeoutID = tid ∧ tid ≠ timeoutIDInvalid) := by
  by_cases h : st.timeoutID = tid ∧ tid ≠ timeoutIDInvalid
  · obtain ⟨rfl, hvalid⟩ := h
    rw [cancelTimeout_lookup hvalid]
    simp [hvalid]
  · have hsame : (s.cancelTimeout st).sm.timeoutFunctions.lookup tid
        = s.sm.timeoutFunctions.lookup tid := by
      unfold cancelTimeout
      split
      · rename_i hvalid
        exact Finmap.lookup_erase_ne fun hc => h ⟨hc.symm, hc ▸ hvalid⟩
      · rfl
    rw [hsame]
    simp [h]

/-- **What a packet does to the timeouts.**  It cancels what its connection's `State` remembers,
whatever that is, and nothing else; what becomes valid was set for the connection. -/
theorem runPkt_timeouts {env : Env K P W} {cur : Nat} {s s' : Sys K P D W} {pkt : P} {id : K}
    (hpkt : s.pktsBA.get cur = .ok pkt) (hid : env.identify pkt s.w = some id)
    (hrun : runPkt env cur s = .ok s') :
    ∃ new, s'.log = s.log ++ new ∧
      (∀ tid td, s'.sm.timeoutFunctions.lookup tid = some td →
        (s.sm.timeoutFunctions.lookup tid = some td ∧ ¬ s.Remembers id tid) ∨
          (td.id = id ∧ .arm tid id ∈ new)) ∧
      ∀ tid td, s.sm.timeoutFunctions.lookup tid = some td → ¬ s.Remembers id tid →
        s'.sm.timeoutFunctions.lookup tid = some td := by
  obtain ⟨pktIn, hp, hcase⟩ := runPkt_eq_ok hrun
  obtain rfl : pkt = pktIn := Except.ok.inj (hpkt.symm.trans hp)
  rcases hcase with ⟨hnone, -⟩ | ⟨identity, s₁, hi, hf, hdrop⟩ |
    ⟨identity, s₁, st, hi, hf, hrunState⟩
  · rw [hid] at hnone
    simp at hnone
  · -- there is no `State`, and so nothing that remembers an ID
    obtain rfl := Option.some.inj (hid.symm.trans hi)
    obtain ⟨ba, rfl⟩ := Sys.markDropPkt_eq hdrop
    obtain ⟨ht, hpool, rfl⟩ := Sys.findState_none hf
    refine ⟨[.run cur, .discarded cur id], by simp [Sys.emit], ?_, fun tid td hl _ => hl⟩
    intro tid td hl
    refine Or.inl ⟨hl, ?_⟩
    rintro ⟨st, hst, -⟩
    rw [Sys.stateOf, show s.sm.stateTable.lookup id = none from ht,
      show s.connPool.lookup id = none from hpool] at hst
    simp at hst
  · obtain rfl := Option.some.inj (hid.symm.trans hi)
    have hsm : s₁.sm.timeoutFunctions = s.sm.timeoutFunctions := by
      rw [(Sys.findState_found hf).sm]
      rfl
    have hrem : ∀ tid, s.Remembers id tid ↔ st.timeoutID = tid ∧ tid ≠ timeoutIDInvalid :=
      Sys.findState_remembers (s := s.emit (.run cur)) hf
    obtain ⟨l, hl⟩ := (runState_stays hrunState).1.logs
    obtain ⟨pre, hpre⟩ := (((Sys.Frame.emit s (.run cur) (by simp)).trans
      (Sys.findState_frame hf)).trans (.cancelTimeout s₁ st)).log
    refine ⟨pre ++ l, by rw [hl.log, hpre, List.append_assoc], ?_, ?_⟩
    · intro tid td hlook
      rcases hl.timeouts tid td hlook with hold | ⟨htd, harm⟩
      · rw [Sys.cancelTimeout_lookup_iff, hsm, ← hrem] at hold
        exact Or.inl hold
      · exact Or.inr ⟨htd, List.mem_append_right _ harm⟩
    · intro tid td hlook hno
      refine runState_keeps hrunState ?_
      rw [Sys.cancelTimeout_lookup_iff, hsm, ← hrem]
      exact ⟨hlook, hno⟩

/-! ### The system -/

variable {ι : Type} [DecidableEq ι]

/-- The turn is a packet of the connection. -/
def Turn.OfPacket (env : Env K P W) (S : System ι K P D W) (x : Turn ι K P D) (k : ι)
    (ba : BufArray P) (id : K) : Prop :=
  ∃ cur pkt, x = .call (.packet k ba cur) ∧ ba.get cur = .ok pkt ∧ env.identify pkt S.w = some id

/-- What the connection's `State` remembers, seen from the instance its packet is on, is the one
timeout that is valid for the connection on any instance, and no other connection's. -/
structure System.Recalls (S : System ι K P D W) (k : ι) (ba : BufArray P) (id : K) : Prop where
  own : ∀ tid td, (S.view k ba).Remembers id tid →
    (S.sms k).timeoutFunctions.lookup tid = some td → td.id = id
  all : ∀ i tid td, (S.sms i).timeoutFunctions.lookup tid = some td → td.id = id →
    i = k ∧ (S.view k ba).Remembers id tid

/-- **The condition on a turn**: a packet finds the timeouts of its connection recalled. -/
def Turn.Recalled (env : Env K P W) (S : System ι K P D W) (x : Turn ι K P D) : Prop :=
  ∀ k ba id, x.OfPacket env S k ba id → S.Recalls k ba id

/-- The timeout was set on the instance in this turn. -/
structure System.Sets (env : Env K P W) (S : System ι K P D W) (x : Turn ι K P D)
    (S' : System ι K P D W) (i : ι) (tid : TimeoutID) (id : K) : Prop where
  turn : S.turn env x = .ok S'
  on : x.on = i
  arms : ∃ new, S'.log = S.log ++ new ∧ .arm tid id ∈ new

/-- In a run from `S₀` to `S` the timeout was set, and no instance has had a packet of its
connection since. -/
def System.SetSince (env : Env K P W) (S₀ S : System ι K P D W) (i : ι) (tid : TimeoutID)
    (id : K) : Prop :=
  ∃ S₁ x S₂, Steps (fun S x S' => S.turn env x = .ok S') S₀ S₁ ∧ S₁.Sets env x S₂ i tid id ∧
    Steps (fun S x S' => S.turn env x = .ok S' ∧ ∀ k ba, ¬ x.OfPacket env S k ba id) S₂ S

/-- The next pass on the instance calls this function. -/
structure System.Fires (env : Env K P W) (S : System ι K P D W) (i : ι) (t : Timeout)
    (td : TimeoutData K P D W) : Prop where
  top : env.topRule.top (S.sms i).timeoutsQ = some t
  due : t.time ≤ env.clock S.ticks
  valid : (S.sms i).timeoutFunctions.lookup t.timeoutID = some td

omit [DecidableEq K] [Inhabited D] in
theorem System.update_sms_self {S : System ι K P D W} {i : ι} {s : Sys K P D W} :
    (S.update i s).sms i = s.sm := Function.update_self ..

omit [DecidableEq K] [Inhabited D] in
theorem System.update_sms_of_ne {S : System ι K P D W} {i j : ι} {s : Sys K P D W} (h : j ≠ i) :
    (S.update i s).sms j = S.sms j := Function.update_of_ne h ..

omit [DecidableEq K] [Inhabited D] in
/-- A call that leaves the timeouts as they are. -/
theorem System.update_timeouts_same {S : System ι K P D W} {i : ι} {s : Sys K P D W}
    {new : List (Event K D P)} (hsm : s.sm.timeoutFunctions = (S.sms i).timeoutFunctions)
    (hlog : s.log = S.log ++ new) :
    ∃ new, (S.update i s).log = S.log ++ new ∧ ∀ j tid td,
      ((S.update i s).sms j).timeoutFunctions.lookup tid = some td →
        (S.sms j).timeoutFunctions.lookup tid = some td ∨ (j = i ∧ .arm tid td.id ∈ new) := by
  refine ⟨new, hlog, ?_⟩
  intro j tid td hl
  by_cases hj : j = i
  · subst hj
    rw [update_sms_self, hsm] at hl
    exact Or.inl hl
  · rw [update_sms_of_ne hj] at hl
    exact Or.inl hl

omit [Inhabited D] in
/-- A call for one connection makes no other timeout valid than those it sets. -/
theorem System.update_timeouts {S : System ι K P D W} {i : ι} {ba : BufArray P} {s : Sys K P D W}
    {id : K} (h : Sys.Frame id (S.view i ba) s) :
    ∃ new, (S.update i s).log = S.log ++ new ∧ ∀ j tid td,
      ((S.update i s).sms j).timeoutFunctions.lookup tid = some td →
        (S.sms j).timeoutFunctions.lookup tid = some td ∨ (j = i ∧ .arm tid td.id ∈ new) := by
  obtain ⟨new, hnew⟩ := h.logs
  refine ⟨new, hnew.log, ?_⟩
  intro j tid td hl
  by_cases hj : j = i
  · subst hj
    rw [update_sms_self] at hl
    rcases hnew.timeouts tid td hl with hold | ⟨rfl, harm⟩
    · exact Or.inl hold
    · exact Or.inr ⟨rfl, harm⟩
  · rw [update_sms_of_ne hj] at hl
    exact Or.inl hl

/-- A pass works for the connection of a timeout, or for none and leaves the timeouts valid that
were. -/
theorem Sys.pass_cases {env : Env K P W} {s s' : Sys K P D W} (h : s.pass env = .ok s') :
    (s'.sm.timeoutFunctions = s.sm.timeoutFunctions ∧ s'.log = s.log) ∨
      ∃ id, Sys.Frame id s s' := by
  rcases Sys.pass_eq_ok h with ⟨-, rfl⟩ | ⟨t, -, -, rfl⟩ | ⟨t, -, -, -, rfl⟩ |
    ⟨t, td, -, -, -, hfire⟩
  · exact Or.inl ⟨rfl, rfl⟩
  · exact Or.inl ⟨rfl, rfl⟩
  · exact Or.inl ⟨rfl, rfl⟩
  · have htick : Sys.Frame td.id s { s with ticks := s.ticks + 1 } :=
      .of_eq rfl (fun _ _ => rfl) (fun _ _ => rfl) (List.append_nil _).symm (by simp)
    exact Or.inr ⟨td.id, htick.trans (fireTimeout_frame hfire)⟩

/-- **What a turn does to the timeouts**, of all instances. -/
theorem System.turn_timeouts {env : Env K P W} {S S' : System ι K P D W} {x : Turn ι K P D}
    (h : S.turn env x = .ok S') :
    ∃ new, S'.log = S.log ++ new ∧ ∀ i tid td,
      (S'.sms i).timeoutFunctions.lookup tid = some td →
        (S.sms i).timeoutFunctions.lookup tid = some td ∨ (i = x.on ∧ .arm tid td.id ∈ new) := by
  cases x with
  | call c =>
      cases c with
      | packet i ba cur =>
          simp only [turn, call] at h
          split at h
          · rename_i s hs
            obtain rfl := Except.ok.inj h
            obtain ⟨pkt, -, ⟨-, ba', rfl⟩ | ⟨id, -, hframe⟩⟩ := runPkt_cases hs
            · exact update_timeouts_same rfl rfl
            · exact update_timeouts hframe
          · simp at h
      | addState i id st ba =>
          simp only [turn, call] at h
          split at h
          · rename_i s st' hs
            obtain rfl := Except.ok.inj h
            exact update_timeouts (addState_frame hs)
          · simp at h
      | addStateNoFun i id st ba =>
          obtain rfl := Except.ok.inj h
          exact update_timeouts (addStateNoFun_frame st _)
  | pass i ba =>
      simp only [turn] at h
      split at h
      · rename_i s hs
        obtain rfl := Except.ok.inj h
        rcases Sys.pass_cases hs with ⟨hsm, hlog⟩ | ⟨id, hframe⟩
        · exact update_timeouts_same hsm (hlog.trans (List.append_nil _).symm)
        · exact update_timeouts hframe
      · simp at h

/-- A packet whose timeouts are recalled leaves none of its connection valid but those it set
itself, and cancels no other connection's. -/
theorem System.turn_packet {env : Env K P W} {S S' : System ι K P D W} {x : Turn ι K P D} {k : ι}
    {ba : BufArray P} {id : K} (h : S.turn env x = .ok S') (hx : x.OfPacket env S k ba id)
    (hrec : S.Recalls k ba id) :
    x.on = k ∧ ∃ new, S'.log = S.log ++ new ∧
      (∀ i tid td, (S'.sms i).timeoutFunctions.lookup tid = some td → td.id = id →
        i = k ∧ .arm tid id ∈ new) ∧
      ∀ tid td, (S.sms k).timeoutFunctions.lookup tid = some td → td.id ≠ id →
        (S'.sms k).timeoutFunctions.lookup tid = some td := by
  obtain ⟨cur, pkt, rfl, hpkt, hid⟩ := hx
  refine ⟨rfl, ?_⟩
  simp only [turn, call] at h
  split at h
  · rename_i s hs
    obtain rfl := Except.ok.inj h
    obtain ⟨new, hlog, hvalid, hkeep⟩ := runPkt_timeouts hpkt hid hs
    refine ⟨new, hlog, ?_, ?_⟩
    · intro i tid td hl htd
      by_cases hi : i = k
      · subst hi
        rw [update_sms_self] at hl
        rcases hvalid tid td hl with ⟨hold, hno⟩ | ⟨-, harm⟩
        · exact absurd (hrec.all i tid td hold htd).2 hno
        · exact ⟨rfl, harm⟩
      · rw [update_sms_of_ne hi] at hl
        exact absurd (hrec.all i tid td hl htd).1 hi
    · intro tid td hl htd
      rw [update_sms_self]
      exact hkeep tid td hl fun hrem => htd (hrec.own tid td hrem hl)
  · simp at h

/-- A run whose packets find their timeouts recalled. -/
abbrev System.RecalledRun (env : Env K P W) : System ι K P D W → System ι K P D W → Prop :=
  Steps fun S x S' => S.turn env x = .ok S' ∧ x.Recalled env S

/-- **The invariant.**  A valid timeout was set after the last packet of its connection. -/
theorem System.RecalledRun.setSince {env : Env K P W} {S₀ S : System ι K P D W}
    (hstart : ∀ i, (S₀.sms i).timeoutFunctions = ∅) (hrun : System.RecalledRun env S₀ S) :
    ∀ i tid td, (S.sms i).timeoutFunctions.lookup tid = some td →
      System.SetSince env S₀ S i tid td.id := by
  induction hrun with
  | refl =>
      intro i tid td hl
      rw [hstart] at hl
      simp at hl
  | @step S₁ S₂ x hrun hstep ih =>
      obtain ⟨hturn, hrec⟩ := hstep
      intro i tid td hl
      have hsets : ∀ new, S₂.log = S₁.log ++ new → i = x.on → .arm tid td.id ∈ new →
          System.SetSince env S₀ S₂ i tid td.id :=
        fun new hlog hon harm => ⟨_, x, _, hrun.mono fun _ _ _ h => h.1,
          ⟨hturn, hon.symm, new, hlog, harm⟩, .refl⟩
      by_cases hx : ∃ k ba, x.OfPacket env S₁ k ba td.id
      · obtain ⟨k, ba, hx⟩ := hx
        obtain ⟨hon, new, hlog, hvalid, -⟩ := System.turn_packet hturn hx (hrec k ba _ hx)
        obtain ⟨rfl, harm⟩ := hvalid i tid td hl rfl
        exact hsets new hlog hon.symm harm
      · obtain ⟨new, hlog, hvalid⟩ := System.turn_timeouts hturn
        rcases hvalid i tid td hl with hold | ⟨hon, harm⟩
        · obtain ⟨T, y, T', hbefore, hset, hafter⟩ := ih i tid td hold
          refine ⟨T, y, T', hbefore, hset, hafter.step x ⟨hturn, ?_⟩⟩
          exact fun k ba hpkt => hx ⟨k, ba, hpkt⟩
        · exact hsets new hlog hon harm

/-- **Timeouts of different connections and instances do not interfere**, in every run whose
packets find the timeouts of their connection recalled.  A packet cancels no other connection's
timeout on its instance, and a timeout that fires, on any instance, was set after the last packet
of its connection, on any instance. -/
theorem System.RecalledRun.timeouts_apart {env : Env K P W} {S₀ S : System ι K P D W}
    (hstart : ∀ i, (S₀.sms i).timeoutFunctions = ∅) (hrun : System.RecalledRun env S₀ S) :
    (∀ x S', S.turn env x = .ok S' → x.Recalled env S → ∀ k ba id, x.OfPacket env S k ba id →
      ∀ tid td, (S.sms k).timeoutFunctions.lookup tid = some td →
        (S'.sms k).timeoutFunctions.lookup tid ≠ some td → td.id = id) ∧
    ∀ i t td, S.Fires env i t td → System.SetSince env S₀ S i t.timeoutID td.id := by
  constructor
  · intro x S' hturn hrec k ba id hx tid td hl hgone
    obtain ⟨-, new, -, -, hkeep⟩ := System.turn_packet hturn hx (hrec k ba id hx)
    by_contra hne
    exact hgone (hkeep tid td hl hne)
  · exact fun i t td hfires => hrun.setSince hstart i _ td hfires.valid

/-- The condition is needed: any other packet cancels a timeout that is not its connection's, or
leaves one valid that is. -/
theorem System.of_not_recalls {env : Env K P W} {S S' : System ι K P D W} {x : Turn ι K P D} {k : ι}
    {ba : BufArray P} {id : K} (h : S.turn env x = .ok S') (hx : x.OfPacket env S k ba id)
    (hrec : ¬ S.Recalls k ba id) :
    (∃ tid td, (S.sms k).timeoutFunctions.lookup tid = some td ∧ td.id ≠ id ∧
        (S'.sms k).timeoutFunctions.lookup tid ≠ some td) ∨
      ∃ i tid td, td.id = id ∧ (S.sms i).timeoutFunctions.lookup tid = some td ∧
        (S'.sms i).timeoutFunctions.lookup tid = some td := by
  obtain ⟨cur, pkt, rfl, hpkt, hid⟩ := hx
  simp only [turn, call] at h
  split at h
  · rename_i s hs
    obtain rfl := Except.ok.inj h
    obtain ⟨new, -, hvalid, hkeep⟩ := runPkt_timeouts hpkt hid hs
    by_cases hown : ∀ tid td, (S.view k ba).Remembers id tid →
        (S.sms k).timeoutFunctions.lookup tid = some td → td.id = id
    · have hall : ¬ ∀ i tid td, (S.sms i).timeoutFunctions.lookup tid = some td → td.id = id →
          i = k ∧ (S.view k ba).Remembers id tid := fun hall => hrec ⟨hown, hall⟩
      push Not at hall
      obtain ⟨i, tid, td, hl, htd, hno⟩ := hall
      refine Or.inr ⟨i, tid, td, htd, hl, ?_⟩
      by_cases hi : i = k
      · subst hi
        rw [update_sms_self]
        exact hkeep tid td hl (hno rfl)
      · rw [update_sms_of_ne hi]
        exact hl
    · push Not at hown
      obtain ⟨tid, td, hrem, hl, hne⟩ := hown
      refine Or.inl ⟨tid, td, hl, hne, ?_⟩
      rw [update_sms_self]
      intro hl'
      rcases hvalid tid td hl' with ⟨-, hno⟩ | ⟨htd, -⟩
      · exact hno hrem
      · exact hne htd
  · simp at h

/-! ### Two instances that set timeouts -/

/-- Packets are their connection's number, and the clock stands at 5. -/
def alarmEnv : Env Nat Nat Unit where
  identify := fun p _ => some p
  clock := fun _ => 5
  topRule := Timeout.firstRule
  ndebug := true

/-- Two instances with one state, whose function sets a timeout that is due at once. -/
def alarms : System Bool Nat Nat Nat Unit where
  sms := fun _ => StateMachine.new.registerFunction 0 fun _ _ => .setTimeout 0 (fun _ => .done) .done
  connPool := ∅
  w := ()
  ticks := 0
  log := []

/-- Open the connection on the instance. -/
def openOn (i : Bool) (id : Nat) : Turn Bool Nat Nat Nat :=
  .call (.addState i id (State.new 0 0) ((BufArray.new [id]).get rfl))

/-- Connection 7 is opened on the first instance and connection 8 on the second.  The first packet
of 7 comes to the second instance, where it cancels the timeout of 8; its own fires later. -/
theorem alarms_not_apart : ∃ S₁ S₂ S₃ : System Bool Nat Nat Nat Unit,
    alarms.turn alarmEnv (openOn false 7) = .ok S₁ ∧ S₁.turn alarmEnv (openOn true 8) = .ok S₂ ∧
      S₂.turn alarmEnv (.call (.packet true ((BufArray.new [7]).get rfl) 0)) = .ok S₃ ∧
      (∃ td, (S₂.sms true).timeoutFunctions.lookup 0 = some td ∧ td.id = 8 ∧
        (S₃.sms true).timeoutFunctions.lookup 0 = none) ∧
      ∃ td, (S₂.sms false).timeoutFunctions.lookup 0 = some td ∧ td.id = 7 ∧
        S₃.Fires alarmEnv false ⟨5, 0⟩ td :=
  ⟨_, _, _, rfl, rfl, rfl, ⟨_, rfl, rfl, rfl⟩, ⟨_, rfl, rfl, ⟨rfl, by decide, rfl⟩⟩⟩

/-- A packet of the connection, on the instance. -/
def packetOn (i : Bool) (id : Nat) : Turn Bool Nat Nat Nat :=
  .call (.packet i ((BufArray.new [id]).get rfl) 0)

/-- Opening a connection recalls nothing. -/
theorem recalled_openOn (S : System Bool Nat Nat Nat Unit) (i : Bool) (id : Nat) :
    Turn.Recalled alarmEnv S (openOn i id) := by
  rintro k ba id' ⟨cur, pkt, hx, -⟩
  simp [openOn] at hx

/-- A turn that sets one timeout makes no other one valid. -/
theorem valid_of_arm {S S' : System Bool Nat Nat Nat Unit} {x : Turn Bool Nat Nat Nat}
    {new : List (Event Nat Nat Nat)} (n : TimeoutID) (id : Nat) (h : S.turn alarmEnv x = .ok S')
    (hlog : S'.log = S.log ++ new) (harm : ∀ tid id', .arm tid id' ∈ new → tid = n ∧ id' = id)
    {i : Bool} {tid : TimeoutID} {td : TimeoutData Nat Nat Nat Unit}
    (hl : (S'.sms i).timeoutFunctions.lookup tid = some td) :
    (S.sms i).timeoutFunctions.lookup tid = some td ∨ (i = x.on ∧ tid = n ∧ td.id = id) := by
  obtain ⟨new', hlog', hvalid⟩ := System.turn_timeouts h
  obtain rfl := List.append_cancel_left (hlog.symm.trans hlog')
  rcases hvalid i tid td hl with hold | ⟨hi, hset⟩
  · exact Or.inl hold
  · exact Or.inr ⟨hi, harm _ _ hset⟩

/-- With 7 opened on the first instance and 8 on the second, what 7 remembers is its timeout. -/
theorem recalled_packetOn {S₁ S₂ : System Bool Nat Nat Nat Unit}
    (h₁ : alarms.turn alarmEnv (openOn false 7) = .ok S₁)
    (h₂ : S₁.turn alarmEnv (openOn true 8) = .ok S₂) :
    Turn.Recalled alarmEnv S₂ (packetOn false 7) := by
  have hlog₁ : S₁.log = alarms.log ++
      [.call 7 (State.new 0 0), .arm 0 7, .opened 7 ⟨0, 0, 0⟩] := by
    obtain rfl := Except.ok.inj h₁
    rfl
  have hlog₂ : S₂.log = S₁.log ++
      [.call 8 (State.new 0 0), .arm 0 8, .opened 8 ⟨0, 0, 0⟩] := by
    obtain rfl := Except.ok.inj h₁
    obtain rfl := Except.ok.inj h₂
    rfl
  have hremembers : (S₂.view false ((BufArray.new [7]).get rfl)).Remembers 7 0 := by
    obtain rfl := Except.ok.inj h₁
    obtain rfl := Except.ok.inj h₂
    exact ⟨_, rfl, rfl, by decide⟩
  have hvalid : ∀ i tid td, (S₂.sms i).timeoutFunctions.lookup tid = some td →
      (i = false ∧ tid = 0 ∧ td.id = 7) ∨ (i = true ∧ tid = 0 ∧ td.id = 8) := by
    intro i tid td hl
    rcases valid_of_arm 0 8 h₂ hlog₂ (by simp) hl with hl₁ | h
    · rcases valid_of_arm 0 7 h₁ hlog₁ (by simp) hl₁ with hl₀ | h
      · simp [alarms, StateMachine.new, StateMachine.registerFunction] at hl₀
      · exact Or.inl h
    · exact Or.inr h
  rintro k ba id ⟨cur, pkt, hx, hpkt, hid⟩
  obtain ⟨rfl, rfl, rfl⟩ : k = false ∧ ba = (BufArray.new [7]).get rfl ∧ cur = 0 := by
    simpa [packetOn, eq_comm] using hx
  obtain rfl : (7 : Nat) = id := Option.some.inj ((congrArg some (Except.ok.inj hpkt)).trans hid)
  constructor
  · intro tid td _ hl
    rcases hvalid _ _ _ hl with ⟨-, -, h⟩ | ⟨h, -, -⟩
    · exact h
    · exact absurd h (by decide)
  · intro i tid td hl h
    rcases hvalid i tid td hl with ⟨rfl, rfl, -⟩ | ⟨-, -, h'⟩
    · exact ⟨rfl, hremembers⟩
    · exact absurd (h.symm.trans h') (by decide)

/-- Connections 7 and 8 are opened, each on its instance, and a packet of 7 comes to the one that
set its timeout.  What fires next there was set by the packet, and on the other instance when 8
was opened. -/
theorem System.RecalledRun.timeouts_apart_alarms : ∃ S₁ S₂ S₃ : System Bool Nat Nat Nat Unit,
    alarms.turn alarmEnv (openOn false 7) = .ok S₁ ∧ S₁.turn alarmEnv (openOn true 8) = .ok S₂ ∧
      S₂.turn alarmEnv (packetOn false 7) = .ok S₃ ∧
      ((S₂.sms false).timeoutFunctions.lookup 0).isSome ∧
      (S₃.sms false).timeoutFunctions.lookup 0 = none ∧
      System.SetSince alarmEnv alarms S₃ false 1 7 ∧
      System.SetSince alarmEnv alarms S₃ true 0 8 := by
  obtain ⟨S₁, h₁⟩ : ∃ S₁, alarms.turn alarmEnv (openOn false 7) = .ok S₁ := ⟨_, rfl⟩
  obtain ⟨S₂, h₂⟩ : ∃ S₂, S₁.turn alarmEnv (openOn true 8) = .ok S₂ := by
    obtain rfl := Except.ok.inj h₁
    exact ⟨_, rfl⟩
  obtain ⟨S₃, h₃⟩ : ∃ S₃, S₂.turn alarmEnv (packetOn false 7) = .ok S₃ := by
    obtain rfl := Except.ok.inj h₁
    obtain rfl := Except.ok.inj h₂
    exact ⟨_, rfl⟩
  have hrun : System.RecalledRun alarmEnv alarms S₃ :=
    ((Steps.refl.step _ ⟨h₁, recalled_openOn _ false 7⟩).step _
      ⟨h₂, recalled_openOn _ true 8⟩).step _ ⟨h₃, recalled_packetOn h₁ h₂⟩
  have hapart := (System.RecalledRun.timeouts_apart (fun _ => rfl) hrun).2
  have hfires : (∃ td, td.id = 7 ∧ S₃.Fires alarmEnv false ⟨5, 1⟩ td) ∧
      (∃ td, td.id = 8 ∧ S₃.Fires alarmEnv true ⟨5, 0⟩ td) ∧
      ((S₂.sms false).timeoutFunctions.lookup 0).isSome ∧
      (S₃.sms false).timeoutFunctions.lookup 0 = none := by
    obtain rfl := Except.ok.inj h₁
    obtain rfl := Except.ok.inj h₂
    obtain rfl := Except.ok.inj h₃
    exact ⟨⟨_, rfl, rfl, by decide, rfl⟩, ⟨_, rfl, rfl, by decide, rfl⟩, rfl, rfl⟩
  obtain ⟨⟨td, hid, hfire⟩, ⟨td', hid', hfire'⟩, hset, hgone⟩ := hfires
  refine ⟨S₁, S₂, S₃, h₁, h₂, h₃, hset, hgone, ?_, ?_⟩
  · exact hid ▸ hapart false _ _ hfire
  · exact hid' ▸ hapart true _ _ hfire'

end MoonState
