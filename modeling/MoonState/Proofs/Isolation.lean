/-
Connections do not see each other.

By `Setup.step` a batch is a fold that keeps one state a connection, and the order
between connections does not matter to such a fold.  `Setup.Batch` says how what
the connections share — the memory, the growing array and its marks, the supply of
packets — is read off the answers the fold gives.
-/
import MoonState.Lib.Keyed
import MoonState.Proofs.Serve

namespace MoonState

variable {K P D B : Type} [DecidableEq K] [DecidableEq P]

/-! ### The answers to a batch -/

/-- What the packets hold that were asked for. -/
def extras (res : List (P × Out B)) : List B := res.flatMap fun r => r.2.extra

namespace Setup

variable (u : Setup K P D B)

/-- The packets `l` are still to be served, in the slots from `k` on; each holds what `mem`
says. -/
structure Ready (mem : P → B) (k : Nat) (l : List P) (s : Sys K P D (Heap P B)) : Prop where
  slots : ∀ i p, l[i]? = some p → s.pktsBA.get (k + i) = .ok p
  bytes : ∀ p ∈ l, s.w.mem p = mem p
  nodup : l.Nodup
  apart : ∀ p ∈ l, ∀ n, s.w.given ≤ n → u.supply n ≠ p
  fresh : Heap.Fresh u.supply s.w.given
  runs : u.Runs s.sm

/-- `s'` is `s` after the packets in the slots from `k` on got the answers `res`. -/
structure Batch (k : Nat) (res : List (P × Out B)) (s s' : Sys K P D (Heap P B)) : Prop where
  given : s'.w.given = s.w.given + (extras res).length
  pkts : s'.pktsBA.pkts
    = s.pktsBA.pkts ++ (List.range' s.w.given (extras res).length).map u.supply
  own : ∀ r ∈ res, s'.w.mem r.1 = r.2.pkt
  other : ∀ q, q ∉ res.map Prod.fst → (∀ n, s.w.given ≤ n → u.supply n ≠ q) →
    s'.w.mem q = s.w.mem q
  extra : (List.range' s.w.given (extras res).length).map (fun n => s'.w.mem (u.supply n))
    = extras res
  marks : ∀ i r, res[i]? = some r → s'.pktsBA.sends (k + i) = !r.2.free
  others : ∀ i, i < k → i < s.pktsBA.numBufs → s'.pktsBA.sends i = s.pktsBA.sends i
  rest : ∀ i, k + res.length ≤ i → i < s.pktsBA.numBufs → s'.pktsBA.sends i = s.pktsBA.sends i
  fresh : ∀ i, s.pktsBA.numBufs ≤ i → s'.pktsBA.sends i = decide (i < s'.pktsBA.numBufs)
  capacity : BufArray.capacity s'.pktsBA.numSlots = BufArray.capacity s.pktsBA.numSlots

variable {u} {mem : P → B}

/-- One answer more is still to be given. -/
theorem Ready.step {k : Nat} {p : P} {l : List P} {o : Out B} {s s' : Sys K P D (Heap P B)}
    (h : u.Ready mem k (p :: l) s) (ha : u.Answered k p o s s') : u.Ready mem (k + 1) l s' := by
  have hgiven : s'.w.given = s.w.given + o.extra.length := by
    rw [ha.w]
    exact Heap.fill_given _ _ _
  obtain ⟨hp, hl⟩ := List.nodup_cons.mp h.nodup
  refine ⟨?_, ?_, hl, ?_, ?_, ha.runs⟩
  · intro i q hq
    have hget := BufArray.get_eq_ok (h.slots (i + 1) q (by simpa using hq))
    have hlt := (List.getElem?_eq_some_iff.mp hget).1
    unfold BufArray.get
    rw [ha.pkts, List.getElem?_append_left (by omega), show k + 1 + i = k + (i + 1) by omega, hget]
  · intro q hq
    have hne : q ≠ p := fun hc => hp (hc ▸ hq)
    rw [ha.w, ← h.bytes q (List.mem_cons_of_mem _ hq)]
    exact (Function.update_of_ne hne _ _).trans
      (Heap.fill_mem_of_ne _ (h.apart q (List.mem_cons_of_mem _ hq)))
  · intro q hq n hn
    exact h.apart q (List.mem_cons_of_mem _ hq) n (by omega)
  · intro i j hi hj
    exact h.fresh i j (by omega) (by omega)

omit [DecidableEq K] in
theorem Ready.le_numBufs {k : Nat} {p : P} {l : List P} {s : Sys K P D (Heap P B)}
    (h : u.Ready mem k (p :: l) s) : k + (l.length + 1) ≤ s.pktsBA.numBufs := by
  have hlast : (p :: l)[l.length]? = some ((p :: l).get ⟨l.length, by simp⟩) :=
    List.getElem?_eq_getElem _
  have hlt : k + l.length < s.pktsBA.pkts.length :=
    (List.getElem?_eq_some_iff.mp (BufArray.get_eq_ok (h.slots _ _ hlast))).1
  exact hlt

omit [DecidableEq K] [DecidableEq P] in
theorem Batch.nil (k : Nat) (s : Sys K P D (Heap P B)) : u.Batch k [] s s where
  given := rfl
  pkts := (List.append_nil _).symm
  own := by simp
  other := fun _ _ _ => rfl
  extra := rfl
  marks := by simp
  others := fun _ _ _ => rfl
  rest := fun _ _ _ => rfl
  fresh := by
    intro i hi
    rw [BufArray.sends_slack _ hi]
    simp [hi]
  capacity := rfl

/-- One answer more. -/
theorem Batch.cons {k : Nat} {p : P} {l : List P} {o : Out B} {res : List (P × Out B)}
    {s s₁ s' : Sys K P D (Heap P B)} (h : u.Ready mem k (p :: l) s) (hl : res.map Prod.fst = l)
    (ha : u.Answered k p o s s₁) (hb : u.Batch (k + 1) res s₁ s') :
    u.Batch k ((p, o) :: res) s s' := by
  have hgiven : s₁.w.given = s.w.given + o.extra.length := by
    rw [ha.w]
    exact Heap.fill_given _ _ _
  have hnum : s₁.pktsBA.numBufs = s.pktsBA.numBufs + o.extra.length := by
    unfold BufArray.numBufs
    rw [ha.pkts]
    simp
  have hext : extras ((p, o) :: res) = o.extra ++ extras res := rfl
  have hk : k < s.pktsBA.numBufs :=
    (List.getElem?_eq_some_iff.mp (BufArray.get_eq_ok (h.slots 0 p rfl))).1
  obtain ⟨hp, -⟩ := List.nodup_cons.mp h.nodup
  refine ⟨?_, ?_, ?_, ?_, ?_, ?_, ?_, ?_, ?_, hb.capacity.trans ha.capacity⟩
  · rw [hb.given, hgiven, hext, List.length_append]
    omega
  · rw [hb.pkts, ha.pkts, hgiven, hext, List.length_append, List.append_assoc, ← List.map_append,
      List.range'_append_1]
  · intro r hr
    rcases List.mem_cons.mp hr with rfl | hr
    · show s'.w.mem p = o.pkt
      rw [hb.other p (by rwa [hl])
        (fun n hn => h.apart p List.mem_cons_self n (by omega)), ha.w]
      exact Function.update_self _ _ _
    · exact hb.own r hr
  · intro q hq hn
    rw [List.map_cons, List.mem_cons, not_or] at hq
    rw [hb.other q hq.2 (fun n hle => hn n (by omega)), ha.w]
    exact (Function.update_of_ne hq.1 _ _).trans (Heap.fill_mem_of_ne _ hn)
  · rw [hext, List.length_append, ← List.range'_append_1, List.map_append, ← hgiven, hb.extra]
    congr 1
    -- what was taken for this packet is not written again
    conv_rhs => rw [← Heap.fill_mem o.extra h.fresh]
    refine List.map_congr_left fun n hn => ?_
    rw [List.mem_range'_1] at hn
    have hne : u.supply n ≠ p := h.apart p List.mem_cons_self n hn.1
    rw [hb.other (u.supply n), ha.w]
    · exact Function.update_of_ne hne _ _
    · rw [hl]
      exact fun hc => h.apart _ (List.mem_cons_of_mem _ hc) n hn.1 rfl
    · intro m hm hc
      have := h.fresh m n (by omega) hn.1 hc
      omega
  · intro i r hr
    cases i with
    | zero =>
        obtain rfl := Option.some.inj hr
        rw [Nat.add_zero, hb.others k (by omega) (by omega), ha.own]
    | succ i =>
        rw [show k + (i + 1) = k + 1 + i by omega]
        exact hb.marks i r (by simpa using hr)
  · intro i hi hib
    rw [hb.others i (by omega) (by omega), ha.others i (by omega) hib]
  · intro i hi hib
    rw [List.length_cons] at hi
    rw [hb.rest i (by omega) (by omega), ha.others i (by omega) hib]
  · intro i hi
    by_cases hib : i < s₁.pktsBA.numBufs
    · have hle : s₁.pktsBA.numBufs ≤ s'.pktsBA.numBufs := by
        unfold BufArray.numBufs
        rw [hb.pkts, List.length_append]
        omega
      have hlen : k + (l.length + 1) ≤ s.pktsBA.numBufs := h.le_numBufs
      have hres : res.length = l.length := by rw [← hl, List.length_map]
      rw [hb.rest i (by omega) hib, ha.fresh i hi]
      simp [hib, show i < s'.pktsBA.numBufs by omega]
    · exact hb.fresh i (Nat.not_lt.mp hib)

/-! ### The loop -/

variable [Inhabited D] {env : Env K P (Heap P B)}

/-- The connection a packet belongs to, and what it does to it. -/
abbrev key (u : Setup K P D B) (mem : P → B) (p : P) : Option K := u.ident (mem p)

abbrev stepOf (u : Setup K P D B) (mem : P → B) (c : Conn D) (p : P) : Option (Conn D × Out B) :=
  u.step c (mem p)

omit [Inhabited D] in
theorem Answered.conns_eq {k : Nat} {p : P} {o : Out B} {s s' : Sys K P D (Heap P B)}
    (h : u.Answered k p o s s') :
    s'.conns = Function.update s.conns (u.ident (s.w.mem p)) (s'.conns (u.ident (s.w.mem p))) := by
  funext k
  by_cases hk : k = u.ident (s.w.mem p)
  · rw [hk, Function.update_self]
  · rw [Function.update_of_ne hk]
    exact h.conns k hk

/-- **What the loop did** is what the fold says. -/
theorem Ready.run_eq_ok (hident : ∀ q w, env.identify q w = u.ident (w.mem q)) :
    ∀ (l : List P) (k : Nat) {s s' : Sys K P D (Heap P B)}, u.Ready mem k l s →
      (List.range' k l.length).foldlM (fun s i => runPkt env i s) s = .ok s' →
      ∃ res, Keyed.run (u.key mem) (u.stepOf mem) l s.conns = some (s'.conns, res) ∧
        u.Batch k res s s' := by
  intro l
  induction l with
  | nil =>
      intro k s s' _ h
      obtain rfl := Except.ok.inj h
      exact ⟨[], rfl, .nil k s⟩
  | cons p l ih =>
      intro k s s' hready h
      rw [List.length_cons, List.range'_succ] at h
      obtain ⟨s₁, hp, hrest⟩ := foldlM_cons_eq_ok.mp h
      have hbytes := hready.bytes p List.mem_cons_self
      obtain ⟨o, hstep, ha⟩ := hready.runs.runPkt_eq_ok hident (hready.slots 0 p rfl) hp
      obtain ⟨res, hres, hb⟩ := ih (k + 1) (hready.step ha) hrest
      rw [ha.conns_eq] at hres
      rw [hbytes] at hstep hres
      exact ⟨(p, o) :: res, Keyed.run_cons_eq_some.mpr ⟨_, o, res, hstep, hres, rfl⟩,
        .cons hready (Keyed.run_fst hres) ha hb⟩

/-- **When the loop does not stop the program.** -/
theorem Ready.run_of_room (hident : ∀ q w, env.identify q w = u.ident (w.mem q)) :
    ∀ (l : List P) (k : Nat) {s : Sys K P D (Heap P B)} {σ : Option K → Conn D}
      {res : List (P × Out B)}, u.Ready mem k l s →
      Keyed.run (u.key mem) (u.stepOf mem) l s.conns = some (σ, res) →
      s.pktsBA.numBufs + (extras res).length ≤ BufArray.capacity s.pktsBA.numSlots →
      ∃ s', (List.range' k l.length).foldlM (fun s i => runPkt env i s) s = .ok s' := by
  intro l
  induction l with
  | nil => exact fun k s _ _ _ _ _ => ⟨s, rfl⟩
  | cons p l ih =>
      intro k s σ res hready hrun hroom
      obtain ⟨c, o, res', hstep, hrest, rfl⟩ := Keyed.run_cons_eq_some.mp hrun
      have hbytes := hready.bytes p List.mem_cons_self
      have hext : (extras ((p, o) :: res')).length = o.extra.length + (extras res').length :=
        List.length_append
      obtain ⟨s₁, hs₁⟩ := hready.runs.runPkt_of_room hident (hready.slots 0 p rfl)
        (by rw [hbytes]; exact hstep) (by omega)
      obtain ⟨o', hstep', ha⟩ := hready.runs.runPkt_eq_ok hident (hready.slots 0 p rfl) hs₁
      rw [hbytes] at hstep'
      obtain ⟨hc, rfl⟩ := Prod.mk.inj (Option.some.inj (hstep.symm.trans hstep'))
      have hnum : s₁.pktsBA.numBufs = s.pktsBA.numBufs + o.extra.length := by
        unfold BufArray.numBufs
        rw [ha.pkts]
        simp
      have hconns := ha.conns_eq
      rw [hbytes, ← hc] at hconns
      obtain ⟨s', hs'⟩ := ih (k + 1) (hready.step ha) (by rw [hconns]; exact hrest)
        (by rw [hnum, ha.capacity]; omega)
      refine ⟨s', ?_⟩
      rw [List.length_cons, List.range'_succ]
      exact foldlM_cons_eq_ok.mpr ⟨s₁, hs₁, hs'⟩

end Setup

/-! ### What the caller reads back -/

/-- The caller is told to send the packet. -/
def Sys.sent {W : Type} (s : Sys K P D W) (p : P) : Prop :=
  ∃ l, s.pktsBA.getSendBufs = some l ∧ p ∈ l

/-- The caller is told to free the packet. -/
def Sys.freed {W : Type} (s : Sys K P D W) (p : P) : Prop :=
  ∃ l, s.pktsBA.getFreeBufs = some l ∧ p ∈ l

omit [DecidableEq K] [DecidableEq P] in
/-- A packet of the batch is sent if its answer says so, and freed if not. -/
theorem Setup.Batch.decision {u : Setup K P D B} {ps : List P} {res : List (P × Out B)}
    {s s' : Sys K P D (Heap P B)} (hb : u.Batch 0 res s s') (hps : res.map Prod.fst = ps)
    (hpkts : s.pktsBA.pkts = ps) (hapart : ∀ p ∈ ps, ∀ n, s.w.given ≤ n → u.supply n ≠ p)
    {p : P} (hp : p ∈ ps) :
    (s'.sent p ↔ ∃ o, (p, o) ∈ res ∧ o.free = false) ∧
      (s'.freed p ↔ ∃ o, (p, o) ∈ res ∧ o.free = true) := by
  let keep : Nat → Bool := fun i => (res[i]?.map fun r => !r.2.free).getD false
  have hlen : ps.length = res.length := by rw [← hps, List.length_map]
  have hmarks : ∀ i, i < ps.length → s'.pktsBA.sends i = keep i := by
    intro i hi
    have hget := List.getElem?_eq_getElem (hlen ▸ hi : i < res.length)
    have hm := hb.marks i _ hget
    rw [Nat.zero_add] at hm
    rw [hm]
    show _ = (res[i]?.map fun r => !r.2.free).getD false
    rw [hget]
    rfl
  have hfresh : ∀ i, ps.length ≤ i → s'.pktsBA.sends i = decide (i < s'.pktsBA.numBufs) := by
    intro i hi
    refine hb.fresh i ?_
    unfold BufArray.numBufs
    rwa [hpkts]
  obtain ⟨hsend, hfree⟩ := BufArray.result (hpkts ▸ hb.pkts) hmarks hfresh
  -- the packets at the positions a test of the marks selects
  have hsel : ∀ f : Bool → Bool, p ∈ BufArray.select (fun i => f (keep i)) ps ↔
      ∃ o, (p, o) ∈ res ∧ f (!o.free) = true := by
    intro f
    rw [BufArray.mem_select]
    constructor
    · rintro ⟨i, hi, hk⟩
      rw [← hps, List.getElem?_map, Option.map_eq_some_iff] at hi
      obtain ⟨⟨q, o⟩, hr, rfl⟩ := hi
      refine ⟨o, List.mem_of_getElem? hr, ?_⟩
      rw [show keep i = !o.free by show (res[i]?.map _).getD _ = _; rw [hr]; rfl] at hk
      exact hk
    · rintro ⟨o, hr, hf⟩
      obtain ⟨i, hi⟩ := List.getElem?_of_mem hr
      refine ⟨i, by rw [← hps, List.getElem?_map, hi]; rfl, ?_⟩
      rw [show keep i = !o.free by show (res[i]?.map _).getD _ = _; rw [hi]; rfl]
      exact hf
  have hext : p ∉ (List.range' s.w.given (extras res).length).map u.supply := by
    intro hmem
    obtain ⟨n, hn, hc⟩ := List.mem_map.mp hmem
    exact hapart p hp n (List.mem_range'_1.mp hn).1 hc
  constructor
  · have h := hsel id
    simp only [id_eq, Bool.not_eq_true'] at h
    rw [← h]
    constructor
    · rintro ⟨l, hl, hmem⟩
      obtain rfl := Option.some.inj (hsend.symm.trans hl)
      exact (List.mem_append.mp hmem).resolve_right hext
    · exact fun hmem => ⟨_, hsend, List.mem_append_left _ hmem⟩
  · have h := hsel not
    simp only [Bool.not_not] at h
    rw [← h]
    constructor
    · rintro ⟨l, hl, hmem⟩
      obtain rfl := Option.some.inj (hfree.symm.trans hl)
      exact hmem
    · exact fun hmem => ⟨_, hfree, hmem⟩

/-! ### Two orders -/

/-- Two batches of the packets `ps` ended alike. -/
structure Same (ps : List P) (s t : Sys K P D (Heap P B)) : Prop where
  table : s.sm.stateTable = t.sm.stateTable
  connPool : s.connPool = t.connPool
  bytes : ∀ p ∈ ps, s.w.mem p = t.w.mem p
  sent : ∀ p ∈ ps, s.sent p ↔ t.sent p
  freed : ∀ p ∈ ps, s.freed p ↔ t.freed p
  /-- what the packets hold that were asked for -/
  extra : ((s.pktsBA.pkts.drop ps.length).map s.w.mem).Perm
    ((t.pktsBA.pkts.drop ps.length).map t.w.mem)

/-- Two batches both stop the program, or both end alike. -/
def Alike (ps : List P) :
    Except Fault (Sys K P D (Heap P B)) → Except Fault (Sys K P D (Heap P B)) → Prop
  | .ok s, .ok t => Same ps s t
  | .error _, .error _ => True
  | _, _ => False

/-- Two lists of the same packets that agree on the order of each connection's. -/
structure Reordered (u : Setup K P D B) (mem : P → B) (ps ps' : List P) : Prop where
  perm : ps.Perm ps'
  order : ∀ id, ps.filter (fun p => u.ident (mem p) = some id)
    = ps'.filter (fun p => u.ident (mem p) = some id)

omit [DecidableEq P] in
theorem Reordered.symm {u : Setup K P D B} {mem : P → B} {ps ps' : List P}
    (h : Reordered u mem ps ps') : Reordered u mem ps' ps :=
  ⟨h.perm.symm, fun id => (h.order id).symm⟩

variable [Inhabited D] {env : Env K P (Heap P B)}

omit [DecidableEq P] in
/-- What a batch answers, by the fold, in another order. -/
theorem Reordered.run {u : Setup K P D B} {mem : P → B} {ps ps' : List P}
    (h : Reordered u mem ps ps') {σ σ' : Option K → Conn D} {res : List (P × Out B)}
    (hrun : Keyed.run (u.key mem) (u.stepOf mem) ps σ = some (σ', res)) :
    ∃ res', Keyed.run (u.key mem) (u.stepOf mem) ps' σ = some (σ', res') ∧ res.Perm res' := by
  refine Keyed.run_reorder (fun k => ?_) hrun
  cases k with
  | some id => exact Or.inl (h.order id)
  | none =>
      refine Or.inr ⟨h.perm.filter _, fun p => ⟨mem p, true, []⟩, fun c p hp => ?_⟩
      show u.step c (mem p) = _
      unfold Setup.step
      rw [show u.ident (mem p) = none from hp]

/-- The supply never returns a packet of the batch, nor one twice. -/
structure Setup.Supplies (u : Setup K P D B) (ps : List P) (n : Nat) : Prop where
  apart : ∀ p ∈ ps, ∀ m, n ≤ m → u.supply m ≠ p
  fresh : Heap.Fresh u.supply n

section Batches

variable {u : Setup K P D B} {fuel : Nat} {s : Sys K P D (Heap P B)} {ps ps' : List P}
  {ba ba' : BufArray P}

omit [DecidableEq K] [Inhabited D] in
theorem Setup.ready (hruns : u.Runs s.sm) (hpkts : s.pktsBA.pkts = ps) (hnodup : ps.Nodup)
    (hsup : u.Supplies ps s.w.given) : u.Ready s.w.mem 0 ps s := by
  refine ⟨?_, fun _ _ => rfl, hnodup, hsup.apart, hsup.fresh, hruns⟩
  intro i p hp
  unfold BufArray.get
  rw [Nat.zero_add, hpkts, hp]

/-- A batch is the fold, on the packets it is handed. -/
theorem Setup.Runs.runPktBatch_eq (hident : ∀ q w, env.identify q w = u.ident (w.mem q))
    (hruns : u.Runs s.sm) (hdue : s.NoneDue env) (hfuel : s.sm.timeoutsQ.length < fuel)
    (hba : BufArray.new ps = some ba) (hnodup : ps.Nodup) (hsup : u.Supplies ps s.w.given) :
    (∀ t, runPktBatch env fuel { s with pktsBA := ba } = .ok t →
      ∃ res, Keyed.run (u.key s.w.mem) (u.stepOf s.w.mem) ps s.conns = some (t.conns, res) ∧
        ∃ s₀, s₀.w = s.w ∧ s₀.pktsBA = ba ∧ u.Batch 0 res s₀ t) ∧
    ∀ σ res, Keyed.run (u.key s.w.mem) (u.stepOf s.w.mem) ps s.conns = some (σ, res) →
      ba.numBufs + (extras res).length ≤ BufArray.capacity ba.numSlots →
      ∃ t, runPktBatch env fuel { s with pktsBA := ba } = .ok t := by
  obtain ⟨-, -, hpkts, -⟩ := BufArray.new_eq_some hba
  obtain ⟨q, n, hrun⟩ := runPktBatch_idle (s := { s with pktsBA := ba }) hba hdue hfuel
  let s₀ : Sys K P D (Heap P B) :=
    { s with sm := { s.sm with timeoutsQ := q }, ticks := n, pktsBA := ba }
  have hconns : s₀.conns = s.conns := by
    funext k
    cases k <;> rfl
  have hready : u.Ready s.w.mem 0 ps s₀ :=
    Setup.ready (s := s₀) ⟨hruns.functions, hruns.startStateID, hruns.endStateID,
      hruns.startStateFun, hruns.listenToConnections, hruns.getPktCB⟩ hpkts hnodup hsup
  rw [hrun, ← hconns]
  constructor
  · intro t ht
    obtain ⟨res, hres, hb⟩ := hready.run_eq_ok hident ps 0 ht
    exact ⟨res, hres, s₀, rfl, rfl, hb⟩
  · intro σ res hres hroom
    exact hready.run_of_room hident ps 0 hres hroom

/-- If a batch ends, it ends alike in another order. -/
theorem Reordered.runPktBatch_ok (hident : ∀ q w, env.identify q w = u.ident (w.mem q))
    (hruns : u.Runs s.sm) (hdue : s.NoneDue env) (hfuel : s.sm.timeoutsQ.length < fuel)
    (hba : BufArray.new ps = some ba) (hba' : BufArray.new ps' = some ba') (hnodup : ps.Nodup)
    (hsup : u.Supplies ps s.w.given) (hre : Reordered u s.w.mem ps ps')
    {t : Sys K P D (Heap P B)} (h : runPktBatch env fuel { s with pktsBA := ba } = .ok t) :
    ∃ t', runPktBatch env fuel { s with pktsBA := ba' } = .ok t' ∧ Same ps t t' := by
  obtain ⟨-, -, hpkts, hmask⟩ := BufArray.new_eq_some hba
  obtain ⟨-, -, hpkts', hmask'⟩ := BufArray.new_eq_some hba'
  have hlen := hre.perm.length_eq
  have hnodup' : ps'.Nodup := hre.perm.nodup_iff.mp hnodup
  have hsup' : u.Supplies ps' s.w.given :=
    ⟨fun p hp => hsup.apart p (hre.perm.mem_iff.mpr hp), hsup.fresh⟩
  obtain ⟨hto, -⟩ := hruns.runPktBatch_eq hident hdue hfuel hba hnodup hsup
  obtain ⟨hto', hroom'⟩ := hruns.runPktBatch_eq hident hdue hfuel hba' hnodup' hsup'
  obtain ⟨res, hres, s₀, hw, hs₀, hb⟩ := hto t h
  obtain ⟨res', hres', hperm⟩ := hre.run hres
  have hexts : (extras res).Perm (extras res') := hperm.flatMap_right _
  -- the array has room for what is added in the other order, as it is as much
  have hnum : ba'.numBufs = ba.numBufs := by
    unfold BufArray.numBufs
    rw [hpkts, hpkts', hlen]
  have hslots : ba'.numSlots = ba.numSlots := by
    unfold BufArray.numSlots
    rw [hmask, hmask', hlen]
  have hroom : ba.numBufs + (extras res).length ≤ BufArray.capacity ba.numSlots := by
    have hcap := hb.capacity
    have hle := t.pktsBA.fits.trans (BufArray.le_capacity t.pktsBA.numSlots)
    rw [hcap, hb.pkts, hs₀] at hle
    simpa [BufArray.numBufs] using hle
  obtain ⟨t', ht'⟩ := hroom' _ _ hres' (by rw [hnum, hslots, ← hexts.length_eq]; exact hroom)
  obtain ⟨res'', hres'', s₀', hw', hs₀', hb'⟩ := hto' t' ht'
  obtain ⟨hσ, rfl⟩ := Prod.mk.inj (Option.some.inj (hres''.symm.trans hres'))
  have hps : res.map Prod.fst = ps := Keyed.run_fst hres
  have hps' : res''.map Prod.fst = ps' := Keyed.run_fst hres'
  refine ⟨t', ht', ?_, ?_, ?_, ?_, ?_, ?_⟩
  · exact Finmap.ext_lookup fun id => (congrArg Prod.fst (congrFun hσ (some id))).symm
  · exact Finmap.ext_lookup fun id => (congrArg Prod.snd (congrFun hσ (some id))).symm
  · intro p hp
    rw [← hps] at hp
    obtain ⟨r, hr, rfl⟩ := List.mem_map.mp hp
    rw [hb.own r hr, hb'.own r (hperm.mem_iff.mp hr)]
  · intro p hp
    rw [(hb.decision hps (by rw [hs₀, hpkts]) (by rw [hw]; exact hsup.apart) hp).1,
      (hb'.decision hps' (by rw [hs₀', hpkts']) (by rw [hw']; exact hsup'.apart)
        (hre.perm.mem_iff.mp hp)).1]
    simp only [hperm.mem_iff]
  · intro p hp
    rw [(hb.decision hps (by rw [hs₀, hpkts]) (by rw [hw]; exact hsup.apart) hp).2,
      (hb'.decision hps' (by rw [hs₀', hpkts']) (by rw [hw']; exact hsup'.apart)
        (hre.perm.mem_iff.mp hp)).2]
    simp only [hperm.mem_iff]
  · rw [hb.pkts, hb'.pkts, hs₀, hs₀', hpkts, hpkts', List.drop_left, hlen, List.drop_left,
      List.map_map, List.map_map]
    exact (hb.extra ▸ hb'.extra ▸ hexts : _)

/--
**Connections are isolated from each other.**

For every machine whose functions and factory depend on their own connection only,
with no timeout due, and every two batches of the same packets that agree on the
order of each connection's: either both stop the program, or both leave the same
table and the same pool, the same bytes in each packet of the batch, which is sent
or freed in both, and the same packets of `getPkt`, up to their order.
-/
theorem runPktBatch_isolated (env : Env K P (Heap P B)) (u : Setup K P D B) {fuel : Nat}
    {s : Sys K P D (Heap P B)} {ps ps' : List P} {ba ba' : BufArray P}
    (hident : ∀ q w, env.identify q w = u.ident (w.mem q))
    (hruns : u.Runs s.sm) (hdue : s.NoneDue env) (hfuel : s.sm.timeoutsQ.length < fuel)
    (hba : BufArray.new ps = some ba) (hba' : BufArray.new ps' = some ba') (hnodup : ps.Nodup)
    (hsup : u.Supplies ps s.w.given) (hre : Reordered u s.w.mem ps ps') :
    Alike ps (runPktBatch env fuel { s with pktsBA := ba })
      (runPktBatch env fuel { s with pktsBA := ba' }) := by
  cases h : runPktBatch env fuel { s with pktsBA := ba } with
  | ok t =>
      obtain ⟨t', ht', hsame⟩ :=
        hre.runPktBatch_ok hident hruns hdue hfuel hba hba' hnodup hsup h
      rw [ht']
      exact hsame
  | error e =>
      cases h' : runPktBatch env fuel { s with pktsBA := ba' } with
      | error e' => trivial
      | ok t' =>
          have hsup' : u.Supplies ps' s.w.given :=
            ⟨fun p hp => hsup.apart p (hre.perm.mem_iff.mpr hp), hsup.fresh⟩
          obtain ⟨t, ht, -⟩ := hre.symm.runPktBatch_ok hident hruns hdue hfuel hba' hba
            (hre.perm.nodup_iff.mp hnodup) hsup' h'
          rw [h] at ht
          simp at ht

end Batches

/-! ### The hypotheses can be met -/

/-- A server that answers twice: the first packet of a connection is stamped and sent along with
a copy, the second one is freed and ends the connection.  Packet 9 belongs to nobody. -/
def twice : Setup Bool Nat Nat Nat where
  handlers := [
    some fun st b => ⟨st.stateData + 1, some 1, b + 10, [b], false⟩,
    some fun st b => ⟨st.stateData + 1, some 2, b, [], true⟩]
  small := by decide
  startStateID := 0
  endStateID := 2
  factory := some fun id => if id then 50 else 60
  listenToConnections := true
  registered := true
  supply := fun n => 100 + n
  ident := fun b => if b = 9 then none else some (b % 2 = 0)

def twiceEnv : Env Bool Nat (Heap Nat Nat) where
  identify := fun p w => twice.ident (w.mem p)
  clock := fun n => (n : Int)
  topRule := Timeout.firstRule
  ndebug := false

def twiceSys : Sys Bool Nat Nat (Heap Nat Nat) where
  sm := { StateMachine.new with
    functions := twice.handlers.map (Option.map Handler.code)
    startStateID := twice.startStateID
    startStateFun := twice.factory.map fun f id w => some (f id, w)
    endStateID := twice.endStateID
    getPktCB := some (Heap.take twice.supply)
    listenToConnections := true }
  connPool := ∅
  pktsBA := (BufArray.new [0]).get rfl
  w := { mem := id, given := 0 }
  ticks := 0
  log := []

/-- Three packets of connection `false`, one of the other and one of nobody. -/
theorem runPktBatch_isolated_twice :
    Alike [1, 2, 3, 9, 5]
      (runPktBatch twiceEnv 1 { twiceSys with pktsBA := (BufArray.new [1, 2, 3, 9, 5]).get rfl })
      (runPktBatch twiceEnv 1
        { twiceSys with pktsBA := (BufArray.new [9, 1, 3, 5, 2]).get rfl }) := by
  have hba' : BufArray.new [9, 1, 3, 5, 2] = some ((BufArray.new [9, 1, 3, 5, 2]).get rfl) := rfl
  refine runPktBatch_isolated twiceEnv twice (fun _ _ => rfl)
    ⟨rfl, rfl, rfl, rfl, rfl, rfl⟩ ?_ (by decide) rfl hba' (by decide) ⟨?_, ?_⟩ ⟨by decide, ?_⟩
  · intro t ht
    exact absurd ht List.not_mem_nil
  · intro p hp m _ hc
    have hsmall : p ≤ 9 := by
      simp only [List.mem_cons, List.not_mem_nil, or_false] at hp
      omega
    have hc' : 100 + m = p := hc
    omega
  · intro i j _ _ hij
    have hij' : 100 + i = 100 + j := hij
    omega
  · decide

/-- The connection is created, ended by its second packet and created again. -/
example : (runPktBatch twiceEnv 1
    { twiceSys with pktsBA := (BufArray.new [1, 2, 3, 9, 5]).get rfl }).toOption.bind
      (fun s => s.pktsBA.getSendBufs) = some [1, 2, 5, 100, 101, 102] := by rfl

end MoonState
