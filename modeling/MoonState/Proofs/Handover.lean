/-
A connection is handed over exactly once.

`connPool` is how a connection opened on one core gets to the core its packets
arrive at.  The first instance that sees a packet of it moves the `State` from the
pool to its own table; from then on the others do not know the connection.

A place is the pool or one of the tables.  A call leaves a connection somewhere if it
opens it and does not end it at once, and serves it if it is a packet of it that gets
to its `State`; what the function makes of the `State` is its play.  `Call.Affects` is
what the places come to in each case, and where a connection is after a run is read off
the calls of the run.
-/
import MoonState.Lib.Steps
import MoonState.Lib.Trace
import MoonState.Model.System
import MoonState.Proofs.Frame
import MoonState.Proofs.Played

namespace MoonState

variable {ι K P D W : Type}

/-! ### One call on one machine -/

section machine

variable [DecidableEq K] {env : Env K P W} {pw : Powers}

/-- The machine has the `State` of the connection, or the pool has it. -/
def Sys.Knows (s : Sys K P D W) (id : K) (st : State D) : Prop :=
  (s.sm.stateTable.lookup id = some st ∧ s.connPool.lookup id = none) ∨
    (s.sm.stateTable.lookup id = none ∧ s.connPool.lookup id = some st)

/-- The lookup of what is known leaves it in the table. -/
theorem Sys.Knows.findState [Inhabited D] {s : Sys K P D W} {id : K} {st : State D}
    {e : Event K D P} (h : s.Knows id st) : ∃ s₁, (s.emit e).findState id = .ok (s₁, some st) ∧
      s₁.connPool.lookup id = none ∧ s₁.w = s.w := by
  rw [Sys.findState_eq]
  rcases h with ⟨ht, hp⟩ | ⟨ht, hp⟩
  · rw [show (s.emit e).sm.stateTable.lookup id = some st from ht]
    exact ⟨_, rfl, hp, rfl⟩
  · rw [show (s.emit e).sm.stateTable.lookup id = none from ht,
      show (s.emit e).connPool.lookup id = some st from hp]
    exact ⟨_, rfl, Finmap.lookup_erase _ _, rfl⟩

/-- The table after the function of a connection: it has what the function made of the `State`,
unless that is the end. -/
theorem Activation.lookup_commit (a : Activation K P D W) {id : K} (hid : a.iface.cID = id)
    (ba : BufArray P) :
    ({ (if a.state.state = a.sys.sm.endStateID then closeState id a.commit else a.commit) with
        pktsBA := ba } : Sys K P D W).sm.stateTable.lookup id
      = if a.state.state = a.sys.sm.endStateID then none else some a.state := by
  dsimp only
  split
  · exact Finmap.lookup_erase _ _
  · show (a.sys.sm.stateTable.insert a.iface.cID a.state).lookup id = _
    rw [hid, Finmap.lookup_insert]

/-- **A packet of a connection that is known**, for functions that do not transition immediately:
the function is called on its `State`, and afterwards it is in the table, or ended. -/
theorem runPkt_serves [Inhabited D] {cur : Nat} {s s' : Sys K P D W} {pkt : P} {id : K}
    {st : State D} (hw : s.sm.Within pw) (hnow : ¬ pw.now) (hpkt : s.pktsBA.get cur = .ok pkt)
    (hid : env.identify pkt s.w = some id) (hknows : s.Knows id st)
    (h : runPkt env cur s = .ok s') :
    s'.connPool.lookup id = none ∧ ∃ r, s.sm.played st.woken pkt s.w = some r ∧
      s'.sm.stateTable.lookup id
        = if r.state.state = s.sm.endStateID then none else some r.state := by
  obtain ⟨s₁, hf, hpool, hworld⟩ := hknows.findState (e := .run cur)
  rw [runPkt_of_identified hpkt hid, hf] at h
  have hfound := Sys.findState_found hf
  have hw₁ : s₁.sm.Within pw := hfound.within hw
  obtain ⟨a, ba, ha, -, rfl⟩ := runState_calm hw₁ hnow h
  obtain ⟨new, hran⟩ := callFun_ran ha
  obtain ⟨pkt', r, hpkt', hr, hplays, -⟩ := callFun_plays ha
  have hcID : a.iface.cID = id := hran.cID
  have hend : a.sys.sm.endStateID = s.sm.endStateID := by
    rw [hran.sm]
    show (s₁.cancelTimeout st).sm.endStateID = _
    unfold Sys.cancelTimeout
    split <;> rw [hfound.sm] <;> rfl
  have hget : (startPkt cur id st s₁).sys.pktsBA.get cur = .ok pkt := by
    show (s₁.cancelTimeout st).pktsBA.get cur = _
    rw [Sys.cancelTimeout_pktsBA, hfound.pktsBA]
    exact hpkt
  obtain rfl := Except.ok.inj (hget.symm.trans hpkt')
  obtain ⟨hsame, hstart⟩ := startPkt_played cur id st s₁ pkt s.w
  refine ⟨?_, r, ?_, ?_⟩
  · have hpool' : a.sys.connPool = s₁.connPool := by
      rw [hran.connPool]
      show (s₁.cancelTimeout st).connPool = _
      unfold Sys.cancelTimeout
      split <;> rfl
    show (if a.state.state = a.sys.sm.endStateID then closeState id a.commit
      else a.commit).connPool.lookup id = none
    split
    · exact (congrArg (Finmap.lookup id) hpool').trans hpool
    · exact (congrArg (Finmap.lookup id) hpool').trans hpool
  · rw [hstart, hworld] at hr
    exact (hfound.played st.woken pkt s.w).symm.trans (hsame.symm.trans hr)
  · rw [a.lookup_commit hcID, hend, hplays.state]

/-- Opening a connection, for functions that do not transition immediately: unless its function ends
it at once, it is put in the pool. -/
theorem addState_calm {id : K} {st st' : State D} {s s' : Sys K P D W}
    (hw : s.sm.Within pw) (hnow : ¬ pw.now) (h : addState env id st s = .ok (s', st')) :
    s'.sm.stateTable = s.sm.stateTable ∧ ∃ pkt r, s.pktsBA.get 0 = .ok pkt ∧
      s.sm.played st pkt s.w = some r ∧
      s'.connPool = if r.state.state = s.sm.endStateID then s.connPool
        else FMap.insertNew id r.state s.connPool := by
  obtain ⟨a, b, ha, hb, rfl, rfl⟩ := addState_eq_ok h
  obtain ⟨new, hnew⟩ := callFun_ran ha
  obtain ⟨pkt, r, hpkt, hr, hplays, -⟩ := callFun_plays ha
  have himm : a.iface.immediateTransition = false :=
    StateMachine.Within.callFun_immediate (by exact hw) hnow ha
  rw [Activation.destroy_of_not_immediate (by exact himm)] at hb
  obtain ⟨ba, -, rfl⟩ := Activation.mark_eq_ok hb
  have hend : a.sys.sm.endStateID = s.sm.endStateID := by rw [hnew.sm]
  have htable : a.sys.sm.stateTable = s.sm.stateTable := by rw [hnew.sm]
  have hpool : a.sys.connPool = s.connPool := hnew.connPool
  refine ⟨?_, pkt, r, hpkt, hr, ?_⟩
  · dsimp only
    split <;> exact htable
  · dsimp only
    rw [← hplays.state, ← hend]
    split
    · exact hpool
    · exact congrArg (FMap.insertNew id a.state) hpool

end machine

/-! ### Places -/

variable [DecidableEq K] [DecidableEq ι] {S S' : System ι K P D W} {env : Env K P W} {id : K}

namespace System

/-- No place holds the ID. -/
def Untracked (S : System ι K P D W) (id : K) : Prop := ∀ p, S.atPlace p id = none

/-- At most one place does. -/
def Unique (S : System ι K P D W) (id : K) : Prop :=
  ∀ p q, (S.atPlace p id).isSome → (S.atPlace q id).isSome → p = q

/-- This one does. -/
def Only (S : System ι K P D W) (id : K) (p : Option ι) (st : State D) : Prop :=
  S.atPlace p id = some st ∧ ∀ q, q ≠ p → S.atPlace q id = none

/-- No instance listens, and no function transitions immediately. -/
def Calm (S : System ι K P D W) : Prop :=
  ∀ i, (S.sms i).listenToConnections = false ∧ (S.sms i).Within ⟨True, False, True⟩

omit [DecidableEq ι] in
theorem Untracked.unique (h : S.Untracked id) : S.Unique id := by
  intro p q hp
  rw [h p] at hp
  simp at hp

omit [DecidableEq ι] in
theorem Only.unique {p : Option ι} {st : State D} (h : S.Only id p st) : S.Unique id := by
  have hat : ∀ q, (S.atPlace q id).isSome → q = p := by
    intro q hq
    by_contra hne
    rw [h.2 q hne] at hq
    simp at hq
  exact fun q q' hq hq' => (hat q hq).trans (hat q' hq').symm

omit [DecidableEq ι] in
theorem Unique.only (h : S.Unique id) {p : Option ι} {st : State D}
    (hp : S.atPlace p id = some st) : S.Only id p st := by
  refine ⟨hp, fun q hq => ?_⟩
  by_contra hc
  exact hq (h q p (Option.isSome_iff_ne_none.mpr hc) (by rw [hp]; rfl))

/-- A call on an instance that leaves the pool without the connection, and nothing else had it. -/
theorem only_update {i : ι} {s' : Sys K P D W} {st : State D}
    (hothers : ∀ j, j ≠ i → S.atPlace (some j) id = none) (hpool : s'.connPool.lookup id = none)
    (htable : s'.sm.stateTable.lookup id = some st) : (S.update i s').Only id (some i) st := by
  refine ⟨(atPlace_update_self id).trans htable, fun q hq => ?_⟩
  cases q with
  | none => exact hpool
  | some j =>
      have hj : j ≠ i := fun hc => hq (by rw [hc])
      rw [atPlace_update_other hj, hothers j hj]

theorem untracked_update {i : ι} {s' : Sys K P D W}
    (hothers : ∀ j, j ≠ i → S.atPlace (some j) id = none) (hpool : s'.connPool.lookup id = none)
    (htable : s'.sm.stateTable.lookup id = none) : (S.update i s').Untracked id := by
  intro q
  cases q with
  | none => exact hpool
  | some j =>
      by_cases hj : j = i
      · rw [hj, atPlace_update_self, htable]
      · rw [atPlace_update_other hj, hothers j hj]

/-- A call that leaves the connection alone on its own instance leaves it alone. -/
theorem same_update {i : ι} {s' : Sys K P D W}
    (hpool : s'.connPool.lookup id = S.connPool.lookup id)
    (htable : s'.sm.stateTable.lookup id = (S.sms i).stateTable.lookup id) :
    ∀ p, (S.update i s').atPlace p id = S.atPlace p id := by
  intro p
  cases p with
  | none => exact hpool
  | some j =>
      by_cases hj : j = i
      · rw [hj, atPlace_update_self, htable]
        rfl
      · exact atPlace_update_other hj id

omit [DecidableEq ι] in
/-- What is at the instance or in the pool, the instance knows. -/
theorem Unique.knows (h : S.Unique id) {i : ι} {ba : BufArray P} {p : Option ι} {st : State D}
    (hp : p = some i ∨ p = none) (hst : S.atPlace p id = some st) : (S.view i ba).Knows id st := by
  have honly := h.only hst
  rcases hp with rfl | rfl
  · exact Or.inl ⟨hst, honly.2 none (by simp)⟩
  · exact Or.inr ⟨honly.2 (some i) (by simp), hst⟩

omit [DecidableEq K] in
theorem Calm.update {i : ι} (ba : BufArray P) {s' : Sys K P D W} (h : S.Calm)
    (hfunctions : s'.sm.functions = (S.view i ba).sm.functions)
    (hlisten : s'.sm.listenToConnections = (S.view i ba).sm.listenToConnections) :
    (S.update i s').Calm := by
  intro j
  show ((Function.update S.sms i s'.sm) j).listenToConnections = false ∧
    ((Function.update S.sms i s'.sm) j).Within _
  by_cases hj : j = i
  · subst hj
    rw [Function.update_self]
    refine ⟨hlisten.trans (h j).1, fun f hf => (h j).2 f ?_⟩
    rw [hfunctions] at hf
    exact hf
  · rw [Function.update_of_ne hj]
    exact h j

end System

/-! ### What a call does to a connection -/

namespace Call

/-- A call opens only connections that no place holds. -/
def Fresh (S : System ι K P D W) (c : Call ι K P D) : Prop :=
  ∀ id, c.opens = some id → S.Untracked id

/-- The call opens the connection and leaves it with this `State`, which is not the end. -/
def Leaves (S : System ι K P D W) (id : K) (st : State D) : Call ι K P D → Prop
  | .packet .. => False
  | .addState i id' st₀ ba => id' = id ∧ st.state ≠ (S.sms i).endStateID ∧
      ∃ pkt r, ba.get 0 = .ok pkt ∧ (S.sms i).played st₀ pkt S.w = some r ∧ r.state = st
  | .addStateNoFun i id' st₀ _ => id' = id ∧ st.state ≠ (S.sms i).endStateID ∧ st₀ = st

/-- The call is a packet of the connection that gets to its `State`, in the table of the instance
or in the pool; the function makes this of it. -/
def Serves (env : Env K P W) (S : System ι K P D W) (id : K) (i : ι) (st : State D) :
    Call ι K P D → Prop
  | .packet j ba cur => j = i ∧ ∃ pkt p st₀ r, ba.get cur = .ok pkt ∧
      env.identify pkt S.w = some id ∧ (p = some i ∨ p = none) ∧ S.atPlace p id = some st₀ ∧
      (S.sms i).played st₀.woken pkt S.w = some r ∧ r.state = st
  | .addState .. => False
  | .addStateNoFun .. => False

/-- The call serves the connection, and its function ends it. -/
def Ends (env : Env K P W) (S : System ι K P D W) (id : K) (c : Call ι K P D) : Prop :=
  ∃ i st, c.Serves env S id i st ∧ st.state = (S.sms i).endStateID

/-- What the places of a connection come to. -/
inductive Affects (env : Env K P W) (S : System ι K P D W) (id : K) (c : Call ι K P D)
    (S' : System ι K P D W) : Prop
  | opened (st : State D) (h : c.Leaves S id st) (hplace : S'.Only id none st)
  | served (i : ι) (st : State D) (h : c.Serves env S id i st)
      (hend : st.state ≠ (S.sms i).endStateID) (hplace : S'.Only id (some i) st)
  | ended (i : ι) (st : State D) (h : c.Serves env S id i st)
      (hend : st.state = (S.sms i).endStateID) (hplace : S'.Untracked id)
  | untouched (hleaves : ∀ st, ¬ c.Leaves S id st) (hserves : ∀ i st, ¬ c.Serves env S id i st)
      (hplace : ∀ p, S'.atPlace p id = S.atPlace p id)

variable {c : Call ι K P D}

omit [DecidableEq K] [DecidableEq ι] in
theorem Leaves.eq {st st' : State D} (h : c.Leaves S id st) (h' : c.Leaves S id st') :
    st = st' := by
  cases c with
  | packet i ba cur => exact h.elim
  | addState i k st₀ ba =>
      obtain ⟨-, -, pkt, r, hpkt, hr, rfl⟩ := h
      obtain ⟨-, -, pkt', r', hpkt', hr', rfl⟩ := h'
      obtain rfl := Except.ok.inj (hpkt.symm.trans hpkt')
      rw [Option.some.inj (hr.symm.trans hr')]
  | addStateNoFun i k st₀ ba => exact h.2.2.symm.trans h'.2.2

omit [DecidableEq ι] in
theorem Serves.eq (hunique : S.Unique id) {i j : ι} {st st' : State D} (h : c.Serves env S id i st)
    (h' : c.Serves env S id j st') : i = j ∧ st = st' := by
  cases c with
  | addState i k st₀ ba => exact h.elim
  | addStateNoFun i k st₀ ba => exact h.elim
  | packet k ba cur =>
      obtain ⟨rfl, pkt, p, st₀, r, hpkt, -, -, hst, hr, rfl⟩ := h
      obtain ⟨rfl, pkt', p', st₁, r', hpkt', -, -, hst', hr', rfl⟩ := h'
      obtain rfl := Except.ok.inj (hpkt.symm.trans hpkt')
      obtain rfl := hunique p p' (by rw [hst]; rfl) (by rw [hst']; rfl)
      obtain rfl := Option.some.inj (hst.symm.trans hst')
      exact ⟨rfl, by rw [Option.some.inj (hr.symm.trans hr')]⟩

omit [DecidableEq ι] in
theorem Leaves.not_serves {st st' : State D} {i : ι} (h : c.Leaves S id st) :
    ¬ c.Serves env S id i st' := by
  cases c with
  | packet i ba cur => exact h.elim
  | addState i k st₀ ba => exact fun hs => hs
  | addStateNoFun i k st₀ ba => exact fun hs => hs

omit [DecidableEq K] [DecidableEq ι] in
theorem Leaves.opens {st : State D} (h : c.Leaves S id st) : c.opens = some id := by
  cases c with
  | packet i ba cur => exact h.elim
  | addState i k st₀ ba => exact congrArg some h.1
  | addStateNoFun i k st₀ ba => exact congrArg some h.1

end Call

/-- A connection that was nowhere is put in the pool. -/
theorem System.Untracked.opened {i : ι} {s' : Sys K P D W} {st : State D} (h : S.Untracked id)
    (htable : s'.sm.stateTable = (S.sms i).stateTable)
    (hpool : s'.connPool = FMap.insertNew id st S.connPool) : (S.update i s').Only id none st := by
  have hnone : S.connPool.lookup id = none := h none
  constructor
  · show s'.connPool.lookup id = some st
    rw [hpool, FMap.lookup_insertNew_self, hnone]
    rfl
  · intro q hq
    cases q with
    | none => exact absurd rfl hq
    | some j =>
        by_cases hj : j = i
        · rw [hj, atPlace_update_self, htable]
          exact h (some i)
        · rw [atPlace_update_other hj]
          exact h (some j)

/-- Opening another connection leaves this one alone. -/
theorem Sys.Frame.same_update {i : ι} {ba : BufArray P} {k : K} {s' : Sys K P D W}
    (h : Sys.Frame k (S.view i ba) s') (hk : id ≠ k) :
    ∀ p, (S.update i s').atPlace p id = S.atPlace p id :=
  System.same_update (h.connPool id hk) (h.table id hk)

variable [Inhabited D]

omit [DecidableEq ι] in
/-- A packet of a connection that neither the machine nor the pool knows. -/
theorem runPkt_discards {s : Sys K P D W} {cur : Nat} {pkt : P}
    (hlisten : s.sm.listenToConnections = false) (hpkt : s.pktsBA.get cur = .ok pkt)
    (hid : env.identify pkt s.w = some id) (htab : s.sm.stateTable.lookup id = none)
    (hpool : s.connPool.lookup id = none) :
    ∃ ba, s.pktsBA.markDropPkt env.ndebug cur = .ok ba ∧
      runPkt env cur s = .ok { s with
        pktsBA := ba, log := s.log ++ [.run cur, .discarded cur id] } := by
  have hlt : cur < s.pktsBA.numBufs :=
    (List.getElem?_eq_some_iff.mp (BufArray.get_eq_ok hpkt)).1
  refine ⟨_, BufArray.mark_of_lt _ _ _ hlt, ?_⟩
  have hfind : (s.emit (.run cur)).findState id = .ok (s.emit (.run cur), none) := by
    rw [Sys.findState_eq]
    simp only [Sys.emit, htab, hpool, hlisten, Bool.false_eq_true, if_false]
  rw [runPkt_of_identified hpkt hid, hfind]
  show ((s.emit (.run cur)).emit (.discarded cur id)).markDropPkt env cur = _
  unfold Sys.markDropPkt
  rw [show ((s.emit (.run cur)).emit (.discarded cur id)).pktsBA.markDropPkt env.ndebug cur
    = .ok _ from BufArray.mark_of_lt _ _ _ hlt]
  simp [Sys.emit]

/-- A packet of a connection that is at the instance or in the pool. -/
theorem System.Unique.claims (hunique : S.Unique id) (hcalm : S.Calm) {i : ι} {ba : BufArray P}
    {cur : Nat} {s' : Sys K P D W} {pkt : P} {p : Option ι} {st : State D}
    (hpkt : ba.get cur = .ok pkt) (hid : env.identify pkt S.w = some id)
    (hp : p = some i ∨ p = none) (hst : S.atPlace p id = some st)
    (hrun : runPkt env cur (S.view i ba) = .ok s') :
    ∃ r, (S.sms i).played st.woken pkt S.w = some r ∧
      (r.state.state = (S.sms i).endStateID ∧ (S.update i s').Untracked id ∨
        r.state.state ≠ (S.sms i).endStateID ∧ (S.update i s').Only id (some i) r.state) := by
  obtain ⟨hpool, r, hr, htable⟩ := runPkt_serves (hcalm i).2 (fun h => h) (by exact hpkt)
    (by exact hid) (hunique.knows hp hst) hrun
  have hothers : ∀ j, j ≠ i → S.atPlace (some j) id = none := by
    intro j hj
    refine (hunique.only hst).2 (some j) ?_
    rcases hp with rfl | rfl
    · exact fun hc => hj (Option.some.inj hc)
    · simp
  refine ⟨r, hr, ?_⟩
  rw [show (S.view i ba).sm.endStateID = (S.sms i).endStateID from rfl] at htable
  by_cases hend : r.state.state = (S.sms i).endStateID
  · rw [if_pos hend] at htable
    exact Or.inl ⟨hend, untracked_update hothers hpool htable⟩
  · rw [if_neg hend] at htable
    exact Or.inr ⟨hend, only_update hothers hpool htable⟩

theorem System.Unique.serves (hunique : S.Unique id) (hcalm : S.Calm) {i : ι} {ba : BufArray P}
    {cur : Nat} {s' : Sys K P D W} {pkt : P} {p : Option ι} {st : State D}
    (hpkt : ba.get cur = .ok pkt) (hid : env.identify pkt S.w = some id)
    (hp : p = some i ∨ p = none) (hst : S.atPlace p id = some st)
    (hrun : runPkt env cur (S.view i ba) = .ok s') :
    Call.Affects env S id (.packet i ba cur) (S.update i s') := by
  obtain ⟨r, hr, hplace⟩ := hunique.claims hcalm hpkt hid hp hst hrun
  have hserves : Call.Serves env S id i r.state (.packet i ba cur) :=
    ⟨rfl, pkt, p, st, r, hpkt, hid, hp, hst, hr, rfl⟩
  rcases hplace with ⟨hend, hgone⟩ | ⟨hend, honly⟩
  · exact .ended i r.state hserves hend hgone
  · exact .served i r.state hserves hend honly

/-- A packet, for any connection. -/
theorem System.Unique.packet (hunique : S.Unique id) (hcalm : S.Calm) {i : ι} {ba : BufArray P}
    {cur : Nat} {s' : Sys K P D W} (hrun : runPkt env cur (S.view i ba) = .ok s') :
    Call.Affects env S id (.packet i ba cur) (S.update i s') := by
  obtain ⟨pkt, hpkt, -⟩ := runPkt_eq_ok hrun
  have hpkt' : ba.get cur = .ok pkt := hpkt
  by_cases hid : env.identify pkt S.w = some id
  · cases htab : S.atPlace (some i) id with
    | some st => exact hunique.serves hcalm hpkt hid (Or.inl rfl) htab hrun
    | none =>
        cases hpool : S.atPlace none id with
        | some st => exact hunique.serves hcalm hpkt hid (Or.inr rfl) hpool hrun
        | none =>
            obtain ⟨ba', -, hdrop⟩ := runPkt_discards (s := S.view i ba) (hcalm i).1 hpkt hid htab
              hpool
            obtain rfl := Except.ok.inj (hrun.symm.trans hdrop)
            refine .untouched (fun _ h => h) ?_ (same_update rfl rfl)
            rintro j st ⟨rfl, _, p, _, _, -, -, rfl | rfl, hst, -⟩
            · rw [htab] at hst
              simp at hst
            · rw [hpool] at hst
              simp at hst
  · obtain ⟨htable, hpool⟩ := runPkt_other (s := S.view i ba) hpkt hid hrun
    refine .untouched (fun _ h => h) ?_ (same_update hpool htable)
    rintro j st ⟨-, pkt', _, _, _, hget, hid', -⟩
    obtain rfl := Except.ok.inj (hpkt'.symm.trans hget)
    exact hid hid'

/-- **What every call does to every connection**, if it opens only what no place holds. -/
theorem System.Unique.call {c : Call ι K P D} (hunique : S.Unique id) (hcalm : S.Calm)
    (hfresh : c.Fresh S) (hcall : S.call env c = .ok S') : c.Affects env S id S' := by
  cases c with
  | packet i ba cur =>
      simp only [System.call] at hcall
      split at hcall
      · rename_i s' hrun
        obtain rfl := Except.ok.inj hcall
        exact hunique.packet hcalm hrun
      · simp at hcall
  | addState i k st ba =>
      simp only [System.call] at hcall
      split at hcall
      · rename_i s' st' hadd
        obtain rfl := Except.ok.inj hcall
        obtain ⟨htable, pkt, r, hpkt, hr, hpool⟩ := addState_calm (hcalm i).2 (fun h => h) hadd
        by_cases hk : id = k
        · subst hk
          by_cases hend : r.state.state = (S.sms i).endStateID
          · rw [if_pos (by exact hend)] at hpool
            refine .untouched ?_ (fun _ _ h => h)
              (same_update (congrArg (Finmap.lookup id) hpool) (congrArg (Finmap.lookup id) htable))
            rintro st₁ ⟨-, hne, pkt', r', hpkt', hr', rfl⟩
            obtain rfl := Except.ok.inj (hpkt'.symm.trans hpkt)
            rw [Option.some.inj (hr'.symm.trans hr)] at hne
            exact hne hend
          · rw [if_neg (by exact hend)] at hpool
            exact .opened r.state ⟨rfl, hend, pkt, r, hpkt, hr, rfl⟩
              ((hfresh id rfl).opened htable hpool)
        · exact .untouched (fun _ h => hk h.1.symm) (fun _ _ h => h)
            ((addState_frame hadd).same_update hk)
      · simp at hcall
  | addStateNoFun i k st ba =>
      obtain rfl := Except.ok.inj hcall
      by_cases hk : id = k
      · subst hk
        by_cases hend : st.state = (S.sms i).endStateID
        · have hsame : addStateNoFun id st (S.view i ba) = S.view i ba := if_pos hend
          rw [hsame]
          refine .untouched ?_ (fun _ _ h => h) (same_update rfl rfl)
          rintro st₁ ⟨-, hne, rfl⟩
          exact hne hend
        · have hadd : addStateNoFun id st (S.view i ba) = (S.view i ba).poolAdd id st :=
            if_neg hend
          rw [hadd]
          exact .opened st ⟨rfl, hend, rfl⟩ ((hfresh id rfl).opened rfl rfl)
      · exact .untouched (fun _ h => hk h.1.symm) (fun _ _ h => h)
          ((addStateNoFun_frame st (S.view i ba)).same_update hk)

theorem System.Calm.call {c : Call ι K P D} (h : S.Calm) (hcall : S.call env c = .ok S') :
    S'.Calm := by
  cases c with
  | packet i ba cur =>
      simp only [System.call] at hcall
      split at hcall
      · rename_i s' hrun
        obtain rfl := Except.ok.inj hcall
        obtain ⟨pkt, -, ⟨-, ba', rfl⟩ | ⟨k, -, hframe⟩⟩ := runPkt_cases hrun
        · exact h.update ba rfl rfl
        · exact h.update ba hframe.functions hframe.listenToConnections
      · simp at hcall
  | addState i k st ba =>
      simp only [System.call] at hcall
      split at hcall
      · rename_i s' st' hadd
        obtain rfl := Except.ok.inj hcall
        exact h.update ba (addState_frame hadd).functions (addState_frame hadd).listenToConnections
      · simp at hcall
  | addStateNoFun i k st ba =>
      obtain rfl := Except.ok.inj hcall
      have hframe : Sys.Frame k (S.view i ba) (addStateNoFun k st (S.view i ba)) :=
        addStateNoFun_frame st _
      exact h.update ba hframe.functions hframe.listenToConnections

/-! ### Runs -/

namespace System

omit [DecidableEq ι] [Inhabited D] in
theorem Only.exists_unique {p : Option ι} {st : State D} (h : S.Only id p st) :
    ∃! q, (S.atPlace q id).isSome := by
  have hp : (S.atPlace p id).isSome := by rw [h.1]; rfl
  exact ⟨p, hp, fun q hq => h.unique q p hq hp⟩

omit [DecidableEq ι] [Inhabited D] in
theorem Untracked.not_exists (h : S.Untracked id) : ¬ ∃! q, (S.atPlace q id).isSome := by
  rintro ⟨q, hq : (S.atPlace q id).isSome, -⟩
  rw [h q] at hq
  simp at hq

/-- Where a connection is after `n` calls, read off the calls. -/
structure Tracks (env : Env K P W) (S : Nat → System ι K P D W) (c : Nat → Call ι K P D) (id : K)
    (n : Nat) : Prop where
  /-- It is in one place at most. -/
  unique : (S n).Unique id
  /-- It is in exactly one place if it was opened, and since then no packet of it has ended it. -/
  live : (∃! p, ((S n).atPlace p id).isSome) ↔
    Trace.Standing (fun k => ∃ st, (c k).Leaves (S k) id st) (fun m => (c m).Ends env (S m) id) n
  /-- In the pool is what a call has left there, if no packet of it has got to it since. -/
  pooled : ∀ st, (S n).atPlace none id = some st ↔
    Trace.Standing (fun k => (c k).Leaves (S k) id st)
      (fun m => ∃ j st', (c m).Serves env (S m) id j st') n
  /-- In a table is what the last packet of it has made of it. -/
  tabled : ∀ i st, (S n).atPlace (some i) id = some st ↔
    Trace.Standing
      (fun k => (c k).Serves env (S k) id i st ∧ st.state ≠ ((S k).sms i).endStateID)
      (fun m => ∃ j st', (c m).Serves env (S m) id j st') n

variable {S : Nat → System ι K P D W} {c : Nat → Call ι K P D} {n : Nat}

omit [DecidableEq ι] [Inhabited D] in
theorem Tracks.start (hempty : (S 0).Untracked id) : Tracks env S c id 0 := by
  refine ⟨hempty.unique, ?_, ?_, ?_⟩
  · exact iff_of_false hempty.not_exists Trace.not_standing_zero
  · intro st
    rw [hempty none]
    exact iff_of_false (by simp) Trace.not_standing_zero
  · intro i st
    rw [hempty (some i)]
    exact iff_of_false (by simp) Trace.not_standing_zero

omit [DecidableEq ι] [Inhabited D] in
/-- What was nowhere has been put in the pool. -/
theorem Tracks.opened (h : Tracks env S c id n) {st : State D} (hno : (S n).Untracked id)
    (hleaves : (c n).Leaves (S n) id st) (honly : (S (n + 1)).Only id none st) :
    Tracks env S c id (n + 1) := by
  refine ⟨honly.unique, ?_, ?_, ?_⟩
  · exact iff_of_true honly.exists_unique (Trace.standing_of_starts ⟨st, hleaves⟩)
  · intro st'
    rw [honly.1, Option.some_inj]
    constructor
    · rintro rfl
      exact Trace.standing_of_starts hleaves
    · intro hstanding
      rcases Trace.standing_succ.mp hstanding with hnow | ⟨hbefore, -⟩
      · exact hleaves.eq hnow
      · have hst := (h.pooled st').mpr hbefore
        rw [hno none] at hst
        simp at hst
  · intro i st'
    rw [honly.2 (some i) (by simp)]
    refine iff_of_false (by simp) fun hstanding => ?_
    rcases Trace.standing_succ.mp hstanding with ⟨hnow, -⟩ | ⟨hbefore, -⟩
    · exact hleaves.not_serves hnow
    · have hst := (h.tabled i st').mpr hbefore
      rw [hno (some i)] at hst
      simp at hst

omit [DecidableEq ι] [Inhabited D] in
/-- What a packet has got to is in the pool no more. -/
theorem Tracks.not_pooled {i : ι} {st st' : State D} (hserves : (c n).Serves env (S n) id i st) :
    ¬ Trace.Standing (fun k => (c k).Leaves (S k) id st')
      (fun m => ∃ j st', (c m).Serves env (S m) id j st') (n + 1) :=
  Trace.not_standing_of_stops (fun hleaves => hleaves.not_serves hserves) ⟨i, st, hserves⟩

omit [DecidableEq ι] [Inhabited D] in
/-- What a packet finds was opened and not ended. -/
theorem Tracks.standing (h : Tracks env S c id n) {i : ι} {st : State D}
    (hserves : (c n).Serves env (S n) id i st) :
    Trace.Standing (fun k => ∃ st, (c k).Leaves (S k) id st)
      (fun m => (c m).Ends env (S m) id) n := by
  generalize c n = call at hserves
  cases call with
  | packet j ba cur =>
      obtain ⟨-, pkt, p, st₀, r, -, -, -, hst, -⟩ := hserves
      exact h.live.mp (h.unique.only hst).exists_unique
  | addState j k st₀ ba => exact hserves.elim
  | addStateNoFun j k st₀ ba => exact hserves.elim

omit [DecidableEq ι] [Inhabited D] in
/-- A packet has got to its connection, which goes on. -/
theorem Tracks.served (h : Tracks env S c id n) {i : ι} {st : State D}
    (hserves : (c n).Serves env (S n) id i st) (hend : st.state ≠ ((S n).sms i).endStateID)
    (honly : (S (n + 1)).Only id (some i) st) : Tracks env S c id (n + 1) := by
  refine ⟨honly.unique, ?_, ?_, ?_⟩
  · refine iff_of_true honly.exists_unique
      (Trace.standing_succ.mpr (Or.inr ⟨h.standing hserves, ?_⟩))
    rintro ⟨j, st', hserves', hend'⟩
    obtain ⟨rfl, rfl⟩ := hserves.eq h.unique hserves'
    exact hend hend'
  · intro st'
    rw [honly.2 none (by simp)]
    exact iff_of_false (by simp) (Tracks.not_pooled hserves)
  · intro j st'
    constructor
    · intro hst
      have hij : some i = some j := honly.unique _ _ (by rw [honly.1]; rfl) (by rw [hst]; rfl)
      obtain rfl := Option.some.inj hij
      obtain rfl := Option.some.inj (honly.1.symm.trans hst)
      exact Trace.standing_of_starts ⟨hserves, hend⟩
    · intro hstanding
      rcases Trace.standing_succ.mp hstanding with ⟨hnow, -⟩ | ⟨-, hno⟩
      · obtain ⟨rfl, rfl⟩ := hserves.eq h.unique hnow
        exact honly.1
      · exact absurd ⟨i, st, hserves⟩ hno

omit [DecidableEq ι] [Inhabited D] in
/-- A packet has got to its connection and ended it. -/
theorem Tracks.ended (h : Tracks env S c id n) {i : ι} {st : State D}
    (hserves : (c n).Serves env (S n) id i st) (hend : st.state = ((S n).sms i).endStateID)
    (hgone : (S (n + 1)).Untracked id) : Tracks env S c id (n + 1) := by
  refine ⟨hgone.unique, ?_, ?_, ?_⟩
  · refine iff_of_false hgone.not_exists (Trace.not_standing_of_stops ?_ ⟨i, st, hserves, hend⟩)
    exact fun ⟨st', hleaves⟩ => hleaves.not_serves hserves
  · intro st'
    rw [hgone none]
    exact iff_of_false (by simp) (Tracks.not_pooled hserves)
  · intro j st'
    rw [hgone (some j)]
    refine iff_of_false (by simp) (Trace.not_standing_of_stops ?_ ⟨i, st, hserves⟩)
    intro ⟨hserves', hend'⟩
    obtain ⟨rfl, rfl⟩ := hserves.eq h.unique hserves'
    exact hend' hend

omit [DecidableEq ι] [Inhabited D] in
/-- A call about another connection. -/
theorem Tracks.untouched (h : Tracks env S c id n) (hleaves : ∀ st, ¬ (c n).Leaves (S n) id st)
    (hserves : ∀ i st, ¬ (c n).Serves env (S n) id i st)
    (hplace : ∀ p, (S (n + 1)).atPlace p id = (S n).atPlace p id) :
    Tracks env S c id (n + 1) := by
  have hserves' : ¬ ∃ j st', (c n).Serves env (S n) id j st' := fun ⟨j, st, hs⟩ => hserves j st hs
  refine ⟨?_, ?_, ?_, ?_⟩
  · intro p q hp hq
    rw [hplace] at hp hq
    exact h.unique p q hp hq
  · simp only [hplace]
    refine h.live.trans (Trace.standing_iff_of_neither ?_ ?_).symm
    · exact fun ⟨st, hl⟩ => hleaves st hl
    · exact fun ⟨j, st, hs, _⟩ => hserves j st hs
  · intro st
    rw [hplace]
    exact (h.pooled st).trans (Trace.standing_iff_of_neither (hleaves st) hserves').symm
  · intro i st
    rw [hplace]
    exact (h.tabled i st).trans
      (Trace.standing_iff_of_neither (fun hs => hserves i st hs.1) hserves').symm

/-- **Every call keeps track.** -/
theorem Tracks.step (h : Tracks env S c id n) (hcalm : (S n).Calm)
    (hfresh : (c n).Fresh (S n)) (hcall : (S n).call env (c n) = .ok (S (n + 1))) :
    Tracks env S c id (n + 1) := by
  cases h.unique.call hcalm hfresh hcall with
  | opened st hleaves honly => exact h.opened (hfresh id hleaves.opens) hleaves honly
  | served i st hserves hend honly => exact h.served hserves hend honly
  | ended i st hserves hend hgone => exact h.ended hserves hend hgone
  | untouched hleaves hserves hplace => exact h.untouched hleaves hserves hplace

/-- A run of calls that open only what no place holds. -/
abbrev FreshRun (env : Env K P W) (S : Nat → System ι K P D W) (c : Nat → Call ι K P D) (n : Nat) :
    Prop :=
  Execution (fun S c S' => c.Fresh S ∧ S.call env c = .ok S') S c n

theorem FreshRun.calm (hrun : FreshRun env S c n) (hcalm : (S 0).Calm) : ∀ k ≤ n, (S k).Calm :=
  hrun.invariant hcalm fun _ _ _ h hstep => h.call hstep.2

/-- Every run keeps track of every connection. -/
theorem FreshRun.tracks (hcalm : (S 0).Calm) (hempty : ∀ id, (S 0).Untracked id) :
    ∀ {n}, FreshRun env S c n → Tracks env S c id n := by
  intro n
  induction n with
  | zero => exact fun _ => .start (hempty id)
  | succ n ih =>
      intro hrun
      have hbefore : FreshRun env S c n := hrun.of_le (Nat.le_succ n)
      obtain ⟨hfresh, hcall⟩ := hrun n (Nat.lt_succ_self n)
      exact (ih hbefore).step (hbefore.calm hcalm n (Nat.le_refl n)) hfresh hcall

/-! ### The handover -/

/-- What the handover promises for one connection, of a system after `n` calls. -/
structure HandedOver (env : Env K P W) (S : Nat → System ι K P D W) (c : Nat → Call ι K P D)
    (n : Nat) (id : K) : Prop extends Tracks env S c id n where
  /-- From the pool the instance that gets a packet of it claims the `State` as it is stored, and
  then it has what its function makes of it, and nobody else has the connection. -/
  claims : ∀ i ba cur pkt st, ba.get cur = .ok pkt → env.identify pkt (S n).w = some id →
    (S n).atPlace none id = some st →
    (∃ s₁, (((S n).view i ba).emit (.run cur)).findState id = .ok (s₁, some st) ∧
      s₁.sm.stateTable.lookup id = some st ∧ s₁.connPool.lookup id = none) ∧
    ∀ S', (S n).call env (.packet i ba cur) = .ok S' →
      ∃ r, ((S n).sms i).played st.woken pkt (S n).w = some r ∧
        (r.state.state = ((S n).sms i).endStateID ∧ S'.Untracked id ∨
          r.state.state ≠ ((S n).sms i).endStateID ∧ S'.Only id (some i) r.state)
  /-- A packet of it that gets to another instance than the one that has it, or to any after its
  end, is dropped and changes nothing. -/
  drops : ∀ i ba cur pkt, ba.get cur = .ok pkt → env.identify pkt (S n).w = some id →
    (∃ j, j ≠ i ∧ ((S n).atPlace (some j) id).isSome) ∨ (S n).Untracked id →
    ∃ ba', ba.markDropPkt env.ndebug cur = .ok ba' ∧
      runPkt env cur ((S n).view i ba) = .ok { (S n).view i ba with
        pktsBA := ba'
        log := (S n).log ++ [.run cur, .discarded cur id] }

/--
**A connection is handed over once.**

For any set of instances that do not listen, share a pool and start out empty, and
every interleaving of packets and of connections being opened that no place holds:
each connection is in at most one place; opened and not ended it is in exactly one;
the instance that gets its first packet claims the `State` as it was stored; and
packets of it that get to another instance are dropped and change nothing.
-/
theorem Run.handedOver (hcalm : (S 0).Calm) (hempty : ∀ id, (S 0).Untracked id)
    (hrun : FreshRun env S c n) (id : K) : HandedOver env S c n id := by
  have h : Tracks env S c id n := FreshRun.tracks hcalm hempty hrun
  have hcalm' : (S n).Calm := hrun.calm hcalm n (Nat.le_refl n)
  refine ⟨h, ?_, ?_⟩
  · intro i ba cur pkt st hpkt hid hst
    constructor
    · have hknows : ((S n).view i ba).Knows id st := h.unique.knows (Or.inr rfl) hst
      obtain ⟨s₁, hf, hpool, -⟩ := hknows.findState (e := .run cur)
      exact ⟨s₁, hf, Sys.findState_lookup hf, hpool⟩
    · intro S' hcall
      simp only [System.call] at hcall
      split at hcall
      · rename_i s' hpacket
        obtain rfl := Except.ok.inj hcall
        exact h.unique.claims hcalm' hpkt hid (Or.inr rfl) hst hpacket
      · simp at hcall
  · intro i ba cur pkt hpkt hid hother
    have hnone : (S n).atPlace (some i) id = none ∧ (S n).atPlace none id = none := by
      rcases hother with ⟨j, hj, hsome⟩ | hno
      · obtain ⟨st, hst⟩ := Option.isSome_iff_exists.mp hsome
        have honly := h.unique.only hst
        exact ⟨honly.2 (some i) fun hc => hj (Option.some.inj hc).symm, honly.2 none (by simp)⟩
      · exact ⟨hno _, hno _⟩
    exact runPkt_discards (s := (S n).view i ba) (hcalm' i).1 hpkt hid hnone.1 hnone.2

end System

/-! ### Two cores -/

/-- Packets are their connection's number. -/
def coreEnv : Env Nat Nat Unit where
  identify := fun p _ => some p
  clock := fun n => (n : Int)
  topRule := Timeout.firstRule
  ndebug := false

/-- Two instances with one state, whose function counts its packets. -/
def cores : System Bool Nat Nat Nat Unit where
  sms := fun _ => StateMachine.new.registerFunction 0 fun st _ => .put (st.stateData + 1) () .done
  connPool := ∅
  w := ()
  ticks := 0
  log := []

theorem cores_calm : cores.Calm := by
  intro i
  refine ⟨rfl, fun f hf st p => ?_⟩
  have hfun : (cores.sms i).functions = [some fun st _ => .put (st.stateData + 1) () .done] := rfl
  rw [hfun, List.mem_singleton, Option.some.injEq] at hf
  subst hf
  trivial

/-- Connection 7 is opened on one core, and its first packet gets to the other one. -/
def coreCalls : Nat → Call Bool Nat Nat Nat
  | 0 => .addStateNoFun false 7 (State.new 0 42) ((BufArray.new [7]).get BufArray.isSome_new_seven)
  | _ => .packet true ((BufArray.new [7]).get BufArray.isSome_new_seven) 0

/-- The system before, between and after the two calls. -/
def coreSystems (S : System Bool Nat Nat Nat Unit) : Nat → System Bool Nat Nat Nat Unit
  | 0 => cores
  | 1 => cores.update false (addStateNoFun 7 (State.new 0 42)
      (cores.view false ((BufArray.new [7]).get BufArray.isSome_new_seven)))
  | _ => S

theorem cores_untracked (id : Nat) : cores.Untracked id
  | none => rfl
  | some _ => rfl

theorem coreSystems_run {S : System Bool Nat Nat Nat Unit}
    (h : (coreSystems S 1).call coreEnv (coreCalls 1) = .ok S) :
    System.FreshRun coreEnv (coreSystems S) coreCalls 2
  | 0, _ => ⟨fun id _ => cores_untracked id, rfl⟩
  | 1, _ => ⟨fun _ hc => by simp [coreCalls, Call.opens] at hc, h⟩

theorem System.Run.handedOver_cores : ∃ S, (coreSystems S 1).call coreEnv (coreCalls 1) = .ok S ∧
    System.HandedOver coreEnv (coreSystems S) coreCalls 2 7 ∧
    S.atPlace (some true) 7 = some ⟨43, 0, timeoutIDInvalid⟩ := by
  obtain ⟨S, hS⟩ : ∃ S, (coreSystems cores 1).call coreEnv (coreCalls 1) = .ok S := ⟨_, rfl⟩
  refine ⟨S, hS, System.Run.handedOver cores_calm cores_untracked (coreSystems_run hS) 7, ?_⟩
  obtain rfl := (Except.ok.inj hS).symm
  rfl

end MoonState
