/-
One inversion lemma for each step of the framework.

Each lemma says everything a successful call did, so that an invariant is proved
from it by a short case analysis and never by unfolding the call again.  The
lookup of `findState` is the one with content: whatever the loop does, at most one
entry moves or appears, it is the entry of the ID asked for, and the second lookup
finds it.
-/
import MoonState.Proofs.Exec

namespace MoonState

variable {K P D W : Type}

/-! ### Calling a function -/

theorem StateMachine.dispatch_eq_ok {sm : StateMachine K P D W} {n : StateID}
    {f : StateFun P D W} (h : sm.dispatch n = .ok f) : sm.functions[n.toNat]? = some (some f) := by
  unfold dispatch at h
  split at h
  · split at h
    · rename_i g hg
      obtain rfl := Except.ok.inj h
      exact hg
    · simp at h
  · simp at h

theorem StateMachine.dispatch_error {sm : StateMachine K P D W} {n : StateID} {e : Fault}
    (h : sm.dispatch n = .error e) : e = .noFunction := by
  unfold dispatch at h
  split at h
  · split at h
    · simp at h
    · exact (Except.error.inj h).symm
  · exact (Except.error.inj h).symm

theorem StateMachine.mem_of_dispatch {sm : StateMachine K P D W} {n : StateID}
    {f : StateFun P D W} (h : sm.dispatch n = .ok f) : some f ∈ sm.functions :=
  List.mem_of_getElem? (dispatch_eq_ok h)

/-- Calling a function: the function registered for the state runs on the packet of the
slot. -/
theorem callFun_eq_ok {env : Env K P W} {a a' : Activation K P D W}
    (h : callFun env a = .ok a') :
    ∃ f p, a.sys.sm.dispatch a.state.state = .ok f ∧
      a.sys.pktsBA.get a.iface.pktIdx = .ok p ∧
      exec env (f a.state p) { a with sys := a.sys.emit (.call a.iface.cID a.state) } = .ok a' := by
  unfold callFun at h
  obtain ⟨f, hf, h⟩ := bind_eq_ok.mp h
  obtain ⟨p, hp, h⟩ := bind_eq_ok.mp h
  exact ⟨f, p, hf, hp, h⟩

theorem callFun_of_ok {env : Env K P W} {a : Activation K P D W} {f : StateFun P D W} {p : P}
    (hf : a.sys.sm.dispatch a.state.state = .ok f) (hp : a.sys.pktsBA.get a.iface.pktIdx = .ok p) :
    callFun env a
      = exec env (f a.state p) { a with sys := a.sys.emit (.call a.iface.cID a.state) } := by
  unfold callFun
  rw [hf]
  show (a.sys.pktsBA.get a.iface.pktIdx >>= _) = _
  rw [hp]
  rfl

theorem Ran.call (a : Activation K P D W) :
    Ran a { a with sys := a.sys.emit (.call a.iface.cID a.state) } [.call a.iface.cID a.state] where
  log := rfl
  own := by simp [Event.Own]
  pkts := by simp [got, Event.got, Sys.emit]
  sends := (Ran.refl a).sends
  capacity := rfl
  pktIdx := rfl
  cID := rfl
  sendPkt := by simp [dropped, Event.drops]
  sm := rfl
  connPool := rfl
  armed := fun _ _ h => Or.inl h
  unarmed := fun _ => rfl

theorem callFun_ran {env : Env K P W} {a a' : Activation K P D W}
    (h : callFun env a = .ok a') : ∃ new, Ran a a' (.call a.iface.cID a.state :: new) := by
  obtain ⟨f, p, -, -, hexec⟩ := callFun_eq_ok h
  obtain ⟨new, hnew⟩ := exec_ran hexec
  exact ⟨new, (Ran.call a).trans hnew⟩

/-! ### The destructor -/

theorem Activation.mark_eq_ok {env : Env K P W} {a a' : Activation K P D W}
    (h : a.mark env = .ok a') :
    ∃ ba, a.sys.pktsBA.mark env.ndebug a.iface.pktIdx a.iface.sendPkt = .ok ba ∧
      a' = { a with sys := { a.sys with pktsBA := ba } } := by
  unfold mark at h
  split at h
  · rename_i ba hba
    obtain rfl := Except.ok.inj h
    exact ⟨ba, hba, rfl⟩
  · simp at h

variable [DecidableEq K]

/-- Without an immediate transition the destructor only marks the packet. -/
theorem Activation.destroy_of_not_immediate {env : Env K P W} {home : Home}
    {a : Activation K P D W} (h : a.iface.immediateTransition = false) :
    a.destroy env home = a.mark env := by
  unfold destroy
  cases hm : a.mark env with
  | error e => rfl
  | ok a' =>
      obtain ⟨ba, -, rfl⟩ := mark_eq_ok hm
      show (if a.iface.immediateTransition = false then _ else _) = _
      rw [if_pos h]

/-- Everything the destructor can do. -/
theorem Activation.destroy_eq_ok {env : Env K P W} {home : Home} {a a' : Activation K P D W}
    (h : a.destroy env home = .ok a') :
    ∃ ba, a.sys.pktsBA.mark env.ndebug a.iface.pktIdx a.iface.sendPkt = .ok ba ∧
      ((a.iface.immediateTransition = false ∧ a' = { a with sys := { a.sys with pktsBA := ba } }) ∨
        (a.iface.immediateTransition = true ∧ home ≠ .erased ∧
          ∃ b s, callFun env { a with sys := { a.sys with pktsBA := ba } } = .ok b ∧
            s = (if home = .table then b.commit else b.sys) ∧
            a' = { b with
              sys := if b.state.state = s.sm.endStateID then s.removeState b.iface.cID
                else s })) := by
  unfold destroy at h
  obtain ⟨b, hb, h⟩ := bind_eq_ok.mp h
  obtain ⟨ba, hba, rfl⟩ := mark_eq_ok hb
  refine ⟨ba, hba, ?_⟩
  dsimp only at h
  split at h
  · rename_i himm
    exact Or.inl ⟨himm, (Except.ok.inj h).symm⟩
  · rename_i himm
    split at h
    · simp at h
    · rename_i herased
      obtain ⟨c, hc, h⟩ := bind_eq_ok.mp h
      exact Or.inr ⟨by simpa using himm, herased, c, _, hc, rfl, (Except.ok.inj h).symm⟩

/-! ### Looking a connection up -/

theorem Sys.lookup_claim (s : Sys K P D W) (id : K) (st : State D)
    (h : s.sm.stateTable.lookup id = none) :
    (s.claim id st).sm.stateTable.lookup id = some st := by
  show (FMap.insertNew id st s.sm.stateTable).lookup id = some st
  rw [FMap.lookup_insertNew_self, h]
  rfl

theorem Sys.lookup_accept (s : Sys K P D W) (id : K) (d : D) (w : W)
    (h : s.sm.stateTable.lookup id = none) :
    (s.accept id d w).sm.stateTable.lookup id = some (State.new s.sm.startStateID d) := by
  show (FMap.insertNew id (State.new s.sm.startStateID d) s.sm.stateTable).lookup id = _
  rw [FMap.lookup_insertNew_self, h]
  rfl

section findState

variable [Inhabited D]

/-- What the loop does, in the order it looks, with two lookups or more to spend. -/
theorem Sys.findStateLoop_eq (fuel : Nat) (id : K) (s : Sys K P D W) :
    findStateLoop (fuel + 2) id s =
      match s.sm.stateTable.lookup id with
      | some st => .ok (s, some st)
      | none =>
        match s.connPool.lookup id with
        | some st => .ok (s.claim id st, some st)
        | none =>
          if s.sm.listenToConnections then
            match s.startData id with
            | none => .error .exception
            | some (d, w) => .ok (s.accept id d w, some (State.new s.sm.startStateID d))
          else .ok (s, none) := by
  unfold findStateLoop
  cases ht : s.sm.stateTable.lookup id with
  | some st => rfl
  | none =>
      cases hp : s.connPool.lookup id with
      | some st =>
          dsimp only
          rw [findStateLoop, lookup_claim s id st ht]
      | none =>
          dsimp only
          cases hd : s.startData id with
          | none => rfl
          | some dw =>
              dsimp only
              rw [findStateLoop, lookup_accept s id dw.1 dw.2 ht]

/-- **What `findState` does**, in the order it looks. -/
theorem Sys.findState_eq (id : K) (s : Sys K P D W) :
    s.findState id =
      match s.sm.stateTable.lookup id with
      | some st => .ok (s, some st)
      | none =>
        match s.connPool.lookup id with
        | some st => .ok (s.claim id st, some st)
        | none =>
          if s.sm.listenToConnections then
            match s.startData id with
            | none => .error .exception
            | some (d, w) => .ok (s.accept id d w, some (State.new s.sm.startStateID d))
          else .ok (s, none) :=
  findStateLoop_eq 0 id s

/-- The outcomes of `findState`, each with what it changed. -/
theorem Sys.findState_cases {id : K} {s s' : Sys K P D W} {o : Option (State D)}
    (h : s.findState id = .ok (s', o)) :
    (∃ st, s.sm.stateTable.lookup id = some st ∧ s' = s ∧ o = some st) ∨
    (∃ st, s.sm.stateTable.lookup id = none ∧ s.connPool.lookup id = some st ∧
      s' = s.claim id st ∧ o = some st) ∨
    (∃ d w, s.sm.stateTable.lookup id = none ∧ s.connPool.lookup id = none ∧
      s.sm.listenToConnections = true ∧ s.startData id = some (d, w) ∧
      s' = s.accept id d w ∧ o = some (State.new s.sm.startStateID d)) ∨
    (s.sm.stateTable.lookup id = none ∧ s.connPool.lookup id = none ∧
      s.sm.listenToConnections = false ∧ s' = s ∧ o = none) := by
  rw [findState_eq] at h
  cases ht : s.sm.stateTable.lookup id with
  | some st =>
      rw [ht] at h
      simp only [Except.ok.injEq, Prod.mk.injEq] at h
      exact Or.inl ⟨st, rfl, h.1.symm, h.2.symm⟩
  | none =>
      rw [ht] at h
      cases hp : s.connPool.lookup id with
      | some st =>
          rw [hp] at h
          simp only [Except.ok.injEq, Prod.mk.injEq] at h
          exact Or.inr (Or.inl ⟨st, rfl, rfl, h.1.symm, h.2.symm⟩)
      | none =>
          rw [hp] at h
          dsimp only at h
          split at h
          · rename_i hl
            split at h
            · simp at h
            · rename_i d w hd
              simp only [Except.ok.injEq, Prod.mk.injEq] at h
              exact Or.inr (Or.inr (Or.inl ⟨d, w, rfl, rfl, hl, hd, h.1.symm, h.2.symm⟩))
          · rename_i hl
            simp only [Except.ok.injEq, Prod.mk.injEq] at h
            exact Or.inr (Or.inr (Or.inr ⟨rfl, rfl, by simpa using hl, h.1.symm, h.2.symm⟩))

/-- Where `findState` returns nothing, there was nothing, and it did nothing. -/
theorem Sys.findState_none {id : K} {s s' : Sys K P D W} (h : s.findState id = .ok (s', none)) :
    s.sm.stateTable.lookup id = none ∧ s.connPool.lookup id = none ∧ s' = s := by
  rcases findState_cases h with ⟨_, -, -, ho⟩ | ⟨_, -, -, -, ho⟩ | ⟨_, _, -, -, -, -, -, ho⟩ |
    ⟨ht, hpool, -, hs, -⟩
  · simp at ho
  · simp at ho
  · simp at ho
  · exact ⟨ht, hpool, hs⟩

/-- The only way `findState` fails. -/
theorem Sys.findState_error {id : K} {s : Sys K P D W} {e : Fault}
    (h : s.findState id = .error e) : e = .exception := by
  rw [findState_eq] at h
  split at h
  · simp at h
  · split at h
    · simp at h
    · split at h
      · split at h
        · exact (Except.error.inj h).symm
        · simp at h
      · simp at h

/-- What `findState` returns is in the table afterwards. -/
theorem Sys.findState_lookup {id : K} {s s' : Sys K P D W} {st : State D}
    (h : s.findState id = .ok (s', some st)) : s'.sm.stateTable.lookup id = some st := by
  rcases findState_cases h with ⟨_, ht, rfl, ho⟩ | ⟨_, ht, -, rfl, ho⟩ |
    ⟨d, w, ht, -, -, -, rfl, ho⟩ | ⟨-, -, -, -, ho⟩
  · rw [Option.some.inj ho, ht]
  · rw [Option.some.inj ho]
    exact lookup_claim s id _ ht
  · rw [Option.some.inj ho]
    exact lookup_accept s id d w ht
  · simp at ho

/-- What `findState` leaves alone: the batch, the timeouts, the registered functions, and every
other connection. -/
structure Sys.Found (id : K) (s s' : Sys K P D W) : Prop where
  pktsBA : s'.pktsBA = s.pktsBA
  sm : s'.sm = { s.sm with
    stateTable := s'.sm.stateTable
    stat_statesAdded := s'.sm.stat_statesAdded }
  log : s'.log = s.log ∨ s'.log = s.log ++ [.create id]
  table : ∀ k, k ≠ id → s'.sm.stateTable.lookup k = s.sm.stateTable.lookup k
  connPool : ∀ k, k ≠ id → s'.connPool.lookup k = s.connPool.lookup k

theorem Sys.findState_found {id : K} {s s' : Sys K P D W} {o : Option (State D)}
    (h : s.findState id = .ok (s', o)) : Sys.Found id s s' := by
  rcases findState_cases h with ⟨st, -, rfl, -⟩ | ⟨st, -, -, rfl, -⟩ |
    ⟨d, w, -, -, -, -, rfl, -⟩ | ⟨-, -, -, rfl, -⟩
  · exact ⟨rfl, rfl, Or.inl rfl, fun _ _ => rfl, fun _ _ => rfl⟩
  · exact ⟨rfl, rfl, Or.inl rfl, fun k hk => FMap.lookup_insertNew_ne _ _ hk,
      fun k hk => Finmap.lookup_erase_ne hk⟩
  · exact ⟨rfl, rfl, Or.inr rfl, fun k hk => FMap.lookup_insertNew_ne _ _ hk, fun _ _ => rfl⟩
  · exact ⟨rfl, rfl, Or.inl rfl, fun _ _ => rfl, fun _ _ => rfl⟩

end findState

/-! ### One packet -/

omit [DecidableEq K] in
theorem Sys.markDropPkt_eq_ok {env : Env K P W} {s s' : Sys K P D W} {idx : Nat}
    (h : s.markDropPkt env idx = .ok s') :
    ∃ ba, s.pktsBA.mark env.ndebug idx false = .ok ba ∧ s' = { s with pktsBA := ba } := by
  unfold markDropPkt at h
  split at h
  · rename_i ba hba
    exact ⟨ba, hba, (Except.ok.inj h).symm⟩
  · simp at h

/-- The `State` a function is called on: its remembered timeout is cancelled. -/
def State.woken (st : State D) : State D := { st with timeoutID := timeoutIDInvalid }

theorem State.woken_eq (st : State D) (h : st.timeoutID = timeoutIDInvalid) : st.woken = st := by
  unfold woken
  rw [← h]

/-- The activation the state function of a packet starts in. -/
def startPkt (cur : Nat) (identity : K) (st : State D) (s : Sys K P D W) : Activation K P D W :=
  { sys := s.cancelTimeout st
    state := { st with timeoutID := timeoutIDInvalid }
    iface := FunIface.new cur identity }

/-- The system with the connection taken out because its function ended it. -/
def closeState (identity : K) (s : Sys K P D W) : Sys K P D W :=
  { s.removeState identity with
    sm := { (s.removeState identity).sm with stat_statesClosed := s.sm.stat_statesClosed + 1 } }

/-- Taking a connection out is logged if it was there. -/
theorem Sys.removeState_log (s : Sys K P D W) (id : K) :
    ∃ fin, (s.removeState id).log = s.log ++ fin ∧ (fin = [] ∨ fin = [.removed id]) := by
  by_cases h : id ∈ s.sm.stateTable
  · exact ⟨_, if_pos h, Or.inr rfl⟩
  · exact ⟨[], (if_neg h).trans (List.append_nil _).symm, Or.inl rfl⟩

/-- What a function worked on is there. -/
theorem Activation.removeState_commit_log (a : Activation K P D W) :
    (a.commit.removeState a.iface.cID).log = a.sys.log ++ [.removed a.iface.cID] :=
  if_pos (Finmap.mem_insert.mpr (Or.inl rfl))

/-- A packet of a known connection: its function runs, an ended connection is closed, and the
destructor follows. -/
theorem runState_eq_ok {env : Env K P W} {cur : Nat} {identity : K} {st : State D}
    {s s' : Sys K P D W} (h : runState env cur identity st s = .ok s') :
    ∃ a b, callFun env (startPkt cur identity st s) = .ok a ∧ s' = b.sys ∧
      ((a.state.state = a.sys.sm.endStateID ∧
          ({ a with sys := closeState identity a.commit } : Activation K P D W).destroy env .erased
            = .ok b) ∨
        (a.state.state ≠ a.sys.sm.endStateID ∧
          ({ a with sys := a.commit } : Activation K P D W).destroy env .table = .ok b)) := by
  unfold runState at h
  obtain ⟨a, ha, h⟩ := bind_eq_ok.mp h
  refine ⟨a, ?_⟩
  dsimp only at h
  split at h
  · rename_i hend
    obtain ⟨b, hb, h⟩ := bind_eq_ok.mp h
    exact ⟨b, ha, (Except.ok.inj h).symm, Or.inl ⟨hend, hb⟩⟩
  · rename_i hend
    obtain ⟨b, hb, h⟩ := bind_eq_ok.mp h
    exact ⟨b, ha, (Except.ok.inj h).symm, Or.inr ⟨hend, hb⟩⟩

/-- All registered functions keep within the powers. -/
def StateMachine.Within (pw : Powers) (sm : StateMachine K P D W) : Prop :=
  ∀ f, some f ∈ sm.functions → ∀ st p, (f st p).Within pw

omit [DecidableEq K] in
/-- It is said of the functions alone. -/
theorem StateMachine.Within.congr {pw : Powers} {sm sm' : StateMachine K P D W}
    (hw : sm.Within pw) (h : sm'.functions = sm.functions) : sm'.Within pw := by
  intro f hf
  rw [h] at hf
  exact hw f hf

theorem Sys.Found.within {pw : Powers} {s s' : Sys K P D W} {id : K} (h : Sys.Found id s s')
    (hw : s.sm.Within pw) : s'.sm.Within pw := by
  refine hw.congr ?_
  rw [h.sm]

omit [DecidableEq K] in
theorem StateMachine.Within.callFun_immediate {env : Env K P W} {pw : Powers}
    {a a' : Activation K P D W} (hw : a.sys.sm.Within pw) (hpw : ¬ pw.now)
    (h : callFun env a = .ok a') :
    a'.iface.immediateTransition = a.iface.immediateTransition := by
  obtain ⟨f, p, hf, -, hexec⟩ := callFun_eq_ok h
  have himm := exec_immediate hpw (hw f (mem_of_dispatch hf) _ _) hexec
  exact himm

omit [DecidableEq K] in
theorem Sys.cancelTimeout_pktsBA (s : Sys K P D W) (st : State D) :
    (s.cancelTimeout st).pktsBA = s.pktsBA := by
  unfold cancelTimeout
  split <;> rfl

omit [DecidableEq K] in
theorem Sys.cancelTimeout_log (s : Sys K P D W) (st : State D) :
    (s.cancelTimeout st).log = s.log := by
  unfold cancelTimeout
  split <;> rfl

omit [DecidableEq K] in
@[simp] theorem Sys.cancelTimeout_functions (s : Sys K P D W) (st : State D) :
    (s.cancelTimeout st).sm.functions = s.sm.functions := by
  unfold cancelTimeout
  split <;> rfl

/-- A packet of a known connection where no function transitions immediately: after the
function only the packet is marked. -/
theorem runState_calm {env : Env K P W} {pw : Powers} {cur : Nat} {identity : K} {st : State D}
    {s s' : Sys K P D W} (hw : s.sm.Within pw) (hpw : ¬ pw.now)
    (h : runState env cur identity st s = .ok s') :
    ∃ a ba, callFun env (startPkt cur identity st s) = .ok a ∧
      a.sys.pktsBA.mark env.ndebug a.iface.pktIdx a.iface.sendPkt = .ok ba ∧
      s' = { (if a.state.state = a.sys.sm.endStateID then closeState identity a.commit
        else a.commit) with pktsBA := ba } := by
  obtain ⟨a, b, ha, rfl, hb⟩ := runState_eq_ok h
  have hw' : (startPkt cur identity st s).sys.sm.Within pw :=
    hw.congr (Sys.cancelTimeout_functions s st)
  have himm : a.iface.immediateTransition = false := hw'.callFun_immediate hpw ha
  rcases hb with ⟨hend, hb⟩ | ⟨hend, hb⟩
  · rw [Activation.destroy_of_not_immediate (by exact himm)] at hb
    obtain ⟨ba, hba, rfl⟩ := Activation.mark_eq_ok hb
    exact ⟨a, ba, ha, hba, by rw [if_pos hend]⟩
  · rw [Activation.destroy_of_not_immediate (by exact himm)] at hb
    obtain ⟨ba, hba, rfl⟩ := Activation.mark_eq_ok hb
    exact ⟨a, ba, ha, hba, by rw [if_neg hend]⟩

/-- Everything `runPkt` can do. -/
theorem runPkt_eq_ok [Inhabited D] {env : Env K P W} {cur : Nat} {s s' : Sys K P D W}
    (h : runPkt env cur s = .ok s') :
    ∃ pktIn, s.pktsBA.get cur = .ok pktIn ∧
      ((env.identify pktIn s.w = none ∧
          ((s.emit (.run cur)).emit (.unidentified cur)).markDropPkt env cur = .ok s') ∨
        (∃ identity s₁, env.identify pktIn s.w = some identity ∧
          (s.emit (.run cur)).findState identity = .ok (s₁, none) ∧
          (s₁.emit (.discarded cur identity)).markDropPkt env cur = .ok s') ∨
        (∃ identity s₁ st, env.identify pktIn s.w = some identity ∧
          (s.emit (.run cur)).findState identity = .ok (s₁, some st) ∧
          runState env cur identity st s₁ = .ok s')) := by
  unfold runPkt at h
  obtain ⟨pktIn, hp, h⟩ := bind_eq_ok.mp h
  refine ⟨pktIn, hp, ?_⟩
  dsimp only [Sys.emit] at h
  split at h
  · rename_i hid
    exact Or.inl ⟨hid, h⟩
  · rename_i identity hid
    obtain ⟨⟨s₁, o⟩, hf, h⟩ := bind_eq_ok.mp h
    cases o with
    | none => exact Or.inr (Or.inl ⟨identity, s₁, hid, hf, h⟩)
    | some st => exact Or.inr (Or.inr ⟨identity, s₁, st, hid, hf, h⟩)

/-- A packet that is not identified is dropped. -/
theorem runPkt_of_unidentified [Inhabited D] {env : Env K P W} {cur : Nat} {s : Sys K P D W}
    {pkt : P} (hpkt : s.pktsBA.get cur = .ok pkt) (hid : env.identify pkt s.w = none) :
    runPkt env cur s = ((s.emit (.run cur)).emit (.unidentified cur)).markDropPkt env cur := by
  unfold runPkt
  dsimp only [Sys.emit]
  rw [hpkt]
  dsimp only [Bind.bind, Except.bind]
  generalize env.identify pkt s.w = found at hid ⊢
  subst hid
  rfl

/-- A packet that is identified: its connection is looked up, and served or dropped. -/
theorem runPkt_of_identified [Inhabited D] {env : Env K P W} {cur : Nat} {s : Sys K P D W}
    {pkt : P} {identity : K} (hpkt : s.pktsBA.get cur = .ok pkt)
    (hid : env.identify pkt s.w = some identity) :
    runPkt env cur s = ((s.emit (.run cur)).findState identity >>= fun r =>
      match r with
      | (s, none) => (s.emit (.discarded cur identity)).markDropPkt env cur
      | (s, some st) => runState env cur identity st s) := by
  unfold runPkt
  dsimp only [Sys.emit]
  rw [hpkt]
  dsimp only [Bind.bind, Except.bind]
  generalize env.identify pkt s.w = found at hid ⊢
  subst hid
  rfl

/-! ### Opening a connection -/

theorem addState_eq_ok {env : Env K P W} {id : K} {st st' : State D} {s s' : Sys K P D W}
    (h : addState env id st s = .ok (s', st')) :
    ∃ a b, callFun env { sys := s, state := st, iface := FunIface.new 0 id } = .ok a ∧
      ({ a with sys := if a.state.state = a.sys.sm.endStateID then a.sys
          else a.sys.poolAdd id a.state } : Activation K P D W).destroy env .param = .ok b ∧
      s' = b.sys ∧ st' = b.state := by
  unfold addState at h
  obtain ⟨a, ha, h⟩ := bind_eq_ok.mp h
  dsimp only at h
  obtain ⟨b, hb, h⟩ := bind_eq_ok.mp h
  simp only [pure, Except.pure, Except.ok.injEq, Prod.mk.injEq] at h
  exact ⟨a, b, ha, hb, h.1.symm, h.2.symm⟩

/-! ### One timeout -/

/-- The activation the function of a timeout starts in. -/
def startTimeout (t : Timeout) (id : K) (st : State D) (s : Sys K P D W) : Activation K P D W :=
  { sys := s.emit (.fire t id)
    state := { st with timeoutID := timeoutIDInvalid }
    iface := FunIface.new noPktIdx id }

/-- The queue entry and the function of a timeout that has fired are taken out. -/
def dropTimeout (env : Env K P W) (t : Timeout) (s : Sys K P D W) : Sys K P D W :=
  { s with sm := { s.sm with
    timeoutsQ := env.topRule.pop s.sm.timeoutsQ
    timeoutFunctions := s.sm.timeoutFunctions.erase t.timeoutID } }

/-- Everything a timeout that fires can do. -/
theorem fireTimeout_eq_ok [Inhabited D] {env : Env K P W} {t : Timeout}
    {td : TimeoutData K P D W} {s s' : Sys K P D W} (h : fireTimeout env t td s = .ok s') :
    ∃ s₁ st a b, s.findState td.id = .ok (s₁, some st) ∧
      exec env (td.func (startTimeout t td.id st s₁).state) (startTimeout t td.id st s₁) = .ok a ∧
      s' = b.sys ∧
      ((a.state.state = a.sys.sm.endStateID ∧
          ({ a with sys := dropTimeout env t (a.commit.removeState td.id) } :
            Activation K P D W).destroy env .erased = .ok b) ∨
        (a.state.state ≠ a.sys.sm.endStateID ∧
          ({ a with sys := dropTimeout env t a.commit } : Activation K P D W).destroy env .table
            = .ok b)) := by
  unfold fireTimeout at h
  obtain ⟨⟨s₁, o⟩, hf, h⟩ := bind_eq_ok.mp h
  cases o with
  | none => simp at h
  | some st =>
      obtain ⟨a, ha, h⟩ := bind_eq_ok.mp h
      dsimp only at h
      obtain ⟨b, hb, h⟩ := bind_eq_ok.mp h
      refine ⟨s₁, st, a, b, hf, ha, (Except.ok.inj h).symm, ?_⟩
      by_cases hend : a.state.state = a.sys.sm.endStateID
      · have hend' : a.state.state = a.commit.sm.endStateID := hend
        rw [if_pos hend', if_pos hend'] at hb
        exact Or.inl ⟨hend, hb⟩
      · have hend' : ¬ a.state.state = a.commit.sm.endStateID := hend
        rw [if_neg hend', if_neg hend'] at hb
        exact Or.inr ⟨hend, hb⟩

omit [DecidableEq K] in
/-- There is no packet for a function to run on in the slot of a timeout. -/
theorem callFun_noPkt {env : Env K P W} {a a' : Activation K P D W}
    (hidx : a.iface.pktIdx = noPktIdx) : callFun env a ≠ .ok a' := by
  intro h
  obtain ⟨-, p, -, hp, -⟩ := callFun_eq_ok h
  have hlt : noPktIdx < a.sys.pktsBA.numBufs := by
    rw [← hidx]
    exact (List.getElem?_eq_some_iff.mp (BufArray.get_eq_ok hp)).1
  have hwide := a.sys.pktsBA.numBufs_lt
  unfold noPktIdx at hlt
  omega

/-- The system a timeout leaves behind: its function ran, an ended connection is taken out, and
the top of the queue is popped. -/
def endTimeout (env : Env K P W) (t : Timeout) (id : K) (a : Activation K P D W) : Sys K P D W :=
  dropTimeout env t (if a.state.state = a.sys.sm.endStateID then a.commit.removeState id
    else a.commit)

/-- A timeout that fires without stopping the program has not transitioned immediately: there
is no packet to run a state function on. -/
theorem fireTimeout_calm [Inhabited D] {env : Env K P W} {t : Timeout}
    {td : TimeoutData K P D W} {s s' : Sys K P D W} (h : fireTimeout env t td s = .ok s') :
    ∃ s₁ st a ba new, s.findState td.id = .ok (s₁, some st) ∧
      exec env (td.func (startTimeout t td.id st s₁).state) (startTimeout t td.id st s₁) = .ok a ∧
      Ran (startTimeout t td.id st s₁) a new ∧
      s' = { endTimeout env t td.id a with pktsBA := ba } := by
  obtain ⟨s₁, st, a, b, hf, ha, rfl, hb⟩ := fireTimeout_eq_ok h
  obtain ⟨new, hnew⟩ := exec_ran ha
  have hidx : a.iface.pktIdx = noPktIdx := hnew.pktIdx
  have hcalm : ∀ {x : Sys K P D W} {home : Home},
      ({ a with sys := x } : Activation K P D W).destroy env home = .ok b →
      ∃ ba, b.sys = { x with pktsBA := ba } := by
    intro x home hd
    obtain ⟨ba, -, ⟨-, rfl⟩ | ⟨-, -, c, -, hc, -⟩⟩ := Activation.destroy_eq_ok hd
    · exact ⟨ba, rfl⟩
    · exact absurd hc (callFun_noPkt hidx)
  refine ⟨s₁, st, a, ?_⟩
  rcases hb with ⟨hend, hb⟩ | ⟨hend, hb⟩
  · obtain ⟨ba, hba⟩ := hcalm hb
    refine ⟨ba, new, hf, ha, hnew, ?_⟩
    rw [hba, endTimeout, if_pos hend]
  · obtain ⟨ba, hba⟩ := hcalm hb
    refine ⟨ba, new, hf, ha, hnew, ?_⟩
    rw [hba, endTimeout, if_neg hend]

/-! ### How a timeout fails -/

/-- A fault of a function or of the destructor: no lookup and no loop is involved. -/
def Fault.Local (e : Fault) : Prop := e ≠ .outOfFuel ∧ e ≠ .noState

omit [DecidableEq K] in
theorem exec_local {env : Env K P W} {c : Code P D W} {a : Activation K P D W} {e : Fault}
    (h : exec env c a = .error e) : e.Local := by
  rcases exec_error c.within_all h with rfl | rfl | ⟨-, rfl⟩ <;> exact ⟨by simp, by simp⟩

omit [DecidableEq K] in
theorem callFun_local {env : Env K P W} {a : Activation K P D W} {e : Fault}
    (h : callFun env a = .error e) : e.Local := by
  unfold callFun at h
  rcases bind_eq_error.mp h with h | ⟨f, -, h⟩
  · rw [StateMachine.dispatch_error h]
    exact ⟨by simp, by simp⟩
  · rcases bind_eq_error.mp h with h | ⟨p, -, h⟩
    · unfold BufArray.get at h
      split at h
      · simp at h
      · rw [← Except.error.inj h]
        exact ⟨by simp, by simp⟩
    · exact exec_local h

omit [DecidableEq K] in
theorem Activation.mark_local {env : Env K P W} {a : Activation K P D W} {e : Fault}
    (h : a.mark env = .error e) : e.Local := by
  unfold mark BufArray.mark at h
  split at h
  · simp at h
  · rename_i e' he
    obtain rfl := Except.error.inj h
    split at he
    · simp at he
    · split at he
      · simp at he
      · rw [← Except.error.inj he]
        exact ⟨by simp, by simp⟩

theorem Activation.destroy_local {env : Env K P W} {home : Home} {a : Activation K P D W}
    {e : Fault} (h : a.destroy env home = .error e) : e.Local := by
  unfold destroy at h
  rcases bind_eq_error.mp h with h | ⟨b, -, h⟩
  · exact mark_local h
  · split at h
    · simp at h
    · split at h
      · rw [← Except.error.inj h]
        exact ⟨by simp, by simp⟩
      · rcases bind_eq_error.mp h with h | ⟨c, -, h⟩
        · exact callFun_local h
        · simp at h

/-- A timeout never runs out of fuel, and the assertion on its connection fails only where the
lookup of it does. -/
theorem fireTimeout_error [Inhabited D] {env : Env K P W} {t : Timeout}
    {td : TimeoutData K P D W} {s : Sys K P D W} {e : Fault}
    (h : fireTimeout env t td s = .error e) :
    e ≠ .outOfFuel ∧ (e = .noState → ∃ s₁, s.findState td.id = .ok (s₁, none)) := by
  unfold fireTimeout at h
  rcases bind_eq_error.mp h with h | ⟨⟨s₁, o⟩, hf, h⟩
  · rw [Sys.findState_error h]
    exact ⟨by simp, by simp⟩
  · cases o with
    | none =>
        rw [← Except.error.inj h]
        exact ⟨by simp, fun _ => ⟨s₁, hf⟩⟩
    | some st =>
        have hlocal : e.Local := by
          rcases bind_eq_error.mp h with h | ⟨a, -, h⟩
          · exact exec_local h
          · rcases bind_eq_error.mp h with h | ⟨b, -, h⟩
            · exact Activation.destroy_local h
            · simp [pure, Except.pure] at h
        exact ⟨hlocal.1, fun hc => absurd hc hlocal.2⟩

/-! ### The loop over the batch -/

/-- A fold over a list of slots, one slot at a time. -/
theorem foldlM_cons_eq_ok {α β : Type} {f : β → α → Except Fault β} {x : α} {l : List α} {b c : β} :
    (x :: l).foldlM f b = .ok c ↔ ∃ b', f b x = .ok b' ∧ l.foldlM f b' = .ok c := by
  rw [List.foldlM_cons]
  exact bind_eq_ok

/-- The last pass of a loop. -/
theorem foldlM_range_succ_eq_ok {β : Type} {f : β → Nat → Except Fault β} {n : Nat} {b c : β} :
    (List.range (n + 1)).foldlM f b = .ok c ↔
      ∃ b', (List.range n).foldlM f b = .ok b' ∧ f b' n = .ok c := by
  rw [List.range_succ, List.foldlM_append, bind_eq_ok]
  constructor
  · intro ⟨b', hb', h⟩
    obtain ⟨c', hc', h⟩ := foldlM_cons_eq_ok.mp h
    obtain rfl := Except.ok.inj h
    exact ⟨b', hb', hc'⟩
  · exact fun ⟨b', hb', h⟩ => ⟨b', hb', foldlM_cons_eq_ok.mpr ⟨c, h, rfl⟩⟩

/-- `s'` is what a packet of the batch finds when its turn comes. -/
def Sys.Turn [Inhabited D] (env : Env K P W) (fuel : Nat) (s : Sys K P D W) (cur : Nat)
    (s' : Sys K P D W) : Prop :=
  cur < s.pktsBA.getTotalCount ∧ ∃ s₀, timeoutLoop env fuel s = .ok s₀ ∧
    (List.range cur).foldlM (fun s i => runPkt env i s) s₀ = .ok s'

end MoonState
