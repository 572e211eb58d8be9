/-
How long timeout IDs stay unique.

`curTimeoutID` has 32 bits, counts every call of `setTimeout`, and is never checked:
neither against `timeoutIDInvalid`, which is one of its values, nor against the
timeouts that are still valid.

`Owned` is what a `State` remembers: nothing, or an ID that was given out for its own
connection.  While there have been fewer calls than there are values, an ID is given
out once, so that ID designates a timeout of the connection or none.
-/
import MoonState.Proofs.Cancel
import MoonState.Proofs.Conservation

namespace MoonState

variable {K P D W : Type}

/-! ### What a `State` remembers -/

/-- What the `State` of a connection remembers is nothing, or was given out for it. -/
def State.Owns (log : List (Event K D P)) (id : K) (st : State D) : Prop :=
  st.timeoutID ≠ timeoutIDInvalid → .arm st.timeoutID id ∈ log

/-- Every `State` in the table and in the pool. -/
structure Sys.Owned (s : Sys K P D W) [DecidableEq K] : Prop where
  table : ∀ id st, s.sm.stateTable.lookup id = some st → st.Owns s.log id
  pool : ∀ id st, s.connPool.lookup id = some st → st.Owns s.log id

theorem State.Owns.append {log : List (Event K D P)} {id : K} {st : State D} (h : st.Owns log id)
    (new : List (Event K D P)) : st.Owns (log ++ new) id :=
  fun hvalid => List.mem_append_left _ (h hvalid)

theorem State.owns_of_invalid {log : List (Event K D P)} {id : K} {st : State D}
    (h : st.timeoutID = timeoutIDInvalid) : st.Owns log id := fun hvalid => absurd h hvalid

/-- A function leaves its `State` with an ID of its connection. -/
theorem exec_owns {env : Env K P W} {c : Code P D W} {a a' : Activation K P D W}
    (h : exec env c a = .ok a') (ha : a.state.Owns a.sys.log a.iface.cID) :
    a'.state.Owns a'.sys.log a.iface.cID := by
  suffices hkeep : a'.iface.cID = a.iface.cID ∧ (a.state.Owns a.sys.log a.iface.cID →
      a'.state.Owns a'.sys.log a.iface.cID) from hkeep.2 ha
  refine exec_rule env Powers.all (R := fun a a' => a'.iface.cID = a.iface.cID ∧
    (a.state.Owns a.sys.log a.iface.cID → a'.state.Owns a'.sys.log a.iface.cID))
    (fun a => ⟨rfl, id⟩) ?_ (fun a d w => ⟨rfl, id⟩) (fun a => ⟨rfl, fun h => h.append _⟩) ?_
    (fun a n => ⟨rfl, id⟩) (fun _ a n => ⟨rfl, id⟩) ?_ c c.within_all h
  · intro a b c hab hbc
    refine ⟨hbc.1.trans hab.1, fun ha => ?_⟩
    have hb := hab.2 ha
    rw [← hab.1] at hb ⊢
    exact hbc.2 hb
  · intro a p a' hp
    obtain ⟨cb, ba, -, -, -, rfl⟩ := Activation.getPkt_eq_ok hp
    exact ⟨rfl, fun h => h.append _⟩
  · intro _ a t f
    exact ⟨rfl, fun _ _ => List.mem_append_right _ (List.mem_singleton_self _)⟩

theorem callFun_owns {env : Env K P W} {a a' : Activation K P D W} (h : callFun env a = .ok a')
    (ha : a.state.Owns a.sys.log a.iface.cID) : a'.state.Owns a'.sys.log a.iface.cID := by
  obtain ⟨f, p, -, -, hexec⟩ := callFun_eq_ok h
  exact exec_owns (a := { a with sys := a.sys.emit (.call a.iface.cID a.state) }) hexec (ha.append _)

variable [DecidableEq K]

namespace Sys.Owned

variable {s s' : Sys K P D W} {id : K}

/-- The table and the pool are the same. -/
theorem of_eq (h : s.Owned) {new : List (Event K D P)} (hlog : s'.log = s.log ++ new)
    (htable : s'.sm.stateTable = s.sm.stateTable) (hpool : s'.connPool = s.connPool) :
    s'.Owned := by
  constructor
  · intro id st hst
    rw [htable] at hst
    rw [hlog]
    exact (h.table id st hst).append new
  · intro id st hst
    rw [hpool] at hst
    rw [hlog]
    exact (h.pool id st hst).append new

theorem ran {a a' : Activation K P D W} {new : List (Event K D P)} (h : a.sys.Owned)
    (hran : Ran a a' new) : a'.sys.Owned :=
  h.of_eq hran.log (by rw [hran.sm]) hran.connPool

theorem setState (h : s.Owned) {st : State D} (hst : st.Owns s.log id) : (s.setState id st).Owned := by
  refine ⟨fun k st' hk => ?_, h.pool⟩
  rcases FMap.lookup_insert_cases hk with ⟨rfl, rfl⟩ | hk
  · exact hst
  · exact h.table k st' hk

theorem commit {a : Activation K P D W} (h : a.sys.Owned)
    (ha : a.state.Owns a.sys.log a.iface.cID) : a.commit.Owned := h.setState ha

theorem erase (h : s.Owned) {new : List (Event K D P)} (hlog : s'.log = s.log ++ new)
    (htable : s'.sm.stateTable = s.sm.stateTable.erase id) (hpool : s'.connPool = s.connPool) :
    s'.Owned := by
  refine ⟨fun k st hk => ?_, fun k st hk => ?_⟩
  · rw [htable] at hk
    by_cases hid : k = id
    · rw [hid, Finmap.lookup_erase] at hk
      simp at hk
    · rw [Finmap.lookup_erase_ne hid] at hk
      rw [hlog]
      exact (h.table k st hk).append new
  · rw [hpool] at hk
    rw [hlog]
    exact (h.pool k st hk).append new

theorem removeState (h : s.Owned) (id : K) : (s.removeState id).Owned := by
  obtain ⟨fin, hfin, -⟩ := s.removeState_log id
  exact h.erase hfin rfl rfl

theorem poolAdd (h : s.Owned) {st : State D} (hst : st.Owns s.log id) : (s.poolAdd id st).Owned := by
  refine ⟨fun k st' hk => (h.table k st' hk).append _, fun k st' hk => ?_⟩
  rcases FMap.lookup_insertNew_cases hk with hk | ⟨rfl, -, rfl⟩
  · exact (h.pool k st' hk).append _
  · exact hst.append _

/-- A `State` that is inserted in the table was handed over, or is new. -/
theorem insertNew (h : s.Owned) {new : List (Event K D P)} {st : State D}
    (hlog : s'.log = s.log ++ new) (hst : st.Owns s.log id)
    (htable : s'.sm.stateTable = FMap.insertNew id st s.sm.stateTable)
    (hpool : ∀ k st', s'.connPool.lookup k = some st' → s.connPool.lookup k = some st') :
    s'.Owned := by
  refine ⟨fun k st' hk => ?_, fun k st' hk => ?_⟩
  · rw [htable] at hk
    rw [hlog]
    rcases FMap.lookup_insertNew_cases hk with hk | ⟨rfl, -, rfl⟩
    · exact (h.table k st' hk).append new
    · exact hst.append new
  · rw [hlog]
    exact (h.pool k st' (hpool k st' hk)).append new

theorem findState [Inhabited D] (h : s.Owned) {o : Option (State D)}
    (hf : s.findState id = .ok (s', o)) : s'.Owned := by
  rcases Sys.findState_cases hf with ⟨st, -, rfl, -⟩ | ⟨st, -, hp, rfl, -⟩ |
    ⟨d, w, -, -, -, -, rfl, -⟩ | ⟨-, -, -, rfl, -⟩
  · exact h
  · refine h.insertNew (List.append_nil _).symm (h.pool id st hp) rfl fun k st' hk => ?_
    by_cases hid : k = id
    · rw [hid, show (s.claim id st).connPool = s.connPool.erase id from rfl,
        Finmap.lookup_erase] at hk
      simp at hk
    · rwa [show (s.claim id st).connPool = s.connPool.erase id from rfl,
        Finmap.lookup_erase_ne hid] at hk
  · exact h.insertNew rfl (State.owns_of_invalid rfl) rfl fun _ _ hk => hk
  · exact h

/-- The destructor, where the `State` of the function is one that may be in the table. -/
theorem destroy {env : Env K P W} {home : Home} {a a' : Activation K P D W} (h : a.sys.Owned)
    (ha : a.state.Owns a.sys.log a.iface.cID) (hd : a.destroy env home = .ok a') :
    a'.sys.Owned := by
  obtain ⟨ba, -, ⟨-, rfl⟩ | ⟨-, -, b, s, hb, hs, rfl⟩⟩ := Activation.destroy_eq_ok hd
  · exact h.of_eq (List.append_nil _).symm rfl rfl
  · have hmarked : ({ a.sys with pktsBA := ba } : Sys K P D W).Owned :=
      h.of_eq (List.append_nil _).symm rfl rfl
    obtain ⟨new, hran⟩ := callFun_ran hb
    have hcID : b.iface.cID = a.iface.cID := hran.cID
    have hb' : b.sys.Owned := Owned.ran (a := { a with sys := { a.sys with pktsBA := ba } }) hmarked hran
    have howns : b.state.Owns b.sys.log b.iface.cID := by
      rw [hcID]
      exact callFun_owns (a := { a with sys := { a.sys with pktsBA := ba } }) hb ha
    have hs' : s.Owned := by
      rw [hs]
      split
      · exact hb'.commit howns
      · exact hb'
    dsimp only
    split
    · exact hs'.removeState _
    · exact hs'

end Sys.Owned

/-! ### The steps -/

/-- The `State` that is handed in is as its constructor makes it. -/
def Op.Plain : Op K P D → Prop
  | .addState _ st => st.timeoutID = timeoutIDInvalid
  | .addStateNoFun _ st => st.timeoutID = timeoutIDInvalid
  | _ => True

theorem runState_owned {env : Env K P W} {cur : Nat} {id : K} {st : State D} {s s' : Sys K P D W}
    (h : s.Owned) (hrun : runState env cur id st s = .ok s') : s'.Owned := by
  obtain ⟨a, b, ha, rfl, hb⟩ := runState_eq_ok hrun
  obtain ⟨new, hran⟩ := callFun_ran ha
  have hcID : a.iface.cID = id := hran.cID
  have hstart : (s.cancelTimeout st).Owned := by
    unfold Sys.cancelTimeout
    split
    · exact h.of_eq (List.append_nil _).symm rfl rfl
    · exact h
  have howns : a.state.Owns a.sys.log a.iface.cID := by
    rw [hcID]
    exact callFun_owns ha (State.owns_of_invalid rfl)
  have hcommit : a.commit.Owned :=
    Sys.Owned.commit (Sys.Owned.ran (a := startPkt cur id st s) hstart hran) howns
  rcases hb with ⟨-, hb⟩ | ⟨-, hb⟩
  · have hclose : (closeState id a.commit).Owned :=
      (hcommit.removeState id).of_eq (List.append_nil _).symm rfl rfl
    have hlog : (closeState id a.commit).log = a.sys.log ++ [.removed id] := by
      rw [← hcID]
      exact a.removeState_commit_log
    refine hclose.destroy (a := { a with sys := closeState id a.commit }) ?_ hb
    show a.state.Owns (closeState id a.commit).log a.iface.cID
    rw [hlog]
    exact howns.append _
  · exact hcommit.destroy (a := { a with sys := a.commit }) howns hb

theorem addState_owned {env : Env K P W} {id : K} {st st' : State D} {s s' : Sys K P D W}
    (h : s.Owned) (hst : st.timeoutID = timeoutIDInvalid)
    (hadd : addState env id st s = .ok (s', st')) : s'.Owned := by
  obtain ⟨a, b, ha, hb, rfl, rfl⟩ := addState_eq_ok hadd
  obtain ⟨new, hran⟩ := callFun_ran ha
  have hcID : a.iface.cID = id := hran.cID
  have ha' : a.sys.Owned := Sys.Owned.ran (a := { sys := s, state := st, iface := _ }) h hran
  have howns : a.state.Owns a.sys.log id := callFun_owns ha (State.owns_of_invalid hst)
  by_cases hend : a.state.state = a.sys.sm.endStateID
  · rw [if_pos hend] at hb
    exact ha'.destroy (hcID ▸ howns) hb
  · rw [if_neg hend] at hb
    refine (ha'.poolAdd howns).destroy (a := { a with sys := a.sys.poolAdd id a.state }) ?_ hb
    show a.state.Owns (a.sys.log ++ _) a.iface.cID
    rw [hcID]
    exact howns.append _

variable [Inhabited D]

theorem runPkt_owned {env : Env K P W} {cur : Nat} {s s' : Sys K P D W} (h : s.Owned)
    (hrun : runPkt env cur s = .ok s') : s'.Owned := by
  have hstart : (s.emit (.run cur)).Owned := h.of_eq rfl rfl rfl
  obtain ⟨pkt, -, hcase⟩ := runPkt_eq_ok hrun
  rcases hcase with ⟨-, hdrop⟩ | ⟨id, s₁, -, hf, hdrop⟩ | ⟨id, s₁, st, -, hf, hstate⟩
  · obtain ⟨ba, rfl⟩ := Sys.markDropPkt_eq hdrop
    exact hstart.of_eq (show _ = _ ++ [.unidentified cur] from rfl) rfl rfl
  · obtain ⟨ba, rfl⟩ := Sys.markDropPkt_eq hdrop
    exact (hstart.findState hf).of_eq (show _ = _ ++ [.discarded cur id] from rfl) rfl rfl
  · exact runState_owned (hstart.findState hf) hstate

theorem Sys.pass_owned {env : Env K P W} {s s' : Sys K P D W} (h : s.Owned)
    (hpass : s.pass env = .ok s') : s'.Owned := by
  rcases Sys.pass_eq_ok hpass with ⟨-, rfl⟩ | ⟨t, -, -, rfl⟩ | ⟨t, -, -, -, rfl⟩ |
    ⟨t, td, -, -, -, hfire⟩
  · exact h
  · exact h.of_eq (List.append_nil _).symm rfl rfl
  · exact h.of_eq (List.append_nil _).symm rfl rfl
  · obtain ⟨s₁, st, a, ba, new, hf, ha, hran, rfl⟩ := fireTimeout_calm hfire
    have htick : ({ s with ticks := s.ticks + 1 } : Sys K P D W).Owned :=
      h.of_eq (List.append_nil _).symm rfl rfl
    have hstart : (startTimeout t td.id st s₁).sys.Owned :=
      (htick.findState hf).of_eq rfl rfl rfl
    have hcID : a.iface.cID = td.id := hran.cID
    have howns : a.state.Owns a.sys.log a.iface.cID := by
      rw [hcID]
      exact exec_owns ha (State.owns_of_invalid rfl)
    have hcommit : a.commit.Owned := (hstart.ran hran).commit howns
    have hend : (endTimeout env t td.id a).Owned := by
      unfold endTimeout
      split
      · exact (hcommit.removeState td.id).of_eq (List.append_nil _).symm rfl rfl
      · exact hcommit.of_eq (List.append_nil _).symm rfl rfl
    exact hend.of_eq (List.append_nil _).symm rfl rfl

/-- **Every step keeps it**, if the `State`s handed in remember nothing. -/
theorem Sys.op_owned {env : Env K P W} {c : Op K P D} {s s' : Sys K P D W} (h : s.Owned)
    (hplain : c.Plain) (hop : s.op env c = .ok s') : s'.Owned := by
  cases c with
  | batch ba =>
      obtain rfl := Except.ok.inj hop
      exact h.of_eq (List.append_nil _).symm rfl rfl
  | pass => exact Sys.pass_owned h hop
  | packet cur => exact runPkt_owned h hop
  | addState id st =>
      simp only [Sys.op] at hop
      split at hop
      · rename_i s₁ st' hadd
        obtain rfl := Except.ok.inj hop
        exact addState_owned h hplain hadd
      · simp at hop
  | addStateNoFun id st =>
      obtain rfl := Except.ok.inj hop
      unfold addStateNoFun
      split
      · exact h
      · exact h.poolAdd (State.owns_of_invalid hplain)
  | removeState id =>
      obtain rfl := Except.ok.inj hop
      exact h.removeState id

/-! ### Runs -/

/-- A run whose `State`s are made by the constructor. -/
abbrev Sys.PlainRun (env : Env K P W) : Sys K P D W → Sys K P D W → Prop :=
  Sys.Run env fun _ c _ => c.Plain

theorem Sys.PlainRun.owned {env : Env K P W} {s₀ s : Sys K P D W} (h : Sys.PlainRun env s₀ s)
    (hstart : s₀.Owned) : s.Owned := by
  induction h with
  | refl => exact hstart
  | step c _ hop hplain ih => exact Sys.op_owned ih hplain hop

/-- **IDs are unique.**  None is the reserved one; none was given out before, and what is a
key was given out, so that a new timeout is always inserted; and what a `State` remembers
designates a timeout of its connection or none. -/
structure Sys.IDsUnique (s : Sys K P D W) : Prop where
  valid : timeoutIDInvalid ∉ setIDs s.log
  fresh : ∀ l₁ l₂ tid id, s.log = l₁ ++ .arm tid id :: l₂ → tid ∉ setIDs l₁
  keys : ∀ tid ∈ s.sm.timeoutFunctions, tid ∈ setIDs s.log
  own : ∀ id st, s.stateOf id = some st → st.timeoutID ≠ timeoutIDInvalid →
    .arm st.timeoutID id ∈ s.log ∧
      ∀ td, s.sm.timeoutFunctions.lookup st.timeoutID = some td → td.id = id

omit [DecidableEq K] [Inhabited D] in
/-- An ID that was given out once was given out for one connection. -/
theorem Sys.Numbered.arm_inj {s : Sys K P D W} (h : s.Numbered) (hids : s.Unwrapped)
    {tid : TimeoutID} {id id' : K} (harm : .arm tid id ∈ s.log) (harm' : .arm tid id' ∈ s.log) :
    id = id' := by
  obtain ⟨l₁, l₂, hlog⟩ := List.append_of_mem harm
  rw [hlog] at harm'
  rcases List.mem_append.mp harm' with hbefore | hafter
  · exact absurd hbefore (h.not_before (s := { s with log := l₁ }) hids hlog
      (List.mem_cons_self ..))
  · rcases List.mem_cons.mp hafter with heq | hafter
    · exact (Event.arm.inj heq).2.symm
    · have hlog' : s.log = (l₁ ++ [.arm tid id]) ++ l₂ := by simpa using hlog
      refine absurd (show Event.arm tid id ∈ l₁ ++ [.arm tid id] by simp) ?_
      exact h.not_before (s := { s with log := l₁ ++ [.arm tid id] }) hids hlog' hafter

omit [DecidableEq K] [Inhabited D] in
/-- The last value before the counter wraps is the reserved one. -/
theorem Sys.Numbered.invalid_mem {s : Sys K P D W} (h : s.Numbered)
    (hlong : 2 ^ 32 ≤ (setIDs s.log).length) : timeoutIDInvalid ∈ setIDs s.log := by
  rw [h.ids]
  exact List.mem_map.mpr ⟨2 ^ 32 - 1, List.mem_range.mpr (by omega), rfl⟩

/-- A machine nothing has been done with yet. -/
structure Sys.New (s : Sys K P D W) : Prop where
  fresh : s.Fresh
  table : s.sm.stateTable = ∅
  pool : s.connPool = ∅

/--
**How long timeout IDs stay unique.**

For every new machine, all functions and every run, of any length: the IDs are unique
exactly as long as `setTimeout` has been called less than 2^32 times.
-/
theorem Sys.PlainRun.ids_unique_iff {env : Env K P W} {s₀ s : Sys K P D W} (hstart : s₀.New)
    (hrun : Sys.PlainRun env s₀ s) : s.IDsUnique ↔ (setIDs s.log).length < 2 ^ 32 := by
  have hnumbered : s.Numbered := Sys.Run.numbered hrun hstart.fresh.numbered
  constructor
  · intro h
    by_contra hlong
    exact h.valid (hnumbered.invalid_mem (by omega))
  · intro hids
    have howned : s.Owned := hrun.owned ⟨fun id st hst => by simp [hstart.table] at hst,
      fun id st hst => by simp [hstart.pool] at hst⟩
    have harmed : ∀ tid td, s.sm.timeoutFunctions.lookup tid = some td → .arm tid td.id ∈ s.log := by
      intro tid td hl
      obtain ⟨new, hnew, htimeouts⟩ := Sys.Run.timeouts hrun
      rcases htimeouts tid td hl with hold | harm
      · simp [hstart.fresh.functions] at hold
      · rw [hnew]
        exact List.mem_append_right _ harm
    refine ⟨?_, ?_, ?_, ?_⟩
    · intro hmem
      rw [hnumbered.ids] at hmem
      obtain ⟨i, hi, heq⟩ := List.mem_map.mp hmem
      have hi' := List.mem_range.mp hi
      have := ofNat_inj (j := 2 ^ 32 - 1) (by omega) (by omega) heq
      omega
    · intro l₁ l₂ tid id hlog hmem
      obtain ⟨id', hid'⟩ := mem_setIDs.mp hmem
      exact hnumbered.not_before (s := { s with log := l₁ }) hids hlog (List.mem_cons_self ..) hid'
    · intro tid htid
      obtain ⟨td, hl⟩ := Finmap.mem_iff.mp htid
      exact mem_setIDs.mpr ⟨td.id, harmed tid td hl⟩
    · intro id st hst hvalid
      have howns : st.Owns s.log id := by
        rcases Option.or_eq_some_iff.mp hst with hst | ⟨-, hst⟩
        · exact howned.table id st hst
        · exact howned.pool id st hst
      refine ⟨howns hvalid, fun td hl => ?_⟩
      exact hnumbered.arm_inj hids (harmed _ td hl) (howns hvalid)

theorem Sys.op_addState_of_ok {env : Env K P W} {id : K} {st st' : State D}
    {s s' : Sys K P D W} (h : MoonState.addState env id st s = .ok (s', st')) :
    s.op env (.addState id st) = .ok s' := by
  unfold Sys.op
  simp only [h]

/-! ### A machine that sets timeouts -/

/-- It has the function that sets a timeout, and a packet to call it on. -/
structure Arming (s : Sys Nat Nat Nat Unit) : Prop where
  functions : s.sm.functions = [some rearmFun]
  endStateID : s.sm.endStateID = StateIDInvalid
  slot : 0 < s.pktsBA.numBufs

/-- A connection that is added gets a timeout. -/
theorem Arming.addState {s : Sys Nat Nat Nat Unit} (h : Arming s) (id : Nat) :
    ∃ s', s.op rearmEnv (.addState id (State.new 0 0)) = .ok s' ∧ Arming s' ∧
      (setIDs s'.log).length = (setIDs s.log).length + 1 := by
  have hf : s.sm.dispatch 0 = .ok rearmFun := by
    simp [StateMachine.dispatch, h.functions]
  obtain ⟨a, ha, hsm, hba, hstate, hiface, hids⟩ : ∃ a : Activation Nat Nat Nat Unit,
      callFun rearmEnv { sys := s, state := State.new 0 0, iface := FunIface.new 0 id } = .ok a ∧
        (a.sys.sm.functions = s.sm.functions ∧ a.sys.sm.endStateID = s.sm.endStateID) ∧
        a.sys.pktsBA = s.pktsBA ∧ a.state.state = 0 ∧ a.iface = FunIface.new 0 id ∧
        (setIDs a.sys.log).length = (setIDs s.log).length + 1 := by
    rw [callFun_of_ok hf (BufArray.get_of_lt h.slot)]
    refine ⟨_, rfl, ⟨rfl, rfl⟩, rfl, rfl, rfl, ?_⟩
    show (setIDs ((s.log ++ [_]) ++ [_])).length = _
    simp only [setIDs_append, List.length_append]
    rfl
  have hlt : 0 < (a.sys.poolAdd id a.state).pktsBA.numBufs := by
    rw [show (a.sys.poolAdd id a.state).pktsBA = s.pktsBA from hba]
    exact h.slot
  have hend : a.state.state ≠ a.sys.sm.endStateID := by
    rw [hstate, hsm.2, h.endStateID]
    decide
  obtain ⟨b, hb⟩ : ∃ b, ({ a with sys := a.sys.poolAdd id a.state } :
      Activation Nat Nat Nat Unit).mark rearmEnv = .ok b :=
    Activation.mark_of_lt (by rw [hiface]; exact hlt)
  have hadd : MoonState.addState rearmEnv id (State.new 0 0) s = .ok (b.sys, b.state) := by
    unfold MoonState.addState
    rw [ha]
    show (Activation.destroy rearmEnv .param { a with sys := ite _ _ _ } >>= _) = _
    rw [if_neg hend, Activation.destroy_of_not_immediate (by rw [hiface]; rfl), hb]
    rfl
  obtain ⟨ba, hmark, rfl⟩ := Activation.mark_eq_ok hb
  refine ⟨_, Sys.op_addState_of_ok hadd, ⟨hsm.1.trans h.functions, hsm.2.trans h.endStateID, ?_⟩,
    ?_⟩
  · have hpkts : ba.pkts = s.pktsBA.pkts :=
      (BufArray.mark_eq_ok hmark).1.trans (by rw [← hba]; rfl)
    have hslot := h.slot
    unfold BufArray.numBufs at hslot
    show 0 < ba.pkts.length
    rwa [hpkts]
  · show (setIDs (a.sys.log ++ [_])).length = _
    rw [setIDs_append, List.length_append]
    exact hids

/-- It sets as many as one likes. -/
theorem Arming.sets {s : Sys Nat Nat Nat Unit} (h : Arming s) (id n : Nat) :
    ∃ s', Sys.PlainRun rearmEnv s s' ∧ Arming s' ∧
      (setIDs s'.log).length = (setIDs s.log).length + n := by
  induction n with
  | zero => exact ⟨s, .refl, h, rfl⟩
  | succ n ih =>
      obtain ⟨s₁, hrun, harm, hlen⟩ := ih
      obtain ⟨s₂, hop, harm', hlen'⟩ := harm.addState id
      exact ⟨s₂, .step _ hrun hop rfl, harm', by omega⟩

theorem rearm_new : rearm.New := ⟨⟨rfl, rfl, rfl, rfl⟩, rfl, rfl⟩

theorem rearm_arming : Arming rearm := ⟨rfl, rfl, by decide⟩

/-- Its call number 2^32 of `setTimeout` gives out the reserved ID. -/
theorem Sys.PlainRun.ids_not_unique :
    ∃ s, Sys.PlainRun rearmEnv rearm s ∧ timeoutIDInvalid ∈ setIDs s.log ∧ ¬ s.IDsUnique := by
  obtain ⟨s, hrun, -, hlen⟩ := rearm_arming.sets 8 (2 ^ 32)
  have hnumbered : s.Numbered := Sys.Run.numbered hrun rearm_new.fresh.numbered
  have hmem : timeoutIDInvalid ∈ setIDs s.log := hnumbered.invalid_mem (by omega)
  exact ⟨s, hrun, hmem, fun h => h.valid hmem⟩

/-- After one connection. -/
theorem Sys.PlainRun.ids_unique_once : ∃ s, Sys.PlainRun rearmEnv rearm s ∧
    (setIDs s.log).length = 1 ∧ s.IDsUnique := by
  obtain ⟨s, hrun, -, hlen⟩ := rearm_arming.sets 8 1
  have hone : (setIDs s.log).length = 1 := hlen
  exact ⟨s, hrun, hone, (Sys.PlainRun.ids_unique_iff rearm_new hrun).mpr (by omega)⟩

end MoonState
