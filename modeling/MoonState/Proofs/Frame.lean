/-
What a call for one connection leaves alone.

A packet, a timeout and the opening of a connection all work for one ID.  `Frame`
says that the entries of every other ID stay as they are, in the table and in the
pool, that the setup of the machine stays as it is, and that the log only grows.
It holds for all functions, those that transition immediately included.
-/
import MoonState.Model.System
import MoonState.Proofs.StateMachine

namespace MoonState

variable {K P D W : Type}

variable [DecidableEq K] {id : K}

/-- `s'` is `s` after a call for `id` that logged `new`. -/
structure Sys.Logs (id : K) (s s' : Sys K P D W) (new : List (Event K D P)) : Prop where
  log : s'.log = s.log ++ new
  /-- No other connection is taken out. -/
  removed : ∀ k, .removed k ∈ new → k = id
  /-- A timeout that became valid was set for this one. -/
  timeouts : ∀ tid td, s'.sm.timeoutFunctions.lookup tid = some td →
    s.sm.timeoutFunctions.lookup tid = some td ∨ (td.id = id ∧ .arm tid id ∈ new)

omit [DecidableEq K] in
theorem Sys.Logs.trans {s t u : Sys K P D W} {l l' : List (Event K D P)}
    (h : Sys.Logs id s t l) (h' : Sys.Logs id t u l') : Sys.Logs id s u (l ++ l') := by
  refine ⟨?_, ?_, ?_⟩
  · rw [h'.log, h.log, List.append_assoc]
  · intro k hk
    rcases List.mem_append.mp hk with hk | hk
    · exact h.removed k hk
    · exact h'.removed k hk
  · intro tid td hl
    rcases h'.timeouts tid td hl with hl | ⟨hid, harm⟩
    · rcases h.timeouts tid td hl with hl | ⟨hid, harm⟩
      · exact Or.inl hl
      · exact Or.inr ⟨hid, List.mem_append_left _ harm⟩
    · exact Or.inr ⟨hid, List.mem_append_right _ harm⟩

/-- `s'` is `s` after a call that worked for `id`. -/
structure Sys.Frame (id : K) (s s' : Sys K P D W) : Prop where
  table : ∀ k, k ≠ id → s'.sm.stateTable.lookup k = s.sm.stateTable.lookup k
  connPool : ∀ k, k ≠ id → s'.connPool.lookup k = s.connPool.lookup k
  /-- The setup of the machine is what it was. -/
  sm : s'.sm = { s.sm with
    stateTable := s'.sm.stateTable
    curTimeoutID := s'.sm.curTimeoutID
    timeoutsQ := s'.sm.timeoutsQ
    timeoutFunctions := s'.sm.timeoutFunctions
    stat_statesAdded := s'.sm.stat_statesAdded
    stat_statesClosed := s'.sm.stat_statesClosed }
  logs : ∃ new, Sys.Logs id s s' new

namespace Sys.Frame

theorem functions {s s' : Sys K P D W} (h : Sys.Frame id s s') :
    s'.sm.functions = s.sm.functions := by
  rw [h.sm]

theorem endStateID {s s' : Sys K P D W} (h : Sys.Frame id s s') :
    s'.sm.endStateID = s.sm.endStateID := by
  rw [h.sm]

theorem listenToConnections {s s' : Sys K P D W} (h : Sys.Frame id s s') :
    s'.sm.listenToConnections = s.sm.listenToConnections := by
  rw [h.sm]

theorem log {s s' : Sys K P D W} (h : Sys.Frame id s s') : ∃ new, s'.log = s.log ++ new := by
  obtain ⟨new, hnew⟩ := h.logs
  exact ⟨new, hnew.log⟩

theorem trans {s t u : Sys K P D W} (h : Sys.Frame id s t) (h' : Sys.Frame id t u) :
    Sys.Frame id s u := by
  obtain ⟨l, hl⟩ := h.logs
  obtain ⟨l', hl'⟩ := h'.logs
  exact ⟨fun k hk => (h'.table k hk).trans (h.table k hk),
    fun k hk => (h'.connPool k hk).trans (h.connPool k hk), by rw [h'.sm, h.sm],
    l ++ l', hl.trans hl'⟩

/-- A change of one entry, of the batch, or of the end of the log. -/
theorem of_eq {s s' : Sys K P D W} {e : List (Event K D P)} (hsm : s'.sm = { s.sm with
      stateTable := s'.sm.stateTable
      stat_statesAdded := s'.sm.stat_statesAdded
      stat_statesClosed := s'.sm.stat_statesClosed })
    (htable : ∀ k, k ≠ id → s'.sm.stateTable.lookup k = s.sm.stateTable.lookup k)
    (hpool : ∀ k, k ≠ id → s'.connPool.lookup k = s.connPool.lookup k)
    (hlog : s'.log = s.log ++ e) (he : ∀ k, .removed k ∈ e → k = id) : Sys.Frame id s s' := by
  refine ⟨htable, hpool, by rw [hsm], e, hlog, he, ?_⟩
  intro tid td hl
  rw [hsm] at hl
  exact Or.inl hl

theorem refl (s : Sys K P D W) : Sys.Frame id s s :=
  of_eq rfl (fun _ _ => rfl) (fun _ _ => rfl) (List.append_nil _).symm (by simp)

theorem emit (s : Sys K P D W) (e : Event K D P) (he : ∀ k, e ≠ .removed k) :
    Sys.Frame id s (s.emit e) := by
  refine of_eq rfl (fun _ _ => rfl) (fun _ _ => rfl) rfl ?_
  intro k hk
  exact absurd (List.mem_singleton.mp hk).symm (he k)

theorem pktsBA (s : Sys K P D W) (ba : BufArray P) : Sys.Frame id s { s with pktsBA := ba } :=
  of_eq rfl (fun _ _ => rfl) (fun _ _ => rfl) (List.append_nil _).symm (by simp)

theorem setState (s : Sys K P D W) (st : State D) : Sys.Frame id s (s.setState id st) :=
  of_eq rfl (fun _ hk => Finmap.lookup_insert_of_ne _ hk) (fun _ _ => rfl)
    (List.append_nil _).symm (by simp)

theorem removeState (s : Sys K P D W) : Sys.Frame id s (s.removeState id) := by
  obtain ⟨fin, hlog, hfin⟩ := s.removeState_log id
  refine of_eq rfl (fun _ hk => Finmap.lookup_erase_ne hk) (fun _ _ => rfl) hlog ?_
  intro k hk
  rcases hfin with rfl | rfl
  · exact absurd hk List.not_mem_nil
  · simpa using hk

theorem closeState (s : Sys K P D W) : Sys.Frame id s (MoonState.closeState id s) :=
  (removeState s).trans (of_eq rfl (fun _ _ => rfl) (fun _ _ => rfl) (List.append_nil _).symm
    (by simp))

theorem poolAdd (s : Sys K P D W) (st : State D) : Sys.Frame id s (s.poolAdd id st) :=
  of_eq rfl (fun _ _ => rfl) (fun _ hk => FMap.lookup_insertNew_ne _ _ hk) rfl (by simp)

/-- Timeouts become invalid. -/
theorem erase {s s' : Sys K P D W} {tid : TimeoutID} (hsm : s'.sm = { s.sm with
      timeoutsQ := s'.sm.timeoutsQ, timeoutFunctions := s.sm.timeoutFunctions.erase tid })
    (hpool : s'.connPool = s.connPool) (hlog : s'.log = s.log) : Sys.Frame id s s' := by
  refine ⟨?_, ?_, by rw [hsm], [], hlog.trans (List.append_nil _).symm, by simp, ?_⟩
  · intro k _
    rw [hsm]
  · intro k _
    rw [hpool]
  · intro tid' td hl
    rw [hsm] at hl
    by_cases htid : tid' = tid
    · rw [htid, Finmap.lookup_erase] at hl
      simp at hl
    · rw [Finmap.lookup_erase_ne htid] at hl
      exact Or.inl hl

theorem cancelTimeout (s : Sys K P D W) (st : State D) : Sys.Frame id s (s.cancelTimeout st) := by
  unfold Sys.cancelTimeout
  split
  · exact erase rfl rfl rfl
  · exact refl s

theorem dropTimeout (env : Env K P W) (t : Timeout) (s : Sys K P D W) :
    Sys.Frame id s (MoonState.dropTimeout env t s) :=
  erase rfl rfl rfl

/-- A function writes no entry at all while it runs. -/
theorem ran {a a' : Activation K P D W} {new : List (Event K D P)} (h : Ran a a' new)
    (hid : a.iface.cID = id) : Sys.Frame id a.sys a'.sys := by
  refine ⟨?_, ?_, by rw [h.sm], new, h.log, ?_, ?_⟩
  · intro k _
    rw [h.sm]
  · intro k _
    rw [h.connPool]
  · intro k hk
    exact absurd (h.own _ hk) (fun hc => hc)
  · intro tid td hl
    rw [← hid]
    exact h.armed tid td hl

end Sys.Frame

/-! ### The calls -/

theorem callFun_frame {env : Env K P W} {a a' : Activation K P D W} (h : callFun env a = .ok a')
    (hid : a.iface.cID = id) : Sys.Frame id a.sys a'.sys ∧ a'.iface.cID = id := by
  obtain ⟨new, hnew⟩ := callFun_ran h
  exact ⟨.ran hnew hid, hnew.cID.trans hid⟩

theorem Activation.commit_frame {a : Activation K P D W} (hid : a.iface.cID = id) :
    Sys.Frame id a.sys a.commit := by
  unfold commit
  rw [hid]
  exact .setState _ _

theorem Activation.destroy_frame {env : Env K P W} {home : Home} {a a' : Activation K P D W}
    (h : a.destroy env home = .ok a') (hid : a.iface.cID = id) : Sys.Frame id a.sys a'.sys := by
  obtain ⟨ba, -, ⟨-, rfl⟩ | ⟨-, -, b, s, hb, hs, rfl⟩⟩ := destroy_eq_ok h
  · exact .pktsBA _ _
  · obtain ⟨hframe, hb'⟩ := callFun_frame hb hid
    have hframe' : Sys.Frame id a.sys s := by
      rw [hs]
      split
      · exact ((Sys.Frame.pktsBA _ _).trans hframe).trans (commit_frame hb')
      · exact (Sys.Frame.pktsBA _ _).trans hframe
    dsimp only
    split
    · rw [hb']
      exact hframe'.trans (.removeState _)
    · exact hframe'

/-- The first thing a packet of a known connection does is to call its function. -/
theorem runState_log {env : Env K P W} {cur : Nat} {st : State D} {s s' : Sys K P D W}
    (h : runState env cur id st s = .ok s') :
    ∃ new, s'.log = s.log ++ .call id st.woken :: new := by
  obtain ⟨a, b, ha, rfl, hb⟩ := runState_eq_ok h
  obtain ⟨new, hnew⟩ := callFun_ran ha
  have hid : a.iface.cID = id := hnew.cID
  have hlog : a.sys.log = s.log ++ .call id st.woken :: new := by
    rw [hnew.log, ← Sys.cancelTimeout_log s st]
    rfl
  have hb' : Sys.Frame id a.commit b.sys := by
    rcases hb with ⟨-, hb⟩ | ⟨-, hb⟩
    · exact Sys.Frame.trans (.closeState _) (Activation.destroy_frame hb hid)
    · exact Activation.destroy_frame hb hid
  obtain ⟨rest, hrest⟩ := hb'.log
  refine ⟨new ++ rest, ?_⟩
  rw [hrest, show a.commit.log = a.sys.log from rfl, hlog, List.append_assoc]
  rfl

theorem runState_frame {env : Env K P W} {cur : Nat} {st : State D} {s s' : Sys K P D W}
    (h : runState env cur id st s = .ok s') : Sys.Frame id s s' := by
  obtain ⟨a, b, ha, rfl, hb⟩ := runState_eq_ok h
  obtain ⟨hframe, hid⟩ := callFun_frame ha rfl
  have hs : Sys.Frame id s a.commit :=
    ((Sys.Frame.cancelTimeout s st).trans hframe).trans (Activation.commit_frame hid)
  rcases hb with ⟨-, hb⟩ | ⟨-, hb⟩
  · exact (hs.trans (.closeState _)).trans
      (Activation.destroy_frame hb hid)
  · exact hs.trans (Activation.destroy_frame hb hid)

theorem addState_frame {env : Env K P W} {st st' : State D} {s s' : Sys K P D W}
    (h : addState env id st s = .ok (s', st')) : Sys.Frame id s s' := by
  obtain ⟨a, b, ha, hb, rfl, rfl⟩ := addState_eq_ok h
  obtain ⟨hframe, hid⟩ := callFun_frame ha rfl
  have hs : Sys.Frame id s (if a.state.state = a.sys.sm.endStateID then a.sys
      else a.sys.poolAdd id a.state) := by
    split
    · exact hframe
    · exact Sys.Frame.trans hframe (.poolAdd _ _)
  exact hs.trans (Activation.destroy_frame hb hid)

theorem addStateNoFun_frame (st : State D) (s : Sys K P D W) :
    Sys.Frame id s (addStateNoFun id st s) := by
  unfold addStateNoFun
  split
  · exact .refl _
  · exact .poolAdd _ _

/-! ### Several machines -/

section System

variable {ι : Type} [DecidableEq ι]

/-- Another ID is where it was. -/
theorem System.atPlace_update_of_ne {S : System ι K P D W} {i : ι} {ba : BufArray P}
    {s' : Sys K P D W} {id k : K} (h : Sys.Frame id (S.view i ba) s') (hk : k ≠ id)
    (p : Option ι) : (S.update i s').atPlace p k = S.atPlace p k := by
  cases p with
  | none => exact h.connPool k hk
  | some j =>
      show ((Function.update S.sms i s'.sm) j).stateTable.lookup k = _
      by_cases hj : j = i
      · subst hj
        rw [Function.update_self]
        exact h.table k hk
      · rw [Function.update_of_ne hj]
        rfl

/-- Another instance's table is what it was. -/
theorem System.atPlace_update_other {S : System ι K P D W} {i j : ι} {s' : Sys K P D W} (hj : j ≠ i)
    (id : K) : (S.update i s').atPlace (some j) id = S.atPlace (some j) id := by
  show ((Function.update S.sms i s'.sm) j).stateTable.lookup id = _
  rw [Function.update_of_ne hj]
  rfl

theorem System.atPlace_update_self {S : System ι K P D W} {i : ι} {s' : Sys K P D W} (id : K) :
    (S.update i s').atPlace (some i) id = s'.sm.stateTable.lookup id := by
  show ((Function.update S.sms i s'.sm) i).stateTable.lookup id = _
  rw [Function.update_self]

end System

/-! ### A packet, a timeout -/

variable [Inhabited D]

theorem Sys.findState_frame {s s' : Sys K P D W} {o : Option (State D)}
    (h : s.findState id = .ok (s', o)) : Sys.Frame id s s' := by
  have hF := findState_found h
  have hsm : s'.sm = { s.sm with
      stateTable := s'.sm.stateTable
      stat_statesAdded := s'.sm.stat_statesAdded
      stat_statesClosed := s'.sm.stat_statesClosed } := by
    rw [hF.sm]
  rcases hF.log with hl | hl
  · exact .of_eq hsm hF.table hF.connPool (hl.trans (List.append_nil _).symm) (by simp)
  · exact .of_eq hsm hF.table hF.connPool hl (by simp)

omit [DecidableEq K] [Inhabited D] in
theorem Sys.markDropPkt_eq {env : Env K P W} {s s' : Sys K P D W} {idx : Nat}
    (h : s.markDropPkt env idx = .ok s') : ∃ ba, s' = { s with pktsBA := ba } := by
  obtain ⟨ba, -, rfl⟩ := markDropPkt_eq_ok h
  exact ⟨ba, rfl⟩

/-- **One packet** works for the connection it belongs to, or for none. -/
theorem runPkt_frame {env : Env K P W} {cur : Nat} {s s' : Sys K P D W} {pkt : P}
    (hpkt : s.pktsBA.get cur = .ok pkt) (hid : ∀ k, env.identify pkt s.w = some k → k = id)
    (h : runPkt env cur s = .ok s') : Sys.Frame id s s' := by
  obtain ⟨pktIn, hp, hcase⟩ := runPkt_eq_ok h
  obtain rfl : pkt = pktIn := Except.ok.inj (hpkt.symm.trans hp)
  rcases hcase with ⟨-, hdrop⟩ | ⟨identity, s₁, hi, hf, hdrop⟩ | ⟨identity, s₁, st, hi, hf, hrun⟩
  · obtain ⟨ba, rfl⟩ := Sys.markDropPkt_eq hdrop
    exact ((Sys.Frame.emit s _ (by simp)).trans (.emit _ _ (by simp))).trans (.pktsBA _ ba)
  · obtain rfl := hid identity hi
    obtain ⟨ba, rfl⟩ := Sys.markDropPkt_eq hdrop
    exact (((Sys.Frame.emit s _ (by simp)).trans (Sys.findState_frame hf)).trans
      (.emit _ _ (by simp))).trans (.pktsBA _ ba)
  · obtain rfl := hid identity hi
    exact ((Sys.Frame.emit s _ (by simp)).trans (Sys.findState_frame hf)).trans
      (runState_frame hrun)

/-- What a packet does, by whether it is identified. -/
theorem runPkt_cases {env : Env K P W} {cur : Nat} {s s' : Sys K P D W}
    (h : runPkt env cur s = .ok s') :
    ∃ pkt, s.pktsBA.get cur = .ok pkt ∧
      ((env.identify pkt s.w = none ∧
          ∃ ba, s' = { s with pktsBA := ba, log := s.log ++ [.run cur, .unidentified cur] }) ∨
        ∃ id, env.identify pkt s.w = some id ∧ Sys.Frame id s s') := by
  obtain ⟨pkt, hpkt, hcase⟩ := runPkt_eq_ok h
  have hframe : ∀ {k}, env.identify pkt s.w = some k → Sys.Frame k s s' :=
    fun hi => runPkt_frame hpkt (fun j hj => Option.some.inj (hj.symm.trans hi)) h
  refine ⟨pkt, hpkt, ?_⟩
  rcases hcase with ⟨hnone, hdrop⟩ | ⟨id, -, hi, -⟩ | ⟨id, -, -, hi, -⟩
  · obtain ⟨ba, rfl⟩ := Sys.markDropPkt_eq hdrop
    exact Or.inl ⟨hnone, ba, by simp [Sys.emit]⟩
  · exact Or.inr ⟨id, hi, hframe hi⟩
  · exact Or.inr ⟨id, hi, hframe hi⟩

/-- A packet that does not belong to the connection leaves it where it is. -/
theorem runPkt_other {env : Env K P W} {cur : Nat} {s s' : Sys K P D W} {pkt : P}
    (hpkt : s.pktsBA.get cur = .ok pkt) (hid : env.identify pkt s.w ≠ some id)
    (h : runPkt env cur s = .ok s') :
    s'.sm.stateTable.lookup id = s.sm.stateTable.lookup id ∧
      s'.connPool.lookup id = s.connPool.lookup id := by
  obtain ⟨pktIn, hp, hcase⟩ := runPkt_cases h
  obtain rfl : pkt = pktIn := Except.ok.inj (hpkt.symm.trans hp)
  rcases hcase with ⟨-, ba, rfl⟩ | ⟨k, hi, hframe⟩
  · exact ⟨rfl, rfl⟩
  · have hne : id ≠ k := fun hc => hid (by rw [hi, hc])
    exact ⟨hframe.table id hne, hframe.connPool id hne⟩

/-- **One timeout** works for the connection it was set for. -/
theorem fireTimeout_frame {env : Env K P W} {t : Timeout} {td : TimeoutData K P D W}
    {s s' : Sys K P D W} (h : fireTimeout env t td s = .ok s') : Sys.Frame td.id s s' := by
  obtain ⟨s₁, st, a, ba, new, hf, -, hnew, rfl⟩ := fireTimeout_calm h
  have hid : a.iface.cID = td.id := hnew.cID
  have hs : Sys.Frame td.id s a.commit :=
    (((Sys.findState_frame hf).trans (.emit _ _ (by simp))).trans (.ran hnew rfl)).trans
      (Activation.commit_frame hid)
  refine Sys.Frame.trans (t := endTimeout env t td.id a) ?_ (.pktsBA _ ba)
  unfold endTimeout
  split
  · exact (hs.trans (.removeState _)).trans (.dropTimeout env t _)
  · exact hs.trans (.dropTimeout env t _)

end MoonState
