/-
A timeout's ID and its entry in the queue.

IDs are given out in order, and `setTimeout` files each under one queue entry.  The
timeout loop looks at the top of the queue, calls the function, and only then
pops: it pops whatever is on top at that time.  A function that sets a timeout
itself has put a later deadline there, so its own new entry goes and the one that
fired stays.

As long as no function does so, `Filed` is an invariant: a valid timeout has
exactly one entry, and a pass that fires pops the entry that fired.
-/
import MoonState.Proofs.Timeouts

namespace MoonState

variable {K P D W : Type}

/-! ### The IDs given out -/

/-- The ID an event says a timeout was set under. -/
def Event.sets : Event K D P → Option TimeoutID
  | .arm tid _ => some tid
  | _ => none

/-- The IDs given out, in order. -/
def setIDs (log : List (Event K D P)) : List TimeoutID := log.filterMap Event.sets

@[simp] theorem setIDs_nil : setIDs ([] : List (Event K D P)) = [] := rfl

@[simp] theorem setIDs_append (l l' : List (Event K D P)) :
    setIDs (l ++ l') = setIDs l ++ setIDs l' :=
  List.filterMap_append

theorem mem_setIDs {log : List (Event K D P)} {tid : TimeoutID} :
    tid ∈ setIDs log ↔ ∃ id, .arm tid id ∈ log := by
  unfold setIDs
  rw [List.mem_filterMap]
  constructor
  · rintro ⟨e, he, hsets⟩
    cases e with
    | arm t id =>
        obtain rfl := Option.some.inj hsets
        exact ⟨id, he⟩
    | _ => simp [Event.sets] at hsets
  · rintro ⟨id, he⟩
    exact ⟨_, he, rfl⟩

/-- The IDs given out are the numbers from 0 on, and the next one follows. -/
structure Sys.Numbered (s : Sys K P D W) : Prop where
  next : s.sm.curTimeoutID = UInt32.ofNat (setIDs s.log).length
  ids : setIDs s.log = (List.range (setIDs s.log).length).map UInt32.ofNat

/-- The IDs have not wrapped: none is given out twice, and `timeoutIDInvalid` is not given out. -/
def Sys.Unwrapped (s : Sys K P D W) : Prop := (setIDs s.log).length < 2 ^ 32

instance (s : Sys K P D W) : Decidable s.Unwrapped := inferInstanceAs (Decidable (_ < _))

theorem ofNat_inj {i j : Nat} (hi : i < 2 ^ 32) (hj : j < 2 ^ 32)
    (h : UInt32.ofNat i = UInt32.ofNat j) : i = j := by
  have hval := congrArg UInt32.toNat h
  rwa [UInt32.toNat_ofNat', UInt32.toNat_ofNat', Nat.mod_eq_of_lt hi, Nat.mod_eq_of_lt hj] at hval

theorem Sys.Numbered.nodup {s : Sys K P D W} (h : s.Numbered) (hids : s.Unwrapped) :
    (setIDs s.log).Nodup := by
  rw [h.ids]
  apply List.nodup_range.map_on
  intro i hi j hj heq
  have hi' := List.mem_range.mp hi
  have hj' := List.mem_range.mp hj
  exact ofNat_inj (Nat.lt_trans hi' hids) (Nat.lt_trans hj' hids) heq

/-- The next ID is new. -/
theorem Sys.Numbered.fresh {s : Sys K P D W} (h : s.Numbered) (hids : s.Unwrapped) :
    s.sm.curTimeoutID ∉ setIDs s.log := by
  intro hmem
  rw [h.ids, h.next] at hmem
  obtain ⟨i, hi, heq⟩ := List.mem_map.mp hmem
  have hi' := List.mem_range.mp hi
  have := ofNat_inj (Nat.lt_trans hi' hids) hids heq
  omega

/-! ### The queue -/

/-- **The invariant.**  The entries of the queue have IDs of their own, and every valid timeout
has an entry. -/
structure Sys.Filed (s : Sys K P D W) : Prop where
  known : ∀ t ∈ s.sm.timeoutsQ, t.timeoutID ∈ setIDs s.log
  distinct : (s.sm.timeoutsQ.map (·.timeoutID)).Nodup
  filed : ∀ tid ∈ s.sm.timeoutFunctions, tid ∈ s.sm.timeoutsQ.map (·.timeoutID)

theorem Sys.Filed.count_eq_one {s : Sys K P D W} (h : s.Filed) {tid : TimeoutID}
    (hvalid : tid ∈ s.sm.timeoutFunctions) :
    (s.sm.timeoutsQ.map (·.timeoutID)).count tid = 1 :=
  List.count_eq_one_of_mem h.distinct (h.filed tid hvalid)

/-- From `s` to `s'` timeouts were set and cancelled, and no entry was taken off the queue. -/
structure Sys.Files (s s' : Sys K P D W) : Prop where
  log : ∃ new, s'.log = s.log ++ new
  numbered : s.Numbered → s'.Numbered
  filed : s.Numbered → s'.Unwrapped → s.Filed → s'.Filed

theorem Sys.Unwrapped.of_append {s s' : Sys K P D W} {new : List (Event K D P)}
    (h : s'.Unwrapped) (hlog : s'.log = s.log ++ new) : s.Unwrapped := by
  unfold Unwrapped at h ⊢
  rw [hlog, setIDs_append, List.length_append] at h
  omega

namespace Sys.Files

theorem refl (s : Sys K P D W) : s.Files s :=
  ⟨⟨[], (List.append_nil _).symm⟩, fun h => h, fun _ _ h => h⟩

theorem trans {s t u : Sys K P D W} (h : s.Files t) (h' : t.Files u) : s.Files u := by
  obtain ⟨l, hl⟩ := h.log
  obtain ⟨l', hl'⟩ := h'.log
  refine ⟨⟨l ++ l', by rw [hl', hl, List.append_assoc]⟩, ?_, ?_⟩
  · intro hn
    exact h'.numbered (h.numbered hn)
  · intro hn hids hf
    exact h'.filed (h.numbered hn) hids (h.filed hn (hids.of_append hl') hf)

/-- A step that sets no timeout and leaves the queue alone. -/
theorem of_subset {s s' : Sys K P D W} {new : List (Event K D P)} (hlog : s'.log = s.log ++ new)
    (hnew : setIDs new = []) (hcur : s'.sm.curTimeoutID = s.sm.curTimeoutID)
    (hqueue : s'.sm.timeoutsQ = s.sm.timeoutsQ)
    (hvalid : ∀ tid ∈ s'.sm.timeoutFunctions, tid ∈ s.sm.timeoutFunctions) : s.Files s' := by
  have hids : setIDs s'.log = setIDs s.log := by
    rw [hlog, setIDs_append, hnew, List.append_nil]
  refine ⟨⟨new, hlog⟩, ?_, ?_⟩
  · intro h
    exact ⟨by rw [hcur, hids, h.next], by rw [hids]; exact h.ids⟩
  · intro _ _ h
    refine ⟨?_, ?_, ?_⟩
    · rw [hqueue, hids]
      exact h.known
    · rw [hqueue]
      exact h.distinct
    · intro tid htid
      rw [hqueue]
      exact h.filed tid (hvalid tid htid)

/-- A step that leaves the timeouts alone. -/
theorem of_eq {s s' : Sys K P D W} {l : List (Event K D P)} (hlog : s'.log = s.log ++ l)
    (hnew : setIDs l = []) (hcur : s'.sm.curTimeoutID = s.sm.curTimeoutID)
    (hqueue : s'.sm.timeoutsQ = s.sm.timeoutsQ)
    (hvalid : s'.sm.timeoutFunctions = s.sm.timeoutFunctions) : s.Files s' :=
  of_subset hlog hnew hcur hqueue fun _ htid => hvalid ▸ htid

end Sys.Files

/-! ### Functions -/

theorem Activation.setTimeout_files (env : Env K P W) (a : Activation K P D W) (t : Int)
    (f : TimeoutFun P D W) : a.sys.Files (a.setTimeout env t f).sys := by
  have hids : setIDs (a.setTimeout env t f).sys.log
      = setIDs a.sys.log ++ [a.sys.sm.curTimeoutID] := setIDs_append _ _
  refine ⟨⟨_, rfl⟩, ?_, ?_⟩
  · intro h
    constructor
    · rw [hids, List.length_append]
      show a.sys.sm.curTimeoutID + 1 = _
      rw [h.next]
      exact (UInt32.ofNat_add _ 1).symm
    · rw [hids, List.length_append, List.length_singleton, List.range_succ, List.map_append,
        ← h.ids, h.next]
      rfl
  · intro hn hunwrapped h
    have hfresh := hn.fresh (hunwrapped.of_append (s := a.sys) rfl)
    refine ⟨?_, ?_, ?_⟩
    · intro u hu
      rw [hids]
      rcases List.mem_cons.mp hu with rfl | hu
      · simp
      · exact List.mem_append_left _ (h.known u hu)
    · refine List.nodup_cons.mpr ⟨?_, h.distinct⟩
      intro hmem
      obtain ⟨u, hu, heq⟩ := List.mem_map.mp hmem
      have hknown := h.known u hu
      rw [heq] at hknown
      exact hfresh hknown
    · intro tid htid
      show tid ∈ a.sys.sm.curTimeoutID :: a.sys.sm.timeoutsQ.map (·.timeoutID)
      obtain ⟨td, hl⟩ := Finmap.mem_iff.mp htid
      rcases FMap.lookup_insertNew_cases hl with hl | ⟨rfl, -, -⟩
      · exact List.mem_cons_of_mem _ (h.filed tid (Finmap.mem_of_lookup_eq_some hl))
      · exact List.mem_cons_self

theorem exec_files {env : Env K P W} {c : Code P D W} {a a' : Activation K P D W}
    (h : exec env c a = .ok a') : a.sys.Files a'.sys := by
  refine exec_rule env Powers.all (R := fun a a' => a.sys.Files a'.sys) (fun a => .refl _)
    (fun h h' => h.trans h') ?_ ?_ ?_ (fun a n => .refl _) (fun _ a n => .refl _)
    (fun _ a t f => a.setTimeout_files env t f) c c.within_all h
  · intro a d w
    exact .of_eq (List.append_nil _).symm rfl rfl rfl rfl
  · intro a
    exact .of_eq (l := [.freePkt a.iface.pktIdx]) rfl rfl rfl rfl rfl
  · intro a p a' hp
    obtain ⟨cb, ba, -, -, -, rfl⟩ := Activation.getPkt_eq_ok hp
    exact .of_eq (l := [.getPkt p]) rfl rfl rfl rfl rfl

theorem callFun_files {env : Env K P W} {a a' : Activation K P D W} (h : callFun env a = .ok a') :
    a.sys.Files a'.sys := by
  obtain ⟨f, p, -, -, hexec⟩ := callFun_eq_ok h
  have hcall : a.sys.Files (a.sys.emit (.call a.iface.cID a.state)) :=
    .of_eq rfl rfl rfl rfl rfl
  exact hcall.trans (exec_files hexec)

variable [DecidableEq K]

theorem Sys.removeState_files (s : Sys K P D W) (id : K) : s.Files (s.removeState id) := by
  obtain ⟨fin, hfin, hcase⟩ := s.removeState_log id
  refine .of_eq hfin ?_ rfl rfl rfl
  rcases hcase with rfl | rfl
  · rfl
  · rfl

theorem Activation.commit_files (a : Activation K P D W) : a.sys.Files a.commit :=
  .of_eq (List.append_nil _).symm rfl rfl rfl rfl

omit [DecidableEq K] in
theorem Sys.pktsBA_files (s : Sys K P D W) (ba : BufArray P) : s.Files { s with pktsBA := ba } :=
  .of_eq (List.append_nil _).symm rfl rfl rfl rfl

theorem Activation.destroy_files {env : Env K P W} {home : Home} {a a' : Activation K P D W}
    (h : a.destroy env home = .ok a') : a.sys.Files a'.sys := by
  obtain ⟨ba, -, ⟨-, rfl⟩ | ⟨-, -, b, s, hb, hs, rfl⟩⟩ := destroy_eq_ok h
  · exact a.sys.pktsBA_files ba
  · have hb' : a.sys.Files b.sys := (a.sys.pktsBA_files ba).trans (callFun_files hb)
    have hs' : a.sys.Files s := by
      rw [hs]
      split
      · exact hb'.trans b.commit_files
      · exact hb'
    dsimp only
    split
    · exact hs'.trans (s.removeState_files _)
    · exact hs'

/-! ### The steps -/

theorem runState_files {env : Env K P W} {cur : Nat} {id : K} {st : State D} {s s' : Sys K P D W}
    (h : runState env cur id st s = .ok s') : s.Files s' := by
  obtain ⟨a, b, ha, rfl, hb⟩ := runState_eq_ok h
  have hcancel : s.Files (s.cancelTimeout st) := by
    unfold Sys.cancelTimeout
    split
    · refine .of_subset (List.append_nil _).symm rfl rfl rfl ?_
      intro tid htid
      exact (Finmap.mem_erase.mp htid).2
    · exact .refl s
  have ha' : s.Files a.commit := (hcancel.trans (callFun_files ha)).trans a.commit_files
  rcases hb with ⟨-, hb⟩ | ⟨-, hb⟩
  · have hclose : a.commit.Files (closeState id a.commit) :=
      (a.commit.removeState_files id).trans (.of_eq (List.append_nil _).symm rfl rfl rfl rfl)
    exact (ha'.trans hclose).trans (Activation.destroy_files hb)
  · exact ha'.trans (Activation.destroy_files hb)

theorem addState_files {env : Env K P W} {id : K} {st st' : State D} {s s' : Sys K P D W}
    (h : addState env id st s = .ok (s', st')) : s.Files s' := by
  obtain ⟨a, b, ha, hb, rfl, rfl⟩ := addState_eq_ok h
  have hopen : a.sys.Files
      (if a.state.state = a.sys.sm.endStateID then a.sys else a.sys.poolAdd id a.state) := by
    split
    · exact .refl _
    · exact .of_eq (l := [.opened id a.state]) rfl rfl rfl rfl rfl
  have ha' : s.Files a.sys := callFun_files ha
  exact (ha'.trans hopen).trans (Activation.destroy_files hb)

theorem addStateNoFun_files (id : K) (st : State D) (s : Sys K P D W) :
    s.Files (addStateNoFun id st s) := by
  unfold addStateNoFun
  split
  · exact .refl s
  · exact .of_eq (l := [.opened id st]) rfl rfl rfl rfl rfl

variable [Inhabited D]

theorem Sys.findState_files {id : K} {s s' : Sys K P D W} {o : Option (State D)}
    (h : s.findState id = .ok (s', o)) : s.Files s' := by
  have hF := findState_found h
  rcases hF.log with hlog | hlog
  · exact .of_eq (hlog.trans (List.append_nil _).symm) rfl (by rw [hF.sm]) (by rw [hF.sm])
      (by rw [hF.sm])
  · exact .of_eq hlog rfl (by rw [hF.sm]) (by rw [hF.sm]) (by rw [hF.sm])

theorem runPkt_files {env : Env K P W} {cur : Nat} {s s' : Sys K P D W}
    (h : runPkt env cur s = .ok s') : s.Files s' := by
  have hrun : s.Files (s.emit (.run cur)) := .of_eq rfl rfl rfl rfl rfl
  obtain ⟨pkt, -, hcase⟩ := runPkt_eq_ok h
  rcases hcase with ⟨-, hdrop⟩ | ⟨id, s₁, -, hf, hdrop⟩ | ⟨id, s₁, st, -, hf, hstate⟩
  · obtain ⟨ba, rfl⟩ := Sys.markDropPkt_eq hdrop
    exact hrun.trans (.of_eq (l := [.unidentified cur]) rfl rfl rfl rfl rfl)
  · obtain ⟨ba, rfl⟩ := Sys.markDropPkt_eq hdrop
    exact (hrun.trans (Sys.findState_files hf)).trans
      (.of_eq (l := [.discarded cur id]) rfl rfl rfl rfl rfl)
  · exact (hrun.trans (Sys.findState_files hf)).trans (runState_files hstate)

/-! ### A pass -/

/-- The pass from `s` calls the function of `t`, which leaves the activation `a`. -/
structure Sys.Firing (env : Env K P W) (s : Sys K P D W) (t : Timeout) (td : TimeoutData K P D W)
    (a : Activation K P D W) : Prop where
  top : env.topRule.top s.sm.timeoutsQ = some t
  due : t.time ≤ env.clock s.ticks
  valid : s.sm.timeoutFunctions.lookup t.timeoutID = some td
  ran : ∃ s₁ st, ({ s with ticks := s.ticks + 1 } : Sys K P D W).findState td.id = .ok (s₁, some st) ∧
    exec env (td.func (startTimeout t td.id st s₁).state) (startTimeout t td.id st s₁) = .ok a

/-- The step is a pass, and the function it calls sets a timeout. -/
def Op.Rearms (env : Env K P W) (s : Sys K P D W) (c : Op K P D) : Prop :=
  c = .pass ∧ ∃ t td a, s.Firing env t td a ∧ a.sys.sm.timeoutsQ ≠ s.sm.timeoutsQ

theorem Sys.Firing.files {env : Env K P W} {s : Sys K P D W} {t : Timeout}
    {td : TimeoutData K P D W} {a : Activation K P D W} (h : s.Firing env t td a) :
    s.Files a.sys := by
  obtain ⟨s₁, st, hf, ha⟩ := h.ran
  have htick : s.Files { s with ticks := s.ticks + 1 } :=
    .of_eq (List.append_nil _).symm rfl rfl rfl rfl
  have hfire : s₁.Files (startTimeout t td.id st s₁).sys := .of_eq rfl rfl rfl rfl rfl
  exact ((htick.trans (Sys.findState_files hf)).trans hfire).trans (exec_files ha)

/-- A pass does nothing, drops an entry that is not valid, or fires. -/
theorem Sys.pass_firing {env : Env K P W} {s s' : Sys K P D W} (h : s.pass env = .ok s') :
    (s'.sm = s.sm ∧ s'.log = s.log ∧ ∀ t td a, ¬ s.Firing env t td a) ∨
    (∃ t, env.topRule.top s.sm.timeoutsQ = some t ∧
      s.sm.timeoutFunctions.lookup t.timeoutID = none ∧
      s'.sm = { s.sm with timeoutsQ := env.topRule.pop s.sm.timeoutsQ } ∧ s'.log = s.log) ∨
    ∃ t td a ba, s.Firing env t td a ∧
      s' = { endTimeout env t td.id a with pktsBA := ba } := by
  rcases Sys.pass_eq_ok h with ⟨htop, rfl⟩ | ⟨t, htop, hlate, rfl⟩ | ⟨t, htop, -, hnone, rfl⟩ |
    ⟨t, td, htop, hdue, hvalid, hfire⟩
  · refine Or.inl ⟨rfl, rfl, ?_⟩
    intro t td a hfiring
    exact absurd (htop.symm.trans hfiring.top) (by simp)
  · refine Or.inl ⟨rfl, rfl, ?_⟩
    intro u td a hfiring
    have htu : t = u := Option.some.inj (htop.symm.trans hfiring.top)
    have hdue := hfiring.due
    rw [← htu] at hdue
    omega
  · exact Or.inr (Or.inl ⟨t, htop, hnone, rfl, rfl⟩)
  · obtain ⟨s₁, st, a, ba, new, hf, ha, -, rfl⟩ := fireTimeout_calm hfire
    exact Or.inr (Or.inr ⟨t, td, a, ba, ⟨htop, hdue, hvalid, s₁, st, hf, ha⟩, rfl⟩)

omit [Inhabited D] in
theorem endTimeout_sm (env : Env K P W) (t : Timeout) (id : K) (a : Activation K P D W) :
    (endTimeout env t id a).sm.timeoutsQ = env.topRule.pop a.sys.sm.timeoutsQ ∧
      (endTimeout env t id a).sm.timeoutFunctions
        = a.sys.sm.timeoutFunctions.erase t.timeoutID ∧
      (endTimeout env t id a).sm.curTimeoutID = a.sys.sm.curTimeoutID := by
  unfold endTimeout
  split
  · exact ⟨rfl, rfl, rfl⟩
  · exact ⟨rfl, rfl, rfl⟩

omit [Inhabited D] in
theorem endTimeout_log (env : Env K P W) (t : Timeout) (id : K) (a : Activation K P D W) :
    ∃ fin, (endTimeout env t id a).log = a.sys.log ++ fin ∧ setIDs fin = [] := by
  unfold endTimeout
  split
  · obtain ⟨fin, hfin, hcase⟩ := a.commit.removeState_log id
    refine ⟨fin, hfin, ?_⟩
    rcases hcase with rfl | rfl
    · rfl
    · rfl
  · exact ⟨[], (List.append_nil _).symm, rfl⟩

omit [DecidableEq K] [Inhabited D] in
/-- Taking the entry of an ID off the queue, along with the function if it is valid. -/
theorem Sys.Filed.drop {s s' : Sys K P D W} (h : s.Filed) {t : Timeout}
    (hids : setIDs s'.log = setIDs s.log)
    (hqueue : s'.sm.timeoutsQ = s.sm.timeoutsQ.erase t)
    (hvalid : ∀ tid ∈ s'.sm.timeoutFunctions,
      tid ∈ s.sm.timeoutFunctions ∧ tid ≠ t.timeoutID) : s'.Filed := by
  refine ⟨?_, ?_, ?_⟩
  · intro u hu
    rw [hqueue] at hu
    rw [hids]
    exact h.known u (List.mem_of_mem_erase hu)
  · rw [hqueue]
    exact h.distinct.sublist (List.erase_sublist.map _)
  · intro tid htid
    obtain ⟨hold, hne⟩ := hvalid tid htid
    obtain ⟨u, hu, rfl⟩ := List.mem_map.mp (h.filed tid hold)
    rw [hqueue]
    refine List.mem_map_of_mem ((List.mem_erase_of_ne ?_).mpr hu)
    intro heq
    exact hne (congrArg Timeout.timeoutID heq)

/-- A pass in which no timeout is set pops the entry it looked at. -/
theorem Sys.Firing.pops {env : Env K P W} {s : Sys K P D W} {t : Timeout}
    {td : TimeoutData K P D W} {a : Activation K P D W} (h : s.Firing env t td a)
    (hno : ¬ Op.pass.Rearms env s) :
    (endTimeout env t td.id a).sm.timeoutsQ = s.sm.timeoutsQ.erase t := by
  have hqueue : a.sys.sm.timeoutsQ = s.sm.timeoutsQ := by
    by_contra hne
    exact hno ⟨rfl, t, td, a, h, hne⟩
  rw [(endTimeout_sm env t td.id a).1, hqueue, env.topRule.pop_eq h.top]

theorem Sys.pass_files {env : Env K P W} {s s' : Sys K P D W} (h : s.pass env = .ok s') :
    (∃ new, s'.log = s.log ++ new) ∧ (s.Numbered → s'.Numbered) ∧
      (¬ Op.pass.Rearms env s → s.Numbered → s'.Unwrapped → s.Filed → s'.Filed) := by
  rcases Sys.pass_firing h with ⟨hsm, hlog, -⟩ | ⟨t, htop, hnone, hsm, hlog⟩ |
    ⟨t, td, a, ba, hfiring, rfl⟩
  · have hfiles : s.Files s' := .of_eq (hlog.trans (List.append_nil _).symm) rfl (by rw [hsm])
      (by rw [hsm]) (by rw [hsm])
    exact ⟨hfiles.log, hfiles.numbered, fun _ => hfiles.filed⟩
  · refine ⟨⟨[], hlog.trans (List.append_nil _).symm⟩, ?_, ?_⟩
    · intro hn
      exact ⟨by rw [hsm, hlog]; exact hn.next, by rw [hlog]; exact hn.ids⟩
    · intro _ _ _ hfiled
      refine hfiled.drop (t := t) (by rw [hlog]) ?_ ?_
      · rw [hsm]
        exact env.topRule.pop_eq htop
      · intro tid htid
        rw [hsm] at htid
        refine ⟨htid, ?_⟩
        intro heq
        exact Finmap.lookup_eq_none.mp hnone (heq ▸ htid)
  · have hfiles := hfiring.files
    obtain ⟨hqueue, hvalid, hcur⟩ := endTimeout_sm env t td.id a
    obtain ⟨fin, hfin, hnone⟩ := endTimeout_log env t td.id a
    have hids : setIDs (endTimeout env t td.id a).log = setIDs a.sys.log := by
      rw [hfin, setIDs_append, hnone, List.append_nil]
    obtain ⟨new, hnew⟩ := hfiles.log
    refine ⟨⟨new ++ fin, ?_⟩, ?_, ?_⟩
    · show (endTimeout env t td.id a).log = _
      rw [hfin, hnew, List.append_assoc]
    · intro hn
      have ha := hfiles.numbered hn
      constructor
      · show (endTimeout env t td.id a).sm.curTimeoutID = UInt32.ofNat (setIDs
          (endTimeout env t td.id a).log).length
        rw [hcur, hids, ha.next]
      · show setIDs (endTimeout env t td.id a).log = _
        rw [hids]
        exact ha.ids
    · intro hno hn hunwrapped hfiled
      have ha : a.sys.Filed := hfiles.filed hn (hunwrapped.of_append hfin) hfiled
      have hsame : a.sys.sm.timeoutsQ = s.sm.timeoutsQ := by
        by_contra hne
        exact hno ⟨rfl, t, td, a, hfiring, hne⟩
      have htop : env.topRule.top a.sys.sm.timeoutsQ = some t := by
        rw [hsame]
        exact hfiring.top
      refine ha.drop (t := t) hids ?_ ?_
      · exact hqueue.trans (env.topRule.pop_eq htop)
      · intro tid htid
        have htid' : tid ∈ a.sys.sm.timeoutFunctions.erase t.timeoutID := by
          rw [← hvalid]
          exact htid
        obtain ⟨hne, hold⟩ := Finmap.mem_erase.mp htid'
        exact ⟨hold, hne⟩

/-! ### Runs -/

/-- Every step, by cases on it. -/
theorem Sys.op_files {env : Env K P W} {c : Op K P D} {s s' : Sys K P D W}
    (h : s.op env c = .ok s') :
    (∃ new, s'.log = s.log ++ new) ∧ (s.Numbered → s'.Numbered) ∧
      (¬ c.Rearms env s → s.Numbered → s'.Unwrapped → s.Filed → s'.Filed) := by
  have hof : s.Files s' → (∃ new, s'.log = s.log ++ new) ∧ (s.Numbered → s'.Numbered) ∧
      (¬ c.Rearms env s → s.Numbered → s'.Unwrapped → s.Filed → s'.Filed) :=
    fun hfiles => ⟨hfiles.log, hfiles.numbered, fun _ => hfiles.filed⟩
  cases c with
  | batch ba =>
      obtain rfl := Except.ok.inj h
      exact hof (s.pktsBA_files ba)
  | pass => exact Sys.pass_files h
  | packet cur => exact hof (runPkt_files h)
  | addState id st =>
      simp only [Sys.op] at h
      split at h
      · rename_i s₁ st' hadd
        obtain rfl := Except.ok.inj h
        exact hof (addState_files hadd)
      · simp at h
  | addStateNoFun id st =>
      obtain rfl := Except.ok.inj h
      exact hof (addStateNoFun_files id st s)
  | removeState id =>
      obtain rfl := Except.ok.inj h
      exact hof (s.removeState_files id)

/-- A machine on which no timeout has been set yet. -/
structure Sys.Fresh (s : Sys K P D W) : Prop where
  queue : s.sm.timeoutsQ = []
  functions : s.sm.timeoutFunctions = ∅
  next : s.sm.curTimeoutID = 0
  log : setIDs s.log = []

omit [DecidableEq K] [Inhabited D] in
theorem Sys.Fresh.numbered {s : Sys K P D W} (h : s.Fresh) : s.Numbered := by
  refine ⟨?_, ?_⟩
  · rw [h.next, h.log]
    rfl
  · rw [h.log]
    rfl

omit [DecidableEq K] [Inhabited D] in
theorem Sys.Fresh.filed {s : Sys K P D W} (h : s.Fresh) : s.Filed := by
  refine ⟨?_, ?_, ?_⟩
  · simp [h.queue]
  · simp [h.queue]
  · intro tid htid
    rw [h.functions] at htid
    exact absurd htid Finmap.notMem_empty

theorem Sys.Run.log {env : Env K P W} {ok : Sys K P D W → Op K P D → Sys K P D W → Prop}
    {s₀ s : Sys K P D W} (h : Sys.Run env ok s₀ s) : ∃ new, s.log = s₀.log ++ new := by
  induction h with
  | refl => exact ⟨[], (List.append_nil _).symm⟩
  | step c _ hop _ ih =>
      obtain ⟨l, hl⟩ := ih
      obtain ⟨l', hl'⟩ := (Sys.op_files hop).1
      exact ⟨l ++ l', by rw [hl', hl, List.append_assoc]⟩

theorem Sys.Run.numbered {env : Env K P W} {ok : Sys K P D W → Op K P D → Sys K P D W → Prop}
    {s₀ s : Sys K P D W} (h : Sys.Run env ok s₀ s) (hstart : s₀.Numbered) : s.Numbered := by
  induction h with
  | refl => exact hstart
  | step c _ hop _ ih => exact (Sys.op_files hop).2.1 ih

theorem Sys.Run.filed {env : Env K P W} {s₀ s : Sys K P D W}
    (h : Sys.Run env (fun s c _ => ¬ c.Rearms env s) s₀ s) (hstart : s₀.Fresh)
    (hids : s.Unwrapped) : s.Filed := by
  induction h with
  | refl => exact hstart.filed
  | step c hrun hop hok ih =>
      obtain ⟨⟨new, hnew⟩, -, hfiled⟩ := Sys.op_files hop
      exact hfiled hok (hrun.numbered hstart.numbered) hids (ih (hids.of_append hnew))

/--
**Re-arming a timeout**, in every run in which no timeout function sets a timeout itself.

For every machine that starts without timeouts, all functions, every queue and any order of
steps, while the IDs do not wrap: a valid timeout has exactly one entry in the queue, and a
pass that calls a function takes exactly the entry of that timeout off.
-/
theorem Sys.Run.timeout_filed {env : Env K P W} {s₀ s : Sys K P D W} (hstart : s₀.Fresh)
    (hrun : Sys.Run env (fun s c _ => ¬ c.Rearms env s) s₀ s) (hids : s.Unwrapped) :
    (∀ tid ∈ s.sm.timeoutFunctions, (s.sm.timeoutsQ.map (·.timeoutID)).count tid = 1) ∧
    ∀ s', s.op env .pass = .ok s' → ¬ Op.pass.Rearms env s → ∀ t td a, s.Firing env t td a →
      s'.sm.timeoutsQ = s.sm.timeoutsQ.erase t ∧ t.timeoutID ∉ s'.sm.timeoutsQ.map (·.timeoutID) := by
  have hfiled := hrun.filed hstart hids
  refine ⟨fun tid htid => hfiled.count_eq_one htid, ?_⟩
  intro s' hop hno t td a hfiring
  have hqueue : s'.sm.timeoutsQ = s.sm.timeoutsQ.erase t := by
    rcases Sys.pass_firing hop with ⟨-, -, hnone⟩ | ⟨u, htop, hnone, -⟩ |
      ⟨u, td', a', ba, hfiring', rfl⟩
    · exact absurd hfiring (hnone t td a)
    · obtain rfl := Option.some.inj (htop.symm.trans hfiring.top)
      exact absurd (hnone.symm.trans hfiring.valid) (by simp)
    · obtain rfl := Option.some.inj (hfiring'.top.symm.trans hfiring.top)
      exact hfiring'.pops hno
  refine ⟨hqueue, ?_⟩
  intro hmem
  rw [hqueue] at hmem
  obtain ⟨u, hu, heq⟩ := List.mem_map.mp hmem
  have ht := env.topRule.top_mem _ _ hfiring.top
  have hsame : u = t := List.inj_on_of_nodup_map hfiled.distinct (List.mem_of_mem_erase hu) ht heq
  rw [hsame] at hu
  exact hfiled.distinct.of_map.not_mem_erase hu

/-! ### A timeout that sets another -/

/-- Packets are their connection's number, and each reading of the clock is 5 later. -/
def rearmEnv : Env Nat Nat Unit := { lingerEnv with clock := fun n => 5 * n }

/-- Sets a timeout; on connection 7 its function sets the next one. -/
def rearmFun : StateFun Nat Nat Unit := fun _ p =>
  .setTimeout 1 (fun _ => if p = 7 then .setTimeout 10 (fun _ => .done) .done else .done) .done

/-- A client with that function. -/
def rearm : Sys Nat Nat Nat Unit :=
  { linger with sm := StateMachine.new.registerFunction 0 rearmFun }

/-- The client after it opened a connection and got the first packet of it. -/
def rearmed (id idx : Nat) : Except Fault (Sys Nat Nat Nat Unit) :=
  runPkt rearmEnv idx (addStateNoFun id (State.new 0 0) rearm)

theorem rearmed_run {id idx : Nat} {s : Sys Nat Nat Nat Unit} (h : rearmed id idx = .ok s) :
    Sys.Run rearmEnv (fun s c _ => ¬ c.Rearms rearmEnv s) rearm s := by
  refine .step (.packet idx) (.step (.addStateNoFun id (State.new 0 0)) .refl rfl ?_) h ?_
  · intro hc
    cases hc.1
  · intro hc
    cases hc.1

/-- The timeout that fires sets another.  Its new entry is popped and the old one stays: the new
timeout is valid, and never looked at. -/
theorem rearmed_not_filed : ∃ s s' : Sys Nat Nat Nat Unit,
    Sys.Run rearmEnv (fun s c _ => ¬ c.Rearms rearmEnv s) rearm s ∧
      s.op rearmEnv .pass = .ok s' ∧ s'.Unwrapped ∧ 1 ∈ s'.sm.timeoutFunctions ∧
      s'.sm.timeoutsQ = [⟨1, 0⟩] := by
  obtain ⟨s, hs⟩ : ∃ s, rearmed 7 0 = .ok s := ⟨_, rfl⟩
  have hrun := rearmed_run hs
  obtain rfl : s = ((rearmed 7 0).toOption.get rfl) := by
    simp only [hs]
    rfl
  exact ⟨_, _, hrun, rfl, by decide, by decide, rfl⟩

/-- On connection 8 it sets none. -/
theorem Sys.Run.timeout_filed_rearm : ∃ s : Sys Nat Nat Nat Unit,
    (∀ tid ∈ s.sm.timeoutFunctions, (s.sm.timeoutsQ.map (·.timeoutID)).count tid = 1) ∧
    ∀ s', s.op rearmEnv .pass = .ok s' → ¬ Op.pass.Rearms rearmEnv s →
      ∀ t td a, s.Firing rearmEnv t td a →
        s'.sm.timeoutsQ = s.sm.timeoutsQ.erase t ∧
          t.timeoutID ∉ s'.sm.timeoutsQ.map (·.timeoutID) := by
  obtain ⟨s, hs⟩ : ∃ s, rearmed 8 1 = .ok s := ⟨_, rfl⟩
  have hids : s.Unwrapped := by
    obtain rfl : s = ((rearmed 8 1).toOption.get rfl) := by
      simp only [hs]
      rfl
    decide
  have hstart : rearm.Fresh := ⟨rfl, rfl, rfl, rfl⟩
  exact ⟨s, Sys.Run.timeout_filed hstart (rearmed_run hs) hids⟩

end MoonState
