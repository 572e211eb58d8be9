/-
The life of a timeout.

A number is given out by `setTimeout` and ends in one of two ways: the function is
called, or a packet cancels it.  The queue can lose an entry (`Proofs/Rearm.lean`) and
a removed connection can leave a function behind (`Proofs/Timeouts.lean`); neither
makes the machine call a function twice, or call one that was never set.

`Issues` is what the machine does to its timeouts between two looks at the queue, one
lemma a call.  `Turns` adds the two ways of ending, and `Timely` is the invariant: a
number that is pending was set and has not been called.  All of it holds while the
numbers do not wrap.
-/
import MoonState.Proofs.Promptness
import MoonState.Proofs.TimeoutIDs

namespace MoonState

variable {K P D W : Type}

/-! ### What was set, what was called, what is pending -/

/-- The number and the connection an event says a timeout was set for. -/
def Event.armed : Event K D P → Option (TimeoutID × K)
  | .arm tid id => some (tid, id)
  | _ => none

/-- The timeouts set, in order. -/
def arms (log : List (Event K D P)) : List (TimeoutID × K) := log.filterMap Event.armed

/-- The number and the connection of the function an event says is called. -/
def Event.rang : Event K D P → Option (TimeoutID × K)
  | .fire t id => some (t.timeoutID, id)
  | _ => none

/-- The timeouts whose function was called, in order. -/
def rings (log : List (Event K D P)) : List (TimeoutID × K) := log.filterMap Event.rang

@[simp] theorem arms_append (l l' : List (Event K D P)) : arms (l ++ l') = arms l ++ arms l' :=
  List.filterMap_append

@[simp] theorem rings_append (l l' : List (Event K D P)) : rings (l ++ l') = rings l ++ rings l' :=
  List.filterMap_append

theorem mem_arms {log : List (Event K D P)} {tid : TimeoutID} {id : K} :
    (tid, id) ∈ arms log ↔ .arm tid id ∈ log := by
  unfold arms
  rw [List.mem_filterMap]
  constructor
  · rintro ⟨e, he, harmed⟩
    cases e with
    | arm t k =>
        obtain ⟨rfl, rfl⟩ := Prod.mk.inj (Option.some.inj harmed)
        exact he
    | _ => simp [Event.armed] at harmed
  · intro h
    exact ⟨_, h, rfl⟩

theorem mem_rings {log : List (Event K D P)} {tid : TimeoutID} {id : K} :
    (tid, id) ∈ rings log ↔ ∃ time, .fire ⟨time, tid⟩ id ∈ log := by
  unfold rings
  rw [List.mem_filterMap]
  constructor
  · rintro ⟨e, he, hrang⟩
    cases e with
    | fire t k =>
        obtain ⟨rfl, rfl⟩ := Prod.mk.inj (Option.some.inj hrang)
        exact ⟨t.time, he⟩
    | _ => simp [Event.rang] at hrang
  · rintro ⟨time, h⟩
    exact ⟨_, h, rfl⟩

theorem setIDs_eq_arms (log : List (Event K D P)) : setIDs log = (arms log).map Prod.fst := by
  unfold setIDs arms
  rw [List.map_filterMap]
  refine List.filterMap_congr ?_
  intro e _
  cases e with
  | _ => rfl

/-- The connection a valid number belongs to. -/
def Sys.pending (s : Sys K P D W) (tid : TimeoutID) : Option K :=
  (s.sm.timeoutFunctions.lookup tid).map TimeoutData.id

theorem Sys.pending_eq {s s' : Sys K P D W}
    (h : s'.sm.timeoutFunctions = s.sm.timeoutFunctions) (tid : TimeoutID) :
    s'.pending tid = s.pending tid := by
  unfold pending
  rw [h]

/-! ### Setting timeouts -/

/-- From `s` to `s'` the timeouts `new` were set, and none ended. -/
structure Sys.Issues (s s' : Sys K P D W) (new : List (TimeoutID × K)) : Prop where
  arms : arms s'.log = arms s.log ++ new
  rings : rings s'.log = rings s.log
  /-- A number that is in use keeps its connection. -/
  pending : ∀ tid, s'.pending tid = (s.pending tid).or (new.lookup tid)

namespace Sys.Issues

variable {s t u : Sys K P D W}

theorem trans {l l' : List (TimeoutID × K)} (h : s.Issues t l) (h' : t.Issues u l') :
    s.Issues u (l ++ l') := by
  refine ⟨?_, h'.rings.trans h.rings, ?_⟩
  · rw [h'.arms, h.arms, List.append_assoc]
  · intro tid
    rw [h'.pending, h.pending, List.lookup_append, Option.or_assoc]

/-- A step that leaves the timeouts alone. -/
theorem of_eq {l : List (Event K D P)} (hlog : t.log = s.log ++ l) (harms : MoonState.arms l = [])
    (hrings : MoonState.rings l = []) (hvalid : t.sm.timeoutFunctions = s.sm.timeoutFunctions) :
    s.Issues t [] := by
  refine ⟨?_, ?_, ?_⟩
  · rw [hlog, arms_append, harms]
  · rw [hlog, rings_append, hrings, List.append_nil]
  · intro tid
    rw [pending_eq hvalid, List.lookup_nil, Option.or_none]

theorem refl (s : Sys K P D W) : s.Issues s [] :=
  of_eq (List.append_nil _).symm rfl rfl rfl

end Sys.Issues

theorem Sys.emit_issues (s : Sys K P D W) (e : Event K D P) (harmed : e.armed = none)
    (hrang : e.rang = none) : s.Issues (s.emit e) [] := by
  refine .of_eq rfl ?_ ?_ rfl
  · simp [arms, harmed]
  · simp [rings, hrang]

theorem Sys.pktsBA_issues (s : Sys K P D W) (ba : BufArray P) : s.Issues { s with pktsBA := ba } [] :=
  .of_eq (List.append_nil _).symm rfl rfl rfl

theorem Sys.markDropPkt_issues {env : Env K P W} {s s' : Sys K P D W} {idx : Nat}
    (h : s.markDropPkt env idx = .ok s') : s.Issues s' [] := by
  obtain ⟨ba, rfl⟩ := markDropPkt_eq h
  exact s.pktsBA_issues ba

theorem Activation.setTimeout_issues (env : Env K P W) (a : Activation K P D W) (t : Int)
    (f : TimeoutFun P D W) :
    a.sys.Issues (a.setTimeout env t f).sys [(a.sys.sm.curTimeoutID, a.iface.cID)] := by
  have hring : rings (a.setTimeout env t f).sys.log = rings a.sys.log ++ [] := rings_append _ _
  refine ⟨arms_append _ _, hring.trans (List.append_nil _), ?_⟩
  intro tid
  show (Finmap.lookup tid (FMap.insertNew a.sys.sm.curTimeoutID ⟨a.iface.cID, f⟩
    a.sys.sm.timeoutFunctions)).map TimeoutData.id = _
  unfold Sys.pending
  by_cases htid : tid = a.sys.sm.curTimeoutID
  · rw [htid, FMap.lookup_insertNew_self]
    cases a.sys.sm.timeoutFunctions.lookup a.sys.sm.curTimeoutID with
    | none => simp
    | some td => simp
  · have hbeq : (tid == a.sys.sm.curTimeoutID) = false := beq_eq_false_iff_ne.mpr htid
    rw [FMap.lookup_insertNew_ne _ _ htid]
    simp [List.lookup_cons, hbeq]

theorem exec_issues {env : Env K P W} {c : Code P D W} {a a' : Activation K P D W}
    (h : exec env c a = .ok a') : ∃ new, a.sys.Issues a'.sys new := by
  refine exec_rule env Powers.all (R := fun a a' => ∃ new, a.sys.Issues a'.sys new)
    (fun a => ⟨[], .refl _⟩) ?_ ?_ ?_ ?_ (fun a n => ⟨[], .refl _⟩) (fun _ a n => ⟨[], .refl _⟩)
    (fun _ a t f => ⟨_, a.setTimeout_issues env t f⟩) c c.within_all h
  · rintro a b c ⟨l, hl⟩ ⟨l', hl'⟩
    exact ⟨l ++ l', hl.trans hl'⟩
  · intro a d w
    exact ⟨[], .of_eq (List.append_nil _).symm rfl rfl rfl⟩
  · intro a
    exact ⟨[], a.sys.emit_issues (.freePkt a.iface.pktIdx) rfl rfl⟩
  · intro a p a' hp
    obtain ⟨cb, ba, -, -, -, rfl⟩ := Activation.getPkt_eq_ok hp
    exact ⟨[], .of_eq (l := [.getPkt p]) rfl rfl rfl rfl⟩

theorem callFun_issues {env : Env K P W} {a a' : Activation K P D W} (h : callFun env a = .ok a') :
    ∃ new, a.sys.Issues a'.sys new := by
  obtain ⟨f, p, -, -, hexec⟩ := callFun_eq_ok h
  obtain ⟨new, hnew⟩ := exec_issues hexec
  exact ⟨_, (a.sys.emit_issues (.call a.iface.cID a.state) rfl rfl).trans hnew⟩

variable [DecidableEq K]

theorem Sys.removeState_issues (s : Sys K P D W) (id : K) : s.Issues (s.removeState id) [] := by
  obtain ⟨fin, hfin, rfl | rfl⟩ := s.removeState_log id
  · exact .of_eq hfin rfl rfl rfl
  · exact .of_eq hfin rfl rfl rfl

theorem Activation.commit_issues (a : Activation K P D W) : a.sys.Issues a.commit [] :=
  .of_eq (List.append_nil _).symm rfl rfl rfl

theorem Activation.destroy_issues {env : Env K P W} {home : Home} {a a' : Activation K P D W}
    (h : a.destroy env home = .ok a') : ∃ new, a.sys.Issues a'.sys new := by
  obtain ⟨ba, -, ⟨-, rfl⟩ | ⟨-, -, b, s, hb, hs, rfl⟩⟩ := destroy_eq_ok h
  · exact ⟨[], a.sys.pktsBA_issues ba⟩
  · obtain ⟨new, hnew⟩ := callFun_issues hb
    have hs' : b.sys.Issues s [] := by
      rw [hs]
      split
      · exact b.commit_issues
      · exact .refl _
    have hend : s.Issues (if b.state.state = s.sm.endStateID then s.removeState b.iface.cID
        else s) [] := by
      split
      · exact s.removeState_issues _
      · exact .refl s
    exact ⟨_, ((a.sys.pktsBA_issues ba).trans hnew).trans (hs'.trans hend)⟩

/-- After the cancelling, a packet only sets timeouts. -/
theorem runState_issues {env : Env K P W} {cur : Nat} {id : K} {st : State D} {s s' : Sys K P D W}
    (h : runState env cur id st s = .ok s') : ∃ new, (s.cancelTimeout st).Issues s' new := by
  obtain ⟨a, b, ha, rfl, hb⟩ := runState_eq_ok h
  obtain ⟨new, hnew⟩ := callFun_issues ha
  have ha' := Sys.Issues.trans hnew a.commit_issues
  rcases hb with ⟨-, hb⟩ | ⟨-, hb⟩
  · obtain ⟨new', hnew'⟩ := Activation.destroy_issues hb
    have hclose : a.commit.Issues (closeState id a.commit) _ :=
      (a.commit.removeState_issues id).trans (.of_eq (List.append_nil _).symm rfl rfl rfl)
    exact ⟨_, ha'.trans (hclose.trans hnew')⟩
  · obtain ⟨new', hnew'⟩ := Activation.destroy_issues hb
    exact ⟨_, ha'.trans hnew'⟩

theorem addState_issues {env : Env K P W} {id : K} {st st' : State D} {s s' : Sys K P D W}
    (h : addState env id st s = .ok (s', st')) : ∃ new, s.Issues s' new := by
  obtain ⟨a, b, ha, hb, rfl, rfl⟩ := addState_eq_ok h
  obtain ⟨new, hnew⟩ := callFun_issues ha
  obtain ⟨new', hnew'⟩ := Activation.destroy_issues hb
  have hopen : a.sys.Issues
      (if a.state.state = a.sys.sm.endStateID then a.sys else a.sys.poolAdd id a.state) [] := by
    split
    · exact .refl _
    · exact .of_eq (l := [.opened id a.state]) rfl rfl rfl rfl
  exact ⟨_, (Sys.Issues.trans hnew hopen).trans hnew'⟩

theorem addStateNoFun_issues (id : K) (st : State D) (s : Sys K P D W) :
    s.Issues (addStateNoFun id st s) [] := by
  unfold addStateNoFun
  split
  · exact .refl s
  · exact .of_eq (l := [.opened id st]) rfl rfl rfl rfl

theorem Sys.findState_issues [Inhabited D] {id : K} {s s' : Sys K P D W} {o : Option (State D)}
    (h : s.findState id = .ok (s', o)) : s.Issues s' [] := by
  have hF := findState_found h
  rcases hF.log with hlog | hlog
  · exact .of_eq (hlog.trans (List.append_nil _).symm) rfl rfl (by rw [hF.sm])
  · exact .of_eq hlog rfl rfl (by rw [hF.sm])

/-! ### Ending timeouts -/

/-- A step of `s` in which the numbers `gone` end, `called` those whose function it calls. -/
inductive Op.Ends [Inhabited D] (env : Env K P W) (s : Sys K P D W) :
    Op K P D → (TimeoutID → Prop) → List (TimeoutID × K) → Prop
  | none (c : Op K P D) : Op.Ends env s c (fun _ => False) []
  | packet (c : Op K P D) (id : K) (h : c.OfPacket env s id) : Op.Ends env s c (s.Remembers id) []
  | call (t : Timeout) (td : TimeoutData K P D W) (a : Activation K P D W)
      (h : s.Firing env t td a) :
      Op.Ends env s .pass (fun tid => tid = t.timeoutID) [(t.timeoutID, td.id)]

/-- From `s` to `s'` the numbers `gone` ended, `called` those whose function was called, and the
timeouts `new` were set. -/
structure Sys.Turns (gone : TimeoutID → Prop) (called new : List (TimeoutID × K))
    (s s' : Sys K P D W) : Prop where
  arms : arms s'.log = arms s.log ++ new
  rings : rings s'.log = rings s.log ++ called
  kept : ∀ tid, ¬ gone tid → s'.pending tid = (s.pending tid).or (new.lookup tid)
  gone : ∀ tid, gone tid → s'.pending tid = new.lookup tid

omit [DecidableEq K] in
theorem Sys.Issues.turns {s s' : Sys K P D W} {new : List (TimeoutID × K)} (h : s.Issues s' new) :
    Sys.Turns (fun _ => False) [] new s s' :=
  ⟨h.arms, h.rings.trans (List.append_nil _).symm, fun tid _ => h.pending tid,
    fun _ hc => absurd hc id⟩

omit [DecidableEq K] in
/-- Cancelling ends the one number. -/
theorem Sys.cancelTimeout_pending (s : Sys K P D W) (st : State D) (tid : TimeoutID) :
    (¬ (st.timeoutID = tid ∧ tid ≠ timeoutIDInvalid) →
      (s.cancelTimeout st).pending tid = s.pending tid) ∧
    (st.timeoutID = tid ∧ tid ≠ timeoutIDInvalid → (s.cancelTimeout st).pending tid = none) := by
  unfold pending
  constructor
  · intro hno
    congr 1
    ext td
    rw [Sys.cancelTimeout_lookup_iff]
    exact ⟨fun h => h.1, fun h => ⟨h, hno⟩⟩
  · intro hyes
    rw [Option.map_eq_none_iff, Option.eq_none_iff_forall_ne_some]
    intro td hl
    exact (Sys.cancelTimeout_lookup_iff.mp hl).2 hyes

section Step

variable [Inhabited D] {env : Env K P W} {s s' : Sys K P D W}

/-- A packet ends what the `State` of its connection remembers. -/
theorem runPkt_turns {cur : Nat} (h : runPkt env cur s = .ok s') :
    ∃ gone called new, Op.Ends env s (.packet cur) gone called ∧ Sys.Turns gone called new s s' := by
  have hrun := s.emit_issues (.run cur) rfl rfl
  obtain ⟨pkt, hpkt, hcase⟩ := runPkt_eq_ok h
  rcases hcase with ⟨-, hdrop⟩ | ⟨id, s₁, -, hf, hdrop⟩ | ⟨id, s₁, st, hid, hf, hstate⟩
  · have hdrop' := ((s.emit (.run cur)).emit_issues (.unidentified cur) rfl rfl).trans
      (Sys.markDropPkt_issues hdrop)
    exact ⟨_, _, _, .none _, (hrun.trans hdrop').turns⟩
  · have hdrop' := (s₁.emit_issues (.discarded cur id) rfl rfl).trans (Sys.markDropPkt_issues hdrop)
    exact ⟨_, _, _, .none _, ((hrun.trans (Sys.findState_issues hf)).trans hdrop').turns⟩
  · have hfound := hrun.trans (Sys.findState_issues hf)
    obtain ⟨new, hnew⟩ := runState_issues hstate
    have hlog : (s₁.cancelTimeout st).log = s₁.log := Sys.cancelTimeout_log s₁ st
    have hrem : ∀ tid, s.Remembers id tid ↔ st.timeoutID = tid ∧ tid ≠ timeoutIDInvalid :=
      fun tid => Sys.findState_remembers (s := s.emit (.run cur)) hf tid
    have hsame : ∀ tid, s₁.pending tid = s.pending tid := by
      intro tid
      rw [hfound.pending, List.append_nil, List.lookup_nil, Option.or_none]
    refine ⟨_, _, new, .packet _ id ⟨cur, pkt, rfl, hpkt, hid⟩, ?_, ?_, ?_, ?_⟩
    · rw [hnew.arms, hlog, hfound.arms]
      simp
    · rw [hnew.rings, hlog, hfound.rings, List.append_nil]
    · intro tid hno
      rw [hnew.pending, (s₁.cancelTimeout_pending st tid).1 (fun hc => hno ((hrem tid).mpr hc)), hsame]
    · intro tid hyes
      rw [hnew.pending, (s₁.cancelTimeout_pending st tid).2 ((hrem tid).mp hyes), Option.none_or]

/-- What the function of a timeout does to the timeouts. -/
theorem Sys.Firing.issues {t : Timeout} {td : TimeoutData K P D W} {a : Activation K P D W}
    (h : s.Firing env t td a) : ∃ new, arms a.sys.log = arms s.log ++ new ∧
      rings a.sys.log = rings s.log ++ [(t.timeoutID, td.id)] ∧
      ∀ tid, a.sys.pending tid = (s.pending tid).or (new.lookup tid) := by
  obtain ⟨s₁, st, hf, ha⟩ := h.ran
  have htick : s.Issues { s with ticks := s.ticks + 1 } [] :=
    .of_eq (List.append_nil _).symm rfl rfl rfl
  have hfound := htick.trans (Sys.findState_issues hf)
  obtain ⟨new, hnew⟩ := exec_issues ha
  have harms : arms (startTimeout t td.id st s₁).sys.log = arms s₁.log ++ [] := arms_append _ _
  have hrings : rings (startTimeout t td.id st s₁).sys.log
      = rings s₁.log ++ [(t.timeoutID, td.id)] := rings_append _ _
  refine ⟨new, ?_, ?_, ?_⟩
  · rw [hnew.arms, harms, hfound.arms]
    simp
  · rw [hnew.rings, hrings, hfound.rings]
  · intro tid
    rw [hnew.pending]
    show (s₁.pending tid).or _ = _
    rw [hfound.pending, List.append_nil, List.lookup_nil, Option.or_none]

omit [Inhabited D] in
/-- What is left when it has returned. -/
theorem endTimeout_issues (env : Env K P W) (t : Timeout) (id : K) (a : Activation K P D W) :
    arms (endTimeout env t id a).log = arms a.sys.log ∧
      rings (endTimeout env t id a).log = rings a.sys.log ∧
      ∀ tid, (endTimeout env t id a).pending tid
        = if tid = t.timeoutID then none else a.sys.pending tid := by
  have hend : a.sys.Issues (if a.state.state = a.sys.sm.endStateID then a.commit.removeState id
      else a.commit) [] := by
    split
    · exact a.commit_issues.trans (a.commit.removeState_issues id)
    · exact a.commit_issues
  refine ⟨hend.arms.trans (List.append_nil _), hend.rings, ?_⟩
  intro tid
  unfold Sys.pending
  rw [(endTimeout_sm env t id a).2.1]
  by_cases htid : tid = t.timeoutID
  · rw [if_pos htid, htid, Finmap.lookup_erase]
    rfl
  · rw [if_neg htid, Finmap.lookup_erase_ne htid]

/-- What is pending was set. -/
def Sys.Known (s : Sys K P D W) : Prop := ∀ tid id, s.pending tid = some id → (tid, id) ∈ arms s.log

omit [DecidableEq K] [Inhabited D] in
/-- A number given out in a step was not given out before. -/
theorem Sys.Numbered.fresh_of_arms {new : List (TimeoutID × K)} (h : s'.Numbered)
    (hids : s'.Unwrapped) (harms : arms s'.log = arms s.log ++ new) {tid : TimeoutID} {id id' : K}
    (hold : (tid, id) ∈ arms s.log) : (tid, id') ∉ new := by
  intro hnew
  have hnodup := h.nodup hids
  rw [setIDs_eq_arms, harms, List.map_append] at hnodup
  exact List.disjoint_of_nodup_append hnodup (List.mem_map.mpr ⟨_, hold, rfl⟩)
    (List.mem_map.mpr ⟨_, hnew, rfl⟩)

omit [DecidableEq K] in
theorem lookup_eq_none_of_notMem {l : List (TimeoutID × K)} {tid : TimeoutID}
    (h : ∀ id, (tid, id) ∉ l) : l.lookup tid = none := by
  rw [List.lookup_eq_none_iff]
  rintro ⟨tid', id⟩ hmem
  rw [bne_iff_ne]
  rintro rfl
  exact h id hmem

omit [DecidableEq K] in
theorem mem_of_lookup {l : List (TimeoutID × K)} {tid : TimeoutID} {id : K}
    (h : l.lookup tid = some id) : (tid, id) ∈ l := by
  obtain ⟨l₁, l₂, rfl, -⟩ := List.lookup_eq_some_iff.mp h
  simp

/-- A pass ends the timeout whose function it calls. -/
theorem Sys.pass_turns (hknown : s.Known) (hn : s'.Numbered) (hids : s'.Unwrapped)
    (h : s.pass env = .ok s') :
    ∃ gone called new, Op.Ends env s .pass gone called ∧ Sys.Turns gone called new s s' := by
  rcases Sys.pass_firing h with ⟨hsm, hlog, -⟩ | ⟨t, -, -, hsm, hlog⟩ | ⟨t, td, a, ba, hfiring, rfl⟩
  · exact ⟨_, _, _, .none _, (Sys.Issues.of_eq (hlog.trans (List.append_nil _).symm) rfl rfl
      (by rw [hsm])).turns⟩
  · exact ⟨_, _, _, .none _, (Sys.Issues.of_eq (hlog.trans (List.append_nil _).symm) rfl rfl
      (by rw [hsm])).turns⟩
  · obtain ⟨new, harms, hrings, hpending⟩ := hfiring.issues
    obtain ⟨harms', hrings', hpending'⟩ := endTimeout_issues env t td.id a
    have hvalid : s.pending t.timeoutID = some td.id := by
      unfold Sys.pending
      rw [hfiring.valid]
      rfl
    refine ⟨_, _, new, .call t td a hfiring, harms'.trans harms, hrings'.trans hrings, ?_, ?_⟩
    · intro tid hno
      refine (hpending' tid).trans ?_
      rw [if_neg hno, hpending]
    · rintro tid rfl
      refine (hpending' t.timeoutID).trans ?_
      rw [if_pos rfl, lookup_eq_none_of_notMem]
      intro id
      exact hn.fresh_of_arms hids (harms'.trans harms) (hknown _ _ hvalid)

/-- **What a step does to the timeouts.** -/
theorem Sys.op_turns {c : Op K P D} (hknown : s.Known) (hn : s'.Numbered) (hids : s'.Unwrapped)
    (h : s.op env c = .ok s') :
    ∃ gone called new, c.Ends env s gone called ∧ Sys.Turns gone called new s s' := by
  cases c with
  | batch ba =>
      obtain rfl := Except.ok.inj h
      exact ⟨_, _, _, .none _, (s.pktsBA_issues ba).turns⟩
  | pass => exact Sys.pass_turns hknown hn hids h
  | packet cur => exact runPkt_turns h
  | addState id st =>
      simp only [Sys.op] at h
      split at h
      · rename_i s₁ st' hadd
        obtain rfl := Except.ok.inj h
        obtain ⟨new, hnew⟩ := addState_issues hadd
        exact ⟨_, _, new, .none _, hnew.turns⟩
      · simp at h
  | addStateNoFun id st =>
      obtain rfl := Except.ok.inj h
      exact ⟨_, _, _, .none _, (addStateNoFun_issues id st s).turns⟩
  | removeState id =>
      obtain rfl := Except.ok.inj h
      exact ⟨_, _, _, .none _, (s.removeState_issues id).turns⟩

/-! ### The invariant -/

omit [Inhabited D] in
theorem Sys.Remembers.arm (h : s.Owned) {id : K} {tid : TimeoutID} (hrem : s.Remembers id tid) :
    (tid, id) ∈ arms s.log := by
  obtain ⟨st, hst, rfl, hvalid⟩ := hrem
  refine mem_arms.mpr ?_
  rcases Option.or_eq_some_iff.mp hst with hst | ⟨-, hst⟩
  · exact h.table id st hst hvalid
  · exact h.pool id st hst hvalid

/-- **The invariant.**  A number that is pending was set and has not been called; a function is
called once, and after it was set. -/
structure Sys.Timely (s : Sys K P D W) : Prop where
  known : s.Known
  once : ((rings s.log).map Prod.fst).Nodup
  apart : ∀ tid id, s.pending tid = some id → tid ∉ (rings s.log).map Prod.fst
  set : Trace.Always (fun before e => ∀ p, e.rang = some p → p ∈ arms before) s.log

omit [DecidableEq K] [Inhabited D] in
theorem Sys.Timely.armed (h : s.Timely) {p : TimeoutID × K} (hp : p ∈ rings s.log) :
    p ∈ arms s.log := by
  obtain ⟨e, he, hrang⟩ := List.mem_filterMap.mp hp
  obtain ⟨l₁, l₂, hlog, hset⟩ := h.set.mem he
  rw [hlog, arms_append]
  exact List.mem_append_left _ (hset p hrang)

/-- What is called was pending, and ends. -/
theorem Op.Ends.called {c : Op K P D} {gone : TimeoutID → Prop} {called : List (TimeoutID × K)}
    (h : c.Ends env s gone called) :
    called.length ≤ 1 ∧ ∀ tid id, (tid, id) ∈ called → s.pending tid = some id ∧ gone tid := by
  cases h with
  | none => simp
  | packet => simp
  | call t td a hfiring =>
      refine ⟨Nat.le_refl 1, ?_⟩
      intro tid id hmem
      obtain ⟨rfl, rfl⟩ := Prod.mk.inj (List.mem_singleton.mp hmem)
      refine ⟨?_, rfl⟩
      unfold Sys.pending
      rw [hfiring.valid]
      rfl

/-- **Every step keeps it**, while the numbers do not wrap. -/
theorem Sys.Timely.op {c : Op K P D} (h : s.Timely) (hn : s'.Numbered) (hids : s'.Unwrapped)
    (hop : s.op env c = .ok s') : s'.Timely := by
  obtain ⟨gone, called, new, hends, hturns⟩ := Sys.op_turns h.known hn hids hop
  obtain ⟨l, hl⟩ := (Sys.op_files hop).1
  obtain ⟨hlen, hcalled⟩ := hends.called
  have hrings : rings l = called := by
    have heq := hturns.rings
    rw [hl, rings_append] at heq
    exact List.append_cancel_left heq
  have hnew : ∀ {tid : TimeoutID} {id : K}, (tid, id) ∈ new → tid ∉ (rings s.log).map Prod.fst := by
    intro tid id hmem hold
    obtain ⟨⟨tid', id'⟩, hp, rfl⟩ := List.mem_map.mp hold
    exact hn.fresh_of_arms hids hturns.arms (h.armed hp) hmem
  refine ⟨?_, ?_, ?_, ?_⟩
  · intro tid id hpend
    rw [hturns.arms]
    by_cases hgone : gone tid
    · rw [hturns.gone tid hgone] at hpend
      exact List.mem_append_right _ (mem_of_lookup hpend)
    · rw [hturns.kept tid hgone] at hpend
      rcases Option.or_eq_some_iff.mp hpend with hold | ⟨-, hlook⟩
      · exact List.mem_append_left _ (h.known tid id hold)
      · exact List.mem_append_right _ (mem_of_lookup hlook)
  · rw [hturns.rings, List.map_append]
    refine List.Nodup.append h.once ?_ ?_
    · match called, hlen with
      | [], _ => exact List.nodup_nil
      | [p], _ => exact List.nodup_singleton _
    · intro tid hold hmem
      obtain ⟨⟨tid', id⟩, hp, rfl⟩ := List.mem_map.mp hmem
      exact h.apart tid' id (hcalled tid' id hp).1 hold
  · intro tid id hpend
    rw [hturns.rings, List.map_append, List.mem_append, not_or]
    by_cases hin : (tid, id) ∈ new
    · refine ⟨hnew hin, ?_⟩
      intro hmem
      obtain ⟨⟨tid', id'⟩, hp, rfl⟩ := List.mem_map.mp hmem
      have hold := h.known tid' id' (hcalled tid' id' hp).1
      exact hn.fresh_of_arms hids hturns.arms hold hin
    · have hgone : ¬ gone tid := by
        intro hgone
        rw [hturns.gone tid hgone] at hpend
        exact hin (mem_of_lookup hpend)
      rw [hturns.kept tid hgone] at hpend
      rcases Option.or_eq_some_iff.mp hpend with hold | ⟨-, hlook⟩
      · refine ⟨h.apart tid id hold, ?_⟩
        intro hmem
        obtain ⟨⟨tid', id'⟩, hp, rfl⟩ := List.mem_map.mp hmem
        exact hgone (hcalled tid' id' hp).2
      · exact absurd (mem_of_lookup hlook) hin
  · rw [hl]
    refine h.set.append ?_
    intro l₁ e l₂ hsplit p hrang
    have hp : p ∈ rings l := List.mem_filterMap.mpr ⟨e, by rw [hsplit]; simp, hrang⟩
    rw [hrings] at hp
    rw [arms_append]
    exact List.mem_append_left _ (h.known p.1 p.2 (hcalled p.1 p.2 hp).1)

/-! ### Runs -/

theorem Sys.Run.timely {ok : Sys K P D W → Op K P D → Sys K P D W → Prop}
    (hrun : Sys.Run env ok s s') (hn : s.Numbered) (h : s.Timely) (hids : s'.Unwrapped) :
    s'.Timely := by
  induction hrun with
  | refl => exact h
  | step c hrun hop _ ih =>
      obtain ⟨l, hl⟩ := (Sys.op_files hop).1
      exact (ih (hids.of_append hl)).op ((Sys.op_files hop).2.1 (hrun.numbered hn)) hids hop

/-- **What is over stays over.** -/
theorem Sys.Run.ended {ok : Sys K P D W → Op K P D → Sys K P D W → Prop}
    (hrun : Sys.Run env ok s s') (hn : s.Numbered) (h : s.Timely) (hids : s'.Unwrapped)
    {tid : TimeoutID} {id : K} (hset : (tid, id) ∈ arms s.log) (hover : s.pending tid = none) :
    s'.pending tid = none ∧ ∀ k, (tid, k) ∈ rings s'.log → (tid, k) ∈ rings s.log := by
  induction hrun with
  | refl => exact ⟨hover, fun _ hk => hk⟩
  | @step s₁ s₂ c hrun hop _ ih =>
      obtain ⟨l, hl⟩ := (Sys.op_files hop).1
      have hids₁ := hids.of_append hl
      obtain ⟨hnone, hrung⟩ := ih hids₁
      have hn₂ := (Sys.op_files hop).2.1 (hrun.numbered hn)
      obtain ⟨gone, called, new, hends, hturns⟩ :=
        Sys.op_turns (hrun.timely hn h hids₁).known hn₂ hids hop
      have hset₁ : (tid, id) ∈ arms s₁.log := by
        obtain ⟨l', hl'⟩ := hrun.log
        rw [hl', arms_append]
        exact List.mem_append_left _ hset
      have hnew : new.lookup tid = none :=
        lookup_eq_none_of_notMem fun _ => hn₂.fresh_of_arms hids hturns.arms hset₁
      refine ⟨?_, ?_⟩
      · by_cases hgone : gone tid
        · rw [hturns.gone tid hgone, hnew]
        · rw [hturns.kept tid hgone, hnone, hnew, Option.none_or]
      · intro k hk
        rw [hturns.rings] at hk
        rcases List.mem_append.mp hk with hk | hk
        · exact hrung k hk
        · rw [(hends.called.2 tid k hk).1] at hnone
          simp at hnone

/-- Between `s₀` and `s` a packet of the connection cancelled the timeout: it found the number
pending, and remembered by the `State`. -/
def Sys.Cancelled (env : Env K P W) (s₀ s : Sys K P D W) (tid : TimeoutID) (id : K) : Prop :=
  ∃ s₁ s₂, ∃ c : Op K P D, Sys.PlainRun env s₀ s₁ ∧ s₁.op env c = .ok s₂ ∧ Sys.PlainRun env s₂ s ∧
    c.OfPacket env s₁ id ∧ s₁.pending tid = some id ∧ s₁.Remembers id tid

omit [DecidableEq K] [Inhabited D] in
/-- A new machine has given out, called and filed nothing. -/
theorem Sys.New.timely (hstart : s.New) (hlog : s.log = []) : s.Timely := by
  have hnone : ∀ tid, s.pending tid = none := by
    intro tid
    unfold pending
    rw [hstart.fresh.functions]
    rfl
  refine ⟨?_, ?_, ?_, ?_⟩
  · intro tid id hpend
    rw [hnone] at hpend
    simp at hpend
  · simp [hlog, rings]
  · intro tid id hpend
    rw [hnone] at hpend
    simp at hpend
  · rw [hlog]
    exact Trace.Always.nil

omit [Inhabited D] in
theorem Sys.New.owned (hstart : s.New) : s.Owned :=
  ⟨fun id st hst => by simp [hstart.table] at hst, fun id st hst => by simp [hstart.pool] at hst⟩

/-- **A timeout ends in one of two ways.** -/
theorem Sys.PlainRun.accounts {s₀ : Sys K P D W} (hstart : s₀.New) (hlog : s₀.log = [])
    (hrun : Sys.PlainRun env s₀ s) (hids : s.Unwrapped) {tid : TimeoutID} {id : K}
    (hset : (tid, id) ∈ arms s.log) :
    s.pending tid = some id ∨ (tid, id) ∈ rings s.log ∨ Sys.Cancelled env s₀ s tid id := by
  have hn₀ := hstart.fresh.numbered
  have ht₀ := hstart.timely hlog
  induction hrun with
  | refl => simp [hlog, arms] at hset
  | @step s₁ s₂ c hrun hop hplain ih =>
      obtain ⟨l, hl⟩ := (Sys.op_files hop).1
      have hids₁ := hids.of_append hl
      have hn₁ := Sys.Run.numbered hrun hn₀
      have hn₂ := (Sys.op_files hop).2.1 hn₁
      have ht₁ := Sys.Run.timely hrun hn₀ ht₀ hids₁
      have ht₂ := ht₁.op hn₂ hids hop
      obtain ⟨gone, called, new, hends, hturns⟩ := Sys.op_turns ht₁.known hn₂ hids hop
      rw [hturns.arms] at hset
      rcases List.mem_append.mp hset with hold | hnew
      · rcases ih hids₁ hold with hpend | hrang | ⟨r, r', c', hr, hop', hr', hc'⟩
        · by_cases hgone : gone tid
          · cases hends with
            | none => exact absurd hgone not_false
            | packet c k hpacket =>
                have hk := mem_arms.mp (hgone.arm (Sys.PlainRun.owned hrun hstart.owned))
                obtain rfl := hn₁.arm_inj hids₁ hk (mem_arms.mp hold)
                exact Or.inr (Or.inr ⟨s₁, s₂, c, hrun, hop, .refl, hpacket, hpend, hgone⟩)
            | call t td a hfiring =>
                obtain rfl : tid = t.timeoutID := hgone
                have hcalled := ((Op.Ends.call t td a hfiring).called.2 _ _
                  (List.mem_singleton_self _)).1
                obtain rfl := Option.some.inj (hpend.symm.trans hcalled)
                refine Or.inr (Or.inl ?_)
                rw [hturns.rings]
                exact List.mem_append_right _ (List.mem_singleton_self _)
          · refine Or.inl ?_
            rw [hturns.kept tid hgone, hpend, Option.some_or]
        · refine Or.inr (Or.inl ?_)
          rw [hturns.rings]
          exact List.mem_append_left _ hrang
        · exact Or.inr (Or.inr ⟨r, r', c', hr, hop', .step c hr' hop hplain, hc'⟩)
      · -- set in this step
        refine Or.inl ?_
        have hlook : ∃ k, new.lookup tid = some k := by
          rw [← Option.isSome_iff_exists, List.lookup_isSome_iff]
          exact ⟨_, hnew, beq_self_eq_true _⟩
        obtain ⟨k, hk⟩ := hlook
        have hpend : s₂.pending tid = some k := by
          by_cases hgone : gone tid
          · rw [hturns.gone tid hgone, hk]
          · rw [hturns.kept tid hgone]
            cases hp : s₁.pending tid with
            | none => rw [Option.none_or, hk]
            | some k' =>
                exact absurd hnew (hn₂.fresh_of_arms hids hturns.arms (ht₁.known tid k' hp))
        have harm : Event.arm tid id ∈ s₂.log := by
          rw [← mem_arms, hturns.arms]
          exact List.mem_append_right _ hnew
        obtain rfl := hn₂.arm_inj hids (mem_arms.mp (ht₂.known tid k hpend)) harm
        exact hpend

/-- A packet that finds a number pending and remembered ends it, and calls nothing. -/
theorem Op.OfPacket.ends {c : Op K P D} {id : K} (hc : c.OfPacket env s id) (h : s.Timely)
    (hn : s'.Numbered) (hids : s'.Unwrapped) (hop : s.op env c = .ok s') {tid : TimeoutID}
    (hpend : s.pending tid = some id) (hrem : s.Remembers id tid) :
    s'.pending tid = none ∧ rings s'.log = rings s.log := by
  obtain ⟨gone, called, new, hends, hturns⟩ := Sys.op_turns h.known hn hids hop
  obtain ⟨cur, pkt, rfl, hpkt, hid⟩ := hc
  constructor
  · obtain ⟨l, hl, hvalid, -⟩ := runPkt_timeouts hpkt hid hop
    unfold Sys.pending
    rw [Option.map_eq_none_iff, Option.eq_none_iff_forall_ne_some]
    intro td hlook
    rcases hvalid tid td hlook with ⟨-, hforgot⟩ | ⟨-, harm⟩
    · exact hforgot hrem
    · exact hn.not_before hids hl harm (mem_arms.mp (h.known tid id hpend))
  · rw [hturns.rings]
    cases hends with
    | none => exact List.append_nil _
    | packet => exact List.append_nil _

/-- The life of a timeout, in a state `s` of a machine that started in `s₀`. -/
structure Sys.Lives (env : Env K P W) (s₀ s : Sys K P D W) : Prop where
  /-- No function is called twice. -/
  once : ((fired s.log).map Timeout.timeoutID).Nodup
  /-- What is called was set before, for the same connection. -/
  set : ∀ before t id after, s.log = before ++ .fire t id :: after → .arm t.timeoutID id ∈ before
  /-- What was set is pending, was called, or was cancelled by a packet of its connection. -/
  account : ∀ tid id, .arm tid id ∈ s.log →
    s.pending tid = some id ∨ (∃ time, .fire ⟨time, tid⟩ id ∈ s.log) ∨ Sys.Cancelled env s₀ s tid id
  /-- And only one of these. -/
  apart : ∀ tid id, s.pending tid = some id →
    (∀ time k, .fire ⟨time, tid⟩ k ∉ s.log) ∧ ¬ Sys.Cancelled env s₀ s tid id
  cancelled : ∀ tid id, Sys.Cancelled env s₀ s tid id → ∀ time k, .fire ⟨time, tid⟩ k ∉ s.log
  /-- What is over stays over. -/
  ended : ∀ s', Sys.PlainRun env s s' → s'.Unwrapped → ∀ tid id, .arm tid id ∈ s.log →
    s.pending tid = none → s'.pending tid = none ∧
      ∀ time k, .fire ⟨time, tid⟩ k ∈ s'.log → ∃ time, .fire ⟨time, tid⟩ k ∈ s.log

omit [DecidableEq K] [Inhabited D] in
theorem rings_eq_fired (log : List (Event K D P)) :
    (rings log).map Prod.fst = (fired log).map Timeout.timeoutID := by
  unfold rings fired
  rw [List.map_filterMap, List.map_filterMap]
  refine List.filterMap_congr ?_
  intro e _
  cases e with
  | _ => rfl

/-- What was cancelled is over. -/
theorem Sys.Cancelled.ended {s₀ : Sys K P D W} (hstart : s₀.New) (hlog : s₀.log = [])
    (hids : s.Unwrapped) {tid : TimeoutID} {id : K} (h : Sys.Cancelled env s₀ s tid id) :
    s.pending tid = none ∧ ∀ k, (tid, k) ∉ rings s.log := by
  obtain ⟨s₁, s₂, c, hbefore, hop, hafter, hc, hpend, hrem⟩ := h
  have hn₁ := Sys.Run.numbered hbefore hstart.fresh.numbered
  have hn₂ := (Sys.op_files hop).2.1 hn₁
  obtain ⟨l', hl'⟩ := hafter.log
  have hids₂ : s₂.Unwrapped := hids.of_append hl'
  obtain ⟨l, hl⟩ := (Sys.op_files hop).1
  have ht₁ := Sys.Run.timely hbefore hstart.fresh.numbered (hstart.timely hlog)
    (hids₂.of_append hl)
  obtain ⟨hnone, hrings⟩ := hc.ends ht₁ hn₂ hids₂ hop hpend hrem
  have hset : (tid, id) ∈ arms s₂.log := by
    rw [hl, arms_append]
    exact List.mem_append_left _ (ht₁.known tid id hpend)
  obtain ⟨hover, hrung⟩ := Sys.Run.ended hafter hn₂ (ht₁.op hn₂ hids₂ hop) hids hset hnone
  refine ⟨hover, ?_⟩
  intro k hk
  have hk' := hrung k hk
  rw [hrings] at hk'
  exact ht₁.apart tid id hpend (List.mem_map.mpr ⟨_, hk', rfl⟩)

/--
**The life of a timeout.**

For every new machine, all functions and every run, as long as `setTimeout` has been called less
than 2^32 times.
-/
theorem Sys.PlainRun.timeout_lives {s₀ : Sys K P D W} (hstart : s₀.New) (hlog : s₀.log = [])
    (hrun : Sys.PlainRun env s₀ s) (hids : s.Unwrapped) : Sys.Lives env s₀ s := by
  have hn := Sys.Run.numbered hrun hstart.fresh.numbered
  have ht := Sys.Run.timely hrun hstart.fresh.numbered (hstart.timely hlog) hids
  refine ⟨?_, ?_, ?_, ?_, ?_, ?_⟩
  · rw [← rings_eq_fired]
    exact ht.once
  · intro before t id after hsplit
    exact mem_arms.mp (ht.set before _ after hsplit _ rfl)
  · intro tid id harm
    rw [← mem_rings]
    exact hrun.accounts hstart hlog hids (mem_arms.mpr harm)
  · intro tid id hpend
    constructor
    · intro time k hfire
      exact ht.apart tid id hpend (List.mem_map.mpr ⟨_, mem_rings.mpr ⟨time, hfire⟩, rfl⟩)
    · intro hc
      rw [(hc.ended hstart hlog hids).1] at hpend
      simp at hpend
  · intro tid id hc time k hfire
    exact (hc.ended hstart hlog hids).2 k (mem_rings.mpr ⟨time, hfire⟩)
  · intro s' hrun' hids' tid id harm hover
    obtain ⟨hnone, hrung⟩ := Sys.Run.ended hrun' hn ht hids' (mem_arms.mpr harm) hover
    refine ⟨hnone, ?_⟩
    intro time k hfire
    exact mem_rings.mp (hrung k (mem_rings.mpr ⟨time, hfire⟩))

end Step

/-- The client of connection 7 whose first timeout has fired and set the next one. -/
theorem Sys.PlainRun.timeout_lives_rearm : ∃ s : Sys Nat Nat Nat Unit,
    .fire ⟨1, 0⟩ 7 ∈ s.log ∧ s.pending 1 = some 7 ∧ Sys.Lives rearmEnv rearm s := by
  obtain ⟨s₁, h₁⟩ : ∃ s₁, rearmed 7 0 = .ok s₁ := ⟨_, rfl⟩
  have hrun : Sys.PlainRun rearmEnv rearm s₁ :=
    .step (.packet 0) (.step (.addStateNoFun 7 (State.new 0 0)) .refl rfl rfl) h₁ trivial
  obtain rfl : s₁ = ((rearmed 7 0).toOption.get rfl) := by
    simp only [h₁]
    rfl
  exact ⟨_, by decide, rfl,
    Sys.PlainRun.timeout_lives rearm_new rfl (.step .pass hrun rfl trivial) (by decide)⟩

end MoonState
