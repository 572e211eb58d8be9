/-
A timeout and the connection it was set for.

`setTimeout` files a timeout under an ID and the `State` remembers one such ID.  A
packet of the connection cancels what its `State` remembers, and a timeout that
fires is taken out; nothing else ever is.  So a connection that ends while another
timeout of it is valid leaves that timeout behind: one that its function set in
the same call, or one that its `State` has forgotten, or any at all when
`removeState` is called.

As long as no step ends a connection in one of these ways, `Kept` is an invariant:
the connection of a valid timeout is in the table or in the pool, and has been
since the timeout was set.
-/
import MoonState.Lib.Trace
import MoonState.Model.Run
import MoonState.Proofs.Frame

namespace MoonState

variable {K P D W : Type} [DecidableEq K]

/-! ### The condition on a step -/

/-- What `findState` looks at, in this order. -/
def Sys.stateOf (s : Sys K P D W) (id : K) : Option (State D) :=
  (s.sm.stateTable.lookup id).or (s.connPool.lookup id)

/-- The connection is in the table or in the pool. -/
def Sys.Tracked (s : Sys K P D W) (id : K) : Prop := (s.stateOf id).isSome

/-- The timeout whose ID becomes invalid in a step that works for `id`, whatever its functions
do: the one the `State` remembers when a packet comes, the one that fires. -/
def Op.Cancels (env : Env K P W) (s : Sys K P D W) (id : K) : Op K P D → TimeoutID → Prop
  | .packet _, tid =>
    ∃ st, s.stateOf id = some st ∧ st.timeoutID = tid ∧ tid ≠ timeoutIDInvalid
  | .pass, tid => ∃ t, env.topRule.top s.sm.timeoutsQ = some t ∧ t.timeoutID = tid
  | _, _ => False

/-- No connection ends with a timeout: a step that takes a connection out has set no timeout for
it, and it has no valid timeout but the one the step cancels.  Nor does a connection that is
opened set one and end at once. -/
structure Op.Clean (env : Env K P W) (s : Sys K P D W) (c : Op K P D) (s' : Sys K P D W) :
    Prop where
  ends : ∀ new id, s'.log = s.log ++ new → .removed id ∈ new → (∀ tid, .arm tid id ∉ new) ∧
    ∀ tid td, s.sm.timeoutFunctions.lookup tid = some td → td.id = id → c.Cancels env s id tid
  opens : ∀ new id st tid, c = .addState id st → s'.log = s.log ++ new → .arm tid id ∈ new →
    s.Tracked id ∨ ∃ st', .opened id st' ∈ new

/-! ### The invariant -/

/-- **The invariant.**  The connection of a valid timeout is tracked, and it is the one the
timeout was set for: none of its ID was taken out since. -/
def Sys.Kept (s : Sys K P D W) : Prop :=
  ∀ tid td, s.sm.timeoutFunctions.lookup tid = some td →
    s.Tracked td.id ∧ Trace.Since (.arm tid td.id) (· = .removed td.id) s.log

theorem Sys.tracked_of_table {s : Sys K P D W} {id : K}
    (h : (s.sm.stateTable.lookup id).isSome) : s.Tracked id := by
  obtain ⟨st, hst⟩ := Option.isSome_iff_exists.mp h
  unfold Tracked stateOf
  rw [hst]
  rfl

theorem Sys.Frame.tracked {id k : K} {s s' : Sys K P D W} (h : Sys.Frame id s s') (hk : k ≠ id) :
    s'.Tracked k ↔ s.Tracked k := by
  unfold Sys.Tracked Sys.stateOf
  rw [h.table k hk, h.connPool k hk]

/-- A step that works for one connection: either it does not take it out and keeps it tracked,
where a valid timeout asks for it, or it takes it out and leaves no valid timeout of it. -/
theorem Sys.Kept.frame {id : K} {s s' : Sys K P D W} {new : List (Event K D P)} (h : s.Kept)
    (hframe : Sys.Frame id s s') (hlogs : Sys.Logs id s s' new)
    (hstays : .removed id ∉ new → ∀ tid td, s'.sm.timeoutFunctions.lookup tid = some td →
      td.id = id → s'.Tracked id)
    (hends : .removed id ∈ new → ∀ tid td, s'.sm.timeoutFunctions.lookup tid = some td →
      td.id ≠ id) : s'.Kept := by
  intro tid td hl
  by_cases hid : td.id = id
  · have hno : .removed id ∉ new := fun hc => hends hc tid td hl hid
    refine ⟨hid ▸ hstays hno tid td hl hid, ?_⟩
    rw [hlogs.log, hid]
    rcases hlogs.timeouts tid td hl with hold | ⟨-, harm⟩
    · have hsince := (h tid td hold).2
      rw [hid] at hsince
      exact hsince.append (fun e he hc => hno (hc ▸ he))
    · obtain ⟨l₁, l₂, rfl⟩ := List.append_of_mem harm
      exact Trace.Since.here _ ⟨l₁, l₂, rfl, fun e he hc => hno (by simp [← hc, he])⟩
  · have hold : s.sm.timeoutFunctions.lookup tid = some td := by
      rcases hlogs.timeouts tid td hl with hold | ⟨hc, -⟩
      · exact hold
      · exact absurd hc hid
    obtain ⟨htracked, hsince⟩ := h tid td hold
    refine ⟨(hframe.tracked hid).mpr htracked, ?_⟩
    rw [hlogs.log]
    refine hsince.append (fun e he hc => hid ?_)
    exact hlogs.removed td.id (hc ▸ he)

/-- A step that touches no connection and no timeout. -/
theorem Sys.Kept.of_eq {s s' : Sys K P D W} (h : s.Kept) (new : List (Event K D P))
    (hsm : s'.sm.stateTable = s.sm.stateTable)
    (hF : s'.sm.timeoutFunctions = s.sm.timeoutFunctions) (hpool : s'.connPool = s.connPool)
    (hlog : s'.log = s.log ++ new) (hnew : ∀ k, .removed k ∉ new) : s'.Kept := by
  intro tid td hl
  rw [hF] at hl
  obtain ⟨htracked, hsince⟩ := h tid td hl
  constructor
  · unfold Tracked stateOf at htracked ⊢
    rwa [hsm, hpool]
  · rw [hlog]
    exact hsince.append (fun e he hc => hnew td.id (hc ▸ he))

/-- A clean step that takes a connection out leaves no valid timeout of it, as the one it
cancels is gone. -/
theorem Op.Clean.none_left {env : Env K P W} {s s' : Sys K P D W} {c : Op K P D} {id : K}
    {new : List (Event K D P)} (h : c.Clean env s s') (hlogs : Sys.Logs id s s' new)
    (hcancel : ∀ tid, c.Cancels env s id tid → (∀ tid, .arm tid id ∉ new) →
      s'.sm.timeoutFunctions.lookup tid = none) (hremoved : .removed id ∈ new) :
    ∀ tid td, s'.sm.timeoutFunctions.lookup tid = some td → td.id ≠ id := by
  intro tid td hl hid
  obtain ⟨hno, hold⟩ := h.ends new id hlogs.log hremoved
  rcases hlogs.timeouts tid td hl with hl' | ⟨-, harm⟩
  · rw [hcancel tid (hold tid td hl' hid) hno] at hl
    simp at hl
  · exact hno tid harm

/-- Between `s` and `s'` the connection was taken out of the table. -/
def Sys.Took (id : K) (s s' : Sys K P D W) : Prop :=
  ∃ l, s'.log = s.log ++ l ∧ .removed id ∈ l

omit [DecidableEq K] in
theorem Sys.Took.mem {id : K} {s s' : Sys K P D W} {new : List (Event K D P)} (h : Sys.Took id s s')
    (hlog : s'.log = s.log ++ new) : .removed id ∈ new := by
  obtain ⟨l, hl, hmem⟩ := h
  rwa [← List.append_cancel_left (hl.symm.trans hlog)]

theorem Sys.Took.after {id : K} {s t u : Sys K P D W} (h : Sys.Took id t u)
    (hframe : Sys.Frame id s t) : Sys.Took id s u := by
  obtain ⟨l, hl, hmem⟩ := h
  obtain ⟨pre, hpre⟩ := hframe.log
  exact ⟨pre ++ l, by rw [hl, hpre, List.append_assoc], List.mem_append_right _ hmem⟩

theorem Sys.Took.before {id : K} {s t u : Sys K P D W} (h : Sys.Took id s t)
    (hframe : Sys.Frame id t u) : Sys.Took id s u := by
  obtain ⟨l, hl, hmem⟩ := h
  obtain ⟨rest, hrest⟩ := hframe.log
  exact ⟨l ++ rest, by rw [hrest, hl, List.append_assoc], List.mem_append_left _ hmem⟩

/-! ### One packet -/

theorem Activation.commit_lookup {a : Activation K P D W} {id : K} (hid : a.iface.cID = id) :
    a.commit.sm.stateTable.lookup id = some a.state := by
  show (a.sys.sm.stateTable.insert a.iface.cID a.state).lookup id = _
  rw [hid]
  exact Finmap.lookup_insert _

theorem Activation.took_removeState {a : Activation K P D W} {id : K} (hid : a.iface.cID = id) :
    Sys.Took id a.sys (a.commit.removeState id) := by
  refine ⟨[.removed id], ?_, List.mem_singleton_self _⟩
  rw [← hid]
  exact a.removeState_commit_log

/-- After the destructor the connection is still in the table, or was taken out. -/
theorem Activation.destroy_stays {env : Env K P W} {a a' : Activation K P D W} {id : K}
    (h : a.destroy env .table = .ok a') (hid : a.iface.cID = id)
    (htable : (a.sys.sm.stateTable.lookup id).isSome) :
    (a'.sys.sm.stateTable.lookup id).isSome ∨ Sys.Took id a.sys a'.sys := by
  obtain ⟨ba, -, ⟨-, rfl⟩ | ⟨-, -, b, s, hb, hs, rfl⟩⟩ := destroy_eq_ok h
  · exact Or.inl htable
  · obtain ⟨hframe, hb'⟩ := callFun_frame hb hid
    rw [if_pos rfl] at hs
    subst hs
    dsimp only
    split
    · rw [hb']
      exact Or.inr ((took_removeState hb').after ((Sys.Frame.pktsBA a.sys ba).trans hframe))
    · refine Or.inl ?_
      rw [commit_lookup hb']
      rfl

/-- After its packet the connection is in the table, or was taken out. -/
theorem runState_stays {env : Env K P W} {cur : Nat} {id : K} {st : State D} {s s' : Sys K P D W}
    (h : runState env cur id st s = .ok s') :
    Sys.Frame id (s.cancelTimeout st) s' ∧
      ((s'.sm.stateTable.lookup id).isSome ∨ Sys.Took id (s.cancelTimeout st) s') := by
  obtain ⟨a, b, ha, rfl, hb⟩ := runState_eq_ok h
  obtain ⟨hframe, hcID⟩ := callFun_frame ha rfl
  have hid : a.iface.cID = id := hcID
  have hframe' : Sys.Frame id (s.cancelTimeout st) a.sys := hframe
  rcases hb with ⟨-, hb⟩ | ⟨-, hb⟩
  · have hclose : Sys.Frame id a.sys (closeState id a.commit) :=
      (Activation.commit_frame hid).trans (.closeState _)
    have hdestroy := Activation.destroy_frame hb hid
    have htook : Sys.Took id a.sys (closeState id a.commit) := Activation.took_removeState hid
    exact ⟨(hframe'.trans hclose).trans hdestroy, Or.inr ((htook.before hdestroy).after hframe')⟩
  · have hcommit := hframe'.trans (Activation.commit_frame hid)
    refine ⟨hcommit.trans (Activation.destroy_frame hb hid), ?_⟩
    have htable : (a.commit.sm.stateTable.lookup id).isSome := by
      rw [Activation.commit_lookup hid]
      rfl
    rcases Activation.destroy_stays hb hid htable with hstays | htook
    · exact Or.inl hstays
    · exact Or.inr (htook.after hcommit)

omit [DecidableEq K] in
theorem Sys.cancelTimeout_lookup {s : Sys K P D W} {st : State D}
    (h : st.timeoutID ≠ timeoutIDInvalid) :
    (s.cancelTimeout st).sm.timeoutFunctions.lookup st.timeoutID = none := by
  unfold cancelTimeout
  rw [if_pos h]
  exact Finmap.lookup_erase _ _

variable [Inhabited D]

theorem Sys.Kept.packet {env : Env K P W} {cur : Nat} {s s' : Sys K P D W} (h : s.Kept)
    (hclean : (Op.packet cur).Clean env s s') (hrun : runPkt env cur s = .ok s') : s'.Kept := by
  obtain ⟨pkt, hpkt, hcase⟩ := runPkt_eq_ok hrun
  rcases hcase with ⟨-, hdrop⟩ | ⟨id, s₁, hi, hf, hdrop⟩ | ⟨id, s₁, st, hi, hf, hrunState⟩
  · obtain ⟨ba, rfl⟩ := Sys.markDropPkt_eq hdrop
    exact h.of_eq [.run cur, .unidentified cur] rfl rfl rfl (by simp [Sys.emit]) (by simp)
  · obtain ⟨ba, rfl⟩ := Sys.markDropPkt_eq hdrop
    obtain ⟨-, -, rfl⟩ := Sys.findState_none hf
    exact h.of_eq [.run cur, .discarded cur id] rfl rfl rfl (by simp [Sys.emit]) (by simp)
  · have hframe := runPkt_frame hpkt (fun k hk => Option.some.inj (hk.symm.trans hi)) hrun
    obtain ⟨new, hlogs⟩ := hframe.logs
    obtain ⟨hstate, hstays⟩ := runState_stays hrunState
    have hbefore : Sys.Frame id s (s₁.cancelTimeout st) :=
      ((Sys.Frame.emit s (.run cur) (by simp)).trans (Sys.findState_frame hf)).trans
        (.cancelTimeout s₁ st)
    refine h.frame hframe hlogs ?_ (hclean.none_left hlogs ?_)
    · intro hno tid td _ _
      rcases hstays with htable | htook
      · exact Sys.tracked_of_table htable
      · exact absurd ((htook.after hbefore).mem hlogs.log) hno
    · rintro tid ⟨st', hst', rfl, hvalid⟩ hno
      -- what was found is what `stateOf` says
      have hsame : st' = st := by
        have ho := Sys.findState_cases hf
        unfold Sys.stateOf at hst'
        rcases ho with ⟨_, ht, -, ho⟩ | ⟨_, ht, hp, -, ho⟩ | ⟨_, _, ht, hp, -⟩ | ⟨-, -, -, -, ho⟩
        · rw [show s.sm.stateTable.lookup id = some _ from ht, Option.some_or] at hst'
          exact Option.some.inj (hst'.symm.trans ho.symm)
        · rw [show s.sm.stateTable.lookup id = none from ht,
            show s.connPool.lookup id = some _ from hp, Option.none_or] at hst'
          exact Option.some.inj (hst'.symm.trans ho.symm)
        · rw [show s.sm.stateTable.lookup id = none from ht,
            show s.connPool.lookup id = none from hp] at hst'
          simp at hst'
        · simp at ho
      subst hsame
      obtain ⟨l, hl⟩ := hstate.logs
      obtain ⟨pre, hpre⟩ := hbefore.log
      have hnew : new = pre ++ l := by
        refine List.append_cancel_left (hlogs.log.symm.trans ?_)
        rw [hl.log, hpre, List.append_assoc]
      cases hlook : s'.sm.timeoutFunctions.lookup st'.timeoutID with
      | none => rfl
      | some td =>
          rcases hl.timeouts _ _ hlook with hold | ⟨-, harm⟩
          · rw [Sys.cancelTimeout_lookup hvalid] at hold
            simp at hold
          · exact absurd (by rw [hnew]; exact List.mem_append_right _ harm) (hno _)

/-! ### One timeout -/

theorem Sys.Kept.fire {env : Env K P W} {t : Timeout} {td : TimeoutData K P D W}
    {s s' : Sys K P D W} (h : s.Kept) (hclean : Op.pass.Clean env s s')
    (htop : env.topRule.top s.sm.timeoutsQ = some t)
    (hfire : fireTimeout env t td { s with ticks := s.ticks + 1 } = .ok s') : s'.Kept := by
  have htick : Sys.Frame td.id s { s with ticks := s.ticks + 1 } :=
    .of_eq rfl (fun _ _ => rfl) (fun _ _ => rfl) (List.append_nil _).symm (by simp)
  have hframe := htick.trans (fireTimeout_frame hfire)
  obtain ⟨new, hlogs⟩ := hframe.logs
  obtain ⟨s₁, st, a, ba, own, hf, -, hran, rfl⟩ := fireTimeout_calm hfire
  have hid : a.iface.cID = td.id := hran.cID
  have hbefore : Sys.Frame td.id s a.sys :=
    ((htick.trans (Sys.findState_frame hf)).trans (.emit _ _ (by simp))).trans (.ran hran rfl)
  refine h.frame hframe hlogs ?_ (hclean.none_left hlogs ?_)
  · intro hno tid td' _ _
    by_cases hend : a.state.state = a.sys.sm.endStateID
    · refine absurd (Sys.Took.mem ?_ hlogs.log) hno
      refine (Sys.Took.before ?_ ((Sys.Frame.dropTimeout env t _).trans (.pktsBA _ ba))).after hbefore
      rw [if_pos hend]
      exact Activation.took_removeState hid
    · refine Sys.tracked_of_table ?_
      show ((endTimeout env t td.id a).sm.stateTable.lookup td.id).isSome
      unfold endTimeout
      rw [if_neg hend]
      show (a.commit.sm.stateTable.lookup td.id).isSome
      rw [Activation.commit_lookup hid]
      rfl
  · rintro tid ⟨t', ht', rfl⟩ -
    rw [htop, Option.some.injEq] at ht'
    subst ht'
    show (endTimeout env t td.id a).sm.timeoutFunctions.lookup t.timeoutID = none
    exact Finmap.lookup_erase _ _

/-- Everything a pass can do: it finds nothing, nothing due, an entry that is not valid, or one
that fires. -/
theorem Sys.pass_eq_ok {env : Env K P W} {s s' : Sys K P D W} (h : s.pass env = .ok s') :
    (env.topRule.top s.sm.timeoutsQ = none ∧ s' = s) ∨
    (∃ t, env.topRule.top s.sm.timeoutsQ = some t ∧ env.clock s.ticks < t.time ∧
      s' = { s with ticks := s.ticks + 1 }) ∨
    (∃ t, env.topRule.top s.sm.timeoutsQ = some t ∧ t.time ≤ env.clock s.ticks ∧
      s.sm.timeoutFunctions.lookup t.timeoutID = none ∧
      s' = { s with
        sm := { s.sm with timeoutsQ := env.topRule.pop s.sm.timeoutsQ }
        ticks := s.ticks + 1 }) ∨
    ∃ t td, env.topRule.top s.sm.timeoutsQ = some t ∧ t.time ≤ env.clock s.ticks ∧
      s.sm.timeoutFunctions.lookup t.timeoutID = some td ∧
      fireTimeout env t td { s with ticks := s.ticks + 1 } = .ok s' := by
  unfold Sys.pass at h
  cases htop : env.topRule.top s.sm.timeoutsQ with
  | none =>
      rw [htop] at h
      exact Or.inl ⟨rfl, (Except.ok.inj h).symm⟩
  | some t =>
      rw [htop] at h
      dsimp only at h
      split at h
      · rename_i hlate
        exact Or.inr (Or.inl ⟨t, rfl, hlate, (Except.ok.inj h).symm⟩)
      · rename_i hdue
        split at h
        · rename_i hnone
          exact Or.inr (Or.inr (Or.inl ⟨t, rfl, by omega, hnone, (Except.ok.inj h).symm⟩))
        · rename_i td hvalid
          exact Or.inr (Or.inr (Or.inr ⟨t, td, rfl, by omega, hvalid, h⟩))

theorem Sys.Kept.pass {env : Env K P W} {s s' : Sys K P D W} (h : s.Kept)
    (hclean : Op.pass.Clean env s s') (hpass : s.pass env = .ok s') : s'.Kept := by
  rcases Sys.pass_eq_ok hpass with ⟨-, rfl⟩ | ⟨t, -, -, rfl⟩ | ⟨t, -, -, -, rfl⟩ |
    ⟨t, td, htop, -, -, hfire⟩
  · exact h
  · exact h.of_eq [] rfl rfl rfl (List.append_nil _).symm (by simp)
  · exact h.of_eq [] rfl rfl rfl (List.append_nil _).symm (by simp)
  · exact h.fire hclean htop hfire

/-! ### Opening and removing -/

omit [Inhabited D] in
theorem Sys.Tracked.mono {s s' : Sys K P D W} {id : K} (h : s.Tracked id)
    (htable : s'.sm.stateTable.lookup id = s.sm.stateTable.lookup id)
    (hpool : (s.connPool.lookup id).isSome → (s'.connPool.lookup id).isSome) : s'.Tracked id := by
  unfold Tracked stateOf at h ⊢
  rw [htable]
  cases ht : s.sm.stateTable.lookup id with
  | some st => rfl
  | none =>
      rw [ht, Option.none_or] at h
      rw [Option.none_or]
      exact hpool h

omit [Inhabited D] in
theorem Sys.tracked_poolAdd (s : Sys K P D W) (id : K) (st : State D) :
    (s.poolAdd id st).Tracked id := by
  unfold Tracked stateOf
  cases ht : (s.poolAdd id st).sm.stateTable.lookup id with
  | some st' => rfl
  | none =>
      rw [Option.none_or]
      show ((FMap.insertNew id st s.connPool).lookup id).isSome
      rw [FMap.lookup_insertNew_self]
      rfl

omit [Inhabited D] in
/-- Taking a connection out that is not in the table does nothing to it. -/
theorem Sys.removeState_stays (s : Sys K P D W) (id : K) :
    Sys.Took id s (s.removeState id) ∨ (s.Tracked id → (s.removeState id).Tracked id) := by
  by_cases h : id ∈ s.sm.stateTable
  · exact Or.inl ⟨[.removed id], if_pos h, List.mem_singleton_self _⟩
  · refine Or.inr fun ht => ht.mono ?_ (fun hp => hp)
    show (s.sm.stateTable.erase id).lookup id = _
    rw [Finmap.lookup_erase, Finmap.lookup_eq_none.mpr h]

omit [Inhabited D] in
/-- The destructor opens nothing. -/
theorem Activation.destroy_opens {env : Env K P W} {home : Home} {a a' : Activation K P D W}
    (h : a.destroy env home = .ok a') :
    ∃ l, a'.sys.log = a.sys.log ++ l ∧ ∀ k st, .opened k st ∉ l := by
  obtain ⟨ba, -, ⟨-, rfl⟩ | ⟨-, -, c, t, hc, ht, rfl⟩⟩ := destroy_eq_ok h
  · exact ⟨[], (List.append_nil _).symm, by simp⟩
  · obtain ⟨own, hown⟩ := callFun_ran hc
    have hlog : t.log = a.sys.log ++ (.call a.iface.cID a.state :: own) := by
      rw [ht, ← hown.log]
      split <;> rfl
    have hno : ∀ k st, .opened k st ∉ (.call a.iface.cID a.state :: own : List (Event K D P)) :=
      fun k st hc => hown.own _ hc
    dsimp only
    split
    · obtain ⟨fin, hfin, hcase⟩ := t.removeState_log c.iface.cID
      refine ⟨.call a.iface.cID a.state :: own ++ fin, ?_, ?_⟩
      · rw [hfin, hlog, List.append_assoc]
      · intro k st hmem
        rcases List.mem_append.mp hmem with hmem | hmem
        · exact hno k st hmem
        · rcases hcase with rfl | rfl <;> simp at hmem
    · exact ⟨_, hlog, hno⟩

omit [Inhabited D] in
/-- While a connection is opened it stays tracked if it was, and comes to be if it is put in the
pool. -/
theorem addState_stays {env : Env K P W} {id : K} {st st' : State D} {s s' : Sys K P D W}
    (h : addState env id st s = .ok (s', st')) :
    Sys.Took id s s' ∨ ((s.Tracked id ∨ ∃ new st, s'.log = s.log ++ new ∧ .opened id st ∈ new) →
      s'.Tracked id) := by
  obtain ⟨a, b, ha, hb, rfl, rfl⟩ := addState_eq_ok h
  obtain ⟨own, hown⟩ := callFun_ran ha
  have hcID : a.iface.cID = id := hown.cID
  have hframe : Sys.Frame id s a.sys := .ran hown rfl
  have hkeep : s.Tracked id → a.sys.Tracked id := by
    intro ht
    refine ht.mono ?_ ?_
    · rw [hown.sm]
    · rw [hown.connPool]
      exact fun hp => hp
  -- What the destructor makes of a system in which the connection stays tracked.
  have hdestroy : ∀ {x : Sys K P D W}, Sys.Frame id s x →
      ({ a with sys := x } : Activation K P D W).destroy env .param = .ok b →
      Sys.Took id s b.sys ∨ (x.Tracked id → b.sys.Tracked id) := by
    intro x hx hd
    obtain ⟨ba, -, ⟨-, rfl⟩ | ⟨-, -, c, t, hc, ht, rfl⟩⟩ := Activation.destroy_eq_ok hd
    · exact Or.inr fun ht => ht.mono rfl (fun hp => hp)
    · obtain ⟨own', hown'⟩ := callFun_ran hc
      rw [if_neg (by simp)] at ht
      subst ht
      have hstep : Sys.Frame id s c.sys := hx.trans ((Sys.Frame.pktsBA x ba).trans (.ran hown' hcID))
      have hc' : x.Tracked id → c.sys.Tracked id := by
        intro ht
        refine ht.mono ?_ ?_
        · rw [hown'.sm]
        · rw [hown'.connPool]
          exact fun hp => hp
      dsimp only
      split
      · rw [show c.iface.cID = id from hown'.cID.trans hcID]
        rcases c.sys.removeState_stays id with htook | hstays
        · exact Or.inl (htook.after hstep)
        · exact Or.inr fun ht => hstays (hc' ht)
      · exact Or.inr hc'
  by_cases hend : a.state.state = a.sys.sm.endStateID
  · rw [if_pos hend] at hb
    rcases hdestroy hframe hb with htook | hstays
    · exact Or.inl htook
    · refine Or.inr fun hor => ?_
      rcases hor with ht | ⟨new, st'', hlog, hopened⟩
      · exact hstays (hkeep ht)
      · obtain ⟨l, hl, hno⟩ := Activation.destroy_opens hb
        have hnew : new = (.call id st :: own) ++ l := by
          refine List.append_cancel_left (hlog.symm.trans ?_)
          rw [hl, show ({ a with sys := a.sys } : Activation K P D W).sys.log = a.sys.log from rfl,
            hown.log, List.append_assoc]
          rfl
        rw [hnew] at hopened
        rcases List.mem_append.mp hopened with hc | hc
        · exact absurd (hown.own _ hc) (fun hc => hc)
        · exact absurd hc (hno id st'')
  · rw [if_neg hend] at hb
    rcases hdestroy (hframe.trans (.poolAdd _ _)) hb with htook | hstays
    · exact Or.inl htook
    · exact Or.inr fun _ => hstays (a.sys.tracked_poolAdd id a.state)

omit [Inhabited D] in
theorem Sys.Kept.addState {env : Env K P W} {id : K} {st st' : State D} {s s' : Sys K P D W}
    (h : s.Kept) (hclean : (Op.addState id st).Clean env s s')
    (hadd : MoonState.addState env id st s = .ok (s', st')) : s'.Kept := by
  have hframe := addState_frame hadd
  obtain ⟨new, hlogs⟩ := hframe.logs
  refine h.frame hframe hlogs ?_ (hclean.none_left hlogs (fun _ hc => absurd hc (fun hc => hc)))
  intro hno tid td hl hid
  rcases addState_stays hadd with htook | hstays
  · exact absurd (htook.mem hlogs.log) hno
  · refine hstays ?_
    rcases hlogs.timeouts tid td hl with hold | ⟨-, harm⟩
    · exact Or.inl (hid ▸ (h tid td hold).1)
    · rcases hclean.opens new id st tid rfl hlogs.log harm with ht | ⟨st'', hopened⟩
      · exact Or.inl ht
      · exact Or.inr ⟨new, st'', hlogs.log, hopened⟩

omit [Inhabited D] in
theorem Sys.Kept.poolAdd {s : Sys K P D W} (h : s.Kept) (id : K) (st : State D) :
    (s.poolAdd id st).Kept := by
  have hlogs : Sys.Logs id s (s.poolAdd id st) [.opened id st] :=
    ⟨rfl, by simp, fun _ _ hl => Or.inl hl⟩
  exact h.frame (.poolAdd s st) hlogs (fun _ _ _ _ _ => s.tracked_poolAdd id st)
    (fun hc => absurd hc (by simp))

omit [Inhabited D] in
theorem Sys.Kept.removeState {env : Env K P W} {id : K} {s : Sys K P D W} (h : s.Kept)
    (hclean : (Op.removeState id).Clean env s (s.removeState id)) : (s.removeState id).Kept := by
  have hframe : Sys.Frame id s (s.removeState id) := .removeState s
  obtain ⟨new, hlogs⟩ := hframe.logs
  refine h.frame hframe hlogs ?_ (hclean.none_left hlogs (fun _ hc => absurd hc (fun hc => hc)))
  intro hno tid td hl hid
  rcases s.removeState_stays id with htook | hstays
  · exact absurd (htook.mem hlogs.log) hno
  · exact hstays (hid ▸ (h tid td hl).1)

/-! ### Runs -/

/-- **Every clean step keeps the invariant.** -/
theorem Sys.Kept.op {env : Env K P W} {c : Op K P D} {s s' : Sys K P D W} (h : s.Kept)
    (hclean : c.Clean env s s') (hop : s.op env c = .ok s') : s'.Kept := by
  cases c with
  | batch ba =>
      obtain rfl := Except.ok.inj hop
      exact h.of_eq [] rfl rfl rfl (List.append_nil _).symm (by simp)
  | pass => exact h.pass hclean hop
  | packet cur => exact h.packet hclean hop
  | addState id st =>
      simp only [Sys.op] at hop
      split at hop
      · rename_i s₁ st' hadd
        obtain rfl := Except.ok.inj hop
        exact h.addState hclean hadd
      · simp at hop
  | addStateNoFun id st =>
      obtain rfl := Except.ok.inj hop
      unfold MoonState.addStateNoFun
      split
      · exact h
      · exact h.poolAdd id st
  | removeState id =>
      obtain rfl := Except.ok.inj hop
      exact h.removeState hclean

theorem Sys.Kept.run {env : Env K P W} {s s' : Sys K P D W} (h : s.Kept)
    (hrun : Sys.Run env (fun s c s' => c.Clean env s s') s s') : s'.Kept := by
  induction hrun with
  | refl => exact h
  | step c _ hop hok ih => exact ih.op hok hop

/-- A connection that is tracked is found where it is, and no new one is created. -/
theorem Sys.findState_tracked {s : Sys K P D W} {id : K} (h : s.Tracked id) :
    ∃ s₁ st, s.findState id = .ok (s₁, some st) ∧ s.stateOf id = some st ∧ s₁.log = s.log := by
  unfold Tracked at h
  rw [findState_eq]
  unfold stateOf at h ⊢
  cases ht : s.sm.stateTable.lookup id with
  | some st => exact ⟨s, st, rfl, rfl, rfl⟩
  | none =>
      rw [ht, Option.none_or] at h
      obtain ⟨st, hst⟩ := Option.isSome_iff_exists.mp h
      rw [hst]
      exact ⟨_, st, rfl, rfl, rfl⟩

/--
**A timeout does not outlive its connection**, in every run in which no connection ends with
a timeout.

For every machine that starts without timeouts, every program, all functions and any
order of firing: the connection of a valid timeout is in the table or in the pool, and
none of its ID was taken out since the timeout was set.  So the lookup before it fires
finds that connection and creates none, and the assertion on it holds.
-/
theorem Sys.Run.timeout_kept {env : Env K P W} {s₀ s : Sys K P D W} {t : Timeout}
    {td : TimeoutData K P D W} (hstart : s₀.sm.timeoutFunctions = ∅)
    (hrun : Sys.Run env (fun s c s' => c.Clean env s s') s₀ s)
    (hvalid : s.sm.timeoutFunctions.lookup t.timeoutID = some td) :
    s.Tracked td.id ∧
      Trace.Since (.arm t.timeoutID td.id) (· = .removed td.id) s.log ∧
      (∃ s₁ st, s.findState td.id = .ok (s₁, some st) ∧ s.stateOf td.id = some st ∧
        s₁.log = s.log) ∧
      fireTimeout env t td s ≠ .error .noState := by
  have hkept₀ : s₀.Kept := by
    intro tid td' hl
    rw [hstart] at hl
    simp at hl
  obtain ⟨htracked, hsince⟩ := hkept₀.run hrun t.timeoutID td hvalid
  obtain ⟨s₁, st, hf, hst, hlog⟩ := Sys.findState_tracked htracked
  refine ⟨htracked, hsince, ⟨s₁, st, hf, hst, hlog⟩, fun hc => ?_⟩
  obtain ⟨s₂, hnone⟩ := (fireTimeout_error hc).2 rfl
  simpa using hf.symm.trans hnone

/-! ### A batch is a run -/

omit [DecidableEq K] [Inhabited D] in
theorem Sys.Run.trans [DecidableEq K] [Inhabited D] {env : Env K P W}
    {ok : Sys K P D W → Op K P D → Sys K P D W → Prop} {s s₁ s₂ : Sys K P D W}
    (h : Sys.Run env ok s s₁) (h' : Sys.Run env ok s₁ s₂) : Sys.Run env ok s s₂ := by
  induction h' with
  | refl => exact h
  | step c _ hop hok ih => exact ih.step c hop hok

/-- A loop that returns, or that stops with a fault, went through passes before. -/
theorem timeoutLoop_run (env : Env K P W) :
    ∀ (fuel : Nat) (s : Sys K P D W),
      (∀ s', timeoutLoop env fuel s = .ok s' → Sys.Run env (fun _ _ _ => True) s s') ∧
      (∀ e, timeoutLoop env fuel s = .error e → e = .outOfFuel ∨
        ∃ s₁, Sys.Run env (fun _ _ _ => True) s s₁ ∧ s₁.op env .pass = .error e) := by
  intro fuel
  induction fuel with
  | zero =>
      intro s
      exact ⟨fun s' h => by simp [timeoutLoop] at h,
        fun e h => Or.inl (Except.error.inj h).symm⟩
  | succ fuel ih =>
      intro s
      rw [timeoutLoop]
      cases htop : env.topRule.top s.sm.timeoutsQ with
      | none =>
          refine ⟨fun s' h => ?_, fun e h => by simp at h⟩
          obtain rfl := Except.ok.inj h
          exact .refl
      | some t =>
          dsimp only
          by_cases hlate : t.time > env.clock s.ticks
          · rw [if_pos hlate]
            refine ⟨fun s' h => ?_, fun e h => by simp at h⟩
            obtain rfl := Except.ok.inj h
            refine .step .pass .refl ?_ trivial
            simp only [Sys.op, Sys.pass, htop]
            rw [if_pos hlate]
          · rw [if_neg hlate]
            cases hl : s.sm.timeoutFunctions.lookup t.timeoutID with
            | none =>
                have hpass : Sys.Run env (fun _ _ _ => True) s { s with
                    sm := { s.sm with timeoutsQ := env.topRule.pop s.sm.timeoutsQ }
                    ticks := s.ticks + 1 } := by
                  refine .step .pass .refl ?_ trivial
                  simp only [Sys.op, Sys.pass, htop, hl]
                  rw [if_neg hlate]
                obtain ⟨hok, herr⟩ := ih { s with
                  sm := { s.sm with timeoutsQ := env.topRule.pop s.sm.timeoutsQ }
                  ticks := s.ticks + 1 }
                refine ⟨fun s' h => hpass.trans (hok s' h), fun e h => ?_⟩
                rcases herr e h with h | ⟨s₁, hrun, hs₁⟩
                · exact Or.inl h
                · exact Or.inr ⟨s₁, hpass.trans hrun, hs₁⟩
            | some td =>
                have hpass : s.op env .pass = fireTimeout env t td { s with ticks := s.ticks + 1 } := by
                  simp only [Sys.op, Sys.pass, htop, hl]
                  rw [if_neg hlate]
                constructor
                · intro s' h
                  obtain ⟨s₁, hfire, h⟩ := bind_eq_ok.mp h
                  exact Sys.Run.trans (.step .pass .refl (hpass.trans hfire) trivial)
                    ((ih s₁).1 s' h)
                · intro e h
                  rcases bind_eq_error.mp h with h | ⟨s₁, hfire, h⟩
                  · exact Or.inr ⟨s, .refl, hpass.trans h⟩
                  · rcases (ih s₁).2 e h with h | ⟨s₂, hrun, hs₂⟩
                    · exact Or.inl h
                    · exact Or.inr ⟨s₂, Sys.Run.trans
                        (.step .pass .refl (hpass.trans hfire) trivial) hrun, hs₂⟩

theorem packets_run {env : Env K P W} :
    ∀ (l : List Nat) (s : Sys K P D W),
      (∀ s', l.foldlM (fun s i => runPkt env i s) s = .ok s' →
        Sys.Run env (fun _ _ _ => True) s s') ∧
      (∀ e, l.foldlM (fun s i => runPkt env i s) s = .error e →
        ∃ s₁ c, Sys.Run env (fun _ _ _ => True) s s₁ ∧ s₁.op env c = .error e) := by
  intro l
  induction l with
  | nil =>
      intro s
      refine ⟨fun s' h => ?_, fun e h => by simp [pure, Except.pure] at h⟩
      obtain rfl := Except.ok.inj h
      exact .refl
  | cons i l ih =>
      intro s
      rw [List.foldlM_cons]
      constructor
      · intro s' h
        obtain ⟨s₁, hrun, h⟩ := bind_eq_ok.mp h
        exact Sys.Run.trans (.step (.packet i) .refl hrun trivial) ((ih s₁).1 s' h)
      · intro e h
        rcases bind_eq_error.mp h with h | ⟨s₁, hrun, h⟩
        · exact ⟨s, .packet i, .refl, h⟩
        · obtain ⟨s₂, c, hs₂, hc⟩ := (ih s₁).2 e h
          exact ⟨s₂, c, Sys.Run.trans (.step (.packet i) .refl hrun trivial) hs₂, hc⟩

/-- **A batch is a run**, and where it stops with a fault, a step of a run did. -/
theorem runPktBatch_run {env : Env K P W} (fuel : Nat) (s : Sys K P D W) :
    (∀ s', runPktBatch env fuel s = .ok s' → Sys.Run env (fun _ _ _ => True) s s') ∧
    (∀ e, runPktBatch env fuel s = .error e → e = .outOfFuel ∨
      ∃ s₁ c, Sys.Run env (fun _ _ _ => True) s s₁ ∧ s₁.op env c = .error e) := by
  obtain ⟨hok, herr⟩ := timeoutLoop_run env fuel s
  unfold runPktBatch
  constructor
  · intro s' h
    obtain ⟨s₁, hloop, h⟩ := bind_eq_ok.mp h
    exact (hok s₁ hloop).trans ((packets_run _ s₁).1 s' h)
  · intro e h
    rcases bind_eq_error.mp h with h | ⟨s₁, hloop, h⟩
    · rcases herr e h with h | ⟨s₁, hrun, hs₁⟩
      · exact Or.inl h
      · exact Or.inr ⟨s₁, .pass, hrun, hs₁⟩
    · obtain ⟨s₂, c, hrun, hc⟩ := (packets_run _ s₁).2 e h
      exact Or.inr ⟨s₂, c, (hok s₁ hloop).trans hrun, hc⟩

/-! ### A timeout set by a function that ends its connection -/

/-- Packets are their connection's number, and the clock stands at 5. -/
def lingerEnv : Env Nat Nat Unit where
  identify := fun p _ => some p
  clock := fun _ => 5
  topRule := Timeout.firstRule
  ndebug := true

/-- Sets a timeout; on connection 7 it ends the connection in the same call. -/
def lingerFun : StateFun Nat Nat Unit := fun _ p =>
  .setTimeout 0 (fun _ => .done) (if p = 7 then .transition StateIDInvalid .done else .done)

/-- A client with that function. -/
def linger : Sys Nat Nat Nat Unit where
  sm := StateMachine.new.registerFunction 0 lingerFun
  connPool := ∅
  pktsBA := (BufArray.new [7, 8]).get rfl
  w := ()
  ticks := 0
  log := []

/-- The client after it opened a connection and got the first packet of it. -/
def lingered (id idx : Nat) : Except Fault (Sys Nat Nat Nat Unit) :=
  runPkt lingerEnv idx (addStateNoFun id (State.new 0 0) linger)

/-- Connection 7 is gone after its packet, its timeout is valid and due, and the next batch
stops with the assertion on it. -/
theorem timeout_outlives : ∃ s, Sys.Run lingerEnv (fun _ _ _ => True) linger s ∧
    runPktBatch lingerEnv 2 s = .error .noState := by
  obtain ⟨s, hs⟩ : ∃ s, lingered 7 0 = .ok s := ⟨_, rfl⟩
  refine ⟨s, .step (.packet 0) (.step (.addStateNoFun 7 (State.new 0 0)) .refl rfl trivial) hs
    trivial, ?_⟩
  obtain rfl : s = ((lingered 7 0).toOption.get rfl) := by
    simp only [hs]
    rfl
  rfl

/-- Connection 8 keeps its timeout, and is there when it fires. -/
theorem Sys.Run.timeout_kept_linger :
    ∃ (s : Sys Nat Nat Nat Unit) (td : TimeoutData Nat Nat Nat Unit),
    s.sm.timeoutFunctions.lookup 0 = some td ∧
    s.Tracked td.id ∧
      Trace.Since (.arm 0 td.id) (· = .removed td.id) s.log ∧
      (∃ s₁ st, s.findState td.id = .ok (s₁, some st) ∧ s.stateOf td.id = some st ∧
        s₁.log = s.log) ∧
      fireTimeout lingerEnv ⟨5, 0⟩ td s ≠ .error .noState := by
  obtain ⟨s, hs⟩ : ∃ s, lingered 8 1 = .ok s := ⟨_, rfl⟩
  have hlog : s.log = [.opened 8 (State.new 0 0), .run 1, .call 8 (State.new 0 0), .arm 0 8] := by
    obtain rfl : s = ((lingered 8 1).toOption.get rfl) := by
      simp only [hs]
      rfl
    rfl
  obtain ⟨td, htd⟩ : ∃ td, s.sm.timeoutFunctions.lookup 0 = some td := by
    obtain rfl : s = ((lingered 8 1).toOption.get rfl) := by
      simp only [hs]
      rfl
    exact ⟨_, rfl⟩
  have hclean : ∀ (c : Op Nat Nat Nat) (s' s'' : Sys Nat Nat Nat Unit),
      (∀ new id, s''.log = s'.log ++ new → .removed id ∉ new) → (∀ id st, c ≠ .addState id st) →
      c.Clean lingerEnv s' s'' :=
    fun _ _ _ hno hadd => ⟨fun new id hl hc => absurd hc (hno new id hl),
      fun _ id st _ hc => absurd hc (hadd id st)⟩
  have hrun : Sys.Run lingerEnv (fun s c s' => c.Clean lingerEnv s s') linger s := by
    refine .step (.packet 1) (.step (.addStateNoFun 8 (State.new 0 0)) .refl rfl ?_) hs ?_
    · refine hclean _ _ _ (fun new id hl hc => ?_) (by simp)
      have hl' : new = [.opened 8 (State.new 0 0)] := hl.symm
      simp [hl'] at hc
    · refine hclean _ _ _ (fun new id hl hc => ?_) (by simp)
      rw [hlog] at hl
      have hl' : [.run 1, .call 8 (State.new 0 0), .arm 0 8] = new := (List.cons.inj hl).2
      simp [← hl'] at hc
  have hstart : linger.sm.timeoutFunctions = ∅ := rfl
  exact ⟨s, td, htd, Sys.Run.timeout_kept (t := ⟨5, 0⟩) hstart hrun htd⟩

end MoonState
