/-
Which timeouts a batch fires, and in which order.

`Timeout::Compare` puts the latest deadline on top of the queue, not the nearest
one.  So the loop stops at once when anything at all is in the future, and
otherwise it drains the whole queue from the latest deadline down.

Both cases are decided by the queue the loop starts from: it is prompt when
nothing valid is due behind an entry in the future, and in order when all it fires
share one deadline.
-/
import MoonState.Proofs.StateMachine

namespace MoonState

variable {K P D W : Type}

/-! ### What the loop is for -/

/-- The timeout an event says is fired. -/
def Event.fired : Event K D P → Option Timeout
  | .fire t _ => some t
  | _ => none

/-- The timeouts fired, in order. -/
def fired (log : List (Event K D P)) : List Timeout := log.filterMap Event.fired

@[simp] theorem fired_append (l l' : List (Event K D P)) : fired (l ++ l') = fired l ++ fired l' :=
  List.filterMap_append

/-- A function's events fire nothing. -/
theorem fired_own {log : List (Event K D P)} {idx : Nat} {id : K}
    (h : ∀ e ∈ log, e.Own idx id) : fired log = [] := by
  rw [fired, List.filterMap_eq_nil_iff]
  intro e he
  have hown := h e he
  cases e <;> simp_all [Event.Own, Event.fired]

/-- An entry of the queue whose ID is still valid. -/
def Sys.Valid (s : Sys K P D W) (t : Timeout) : Prop :=
  t ∈ s.sm.timeoutsQ ∧ t.timeoutID ∈ s.sm.timeoutFunctions

/-- **Promptness.**  From `s` to `s'`, at time `now`: nothing valid that is due is left, nothing
fired early, and what fired did so in the order of the deadlines. -/
def Prompt (now : Int) (s s' : Sys K P D W) : Prop :=
  ∃ new, s'.log = s.log ++ new ∧
    (∀ t, s'.Valid t → now < t.time) ∧
    (∀ t ∈ fired new, t.time ≤ now) ∧
    (fired new).Pairwise (fun t u => t.time ≤ u.time)

/-- The deadline a valid ID fires at: no entry of the same ID is later. -/
def Sys.Deadline (s : Sys K P D W) (t : Timeout) : Prop :=
  s.Valid t ∧ ∀ u ∈ s.sm.timeoutsQ, u.timeoutID = t.timeoutID → u.time ≤ t.time

/-- When the loop is prompt: behind an entry in the future nothing valid is due, and with no
such entry all valid timeouts share one deadline. -/
def Sys.InOrder (now : Int) (s : Sys K P D W) : Prop :=
  if ∃ t ∈ s.sm.timeoutsQ, now < t.time then ∀ t, s.Valid t → now < t.time
  else ∀ t u, s.Deadline t → s.Deadline u → t.time = u.time

/-- The functions of the valid timeouts set no timeouts. -/
def Sys.Quiet (s : Sys K P D W) : Prop :=
  ∀ tid td, s.sm.timeoutFunctions.lookup tid = some td →
    ∀ st, (td.func st).Within ⟨True, True, False⟩

/-! ### One timeout -/

variable [DecidableEq K] [Inhabited D]

/-- One timeout fires: it is logged, its entry is popped and its ID is invalid from then on. -/
theorem fireTimeout_quiet {env : Env K P W} {t : Timeout} {td : TimeoutData K P D W}
    {s s' : Sys K P D W} (hq : ∀ st, (td.func st).Within ⟨True, True, False⟩)
    (h : fireTimeout env t td s = .ok s') :
    ∃ new, s'.log = s.log ++ new ∧ fired new = [t] ∧
      s'.sm.timeoutsQ = env.topRule.pop s.sm.timeoutsQ ∧
      s'.sm.timeoutFunctions = s.sm.timeoutFunctions.erase t.timeoutID := by
  obtain ⟨s₁, st, a, ba, -, hf, ha, -, rfl⟩ := fireTimeout_calm h
  obtain ⟨new, hnew, hno⟩ := exec_unarmed (fun hc => hc) (hq _) ha
  have hF := Sys.findState_found hf
  have hsm : a.sys.sm = s₁.sm := hnew.unarmed hno
  have hQ : a.sys.sm.timeoutsQ = s.sm.timeoutsQ := by rw [hsm, hF.sm]
  have hT : a.sys.sm.timeoutFunctions = s.sm.timeoutFunctions := by rw [hsm, hF.sm]
  obtain ⟨pre, hpre, hpreFired⟩ : ∃ pre, s₁.log = s.log ++ pre ∧ fired pre = [] := by
    rcases hF.log with hl | hl
    · exact ⟨[], by rw [hl, List.append_nil], rfl⟩
    · exact ⟨_, hl, rfl⟩
  have hlog : a.sys.log = s.log ++ (pre ++ .fire t td.id :: new) := by
    rw [hnew.log]
    show s₁.log ++ [.fire t td.id] ++ new = _
    rw [hpre]
    simp
  have hfired : fired (pre ++ .fire t td.id :: new) = [t] := by
    rw [fired_append, hpreFired]
    show [] ++ t :: fired new = _
    rw [fired_own hnew.own]
    rfl
  unfold endTimeout
  split
  · obtain ⟨fin, hfin, hcase⟩ := Sys.removeState_log a.commit td.id
    refine ⟨pre ++ .fire t td.id :: new ++ fin, ?_, ?_, congrArg env.topRule.pop hQ, ?_⟩
    · show (a.commit.removeState td.id).log = _
      rw [hfin, show a.commit.log = a.sys.log from rfl, hlog, List.append_assoc]
    · rw [fired_append, hfired]
      rcases hcase with rfl | rfl <;> rfl
    · show a.sys.sm.timeoutFunctions.erase _ = _
      rw [hT]
  · refine ⟨_, hlog, hfired, congrArg env.topRule.pop hQ, ?_⟩
    show a.sys.sm.timeoutFunctions.erase _ = _
    rw [hT]

/-! ### The loop ends -/

omit [DecidableEq K] [Inhabited D] in
/-- The functions left after a timeout fired are among those there were. -/
theorem Sys.Quiet.erase {s s' : Sys K P D W} {tid : TimeoutID} (h : s.Quiet)
    (hs : s'.sm.timeoutFunctions = s.sm.timeoutFunctions.erase tid) : s'.Quiet := by
  intro tid' td hl st
  rw [hs] at hl
  by_cases htid : tid' = tid
  · rw [htid, Finmap.lookup_erase] at hl
    simp at hl
  · rw [Finmap.lookup_erase_ne htid] at hl
    exact h tid' td hl st

/-- **The loop ends**: each pass pops one entry, so one more pass than entries is enough. -/
theorem timeoutLoop_fuel {env : Env K P W} :
    ∀ (fuel : Nat) {s : Sys K P D W}, s.Quiet → s.sm.timeoutsQ.length < fuel →
      timeoutLoop env fuel s ≠ .error .outOfFuel := by
  intro fuel
  induction fuel with
  | zero => intro s _ hlen; omega
  | succ fuel ih =>
      intro s hquiet hlen h
      rw [timeoutLoop] at h
      cases htop : env.topRule.top s.sm.timeoutsQ with
      | none => simp [htop] at h
      | some t =>
          have hpop := env.topRule.length_pop htop
          rw [htop] at h
          dsimp only at h
          split at h
          · simp at h
          · cases hl : s.sm.timeoutFunctions.lookup t.timeoutID with
            | none =>
                rw [hl] at h
                exact ih (by exact hquiet) (by show (env.topRule.pop _).length < fuel; omega) h
            | some td =>
                rw [hl] at h
                rcases bind_eq_error.mp h with h | ⟨s₁, hfire, h⟩
                · exact (fireTimeout_error h).1 rfl
                · obtain ⟨-, -, -, hQ, hT⟩ := fireTimeout_quiet (hquiet _ td hl) hfire
                  refine ih (hquiet.erase hT) ?_ h
                  rw [hQ]
                  show (env.topRule.pop s.sm.timeoutsQ).length < fuel
                  omega

/-! ### What the loop fires -/

/-- The loop has drained the queue of `s`, and logged `new` doing so: what it fired are the
deadlines, from the latest on. -/
structure Drained (s s' : Sys K P D W) (new : List (Event K D P)) : Prop where
  log : s'.log = s.log ++ new
  queue : s'.sm.timeoutsQ = []
  sound : ∀ t ∈ fired new, s.Deadline t
  complete : ∀ t, s.Deadline t → ∃ u ∈ fired new, u.time = t.time
  order : (fired new).Pairwise (fun t u => u.time ≤ t.time)

omit [DecidableEq K] [Inhabited D] in
/-- Popping the top leaves the deadlines of the other valid IDs what they were. -/
theorem Sys.deadline_pop {env : Env K P W} {s : Sys K P D W} (s' : Sys K P D W) {t : Timeout}
    (htop : env.topRule.top s.sm.timeoutsQ = some t)
    (hQ : s'.sm.timeoutsQ = env.topRule.pop s.sm.timeoutsQ)
    (hT : ∀ tid, tid ∈ s'.sm.timeoutFunctions ↔ tid ≠ t.timeoutID ∧ tid ∈ s.sm.timeoutFunctions)
    (u : Timeout) : s'.Deadline u ↔ s.Deadline u ∧ u.timeoutID ≠ t.timeoutID := by
  constructor
  · rintro ⟨⟨hu, hv⟩, hlast⟩
    obtain ⟨hne, hv'⟩ := (hT _).mp hv
    rw [hQ] at hu hlast
    refine ⟨⟨⟨env.topRule.mem_of_mem_pop hu, hv'⟩, ?_⟩, hne⟩
    intro w hw hwid
    rcases env.topRule.eq_top_or_mem_pop htop hw with rfl | hw
    · exact absurd hwid.symm hne
    · exact hlast w hw hwid
  · rintro ⟨⟨⟨hu, hv⟩, hlast⟩, hne⟩
    rcases env.topRule.eq_top_or_mem_pop htop hu with rfl | hu
    · exact absurd rfl hne
    · refine ⟨⟨by rwa [hQ], (hT _).mpr ⟨hne, hv⟩⟩, ?_⟩
      intro w hw hwid
      rw [hQ] at hw
      exact hlast w (env.topRule.mem_of_mem_pop hw) hwid

omit [DecidableEq K] [Inhabited D] in
theorem Timeout.le_top {env : Env K P W} {l : List Timeout} {t u : Timeout}
    (htop : env.topRule.top l = some t) (hu : u ∈ l) : u.time ≤ t.time := by
  have := env.topRule.top_max l t htop u hu
  unfold Timeout.compare at this
  simpa using this

/-- **The drain.**  With every entry due, the loop fires each valid ID once, at its deadline,
the latest deadline first. -/
theorem timeoutLoop_drained {env : Env K P W} {now : Int} (hclock : ∀ n, env.clock n = now) :
    ∀ (fuel : Nat) {s s' : Sys K P D W}, s.Quiet → (∀ t ∈ s.sm.timeoutsQ, t.time ≤ now) →
      timeoutLoop env fuel s = .ok s' → ∃ new, Drained s s' new := by
  intro fuel
  induction fuel with
  | zero => intro s s' _ _ h; simp [timeoutLoop] at h
  | succ fuel ih =>
      intro s s' hquiet hdue h
      rw [timeoutLoop] at h
      cases htop : env.topRule.top s.sm.timeoutsQ with
      | none =>
          rw [htop] at h
          obtain rfl := Except.ok.inj h
          have hnil := env.topRule.top_none _ htop
          refine ⟨[], (List.append_nil _).symm, hnil, ?_, ?_, List.Pairwise.nil⟩
          · intro t ht
            exact absurd ht List.not_mem_nil
          · intro t ht
            have := ht.1.1
            rw [hnil] at this
            exact absurd this List.not_mem_nil
      | some t =>
          have hmem := env.topRule.top_mem _ _ htop
          rw [htop] at h
          dsimp only at h
          rw [if_neg (by rw [hclock]; exact Int.not_lt.mpr (hdue t hmem))] at h
          cases hl : s.sm.timeoutFunctions.lookup t.timeoutID with
          | none =>
              -- a stale entry: popped, and nothing else
              rw [hl] at h
              have hstale : t.timeoutID ∉ s.sm.timeoutFunctions := Finmap.lookup_eq_none.mp hl
              obtain ⟨new, hnew⟩ := ih (by exact hquiet)
                (fun u hu => hdue u (env.topRule.mem_of_mem_pop hu)) h
              have hpop := Sys.deadline_pop { s with
                sm := { s.sm with timeoutsQ := env.topRule.pop s.sm.timeoutsQ }
                ticks := s.ticks + 1 } htop rfl
                (fun tid => ⟨fun hv => ⟨fun hc => hstale (hc ▸ hv), hv⟩, fun hv => hv.2⟩)
              refine ⟨new, hnew.log, hnew.queue, fun u hu => ((hpop u).mp (hnew.sound u hu)).1, ?_,
                hnew.order⟩
              intro u hu
              exact hnew.complete u ((hpop u).mpr ⟨hu, fun hc => hstale (hc ▸ hu.1.2)⟩)
          | some td =>
              rw [hl] at h
              obtain ⟨s₁, hfire, h⟩ := bind_eq_ok.mp h
              obtain ⟨pre, hlog, hpre, hQ, hT⟩ := fireTimeout_quiet (hquiet _ td hl) hfire
              obtain ⟨new, hnew⟩ := ih (hquiet.erase hT)
                (fun u hu => hdue u (env.topRule.mem_of_mem_pop (by rw [hQ] at hu; exact hu))) h
              have hpop := Sys.deadline_pop s₁ htop hQ (fun tid => by rw [hT, Finmap.mem_erase])
              have hfired : fired (pre ++ new) = t :: fired new := by
                rw [fired_append, hpre]
                rfl
              have hsound : ∀ u ∈ fired new, s.Deadline u :=
                fun u hu => ((hpop u).mp (hnew.sound u hu)).1
              refine ⟨pre ++ new, ?_, hnew.queue, ?_, ?_, ?_⟩
              · rw [hnew.log, hlog, List.append_assoc]
              · intro u hu
                rw [hfired, List.mem_cons] at hu
                rcases hu with rfl | hu
                · exact ⟨⟨hmem, Finmap.mem_of_lookup_eq_some hl⟩,
                    fun w hw _ => Timeout.le_top htop hw⟩
                · exact hsound u hu
              · intro u hu
                rw [hfired]
                by_cases hid : u.timeoutID = t.timeoutID
                · exact ⟨t, List.mem_cons_self, Int.le_antisymm (hu.2 t hmem hid.symm)
                    (Timeout.le_top htop hu.1.1)⟩
                · obtain ⟨w, hw, hwt⟩ := hnew.complete u ((hpop u).mpr ⟨hu, hid⟩)
                  exact ⟨w, List.mem_cons_of_mem _ hw, hwt⟩
              · rw [hfired, List.pairwise_cons]
                exact ⟨fun u hu => Timeout.le_top htop (hsound u hu).1.1, hnew.order⟩

/-! ### When the loop is prompt -/

omit [DecidableEq K] [Inhabited D] in
/-- What fires in descending order fires in ascending order only if all deadlines agree. -/
theorem Drained.prompt_iff {now : Int} {s s' : Sys K P D W} {new : List (Event K D P)}
    (h : Drained s s' new) (hdue : ∀ t ∈ s.sm.timeoutsQ, t.time ≤ now) :
    Prompt now s s' ↔ ∀ t u, s.Deadline t → s.Deadline u → t.time = u.time := by
  constructor
  · rintro ⟨new', hlog, -, -, hasc⟩ t u ht hu
    obtain rfl : new' = new := List.append_cancel_left (hlog.symm.trans h.log)
    have hle := List.Pairwise.forall_of_forall_of_flip
      (R := fun (x y : Timeout) => x.time ≤ y.time) (fun _ _ => Int.le_refl _) hasc h.order
    obtain ⟨t', ht', hteq⟩ := h.complete t ht
    obtain ⟨u', hu', hueq⟩ := h.complete u hu
    rw [← hteq, ← hueq]
    exact Int.le_antisymm (hle ht' hu') (hle hu' ht')
  · intro hall
    refine ⟨new, h.log, ?_, fun t ht => hdue t (h.sound t ht).1.1, ?_⟩
    · intro t ht
      have := ht.1
      rw [h.queue] at this
      exact absurd this List.not_mem_nil
    · refine List.pairwise_of_forall_mem_list fun t ht u hu => ?_
      exact Int.le_of_eq (hall t u (h.sound t ht) (h.sound u hu))

/-- With an entry in the future the loop looks at the clock once. -/
theorem timeoutLoop_of_late {env : Env K P W} {s : Sys K P D W} {t : Timeout}
    (ht : t ∈ s.sm.timeoutsQ) (hlate : env.clock s.ticks < t.time) (fuel : Nat) :
    timeoutLoop env (fuel + 1) s = .ok { s with ticks := s.ticks + 1 } := by
  obtain ⟨u, htop⟩ := env.topRule.exists_top (List.ne_nil_of_mem ht)
  have hge := Timeout.le_top htop ht
  rw [timeoutLoop, htop]
  dsimp only
  rw [if_pos (by omega)]

/-- With an entry in the future on the queue, the loop stops at once. -/
theorem timeoutLoop_stops {env : Env K P W} {now : Int} (hclock : ∀ n, env.clock n = now)
    {fuel : Nat} {s s' : Sys K P D W} {t : Timeout} (ht : t ∈ s.sm.timeoutsQ)
    (hlate : now < t.time) (h : timeoutLoop env fuel s = .ok s') :
    s' = { s with ticks := s.ticks + 1 } := by
  cases fuel with
  | zero => simp [timeoutLoop] at h
  | succ fuel =>
      rw [timeoutLoop_of_late ht (by rwa [hclock])] at h
      exact (Except.ok.inj h).symm

/--
**When the timeout loop is prompt.**

For every queue, every clock that stands still and all timeout functions that set no
timeouts, the loop ends; where it returns, it was prompt exactly if nothing valid was
due behind an entry in the future and, with no entry in the future, all valid
timeouts had one deadline.
-/
theorem timeoutLoop_prompt_iff (env : Env K P W) {now : Int} {s : Sys K P D W} (fuel : Nat)
    (hclock : ∀ n, env.clock n = now) (hquiet : s.Quiet) :
    (s.sm.timeoutsQ.length < fuel → timeoutLoop env fuel s ≠ .error .outOfFuel) ∧
    ∀ s', timeoutLoop env fuel s = .ok s' → (Prompt now s s' ↔ s.InOrder now) := by
  refine ⟨timeoutLoop_fuel fuel hquiet, fun s' h => ?_⟩
  by_cases hlate : ∃ t ∈ s.sm.timeoutsQ, now < t.time
  · rw [Sys.InOrder, if_pos hlate]
    obtain ⟨t, ht, htime⟩ := hlate
    obtain rfl := timeoutLoop_stops hclock ht htime h
    constructor
    · rintro ⟨-, -, hnone, -⟩
      exact hnone
    · intro hnone
      refine ⟨[], (List.append_nil _).symm, hnone, ?_, List.Pairwise.nil⟩
      intro u hu
      exact absurd hu List.not_mem_nil
  · rw [Sys.InOrder, if_neg hlate]
    have hdue : ∀ t ∈ s.sm.timeoutsQ, t.time ≤ now :=
      fun t ht => Int.not_lt.mp fun hc => hlate ⟨t, ht, hc⟩
    obtain ⟨new, hnew⟩ := timeoutLoop_drained hclock fuel hquiet hdue h
    exact hnew.prompt_iff hdue

/-! ### A timeout behind a later one -/

/-- The clock stands at 5. -/
def stillEnv : Env Nat Nat Unit where
  identify := fun p _ => some p
  clock := fun _ => 5
  topRule := Timeout.firstRule
  ndebug := true

/-- One connection with two timeouts, one of them due. -/
def behind : Sys Nat Nat Unit Unit where
  sm := { StateMachine.new with
    stateTable := (∅ : FMap Nat (State Unit)).insert 7 (State.new 0 ())
    timeoutsQ := [⟨1, 0⟩, ⟨10, 1⟩]
    timeoutFunctions := ((∅ : FMap TimeoutID _).insert 0 ⟨7, fun _ => .done⟩).insert 1
      ⟨7, fun _ => .done⟩ }
  connPool := ∅
  pktsBA := (BufArray.new [7]).get BufArray.isSome_new_seven
  w := ()
  ticks := 0
  log := []

theorem behind_quiet : behind.Quiet := by
  intro tid td hl st
  have hfun : td = ⟨7, fun _ => .done⟩ := by
    rcases FMap.lookup_insert_cases hl with ⟨-, h⟩ | hl
    · exact h
    · rcases FMap.lookup_insert_cases hl with ⟨-, h⟩ | hl
      · exact h
      · simp at hl
  rw [hfun]
  trivial

/-- The loop leaves a valid timeout that has been due for long. -/
theorem timeoutLoop_not_prompt : ¬ ∀ (env : Env Nat Nat Unit) (now : Int) (fuel : Nat)
    (s s' : Sys Nat Nat Unit Unit), (∀ n, env.clock n = now) → s.Quiet →
      timeoutLoop env fuel s = .ok s' → Prompt now s s' := by
  intro hall
  obtain ⟨-, -, hnone, -⟩ := hall stillEnv 5 3 behind { behind with ticks := 1 } (fun _ => rfl)
    behind_quiet rfl
  have := hnone ⟨1, 0⟩ ⟨by decide, by decide⟩
  simp at this

theorem timeoutLoop_prompt_iff_behind :
    (2 < 3 → timeoutLoop stillEnv 3 behind ≠ .error .outOfFuel) ∧
    ∀ s', timeoutLoop stillEnv 3 behind = .ok s' → (Prompt 5 behind s' ↔ behind.InOrder 5) :=
  timeoutLoop_prompt_iff stillEnv 3 (fun _ => rfl) behind_quiet

end MoonState
