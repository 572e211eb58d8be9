/-
What firing a timeout does to the batch.

The `FunIface` a timeout function gets has no packet: its index is the largest
there is, and its destructor marks that slot like any other.  No array is that
long.  So the first timeout that fires stops the program at the assertion in
`markSendPkt` or `markDropPkt`, or writes outside the mask where assertions are
compiled out, and the loop leaves the batch alone only as long as none fires.
-/
import MoonState.Proofs.Promptness

namespace MoonState

variable {K P D W : Type}

/-! ### What the loop is to leave alone -/

/-- The same, with the assertions compiled in. -/
def Env.asserting (env : Env K P W) : Env K P W := { env with ndebug := false }

/-- From one reading to the next the clock does not go back. -/
def Env.Steady (env : Env K P W) : Prop := ∀ n, env.clock n ≤ env.clock (n + 1)

/-- No timeout fires: one is in the future when the loop first looks at the clock, or none in the
queue is valid. -/
def Sys.NoneFires (env : Env K P W) (s : Sys K P D W) : Prop :=
  (∃ t ∈ s.sm.timeoutsQ, env.clock s.ticks < t.time) ∨ ∀ t, ¬ s.Valid t

variable [DecidableEq K] [Inhabited D]

/-- The timeout loop touches no slot that holds no packet, so that the assertions would hold, and
leaves the marks of the batch as they are. -/
def LeavesBatch (env : Env K P W) (fuel : Nat) (s : Sys K P D W) : Prop :=
  ∃ s', timeoutLoop env.asserting fuel s = .ok s' ∧ timeoutLoop env fuel s = .ok s' ∧
    ∀ i, i < s.pktsBA.numBufs → s'.pktsBA.sends i = s.pktsBA.sends i

/-! ### The mark of a timeout -/

omit [DecidableEq K] [Inhabited D] in
/-- No array has the slot of a `FunIface` without a packet. -/
theorem Activation.mark_noPkt {env : Env K P W} (hassert : env.ndebug = false)
    {a a' : Activation K P D W} (hidx : a.iface.pktIdx = noPktIdx) : a.mark env ≠ .ok a' := by
  intro h
  obtain ⟨ba, hba, -⟩ := mark_eq_ok h
  have hwide := a.sys.pktsBA.numBufs_lt
  have hout : ¬ noPktIdx < a.sys.pktsBA.numBufs := by
    unfold noPktIdx
    omega
  rw [hidx, BufArray.mark, dif_neg hout, if_neg (by simp [hassert])] at hba
  simp at hba

/-- A timeout that fires does not get past its destructor. -/
theorem fireTimeout_asserting {env : Env K P W} (hassert : env.ndebug = false) {t : Timeout}
    {td : TimeoutData K P D W} {s s' : Sys K P D W} : fireTimeout env t td s ≠ .ok s' := by
  intro h
  obtain ⟨s₁, st, a, b, -, ha, -, hb⟩ := fireTimeout_eq_ok h
  obtain ⟨new, hran⟩ := exec_ran ha
  have hidx : a.iface.pktIdx = noPktIdx := hran.pktIdx
  have hmark : ∀ {x : Sys K P D W} {home : Home},
      ({ a with sys := x } : Activation K P D W).destroy env home ≠ .ok b := by
    intro x home hd
    obtain ⟨c, hc, -⟩ := bind_eq_ok.mp hd
    exact Activation.mark_noPkt (a := { a with sys := x }) hassert hidx hc
  rcases hb with ⟨-, hb⟩ | ⟨-, hb⟩
  · exact hmark hb
  · exact hmark hb

/-! ### The loop -/

/-- With nothing valid on the queue the loop only pops. -/
theorem timeoutLoop_of_none_valid {env : Env K P W} :
    ∀ (fuel : Nat) {s : Sys K P D W}, (∀ t, ¬ s.Valid t) → s.sm.timeoutsQ.length < fuel →
      ∃ s', timeoutLoop env fuel s = .ok s' ∧ timeoutLoop env.asserting fuel s = .ok s' ∧
        s'.pktsBA = s.pktsBA := by
  intro fuel
  induction fuel with
  | zero =>
      intro s _ hlen
      omega
  | succ fuel ih =>
      intro s hnone hlen
      rw [timeoutLoop, timeoutLoop, show env.asserting.topRule = env.topRule from rfl,
        show env.asserting.clock = env.clock from rfl]
      cases htop : env.topRule.top s.sm.timeoutsQ with
      | none => exact ⟨s, rfl, rfl, rfl⟩
      | some t =>
          have hmem := env.topRule.top_mem _ _ htop
          have hpop := env.topRule.length_pop htop
          have hstale : s.sm.timeoutFunctions.lookup t.timeoutID = none :=
            Finmap.lookup_eq_none.mpr fun hc => hnone t ⟨hmem, hc⟩
          dsimp only
          by_cases hlate : t.time > env.clock s.ticks
          · rw [if_pos hlate, if_pos hlate]
            exact ⟨_, rfl, rfl, rfl⟩
          · rw [if_neg hlate, if_neg hlate, hstale]
            obtain ⟨s', hs', hs'', hba⟩ := ih (s := { s with
              sm := { s.sm with timeoutsQ := env.topRule.pop s.sm.timeoutsQ }
              ticks := s.ticks + 1 })
              (fun u hu => hnone u ⟨env.topRule.mem_of_mem_pop hu.1, hu.2⟩) (by dsimp only; omega)
            exact ⟨s', hs', hs'', hba⟩

/-- With everything due the loop gets to something valid. -/
theorem timeoutLoop_of_due {env : Env K P W} (hassert : env.ndebug = false) (hclock : env.Steady) :
    ∀ (fuel : Nat) {s s' : Sys K P D W} {t : Timeout},
      (∀ u ∈ s.sm.timeoutsQ, u.time ≤ env.clock s.ticks) → s.Valid t →
      timeoutLoop env fuel s ≠ .ok s' := by
  intro fuel
  induction fuel with
  | zero =>
      intro s s' t _ _ h
      simp [timeoutLoop] at h
  | succ fuel ih =>
      intro s s' t hdue ht h
      obtain ⟨u, htop⟩ := env.topRule.exists_top (List.ne_nil_of_mem ht.1)
      have hmem := env.topRule.top_mem _ _ htop
      rw [timeoutLoop, htop] at h
      dsimp only at h
      rw [if_neg (Int.not_lt.mpr (hdue u hmem))] at h
      cases hl : s.sm.timeoutFunctions.lookup u.timeoutID with
      | none =>
          -- the valid one is behind it
          rw [hl] at h
          have hne : t ≠ u := by
            rintro rfl
            exact Finmap.lookup_eq_none.mp hl ht.2
          refine ih (s := { s with
            sm := { s.sm with timeoutsQ := env.topRule.pop s.sm.timeoutsQ }
            ticks := s.ticks + 1 }) (t := t) (fun v hv => ?_) ⟨?_, ht.2⟩ h
          · exact Int.le_trans (hdue v (env.topRule.mem_of_mem_pop hv)) (hclock s.ticks)
          · exact (env.topRule.eq_top_or_mem_pop htop ht.1).resolve_left hne
      | some td =>
          rw [hl] at h
          obtain ⟨s₁, hfire, -⟩ := bind_eq_ok.mp h
          exact fireTimeout_asserting hassert hfire

/--
**When firing timeouts leaves the batch alone.**

For every queue, every clock that does not go back and all timeout functions, given a
pass for each entry: the loop touches no slot beyond the packets and changes no mark
exactly if it fires nothing.
-/
theorem timeoutLoop_leaves_iff (env : Env K P W) {fuel : Nat} {s : Sys K P D W}
    (hclock : env.Steady) (hfuel : s.sm.timeoutsQ.length < fuel) :
    LeavesBatch env fuel s ↔ s.NoneFires env := by
  constructor
  · rintro ⟨s', hs', -, -⟩
    by_contra hfires
    obtain ⟨hdue, hvalid⟩ := not_or.mp hfires
    obtain ⟨t, ht⟩ := not_forall_not.mp hvalid
    have hall : ∀ u ∈ s.sm.timeoutsQ, u.time ≤ env.asserting.clock s.ticks :=
      fun u hu => Int.not_lt.mp fun hlate => hdue ⟨u, hu, hlate⟩
    have hsteady : env.asserting.Steady := hclock
    exact timeoutLoop_of_due rfl hsteady fuel hall ht hs'
  · rintro (⟨t, ht, hlate⟩ | hnone)
    · obtain ⟨n, rfl⟩ : ∃ n, fuel = n + 1 := ⟨fuel - 1, by omega⟩
      have hlate' : env.asserting.clock s.ticks < t.time := hlate
      exact ⟨_, timeoutLoop_of_late ht hlate' n, timeoutLoop_of_late ht hlate n, fun _ _ => rfl⟩
    · obtain ⟨s', hs', hs'', hba⟩ := timeoutLoop_of_none_valid fuel hnone hfuel
      exact ⟨s', hs'', hs', fun i _ => by rw [hba]⟩

/-! ### A timeout that is due -/

/-- The queue of `behind`, with what is due only. -/
def ripe : Sys Nat Nat Unit Unit :=
  { behind with sm := { behind.sm with timeoutsQ := [⟨1, 0⟩] } }

/-- The program stops at the assertion, whatever the timeout function does: it does nothing. -/
theorem ripe_not_left : runPktBatch stillEnv.asserting 2 ripe = .error .markOutOfRange ∧
    ¬ LeavesBatch stillEnv 2 ripe := by
  refine ⟨rfl, ?_⟩
  rintro ⟨s', hs', -, -⟩
  have hstops : timeoutLoop stillEnv.asserting 2 ripe = .error .markOutOfRange := rfl
  rw [hstops] at hs'
  simp at hs'

theorem timeoutLoop_leaves_iff_behind :
    LeavesBatch stillEnv 3 behind ↔ behind.NoneFires stillEnv :=
  timeoutLoop_leaves_iff stillEnv (fun _ => Int.le_refl _) (by decide)

end MoonState
