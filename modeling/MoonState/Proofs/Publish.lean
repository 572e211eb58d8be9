/-
What `addState` hands over.

`addState` copies the `State` into the pool after its function has returned, and the
destructor of the `FunIface` runs the function of an immediate transition after that, on
`addState`'s own `State`.  So the pool holds what the first function left, and it is what
the last one left exactly if the second one did nothing that shows.
-/
import MoonState.Proofs.Chain

namespace MoonState

variable {K P D W : Type} [DecidableEq K]

/-- The activation `addState` runs the function of the `State` in. -/
def startAdd (id : K) (st : State D) (s : Sys K P D W) : Activation K P D W :=
  { sys := s, state := st, iface := FunIface.new 0 id }

/-- The function has brought its connection to the end state. -/
def Activation.Ended (a : Activation K P D W) : Prop := a.state.state = a.sys.sm.endStateID

instance (a : Activation K P D W) : Decidable a.Ended :=
  inferInstanceAs (Decidable (a.state.state = a.sys.sm.endStateID))

/-- Its `State` is in the pool, unless it has ended. -/
def Activation.publish (a : Activation K P D W) : Activation K P D W :=
  { a with sys := if a.Ended then a.sys else a.sys.poolAdd a.iface.cID a.state }

/-- What the pool is to hold of a function's `State`. -/
def Activation.handedOver (a : Activation K P D W) : Option (State D) :=
  if a.Ended then none else some a.state

/-- A function that is entered immediately leaves the `State` it finds as it is, or finds it in the
end state and leaves it there. -/
def Activation.SettlesFirst (env : Env K P W) (a : Activation K P D W) : Prop :=
  ∀ b, callFun env a = .ok b → b.iface.immediateTransition = true →
    ∀ b' c, b.publish.mark env = .ok b' → callFun env b' = .ok c →
      (b.Ended ∧ c.Ended) ∨ (¬ b.Ended ∧ c.state = b.state)

/-! ### What is in the pool -/

theorem Activation.lookup_publish {a : Activation K P D W}
    (hnew : a.sys.connPool.lookup a.iface.cID = none) :
    a.publish.sys.connPool.lookup a.iface.cID = a.handedOver := by
  unfold publish handedOver
  by_cases hend : a.Ended
  · rw [if_pos hend, if_pos hend]
    exact hnew
  · rw [if_neg hend, if_neg hend]
    show (FMap.insertNew a.iface.cID a.state a.sys.connPool).lookup a.iface.cID = _
    rw [FMap.lookup_insertNew_self, hnew]
    rfl

omit [DecidableEq K] in
/-- Two functions hand over the same exactly if the second one changes nothing that shows. -/
theorem Activation.handedOver_eq_iff {b c : Activation K P D W}
    (hsm : c.sys.sm.endStateID = b.sys.sm.endStateID) :
    b.handedOver = c.handedOver ↔ (b.Ended ∧ c.Ended) ∨ (¬ b.Ended ∧ c.state = b.state) := by
  unfold handedOver
  by_cases hb : b.Ended
  · by_cases hc : c.Ended
    · simp [hb, hc]
    · simp [hb, hc]
  · by_cases hc : c.Ended
    · have hne : c.state ≠ b.state := by
        intro heq
        exact hb (by rwa [Ended, heq, hsm] at hc)
      simp [hb, hc, hne]
    · simp [hb, hc, eq_comm]

/-- The destructor of `addState`'s `FunIface` leaves the pool alone. -/
theorem Activation.destroy_param {env : Env K P W} {a b : Activation K P D W}
    (h : a.destroy env .param = .ok b) :
    b.sys.connPool = a.sys.connPool ∧ b.sys.sm.endStateID = a.sys.sm.endStateID ∧
      ((a.iface.immediateTransition = false ∧ b.state = a.state) ∨
        (a.iface.immediateTransition = true ∧ ∃ a' c, a.mark env = .ok a' ∧ callFun env a' = .ok c ∧
          c.sys.sm.endStateID = a.sys.sm.endStateID ∧ b.state = c.state)) := by
  obtain ⟨ba, hba, ⟨hnow, rfl⟩ | ⟨hnow, -, c, s, hc, hs, rfl⟩⟩ := destroy_eq_ok h
  · exact ⟨rfl, rfl, Or.inl ⟨hnow, rfl⟩⟩
  · obtain ⟨new, hran⟩ := callFun_ran hc
    have hend : c.sys.sm.endStateID = a.sys.sm.endStateID := by rw [hran.sm]
    obtain rfl : s = c.sys := hs.trans (if_neg (by simp))
    have hmark : a.mark env = .ok { a with sys := { a.sys with pktsBA := ba } } := by
      unfold mark
      rw [hba]
    refine ⟨?_, ?_, Or.inr ⟨hnow, _, c, hmark, hc, hend, rfl⟩⟩
    · show (ite _ _ _ : Sys K P D W).connPool = _
      split
      · exact hran.connPool
      · exact hran.connPool
    · show (ite _ _ _ : Sys K P D W).sm.endStateID = _
      split
      · exact hend
      · exact hend

/--
**When `addState` publishes the final `State`.**

For every machine, all functions and an ID that is not in the pool: the pool then holds
what the last function left, and nothing if that is in the end state, exactly if a
function that was entered immediately has left the `State` as it found it, or the
connection was in the end state before and after it.
-/
theorem addState_publishes_iff {env : Env K P W} {id : K} {st st' : State D} {s s' : Sys K P D W}
    (hnew : s.connPool.lookup id = none) (hadd : addState env id st s = .ok (s', st')) :
    s'.connPool.lookup id = (if st'.state = s'.sm.endStateID then none else some st') ↔
      (startAdd id st s).SettlesFirst env := by
  obtain ⟨a, b, ha, hb, rfl, rfl⟩ := addState_eq_ok hadd
  obtain ⟨new, hran⟩ := callFun_ran ha
  obtain rfl : a.iface.cID = id := hran.cID
  have hpool : a.sys.connPool.lookup a.iface.cID = none := by
    rw [hran.connPool]
    exact hnew
  have hpublish : a.publish.destroy env .param = .ok b := hb
  have hend : a.publish.sys.sm.endStateID = a.sys.sm.endStateID := by
    show (ite _ _ _ : Sys K P D W).sm.endStateID = _
    split <;> rfl
  have honly : ∀ {x}, callFun env (startAdd a.iface.cID st s) = .ok x → x = a :=
    fun hx => Except.ok.inj (hx.symm.trans ha)
  obtain ⟨hconn, hsm, hcase⟩ := Activation.destroy_param hpublish
  rw [hconn, Activation.lookup_publish hpool, hsm, hend]
  rcases hcase with ⟨hnow, hstate⟩ | ⟨hnow, a', c, hmark, hc, hcend, hstate⟩
  · -- no function was entered immediately
    refine iff_of_true ?_ fun x hx hnow' => ?_
    · rw [hstate]
      rfl
    · rw [honly hx, show a.iface.immediateTransition = false from hnow] at hnow'
      simp at hnow'
  · have hcend' : c.sys.sm.endStateID = a.sys.sm.endStateID := hcend.trans hend
    have hover : (if b.state.state = a.sys.sm.endStateID then none else some b.state)
        = c.handedOver := by
      rw [hstate, ← hcend']
      rfl
    rw [hover, Activation.handedOver_eq_iff hcend']
    constructor
    · intro h x hx _ y' y hy' hy
      obtain rfl := honly hx
      obtain rfl := Except.ok.inj (hmark.symm.trans hy')
      obtain rfl := Except.ok.inj (hc.symm.trans hy)
      exact h
    · exact fun h => h a ha hnow a' c hmark hc

/-! ### A function that is entered while a connection is added -/

/-- A client with two functions: the first one goes on to the second one at once, which goes on to
`last`. -/
def opens (last : StateID) : Sys Nat Nat Unit Unit where
  sm := (StateMachine.new.registerFunction 0 fun _ _ => .transitionNow 1 .done).registerFunction 1
    fun _ _ => .transition last .done
  connPool := ∅
  pktsBA := (BufArray.new [7]).get BufArray.isSome_new_seven
  w := ()
  ticks := 0
  log := []

/-- The second function goes on to a third state, and the pool keeps the second. -/
theorem opens_not_published : ∃ s' : Sys Nat Nat Unit Unit,
    addState hopEnv 7 (State.new 0 ()) (opens 2) = .ok (s', State.new 2 ()) ∧
      s'.connPool.lookup 7 = some (State.new 1 ()) ∧
      s'.connPool.lookup 7
        ≠ if (State.new 2 ()).state = s'.sm.endStateID then none else some (State.new 2 ()) := by
  refine ⟨_, rfl, by decide, by decide⟩

/-- Where the second function stays in its state, the pool holds that. -/
theorem addState_publishes_iff_opens : ∃ s' : Sys Nat Nat Unit Unit,
    addState hopEnv 7 (State.new 0 ()) (opens 1) = .ok (s', State.new 1 ()) ∧
      s'.connPool.lookup 7
        = if (State.new 1 ()).state = s'.sm.endStateID then none else some (State.new 1 ()) := by
  obtain ⟨s', hs'⟩ : ∃ s', addState hopEnv 7 (State.new 0 ()) (opens 1)
      = .ok (s', State.new 1 ()) := ⟨_, rfl⟩
  refine ⟨s', hs', (addState_publishes_iff (by decide) hs').mpr ?_⟩
  intro b hb _ b' c hmark hc
  obtain rfl := (Except.ok.inj hb).symm
  obtain rfl := (Except.ok.inj hmark).symm
  obtain rfl := (Except.ok.inj hc).symm
  exact Or.inr ⟨by decide, rfl⟩

end MoonState
