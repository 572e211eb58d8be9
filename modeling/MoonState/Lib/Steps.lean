/-
Runs of a step relation.

`R x i y` says that the input `i` takes the system from `x` to `y`.  A run is any
number of steps.  What holds at the start and is kept by every step holds
wherever a run ends, and runs of equivalent relations are the same.

`Steps` says where a run can end.  `Execution` keeps its states and inputs, for what is said
of each of them.  Where a step is a function, the inputs alone are the run, and
`Throughout` says something of each of them and of the state it meets.
-/
import Mathlib.Init

/-- `y` is reached from `x` by steps of `R`. -/
inductive Steps {S I : Type} (R : S → I → S → Prop) (x : S) : S → Prop
  | refl : Steps R x x
  | step {y z : S} (i : I) (h : Steps R x y) (hstep : R y i z) : Steps R x z

namespace Steps

variable {S I : Type} {R R' : S → I → S → Prop} {x y z : S}

theorem trans (h : Steps R x y) (h' : Steps R y z) : Steps R x z := by
  induction h' with
  | refl => exact h
  | step i _ hstep ih => exact ih.step i hstep

theorem mono (h : ∀ x i y, R x i y → R' x i y) (hrun : Steps R x y) : Steps R' x y := by
  induction hrun with
  | refl => exact .refl
  | step i _ hstep ih => exact ih.step i (h _ _ _ hstep)

theorem congr (h : ∀ x i y, R x i y ↔ R' x i y) : Steps R x y ↔ Steps R' x y :=
  ⟨mono fun x i y => (h x i y).mp, mono fun x i y => (h x i y).mpr⟩

/-- A fold that succeeds is a run. -/
theorem of_foldlM {E : Type} {step : S → I → Except E S} (is : List I) {x y : S}
    (h : is.foldlM step x = .ok y) : Steps (fun x i y => step x i = .ok y) x y := by
  induction is generalizing x with
  | nil => exact Except.ok.inj h ▸ .refl
  | cons i is ih =>
      rw [List.foldlM_cons] at h
      cases hi : step x i with
      | error e =>
          rw [hi] at h
          exact absurd h (by simp [Bind.bind, Except.bind])
      | ok z =>
          rw [hi] at h
          exact (Steps.refl.step i hi).trans (ih h)

section invariant

variable {P : S → Prop} (hstart : P x) (hkeep : ∀ y i z, P y → R y i z → P z)

include hstart hkeep

/-- **The invariant rule.** -/
theorem invariant (hrun : Steps R x y) : P y := by
  induction hrun with
  | refl => exact hstart
  | step i _ h ih => exact hkeep _ i _ ih h

/-- The relations only have to agree where the invariant holds. -/
theorem congr_of_invariant (h : ∀ y i z, P y → (R y i z ↔ R' y i z)) :
    Steps R x y ↔ Steps R' x y := by
  constructor
  · intro hrun
    induction hrun with
    | refl => exact .refl
    | step i hrun hstep ih => exact ih.step i ((h _ _ _ (invariant hstart hkeep hrun)).mp hstep)
  · intro hrun
    induction hrun with
    | refl => exact .refl
    | step i _ hstep ih => exact ih.step i ((h _ _ _ (invariant hstart hkeep ih)).mpr hstep)

end invariant

end Steps

/-- The inputs `i 0, …, i (n - 1)` lead through the states `x 0, …, x n`. -/
def Execution {S I : Type} (R : S → I → S → Prop) (x : Nat → S) (i : Nat → I) (n : Nat) : Prop :=
  ∀ k < n, R (x k) (i k) (x (k + 1))

namespace Execution

variable {S I : Type} {R R' : S → I → S → Prop} {x : Nat → S} {i : Nat → I} {n m : Nat}

theorem of_le (h : Execution R x i n) (hm : m ≤ n) : Execution R x i m :=
  fun k hk => h k (Nat.lt_of_lt_of_le hk hm)

/-- What holds at the start and is kept by every step holds in every state. -/
theorem invariant {P : S → Prop} (h : Execution R x i n) (hstart : P (x 0))
    (hkeep : ∀ y j z, P y → R y j z → P z) : ∀ k ≤ n, P (x k) := by
  intro k
  induction k with
  | zero => exact fun _ => hstart
  | succ k ih => exact fun hk => hkeep _ _ _ (ih (by omega)) (h k hk)

end Execution

/-- `ok` holds of each input and of the state it meets. -/
def Throughout {S I : Type} (step : S → I → S) (ok : S → I → Prop) : S → List I → Prop
  | _, [] => True
  | x, i :: is => ok x i ∧ Throughout step ok (step x i) is

namespace Throughout

variable {S I : Type} {step : S → I → S} {ok ok' base : S → I → Prop}

theorem congr (h : ∀ x i, ok x i ↔ ok' x i) (is : List I) :
    ∀ x, Throughout step ok x is ↔ Throughout step ok' x is := by
  induction is with
  | nil => exact fun _ => Iff.rfl
  | cons i is ih => exact fun x => and_congr (h x i) (ih _)

/-- The conditions only have to agree where the invariant holds, on inputs that meet `base`. -/
theorem congr_of_invariant {P : S → Prop} (hkeep : ∀ x i, P x → base x i → P (step x i))
    (h : ∀ x i, P x → base x i → (ok x i ↔ ok' x i)) {is : List I} :
    ∀ {x}, P x → Throughout step base x is →
      (Throughout step ok x is ↔ Throughout step ok' x is) := by
  induction is with
  | nil => exact fun _ _ => Iff.rfl
  | cons i is ih =>
      intro x hx hbase
      exact and_congr (h x i hx hbase.1) (ih (hkeep x i hx hbase.1) hbase.2)

end Throughout
