/-
One's complement addition.

A carry out of a word of `w` bits is added back at its end.  So a word stands for a
number modulo `2 ^ w - 1`, and zero for words that are not all zero is `2 ^ w - 1`:
`sum_eq_max_iff`.
-/
import Mathlib.Algebra.GroupWithZero.Nat
import Mathlib.Algebra.Order.Group.Nat
import Mathlib.Algebra.BigOperators.Group.List.Basic

namespace OnesComplement

variable {w a b : Nat} {ws : List Nat}

/-- Add with end-around carry. -/
def add (w a b : Nat) : Nat := if a + b < 2 ^ w then a + b else a + b - (2 ^ w - 1)

def sum (w : Nat) (ws : List Nat) : Nat := ws.foldl (add w) 0

theorem add_lt (ha : a < 2 ^ w) (hb : b < 2 ^ w) : add w a b < 2 ^ w := by
  unfold add
  split
  · assumption
  · omega

theorem add_mod (w a b : Nat) : add w a b % (2 ^ w - 1) = (a + b) % (2 ^ w - 1) := by
  unfold add
  split
  · rfl
  · rename_i h
    exact (Nat.mod_eq_sub_mod (by omega)).symm

theorem add_pos (w : Nat) (h : 0 < a ∨ 0 < b) : 0 < add w a b := by
  unfold add
  split
  · omega
  · have := Nat.two_pow_pos w
    omega

/-- The sum, from a word on. -/
theorem foldl_add_lt (h : ∀ b ∈ ws, b < 2 ^ w) (ha : a < 2 ^ w) : ws.foldl (add w) a < 2 ^ w := by
  induction ws generalizing a with
  | nil => exact ha
  | cons b ws ih =>
      rw [List.forall_mem_cons] at h
      exact ih h.2 (add_lt ha h.1)

theorem foldl_add_mod (w a : Nat) (ws : List Nat) :
    ws.foldl (add w) a % (2 ^ w - 1) = (a + ws.sum) % (2 ^ w - 1) := by
  induction ws generalizing a with
  | nil => simp
  | cons b ws ih =>
      rw [List.foldl_cons, ih, List.sum_cons, ← Nat.add_assoc, Nat.add_mod, add_mod, ← Nat.add_mod]

theorem foldl_add_pos (w : Nat) (h : 0 < a ∨ ∃ b ∈ ws, 0 < b) : 0 < ws.foldl (add w) a := by
  induction ws generalizing a with
  | nil => simpa using h
  | cons b ws ih =>
      refine ih ?_
      rcases h with h | h
      · exact Or.inl (add_pos w (Or.inl h))
      · obtain ⟨v, hv, hpos⟩ := h
        rcases List.mem_cons.mp hv with rfl | hv
        · exact Or.inl (add_pos w (Or.inr hpos))
        · exact Or.inr ⟨v, hv, hpos⟩

theorem sum_lt (h : ∀ b ∈ ws, b < 2 ^ w) : sum w ws < 2 ^ w :=
  foldl_add_lt h (Nat.two_pow_pos w)

theorem sum_mod (w : Nat) (ws : List Nat) : sum w ws % (2 ^ w - 1) = ws.sum % (2 ^ w - 1) := by
  have h := foldl_add_mod w 0 ws
  rwa [Nat.zero_add] at h

/-- **When words sum up to all ones.** -/
theorem sum_eq_max_iff (hpos : 1 < 2 ^ w) (h : ∀ b ∈ ws, b < 2 ^ w) (hex : ∃ b ∈ ws, 0 < b) :
    sum w ws = 2 ^ w - 1 ↔ 2 ^ w - 1 ∣ ws.sum := by
  have hlt := sum_lt h
  have hmod := sum_mod w ws
  have hsum : 0 < sum w ws := foldl_add_pos w (Or.inr hex)
  rw [Nat.dvd_iff_mod_eq_zero, ← hmod]
  constructor
  · intro heq
    rw [heq, Nat.mod_self]
  · intro hzero
    obtain ⟨k, hk⟩ := Nat.dvd_of_mod_eq_zero hzero
    have hle : 2 ^ w - 1 ≤ sum w ws := Nat.le_of_dvd hsum ⟨k, hk⟩
    omega

end OnesComplement
