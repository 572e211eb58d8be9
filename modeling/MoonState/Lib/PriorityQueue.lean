/-
A priority queue, up to the choice between equal elements.

The documentation of `std::priority_queue` says of `top` that no element compares
above it, and nothing about which of several such elements it is.  `TopRule` is
that contract: a choice of a top element for every container, with the proofs
that it is one.  A model that takes a `TopRule` as a parameter holds for every
conforming queue, whatever its heap does with ties.
-/
import Mathlib.Data.List.MinMax

/-- A rule that picks, out of a container, an element no other one is above. -/
structure TopRule (α : Type*) (lt : α → α → Bool) where
  top : List α → Option α
  top_none : ∀ l, top l = none → l = []
  top_mem : ∀ l a, top l = some a → a ∈ l
  top_max : ∀ l a, top l = some a → ∀ b ∈ l, lt a b = false

namespace TopRule

variable {α : Type*} {lt : α → α → Bool}

@[simp] theorem top_nil (r : TopRule α lt) : r.top [] = none := by
  cases h : r.top [] with
  | none => rfl
  | some a => exact absurd (r.top_mem [] a h) (by simp)

/-- A queue that holds something has a top. -/
theorem exists_top (r : TopRule α lt) {l : List α} (h : l ≠ []) : ∃ a, r.top l = some a := by
  cases ht : r.top l with
  | none => exact absurd (r.top_none l ht) h
  | some a => exact ⟨a, rfl⟩

/-- `pop` removes the element `top` shows. -/
def pop [DecidableEq α] (r : TopRule α lt) (l : List α) : List α :=
  match r.top l with
  | none => []
  | some a => l.erase a

theorem pop_eq [DecidableEq α] (r : TopRule α lt) {l : List α} {a : α} (h : r.top l = some a) :
    r.pop l = l.erase a := by
  simp [pop, h]

theorem mem_of_mem_pop [DecidableEq α] (r : TopRule α lt) {l : List α} {b : α}
    (h : b ∈ r.pop l) : b ∈ l := by
  unfold pop at h
  split at h
  · simp at h
  · exact List.mem_of_mem_erase h

/-- What was in the queue is the top, or is still there after `pop`. -/
theorem eq_top_or_mem_pop [DecidableEq α] (r : TopRule α lt) {l : List α} {a b : α}
    (h : r.top l = some a) (hb : b ∈ l) : b = a ∨ b ∈ r.pop l := by
  rw [r.pop_eq h]
  by_cases hba : b = a
  · exact Or.inl hba
  · exact Or.inr ((List.mem_erase_of_ne hba).mpr hb)

theorem length_pop [DecidableEq α] (r : TopRule α lt) {l : List α} {a : α}
    (h : r.top l = some a) : (r.pop l).length + 1 = l.length := by
  have hmem := r.top_mem l a h
  have hpos : 0 < l.length := List.length_pos_of_mem hmem
  rw [r.pop_eq h, List.length_erase_of_mem hmem]
  omega

/-- The queue that shows the first of the elements with the greatest key. -/
def ofKey {β : Type*} [LinearOrder β] (key : α → β)
    (hlt : ∀ a b, lt a b = true → key a < key b) : TopRule α lt where
  top := List.argmax key
  top_none := fun _ h => List.argmax_eq_none.mp h
  top_mem := fun _ _ h => List.argmax_mem h
  top_max := by
    intro l a h b hb
    have hle : key b ≤ key a := List.le_of_mem_argmax hb h
    cases hc : lt a b with
    | false => rfl
    | true => exact absurd (hlt a b hc) (not_lt.mpr hle)

end TopRule
