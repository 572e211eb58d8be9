/-
Computations that read memory, and tell where.

A `Reading` computes from memory and says which ranges of it the computation has
looked at.  What stays inside a buffer can then be said of the computation itself.
-/
import MoonState.Lib.Bytes

/-- The result, and the address and the length of each range that was read. -/
def Reading (α : Type) := Mem → α × List (Nat × Nat)

namespace Reading

variable {α β : Type}

instance : Monad Reading where
  pure a := fun _ => (a, [])
  bind x f := fun m => ((f (x m).1 m).1, (x m).2 ++ (f (x m).1 m).2)

/-- Look at a range. -/
def touch (i n : Nat) : Reading Unit := fun _ => ((), [(i, n)])

def byte (i : Nat) : Reading UInt8 := fun m => (m i, [(i, 1)])

def load16 (i : Nat) : Reading UInt16 := fun m => (m.load16 i, [(i, 2)])

def load32 (i : Nat) : Reading UInt32 := fun m => (m.load32 i, [(i, 4)])

@[simp] theorem pure_apply (a : α) (m : Mem) : (pure a : Reading α) m = (a, []) := rfl

@[simp] theorem bind_apply (x : Reading α) (f : α → Reading β) (m : Mem) :
    (x >>= f) m = ((f (x m).1 m).1, (x m).2 ++ (f (x m).1 m).2) := rfl

@[simp] theorem touch_apply (i n : Nat) (m : Mem) : touch i n m = ((), [(i, n)]) := rfl

@[simp] theorem byte_apply (i : Nat) (m : Mem) : byte i m = (m i, [(i, 1)]) := rfl

@[simp] theorem load16_apply (i : Nat) (m : Mem) : load16 i m = (m.load16 i, [(i, 2)]) := rfl

@[simp] theorem load32_apply (i : Nat) (m : Mem) : load32 i m = (m.load32 i, [(i, 4)]) := rfl

/-- All that is read is in the first `n` bytes. -/
def Inside (n : Nat) (l : List (Nat × Nat)) : Prop := ∀ r ∈ l, r.1 + r.2 ≤ n

instance (n : Nat) (l : List (Nat × Nat)) : Decidable (Inside n l) :=
  inferInstanceAs (Decidable (∀ r ∈ l, _))

@[simp] theorem inside_nil (n : Nat) : Inside n [] := by simp [Inside]

@[simp] theorem inside_cons {n i k : Nat} {l : List (Nat × Nat)} :
    Inside n ((i, k) :: l) ↔ i + k ≤ n ∧ Inside n l := by
  simp [Inside]

end Reading
