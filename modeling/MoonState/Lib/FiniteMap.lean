/-
Finite maps with the insertion that leaves an existing entry alone.

Mathlib's `Finmap` has the extensional equality a specification wants, but its
`insert` replaces.  The map types of C++ and of TBB do the opposite: `insert` and
`emplace` on a key that is already there change nothing.  `insertNew` is that
operation; its lookups and the number of entries are all that is used of it.

Every key can be inserted.  A hash table that reserves keys for its own use behaves
like this map as long as none of them is inserted.
-/
import Mathlib.Data.Finmap

/-- Finite maps from `K` to `V`. -/
abbrev FMap (K V : Type*) := Finmap (fun _ : K => V)

namespace FMap

variable {K V : Type*} [DecidableEq K]

/-- Insert, unless the key is already there. -/
def insertNew (k : K) (v : V) (m : FMap K V) : FMap K V :=
  if k ∈ m then m else m.insert k v

theorem insertNew_of_mem {k : K} {v : V} {m : FMap K V} (h : k ∈ m) : insertNew k v m = m :=
  if_pos h

theorem insertNew_of_notMem {k : K} {v : V} {m : FMap K V} (h : k ∉ m) :
    insertNew k v m = m.insert k v :=
  if_neg h

@[simp] theorem lookup_insertNew_self (k : K) (v : V) (m : FMap K V) :
    (insertNew k v m).lookup k = some ((m.lookup k).getD v) := by
  by_cases h : k ∈ m
  · obtain ⟨w, hw⟩ := Finmap.mem_iff.mp h
    rw [insertNew_of_mem h, hw]
    rfl
  · rw [insertNew_of_notMem h, Finmap.lookup_insert, Finmap.lookup_eq_none.mpr h]
    rfl

theorem lookup_insertNew_ne {k k' : K} (v : V) (m : FMap K V) (h : k' ≠ k) :
    (insertNew k v m).lookup k' = m.lookup k' := by
  unfold insertNew
  split
  · rfl
  · exact Finmap.lookup_insert_of_ne m h

/-- A key looked up after an insertion is the inserted one or was there before. -/
theorem lookup_insertNew_cases {k k' : K} {v w : V} {m : FMap K V}
    (h : (insertNew k v m).lookup k' = some w) :
    m.lookup k' = some w ∨ (k' = k ∧ m.lookup k = none ∧ w = v) := by
  by_cases hk : k' = k
  · subst hk
    rw [lookup_insertNew_self] at h
    cases hm : m.lookup k' with
    | none => rw [hm] at h; exact Or.inr ⟨rfl, rfl, by simpa using h.symm⟩
    | some x => rw [hm] at h; exact Or.inl (by simpa using h)
  · rw [lookup_insertNew_ne v m hk] at h
    exact Or.inl h

/-- A key looked up after a replacing insertion is the inserted one or was there before. -/
theorem lookup_insert_cases {k k' : K} {v w : V} {m : FMap K V}
    (h : (m.insert k v).lookup k' = some w) : (k' = k ∧ w = v) ∨ m.lookup k' = some w := by
  by_cases hk : k' = k
  · subst hk
    rw [Finmap.lookup_insert] at h
    exact Or.inl ⟨rfl, (Option.some.inj h).symm⟩
  · rw [Finmap.lookup_insert_of_ne m hk] at h
    exact Or.inr h

/-! ### The number of entries -/

theorem keys_insert (k : K) (v : V) (m : FMap K V) : (m.insert k v).keys = insert k m.keys := by
  ext k'
  rw [Finset.mem_insert, Finmap.mem_keys, Finmap.mem_keys, Finmap.mem_insert]

theorem card_insert_of_mem {k : K} {m : FMap K V} (h : k ∈ m) (v : V) :
    (m.insert k v).keys.card = m.keys.card := by
  rw [keys_insert, Finset.insert_eq_of_mem (Finmap.mem_keys.mpr h)]

theorem card_insertNew_of_notMem {k : K} {m : FMap K V} (h : k ∉ m) (v : V) :
    (insertNew k v m).keys.card = m.keys.card + 1 := by
  rw [insertNew_of_notMem h, keys_insert]
  exact Finset.card_insert_of_notMem fun hk => h (Finmap.mem_keys.mp hk)

theorem card_erase_of_mem {k : K} {m : FMap K V} (h : k ∈ m) :
    (m.erase k).keys.card + 1 = m.keys.card := by
  rw [Finmap.keys_erase]
  exact Finset.card_erase_add_one (Finmap.mem_keys.mpr h)

theorem erase_of_notMem {k : K} {m : FMap K V} (h : k ∉ m) : m.erase k = m := by
  refine Finmap.ext_lookup fun k' => ?_
  by_cases hk : k' = k
  · rw [hk, Finmap.lookup_erase, Finmap.lookup_eq_none.mpr h]
  · exact Finmap.lookup_erase_ne hk

end FMap
