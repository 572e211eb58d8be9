/-
When the checks before a call are good for anything.

A table holds at each index what was registered last for it, or nothing where it was
filled up.  As soon as it has an element, the index check keeps to it.  Before that
it takes one from a size of zero, and lets every state through to a table without
elements.
-/
import MoonState.Model.Dispatch

namespace MoonState

namespace Functions

variable {F : Type}

/-! ### What the table holds -/

/-- What was registered last for a state. -/
def lastRegistered (calls : List (Registration F)) (s : StateID) : Option F :=
  calls.foldl (fun last c => if c.1 = s then c.2 else last) none

theorem length_registerFunction (id : StateID) (f : Option F) (functions : List (Option F)) :
    (registerFunction id f functions).length = max functions.length (id.toNat + 1) := by
  unfold registerFunction
  split
  · simp only [List.length_set, List.length_append, List.length_replicate]
    omega
  · simp only [List.length_set]
    omega

/-- A registration is found under its ID, and every other ID has what it had: to grow the table
adds indices without a function. -/
theorem join_registerFunction (id : StateID) (f : Option F) (functions : List (Option F))
    (i : Nat) :
    (registerFunction id f functions)[i]?.join
      = if id.toNat = i then f else functions[i]?.join := by
  unfold registerFunction
  split
  · rename_i hgrow
    by_cases hi : id.toNat = i
    · subst hi
      have hlt : id.toNat < functions.length + (id.toNat + 1 - functions.length) := by omega
      simp [hlt]
    · rw [List.getElem?_set_ne hi, if_neg hi, List.getElem?_append]
      split
      · rfl
      · rename_i hlen
        rw [List.getElem?_eq_none (Nat.le_of_not_lt hlen), List.getElem?_replicate]
        split
        · rfl
        · rfl
  · rename_i hfits
    by_cases hi : id.toNat = i
    · subst hi
      have hlt : id.toNat < functions.length := by omega
      simp [hlt]
    · rw [List.getElem?_set_ne hi, if_neg hi]

/-- The table of a run of registrations. -/
structure Holds (calls : List (Registration F)) (functions : List (Option F)) : Prop where
  entry : ∀ s : StateID, functions[s.toNat]?.join = lastRegistered calls s
  pos : calls ≠ [] → 0 < functions.length
  /-- so a size is never near the bound of its type -/
  length_le : functions.length ≤ 2 ^ 16

theorem Holds.registerFunction {calls : List (Registration F)} {functions : List (Option F)}
    (h : Holds calls functions) (c : Registration F) :
    Holds (calls ++ [c]) (registerFunction c.1 c.2 functions) where
  entry s := by
    rw [join_registerFunction, lastRegistered, List.foldl_append]
    simp only [List.foldl_cons, List.foldl_nil, UInt16.toNat_inj]
    split
    · rfl
    · exact h.entry s
  pos _ := by
    rw [length_registerFunction]
    omega
  length_le := by
    have hid : c.1.toNat < 2 ^ 16 := c.1.toNat_lt
    have hle := h.length_le
    rw [length_registerFunction]
    omega

theorem holds_registerAll (calls : List (Registration F)) : Holds calls (registerAll calls) := by
  induction calls using List.reverseRecOn with
  | nil =>
      have hle : (registerAll ([] : List (Registration F))).length ≤ 2 ^ 16 := by simp [registerAll]
      exact { entry := fun _ => rfl, pos := fun h => absurd rfl h, length_le := hle }
  | append_singleton calls c ih =>
      rw [registerAll, List.foldl_append]
      exact ih.registerFunction c

/-! ### The checks -/

/-- With an element in the table the index check is exact. -/
theorem index_le_iff {functions : List (Option F)} (hpos : 0 < functions.length)
    (hle : functions.length ≤ 2 ^ 16) (s : StateID) :
    s.toNat ≤ (functions.length + (2 ^ 64 - 1)) % 2 ^ 64 ↔ s.toNat < functions.length := by
  have hwrap : (functions.length + (2 ^ 64 - 1)) % 2 ^ 64 = functions.length - 1 := by omega
  rw [hwrap]
  omega

/-- Without one it lets everything through. -/
theorem check_nil (s : StateID) : check ([] : List (Option F)) s = .outOfRange := by
  have hs : s.toNat < 2 ^ 16 := s.toNat_lt
  unfold check
  rw [if_pos (by simp; omega)]
  rfl

theorem check_of_pos {functions : List (Option F)} (hpos : 0 < functions.length)
    (hle : functions.length ≤ 2 ^ 16) (s : StateID) :
    check functions s ≠ .outOfRange ∧
      ∀ f, check functions s = .call f ↔ functions[s.toNat]?.join = some f := by
  unfold check
  split
  · rename_i hindex
    have hlt := (index_le_iff hpos hle s).mp hindex
    rw [List.getElem?_eq_getElem hlt]
    cases functions[s.toNat] with
    | none => simp
    | some g => simp
  · rename_i hindex
    have hnone : functions[s.toNat]? = none :=
      List.getElem?_eq_none (Nat.le_of_not_lt fun hlt => hindex ((index_le_iff hpos hle s).mpr hlt))
    simp [hnone]

/-- What is asked of the checks: they pass exactly for a state with a function, they never index
beyond the table, and the function called is the one registered last. -/
structure Guards (calls : List (Registration F)) (s : StateID) : Prop where
  passes : (∃ f, check (registerAll calls) s = .call f) ↔ ∃ f, lastRegistered calls s = some f
  inRange : check (registerAll calls) s ≠ .outOfRange
  last : ∀ f, check (registerAll calls) s = .call f → lastRegistered calls s = some f

/-- **The checks guard a table with a function in it**, and an empty one never. -/
theorem guards_iff_registered (calls : List (Registration F)) (s : StateID) :
    Guards calls s ↔ calls ≠ [] := by
  constructor
  · intro h hnil
    have hrange := h.inRange
    rw [hnil] at hrange
    exact hrange (check_nil s)
  · intro hne
    have h := holds_registerAll calls
    obtain ⟨hrange, hcall⟩ := check_of_pos (h.pos hne) h.length_le s
    rw [h.entry] at hcall
    exact { passes := exists_congr hcall, inRange := hrange, last := fun f => (hcall f).mp }

/-- A machine without a function. -/
theorem empty_table_not_guarded :
    ¬ ∀ (calls : List (Registration (StateFun Nat Nat Nat))) (s : StateID), Guards calls s := by
  intro hall
  exact (hall [] 0).inRange (check_nil 0)

end Functions

/-! ### The table of a machine -/

namespace StateMachine

variable {K P D W : Type}

theorem functions_new : (new : StateMachine K P D W).functions = Functions.registerAll [] :=
  rfl

theorem registerFunction_functions (id : StateID) (f : StateFun P D W) (sm : StateMachine K P D W) :
    (sm.registerFunction id f).functions = Functions.registerFunction id (some f) sm.functions :=
  rfl

/-- A dispatch succeeds exactly if the checks come to a call. -/
theorem dispatch_eq_ok_iff (sm : StateMachine K P D W) (s : StateID) (f : StateFun P D W) :
    sm.dispatch s = .ok f ↔ Functions.check sm.functions s = .call f := by
  unfold dispatch Functions.check
  split
  · cases sm.functions[s.toNat]? with
    | none => simp
    | some g =>
        cases g with
        | none => simp
        | some g => simp
  · simp

end StateMachine

end MoonState
