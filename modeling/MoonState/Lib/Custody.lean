/-
Who is responsible for which object.

A table has entries at some of its places, and each entry is responsible for one
object of the world.  `Custody.Holds` says that the objects that are live and the
entries correspond one to one, and that each object is as its entry needs it.

`Trades` is what a step may do to the world: it gives one object up and brings one
in, or the same one again, or none, and leaves the other live objects as they are
needed.  `Holds.step` matches it with what happens at one place of the table.
-/
import Mathlib.Data.Set.Defs
import Mathlib.Logic.Function.Basic

/-- Places `Q`, entries `X`, objects `A`, and the world `W` they live in. -/
structure Custody (Q X A W : Type*) where
  object : X → A
  live : W → Set A
  sane : W → Prop
  /-- the object is as an entry at that place needs it -/
  fits : Q → X → W → Prop

namespace Custody

variable {Q X A W : Type*} (C : Custody Q X A W)

/-- **The invariant.** -/
structure Holds (E : Q → Option X) (w : W) : Prop where
  sane : C.sane w
  /-- no object is lost, and no entry is left without one -/
  live_iff : ∀ a, a ∈ C.live w ↔ ∃ q x, E q = some x ∧ C.object x = a
  /-- no object has two entries -/
  inj : ∀ {q q' x x'}, E q = some x → E q' = some x' → C.object x = C.object x' → q = q'
  fits : ∀ {q x}, E q = some x → C.fits q x w

/-- The world `w'` has lost the object `gone` and got the object `come`. -/
structure Trades (gone come : Option A) (w w' : W) : Prop where
  sane : C.sane w'
  live_iff : ∀ a, a ∈ C.live w' ↔ come = some a ∨ (a ∈ C.live w ∧ gone ≠ some a)
  fresh : ∀ a, come = some a → a ∈ C.live w → gone = some a
  frame : ∀ q x, C.object x ∈ C.live w → gone ≠ some (C.object x) → C.fits q x w → C.fits q x w'

variable {C} {E : Q → Option X} {w w' : W}

/-- Nothing is in custody. -/
theorem holds_nothing (hsane : C.sane w) (hlive : ∀ a, a ∉ C.live w) :
    C.Holds (fun _ => none) w where
  sane := hsane
  live_iff := by simp [hlive]
  inj := by simp
  fits := by simp

/-- A new object is passed on. -/
theorem Trades.trans {gone come : Option A} {a : A} {w'' : W} (h : C.Trades gone (some a) w w')
    (h' : C.Trades (some a) come w' w'') : C.Trades gone come w w'' := by
  have hne : ∀ b, b ∈ C.live w → gone ≠ some b → a ≠ b := by
    intro b hb hgone hab
    exact hgone (h.fresh b (by simp [hab]) hb)
  have hlive : ∀ b, b ∈ C.live w → gone ≠ some b → b ∈ C.live w' := by
    intro b hb hgone
    exact (h.live_iff b).mpr (Or.inr ⟨hb, hgone⟩)
  refine ⟨h'.sane, ?_, ?_, ?_⟩
  · intro b
    rw [h'.live_iff, h.live_iff]
    constructor
    · rintro (hb | ⟨hb | hb, hab⟩)
      · exact Or.inl hb
      · exact absurd hb hab
      · exact Or.inr hb
    · rintro (hb | ⟨hb, hgone⟩)
      · exact Or.inl hb
      · exact Or.inr ⟨Or.inr ⟨hb, hgone⟩, by simpa using hne b hb hgone⟩
  · intro b hcome hb
    by_contra hgone
    exact hne b hb hgone (by simpa using h'.fresh b hcome (hlive b hb hgone))
  · intro q x hx hgone hfits
    apply h'.frame q x (hlive _ hx hgone)
    · simpa using hne _ hx hgone
    · exact h.frame q x hx hgone hfits

/-- The same custody, over a table whose places and entries stand for these. -/
def pull {Q' X' : Type*} (C : Custody Q X A W) (place : Q' → Q) (entry : X' → X) :
    Custody Q' X' A W where
  object := fun x => C.object (entry x)
  live := C.live
  sane := C.sane
  fits := fun q x => C.fits (place q) (entry x)

theorem Trades.pull {Q' X' : Type*} {place : Q' → Q} {entry : X' → X} {gone come : Option A}
    (h : C.Trades gone come w w') : (C.pull place entry).Trades gone come w w' where
  sane := h.sane
  live_iff := h.live_iff
  fresh := h.fresh
  frame := by
    intro q x
    exact h.frame (place q) (entry x)

namespace Holds

/-- An object in custody is live. -/
theorem mem_live (h : C.Holds E w) {q : Q} {x : X} (hx : E q = some x) : C.object x ∈ C.live w :=
  (h.live_iff _).mpr ⟨q, x, hx, rfl⟩

theorem congr {E' : Q → Option X} (h : C.Holds E w) (hE : ∀ q, E' q = E q) : C.Holds E' w := by
  obtain rfl : E' = E := funext hE
  exact h

/-- The world changes, but no object. -/
theorem still (h : C.Holds E w) (ht : C.Trades none none w w') : C.Holds E w' where
  sane := ht.sane
  live_iff := by
    intro a
    rw [ht.live_iff, ← h.live_iff]
    simp
  inj := h.inj
  fits := by
    intro q x hx
    exact ht.frame q x (h.mem_live hx) (by simp) (h.fits hx)

variable [DecidableEq Q] {q q' : Q} {o : Option X}

/-- An entry after a place was written. -/
theorem update_cases {q' : Q} {x : X} (h : Function.update E q o q' = some x) :
    (q' = q ∧ o = some x) ∨ (q' ≠ q ∧ E q' = some x) := by
  by_cases hq : q' = q
  · subst hq
    rw [Function.update_self] at h
    exact Or.inl ⟨rfl, h⟩
  · rw [Function.update_of_ne hq] at h
    exact Or.inr ⟨hq, h⟩

/-- **The step rule.**  One place is written, and what its old and its new entry are responsible
for is what the world has lost and got. -/
theorem step (h : C.Holds E w) (ht : C.Trades ((E q).map C.object) (o.map C.object) w w')
    (hfits : ∀ x, o = some x → C.fits q x w') : C.Holds (Function.update E q o) w' := by
  have hkept : ∀ {q' x}, q' ≠ q → E q' = some x → (E q).map C.object ≠ some (C.object x) := by
    intro q' x hq hx hc
    obtain ⟨y, hy, ho⟩ := Option.map_eq_some_iff.mp hc
    exact hq (h.inj hx hy ho.symm)
  have hnew : ∀ {q' x y}, q' ≠ q → E q' = some x → o = some y → C.object y ≠ C.object x := by
    intro q' x y hq hx hy hc
    apply hkept hq hx
    apply ht.fresh
    · simp [hy, hc]
    · exact h.mem_live hx
  refine ⟨ht.sane, ?_, ?_, ?_⟩
  · intro a
    rw [ht.live_iff, h.live_iff]
    constructor
    · rintro (ha | ⟨⟨q', x, hx, rfl⟩, hne⟩)
      · obtain ⟨x, hx, ho⟩ := Option.map_eq_some_iff.mp ha
        exact ⟨q, x, by simp [hx], ho⟩
      · have hq : q' ≠ q := by
          intro hc
          subst hc
          simp [hx] at hne
        exact ⟨q', x, by rwa [Function.update_of_ne hq], rfl⟩
    · rintro ⟨q', x, hx, rfl⟩
      rcases update_cases hx with ⟨-, ho⟩ | ⟨hq, hx⟩
      · exact Or.inl (by simp [ho])
      · exact Or.inr ⟨⟨q', x, hx, rfl⟩, hkept hq hx⟩
  · intro q₁ q₂ x₁ x₂ h₁ h₂ ho
    rcases update_cases h₁ with ⟨hq₁, hx₁⟩ | ⟨hq₁, hx₁⟩ <;>
      rcases update_cases h₂ with ⟨hq₂, hx₂⟩ | ⟨hq₂, hx₂⟩
    · rw [hq₁, hq₂]
    · exact absurd ho (hnew hq₂ hx₂ hx₁)
    · exact absurd ho.symm (hnew hq₁ hx₁ hx₂)
    · exact h.inj hx₁ hx₂ ho
  · intro q' x hx
    rcases update_cases hx with ⟨rfl, ho⟩ | ⟨hq, hx⟩
    · exact hfits x ho
    · exact ht.frame q' x (h.mem_live hx) (hkept hq hx) (h.fits hx)

/-- An entry moves to another place. -/
theorem move (h : C.Holds E w) {x : X} (hx : E q = some x) (hq' : E q' = none)
    (hfits : C.fits q' x w) :
    C.Holds (Function.update (Function.update E q none) q' (some x)) w := by
  have hold : ∀ {p y}, Function.update (Function.update E q none) q' (some x) p = some y →
      (p = q' ∧ y = x) ∨ (p ≠ q ∧ E p = some y) := by
    intro p y hy
    rcases update_cases hy with ⟨hp, ho⟩ | ⟨-, hy⟩
    · exact Or.inl ⟨hp, (Option.some.inj ho).symm⟩
    · rcases update_cases hy with ⟨-, ho⟩ | hy
      · simp at ho
      · exact Or.inr hy
  refine ⟨h.sane, ?_, ?_, ?_⟩
  · intro a
    rw [h.live_iff]
    constructor
    · rintro ⟨p, y, hy, rfl⟩
      by_cases hp : p = q
      · subst hp
        rw [hx] at hy
        exact ⟨q', x, by simp, by simp [Option.some.inj hy]⟩
      · have hp' : p ≠ q' := by
          rintro rfl
          simp [hq'] at hy
        exact ⟨p, y, by rwa [Function.update_of_ne hp', Function.update_of_ne hp], rfl⟩
    · rintro ⟨p, y, hy, rfl⟩
      rcases hold hy with ⟨-, rfl⟩ | ⟨-, hy⟩
      · exact ⟨q, _, hx, rfl⟩
      · exact ⟨p, y, hy, rfl⟩
  · intro p₁ p₂ y₁ y₂ h₁ h₂ ho
    rcases hold h₁ with ⟨hp₁, rfl⟩ | ⟨hp₁, hy₁⟩ <;> rcases hold h₂ with ⟨hp₂, rfl⟩ | ⟨hp₂, hy₂⟩
    · rw [hp₁, hp₂]
    · exact absurd (h.inj hy₂ hx ho.symm) hp₂
    · exact absurd (h.inj hy₁ hx ho) hp₁
    · exact h.inj hy₁ hy₂ ho
  · intro p y hy
    rcases hold hy with ⟨rfl, rfl⟩ | ⟨-, hy⟩
    · exact hfits
    · exact h.fits hy

end Holds

end Custody
