/-
What a trace says about the present.

A trace grows at its end.  "`a` has happened, and nothing bad since" is the
question a temporal property asks of it: `Since a bad` splits the trace at an
occurrence of `a` and forbids `bad` in the rest.  "Whatever happens, this happened
first" is the other one: `Always ok` tells `ok` of each element what came before it.
The lemmas say how the answers change when the trace is extended, which is all an
invariant about a run needs.  `Standing` asks the first question of steps that are
numbered instead of logged.
-/
import Mathlib.Data.List.Basic

namespace Trace

variable {α : Type*}

/-- `a` occurs in `l`, with nothing bad after it. -/
def Since (a : α) (bad : α → Prop) (l : List α) : Prop :=
  ∃ l₁ l₂, l = l₁ ++ a :: l₂ ∧ ∀ x ∈ l₂, ¬ bad x

variable {a : α} {bad : α → Prop} {l new : List α}

/-- An extension with nothing bad in it keeps the answer. -/
theorem Since.append (h : Since a bad l) (hnew : ∀ x ∈ new, ¬ bad x) :
    Since a bad (l ++ new) := by
  obtain ⟨l₁, l₂, rfl, hl⟩ := h
  refine ⟨l₁, l₂ ++ new, by simp, ?_⟩
  intro x hx
  rcases List.mem_append.mp hx with hx | hx
  · exact hl x hx
  · exact hnew x hx

/-- The extension itself may hold the occurrence. -/
theorem Since.here (l : List α) (hnew : Since a bad new) : Since a bad (l ++ new) := by
  obtain ⟨l₁, l₂, rfl, hl⟩ := hnew
  exact ⟨l ++ l₁, l₂, by simp, hl⟩

/-- An extension that does not hold `a` holds nothing bad either, and the occurrence is from
before. -/
theorem Since.of_append (h : Since a bad (l ++ new)) (ha : a ∉ new) :
    Since a bad l ∧ ∀ x ∈ new, ¬ bad x := by
  obtain ⟨l₁, l₂, heq, hl⟩ := h
  rcases List.append_eq_append_iff.mp heq with ⟨m, hl₁, hnew⟩ | ⟨m, hl', hcons⟩
  · exact absurd (by rw [hnew]; simp) ha
  · cases m with
    | nil => exact absurd (by rw [List.nil_append] at hcons; rw [← hcons]; simp) ha
    | cons b m =>
        rw [List.cons_append, List.cons.injEq] at hcons
        obtain ⟨rfl, rfl⟩ := hcons
        refine ⟨⟨l₁, m, hl', fun x hx => hl x (by simp [hx])⟩, fun x hx => hl x (by simp [hx])⟩

theorem Since.mem (h : Since a bad l) : a ∈ l := by
  obtain ⟨l₁, l₂, rfl, -⟩ := h
  simp

theorem Since.mono {bad' : α → Prop} (h : Since a bad l) (hb : ∀ x, bad' x → bad x) :
    Since a bad' l := by
  obtain ⟨l₁, l₂, heq, hl⟩ := h
  exact ⟨l₁, l₂, heq, fun x hx hx' => hl x hx (hb x hx')⟩

/-- Each element of `l` meets `ok`, which is told what came before it. -/
def Always (ok : List α → α → Prop) (l : List α) : Prop :=
  ∀ l₁ x l₂, l = l₁ ++ x :: l₂ → ok l₁ x

variable {ok : List α → α → Prop}

theorem Always.nil : Always ok [] := by
  intro l₁ x l₂ h
  simp at h

/-- The elements of an extension come after all of the trace. -/
theorem Always.append (h : Always ok l) (hnew : Always (fun l₁ => ok (l ++ l₁)) new) :
    Always ok (l ++ new) := by
  intro l₁ x l₂ heq
  rcases List.append_eq_append_iff.mp heq with ⟨m, rfl, hnew'⟩ | ⟨m, hl, hcons⟩
  · exact hnew m x l₂ hnew'
  · cases m with
    | nil =>
        rw [List.append_nil] at hl
        have hfirst : ok (l ++ []) x := hnew [] x l₂ hcons.symm
        rwa [List.append_nil, hl] at hfirst
    | cons y m =>
        obtain ⟨rfl, -⟩ := List.cons.inj hcons
        exact h l₁ x m hl

theorem Always.mem (h : Always ok l) {x : α} (hx : x ∈ l) : ∃ l₁ l₂, l = l₁ ++ x :: l₂ ∧ ok l₁ x := by
  obtain ⟨l₁, l₂, heq⟩ := List.append_of_mem hx
  exact ⟨l₁, l₂, heq, h l₁ x l₂ heq⟩

/-- Before step `n` there was a step that starts it, and none since that stops it. -/
def Standing (starts stops : Nat → Prop) (n : Nat) : Prop :=
  ∃ k < n, starts k ∧ ∀ m, k < m → m < n → ¬ stops m

section standing

variable {starts stops : Nat → Prop} {n : Nat}

theorem not_standing_zero : ¬ Standing starts stops 0 := by
  intro ⟨k, hk, _⟩
  exact absurd hk (Nat.not_lt_zero k)

theorem standing_succ : Standing starts stops (n + 1) ↔
    starts n ∨ (Standing starts stops n ∧ ¬ stops n) := by
  constructor
  · intro ⟨k, hk, hstart, hno⟩
    rcases Nat.lt_succ_iff_lt_or_eq.mp hk with hlt | rfl
    · exact Or.inr ⟨⟨k, hlt, hstart, fun m hm hn => hno m hm (by omega)⟩, hno n hlt (by omega)⟩
    · exact Or.inl hstart
  · rintro (hstart | ⟨⟨k, hk, hstart, hno⟩, hn⟩)
    · exact ⟨n, by omega, hstart, fun m hm hn => by omega⟩
    · refine ⟨k, by omega, hstart, fun m hm hmn => ?_⟩
      rcases Nat.lt_succ_iff_lt_or_eq.mp hmn with hlt | rfl
      · exact hno m hm hlt
      · exact hn

theorem standing_of_starts (h : starts n) : Standing starts stops (n + 1) :=
  standing_succ.mpr (Or.inl h)

theorem not_standing_of_stops (hstarts : ¬ starts n) (hstops : stops n) :
    ¬ Standing starts stops (n + 1) := by
  rw [standing_succ]
  rintro (h | ⟨-, h⟩)
  · exact hstarts h
  · exact h hstops

theorem standing_iff_of_neither (hstarts : ¬ starts n) (hstops : ¬ stops n) :
    Standing starts stops (n + 1) ↔ Standing starts stops n := by
  rw [standing_succ]
  exact ⟨fun h => (h.resolve_left hstarts).1, fun h => Or.inr ⟨h, hstops⟩⟩

end standing

end Trace
