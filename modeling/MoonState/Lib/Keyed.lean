/-
Folds that keep one state a key.

Each element has a key, and processing it reads and writes the state of that key
alone.  What such a fold does to one key is then decided by the elements of that
key, in their order, and two lists that agree on the order of each key's elements
give the same states and, up to order, the same outputs.

Some keys may be inert: their elements change no state and their outputs depend on
the element alone.  Of an inert key even the order does not matter.
-/
import Mathlib.Data.List.Perm.Basic
import Mathlib.Data.List.Count
import Mathlib.Logic.Function.Basic

namespace Keyed

variable {κ X C O : Type*} [DecidableEq κ] (key : X → κ) (step : C → X → Option (C × O))

/-- Process a list, with one state a key. -/
def run : List X → (κ → C) → Option ((κ → C) × List (X × O))
  | [], σ => some (σ, [])
  | x :: l, σ =>
    match step (σ (key x)) x with
    | none => none
    | some (c, o) =>
      match run l (Function.update σ (key x) c) with
      | none => none
      | some (σ', res) => some (σ', (x, o) :: res)

/-- Process a list, with one state. -/
def runOne : List X → C → Option (C × List (X × O))
  | [], c => some (c, [])
  | x :: l, c =>
    match step c x with
    | none => none
    | some (c', o) =>
      match runOne l c' with
      | none => none
      | some (c'', res) => some (c'', (x, o) :: res)

variable {key step}

theorem run_cons_eq_some {x : X} {l : List X} {σ σ' : κ → C} {res : List (X × O)} :
    run key step (x :: l) σ = some (σ', res) ↔
      ∃ c o res', step (σ (key x)) x = some (c, o) ∧
        run key step l (Function.update σ (key x) c) = some (σ', res') ∧ res = (x, o) :: res' := by
  rw [run]
  cases h : step (σ (key x)) x with
  | none => simp
  | some co =>
      obtain ⟨c, o⟩ := co
      dsimp only
      cases h' : run key step l (Function.update σ (key x) c) with
      | none => simp [h']
      | some r =>
          obtain ⟨σ'', res'⟩ := r
          simp only [Option.some.injEq, Prod.mk.injEq]
          constructor
          · rintro ⟨rfl, rfl⟩
            exact ⟨c, o, res', ⟨rfl, rfl⟩, h', rfl⟩
          · rintro ⟨c', o', res'', ⟨rfl, rfl⟩, h'', rfl⟩
            rw [h'] at h''
            simp only [Option.some.injEq, Prod.mk.injEq] at h''
            exact ⟨h''.1, by rw [h''.2]⟩

theorem runOne_cons_eq_some {x : X} {l : List X} {c c'' : C} {res : List (X × O)} :
    runOne step (x :: l) c = some (c'', res) ↔
      ∃ c' o res', step c x = some (c', o) ∧ runOne step l c' = some (c'', res') ∧
        res = (x, o) :: res' := by
  rw [runOne]
  cases h : step c x with
  | none => simp
  | some co =>
      obtain ⟨c', o⟩ := co
      dsimp only
      cases h' : runOne step l c' with
      | none => simp [h']
      | some r =>
          obtain ⟨d, res'⟩ := r
          simp only [Option.some.injEq, Prod.mk.injEq]
          constructor
          · rintro ⟨rfl, rfl⟩
            exact ⟨c', o, res', ⟨rfl, rfl⟩, h', rfl⟩
          · rintro ⟨d', o', res'', ⟨rfl, rfl⟩, h'', rfl⟩
            rw [h'] at h''
            simp only [Option.some.injEq, Prod.mk.injEq] at h''
            exact ⟨h''.1, by rw [h''.2]⟩

/-- The outputs come with the elements, in order. -/
theorem run_fst {l : List X} {σ σ' : κ → C} {res : List (X × O)}
    (h : run key step l σ = some (σ', res)) : res.map Prod.fst = l := by
  induction l generalizing σ res with
  | nil =>
      simp only [run, Option.some.injEq, Prod.mk.injEq] at h
      rw [← h.2]
      rfl
  | cons x l ih =>
      obtain ⟨c, o, res', -, hrest, rfl⟩ := run_cons_eq_some.mp h
      rw [List.map_cons, ih hrest]

/-- **One key at a time.**  What the fold does to a key is what its elements do. -/
theorem run_one {l : List X} {σ σ' : κ → C} {res : List (X × O)}
    (h : run key step l σ = some (σ', res)) (k : κ) :
    runOne step (l.filter (key · = k)) (σ k)
      = some (σ' k, res.filter (fun r => key r.1 = k)) := by
  induction l generalizing σ res with
  | nil =>
      simp only [run, Option.some.injEq, Prod.mk.injEq] at h
      rw [← h.1, ← h.2]
      rfl
  | cons x l ih =>
      obtain ⟨c, o, res', hstep, hrest, rfl⟩ := run_cons_eq_some.mp h
      have hih := ih hrest
      by_cases hk : key x = k
      · rw [hk] at hstep hih
        rw [Function.update_self] at hih
        rw [List.filter_cons_of_pos (by simpa using hk),
          List.filter_cons_of_pos (by simpa using hk)]
        exact runOne_cons_eq_some.mpr ⟨c, o, _, hstep, hih, rfl⟩
      · rw [Function.update_of_ne (fun hc => hk hc.symm)] at hih
        rw [List.filter_cons_of_neg (by simpa using hk),
          List.filter_cons_of_neg (by simpa using hk)]
        exact hih

omit [DecidableEq κ] in
/-- What each step keeps, and what it says of its output. -/
theorem runOne_all {P : C → Prop} {Q : X → O → Prop}
    (h : ∀ c x, P c → ∀ c' o, step c x = some (c', o) → P c' ∧ Q x o) {l : List X} {c c' : C}
    {res : List (X × O)} (hc : P c) (hrun : runOne step l c = some (c', res)) :
    P c' ∧ ∀ r ∈ res, Q r.1 r.2 := by
  induction l generalizing c res with
  | nil =>
      obtain ⟨rfl, rfl⟩ := Prod.mk.inj (Option.some.inj hrun)
      exact ⟨hc, by simp⟩
  | cons x l ih =>
      obtain ⟨d, o, res', hstep, hrest, rfl⟩ := runOne_cons_eq_some.mp hrun
      obtain ⟨hd, ho⟩ := h c x hc d o hstep
      obtain ⟨hc', hall⟩ := ih hd hrest
      exact ⟨hc', List.forall_mem_cons.mpr ⟨ho, hall⟩⟩

/-- If the elements of each key can be processed, the list can. -/
theorem run_isSome {l : List X} {σ : κ → C}
    (h : ∀ k, (runOne step (l.filter (key · = k)) (σ k)).isSome) :
    (run key step l σ).isSome := by
  induction l generalizing σ with
  | nil => rfl
  | cons x l ih =>
      have hx := h (key x)
      rw [List.filter_cons_of_pos (by simp)] at hx
      obtain ⟨⟨d, res⟩, hr⟩ := Option.isSome_iff_exists.mp hx
      obtain ⟨c, o, res', hstep, hrest, -⟩ := runOne_cons_eq_some.mp hr
      have htail : (run key step l (Function.update σ (key x) c)).isSome := by
        refine ih fun k => ?_
        by_cases hk : k = key x
        · rw [hk, Function.update_self, hrest]
          rfl
        · have := h k
          rw [List.filter_cons_of_neg (by simpa using fun hc => hk hc.symm)] at this
          rw [Function.update_of_ne hk]
          exact this
      obtain ⟨⟨σ', res''⟩, hr'⟩ := Option.isSome_iff_exists.mp htail
      rw [run_cons_eq_some.mpr ⟨c, o, res'', hstep, hr', rfl⟩]
      rfl

/-! ### Two orders -/

/-- Lists with the same elements of each key have the same elements. -/
theorem perm_of_filter (key : X → κ) {l l' : List X}
    (h : ∀ k, (l.filter (key · = k)).Perm (l'.filter (key · = k))) : l.Perm l' := by
  classical
  refine List.perm_iff_count.mpr fun x => ?_
  have hcount : ∀ m : List X, (m.filter (key · = key x)).count x = m.count x :=
    fun m => List.count_filter (by simp)
  rw [← hcount l, ← hcount l', (h (key x)).count_eq x]

/-- The elements of the key change no state, and each has its own output. -/
def Inert (key : X → κ) (step : C → X → Option (C × O)) (k : κ) : Prop :=
  ∃ out : X → O, ∀ c x, key x = k → step c x = some (c, out x)

omit [DecidableEq κ] in
theorem runOne_inert {out : X → O} {l : List X} {c : C}
    (h : ∀ c, ∀ x ∈ l, step c x = some (c, out x)) :
    runOne step l c = some (c, l.map fun x => (x, out x)) := by
  induction l with
  | nil => rfl
  | cons x l ih =>
      have ih' := ih fun c y hy => h c y (List.mem_cons_of_mem _ hy)
      exact runOne_cons_eq_some.mpr ⟨c, out x, _, h c x List.mem_cons_self, ih', rfl⟩

/-- **The order between keys does not matter.** -/
theorem run_reorder {l l' : List X} {σ σ' : κ → C} {res : List (X × O)}
    (horder : ∀ k, l.filter (key · = k) = l'.filter (key · = k) ∨
      ((l.filter (key · = k)).Perm (l'.filter (key · = k)) ∧ Inert key step k))
    (h : run key step l σ = some (σ', res)) :
    ∃ res', run key step l' σ = some (σ', res') ∧ res.Perm res' := by
  -- for each key, the other order does the same
  have hone : ∀ k, ∃ part, runOne step (l'.filter (key · = k)) (σ k) = some (σ' k, part) ∧
      (res.filter (fun r => key r.1 = k)).Perm part := by
    intro k
    have hk := run_one h k
    rcases horder k with heq | ⟨hperm, out, hout⟩
    · rw [heq] at hk
      exact ⟨_, hk, List.Perm.refl _⟩
    · have hmem : ∀ m : List X, ∀ c, ∀ x ∈ m.filter (key · = k), step c x = some (c, out x) := by
        intro m c x hx
        exact hout c x (by simpa using (List.mem_filter.mp hx).2)
      rw [runOne_inert (hmem l)] at hk
      simp only [Option.some.injEq, Prod.mk.injEq] at hk
      refine ⟨_, ?_, hk.2 ▸ hperm.map _⟩
      rw [runOne_inert (hmem l'), hk.1]
  have hsome : (run key step l' σ).isSome := by
    refine run_isSome fun k => ?_
    obtain ⟨part, hpart, -⟩ := hone k
    rw [hpart]
    rfl
  obtain ⟨⟨τ, res'⟩, hrun⟩ := Option.isSome_iff_exists.mp hsome
  have hτ : ∀ k, τ k = σ' k ∧
      (res.filter (fun r => key r.1 = k)).Perm (res'.filter (fun r => key r.1 = k)) := by
    intro k
    obtain ⟨part, hpart, hperm⟩ := hone k
    have hk := run_one hrun k
    rw [hpart] at hk
    simp only [Option.some.injEq, Prod.mk.injEq] at hk
    exact ⟨hk.1.symm, hk.2 ▸ hperm⟩
  obtain rfl : τ = σ' := funext fun k => (hτ k).1
  exact ⟨res', hrun, perm_of_filter (fun r : X × O => key r.1) fun k => (hτ k).2⟩

end Keyed
