/-
Objects that are taken from a pool, used, and given back.

An `Allocator` hands objects out and takes them back; `Lawful` is what it promises
to those who give back only what they took.  An `Arena` is the memory of a program
that takes its objects from one: what they hold, which ones are taken, and whether
an object was ever used or given back that was not.  What an object holds stays
there when it is given back, so a program that uses it then goes on, misusing it.
-/
import Mathlib.Data.Finset.Basic
import Mathlib.Logic.Function.Basic

/-- `get` hands out an object, unless there is none left; `put` takes one back. -/
structure Allocator (A M : Type*) where
  get : M → Option (A × M)
  put : A → M → M

namespace Allocator

variable {A M : Type*} [DecidableEq A]

/-- While the objects in `out` are taken the allocator is in a state that is `Valid` for them. -/
structure Lawful (al : Allocator A M) (Valid : M → Finset A → Prop) : Prop where
  /-- An object is not handed out twice. -/
  get : ∀ {m out a m'}, Valid m out → al.get m = some (a, m') → a ∉ out ∧ Valid m' (insert a out)
  put : ∀ {m out a}, Valid m out → a ∈ out → Valid (al.put a m) (out.erase a)

/-- The free objects on a list, the last one given back first. -/
def stack : Allocator A (List A) where
  get
    | [] => none
    | a :: free => some (a, free)
  put a free := a :: free

/-- The free objects are distinct, and none of them is taken. -/
def StackValid (free : List A) (out : Finset A) : Prop := free.Nodup ∧ ∀ a ∈ free, a ∉ out

theorem stack_lawful : (stack : Allocator A (List A)).Lawful StackValid where
  get := by
    intro free out a free' h hget
    cases free with
    | nil => simp [stack] at hget
    | cons b l =>
        simp only [stack, Option.some.injEq, Prod.mk.injEq] at hget
        obtain ⟨rfl, rfl⟩ := hget
        obtain ⟨hnodup, hfree⟩ := h
        simp only [List.nodup_cons] at hnodup
        refine ⟨hfree b (by simp), hnodup.2, ?_⟩
        intro c hc hout
        rcases Finset.mem_insert.mp hout with rfl | hout
        · exact hnodup.1 hc
        · exact hfree c (by simp [hc]) hout
  put := by
    intro free out a h ha
    refine ⟨?_, ?_⟩
    · simp only [stack, List.nodup_cons]
      exact ⟨fun hc => h.2 a hc ha, h.1⟩
    · intro c hc hout
      simp only [stack, List.mem_cons] at hc
      simp only [Finset.mem_erase] at hout
      rcases hc with rfl | hc
      · exact hout.1 rfl
      · exact h.2 c hc hout.2

end Allocator

/-- The objects of a program. -/
structure Arena (A M V : Type*) where
  pool : M
  mem : A → V
  /-- the objects that were taken and not given back -/
  taken : Finset A
  /-- some object was used or given back while it was not taken -/
  misused : Bool

namespace Arena

variable {A M V : Type*} [DecidableEq A]

/-- Nothing was taken yet. -/
def new (pool : M) (mem : A → V) : Arena A M V where
  pool := pool
  mem := mem
  taken := ∅
  misused := false

/-- Take an object; it holds what it held. -/
def get (al : Allocator A M) (x : Arena A M V) : Option (A × Arena A M V) :=
  match al.get x.pool with
  | none => none
  | some (a, pool) => some (a, { x with pool := pool, taken := insert a x.taken })

/-- Read from an object. -/
def touch (a : A) (x : Arena A M V) : Arena A M V :=
  { x with misused := x.misused || !decide (a ∈ x.taken) }

def write (a : A) (v : V) (x : Arena A M V) : Arena A M V :=
  { x.touch a with mem := Function.update x.mem a v }

/-- Give an object back. -/
def put (al : Allocator A M) (a : A) (x : Arena A M V) : Arena A M V :=
  { x.touch a with pool := al.put a x.pool, taken := x.taken.erase a }

/-- Nothing was misused, and the allocator is where it promises something. -/
structure Sound (Valid : M → Finset A → Prop) (x : Arena A M V) : Prop where
  valid : Valid x.pool x.taken
  fair : x.misused = false

omit [DecidableEq A] in
theorem new_sound {Valid : M → Finset A → Prop} {m : M} (h : Valid m ∅) (mem : A → V) :
    (new m mem).Sound Valid :=
  ⟨h, rfl⟩

/-! ### Objects that are taken -/

@[simp] theorem touch_of_mem {x : Arena A M V} {a : A} (h : a ∈ x.taken) : x.touch a = x := by
  simp [touch, h]

@[simp] theorem touch_mem (x : Arena A M V) (a : A) : (x.touch a).mem = x.mem := rfl

@[simp] theorem write_taken (x : Arena A M V) (a : A) (v : V) : (x.write a v).taken = x.taken := rfl

@[simp] theorem write_mem_self (x : Arena A M V) (a : A) (v : V) : (x.write a v).mem a = v := by
  simp [write]

@[simp] theorem put_taken (al : Allocator A M) (x : Arena A M V) (a : A) :
    (x.put al a).taken = x.taken.erase a := rfl

@[simp] theorem put_mem (al : Allocator A M) (x : Arena A M V) (a : A) : (x.put al a).mem = x.mem := rfl

theorem write_mem_of_ne (x : Arena A M V) {a b : A} (v : V) (h : b ≠ a) :
    (x.write a v).mem b = x.mem b := by
  simp [write, h]

variable {Valid : M → Finset A → Prop} {al : Allocator A M} {x : Arena A M V} {a : A}

theorem Sound.write (h : x.Sound Valid) (ha : a ∈ x.taken) (v : V) : (x.write a v).Sound Valid := by
  refine ⟨h.valid, ?_⟩
  show (x.touch a).misused = false
  simp [ha, h.fair]

theorem Sound.put (h : x.Sound Valid) (hal : al.Lawful Valid) (ha : a ∈ x.taken) :
    (x.put al a).Sound Valid := by
  refine ⟨hal.put h.valid ha, ?_⟩
  show (x.touch a).misused = false
  simp [ha, h.fair]

/-- What taking an object does. -/
theorem Sound.get {y : Arena A M V} (h : x.Sound Valid) (hal : al.Lawful Valid)
    (hget : x.get al = some (a, y)) :
    a ∉ x.taken ∧ y.Sound Valid ∧ y.taken = insert a x.taken ∧ y.mem = x.mem := by
  unfold Arena.get at hget
  split at hget
  · simp at hget
  · rename_i b pool hb
    simp only [Option.some.injEq, Prod.mk.injEq] at hget
    obtain ⟨rfl, rfl⟩ := hget
    obtain ⟨hnew, hvalid⟩ := hal.get h.valid hb
    exact ⟨hnew, ⟨hvalid, h.fair⟩, rfl, rfl⟩

end Arena
