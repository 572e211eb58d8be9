/-
The table of state functions, and the checks before a call
(`registerFunction` and the dispatch in `runPkt`, `addState` and `~FunIface`,
`include/stateMachine.hpp`).

The three places have the same lines.  `StateMachine.dispatch` fails alike whatever
goes wrong in them; `check` tells it apart, and an empty `std::function` may be
registered as well.
-/
import MoonState.Model.StateMachine

namespace MoonState.Functions

variable {F : Type}

/-- How the lines before a call end. -/
inductive Check (F : Type)
  /-- `(functions.size() - 1) >= state` does not hold -/
  | index
  /-- it does, and there is no such element -/
  | outOfRange
  /-- `fun != nullptr` does not hold -/
  | null
  /-- the call is made -/
  | call (f : F)
deriving DecidableEq, Repr

def check (functions : List (Option F)) (state : StateID) : Check F :=
  if state.toNat ≤ (functions.length + (2 ^ 64 - 1)) % 2 ^ 64 then
    match functions[state.toNat]? with
    | none => .outOfRange
    | some none => .null
    | some (some f) => .call f
  else .index

/-- `function` is `none` where it is a `nullptr`. -/
def registerFunction (id : StateID) (function : Option F) (functions : List (Option F)) :
    List (Option F) :=
  let functions :=
    if (functions.length : Int) - 1 < (id.toNat : Int) then
      functions ++ List.replicate (id.toNat + 1 - functions.length) none
    else functions
  functions.set id.toNat function

/-- A call of `registerFunction`. -/
abbrev Registration (F : Type) := StateID × Option F

/-- The table after these calls on a new machine. -/
def registerAll (calls : List (Registration F)) : List (Option F) :=
  calls.foldl (fun functions c => registerFunction c.1 c.2 functions) []

end MoonState.Functions
