/-
State functions that see only their own connection.

A function that depends on nothing but its own `State`, its packet and its
`ConnectionID`, which is read from the packet, is a function of the first two:
`Handler`.  Its `Reply` says what it leaves in both, which
packets it asks for and fills, and whether it frees its own.  `Handler.code` is
such a function in terms of the calls it makes.

The world of these functions is the memory of the packets, and a supply of fresh
ones behind `getPktCB`.
-/
import MoonState.Model.StateMachine

namespace MoonState

/-- The bytes behind each packet pointer, and how many packets were taken from the supply. -/
structure Heap (P B : Type) where
  mem : P → B
  given : Nat

namespace Heap

variable {P B : Type}

def write [DecidableEq P] (w : Heap P B) (p : P) (b : B) : Heap P B :=
  { w with mem := Function.update w.mem p b }

/-- `getPktCB`. -/
def take (supply : Nat → P) (w : Heap P B) : P × Heap P B :=
  (supply w.given, { w with given := w.given + 1 })

end Heap

/-- What a function does about its connection and its packet. -/
structure Reply (D B : Type) where
  stateData : D
  /-- the argument of `transition`, if it is called -/
  newState : Option StateID
  /-- what the packet holds afterwards -/
  pkt : B
  /-- what the packets hold that are asked for, in order -/
  extra : List B
  free : Bool

/-- A state function that depends on its own `State` and packet only. -/
abbrev Handler (D B : Type) := State D → B → Reply D B

variable {P D B : Type}

/-- The calls at the end of a function. -/
def Reply.tail (r : Reply D B) : Code P D (Heap P B) :=
  let last : Code P D (Heap P B) :=
    match r.newState with
    | none => .done
    | some n => .transition n .done
  if r.free then .freePkt last else last

variable [DecidableEq P]

/-- Ask for the packets and fill them, then write the own packet and the own data. -/
def Reply.code (r : Reply D B) (p : P) : List B → Code P D (Heap P B)
  | [] => .get fun _ w => .put r.stateData (w.write p r.pkt) r.tail
  | b :: bs => .getPkt fun q => .get fun st w => .put st.stateData (w.write q b) (r.code p bs)

def Handler.code (h : Handler D B) : StateFun P D (Heap P B) := fun st p =>
  .get fun _ w => (h st (w.mem p)).code p (h st (w.mem p)).extra

end MoonState
