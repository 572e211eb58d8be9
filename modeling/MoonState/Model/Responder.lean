/-
State functions that answer in the packet they got.

Such a function asks for no packets and sets no timeouts: it rewrites its own
packet and its own data, and may use what the program holds besides the packets,
the random numbers for one.  `Responder` is such a function; it has no answer
where the object behind `stateData` is not of the type the source casts it to.
`Responder.code` is the function in terms of the calls it makes.

`process` and `connect` are what a program does with a machine of such functions:
it hands over a batch, or the packets a connection is opened with, and reads back
what is in the packets and which of them to send.
-/
import Mathlib.Logic.Function.Basic
import MoonState.Model.StateMachine

namespace MoonState

/-- The bytes behind each packet pointer, and the rest of the program. -/
structure World (P B R : Type) where
  mem : P → B
  rest : R

/-- What a function does. -/
structure Answer (D B R : Type) where
  stateData : D
  /-- the argument of `transition`, if it is called -/
  newState : Option StateID
  /-- what the packet holds afterwards -/
  pkt : B
  rest : R
  free : Bool

/-- A function of the own data, the own packet and the rest of the program. -/
abbrev Responder (D B R : Type) := D → B → R → Option (Answer D B R)

variable {P D B R : Type} [DecidableEq P]

/-- The calls at the end of a function. -/
def Answer.tail (a : Answer D B R) : Code P D (World P B R) :=
  let last : Code P D (World P B R) :=
    match a.newState with
    | none => .done
    | some n => .transition n .done
  if a.free then .freePkt last else last

def Responder.code (h : Responder D B R) : StateFun P D (World P B R) := fun _ p =>
  .get fun st w =>
    match h st.stateData (w.mem p) w.rest with
    | none => .throw
    | some a => .put a.stateData ⟨Function.update w.mem p a.pkt, a.rest⟩ a.tail

/-- A machine of such functions, as a program sets it up. -/
structure Service (K D B R : Type) where
  responders : List (Option (Responder D B R))
  /-- there is a function for a `StateID` at most -/
  small : responders.length ≤ 2 ^ 16
  startStateID : StateID
  endStateID : StateID
  /-- the factory of the start state, which may throw -/
  factory : Option (K → R → Option (D × R))
  listenToConnections : Bool
  /-- what the identifier reads from a packet -/
  ident : B → Option K

namespace Service

variable {K : Type} [DecidableEq K] (u : Service K D B R)

/-- A machine, set up. -/
def machine : StateMachine K P D (World P B R) :=
  { StateMachine.new with
    functions := u.responders.map (Option.map Responder.code)
    startStateID := u.startStateID
    startStateFun := u.factory.map fun f id w =>
      (f id w.rest).map fun d => (d.1, { w with rest := d.2 })
    endStateID := u.endStateID
    listenToConnections := u.listenToConnections }

/-- What the machine is compiled against. -/
structure Platform where
  clock : Nat → Int
  topRule : TopRule Timeout Timeout.compare
  ndebug : Bool

def env (pl : Platform) : Env K P (World P B R) where
  identify := fun p w => u.ident (w.mem p)
  clock := pl.clock
  topRule := pl.topRule
  ndebug := pl.ndebug

end Service

/-- The state functions a log tells of, each with the slot of its packet. -/
def Event.calls {K : Type} : Nat → List (Event K D P) → List (Nat × K × State D)
  | _, [] => []
  | _, .run idx :: es => calls idx es
  | cur, .call id st :: es => (cur, id, st) :: calls cur es
  | cur, _ :: es => calls cur es

/-! ### A program with one machine -/

/-- The machine, its pool, and the rest of the program. -/
structure Instance (K D B R : Type) where
  sm : StateMachine K Nat D (World Nat B R)
  connPool : FMap K (State D)
  rest : R

namespace Instance

variable {K D B R : Type} [DecidableEq K] [Inhabited D] [Inhabited B]

/-- A machine with an empty table and an empty pool. -/
def start (u : Service K D B R) (rest : R) : Instance K D B R where
  sm := u.machine
  connPool := ∅
  rest := rest

/-- What a call gets to see.  The packets are numbered as they come. -/
def view (x : Instance K D B R) (ba : BufArray Nat) (bs : List B) : Sys K Nat D (World Nat B R) where
  sm := x.sm
  connPool := x.connPool
  pktsBA := ba
  w := ⟨fun p => (bs[p]?).getD default, x.rest⟩
  ticks := 0
  log := []

/-- What a call leaves: the instance, what its packets hold, and which are marked to be sent. -/
def leave (s : Sys K Nat D (World Nat B R)) (n : Nat) : Instance K D B R × List (B × Bool) :=
  (⟨s.sm, s.connPool, s.w.rest⟩,
    (List.range n).map fun p => (s.w.mem p, s.pktsBA.sendMask.getD p false))

/-- Hand a batch to the machine.  The array is made of it, and aborts the program if it is
empty. -/
def process (u : Service K D B R) (pl : Service.Platform) (x : Instance K D B R) (bs : List B) :
    Except Fault (Instance K D B R × List (B × Bool)) :=
  match BufArray.new (List.range bs.length) with
  | none => .error .exception
  | some ba =>
    match runPktBatch (u.env pl) 1 (x.view ba bs) with
    | .error e => .error e
    | .ok s => .ok (leave s bs.length)

/-- The state functions `process` calls: the connection and its `State`, the packet, and whether
it is sent. -/
def calls (u : Service K D B R) (pl : Service.Platform) (x : Instance K D B R) (bs : List B) :
    List (K × State D × B × Bool) :=
  match BufArray.new (List.range bs.length) with
  | none => []
  | some ba =>
    match runPktBatch (u.env pl) 1 (x.view ba bs) with
    | .error _ => []
    | .ok s => (Event.calls 0 s.log).map fun c =>
      (c.2.1, c.2.2, (bs[c.1]?).getD default, s.pktsBA.sendMask.getD c.1 false)

/-- Open a connection: make its object, and hand `addState` the packets.  The function of the
`State` gets the first. -/
def connect (u : Service K D B R) (pl : Service.Platform) (x : Instance K D B R) (id : K)
    (state : StateID) (create : R → Option (D × R)) (bs : List B) :
    Except Fault (Instance K D B R × List (B × Bool)) :=
  match BufArray.new (List.range bs.length) with
  | none => .error .exception
  | some ba =>
    match create x.rest with
    | none => .error .exception
    | some (d, rest) =>
      match addState (u.env pl) id (State.new state d) (({ x with rest := rest }).view ba bs) with
      | .error e => .error e
      | .ok (s, _) => .ok (leave s bs.length)

end Instance

end MoonState
