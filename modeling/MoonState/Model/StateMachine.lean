/-
The state machine framework (`include/stateMachine.hpp`).

A state function is any `std::function` over a `State &`, a packet and a
`FunIface &`.  `Code` is what such a function does, as a tree: reads and writes of
its own data and of the memory it shares with the rest of the program, the calls
it makes on its `FunIface`, and a return or a throw at the leaves.  `exec` runs
the tree; nothing else of the model looks into it, so a theorem about all
functions is a theorem about all trees.

`stateTable` is a finite map.  The `dense_hash_map` of the source keeps two keys for
itself and asserts that neither is inserted; the map here has no such keys, so what
is said of a run speaks of the source where its identifier never returns one.

The template parameters are `K` for `Identifier::ConnectionID`, `P` for `Packet *`
and `D` for the `void *` of a `State`, whose null pointer is `default`.  `W` is
the memory and everything else the functions can reach outside the framework.

`Sys` is what one call of a public method can touch: the machine, the connection
pool, the batch in hand, the world, and how often the clock has been read.  Its
`log` records the calls an observer could see.  The machine never reads it.
-/
import MoonState.Lib.FiniteMap
import MoonState.Lib.PriorityQueue
import MoonState.Model.BufArray

namespace MoonState

abbrev StateID := UInt16

abbrev TimeoutID := UInt32

def timeoutIDInvalid : TimeoutID := 0xffffffff

def StateIDInvalid : StateID := 0xffff

/-- One connection. -/
structure State (D : Type) where
  stateData : D
  state : StateID
  timeoutID : TimeoutID
deriving DecidableEq, Repr

/-- `State(state, stateData)`. -/
def State.new {D : Type} (state : StateID) (stateData : D) : State D :=
  { stateData := stateData, state := state, timeoutID := timeoutIDInvalid }

/-- What a state function or a timeout function does. -/
inductive Code (P D W : Type) : Type
  /-- the function returns -/
  | done
  /-- the function throws -/
  | throw
  /-- read the `State` and the world -/
  | get (k : State D → W → Code P D W)
  /-- write `state.stateData` and the world -/
  | put (stateData : D) (w : W) (k : Code P D W)
  | freePkt (k : Code P D W)
  | getPkt (k : P → Code P D W)
  | transition (newState : StateID) (k : Code P D W)
  | transitionNow (newState : StateID) (k : Code P D W)
  | setTimeout (timeout : Int) (func : State D → Code P D W) (k : Code P D W)

/-- `stateFun`. -/
abbrev StateFun (P D W : Type) := State D → P → Code P D W

/-- `timeoutFun`. -/
abbrev TimeoutFun (P D W : Type) := State D → Code P D W

/-- An entry of `timeoutsQ`. -/
structure Timeout where
  time : Int
  timeoutID : TimeoutID
deriving DecidableEq, Repr

/-- `Timeout::Compare`. -/
def Timeout.compare (a b : Timeout) : Bool := a.time < b.time

/-- A queue that conforms: of several latest entries it shows the first one. -/
def Timeout.firstRule : TopRule Timeout Timeout.compare :=
  TopRule.ofKey Timeout.time fun _ _ h => of_decide_eq_true h

/-- The timeout a valid ID maps to. -/
structure TimeoutData (K P D W : Type) where
  id : K
  func : TimeoutFun P D W

/-- The attributes of the class.  The connection pool is shared and not among them. -/
structure StateMachine (K P D W : Type) where
  stateTable : FMap K (State D)
  functions : List (Option (StateFun P D W))
  startStateID : StateID
  /-- `nullptr`, or a function that may throw -/
  startStateFun : Option (K → W → Option (D × W))
  endStateID : StateID
  getPktCB : Option (W → P × W)
  listenToConnections : Bool
  curTimeoutID : TimeoutID
  timeoutsQ : List Timeout
  timeoutFunctions : FMap TimeoutID (TimeoutData K P D W)
  stat_statesAdded : UInt64
  stat_statesClosed : UInt64

/-- What can be seen of a run. -/
inductive Event (K D P : Type)
  /-- `runPkt` starts on a slot of the batch -/
  | run (idx : Nat)
  /-- the packet of the slot is dropped, it could not be identified -/
  | unidentified (idx : Nat)
  /-- the packet of the slot is dropped, it has no state -/
  | discarded (idx : Nat) (id : K)
  /-- a new connection is accepted and the start state factory called -/
  | create (id : K)
  /-- the function of `st.state` is called on `st` -/
  | call (id : K) (st : State D)
  | freePkt (idx : Nat)
  /-- `getPkt` returned this packet -/
  | getPkt (pkt : P)
  /-- `setTimeout` was called for a connection -/
  | arm (timeoutID : TimeoutID) (id : K)
  /-- the function of a timeout is called on a connection -/
  | fire (timeout : Timeout) (id : K)
  /-- a connection is added to the pool -/
  | opened (id : K) (st : State D)
  /-- a connection is taken out of the table -/
  | removed (id : K)
deriving DecidableEq, Repr

/-- The identifier, the clock and the library the machine is compiled against.  `clock n` is
the n-th reading of `steady_clock::now()`; `identify` is `none` where it throws
`PacketNotIdentified`. -/
structure Env (K P W : Type) where
  identify : P → W → Option K
  clock : Nat → Int
  topRule : TopRule Timeout Timeout.compare
  ndebug : Bool

structure Sys (K P D W : Type) where
  sm : StateMachine K P D W
  connPool : FMap K (State D)
  pktsBA : BufArray P
  w : W
  ticks : Nat
  log : List (Event K D P)

variable {K P D W : Type} [DecidableEq K]

/-! ### Setting a machine up -/

namespace StateMachine

/-- The constructor. -/
def new : StateMachine K P D W where
  stateTable := ∅
  functions := []
  startStateID := 0
  startStateFun := none
  endStateID := StateIDInvalid
  getPktCB := none
  listenToConnections := false
  curTimeoutID := 0
  timeoutsQ := []
  timeoutFunctions := ∅
  stat_statesAdded := 0
  stat_statesClosed := 0

/-- `resize` keeps what fits and fills up with empty functions.  Both sides of the test are
cast to `int`, which holds every size and every ID that occurs. -/
def registerFunction (id : StateID) (function : StateFun P D W) (sm : StateMachine K P D W) :
    StateMachine K P D W :=
  let functions :=
    if (sm.functions.length : Int) - 1 < (id.toNat : Int) then
      sm.functions ++ List.replicate (id.toNat + 1 - sm.functions.length) none
    else sm.functions
  { sm with functions := functions.set id.toNat (some function) }

def registerEndStateID (endStateID : StateID) (sm : StateMachine K P D W) :
    StateMachine K P D W :=
  { sm with endStateID := endStateID }

def registerStartStateID (startStateID : StateID)
    (startStateFun : Option (K → W → Option (D × W))) (sm : StateMachine K P D W) :
    StateMachine K P D W :=
  { sm with
    startStateID := startStateID
    startStateFun := startStateFun
    listenToConnections := true }

def registerGetPktCB (f : W → P × W) (sm : StateMachine K P D W) : StateMachine K P D W :=
  { sm with getPktCB := some f }

/-- The checks before a state function is called, and the call's target.  The size is a
`size_t`, so the index check of an empty table lets every ID through. -/
def dispatch (sm : StateMachine K P D W) (state : StateID) : Except Fault (StateFun P D W) :=
  if state.toNat ≤ (sm.functions.length + (2 ^ 64 - 1)) % 2 ^ 64 then
    match sm.functions[state.toNat]? with
    | some (some f) => .ok f
    | _ => .error .noFunction
  else .error .noFunction

end StateMachine

namespace Sys

def emit (s : Sys K P D W) (e : Event K D P) : Sys K P D W :=
  { s with log := s.log ++ [e] }

/-- Assign through `stateIt->second`, the reference to a tracked connection. -/
def setState (s : Sys K P D W) (id : K) (st : State D) : Sys K P D W :=
  { s with sm := { s.sm with stateTable := s.sm.stateTable.insert id st } }

def removeState (s : Sys K P D W) (id : K) : Sys K P D W :=
  { s with
    sm := { s.sm with stateTable := s.sm.stateTable.erase id }
    log := if id ∈ s.sm.stateTable then s.log ++ [.removed id] else s.log }

/-- `connPool->add`; TBB's `insert` leaves an existing entry alone. -/
def poolAdd (s : Sys K P D W) (id : K) (st : State D) : Sys K P D W :=
  { s with
    connPool := FMap.insertNew id st s.connPool
    log := s.log ++ [.opened id st] }

/-- `markDropPkt` on the batch in hand. -/
def markDropPkt (env : Env K P W) (s : Sys K P D W) (idx : Nat) : Except Fault (Sys K P D W) :=
  match s.pktsBA.markDropPkt env.ndebug idx with
  | .ok ba => .ok { s with pktsBA := ba }
  | .error e => .error e

end Sys

/-! ### `FunIface` -/

/-- The attributes of a `FunIface`; the machine, the batch and the `State` it refers to are in
the `Activation`. -/
structure FunIface (K : Type) where
  pktIdx : Nat
  cID : K
  sendPkt : Bool
  immediateTransition : Bool
deriving DecidableEq, Repr

/-- The constructor. -/
def FunIface.new (pktIdx : Nat) (cID : K) : FunIface K :=
  { pktIdx := pktIdx, cID := cID, sendPkt := true, immediateTransition := false }

/-- A function being run: `state` is the `State` its reference designates. -/
structure Activation (K P D W : Type) where
  sys : Sys K P D W
  state : State D
  iface : FunIface K

namespace Activation

def freePkt (a : Activation K P D W) : Activation K P D W :=
  { a with
    sys := a.sys.emit (.freePkt a.iface.pktIdx)
    iface := { a.iface with sendPkt := false } }

def getPkt (a : Activation K P D W) : Except Fault (P × Activation K P D W) :=
  match a.sys.sm.getPktCB with
  | none => .error .noGetPktCB
  | some cb =>
    let ret := cb a.sys.w
    match a.sys.pktsBA.addPkt ret.1 with
    | .error e => .error e
    | .ok ba =>
      .ok (ret.1, { a with
        sys := { a.sys with pktsBA := ba, w := ret.2, log := a.sys.log ++ [.getPkt ret.1] } })

def transition (a : Activation K P D W) (newState : StateID) : Activation K P D W :=
  { a with state := { a.state with state := newState } }

def transitionNow (a : Activation K P D W) (newState : StateID) : Activation K P D W :=
  { a with
    state := { a.state with state := newState }
    iface := { a.iface with immediateTransition := true } }

def setTimeout (env : Env K P W) (a : Activation K P D W) (timeout : Int)
    (func : TimeoutFun P D W) : Activation K P D W :=
  let tid := a.sys.sm.curTimeoutID
  { a with
    state := { a.state with timeoutID := tid }
    sys := { a.sys with
      sm := { a.sys.sm with
        curTimeoutID := tid + 1
        timeoutsQ := ⟨env.clock a.sys.ticks + timeout, tid⟩ :: a.sys.sm.timeoutsQ
        timeoutFunctions :=
          FMap.insertNew tid ⟨a.iface.cID, func⟩ a.sys.sm.timeoutFunctions }
      ticks := a.sys.ticks + 1
      log := a.sys.log ++ [.arm tid a.iface.cID] } }

/-- Write `state.stateData` and the world. -/
def put (a : Activation K P D W) (stateData : D) (w : W) : Activation K P D W :=
  { a with
    sys := { a.sys with w := w }
    state := { a.state with stateData := stateData } }

/-- The `State` the function worked on, back in the table entry it belongs to. -/
def commit (a : Activation K P D W) : Sys K P D W := a.sys.setState a.iface.cID a.state

end Activation

/-- Run a function's code. -/
def exec (env : Env K P W) : Code P D W → Activation K P D W → Except Fault (Activation K P D W)
  | .done, a => .ok a
  | .throw, _ => .error .exception
  | .get k, a => exec env (k a.state a.sys.w) a
  | .put d w k, a => exec env k (a.put d w)
  | .freePkt k, a => exec env k a.freePkt
  | .getPkt k, a =>
    match a.getPkt with
    | .error e => .error e
    | .ok (p, a') => exec env (k p) a'
  | .transition n k, a => exec env k (a.transition n)
  | .transitionNow n k, a => exec env k (a.transitionNow n)
  | .setTimeout t f k, a => exec env k (a.setTimeout env t f)

/-- Call the function registered for the `State` on the packet of the slot. -/
def callFun (env : Env K P W) (a : Activation K P D W) : Except Fault (Activation K P D W) := do
  let f ← a.sys.sm.dispatch a.state.state
  let p ← a.sys.pktsBA.get a.iface.pktIdx
  exec env (f a.state p) { a with sys := a.sys.emit (.call a.iface.cID a.state) }

/-- Where the `State` of a `FunIface` lives when its destructor runs. -/
inductive Home
  /-- an entry of the state table -/
  | table
  /-- an entry that has been erased -/
  | erased
  /-- the parameter of `addState` -/
  | param
deriving DecidableEq, Repr

namespace Activation

/-- The marking in the destructor. -/
def mark (env : Env K P W) (a : Activation K P D W) : Except Fault (Activation K P D W) :=
  match a.sys.pktsBA.mark env.ndebug a.iface.pktIdx a.iface.sendPkt with
  | .ok ba => .ok { a with sys := { a.sys with pktsBA := ba } }
  | .error e => .error e

/-- `~FunIface`: mark the packet, then run the function of the state an immediate transition
asked for. -/
def destroy (env : Env K P W) (home : Home) (a : Activation K P D W) :
    Except Fault (Activation K P D W) := do
  let a ← a.mark env
  if a.iface.immediateTransition = false then
    .ok a
  else if home = .erased then
    .error .dangling
  else
    let a ← callFun env a
    let s := if home = .table then a.commit else a.sys
    .ok { a with
      sys := if a.state.state = s.sm.endStateID then s.removeState a.iface.cID else s }

end Activation

/-! ### Looking a connection up -/

namespace Sys

/-- Move the `State` found in the pool to the table. -/
def claim (s : Sys K P D W) (id : K) (st : State D) : Sys K P D W :=
  { s with
    connPool := s.connPool.erase id
    sm := { s.sm with
      stateTable := FMap.insertNew id st s.sm.stateTable
      stat_statesAdded := s.sm.stat_statesAdded + 1 } }

/-- The data of a new connection: null, or what the factory makes. -/
def startData [Inhabited D] (s : Sys K P D W) (id : K) : Option (D × W) :=
  match s.sm.startStateFun with
  | none => some (default, s.w)
  | some f => f id s.w

/-- Insert a new connection in the start state. -/
def accept (s : Sys K P D W) (id : K) (stateData : D) (w : W) : Sys K P D W :=
  { s with
    w := w
    sm := { s.sm with
      stateTable := FMap.insertNew id (State.new s.sm.startStateID stateData) s.sm.stateTable
      stat_statesAdded := s.sm.stat_statesAdded + 1 }
    log := s.log ++ [.create id] }

/-- `findStateLoop:` and the two jumps back to it; the fuel counts the lookups. -/
def findStateLoop [Inhabited D] : Nat → K → Sys K P D W → Except Fault (Sys K P D W × Option (State D))
  | 0, _, _ => .error .outOfFuel
  | fuel + 1, id, s =>
    match s.sm.stateTable.lookup id with
    | some st => .ok (s, some st)
    | none =>
      match s.connPool.lookup id with
      | some st => findStateLoop fuel id (s.claim id st)
      | none =>
        if s.sm.listenToConnections then
          match s.startData id with
          | none => .error .exception
          | some (d, w) => findStateLoop fuel id (s.accept id d w)
        else .ok (s, none)

/-- The second lookup finds what the first one made the loop insert, so two are enough. -/
def findState [Inhabited D] (id : K) (s : Sys K P D W) : Except Fault (Sys K P D W × Option (State D)) :=
  findStateLoop 2 id s

/-- A packet of the connection cancels the timeout its `State` remembers. -/
def cancelTimeout (s : Sys K P D W) (st : State D) : Sys K P D W :=
  if st.timeoutID ≠ timeoutIDInvalid then
    { s with sm := { s.sm with
      timeoutFunctions := s.sm.timeoutFunctions.erase st.timeoutID } }
  else s

end Sys

/-! ### The public methods -/

/-- `runPkt` from the point where the connection is known. -/
def runState (env : Env K P W) (cur : Nat) (identity : K) (st : State D) (s : Sys K P D W) :
    Except Fault (Sys K P D W) := do
  let st' := { st with timeoutID := timeoutIDInvalid }
  let a ← callFun env
    { sys := s.cancelTimeout st, state := st', iface := FunIface.new cur identity }
  let s := a.commit
  if a.state.state = s.sm.endStateID then
    let s := s.removeState identity
    let s := { s with sm := { s.sm with stat_statesClosed := s.sm.stat_statesClosed + 1 } }
    return (← ({ a with sys := s } : Activation K P D W).destroy env .erased).sys
  else
    return (← ({ a with sys := s } : Activation K P D W).destroy env .table).sys

/-- `addState` with the array in hand as its `pktsIn`; also what its parameter `st` is left
as. -/
def addState (env : Env K P W) (id : K) (st : State D) (s : Sys K P D W) :
    Except Fault (Sys K P D W × State D) := do
  let a ← callFun env { sys := s, state := st, iface := FunIface.new 0 id }
  let s := if a.state.state = a.sys.sm.endStateID then a.sys else a.sys.poolAdd id a.state
  let a ← ({ a with sys := s } : Activation K P D W).destroy env .param
  return (a.sys, a.state)

def addStateNoFun (id : K) (st : State D) (s : Sys K P D W) : Sys K P D W :=
  if st.state = s.sm.endStateID then s else s.poolAdd id st

variable [Inhabited D]

def runPkt (env : Env K P W) (cur : Nat) (s : Sys K P D W) : Except Fault (Sys K P D W) := do
  let s := s.emit (.run cur)
  let pktIn ← s.pktsBA.get cur
  match env.identify pktIn s.w with
  | none => (s.emit (.unidentified cur)).markDropPkt env cur
  | some identity =>
    match ← s.findState identity with
    | (s, none) => (s.emit (.discarded cur identity)).markDropPkt env cur
    | (s, some st) => runState env cur identity st s

/-- `std::numeric_limits<uint32_t>::max()`, the slot of a `FunIface` without a packet. -/
def noPktIdx : Nat := 2 ^ 32 - 1

/-- One valid timeout of `runPktBatch` that is due. -/
def fireTimeout (env : Env K P W) (timeoutElem : Timeout) (timeoutData : TimeoutData K P D W)
    (s : Sys K P D W) : Except Fault (Sys K P D W) := do
  match ← s.findState timeoutData.id with
  | (_, none) => .error .noState
  | (s, some st) =>
    let st' := { st with timeoutID := timeoutIDInvalid }
    let a ← exec env (timeoutData.func st')
      { sys := s.emit (.fire timeoutElem timeoutData.id)
        state := st'
        iface := FunIface.new noPktIdx timeoutData.id }
    let s := a.commit
    let ended := a.state.state = s.sm.endStateID
    let s := if ended then s.removeState timeoutData.id else s
    let s := { s with sm := { s.sm with
      timeoutsQ := env.topRule.pop s.sm.timeoutsQ
      timeoutFunctions := s.sm.timeoutFunctions.erase timeoutElem.timeoutID } }
    return (← ({ a with sys := s } : Activation K P D W).destroy env
      (if ended then .erased else .table)).sys

/-- The timeout loop of `runPktBatch`. -/
def timeoutLoop (env : Env K P W) : Nat → Sys K P D W → Except Fault (Sys K P D W)
  | 0, _ => .error .outOfFuel
  | fuel + 1, s =>
    match env.topRule.top s.sm.timeoutsQ with
    | none => .ok s
    | some timeoutElem =>
      let now := env.clock s.ticks
      let s := { s with ticks := s.ticks + 1 }
      if timeoutElem.time > now then .ok s
      else
        match s.sm.timeoutFunctions.lookup timeoutElem.timeoutID with
        | none =>
          timeoutLoop env fuel
            { s with sm := { s.sm with timeoutsQ := env.topRule.pop s.sm.timeoutsQ } }
        | some timeoutData => do
          let s ← fireTimeout env timeoutElem timeoutData s
          timeoutLoop env fuel s

/-- `runPktBatch` on the batch in hand. -/
def runPktBatch (env : Env K P W) (fuel : Nat) (s : Sys K P D W) : Except Fault (Sys K P D W) := do
  let inCount := s.pktsBA.getTotalCount
  let s ← timeoutLoop env fuel s
  (List.range inCount).foldlM (fun s i => runPkt env i s) s

end MoonState
