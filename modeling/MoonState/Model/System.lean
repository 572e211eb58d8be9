/-
Several state machines over one connection pool.

`connPool` lets a connection be opened on one core and served on another: every
instance has a table of its own and all share the pool.  A `Call` is one call on
one instance, with whatever packet array the caller hands it.  The calls are
taken as atomic; the pool is a concurrent map and the tables are private.

`System.Run` is any sequence of calls, in any interleaving, in which each call
meets a condition on the system it finds.  A `Turn` is a call or one pass of the
timeout loop of an instance; a batch is some passes and then its packets.
-/
import Mathlib.Logic.Function.Basic
import MoonState.Model.Run

namespace MoonState

structure System (ι K P D W : Type) where
  sms : ι → StateMachine K P D W
  connPool : FMap K (State D)
  w : W
  ticks : Nat
  log : List (Event K D P)

/-- A call on one instance: a packet of a batch, or a connection being opened. -/
inductive Call (ι K P D : Type)
  | packet (i : ι) (ba : BufArray P) (cur : Nat)
  | addState (i : ι) (id : K) (st : State D) (ba : BufArray P)
  | addStateNoFun (i : ι) (id : K) (st : State D) (ba : BufArray P)

/-- A call, or one pass of the timeout loop of an instance. -/
inductive Turn (ι K P D : Type)
  | call (c : Call ι K P D)
  | pass (i : ι) (ba : BufArray P)

/-- The instance a call is on. -/
def Call.on {ι K P D : Type} : Call ι K P D → ι
  | .packet i .. => i
  | .addState i .. => i
  | .addStateNoFun i .. => i

/-- The instance whose turn it is. -/
def Turn.on {ι K P D : Type} : Turn ι K P D → ι
  | .call c => c.on
  | .pass i _ => i

/-- The connection a call opens. -/
def Call.opens {ι K P D : Type} : Call ι K P D → Option K
  | .packet .. => none
  | .addState _ id _ _ => some id
  | .addStateNoFun _ id _ _ => some id

namespace System

variable {ι K P D W : Type} [DecidableEq ι] [DecidableEq K] [Inhabited D]

/-- What a call on instance `i` with the packet array `ba` gets to see. -/
def view (S : System ι K P D W) (i : ι) (ba : BufArray P) : Sys K P D W :=
  { sm := S.sms i, connPool := S.connPool, pktsBA := ba, w := S.w, ticks := S.ticks, log := S.log }

/-- The system after a call on instance `i` ended with `s`. -/
def update (S : System ι K P D W) (i : ι) (s : Sys K P D W) : System ι K P D W :=
  { sms := Function.update S.sms i s.sm
    connPool := s.connPool
    w := s.w
    ticks := s.ticks
    log := s.log }

def call (env : Env K P W) (S : System ι K P D W) :
    Call ι K P D → Except Fault (System ι K P D W)
  | .packet i ba cur =>
    match runPkt env cur (S.view i ba) with
    | .ok s => .ok (S.update i s)
    | .error e => .error e
  | .addState i id st ba =>
    match addState env id st (S.view i ba) with
    | .ok (s, _) => .ok (S.update i s)
    | .error e => .error e
  | .addStateNoFun i id st ba => .ok (S.update i (addStateNoFun id st (S.view i ba)))

def turn (env : Env K P W) (S : System ι K P D W) :
    Turn ι K P D → Except Fault (System ι K P D W)
  | .call c => S.call env c
  | .pass i ba =>
    match (S.view i ba).pass env with
    | .ok s => .ok (S.update i s)
    | .error e => .error e

/-- What a place holds for an ID: the table of an instance, or the pool. -/
def atPlace (S : System ι K P D W) : Option ι → K → Option (State D)
  | some i, id => (S.sms i).stateTable.lookup id
  | none, id => S.connPool.lookup id

/-- `S'` is reached from `S` by calls that all met the condition `ok`. -/
inductive Run (env : Env K P W) (ok : System ι K P D W → Call ι K P D → Prop)
    (S : System ι K P D W) : System ι K P D W → Prop
  | refl : Run env ok S S
  | step {S₁ S₂ : System ι K P D W} (c : Call ι K P D) (h : Run env ok S S₁) (hok : ok S₁ c)
      (hcall : S₁.call env c = .ok S₂) : Run env ok S S₂

end System

end MoonState
