/-
A machine on every core.

`connPool` and `setConnectionPool` let a connection be opened on one core and served
on another: each core has a machine with a table of its own, all of them have the
pool.  A `Call` is what one core does.  The network card hands a packet to the core
its connection is steered to, so that all packets of a connection get to one table;
a connection is opened on whichever core wants it.

`Call.jobs` is a call packet by packet, without the core.
-/
import MoonState.Model.HelloByeRun

namespace MoonState

/-- The machines, their pool, and the rest of the program. -/
structure Cores (ι K D B R : Type) where
  sms : ι → StateMachine K Nat D (World Nat B R)
  connPool : FMap K (State D)
  rest : R

/-- `inPkts` and `inCount`: an array that is not empty and can be counted. -/
structure InPkts (B : Type) where
  pkts : List B
  nonempty : 0 < pkts.length
  fits : pkts.length < 2 ^ 32

theorem length_one_fits {B : Type} (b : B) : [b].length < 2 ^ 32 :=
  Nat.one_lt_two_pow (Nat.succ_ne_zero 31)

namespace Cores

inductive Call (ι K D B R : Type)
  | process (i : ι) (inPkts : InPkts B)
  /-- a connection is opened in this state, with an object that is made for it -/
  | connect (i : ι) (id : K) (state : StateID) (create : R → Option (D × R)) (inPkts : InPkts B)

/-- What is done with a packet, or with the packets a connection is opened with. -/
inductive Job (K D B R : Type)
  | packet (b : B)
  | opening (id : K) (state : StateID) (create : R → Option (D × R)) (inPkts : InPkts B)

namespace Call

variable {ι K D B R : Type}

def jobs : Call ι K D B R → List (Job K D B R)
  | process _ inPkts => inPkts.pkts.map .packet
  | connect _ id state create inPkts => [.opening id state create inPkts]

/-- Every packet is on the core its connection is steered to. -/
def Steered (ident : B → Option K) (steer : K → ι) : Call ι K D B R → Prop
  | process i inPkts => ∀ b ∈ inPkts.pkts, ∀ id, ident b = some id → steer id = i
  | connect .. => True

end Call

variable {ι K D B R : Type} [DecidableEq ι] [DecidableEq K] [Inhabited D] [Inhabited B]

/-- The machines set up, an empty pool. -/
def start (u : Service K D B R) (rest : R) : Cores ι K D B R where
  sms := fun _ => u.machine
  connPool := ∅
  rest := rest

/-- What a core sees of the program. -/
def core (x : Cores ι K D B R) (i : ι) : Instance K D B R := ⟨x.sms i, x.connPool, x.rest⟩

/-- The program after a core has left its part like that. -/
def put (x : Cores ι K D B R) (i : ι) (y : Instance K D B R) : Cores ι K D B R where
  sms := Function.update x.sms i y.sm
  connPool := y.connPool
  rest := y.rest

def call (u : Service K D B R) (pl : Service.Platform) (x : Cores ι K D B R) :
    Call ι K D B R → Except Fault (Cores ι K D B R × List (B × Bool))
  | .process i inPkts =>
    ((x.core i).process u pl inPkts.pkts).map fun r => (x.put i r.1, r.2)
  | .connect i id state create inPkts =>
    ((x.core i).connect u pl id state create inPkts.pkts).map fun r => (x.put i r.1, r.2)

end Cores

end MoonState
