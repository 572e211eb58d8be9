/-
HelloBye2 clients and a server, on a network.

There is any number of clients, each a state machine of its own; some of them may
share a pool.  There is one server, with its own pool.  What a machine sends is in
flight until the network delivers it, in whatever batches and to whichever machine,
loses it or doubles it.  It does not make up messages.

The network also tells what `rand` returns.  `verdicts` is what the functions
decided, in order.
-/
import MoonState.Model.HelloByeRun

namespace MoonState.HelloBye2

/-- What a function makes of the packet it gets. -/
inductive Verdict
  /-- a hello is answered -/
  | greets (ident : UInt64)
  /-- the server answers a goodbye, in a session with these cookies -/
  | accepts (ident : UInt64) (clientCookie serverCookie : Int)
  /-- the client gets its cookie back, in a session with these cookies; `sent` is the mark of the
  packet -/
  | completes (ident : UInt64) (clientCookie serverCookie : Int) (sent : Bool)
  | rejects (ident : UInt64)
deriving DecidableEq, Repr

/-- The checks of `Hello::fun` and `Bye::fun`. -/
def Server.verdict (ident : UInt64) (st : State (Ptr Server.Object)) (pkt : Packet) : Verdict :=
  match st.stateData with
  | .to (.hello _) =>
    if pkt.Says Msg.ROLE_CLIENT Msg.MSG_HELLO then .greets ident else .rejects ident
  | .to (.bye t) =>
    if pkt.Says Msg.ROLE_CLIENT Msg.MSG_BYE ∧ (pkt.cookie.toNat : Int) = t.serverCookie then
      .accepts ident t.clientCookie t.serverCookie
    else .rejects ident
  | _ => .rejects ident

/-- The checks of `Bye::fun` and `RecvBye::fun`. -/
def Client.verdict (ident : UInt64) (st : State (Ptr Client.Object)) (pkt : Packet) (sent : Bool) :
    Verdict :=
  match st.stateData with
  | .to (.bye _) =>
    if pkt.Says Msg.ROLE_SERVER Msg.MSG_HELLO then .greets ident else .rejects ident
  | .to (.recvBye t) =>
    if pkt.Says Msg.ROLE_SERVER Msg.MSG_BYE ∧ (pkt.cookie.toNat : Int) = t.clientCookie then
      .completes ident t.clientCookie t.serverCookie sent
    else .rejects ident
  | _ => .rejects ident

/-- The clients `ι` and the pools `κ`. -/
structure Setting (ι κ : Type) where
  config : ι → HelloBye2ClientConfig
  poolOf : ι → κ
  platform : Service.Platform

structure Net (ι κ : Type) where
  client : ι → StateMachine UInt64 Nat (Ptr Client.Object) (World Nat Packet Rand)
  pool : κ → FMap UInt64 (State (Ptr Client.Object))
  server : StateMachine UInt64 Nat (Ptr Server.Object) (World Nat Packet Rand)
  serverPool : FMap UInt64 (State (Ptr Server.Object))
  flight : List Packet
  /-- the idents of the connections that were opened -/
  opened : List UInt64
  verdicts : List Verdict

/-- What happens next. -/
inductive Act (ι : Type)
  /-- a client opens a connection, with a packet to write to -/
  | connect (i : ι) (dstIP : UInt32) (srcPort : UInt16) (ident : UInt64) (pkt : Packet) (rnd : Rand)
  /-- a client gets a batch of the messages in flight -/
  | client (i : ι) (picks : List Nat) (rnd : Rand)
  | server (picks : List Nat) (rnd : Rand)
  | lose (pick : Nat)
  | duplicate (pick : Nat)

/-- Take messages out of the flight, one after the other, each by its place in what is left. -/
def pick {α : Type} : List Nat → List α → List α × List α
  | [], flight => ([], flight)
  | k :: ks, flight =>
    match flight[k]? with
    | none => pick ks flight
    | some p =>
      let (batch, left) := pick ks (flight.eraseIdx k)
      (p :: batch, left)

/-- The packets that are marked to be sent. -/
def sent (outs : List (Packet × Bool)) : List Packet := (outs.filter Prod.snd).map Prod.fst

namespace Net

variable {ι κ : Type} [DecidableEq ι] [DecidableEq κ] (S : Setting ι κ)

def start : Net ι κ where
  client := fun i => (Client.service (S.config i)).machine
  pool := fun _ => ∅
  server := Server.service.machine
  serverPool := ∅
  flight := []
  opened := []
  verdicts := []

/-- A client, as its program holds it. -/
def asClient (n : Net ι κ) (i : ι) (rnd : Rand) : Instance UInt64 (Ptr Client.Object) Packet Rand :=
  ⟨n.client i, n.pool (S.poolOf i), rnd⟩

def putClient (n : Net ι κ) (i : ι) (x : Instance UInt64 (Ptr Client.Object) Packet Rand) : Net ι κ :=
  { n with
    client := Function.update n.client i x.sm
    pool := Function.update n.pool (S.poolOf i) x.connPool }

def asServer (n : Net ι κ) (rnd : Rand) : Instance UInt64 (Ptr Server.Object) Packet Rand :=
  ⟨n.server, n.serverPool, rnd⟩

def step (n : Net ι κ) : Act ι → Except Fault (Net ι κ)
  | .connect i dstIP srcPort ident pkt rnd =>
    (Client.connect (S.config i) S.platform (n.asClient S i rnd) dstIP srcPort ident [pkt]).map
      fun (x, outs) => { n.putClient S i x with
        flight := n.flight ++ sent outs
        opened := ident :: n.opened }
  | .client i picks rnd =>
    let batch := (pick picks n.flight).1
    ((n.asClient S i rnd).process (Client.service (S.config i)) S.platform batch).map
      fun (x, outs) => { n.putClient S i x with
        flight := (pick picks n.flight).2 ++ sent outs
        verdicts := n.verdicts ++
          ((n.asClient S i rnd).calls (Client.service (S.config i)) S.platform batch).map
            fun c => Client.verdict c.1 c.2.1 c.2.2.1 c.2.2.2 }
  | .server picks rnd =>
    let batch := (pick picks n.flight).1
    ((n.asServer rnd).process Server.service S.platform batch).map fun (x, outs) => { n with
      server := x.sm
      serverPool := x.connPool
      flight := (pick picks n.flight).2 ++ sent outs
      verdicts := n.verdicts ++
        ((n.asServer rnd).calls Server.service S.platform batch).map
          fun c => Server.verdict c.1 c.2.1 c.2.2.1 }
  | .lose k => .ok { n with flight := n.flight.eraseIdx k }
  | .duplicate k => .ok { n with flight := n.flight ++ n.flight[k]?.toList }

/-- One step takes the net from one state to the next. -/
def Does (n : Net ι κ) (a : Act ι) (n' : Net ι κ) : Prop := n.step S a = .ok n'

end Net

end MoonState.HelloBye2
