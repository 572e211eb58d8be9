/-
HelloBye servers and clients of any version, on an open network.

The servers are machines on any number of cores with a pool, and so are the clients;
they need not be of the same version.  What a machine sends is in flight until the
network hands it to some machine, in whatever batches, or loses it.  Anybody else may
send messages too: doubled ones, and forged ones.

A step tells how many messages it handed to a machine.
-/
import MoonState.Model.Cores
import MoonState.Model.HelloNet

namespace MoonState

open HelloBye2 (pick sent)

/-- The binary implementations of HelloBye. -/
inductive Version
  | helloBye2
  | helloBye3
  | helloBye3MemPool
deriving DecidableEq, Repr

namespace Version

/-- What `stateData` points to in a server. -/
@[reducible] def ServerData : Version → Type
  | helloBye2 => Ptr HelloBye2.Server.Object
  | helloBye3 => Ptr HelloBye3.Server.server
  | helloBye3MemPool => Ptr HelloBye3MemPool.Server.server

@[reducible] def ClientData : Version → Type
  | helloBye2 => Ptr HelloBye2.Client.Object
  | helloBye3 => Ptr HelloBye3.Client.client
  | helloBye3MemPool => Ptr HelloBye3MemPool.Client.client

/-- What the program holds besides, with the mempool `M`. -/
@[reducible] def Rest (M : Type) : Version → Type
  | helloBye3MemPool => Rand × M
  | _ => Rand

instance (v : Version) : Inhabited v.ServerData := by cases v <;> exact ⟨.null⟩

instance (v : Version) : Inhabited v.ClientData := by cases v <;> exact ⟨.null⟩

/-- What the random numbers and the mempool are to this version. -/
def rest {M : Type} (r : Rand) (m : M) : (v : Version) → v.Rest M
  | helloBye2 => r
  | helloBye3 => r
  | helloBye3MemPool => (r, m)

variable {M : Type} (mempool : Mempool M) (config : HelloBye2.HelloBye2ClientConfig)

/-- The machine `X_Server_init` sets up. -/
def server : (v : Version) → Service UInt64 v.ServerData Packet (v.Rest M)
  | helloBye2 => HelloBye2.Server.service
  | helloBye3 => HelloBye3.Server.service
  | helloBye3MemPool => HelloBye3MemPool.Server.service mempool

/-- The machine `X_Client_init` sets up. -/
def client : (v : Version) → Service UInt64 v.ClientData Packet (v.Rest M)
  | helloBye2 => HelloBye2.Client.service config
  | helloBye3 => HelloBye3.Client.service
  | helloBye3MemPool => HelloBye3MemPool.Client.service mempool

/-- The object `X_Client_connect` makes. -/
def create : (v : Version) → UInt32 → UInt16 → UInt64 → v.Rest M → Option (v.ClientData × v.Rest M)
  | helloBye2 => HelloBye2.Client.create
  | helloBye3 => fun dstIP srcPort ident =>
    HelloBye3.Client.createHello config.srcIp dstIP srcPort config.dstPort ident
  | helloBye3MemPool => fun dstIP srcPort ident =>
    HelloBye3MemPool.Client.createHello mempool config.srcIp dstIP srcPort config.dstPort ident

end Version

/-- What runs on the two sides, and what `connect` makes for a connection. -/
structure Parties (D R E S : Type) where
  server : Service UInt64 D Packet R
  client : Service UInt64 E Packet S
  create : UInt32 → UInt16 → UInt64 → S → Option (E × S)

def Parties.of {M : Type} (mempool : Mempool M) (config : HelloBye2.HelloBye2ClientConfig)
    (sv cv : Version) : Parties sv.ServerData (sv.Rest M) cv.ClientData (cv.Rest M) where
  server := sv.server mempool
  client := cv.client mempool config
  create := cv.create mempool config

/-- The cores `ι` of the server and `κ` of the client, and the messages in flight. -/
structure Exchange (ι κ D R E S : Type) where
  server : Cores ι UInt64 D Packet R
  client : Cores κ UInt64 E Packet S
  flight : List Packet

namespace Exchange

/-- What happens next. -/
inductive Act (ι κ : Type)
  /-- a core of the server gets some of the messages in flight -/
  | server (i : ι) (picks : List Nat)
  | client (j : κ) (picks : List Nat)
  /-- a core of the client opens a connection, with a packet to write to -/
  | connect (j : κ) (dstIP : UInt32) (srcPort : UInt16) (ident : UInt64) (pkt : Packet)
  /-- somebody else sends a message -/
  | inject (pkt : Packet)
  | lose (pick : Nat)

/-- The batch a core gets.  It asks for packets and calls `process` if there are some. -/
def received (picks : List Nat) (flight : List Packet) : Option (InPkts Packet) :=
  let batch := (pick picks flight).1
  if h : 0 < batch.length ∧ batch.length < 2 ^ 32 then some ⟨batch, h.1, h.2⟩ else none

variable {ι κ D R E S : Type} [DecidableEq ι] [DecidableEq κ] [Inhabited D] [Inhabited E]
  (V : Parties D R E S) (pl : Service.Platform)

/-- Machines that are set up, and no message yet. -/
def start (r : R) (s : S) : Exchange ι κ D R E S where
  server := Cores.start V.server r
  client := Cores.start V.client s
  flight := []

/-- The exchange afterwards, and how many messages a machine was handed. -/
def step (n : Exchange ι κ D R E S) : Act ι κ → Except Fault (Exchange ι κ D R E S × Nat)
  | .server i picks =>
    match received picks n.flight with
    | none => .ok (n, 0)
    | some inPkts =>
      (n.server.call V.server pl (.process i inPkts)).map fun (x, outs) =>
        ({ n with server := x, flight := (pick picks n.flight).2 ++ sent outs }, inPkts.pkts.length)
  | .client j picks =>
    match received picks n.flight with
    | none => .ok (n, 0)
    | some inPkts =>
      (n.client.call V.client pl (.process j inPkts)).map fun (x, outs) =>
        ({ n with client := x, flight := (pick picks n.flight).2 ++ sent outs }, inPkts.pkts.length)
  | .connect j dstIP srcPort ident pkt =>
    (n.client.call V.client pl (.connect j ident Client.States.Hello (V.create dstIP srcPort ident)
      ⟨[pkt], Nat.zero_lt_one, length_one_fits pkt⟩)).map fun (x, outs) =>
        ({ n with client := x, flight := n.flight ++ sent outs }, 0)
  | .inject pkt => .ok ({ n with flight := n.flight ++ [pkt] }, 0)
  | .lose k => .ok ({ n with flight := n.flight.eraseIdx k }, 0)

end Exchange

end MoonState
