/-
Astraeus clients and a server, on a network.

The client has machines on any number of cores: any of them opens connections, and the
network card hands a frame to the core its connection is steered to.  The server is one
machine.  What a side sends stays on the network, which delivers it as often as it likes,
in any order and in any batches, or never.  A frame arrives in a buffer; on its way the
MAC addresses, the TTL and the checksums change, and what the buffer holds behind the
frame is not what the sender's did.

`Dialog` is one connection by itself: two parties that call the library, and the payloads
between them.
-/
import MoonState.Model.Astraeus

namespace MoonState

open Headers
open DTLS (Mbuf allHeaderLength)
open IPv4_5TupleL2Ident (ConnectionID)

namespace Astraeus

variable {ι H L : Type} {noncelen : Nat}

/-! ### The network -/

structure Net (ι H L : Type) (noncelen : Nat) where
  client : Astraeus_Client.Program ι H L noncelen
  server : Instance ConnectionID (Ptr (astraeusClient H)) Mbuf L
  fromClient : List Mbuf
  fromServer : List Mbuf

/-- `getUdpPacket():fill()`, which the buffers of new connections come from. -/
def filled (pkt : Mbuf) : Mbuf :=
  { pkt with data := IPv4.setProtoUDP (IPv4.setIHL (IPv4.setVersion pkt.data 14) 14 5) 14 }

/-- The bytes of a frame that arrive as they were sent. -/
def kept (frame : Mbuf) (j : Nat) : Bool :=
  decide (12 ≤ j ∧ j < frame.dataLen.toNat) && !([22, 24, 25, 40, 41] : List Nat).contains j

/-- A frame, in the buffer it arrives in. -/
def delivered (frame buf : Mbuf) : Mbuf :=
  { buf with
    data := fun j => if kept frame j then frame.data j else buf.data j
    dataLen := frame.dataLen }

/-- A frame the network delivers, and a buffer for it. -/
structure Delivery where
  frame : Nat
  buf : Mbuf

/-- What arrives.  A frame that ends in its headers does not. -/
def arriving (log : List Mbuf) (ds : List Delivery) : List Mbuf :=
  ds.filterMap fun d => (log[d.frame]?).bind fun frame =>
    if allHeaderLength ≤ frame.dataLen.toNat then some (delivered frame d.buf) else none

/-- `inPkts` and `inCount`; there is no call without packets. -/
def batch (pkts : List Mbuf) : Option (InPkts Mbuf) :=
  if h : 0 < pkts.length ∧ pkts.length < 2 ^ 32 then some ⟨pkts, h.1, h.2⟩ else none

/-- The packets that are sent. -/
def sentPkts (outs : List (Mbuf × Bool)) : List Mbuf := (outs.filter Prod.snd).map Prod.fst

inductive Act (ι : Type)
  | connect (config : Astraeus_Client.Config) (i : ι) (inPkts : List Mbuf) (srcIP : UInt32)
    (srcPort : UInt16)
  | client (i : ι) (ds : List Delivery)
  | server (ds : List Delivery)

namespace Net

variable [DecidableEq ι] (o : AstraeusProto H L noncelen) (pl : Service.Platform)
  (steer : ConnectionID → ι)

/-- Machines that are set up, and nothing sent. -/
def start (libs : ι → L) (lib : L) : Net ι H L noncelen where
  client := Astraeus_Client.init o libs
  server := Instance.start (Astraeus_Server.service o) lib
  fromClient := []
  fromServer := []

/-- The packet is for this core. -/
def steered (i : ι) (pkt : Mbuf) : Bool :=
  match IPv4_5TupleL2Ident.identify pkt.data with
  | none => true
  | some id => decide (steer id = i)

def step (n : Net ι H L noncelen) : Act ι → Except Fault (Net ι H L noncelen)
  | .connect config i inPkts srcIP srcPort =>
    let (x, pkts) := Astraeus_Client.connect o config i srcIP srcPort 0 (inPkts.map filled) n.client
    .ok { n with client := x, fromClient := n.fromClient ++ pkts }
  | .client i ds =>
    match batch ((arriving n.fromServer ds).filter (steered steer i)) with
    | none => .ok n
    | some inPkts => (Astraeus_Client.process o pl i inPkts n.client).map fun (x, outs) =>
      { n with client := x, fromClient := n.fromClient ++ sentPkts outs }
  | .server ds =>
    match batch (arriving n.fromClient ds) with
    | none => .ok n
    | some inPkts => (n.server.process (Astraeus_Server.service o) pl inPkts.pkts).map
      fun (x, outs) => { n with server := x, fromServer := n.fromServer ++ sentPkts outs }

end Net

/-! ### One connection -/

/-- The handles of a connection, and all payloads that were sent. -/
structure Dialog (H : Type) where
  /-- in the table of the core the connection is steered to -/
  client : Option H
  pool : Option H
  server : Option H
  toServer : List (List UInt8)
  toClient : List (List UInt8)

namespace Dialog

def empty : Dialog H := ⟨none, none, none, [], []⟩

/-- The payload that is in a frame when the library has written to its buffer. -/
def written (m : Mem) (bytes : List UInt8) (sendLen : Int) : List UInt8 :=
  (m.write 0 bytes).read 0 ((UInt16.ofInt (sendLen + allHeaderLength)).toNat - allHeaderLength)

variable (o : AstraeusProto H L noncelen)

/-- What a call to the library leads to: the handle, if the handshake goes on, and the payload, if
there is one to send. -/
def after (m : Mem) (r : H × List UInt8 × Int) : Option H × List (List UInt8) :=
  (if o.handshakeOngoing r.1 then some r.1 else none,
    if r.2.2 ≤ 0 then [] else [written m r.2.1 r.2.2])

inductive Party
  | client
  | server

/-- What happens in a connection.  A payload arrives in a buffer. -/
inductive Step : Dialog H → Party → Dialog H → Prop
  /-- the client opens the connection; if it is open already, the new handle is not kept -/
  | opens (d : Dialog H) (m : Mem) (lib : L) (nonce : BitVec (8 * noncelen))
      {r : H × List UInt8 × Int}
      (hr : r = o.generateInitGivenHandleAndNonce (o.generateHandleGivenKey lib).1 nonce) :
      Step d .client { d with
        pool := d.pool.or (some r.1)
        toServer := d.toServer ++ [written m r.2.1 r.2.2] }
  /-- a payload gets to the server, which makes a handle if it has none -/
  | server (d : Dialog H) {m : Mem} {msg : List UInt8} (hm : m.read 0 msg.length = msg)
      (hmsg : msg ∈ d.toServer) {handle : H}
      (hhandle : d.server = some handle ∨
        d.server = none ∧ ∃ lib, handle = (o.generateHandleGivenKey lib).1) :
      Step d .server { d with
        server := (after o m (o.handleHandshakeServer handle m)).1
        toClient := d.toClient ++ (after o m (o.handleHandshakeServer handle m)).2 }
  /-- a payload gets to the client, which takes the handle out of the pool the first time -/
  | client (d : Dialog H) {m : Mem} {msg : List UInt8} (hm : m.read 0 msg.length = msg)
      (hmsg : msg ∈ d.toClient) {handle : H} {pool : Option H}
      (hhandle : d.client = some handle ∧ pool = d.pool ∨
        d.client = none ∧ d.pool = some handle ∧ pool = none) :
      Step d .client { d with
        client := (after o m (o.handleHandshakeClient handle m)).1
        pool := pool
        toServer := d.toServer ++ (after o m (o.handleHandshakeClient handle m)).2 }

end Dialog

end Astraeus

end MoonState
