/-
A HelloBye client and a server, on a network.

The client is configured and opens connections, to any server and from any port.
Every message gets to the other machine once, in whatever order and in whatever
batches: none is lost and none is doubled.

`opened`, `fromClient`, `fromServer` and `verdicts` only look on.  They keep the
IDs `connect` registered, what was sent in which connection, and what the
functions decided.
-/
import MoonState.Model.HelloBye
import MoonState.Model.HelloNet

namespace MoonState.HelloBye

open Headers HelloBye2 IPv4_5TupleL2Ident

/-- What a function makes of the packet it gets. -/
inductive Verdict
  /-- a hello is answered -/
  | greets (cID : ConnectionID)
  /-- the server answers a goodbye, in a session with these cookies -/
  | accepts (cID : ConnectionID) (clientCookie serverCookie : Int)
  /-- the client gets its cookie back, in a session with these cookies; `sent` is the mark of the
  packet -/
  | completes (cID : ConnectionID) (clientCookie serverCookie : Int) (sent : Bool)
  | rejects (cID : ConnectionID)
deriving DecidableEq, Repr

/-- Where a packet has its message. -/
def message (pkt : Packet) : Nat := Udp.getPayload (IPv4.getPayload pkt.data sizeofEthernet)

/-- The checks of `HelloByeServerHello::fun` and `HelloByeServerBye::fun`. -/
def Server.verdict (cID : ConnectionID) (st : State (Ptr Server.Object)) (pkt : Packet) : Verdict :=
  match st.stateData with
  | .to (.hello _) =>
    if Says pkt.data (message pkt) "CLIENT HELLO:" then .greets cID else .rejects cID
  | .to (.bye t) =>
    if Says pkt.data (message pkt) "CLIENT BYE:" ∧
        cookieAfter pkt.data (message pkt) "CLIENT BYE:" = t.serverCookie then
      .accepts cID t.clientCookie t.serverCookie
    else .rejects cID
  | _ => .rejects cID

/-- The checks of `HelloByeClientBye::fun` and `HelloByeClientRecvBye::fun`.  The state tells which
class the object is taken for. -/
def Client.verdict (cID : ConnectionID) (st : State (Ptr Block)) (pkt : Packet) (sent : Bool) :
    Verdict :=
  match st.stateData with
  | .to b =>
    if st.state = HelloByeClient.Bye then
      if Says pkt.data (message pkt) "SERVER HELLO:" then .greets cID else .rejects cID
    else if st.state = HelloByeClient.RecvBye then
      if Says pkt.data (message pkt) "SERVER BYE:" ∧
          cookieAfter pkt.data (message pkt) "SERVER BYE:" = b.asRecvBye.clientCookie then
        .completes cID b.asRecvBye.clientCookie b.asRecvBye.serverCookie sent
      else .rejects cID
    else .rejects cID
  | _ => .rejects cID

structure Net where
  client : Instance ConnectionID (Ptr Block) Packet Program
  server : Instance ConnectionID (Ptr Server.Object) Packet Program
  toServer : List Packet
  toClient : List Packet
  /-- the IDs `connect` registered -/
  opened : List ConnectionID
  /-- what the client sent, with the ID its connection is registered under -/
  fromClient : List (ConnectionID × Packet)
  fromServer : List (ConnectionID × Packet)
  verdicts : List Verdict

/-- What happens next. -/
inductive Act
  /-- `HelloByeClient_config` -/
  | config (srcIP : UInt32) (dstPort : UInt16)
  /-- the client opens a connection, with a packet to write to -/
  | connect (dstIP : UInt32) (srcPort : UInt16) (pkt : Packet)
  /-- the client gets a batch of the messages in flight -/
  | client (picks : List Nat)
  | server (picks : List Nat)

/-- What is sent, each with the connection of the packet it answers. -/
def replies (bs : List Packet) (outs : List (Packet × Bool)) : List (ConnectionID × Packet) :=
  (bs.zip outs).filterMap fun x =>
    if x.2.2 then (IPv4_5TupleL2Ident.identify x.1.data).map fun cID => (cID, x.2.1) else none

namespace Net

/-- The two programs, before they have done anything. -/
def start (client server : Program) : Net where
  client := Instance.start Client.service client
  server := Instance.start Server.service server
  toServer := []
  toClient := []
  opened := []
  fromClient := []
  fromServer := []
  verdicts := []

variable (pl : Service.Platform)

def step (n : Net) : Act → Except Fault Net
  | .config srcIP dstPort =>
    .ok { n with client := { n.client with rest := n.client.rest.setConfig srcIP dstPort } }
  | .connect dstIP srcPort pkt =>
    match n.client.rest.config with
    | none => .error .exception
    | some config =>
      (Client.connect pl n.client dstIP srcPort [pkt]).map fun (x, outs) => { n with
        client := x
        toServer := n.toServer ++ sent outs
        opened := Client.cID config dstIP srcPort :: n.opened
        fromClient := n.fromClient ++ (sent outs).map fun q => (Client.cID config dstIP srcPort, q) }
  | .client picks =>
    let batch := (pick picks n.toClient).1
    (n.client.process Client.service pl batch).map fun (x, outs) => { n with
      client := x
      toClient := (pick picks n.toClient).2
      toServer := n.toServer ++ sent outs
      fromClient := n.fromClient ++ replies batch outs
      verdicts := n.verdicts ++ (n.client.calls Client.service pl batch).map fun c =>
        Client.verdict c.1 c.2.1 c.2.2.1 c.2.2.2 }
  | .server picks =>
    let batch := (pick picks n.toServer).1
    (n.server.process Server.service pl batch).map fun (x, outs) => { n with
      server := x
      toServer := (pick picks n.toServer).2
      toClient := n.toClient ++ sent outs
      fromServer := n.fromServer ++ replies batch outs
      verdicts := n.verdicts ++ (n.server.calls Server.service pl batch).map fun c =>
        Server.verdict c.1 c.2.1 c.2.2.1 }

/-- One step takes the net from one state to the next. -/
def Does (n : Net) (a : Act) (n' : Net) : Prop := n.step pl a = .ok n'

end Net

end MoonState.HelloBye
