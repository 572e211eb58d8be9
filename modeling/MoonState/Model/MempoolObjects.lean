/-
HelloBye3 with the structs in their mempools (`src/helloBye3MemPool.cpp`).

Here `state.stateData` is a pointer.  There is a mempool for the structs of all
servers and one for those of all clients, and an object stays where it is when it is
given back.  An object that is handed to the wrong mempool counts as misused there.

A program may run any number of servers and clients.  Machines with the same pool
find each other's connections; `Apart` says that no server shares one with a client.
-/
import MoonState.Lib.Arena
import MoonState.Model.Fleet
import MoonState.Model.HelloBye3

namespace MoonState.HelloBye3MemPool

open Headers

/-- What `stateData` points to: an object of one of the mempools. -/
inductive Ref (A : Type)
  | null
  | server (a : A)
  | client (a : A)
deriving DecidableEq

instance {A : Type} : Inhabited (Ref A) := ⟨.null⟩

/-- What the servers and the clients of a program hold. -/
structure Mempools (A M : Type) where
  rnd : Rand
  server : Arena A M Server.server
  client : Arena A M Client.client

variable {A M : Type} [DecidableEq A] (mempool : Allocator A M)

namespace Mempools

/-- `rte_mempool_put(Server::mempool, s)`. -/
def putServer (r : Mempools A M) : Ref A → Mempools A M
  | .server a => { r with server := r.server.put mempool a }
  | _ => { r with server := { r.server with misused := true } }

/-- `rte_mempool_put(Client::mempool, c)`. -/
def putClient (r : Mempools A M) : Ref A → Mempools A M
  | .client a => { r with client := r.client.put mempool a }
  | _ => { r with client := { r.client with misused := true } }

/-- The object was taken and not given back. -/
def Out (r : Mempools A M) : Ref A → Prop
  | .null => False
  | .server a => a ∈ r.server.taken
  | .client a => a ∈ r.client.taken

end Mempools

namespace Objects

/-! ### The server -/

namespace Server

open MoonState.Server

def factory (_ : UInt64) (r : Mempools A M) : Option (Ref A × Mempools A M) :=
  match r.server.get mempool with
  | none => none
  | some (s, server) =>
    let (n, rnd) := rand r.rnd
    some (.server s, { r with
      rnd := rnd
      server := server.write s { serverCookie := (n % 256 : Nat), clientCookie := 0 } })

def runHello : Responder (Ref A) Packet (Mempools A M) := fun stateData pkt r =>
  let m := pkt.data
  let ipv4 := sizeofEthernet
  let udp := IPv4.getPayload m ipv4
  let msg := Udp.getPayload udp
  if Msg.role m msg ≠ 0 then
    some ⟨stateData, some States.Terminate, pkt, r.putServer mempool stateData, true⟩
  else if Msg.msg m msg ≠ 0 then
    some ⟨stateData, some States.Terminate, pkt, r.putServer mempool stateData, true⟩
  else
    match stateData with
    | .server a =>
      let s := { r.server.mem a with clientCookie := (Msg.cookie m msg).toNat }
      let r := { r with server := r.server.write a s }
      let m := Msg.setRole m msg Msg.ROLE_SERVER
      let m := Msg.setMsg m msg Msg.MSG_HELLO
      let r := { r with server := r.server.touch a }
      let m := Msg.setCookie m msg (UInt8.ofInt (r.server.mem a).serverCookie)
      let m := setHeaders m ipv4 udp
      some ⟨stateData, some States.Bye, { pkt with data := m }, r, false⟩
    | _ => none

def runBye : Responder (Ref A) Packet (Mempools A M) := fun stateData pkt r =>
  let m := pkt.data
  let ipv4 := sizeofEthernet
  let udp := IPv4.getPayload m ipv4
  let msg := Udp.getPayload udp
  if Msg.role m msg ≠ Msg.ROLE_CLIENT ∨ Msg.msg m msg ≠ Msg.MSG_BYE then
    some ⟨stateData, some States.Terminate, pkt, r.putServer mempool stateData, true⟩
  else
    match stateData with
    | .server a =>
      let r := { r with server := r.server.touch a }
      if ((Msg.cookie m msg).toNat : Int) ≠ (r.server.mem a).serverCookie then
        some ⟨stateData, some States.Terminate, pkt, r.putServer mempool stateData, true⟩
      else
        let r := { r with server := r.server.touch a }
        let m := Msg.setCookie m msg (UInt8.ofInt (r.server.mem a).clientCookie)
        let m := Msg.setRole m msg Msg.ROLE_SERVER
        let m := Msg.setMsg m msg Msg.MSG_BYE
        let m := setHeaders m ipv4 udp
        some ⟨stateData, some States.Terminate, { pkt with data := m },
          r.putServer mempool stateData, false⟩
    | _ => none

/-- `HelloBye3MemPool_Server_init`. -/
def service : Service UInt64 (Ref A) Packet (Mempools A M) where
  responders := [some (runHello mempool), some (runBye mempool)]
  small := by simp
  startStateID := States.Hello
  endStateID := States.Terminate
  factory := some (factory mempool)
  listenToConnections := true
  ident := identify

end Server

/-! ### The client -/

namespace Client

open MoonState.Client

/-- The struct of `createHello`. -/
def createHello (srcIp dstIp : UInt32) (srcPort dstPort : UInt16) (ident : UInt64)
    (r : Mempools A M) : Option (Ref A × Mempools A M) :=
  match r.client.get mempool with
  | none => none
  | some (c, client) =>
    let (n, rnd) := rand r.rnd
    some (.client c, { r with
      rnd := rnd
      client := client.write c
        { srcIp := srcIp
          dstIp := dstIp
          srcPort := srcPort
          dstPort := dstPort
          ident := ident
          clientCookie := (n % 256 : Nat)
          serverCookie := 0 } })

/-- The fields are read one after the other, which is one use of the object. -/
def runHello : Responder (Ref A) Packet (Mempools A M) := fun stateData pkt r =>
  match stateData with
  | .client a =>
    let r := { r with client := r.client.touch a }
    let c := r.client.mem a
    let m := pkt.data.clear pkt.dataLen.toNat
    let ipv4 := sizeofEthernet
    let m := IPv4.setVersion m ipv4
    let m := IPv4.setIHL m ipv4 5
    let m := IPv4.setTtl m ipv4 64
    let m := IPv4.setLength m ipv4 (100 - 14)
    let m := IPv4.setDstIP m ipv4 c.dstIp
    let m := IPv4.setSrcIP m ipv4 c.srcIp
    let m := IPv4.setProtoUDP m ipv4
    let m := IPv4.clearChecksum m ipv4
    let udp := IPv4.getPayload m ipv4
    let msg := Udp.getPayload udp
    let m := Msg.setIdent m msg c.ident
    let m := Msg.setRole m msg Msg.ROLE_CLIENT
    let m := Msg.setCookie m msg (UInt8.ofInt c.clientCookie)
    let m := Msg.setMsg m msg Msg.MSG_HELLO
    let m := Ethernet.setEthertype m 0x0800
    let m := Udp.clearChecksum m udp
    let m := Udp.setDstPort m udp c.dstPort
    let m := Udp.setSrcPort m udp c.srcPort
    let m := Udp.setPayloadLength m udp 50
    some ⟨stateData, some States.Bye, { pkt with data := m }, r, false⟩
  | _ => none

def runBye : Responder (Ref A) Packet (Mempools A M) := fun stateData pkt r =>
  let m := pkt.data
  let ipv4 := sizeofEthernet
  let udp := IPv4.getPayload m ipv4
  let msg := Udp.getPayload udp
  if Msg.role m msg ≠ Msg.ROLE_SERVER ∨ Msg.msg m msg ≠ Msg.MSG_HELLO then
    some ⟨stateData, some States.Terminate, pkt, r.putClient mempool stateData, true⟩
  else
    match stateData with
    | .client a =>
      let c := { r.client.mem a with serverCookie := (Msg.cookie m msg).toNat }
      let r := { r with client := r.client.write a c }
      let r := { r with client := r.client.touch a }
      let m := Msg.setCookie m msg (UInt8.ofInt (r.client.mem a).serverCookie)
      let m := Msg.setRole m msg Msg.ROLE_CLIENT
      let m := Msg.setMsg m msg Msg.MSG_BYE
      let m := setHeaders m ipv4 udp
      some ⟨stateData, some States.RecvBye, { pkt with data := m }, r, false⟩
    | _ => none

def runRecvBye : Responder (Ref A) Packet (Mempools A M) := fun stateData pkt r =>
  let m := pkt.data
  let ipv4 := sizeofEthernet
  let udp := IPv4.getPayload m ipv4
  let msg := Udp.getPayload udp
  if Msg.role m msg ≠ Msg.ROLE_SERVER ∨ Msg.msg m msg ≠ Msg.MSG_BYE then
    some ⟨stateData, some States.Terminate, pkt, r.putClient mempool stateData, true⟩
  else
    match stateData with
    | .client a =>
      let r := { r with client := r.client.touch a }
      if ((Msg.cookie m msg).toNat : Int) ≠ (r.client.mem a).clientCookie then
        -- the cookie is read once more, for the message
        let r := { r with client := r.client.touch a }
        some ⟨stateData, some States.Terminate, pkt, r.putClient mempool stateData, true⟩
      else
        some ⟨stateData, some States.Terminate, pkt, r.putClient mempool stateData, true⟩
    | _ => none

/-- `HelloBye3MemPool_Client_init`. -/
def service : Service UInt64 (Ref A) Packet (Mempools A M) where
  responders := [some runHello, some (runBye mempool), some (runRecvBye mempool)]
  small := by simp
  startStateID := 0
  endStateID := States.Terminate
  factory := none
  listenToConnections := false
  ident := identify

end Client

/-! ### Servers and clients in one program -/

/-- The machine of a role. -/
def service : Role → Service UInt64 (Ref A) Packet (Mempools A M)
  | .server => Server.service mempool
  | .client => Client.service mempool

variable {ι κ P : Type} [DecidableEq ι] [DecidableEq κ] [DecidableEq P] (S : Deployment ι κ)

/-- Packets are whatever arrives, and batches any array of them.  Connections are opened by clients,
with an ident none of which is in the pool. -/
def Can (x : Fleet ι κ UInt64 P (Ref A) Packet (Mempools A M)) :
    Fleet.Act ι UInt64 P (Ref A) Packet (Mempools A M) → Prop
  | .arrive _ => True
  | .process _ _ => True
  | .connect i ident state create _ => S.role i = .client ∧
    (x.connPool (S.poolOf i)).lookup ident = none ∧ state = MoonState.Client.States.Hello ∧
    ∃ srcIp dstIp srcPort dstPort,
      create = Client.createHello mempool srcIp dstIp srcPort dstPort ident
  | .between f => ∀ r, (f r).server = r.server ∧ (f r).client = r.client

/-- One step of the program. -/
def Does (x : Fleet ι κ UInt64 P (Ref A) Packet (Mempools A M))
    (a : Fleet.Act ι UInt64 P (Ref A) Packet (Mempools A M))
    (y : Fleet ι κ UInt64 P (Ref A) Packet (Mempools A M)) : Prop :=
  Fleet.Does (S.env identify) S.poolOf (Can mempool S) x a y

end Objects

end MoonState.HelloBye3MemPool
