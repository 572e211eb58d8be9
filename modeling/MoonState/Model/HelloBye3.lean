/-
HelloBye3, one struct for each connection (`include/helloBye3.hpp`,
`src/helloBye3.cpp`), and the same with the structs taken from a mempool
(`include/helloBye3MemPool.hpp`, `src/helloBye3MemPool.cpp`).

The functions are those of HelloBye2, written out again for each.  They change the
struct in place, and give it back where they end the connection.

The mempool is not part of the source.  `Mempool` is what the source relies on:
`get` either fails or hands out an object, and `put` takes one back.
-/
import MoonState.Model.HelloBye2

namespace MoonState

open Headers

namespace HelloBye3

/-! ### The server -/

namespace Server

open MoonState.Server

structure server where
  clientCookie : Int
  serverCookie : Int
deriving DecidableEq, Repr

def factory (_ : UInt64) (r : Rand) : Option (Ptr server × Rand) :=
  let (n, r) := rand r
  some (.to { serverCookie := (n % 256 : Nat), clientCookie := 0 }, r)

def runHello : Responder (Ptr server) Packet Rand := fun stateData pkt r =>
  match stateData with
  | .to s =>
    let m := pkt.data
    let ipv4 := sizeofEthernet
    let udp := IPv4.getPayload m ipv4
    let msg := Udp.getPayload udp
    if Msg.role m msg ≠ 0 then
      some ⟨.dangling, some States.Terminate, pkt, r, true⟩
    else if Msg.msg m msg ≠ 0 then
      some ⟨.dangling, some States.Terminate, pkt, r, true⟩
    else
      let s := { s with clientCookie := (Msg.cookie m msg).toNat }
      let m := Msg.setRole m msg Msg.ROLE_SERVER
      let m := Msg.setMsg m msg Msg.MSG_HELLO
      let m := Msg.setCookie m msg (UInt8.ofInt s.serverCookie)
      let m := setHeaders m ipv4 udp
      some ⟨.to s, some States.Bye, { pkt with data := m }, r, false⟩
  | _ => none

def runBye : Responder (Ptr server) Packet Rand := fun stateData pkt r =>
  match stateData with
  | .to s =>
    let m := pkt.data
    let ipv4 := sizeofEthernet
    let udp := IPv4.getPayload m ipv4
    let msg := Udp.getPayload udp
    if Msg.role m msg ≠ Msg.ROLE_CLIENT ∨ Msg.msg m msg ≠ Msg.MSG_BYE then
      some ⟨.dangling, some States.Terminate, pkt, r, true⟩
    else if ((Msg.cookie m msg).toNat : Int) ≠ s.serverCookie then
      some ⟨.dangling, some States.Terminate, pkt, r, true⟩
    else
      let m := Msg.setCookie m msg (UInt8.ofInt s.clientCookie)
      let m := Msg.setRole m msg Msg.ROLE_SERVER
      let m := Msg.setMsg m msg Msg.MSG_BYE
      let m := setHeaders m ipv4 udp
      some ⟨.dangling, some States.Terminate, { pkt with data := m }, r, false⟩
  | _ => none

/-- `HelloBye3_Server_init`. -/
def service : Service UInt64 (Ptr server) Packet Rand where
  responders := [some runHello, some runBye]
  small := by decide
  startStateID := States.Hello
  endStateID := States.Terminate
  factory := some factory
  listenToConnections := true
  ident := identify

end Server

/-! ### The client -/

namespace Client

open MoonState.Client

structure client where
  ident : UInt64
  srcIp : UInt32
  dstIp : UInt32
  clientCookie : Int
  serverCookie : Int
  srcPort : UInt16
  dstPort : UInt16
deriving DecidableEq, Repr

/-- The struct of `createHello`; the `State` is made of it by `connect`. -/
def createHello (srcIp dstIp : UInt32) (srcPort dstPort : UInt16) (ident : UInt64) (r : Rand) :
    Option (Ptr client × Rand) :=
  let (n, r) := rand r
  some (.to
    { srcIp := srcIp
      dstIp := dstIp
      srcPort := srcPort
      dstPort := dstPort
      ident := ident
      clientCookie := (n % 256 : Nat)
      serverCookie := 0 }, r)

def runHello : Responder (Ptr client) Packet Rand := fun stateData pkt r =>
  match stateData with
  | .to c =>
    let m := pkt.data.clear pkt.dataLen.toNat
    let ipv4 := sizeofEthernet
    let m := IPv4.setVersion m ipv4
    let m := IPv4.setIHL m ipv4 5
    let m := IPv4.setTtl m ipv4 64
    let m := IPv4.setLength m ipv4 (100 - 14)
    let m := IPv4.setDstIP m ipv4 c.dstIp
    let m := IPv4.setSrcIP m ipv4 c.srcIp
    let m := IPv4.setProtoUDP m ipv4
    let m := IPv4.clearChecksum m ipv4
    let udp := IPv4.getPayload m ipv4
    let msg := Udp.getPayload udp
    let m := Msg.setIdent m msg c.ident
    let m := Msg.setRole m msg Msg.ROLE_CLIENT
    let m := Msg.setCookie m msg (UInt8.ofInt c.clientCookie)
    let m := Msg.setMsg m msg Msg.MSG_HELLO
    let m := Ethernet.setEthertype m 0x0800
    let m := Udp.clearChecksum m udp
    let m := Udp.setDstPort m udp c.dstPort
    let m := Udp.setSrcPort m udp c.srcPort
    let m := Udp.setPayloadLength m udp 50
    some ⟨.to c, some States.Bye, { pkt with data := m }, r, false⟩
  | _ => none

def runBye : Responder (Ptr client) Packet Rand := fun stateData pkt r =>
  match stateData with
  | .to c =>
    let m := pkt.data
    let ipv4 := sizeofEthernet
    let udp := IPv4.getPayload m ipv4
    let msg := Udp.getPayload udp
    if Msg.role m msg ≠ Msg.ROLE_SERVER ∨ Msg.msg m msg ≠ Msg.MSG_HELLO then
      some ⟨.dangling, some States.Terminate, pkt, r, true⟩
    else
      let c := { c with serverCookie := (Msg.cookie m msg).toNat }
      let m := Msg.setCookie m msg (UInt8.ofInt c.serverCookie)
      let m := Msg.setRole m msg Msg.ROLE_CLIENT
      let m := Msg.setMsg m msg Msg.MSG_BYE
      let m := setHeaders m ipv4 udp
      some ⟨.to c, some States.RecvBye, { pkt with data := m }, r, false⟩
  | _ => none

def runRecvBye : Responder (Ptr client) Packet Rand := fun stateData pkt r =>
  match stateData with
  | .to c =>
    let m := pkt.data
    let ipv4 := sizeofEthernet
    let udp := IPv4.getPayload m ipv4
    let msg := Udp.getPayload udp
    if Msg.role m msg ≠ Msg.ROLE_SERVER ∨ Msg.msg m msg ≠ Msg.MSG_BYE then
      some ⟨.dangling, some States.Terminate, pkt, r, true⟩
    else if ((Msg.cookie m msg).toNat : Int) ≠ c.clientCookie then
      some ⟨.dangling, some States.Terminate, pkt, r, true⟩
    else
      some ⟨.dangling, some States.Terminate, pkt, r, true⟩
  | _ => none

/-- `HelloBye3_Client_init`. -/
def service : Service UInt64 (Ptr client) Packet Rand where
  responders := [some runHello, some runBye, some runRecvBye]
  small := by decide
  startStateID := 0
  endStateID := States.Terminate
  factory := none
  listenToConnections := false
  ident := identify

/-- `HelloBye3_Client_connect`. -/
def connect (pl : Service.Platform) (x : Instance UInt64 (Ptr client) Packet Rand)
    (srcIP dstIP : UInt32) (srcPort dstPort : UInt16) (ident : UInt64) (pkts : List Packet) :
    Except Fault (Instance UInt64 (Ptr client) Packet Rand × List (Packet × Bool)) :=
  x.connect service pl ident States.Hello (createHello srcIP dstIP srcPort dstPort ident) pkts

end Client

end HelloBye3

/-- A mempool: what `rte_mempool_get` makes of it, unless it is empty, and `rte_mempool_put`. -/
structure Mempool (M : Type) where
  get : M → Option M
  put : M → M

namespace HelloBye3MemPool

variable {M : Type} (mempool : Mempool M)

/-! ### The server, with a mempool -/

namespace Server

open MoonState.Server

structure server where
  clientCookie : Int
  serverCookie : Int
deriving DecidableEq, Repr

def factory (_ : UInt64) (r : Rand × M) : Option (Ptr server × Rand × M) :=
  match mempool.get r.2 with
  | none => none
  | some p =>
    let (n, rnd) := rand r.1
    some (.to { serverCookie := (n % 256 : Nat), clientCookie := 0 }, rnd, p)

def runHello : Responder (Ptr server) Packet (Rand × M) := fun stateData pkt r =>
  match stateData with
  | .to s =>
    let m := pkt.data
    let ipv4 := sizeofEthernet
    let udp := IPv4.getPayload m ipv4
    let msg := Udp.getPayload udp
    if Msg.role m msg ≠ 0 then
      some ⟨.dangling, some States.Terminate, pkt, (r.1, mempool.put r.2), true⟩
    else if Msg.msg m msg ≠ 0 then
      some ⟨.dangling, some States.Terminate, pkt, (r.1, mempool.put r.2), true⟩
    else
      let s := { s with clientCookie := (Msg.cookie m msg).toNat }
      let m := Msg.setRole m msg Msg.ROLE_SERVER
      let m := Msg.setMsg m msg Msg.MSG_HELLO
      let m := Msg.setCookie m msg (UInt8.ofInt s.serverCookie)
      let m := setHeaders m ipv4 udp
      some ⟨.to s, some States.Bye, { pkt with data := m }, r, false⟩
  | _ => none

def runBye : Responder (Ptr server) Packet (Rand × M) := fun stateData pkt r =>
  match stateData with
  | .to s =>
    let m := pkt.data
    let ipv4 := sizeofEthernet
    let udp := IPv4.getPayload m ipv4
    let msg := Udp.getPayload udp
    if Msg.role m msg ≠ Msg.ROLE_CLIENT ∨ Msg.msg m msg ≠ Msg.MSG_BYE then
      some ⟨.dangling, some States.Terminate, pkt, (r.1, mempool.put r.2), true⟩
    else if ((Msg.cookie m msg).toNat : Int) ≠ s.serverCookie then
      some ⟨.dangling, some States.Terminate, pkt, (r.1, mempool.put r.2), true⟩
    else
      let m := Msg.setCookie m msg (UInt8.ofInt s.clientCookie)
      let m := Msg.setRole m msg Msg.ROLE_SERVER
      let m := Msg.setMsg m msg Msg.MSG_BYE
      let m := setHeaders m ipv4 udp
      some ⟨.dangling, some States.Terminate, { pkt with data := m }, (r.1, mempool.put r.2), false⟩
  | _ => none

/-- `HelloBye3MemPool_Server_init`. -/
def service : Service UInt64 (Ptr server) Packet (Rand × M) where
  responders := [some (runHello mempool), some (runBye mempool)]
  small := by simp
  startStateID := States.Hello
  endStateID := States.Terminate
  factory := some (factory mempool)
  listenToConnections := true
  ident := identify

end Server

/-! ### The client, with a mempool -/

namespace Client

open MoonState.Client

structure client where
  ident : UInt64
  srcIp : UInt32
  dstIp : UInt32
  clientCookie : Int
  serverCookie : Int
  srcPort : UInt16
  dstPort : UInt16
deriving DecidableEq, Repr

/-- The struct of `createHello`. -/
def createHello (srcIp dstIp : UInt32) (srcPort dstPort : UInt16) (ident : UInt64) (r : Rand × M) :
    Option (Ptr client × Rand × M) :=
  match mempool.get r.2 with
  | none => none
  | some p =>
    let (n, rnd) := rand r.1
    some (.to
      { srcIp := srcIp
        dstIp := dstIp
        srcPort := srcPort
        dstPort := dstPort
        ident := ident
        clientCookie := (n % 256 : Nat)
        serverCookie := 0 }, rnd, p)

def runHello : Responder (Ptr client) Packet (Rand × M) := fun stateData pkt r =>
  match stateData with
  | .to c =>
    let m := pkt.data.clear pkt.dataLen.toNat
    let ipv4 := sizeofEthernet
    let m := IPv4.setVersion m ipv4
    let m := IPv4.setIHL m ipv4 5
    let m := IPv4.setTtl m ipv4 64
    let m := IPv4.setLength m ipv4 (100 - 14)
    let m := IPv4.setDstIP m ipv4 c.dstIp
    let m := IPv4.setSrcIP m ipv4 c.srcIp
    let m := IPv4.setProtoUDP m ipv4
    let m := IPv4.clearChecksum m ipv4
    let udp := IPv4.getPayload m ipv4
    let msg := Udp.getPayload udp
    let m := Msg.setIdent m msg c.ident
    let m := Msg.setRole m msg Msg.ROLE_CLIENT
    let m := Msg.setCookie m msg (UInt8.ofInt c.clientCookie)
    let m := Msg.setMsg m msg Msg.MSG_HELLO
    let m := Ethernet.setEthertype m 0x0800
    let m := Udp.clearChecksum m udp
    let m := Udp.setDstPort m udp c.dstPort
    let m := Udp.setSrcPort m udp c.srcPort
    let m := Udp.setPayloadLength m udp 50
    some ⟨.to c, some States.Bye, { pkt with data := m }, r, false⟩
  | _ => none

def runBye : Responder (Ptr client) Packet (Rand × M) := fun stateData pkt r =>
  match stateData with
  | .to c =>
    let m := pkt.data
    let ipv4 := sizeofEthernet
    let udp := IPv4.getPayload m ipv4
    let msg := Udp.getPayload udp
    if Msg.role m msg ≠ Msg.ROLE_SERVER ∨ Msg.msg m msg ≠ Msg.MSG_HELLO then
      some ⟨.dangling, some States.Terminate, pkt, (r.1, mempool.put r.2), true⟩
    else
      let c := { c with serverCookie := (Msg.cookie m msg).toNat }
      let m := Msg.setCookie m msg (UInt8.ofInt c.serverCookie)
      let m := Msg.setRole m msg Msg.ROLE_CLIENT
      let m := Msg.setMsg m msg Msg.MSG_BYE
      let m := setHeaders m ipv4 udp
      some ⟨.to c, some States.RecvBye, { pkt with data := m }, r, false⟩
  | _ => none

def runRecvBye : Responder (Ptr client) Packet (Rand × M) := fun stateData pkt r =>
  match stateData with
  | .to c =>
    let m := pkt.data
    let ipv4 := sizeofEthernet
    let udp := IPv4.getPayload m ipv4
    let msg := Udp.getPayload udp
    if Msg.role m msg ≠ Msg.ROLE_SERVER ∨ Msg.msg m msg ≠ Msg.MSG_BYE then
      some ⟨.dangling, some States.Terminate, pkt, (r.1, mempool.put r.2), true⟩
    else if ((Msg.cookie m msg).toNat : Int) ≠ c.clientCookie then
      some ⟨.dangling, some States.Terminate, pkt, (r.1, mempool.put r.2), true⟩
    else
      some ⟨.dangling, some States.Terminate, pkt, (r.1, mempool.put r.2), true⟩
  | _ => none

/-- `HelloBye3MemPool_Client_init`. -/
def service : Service UInt64 (Ptr client) Packet (Rand × M) where
  responders := [some runHello, some (runBye mempool), some (runRecvBye mempool)]
  small := by simp
  startStateID := 0
  endStateID := States.Terminate
  factory := none
  listenToConnections := false
  ident := identify

/-- `HelloBye3MemPool_Client_connect`. -/
def connect (pl : Service.Platform) (x : Instance UInt64 (Ptr client) Packet (Rand × M))
    (srcIP dstIP : UInt32) (srcPort dstPort : UInt16) (ident : UInt64) (pkts : List Packet) :
    Except Fault (Instance UInt64 (Ptr client) Packet (Rand × M) × List (Packet × Bool)) :=
  x.connect (service mempool) pl ident States.Hello
    (createHello mempool srcIP dstIP srcPort dstPort ident) pkts

end Client

end HelloBye3MemPool

end MoonState
