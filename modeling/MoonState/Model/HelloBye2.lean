/-
HelloBye2, one class for each state (`include/helloBye2Proto.hpp`,
`src/helloBye2Proto.cpp`).

The client sends a hello with a cookie of its own, the server answers with another
cookie, the client sends that one back, and the server answers with the client's.

`state.stateData` points to an object of the class of the state, which `run`
replaces when the state changes.  A member that the constructor leaves alone is
`none` until it is written, and reading it before, or using an object of another
class or one that was deleted, is no answer.
-/
import MoonState.Model.Headers
import MoonState.Model.Responder

namespace MoonState

/-- What a `void *` points to. -/
inductive Ptr (α : Type)
  | null
  /-- an object that was deleted -/
  | dangling
  | to (object : α)
deriving DecidableEq, Repr

instance {α : Type} : Inhabited (Ptr α) := ⟨.null⟩

/-- The bytes from `getData()` on, and `getDataLen()`. -/
structure Packet where
  data : Mem
  dataLen : UInt16

instance : Inhabited Packet := ⟨⟨fun _ => 0, 0⟩⟩

/-- The numbers `rand` is going to return. -/
abbrev Rand := Nat → Nat

def rand (r : Rand) : Nat × Rand := (r 0, fun n => r (n + 1))

open Headers

/-! ### What the implementations declare alike -/

/- The fields of `struct msg`, which is packed; `ident` is in the order of the host. -/
namespace Msg

def ROLE_CLIENT : UInt8 := 0

def ROLE_SERVER : UInt8 := 1

def MSG_HELLO : UInt8 := 0

def MSG_BYE : UInt8 := 1

def ident (m : Mem) (msg : Nat) : UInt64 := m.get64 msg

def role (m : Mem) (msg : Nat) : UInt8 := m (msg + 8)

def msg (m : Mem) (msg : Nat) : UInt8 := m (msg + 9)

def cookie (m : Mem) (msg : Nat) : UInt8 := m (msg + 10)

def setIdent (m : Mem) (msg : Nat) (v : UInt64) : Mem := m.set64 msg v

def setRole (m : Mem) (msg : Nat) (v : UInt8) : Mem := m.set8 (msg + 8) v

def setMsg (m : Mem) (msg : Nat) (v : UInt8) : Mem := m.set8 (msg + 9) v

def setCookie (m : Mem) (msg : Nat) (v : UInt8) : Mem := m.set8 (msg + 10) v

end Msg

/-- `Identifier::identify`; `none` where it throws. -/
def identify (pkt : Packet) : Option UInt64 :=
  let m := pkt.data
  let ipv4 := sizeofEthernet
  if Ethernet.getEthertype m ≠ Ethernet.ETHERTYPE_IPv4 then none
  else if IPv4.proto m ipv4 ≠ IPv4.PROTO_UDP then none
  else some (Msg.ident m (Udp.getPayload (IPv4.getPayload m ipv4)))

/-- Where a packet has its message, and what kind it is. -/
def Packet.udp (p : Packet) : Nat := IPv4.getPayload p.data sizeofEthernet

def Packet.msg (p : Packet) : Nat := Udp.getPayload p.udp

def Packet.Says (p : Packet) (role msg : UInt8) : Prop :=
  Msg.role p.data p.msg = role ∧ Msg.msg p.data p.msg = msg

instance (p : Packet) (role msg : UInt8) : Decidable (p.Says role msg) :=
  inferInstanceAs (Decidable (_ ∧ _))

def Packet.cookie (p : Packet) : UInt8 := Msg.cookie p.data p.msg

/-- "Set the IP header stuff", the lines at the end of every function that answers a packet. -/
def setHeaders (m : Mem) (ipv4 udp : Nat) : Mem :=
  let m := IPv4.setTtl m ipv4 64
  let tmp := IPv4.getDstIP m ipv4
  let m := IPv4.setDstIP m ipv4 (IPv4.getSrcIP m ipv4)
  let m := IPv4.setSrcIP m ipv4 tmp
  let m := IPv4.clearChecksum m ipv4
  let m := Udp.clearChecksum m udp
  let tmp16 := Udp.getDstPort m udp
  let m := Udp.setDstPort m udp (Udp.getSrcPort m udp)
  Udp.setSrcPort m udp tmp16

namespace Server.States

def Hello : StateID := 0

def Bye : StateID := 1

def Terminate : StateID := 2

end Server.States

namespace Client.States

def Hello : StateID := 0

def Bye : StateID := 1

def RecvBye : StateID := 2

def Terminate : StateID := 3

end Client.States

namespace HelloBye2

/-! ### The server -/

namespace Server

open MoonState.Server

structure Hello where
  clientCookie : Option UInt8
  serverCookie : UInt8
deriving DecidableEq, Repr

structure Bye where
  clientCookie : Int
  serverCookie : Int
deriving DecidableEq, Repr

/-- What `state.stateData` points to. -/
inductive Object
  | hello (t : Hello)
  | bye (t : Bye)
deriving DecidableEq, Repr

/-- The constructor. -/
def Hello.new (r : Rand) : Hello × Rand :=
  let (n, r) := rand r
  ({ clientCookie := none, serverCookie := UInt8.ofNat (n % 256) }, r)

/-- The constructor. -/
def Bye.new (h : Hello) : Option Bye :=
  match h.clientCookie with
  | none => none
  | some c => some { clientCookie := c.toNat, serverCookie := h.serverCookie.toNat }

def factory (_ : UInt64) (r : Rand) : Option (Ptr Object × Rand) :=
  let (t, r) := Hello.new r
  some (.to (.hello t), r)

/-- `Hello::fun`. -/
def Hello.func (this : Hello) (pkt : Packet) (r : Rand) : Answer Hello Packet Rand :=
  let m := pkt.data
  let ipv4 := sizeofEthernet
  let udp := IPv4.getPayload m ipv4
  let msg := Udp.getPayload udp
  if Msg.role m msg ≠ 0 then
    ⟨this, some States.Terminate, pkt, r, true⟩
  else if Msg.msg m msg ≠ 0 then
    ⟨this, some States.Terminate, pkt, r, true⟩
  else
    let this := { this with clientCookie := some (Msg.cookie m msg) }
    let m := Msg.setRole m msg Msg.ROLE_SERVER
    let m := Msg.setMsg m msg Msg.MSG_HELLO
    let m := Msg.setCookie m msg this.serverCookie
    let m := setHeaders m ipv4 udp
    ⟨this, some States.Bye, { pkt with data := m }, r, false⟩

def Hello.run : Responder (Ptr Object) Packet Rand := fun stateData pkt r =>
  match stateData with
  | .to (.hello t) =>
    let a := t.func pkt r
    if a.newState = some States.Bye then
      match Bye.new a.stateData with
      | none => none
      | some b => some { a with stateData := .to (.bye b) }
    else if a.newState = some States.Terminate then some { a with stateData := .dangling }
    else some { a with stateData := .to (.hello a.stateData) }
  | _ => none

/-- `Bye::fun`. -/
def Bye.func (this : Bye) (pkt : Packet) (r : Rand) : Answer Bye Packet Rand :=
  let m := pkt.data
  let ipv4 := sizeofEthernet
  let udp := IPv4.getPayload m ipv4
  let msg := Udp.getPayload udp
  if Msg.role m msg ≠ Msg.ROLE_CLIENT ∨ Msg.msg m msg ≠ Msg.MSG_BYE then
    ⟨this, some States.Terminate, pkt, r, true⟩
  else if ((Msg.cookie m msg).toNat : Int) ≠ this.serverCookie then
    ⟨this, some States.Terminate, pkt, r, true⟩
  else
    let m := Msg.setCookie m msg (UInt8.ofInt this.clientCookie)
    let m := Msg.setRole m msg Msg.ROLE_SERVER
    let m := Msg.setMsg m msg Msg.MSG_BYE
    let m := setHeaders m ipv4 udp
    ⟨this, some States.Terminate, { pkt with data := m }, r, false⟩

def Bye.run : Responder (Ptr Object) Packet Rand := fun stateData pkt r =>
  match stateData with
  | .to (.bye t) =>
    let a := t.func pkt r
    if a.newState = some States.Terminate then some { a with stateData := .dangling }
    else some { a with stateData := .to (.bye a.stateData) }
  | _ => none

/-- `HelloBye2_Server_init`. -/
def service : Service UInt64 (Ptr Object) Packet Rand where
  responders := [some Hello.run, some Bye.run]
  small := by decide
  startStateID := States.Hello
  endStateID := States.Terminate
  factory := some factory
  listenToConnections := true
  ident := identify

end Server

/-! ### The client -/

/-- `HelloBye2ClientConfig`. -/
structure HelloBye2ClientConfig where
  srcIp : UInt32
  dstPort : UInt16

namespace Client

open MoonState.Client

structure Hello where
  clientCookie : Int
  dstIp : UInt32
  srcPort : UInt16
  ident : UInt64
deriving DecidableEq, Repr

structure Bye where
  clientCookie : Int
  serverCookie : Option Int
deriving DecidableEq, Repr

structure RecvBye where
  clientCookie : Int
  serverCookie : Int
deriving DecidableEq, Repr

/-- What `state.stateData` points to. -/
inductive Object
  | hello (t : Hello)
  | bye (t : Bye)
  | recvBye (t : RecvBye)
deriving DecidableEq, Repr

/-- The constructor. -/
def Hello.new (dstIp : UInt32) (srcPort : UInt16) (ident : UInt64) (r : Rand) : Hello × Rand :=
  let (n, r) := rand r
  ({ clientCookie := (n % 256 : Nat), dstIp := dstIp, srcPort := srcPort, ident := ident }, r)

/-- The constructor. -/
def Bye.new (h : Hello) : Bye := { clientCookie := h.clientCookie, serverCookie := none }

/-- The constructor. -/
def RecvBye.new (b : Bye) : Option RecvBye :=
  match b.serverCookie with
  | none => none
  | some s => some { clientCookie := b.clientCookie, serverCookie := s }

/-- `Hello::fun`. -/
def Hello.func (config : HelloBye2ClientConfig) (this : Hello) (pkt : Packet) (r : Rand) :
    Answer Hello Packet Rand :=
  let m := pkt.data.clear pkt.dataLen.toNat
  let ipv4 := sizeofEthernet
  let m := IPv4.setVersion m ipv4
  let m := IPv4.setIHL m ipv4 5
  let m := IPv4.setTtl m ipv4 64
  let m := IPv4.setLength m ipv4 (100 - 14)
  let m := IPv4.setDstIP m ipv4 this.dstIp
  let m := IPv4.setSrcIP m ipv4 config.srcIp
  let m := IPv4.setProtoUDP m ipv4
  let m := IPv4.clearChecksum m ipv4
  let udp := IPv4.getPayload m ipv4
  let msg := Udp.getPayload udp
  let m := Msg.setIdent m msg this.ident
  let m := Msg.setRole m msg Msg.ROLE_CLIENT
  let m := Msg.setCookie m msg (UInt8.ofInt this.clientCookie)
  let m := Msg.setMsg m msg Msg.MSG_HELLO
  let m := Ethernet.setEthertype m 0x0800
  let m := Udp.clearChecksum m udp
  let m := Udp.setDstPort m udp config.dstPort
  let m := Udp.setSrcPort m udp this.srcPort
  let m := Udp.setPayloadLength m udp 50
  ⟨this, some States.Bye, { pkt with data := m }, r, false⟩

def Hello.run (config : HelloBye2ClientConfig) : Responder (Ptr Object) Packet Rand :=
  fun stateData pkt r =>
    match stateData with
    | .to (.hello t) =>
      let a := t.func config pkt r
      if a.newState = some States.Bye then
        some { a with stateData := .to (.bye (Bye.new a.stateData)) }
      else if a.newState = some States.Terminate then some { a with stateData := .dangling }
      else some { a with stateData := .to (.hello a.stateData) }
    | _ => none

/-- `Bye::fun`. -/
def Bye.func (this : Bye) (pkt : Packet) (r : Rand) : Answer Bye Packet Rand :=
  let m := pkt.data
  let ipv4 := sizeofEthernet
  let udp := IPv4.getPayload m ipv4
  let msg := Udp.getPayload udp
  if Msg.role m msg ≠ Msg.ROLE_SERVER ∨ Msg.msg m msg ≠ Msg.MSG_HELLO then
    ⟨this, some States.Terminate, pkt, r, true⟩
  else
    let serverCookie : Int := (Msg.cookie m msg).toNat
    let m := Msg.setCookie m msg (UInt8.ofInt serverCookie)
    let m := Msg.setRole m msg Msg.ROLE_CLIENT
    let m := Msg.setMsg m msg Msg.MSG_BYE
    let m := setHeaders m ipv4 udp
    ⟨{ this with serverCookie := some serverCookie }, some States.RecvBye, { pkt with data := m }, r,
      false⟩

def Bye.run : Responder (Ptr Object) Packet Rand := fun stateData pkt r =>
  match stateData with
  | .to (.bye t) =>
    let a := t.func pkt r
    if a.newState = some States.RecvBye then
      match RecvBye.new a.stateData with
      | none => none
      | some b => some { a with stateData := .to (.recvBye b) }
    else if a.newState = some States.Terminate then some { a with stateData := .dangling }
    else some { a with stateData := .to (.bye a.stateData) }
  | _ => none

/-- `RecvBye::fun`. -/
def RecvBye.func (this : RecvBye) (pkt : Packet) (r : Rand) : Answer RecvBye Packet Rand :=
  let m := pkt.data
  let ipv4 := sizeofEthernet
  let udp := IPv4.getPayload m ipv4
  let msg := Udp.getPayload udp
  if Msg.role m msg ≠ Msg.ROLE_SERVER ∨ Msg.msg m msg ≠ Msg.MSG_BYE then
    ⟨this, some States.Terminate, pkt, r, true⟩
  else if ((Msg.cookie m msg).toNat : Int) ≠ this.clientCookie then
    ⟨this, some States.Terminate, pkt, r, true⟩
  else
    ⟨this, some States.Terminate, pkt, r, true⟩

def RecvBye.run : Responder (Ptr Object) Packet Rand := fun stateData pkt r =>
  match stateData with
  | .to (.recvBye t) =>
    let a := t.func pkt r
    if a.newState = some States.Terminate then some { a with stateData := .dangling }
    else some { a with stateData := .to (.recvBye a.stateData) }
  | _ => none

/-- `HelloBye2_Client_init`. -/
def service (config : HelloBye2ClientConfig) : Service UInt64 (Ptr Object) Packet Rand where
  responders := [some (Hello.run config), some Bye.run, some RecvBye.run]
  small := by simp
  startStateID := 0
  endStateID := States.Terminate
  factory := none
  listenToConnections := false
  ident := identify

/-- `new Hello`, as a new connection is set up with it. -/
def create (dstIp : UInt32) (srcPort : UInt16) (ident : UInt64) (r : Rand) :
    Option (Ptr Object × Rand) :=
  let (t, r) := Hello.new dstIp srcPort ident r
  some (.to (.hello t), r)

/-- `HelloBye2_Client_connect`. -/
def connect (config : HelloBye2ClientConfig) (pl : Service.Platform)
    (x : Instance UInt64 (Ptr Object) Packet Rand) (dstIp : UInt32) (srcPort : UInt16)
    (ident : UInt64) (pkts : List Packet) :
    Except Fault (Instance UInt64 (Ptr Object) Packet Rand × List (Packet × Bool)) :=
  x.connect (service config) pl ident States.Hello (create dstIp srcPort ident) pkts

end Client

end HelloBye2

end MoonState
