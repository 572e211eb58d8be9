/-
HelloBye, the version in text (`include/helloByeProto.hpp`, `src/helloByeProto.cpp`,
`src/helloBye_C.cpp`).

The messages are lines: what is said, and a cookie in decimal.  The functions of the
server replace the object of their connection when its state changes.  Those of the
client do not: `stateData` keeps pointing to the object `connect` made, and each
function takes its memory for an object of its own class.

A member that the constructor leaves alone is `none` until it is written, and
reading it before, or using an object of the other role, is no answer.
-/
import MoonState.Model.FiveTuple
import MoonState.Model.HelloBye2

namespace MoonState.HelloBye

open Headers IPv4_5TupleL2Ident

/-! ### Text -/

/-- The characters of a string. -/
def ascii (str : String) : List UInt8 := str.toList.map fun c => UInt8.ofNat c.toNat

/-- A number as `<<` prints it. -/
def decimal (n : Int) : List UInt8 :=
  ((if n < 0 then ['-'] else []) ++ Nat.toDigits 10 n.natAbs).map fun c => UInt8.ofNat c.toNat

/-- `sstream << str << n << std::endl`. -/
def line (str : String) (n : Int) : List UInt8 := ascii str ++ decimal n ++ ascii "\n"

/-- `memcmp` with `str` says they are the same. -/
def Says (m : Mem) (msg : Nat) (str : String) : Prop := m.read msg (ascii str).length = ascii str

instance (m : Mem) (msg : Nat) (str : String) : Decidable (Says m msg str) :=
  inferInstanceAs (Decidable (_ = _))

/-- The character after `str`, and its ASCII conversion. -/
def cookieAfter (m : Mem) (msg : Nat) (str : String) : Int :=
  ((m (msg + (ascii str).length)).toNat : Int) - 48

/-! ### States -/

namespace HelloByeServer

def Hello : StateID := 0

def Bye : StateID := 1

def Terminate : StateID := 2

end HelloByeServer

namespace HelloByeClient

def Hello : StateID := 0

def Bye : StateID := 1

def RecvBye : StateID := 2

def Terminate : StateID := 3

end HelloByeClient

structure HelloByeClientConfig where
  srcIp : UInt32
  dstPort : UInt16
deriving DecidableEq, Repr

/-- What the objects share: the numbers `rand` is going to return, and the instance of the
configuration, which is created when it is set first. -/
structure Program where
  rnd : Rand
  config : Option HelloByeClientConfig

/-- `rand() % 10`. -/
def Program.cookie (w : Program) : Int × Program :=
  let (n, rnd) := rand w.rnd
  ((n % 10 : Nat), { w with rnd := rnd })

/-- `HelloByeClient_config`. -/
def Program.setConfig (w : Program) (srcIP : UInt32) (dstPort : UInt16) : Program :=
  { w with config := some { srcIp := srcIP, dstPort := dstPort } }

/-! ### The server -/

structure HelloByeServerHello where
  clientCookie : Option Int
  serverCookie : Int
deriving DecidableEq, Repr

structure HelloByeServerBye where
  clientCookie : Int
  serverCookie : Int
deriving DecidableEq, Repr

/-- The constructor. -/
def HelloByeServerHello.new (w : Program) : HelloByeServerHello × Program :=
  let (n, w) := w.cookie
  ({ clientCookie := none, serverCookie := n }, w)

/-- The constructor. -/
def HelloByeServerBye.new (h : HelloByeServerHello) : Option HelloByeServerBye :=
  match h.clientCookie with
  | none => none
  | some c => some { clientCookie := c, serverCookie := h.serverCookie }

/-- `HelloByeServerHello::fun`. -/
def HelloByeServerHello.func (this : HelloByeServerHello) (pkt : Packet) (w : Program) :
    Answer HelloByeServerHello Packet Program :=
  let m := pkt.data
  let ipv4 := sizeofEthernet
  let udp := IPv4.getPayload m ipv4
  let msg := Udp.getPayload udp
  if ¬ Says m msg "CLIENT HELLO:" then
    ⟨this, some HelloByeServer.Terminate, pkt, w, true⟩
  else
    let this := { this with clientCookie := some (cookieAfter m msg "CLIENT HELLO:") }
    let m := m.write msg (line "SERVER HELLO:" this.serverCookie)
    let m := setHeaders m ipv4 udp
    ⟨this, some HelloByeServer.Bye, { pkt with data := m }, w, false⟩

/-- `HelloByeServerBye::fun`. -/
def HelloByeServerBye.func (this : HelloByeServerBye) (pkt : Packet) (w : Program) :
    Answer HelloByeServerBye Packet Program :=
  let m := pkt.data
  let ipv4 := sizeofEthernet
  let udp := IPv4.getPayload m ipv4
  let msg := Udp.getPayload udp
  -- the packets that are not as expected are not freed
  if ¬ Says m msg "CLIENT BYE:" then
    ⟨this, some HelloByeServer.Terminate, pkt, w, false⟩
  else if cookieAfter m msg "CLIENT BYE:" ≠ this.serverCookie then
    ⟨this, some HelloByeServer.Terminate, pkt, w, false⟩
  else
    let m := m.write msg (line "SERVER BYE:" this.clientCookie)
    let m := setHeaders m ipv4 udp
    ⟨this, some HelloByeServer.Terminate, { pkt with data := m }, w, false⟩

/-! ### The client -/

structure HelloByeClientHello where
  clientCookie : Int
  dstIp : UInt32
  srcPort : UInt16

structure HelloByeClientBye where
  clientCookie : Int
  serverCookie : Int

structure HelloByeClientRecvBye where
  clientCookie : Int
  serverCookie : Int

/-- The constructor. -/
def HelloByeClientHello.new (dstIp : UInt32) (srcPort : UInt16) (w : Program) :
    HelloByeClientHello × Program :=
  let (n, w) := w.cookie
  ({ clientCookie := n, dstIp := dstIp, srcPort := srcPort }, w)

/-- `HelloByeClientHello::fun`; it takes that the configuration was set. -/
def HelloByeClientHello.func (this : HelloByeClientHello) (pkt : Packet) (w : Program) :
    Option (Answer HelloByeClientHello Packet Program) :=
  match w.config with
  | none => none
  | some config =>
    let m := pkt.data.clear pkt.dataLen.toNat
    let ipv4 := sizeofEthernet
    let m := IPv4.setVersion m ipv4
    let m := IPv4.setIHL m ipv4 5
    let m := IPv4.setTtl m ipv4 64
    let m := IPv4.setLength m ipv4 (100 - 14)
    let m := IPv4.setDstIP m ipv4 this.dstIp
    let m := IPv4.setSrcIP m ipv4 config.srcIp
    let m := IPv4.setProtoUDP m ipv4
    let m := IPv4.clearChecksum m ipv4
    let udp := IPv4.getPayload m ipv4
    let msg := Udp.getPayload udp
    let m := m.write msg (line "CLIENT HELLO:" this.clientCookie)
    let m := Ethernet.setEthertype m 0x0800
    let m := Udp.clearChecksum m udp
    let m := Udp.setDstPort m udp config.dstPort
    let m := Udp.setSrcPort m udp this.srcPort
    let m := Udp.setPayloadLength m udp 50
    some ⟨this, some HelloByeClient.Bye, { pkt with data := m }, w, false⟩

/-- `HelloByeClientBye::fun`. -/
def HelloByeClientBye.func (this : HelloByeClientBye) (pkt : Packet) (w : Program) :
    Answer HelloByeClientBye Packet Program :=
  let m := pkt.data
  let ipv4 := sizeofEthernet
  let udp := IPv4.getPayload m ipv4
  let msg := Udp.getPayload udp
  if ¬ Says m msg "SERVER HELLO:" then
    ⟨this, some HelloByeClient.Terminate, pkt, w, false⟩
  else
    let this := { this with serverCookie := cookieAfter m msg "SERVER HELLO:" }
    -- zero out old data
    let m := m.write msg (List.replicate 20 0)
    let m := m.write msg (line "CLIENT BYE:" this.serverCookie)
    let m := setHeaders m ipv4 udp
    ⟨this, some HelloByeClient.RecvBye, { pkt with data := m }, w, false⟩

/-- `HelloByeClientRecvBye::fun`. -/
def HelloByeClientRecvBye.func (this : HelloByeClientRecvBye) (pkt : Packet) (w : Program) :
    Answer HelloByeClientRecvBye Packet Program :=
  let m := pkt.data
  let ipv4 := sizeofEthernet
  let udp := IPv4.getPayload m ipv4
  let msg := Udp.getPayload udp
  if ¬ Says m msg "SERVER BYE:" then
    ⟨this, some HelloByeClient.Terminate, pkt, w, false⟩
  else if cookieAfter m msg "SERVER BYE:" ≠ this.clientCookie then
    ⟨this, some HelloByeClient.Terminate, pkt, w, false⟩
  else
    ⟨this, some HelloByeClient.Terminate, pkt, w, true⟩

/-! ### The memory of a client's object -/

/-- The object `connect` makes: an `int`, four bytes, and two bytes. -/
structure Block where
  word0 : UInt32
  word4 : UInt32
  half8 : UInt16
deriving DecidableEq, Repr

/-- Four bytes, as an `int`. -/
def asInt (w : UInt32) : Int := w.toInt32.toInt

def ofInt (n : Int) : UInt32 := (Int32.ofInt n).toUInt32

namespace Block

def asHello (b : Block) : HelloByeClientHello :=
  { clientCookie := asInt b.word0, dstIp := b.word4, srcPort := b.half8 }

def ofHello (t : HelloByeClientHello) : Block :=
  { word0 := ofInt t.clientCookie, word4 := t.dstIp, half8 := t.srcPort }

/-- The server's cookie lies where the IP was. -/
def asBye (b : Block) : HelloByeClientBye :=
  { clientCookie := asInt b.word0, serverCookie := asInt b.word4 }

def setBye (b : Block) (t : HelloByeClientBye) : Block :=
  { b with word0 := ofInt t.clientCookie, word4 := ofInt t.serverCookie }

def asRecvBye (b : Block) : HelloByeClientRecvBye :=
  { clientCookie := asInt b.word0, serverCookie := asInt b.word4 }

def setRecvBye (b : Block) (t : HelloByeClientRecvBye) : Block :=
  { b with word0 := ofInt t.clientCookie, word4 := ofInt t.serverCookie }

end Block

/-! ### The machines -/

namespace Server

/-- What `state.stateData` points to. -/
inductive Object
  | hello (t : HelloByeServerHello)
  | bye (t : HelloByeServerBye)
deriving DecidableEq, Repr

def factory (_ : ConnectionID) (w : Program) : Option (Ptr Object × Program) :=
  let (t, w) := HelloByeServerHello.new w
  some (.to (.hello t), w)

/-- `HelloByeServerHello::run`. -/
def runHello : Responder (Ptr Object) Packet Program := fun stateData pkt w =>
  match stateData with
  | .to (.hello t) =>
    let a := t.func pkt w
    if a.newState = some HelloByeServer.Bye then
      match HelloByeServerBye.new a.stateData with
      | none => none
      | some b => some { a with stateData := .to (.bye b) }
    else if a.newState = some HelloByeServer.Terminate then some { a with stateData := .dangling }
    else some { a with stateData := .to (.hello a.stateData) }
  | _ => none

/-- `HelloByeServerBye::run`. -/
def runBye : Responder (Ptr Object) Packet Program := fun stateData pkt w =>
  match stateData with
  | .to (.bye t) =>
    let a := t.func pkt w
    some { a with stateData := .to (.bye a.stateData) }
  | _ => none

/-- `HelloByeServer_init`. -/
def service : Service ConnectionID (Ptr Object) Packet Program where
  responders := [some runHello, some runBye]
  small := by simp
  startStateID := HelloByeServer.Hello
  endStateID := HelloByeServer.Terminate
  factory := some factory
  listenToConnections := true
  ident := fun pkt => IPv4_5TupleL2Ident.identify pkt.data

end Server

namespace Client

/-- `HelloByeClientHello::run`. -/
def runHello : Responder (Ptr Block) Packet Program := fun stateData pkt w =>
  match stateData with
  | .to b => (b.asHello.func pkt w).map fun a => { a with stateData := .to (.ofHello a.stateData) }
  | _ => none

/-- `HelloByeClientBye::run`. -/
def runBye : Responder (Ptr Block) Packet Program := fun stateData pkt w =>
  match stateData with
  | .to b =>
    let a := b.asBye.func pkt w
    some { a with stateData := .to (b.setBye a.stateData) }
  | _ => none

/-- `HelloByeClientRecvBye::run`. -/
def runRecvBye : Responder (Ptr Block) Packet Program := fun stateData pkt w =>
  match stateData with
  | .to b =>
    let a := b.asRecvBye.func pkt w
    some { a with stateData := .to (b.setRecvBye a.stateData) }
  | _ => none

/-- `HelloByeClient_init`. -/
def service : Service ConnectionID (Ptr Block) Packet Program where
  responders := [some runHello, some runBye, some runRecvBye]
  small := by simp
  startStateID := 0
  endStateID := HelloByeClient.Terminate
  factory := none
  listenToConnections := false
  ident := fun pkt => IPv4_5TupleL2Ident.identify pkt.data

/-- The ID `connect` gives the connection: that of the packets to the client. -/
def cID (config : HelloByeClientConfig) (dstIP : UInt32) (srcPort : UInt16) : ConnectionID :=
  { dstIP := Bytes.htonl config.srcIp
    srcIP := Bytes.htonl dstIP
    dstPort := Bytes.htons srcPort
    srcPort := Bytes.htons config.dstPort
    proto := IPv4.PROTO_UDP }

/-- The object of a new connection. -/
def create (dstIP : UInt32) (srcPort : UInt16) (w : Program) : Option (Ptr Block × Program) :=
  let (t, w) := HelloByeClientHello.new dstIP srcPort w
  some (.to (.ofHello t), w)

/-- `HelloByeClient_connect`. -/
def connect (pl : Service.Platform) (x : Instance ConnectionID (Ptr Block) Packet Program)
    (dstIP : UInt32) (srcPort : UInt16) (pkts : List Packet) :
    Except Fault (Instance ConnectionID (Ptr Block) Packet Program × List (Packet × Bool)) :=
  match x.rest.config with
  | none => .error .exception
  | some config =>
    x.connect service pl (cID config dstIP srcPort) HelloByeClient.Hello (create dstIP srcPort) pkts

end Client

end MoonState.HelloBye
