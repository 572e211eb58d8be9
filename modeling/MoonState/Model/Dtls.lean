/-
DTLS (`include/dtlsServer.hpp`, `src/dtlsServer.cpp`, `include/dtlsClient.hpp`,
`src/dtlsClient.cpp`).

A function hands the payload of its packet to one BIO of its connection, lets OpenSSL
work, and sends what is in the other BIO, each record in a packet of its own.  The first
record goes into the packet that was received.

OpenSSL is not part of the source.  `OpenSSL` is what the functions call, on the `SSL` of
a connection and its two BIOs together.  What a read puts into the buffer is a list,
which is empty where the call does not return a positive number.

The server and the client have a `writeAllDataAvailable` each, which differ in how a
packet is filled and in how much may be read into it: `Side` is the difference.  A failed
assertion ends the process, and a deleted object is not used again: both are a throw.
-/
import MoonState.Model.Handler
import MoonState.Model.Headers
import MoonState.Model.HelloBye2

namespace MoonState

open Headers

namespace DTLS

/-- A packet: the memory from `getData()` on, `getDataLen()` and `getBufLen()`. -/
structure Mbuf where
  data : Mem
  dataLen : UInt16
  bufLen : UInt16

/-- What is called of OpenSSL; `S` is an `SSL` with `rbio` and `wbio`. -/
structure OpenSSL (S : Type) where
  /-- `SSL_new`, with two new BIOs -/
  SSL_new : S
  /-- `BIO_eof(wbio)` -/
  BIO_eof : S → Bool
  /-- `BIO_read(wbio, _, len)`, and the bytes that were read -/
  BIO_read : S → Int → List UInt8 × S
  /-- `BIO_write(rbio, data, len)`, with the memory `data` is an address of -/
  BIO_write : S → Mem → Nat → Nat → Int × S
  SSL_accept : S → S
  SSL_connect : S → S
  SSL_is_init_finished : S → Bool
  /-- `SSL_read(ssl, _, num)`, and the bytes that were read -/
  SSL_read : S → Nat → List UInt8 × S
  SSL_write : S → List UInt8 → Int × S
  SSL_get_shutdown : S → Int
  SSL_shutdown : S → Int × S

variable {S C P : Type}

/-- `allHeaderLength`. -/
def allHeaderLength : Nat := sizeofEthernet + sizeofIPv4 + sizeofUdp

/-! ### What the implementations do alike -/

/-- "Set the whole Header stuff", from the lengths on. -/
def setHeader (localIP remoteIP : UInt32) (localPort remotePort : UInt16) (m : Mem) (udp : Nat)
    (dataLen : UInt16) : Mem :=
  let ipv4 := sizeofEthernet
  let m := IPv4.setPayloadLength m ipv4 (dataLen + UInt16.ofNat sizeofUdp)
  let m := IPv4.setProtoUDP m ipv4
  let m := IPv4.setSrcIP m ipv4 localIP
  let m := IPv4.setDstIP m ipv4 remoteIP
  let m := IPv4.clearChecksum m ipv4
  let m := IPv4.setTtl m ipv4 64
  let m := Udp.setDstPort m udp remotePort
  let m := Udp.setSrcPort m udp localPort
  Udp.setPayloadLength m udp dataLen

/-- What the sides do differently about a record. -/
structure Side (S C : Type) where
  ssl : C → S
  setSsl : C → S → C
  /-- `udpMaxLen` for the packet that was received -/
  udpMaxLen : Mbuf → Int
  /-- `udpMaxLen` for an extra packet, beside the packet that was received -/
  xtraMaxLen : Mbuf → Mbuf → Int
  /-- the received packet with a record -/
  fill : C → List UInt8 → Mbuf → Mbuf
  /-- an extra packet with a record -/
  fillXtra : C → List UInt8 → Mbuf → Mbuf

/-- Use the object `stateData` points to. -/
def object (k : C → Heap P Mbuf → Code P (Ptr C) (Heap P Mbuf)) : Code P (Ptr C) (Heap P Mbuf) :=
  .get fun st w =>
    match st.stateData with
    | .to c => k c w
    | _ => .throw

variable [DecidableEq P]

/-- Read the next record into a packet. -/
def writeRecord (r : Side S C) (o : OpenSSL S) (maxLen : Heap P Mbuf → Int)
    (fill : C → List UInt8 → Mbuf → Mbuf) (pkt : P) (k : Code P (Ptr C) (Heap P Mbuf)) :
    Code P (Ptr C) (Heap P Mbuf) :=
  object fun c w =>
    let (bytes, ssl) := o.BIO_read (r.ssl c) (maxLen w)
    -- `assert(dataLen > 0)`
    if bytes = [] then .throw
    else .put (.to (r.setSsl c ssl)) (w.write pkt (fill c bytes (w.mem pkt))) k

/-- The loop over the extra packets; `ret` packets are written so far. -/
def writeXtra (r : Side S C) (o : OpenSSL S) (pkt : P) :
    Nat → Nat → (Nat → Code P (Ptr C) (Heap P Mbuf)) → Code P (Ptr C) (Heap P Mbuf)
  | 0, _, _ => .throw
  | fuel + 1, ret, k =>
    object fun c _ =>
      if o.BIO_eof (r.ssl c) then k ret
      else
        .getPkt fun xtraPkt =>
          writeRecord r o (fun w => r.xtraMaxLen (w.mem pkt) (w.mem xtraPkt)) r.fillXtra xtraPkt
            (writeXtra r o pkt fuel (ret + 1) k)

/-- `writeAllDataAvailable`; `k` is what its caller does with the number of packets. -/
def Side.writeAllDataAvailable (r : Side S C) (o : OpenSSL S) (fuel : Nat) (pkt : P)
    (k : Nat → Code P (Ptr C) (Heap P Mbuf)) : Code P (Ptr C) (Heap P Mbuf) :=
  object fun c _ =>
    if o.BIO_eof (r.ssl c) then .freePkt (writeXtra r o pkt fuel 0 k)
    else
      writeRecord r o (fun w => r.udpMaxLen (w.mem pkt)) r.fill pkt (writeXtra r o pkt fuel 1 k)

/-- The arguments of `BIO_write`: `udp->getPayload()` and `udp->getPayloadLength()`. -/
def incoming (pkt : Mbuf) : Nat × Nat :=
  let udp := IPv4.getPayload pkt.data sizeofEthernet
  (Udp.getPayload udp, (Udp.getPayloadLength pkt.data udp).toNat)

/-- A function that receives data: what it does to its object before it hands the packet to
`BIO_write`, and what it does afterwards. -/
structure Receiver (C P : Type) where
  before : C → Mbuf → C
  after : P → Code P (Ptr C) (Heap P Mbuf)

def Receiver.code (f : Receiver C P) (r : Side S C) (o : OpenSSL S) :
    StateFun P (Ptr C) (Heap P Mbuf) := fun _ pkt =>
  object fun c w =>
    let c := f.before c (w.mem pkt)
    let (data, len) := incoming (w.mem pkt)
    let (writeBytes, ssl) := o.BIO_write (r.ssl c) (w.mem pkt).data data len
    if writeBytes > 0 then .put (.to (r.setSsl c ssl)) w (f.after pkt) else .throw

/-- Change the `SSL` of the object. -/
def withSsl (r : Side S C) (f : S → S) (k : Code P (Ptr C) (Heap P Mbuf)) :
    Code P (Ptr C) (Heap P Mbuf) :=
  object fun c w => .put (.to (r.setSsl c (f (r.ssl c)))) w k

/-- Read what the peer says, and reflect the data. -/
def reflect (r : Side S C) (o : OpenSSL S) (k : Code P (Ptr C) (Heap P Mbuf)) :
    Code P (Ptr C) (Heap P Mbuf) :=
  object fun c w =>
    let (buf, ssl) := o.SSL_read (r.ssl c) 2048
    if buf = [] then .put (.to (r.setSsl c ssl)) w k
    else
      let (written, ssl) := o.SSL_write ssl buf
      if written ≠ buf.length then .throw else .put (.to (r.setSsl c ssl)) w k

end DTLS

open DTLS

variable {S P K : Type}

/-! ### The server -/

namespace DTLS_Server

structure dtlsServer (S : Type) where
  ssl : S
  localIP : UInt32
  remoteIP : UInt32
  localMac : Mac
  remoteMac : Mac
  remotePort : UInt16
  localPort : UInt16

namespace States

def HANDSHAKE : StateID := 1

def ESTABLISHED : StateID := 2

def RUN_TEARDOWN : StateID := 3

def DELETED : StateID := 4

end States

/-- `udpMaxLen`. -/
def udpMaxLen (pkt : Mbuf) : Int := (min pkt.bufLen 1500).toNat - allHeaderLength

/-- What becomes of the packet that was received. -/
def fill (server : dtlsServer S) (bytes : List UInt8) (pkt : Mbuf) : Mbuf :=
  let ipv4 := sizeofEthernet
  let m := IPv4.setVersion pkt.data ipv4
  let m := IPv4.setIHL m ipv4 5
  let udp := IPv4.getPayload m ipv4
  let m := m.write (Udp.getPayload udp) bytes
  let dataLen := UInt16.ofNat bytes.length
  let m := Ethernet.setDstAddr m server.remoteMac
  let m := Ethernet.setSrcAddr m server.localMac
  let m := Ethernet.setEthertype m Ethernet.ETHERTYPE_IPv4
  let m := IPv4.setVersion m ipv4
  let m := IPv4.setIHL m ipv4 5
  let m := setHeader server.localIP server.remoteIP server.localPort server.remotePort m udp dataLen
  { pkt with data := m, dataLen := dataLen + UInt16.ofNat allHeaderLength }

/-- What becomes of an extra packet. -/
def fillXtra (server : dtlsServer S) (bytes : List UInt8) (xtraPkt : Mbuf) : Mbuf :=
  let ipv4 := sizeofEthernet
  let m := IPv4.setVersion xtraPkt.data ipv4
  let m := IPv4.setIHL m ipv4 5
  let udp := IPv4.getPayload m ipv4
  let m := m.write (Udp.getPayload udp) bytes
  let dataLen := UInt16.ofNat bytes.length
  let m := Ethernet.setEthertype m Ethernet.ETHERTYPE_IPv4
  let m := Ethernet.setDstAddr m server.remoteMac
  let m := Ethernet.setSrcAddr m server.localMac
  let m := setHeader server.localIP server.remoteIP server.localPort server.remotePort m udp dataLen
  { xtraPkt with data := m, dataLen := dataLen + UInt16.ofNat allHeaderLength }

def side : Side S (dtlsServer S) where
  ssl server := server.ssl
  setSsl server ssl := { server with ssl := ssl }
  udpMaxLen := udpMaxLen
  -- the length of the received packet bounds what is read to the extra ones too
  xtraMaxLen pkt _ := udpMaxLen pkt
  fill := fill
  fillXtra := fillXtra

/-- `new dtlsServer()` and `memset`; then its `SSL`. -/
def factory (o : OpenSSL S) (_ : K) (w : Heap P Mbuf) : Option (Ptr (dtlsServer S) × Heap P Mbuf) :=
  some (.to
    { ssl := o.SSL_new
      localIP := 0
      remoteIP := 0
      localMac := ⟨List.replicate 6 0, rfl⟩
      remoteMac := ⟨List.replicate 6 0, rfl⟩
      remotePort := 0
      localPort := 0 }, w)

variable [DecidableEq P]

def writeAllDataAvailable (o : OpenSSL S) (fuel : Nat) (pkt : P) :
    Code P (Ptr (dtlsServer S)) (Heap P Mbuf) :=
  side.writeAllDataAvailable o fuel pkt fun _ => .done

/-- Remember where the packet comes from. -/
def address (server : dtlsServer S) (pkt : Mbuf) : dtlsServer S :=
  let ipv4 := sizeofEthernet
  let udp := IPv4.getPayload pkt.data ipv4
  { server with
    localIP := IPv4.getDstIP pkt.data ipv4
    remoteIP := IPv4.getSrcIP pkt.data ipv4
    localPort := Udp.getDstPort pkt.data udp
    remotePort := Udp.getSrcPort pkt.data udp
    localMac := Ethernet.destMac pkt.data
    remoteMac := Ethernet.srcMac pkt.data }

def runHandshake (o : OpenSSL S) (fuel : Nat) : Receiver (dtlsServer S) P where
  before := address
  after pkt :=
    withSsl side o.SSL_accept <| object fun server _ =>
      if o.SSL_is_init_finished server.ssl then
        .transition States.ESTABLISHED (reflect side o (writeAllDataAvailable o fuel pkt))
      else writeAllDataAvailable o fuel pkt

def sendData (o : OpenSSL S) (fuel : Nat) : Receiver (dtlsServer S) P where
  before server _ := server
  after pkt :=
    reflect side o <| object fun server _ =>
      if o.SSL_get_shutdown server.ssl ≠ 0 then
        withSsl side (fun ssl => (o.SSL_shutdown ssl).2)
          (.transition States.DELETED (writeAllDataAvailable o fuel pkt))
      else writeAllDataAvailable o fuel pkt

def runTeardown (o : OpenSSL S) (fuel : Nat) : Receiver (dtlsServer S) P where
  before server _ := server
  after pkt :=
    object fun server w =>
      let (ret, ssl) := o.SSL_shutdown server.ssl
      if ret = 1 then
        -- `SSL_free` and `delete`
        .put .dangling w
          (.transition States.DELETED (.freePkt (writeAllDataAvailable o fuel pkt)))
      else .put (.to { server with ssl := ssl }) w (writeAllDataAvailable o fuel pkt)

/-- The functions that are registered. -/
def receivers (o : OpenSSL S) (fuel : Nat) : List (Receiver (dtlsServer S) P) :=
  [runHandshake o fuel, sendData o fuel, runTeardown o fuel]

def configStateMachine (o : OpenSSL S) (fuel : Nat) (getPktCB : Heap P Mbuf → P × Heap P Mbuf)
    (sm : StateMachine K P (Ptr (dtlsServer S)) (Heap P Mbuf)) :
    StateMachine K P (Ptr (dtlsServer S)) (Heap P Mbuf) :=
  let sm := sm.registerFunction States.HANDSHAKE ((runHandshake o fuel).code side o)
  let sm := sm.registerFunction States.ESTABLISHED ((sendData o fuel).code side o)
  let sm := sm.registerFunction States.RUN_TEARDOWN ((runTeardown o fuel).code side o)
  let sm := sm.registerStartStateID States.HANDSHAKE (some (factory o))
  let sm := sm.registerGetPktCB getPktCB
  sm.registerEndStateID States.DELETED

end DTLS_Server

/-! ### The client -/

namespace DTLS_Client

structure dtlsClient (S : Type) where
  ssl : S
  localIP : UInt32
  remoteIP : UInt32
  remotePort : UInt16
  localPort : UInt16

namespace States

def DOWN : StateID := 0

def HANDSHAKE : StateID := 1

def ESTABLISHED : StateID := 2

def RUN_TEARDOWN : StateID := 3

def DELETED : StateID := 4

end States

/-- `udpMaxLen`. -/
def udpMaxLen (pkt : Mbuf) : Int := pkt.bufLen.toNat - allHeaderLength

/-- What becomes of the packet that was received, and of an extra one.  The UDP header is where
the packet says before its IHL is set. -/
def fill (client : dtlsClient S) (bytes : List UInt8) (pkt : Mbuf) : Mbuf :=
  let ipv4 := sizeofEthernet
  let udp := IPv4.getPayload pkt.data ipv4
  let m := pkt.data.write (Udp.getPayload udp) bytes
  let dataLen := UInt16.ofNat bytes.length
  let m := Ethernet.setEthertype m Ethernet.ETHERTYPE_IPv4
  let m := IPv4.setVersion m ipv4
  let m := IPv4.setIHL m ipv4 5
  let m := setHeader client.localIP client.remoteIP client.localPort client.remotePort m udp dataLen
  { pkt with data := m, dataLen := dataLen + UInt16.ofNat allHeaderLength }

def side : Side S (dtlsClient S) where
  ssl client := client.ssl
  setSsl client ssl := { client with ssl := ssl }
  udpMaxLen := udpMaxLen
  xtraMaxLen _ xtraPkt := udpMaxLen xtraPkt
  fill := fill
  fillXtra := fill

/-- The object of a new connection, which starts in `DOWN`. -/
def createStateData (o : OpenSSL S) (localIP remoteIP : UInt32) (localPort remotePort : UInt16) :
    State (Ptr (dtlsClient S)) :=
  State.new States.DOWN (.to
    { ssl := o.SSL_new
      localIP := localIP
      remoteIP := remoteIP
      remotePort := remotePort
      localPort := localPort })

variable [DecidableEq P]

def writeAllDataAvailable (o : OpenSSL S) (fuel : Nat) (pkt : P) :
    Code P (Ptr (dtlsClient S)) (Heap P Mbuf) :=
  side.writeAllDataAvailable o fuel pkt fun _ => .done

/-- The only function that receives nothing. -/
def initHandshake (o : OpenSSL S) (fuel : Nat) :
    StateFun P (Ptr (dtlsClient S)) (Heap P Mbuf) := fun _ pkt =>
  withSsl side o.SSL_connect <| side.writeAllDataAvailable o fuel pkt fun ret =>
    if ret ≥ 1 then .transition States.HANDSHAKE .done else .throw

/-- `"FIRST PACKET"` and the null byte. -/
def firstPacket : List UInt8 := ("FIRST PACKET".toList.map fun c => UInt8.ofNat c.toNat) ++ [0]

/-- The first packet of an established connection; here the IHL is set before it is used. -/
def fillFirst (client : dtlsClient S) (bytes : List UInt8) (xtraPkt : Mbuf) : Mbuf :=
  let ipv4 := sizeofEthernet
  let m := Ethernet.setEthertype xtraPkt.data Ethernet.ETHERTYPE_IPv4
  let m := IPv4.setVersion m ipv4
  let m := IPv4.setIHL m ipv4 5
  let m := IPv4.setProtoUDP m ipv4
  let m := IPv4.setSrcIP m ipv4 client.localIP
  let m := IPv4.setDstIP m ipv4 client.remoteIP
  let m := IPv4.clearChecksum m ipv4
  let m := IPv4.setTtl m ipv4 64
  let udp := IPv4.getPayload m ipv4
  let m := m.write (Udp.getPayload udp) bytes
  let dataLen := UInt16.ofNat bytes.length
  let m := IPv4.setPayloadLength m ipv4 (dataLen + UInt16.ofNat sizeofUdp)
  let m := Udp.setDstPort m udp client.remotePort
  let m := Udp.setSrcPort m udp client.localPort
  let m := Udp.setPayloadLength m udp dataLen
  { xtraPkt with data := m, dataLen := dataLen + UInt16.ofNat allHeaderLength }

def writeFirst (o : OpenSSL S) : Code P (Ptr (dtlsClient S)) (Heap P Mbuf) :=
  .getPkt fun xtraPkt => object fun client w =>
    let (written, ssl) := o.SSL_write client.ssl firstPacket
    if written ≠ firstPacket.length then .throw
    else
      .put (.to { client with ssl := ssl }) w
        (writeRecord side o (fun _ => 1280) fillFirst xtraPkt .done)

def runHandshake (o : OpenSSL S) (fuel : Nat) : Receiver (dtlsClient S) P where
  before client _ := client
  after pkt :=
    withSsl side o.SSL_connect <| side.writeAllDataAvailable o fuel pkt fun _ =>
      object fun client _ =>
        if o.SSL_is_init_finished client.ssl then .transition States.ESTABLISHED (writeFirst o)
        else .done

def sendData (o : OpenSSL S) (fuel : Nat) : Receiver (dtlsClient S) P where
  before client _ := client
  after pkt :=
    object fun client w =>
      let (buf, ssl) := o.SSL_read client.ssl 20
      -- `assert(readLen > 0)`
      if buf = [] then .throw
      else
        .put (.to { client with ssl := (o.SSL_shutdown ssl).2 }) w (writeAllDataAvailable o fuel pkt)

def runTeardown (o : OpenSSL S) (fuel : Nat) : Receiver (dtlsClient S) P where
  before client _ := client
  after pkt :=
    object fun client w =>
      let (ret, ssl) := o.SSL_shutdown client.ssl
      if ret = 1 then
        -- `SSL_free` and `delete`
        .put .dangling w (.freePkt (writeAllDataAvailable o fuel pkt))
      else .put (.to { client with ssl := ssl }) w (writeAllDataAvailable o fuel pkt)

/-- The functions that are registered, but for `initHandshake`. -/
def receivers (o : OpenSSL S) (fuel : Nat) : List (Receiver (dtlsClient S) P) :=
  [runHandshake o fuel, sendData o fuel, runTeardown o fuel]

def configStateMachine (o : OpenSSL S) (fuel : Nat) (getPktCB : Heap P Mbuf → P × Heap P Mbuf)
    (sm : StateMachine K P (Ptr (dtlsClient S)) (Heap P Mbuf)) :
    StateMachine K P (Ptr (dtlsClient S)) (Heap P Mbuf) :=
  let sm := sm.registerFunction States.DOWN (initHandshake o fuel)
  let sm := sm.registerFunction States.HANDSHAKE ((runHandshake o fuel).code side o)
  let sm := sm.registerFunction States.ESTABLISHED ((sendData o fuel).code side o)
  let sm := sm.registerFunction States.RUN_TEARDOWN ((runTeardown o fuel).code side o)
  let sm := sm.registerGetPktCB getPktCB
  sm.registerEndStateID States.DELETED

end DTLS_Client

end MoonState
