/-
Astraeus (`include/astraeusServer.hpp`, `src/astraeusServer.cpp`, `include/astraeusClient.hpp`,
`src/astraeusClient.cpp`).

The two sides of a connection shake hands through a library that is not part of the
source: a function hands it the payload of its packet, and the library writes its answer
over it.  `AstraeusProto` is what is called of the library, which is not told how long
the payload is.

A function does not set the IHL of its answer, and takes the payload to be behind 42
bytes whatever the IHL is.  The headers are where the IHL says.

What is `thread_local` in the source is of a core here: the key pair and the identity,
which the library makes handles from, and the nonce.
-/
import MoonState.Model.Cores
import MoonState.Model.Dtls
import MoonState.Model.FiveTuple

namespace MoonState

open Headers
open DTLS (Mbuf allHeaderLength)
open IPv4_5TupleL2Ident (ConnectionID)

instance : Inhabited Mbuf := ⟨⟨fun _ => 0, 0, 0⟩⟩

/-- What is called of the library.  An `H` is a `protoHandle`, with the random numbers it is going
to need, and an `L` is what handles are made from.  The functions for the payload tell what they
write there and how much of it is to be sent. -/
structure AstraeusProto (H L : Type) (noncelen : Nat) where
  generateHandleGivenKey : L → H × L
  /-- the payload is the memory the pointer points to -/
  handleHandshakeServer : H → Mem → H × List UInt8 × Int
  handleHandshakeClient : H → Mem → H × List UInt8 × Int
  handshakeOngoing : H → Bool
  generateInitGivenHandleAndNonce : H → BitVec (8 * noncelen) → H × List UInt8 × Int

/-- `addStateNoFun`, of the machine of a program. -/
def Instance.addStateNoFun {K D B R : Type} [DecidableEq K] (x : Instance K D B R) (id : K)
    (st : State D) : Instance K D B R :=
  if st.state = x.sm.endStateID then x
  else { x with connPool := FMap.insertNew id st x.connPool }

namespace Astraeus

/-! ### What the sides do alike -/

structure astraeusClient (H : Type) where
  handle : H
  localIP : UInt32
  remoteIP : UInt32
  localPort : UInt16
  remotePort : UInt16

variable {H L R : Type} {noncelen : Nat}

/-- `pkt->getData()` and the sizes of the headers. -/
def payload (m : Mem) : Mem := fun k => m (allHeaderLength + k)

/-- The header of an answer. -/
def astraeusClient.setHeader (client : astraeusClient H) (m : Mem) (sendLen : Int) : Mem :=
  let ipv4 := sizeofEthernet
  let udp := IPv4.getPayload m ipv4
  let m := IPv4.clearChecksum m ipv4
  let m := IPv4.setDstIP m ipv4 client.remoteIP
  let m := IPv4.setSrcIP m ipv4 client.localIP
  let m := IPv4.setPayloadLength m ipv4 (UInt16.ofInt (sizeofUdp + sendLen))
  let m := Udp.clearChecksum m udp
  let m := Udp.setDstPort m udp client.remotePort
  let m := Udp.setSrcPort m udp client.localPort
  Udp.setPayloadLength m udp (UInt16.ofInt sendLen)

/-- The packet after the library has written to it. -/
def astraeusClient.answer (client : astraeusClient H) (bytes : List UInt8) (sendLen : Int)
    (pkt : Mbuf) : Mbuf :=
  { pkt with
    data := client.setHeader (pkt.data.write allHeaderLength bytes) sendLen
    dataLen := UInt16.ofInt (sendLen + allHeaderLength) }

/-- `runHandshake`, with the function of the library and the state the sides have for it. -/
def runHandshake (o : AstraeusProto H L noncelen) (handleHandshake : H → Mem → H × List UInt8 × Int)
    (DELETED : StateID) : Responder (Ptr (astraeusClient H)) Mbuf R := fun stateData pkt r =>
  match stateData with
  | .to client =>
    let (handle, bytes, sendLen) := handleHandshake client.handle (payload pkt.data)
    let client := { client with handle := handle }
    some
      { stateData := .to client
        newState := if o.handshakeOngoing handle then none else some DELETED
        pkt := client.answer bytes sendLen pkt
        rest := r
        free := decide (sendLen ≤ 0) }
  | _ => none

/-- `sendData` and `runTeardown`. -/
def finish (DELETED : StateID) : Responder (Ptr (astraeusClient H)) Mbuf R := fun stateData pkt r =>
  some ⟨stateData, some DELETED, pkt, r, false⟩

end Astraeus

open Astraeus

variable {H L : Type} {noncelen : Nat}

/-! ### The server -/

namespace Astraeus_Server

namespace States

def HANDSHAKE : StateID := 0

def ESTABLISHED : StateID := 1

def RUN_TEARDOWN : StateID := 2

def DELETED : StateID := 3

end States

variable (o : AstraeusProto H L noncelen)

def factory (id : ConnectionID) (lib : L) : Option (Ptr (astraeusClient H) × L) :=
  let (handle, lib) := o.generateHandleGivenKey lib
  some (.to
    { handle := handle
      localIP := Bytes.htonl id.dstIP
      remoteIP := Bytes.htonl id.srcIP
      localPort := Bytes.htons id.dstPort
      remotePort := Bytes.htons id.srcPort }, lib)

def runHandshake : Responder (Ptr (astraeusClient H)) Mbuf L :=
  Astraeus.runHandshake o o.handleHandshakeServer States.DELETED

def sendData : Responder (Ptr (astraeusClient H)) Mbuf L := finish States.DELETED

def runTeardown : Responder (Ptr (astraeusClient H)) Mbuf L := finish States.DELETED

/-- `configStateMachine`. -/
def service : Service ConnectionID (Ptr (astraeusClient H)) Mbuf L where
  responders := [some (runHandshake o), some sendData, some runTeardown]
  small := by simp
  startStateID := States.HANDSHAKE
  endStateID := States.DELETED
  factory := some (factory o)
  listenToConnections := true
  ident pkt := IPv4_5TupleL2Ident.identify pkt.data

end Astraeus_Server

/-! ### The client -/

namespace Astraeus_Client

namespace States

def DOWN : StateID := 0

def HANDSHAKE : StateID := 1

def ESTABLISHED : StateID := 2

def RUN_TEARDOWN : StateID := 3

def DELETED : StateID := 4

end States

/-- What a core has for itself; `sodium_increment` is an addition, the least significant byte of
the nonce is the first. -/
structure Own (L : Type) (noncelen : Nat) where
  lib : L
  nonce : BitVec (8 * noncelen)

/-- `astraeus_C_config`. -/
structure Config where
  dstIP : UInt32
  dstPort : UInt16

variable (o : AstraeusProto H L noncelen)

/-- `createStateData`, without the `State` around the object: its state is `DOWN`, and the only
caller sets another one. -/
def createStateData (localIP remoteIP : UInt32) (localPort remotePort : UInt16)
    (own : Own L noncelen) : astraeusClient H × Own L noncelen :=
  let (handle, lib) := o.generateHandleGivenKey own.lib
  (⟨handle, localIP, remoteIP, localPort, remotePort⟩, { own with lib := lib })

def initHandshakeNoTransition (client : astraeusClient H) (pkt : Mbuf) (own : Own L noncelen) :
    astraeusClient H × Mbuf × Own L noncelen :=
  let (handle, bytes, sendLen) := o.generateInitGivenHandleAndNonce client.handle own.nonce
  let own := { own with nonce := own.nonce + 1 }
  let client := { client with handle := handle }
  (client, client.answer bytes sendLen pkt, own)

variable {ι : Type} [DecidableEq ι]

def initHandshake (i : ι) : Responder (Ptr (astraeusClient H)) Mbuf (ι → Own L noncelen) :=
  fun stateData pkt r =>
    match stateData with
    | .to client =>
      let (client, pkt, own) := initHandshakeNoTransition o client pkt (r i)
      some
        { stateData := .to client
          newState := some States.HANDSHAKE
          pkt := pkt
          rest := Function.update r i own
          free := false }
    | _ => none

def runHandshake : Responder (Ptr (astraeusClient H)) Mbuf (ι → Own L noncelen) :=
  Astraeus.runHandshake o o.handleHandshakeClient States.DELETED

def sendData : Responder (Ptr (astraeusClient H)) Mbuf (ι → Own L noncelen) := finish States.DELETED

def runTeardown : Responder (Ptr (astraeusClient H)) Mbuf (ι → Own L noncelen) :=
  finish States.DELETED

/-- `configStateMachine`, on a core. -/
def service (i : ι) : Service ConnectionID (Ptr (astraeusClient H)) Mbuf (ι → Own L noncelen) where
  responders := [some (initHandshake o i), some (runHandshake o), some sendData, some runTeardown]
  small := by simp
  startStateID := 0
  endStateID := States.DELETED
  factory := none
  listenToConnections := false
  ident pkt := IPv4_5TupleL2Ident.identify pkt.data

/-- The machines of a program, one on every core, with the pool they share. -/
abbrev Program (ι H L : Type) (noncelen : Nat) :=
  Cores ι ConnectionID (Ptr (astraeusClient H)) Mbuf (ι → Own L noncelen)

/-- `AstraeusClient_init`, on every core. -/
def init (lib : ι → L) : Program ι H L noncelen where
  sms i := (service o i).machine
  connPool := ∅
  rest i := ⟨lib i, 0⟩

/-- The 5-tuple of what a connection receives. -/
def connectionID (config : Config) (srcIP : UInt32) (srcPort : UInt16) : ConnectionID :=
  { dstIP := Bytes.htonl srcIP
    srcIP := Bytes.htonl config.dstIP
    dstPort := Bytes.htons srcPort
    srcPort := Bytes.htons config.dstPort
    proto := IPv4.PROTO_UDP }

/-- The body of the loop of `AstraeusClient_connect`, on core `i`. -/
def connectOne (config : Config) (i : ι) (srcIP : UInt32) (srcPort : UInt16) (pkt : Mbuf)
    (x : Program ι H L noncelen) : Program ι H L noncelen × Mbuf :=
  let cID := connectionID config srcIP srcPort
  let (client, own) := createStateData o srcIP config.dstIP srcPort config.dstPort (x.rest i)
  let (client, pkt, own) := initHandshakeNoTransition o client pkt own
  let x := { x with rest := Function.update x.rest i own }
  (x.put i ((x.core i).addStateNoFun cID (State.new States.HANDSHAKE (.to client))), pkt)

/-- `AstraeusClient_connect`, with the packets from number `k` on left. -/
def connect (config : Config) (i : ι) (srcIP : UInt32) (srcPort : UInt16) :
    Nat → List Mbuf → Program ι H L noncelen → Program ι H L noncelen × List Mbuf
  | _, [], x => (x, [])
  | k, pkt :: pkts, x =>
    let (x, pkt) := connectOne o config i srcIP (UInt16.ofNat (srcPort.toNat + k)) pkt x
    let (x, pkts) := connect config i srcIP srcPort (k + 1) pkts x
    (x, pkt :: pkts)

/-- `AstraeusClient_process`, on core `i`. -/
def process (pl : Service.Platform) (i : ι) (inPkts : InPkts Mbuf) (x : Program ι H L noncelen) :
    Except Fault (Program ι H L noncelen × List (Mbuf × Bool)) :=
  x.call (service o i) pl (.process i inPkts)

inductive Call (ι : Type)
  | connect (config : Config) (i : ι) (inPkts : List Mbuf) (srcIP : UInt32) (srcPort : UInt16)
  | process (i : ι) (inPkts : InPkts Mbuf)

/-- What a core does.  All packets of new connections are sent. -/
def call (pl : Service.Platform) (x : Program ι H L noncelen) :
    Call ι → Except Fault (Program ι H L noncelen × List (Mbuf × Bool))
  | .connect config i inPkts srcIP srcPort =>
    let (x, pkts) := connect o config i srcIP srcPort 0 inPkts x
    .ok (x, pkts.map fun pkt => (pkt, true))
  | .process i inPkts => process o pl i inPkts x

end Astraeus_Client

end MoonState
