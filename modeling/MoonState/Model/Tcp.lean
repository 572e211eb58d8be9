/-
The TCP server (`include/tcp.hpp`, `src/tcp.cpp`).

A connection is served by three state functions, each of which turns the packet it
is handed into the answer, in place.  `Proto` and `ConCtl` are the template
parameters: what a protocol does is the list of calls it makes on its `TcpIface`.
It owns the buffers it passes to `sendData`, so a buffer is the list of its bytes.

An `Outcome` is what the function leaves in the connection and in the packet, and
what it asks of its `FunIface`.  It also says what was handed to the protocol and
which calls the protocol made; the connection does not keep either.

In the send loop `firstPacket` is never cleared, so every segment is written to the
packet that was received and `getPkt` is not called.
-/
import MoonState.Model.StateMachine
import MoonState.Model.Headers

namespace MoonState.TCP

open Headers

def MSS : Nat := 1460

namespace States

def syn_ack : StateID := 0

def est : StateID := 1

def fin : StateID := 2

def ack_fin : StateID := 3

def END : StateID := 4

end States

/-- A packet: the memory from `getData()` on, and `getDataLen()`. -/
structure Mbuf where
  data : Mem
  dataLen : UInt16

/-- `data` is the buffer behind `dataPtr`; it may be longer than `dataLen`. -/
structure Segment where
  data : List UInt8
  seqNumber : UInt32
  dataLen : UInt16
deriving DecidableEq, Repr

/-- What is copied to a packet. -/
def Segment.bytes (s : Segment) : List UInt8 := s.data.take s.dataLen.toNat

/-- A call on the `TcpIface`. -/
inductive IfaceCall
  | close
  | sendData (data : List UInt8)

structure Proto (σ : Type) where
  init : σ
  handlePacket : σ → List UInt8 → List IfaceCall × σ

structure ConCtl (κ : Type) where
  init : κ
  handlePacket : κ → UInt32 → UInt32 → κ
  /-- `none` where it returns `false` -/
  reset : κ → Option UInt32 × κ
  getConWindow : κ → UInt32 × κ

structure Connection (σ κ : Type) where
  seqLocal : UInt32
  seqRemote : UInt32
  dataToSend : List Segment
  dataAlreadySent : List Segment
  sendWindow : UInt16
  ipID : UInt16
  closeConnectionAfterSending : Bool
  conCtl : κ
  proto : σ

variable {σ κ : Type}

/-- `new connection()`. -/
def factory (proto : Proto σ) (conCtl : ConCtl κ) : Connection σ κ where
  seqLocal := 0
  seqRemote := 0
  dataToSend := []
  dataAlreadySent := []
  sendWindow := 0
  ipID := 0
  closeConnectionAfterSending := false
  conCtl := conCtl.init
  proto := proto.init

/-! ### `TcpIface` -/

namespace Connection

/-- Fill a segment in and append it. -/
def enqueue (c : Connection σ κ) (data : List UInt8) (dataLen : Nat) : Connection σ κ :=
  { c with
    seqLocal := c.seqLocal + UInt32.ofNat dataLen
    dataToSend := c.dataToSend ++ [⟨data, c.seqLocal, UInt16.ofNat dataLen⟩] }

/-- The loop of `sendData`: every pass takes a byte at least, so as much fuel as there are bytes
is enough. -/
def sendRest (data : List UInt8) : Nat → Nat → Connection σ κ → Connection σ κ
  | 0, _, c => c
  | fuel + 1, totalLen, c =>
    if totalLen < data.length then
      let curSize := min (data.length - totalLen) MSS
      sendRest data fuel (totalLen + curSize)
        (c.enqueue ((data.drop totalLen).take curSize) curSize)
    else c

/-- The first segment reuses the given buffer. -/
def sendData (c : Connection σ κ) (data : List UInt8) : Connection σ κ :=
  if data.length ≤ MSS then c.enqueue data data.length
  else sendRest data data.length MSS (c.enqueue data MSS)

def close (c : Connection σ κ) : Connection σ κ := { c with closeConnectionAfterSending := true }

/-- A call of the protocol. -/
def iface (c : Connection σ κ) : IfaceCall → Connection σ κ
  | .close => c.close
  | .sendData data => c.sendData data

end Connection

/-! ### The answer to a packet -/

structure Outcome (σ κ : Type) where
  conn : Connection σ κ
  pkt : Mbuf
  /-- the argument of `transition`, if it is called -/
  newState : Option StateID
  free : Bool
  /-- the bytes `Proto::handlePacket` was called on -/
  handed : List UInt8
  /-- the calls it made -/
  calls : List IfaceCall

/-- Turn the packet around. -/
def swapAddresses (m : Mem) (ip tcp : Nat) : Mem :=
  let tmp := IPv4.getSrcIP m ip
  let m := IPv4.setSrcIP m ip (IPv4.getDstIP m ip)
  let m := IPv4.setDstIP m ip tmp
  let tmp16 := Tcp.getSrcPort m tcp
  let m := Tcp.setSrcPort m tcp (Tcp.getDstPort m tcp)
  let m := Tcp.setDstPort m tcp tmp16
  let m := IPv4.setTtl m ip 64
  IPv4.clearChecksum m ip

/-- `sizeof(Ethernet) + sizeof(IPv4) + sizeof(Tcp) + n`. -/
def frameLen (n : UInt16) : UInt16 := UInt16.ofNat (sizeofEthernet + sizeofIPv4 + sizeofTcp) + n

def runSynAck (c : Connection σ κ) (pkt : Mbuf) : Outcome σ κ :=
  let ip := sizeofEthernet
  let tcp := IPv4.getPayload pkt.data ip
  let m := swapAddresses pkt.data ip tcp
  let m := IPv4.setPayloadLength m ip (UInt16.ofNat sizeofTcp)
  if !Tcp.getSynFlag m tcp || Tcp.getAckFlag m tcp || Tcp.getFinFlag m tcp ||
      Tcp.getRstFlag m tcp then
    let m := Tcp.clearFlags m tcp
    let m := Tcp.setRstFlag m tcp
    { conn := c, pkt := { pkt with data := m }, newState := some States.END
      free := false, handed := [], calls := [] }
  else
    let c := { c with seqRemote := Tcp.getSeq m tcp + 1, seqLocal := 0 }
    let m := Tcp.setAck m tcp c.seqRemote
    let curSeqNo := c.seqLocal
    let c := { c with seqLocal := c.seqLocal + 1 }
    let m := Tcp.setSeq m tcp curSeqNo
    let m := Tcp.setAckFlag m tcp
    let m := Tcp.setOffset m tcp 5
    let pkt := { data := m, dataLen := frameLen 0 }
    let seg := { data := pkt.data.read 0 pkt.dataLen.toNat, seqNumber := curSeqNo
                 dataLen := pkt.dataLen }
    { conn := { c with dataAlreadySent := c.dataAlreadySent ++ [seg] }, pkt := pkt
      newState := some States.est, free := false, handed := [], calls := [] }

/-! ### `runEst` -/

/-- Some flag doesn't add up. -/
def badFlags (m : Mem) (tcp : Nat) : Bool :=
  Tcp.getSynFlag m tcp || !Tcp.getAckFlag m tcp || Tcp.getRstFlag m tcp

/-- The answer then. -/
def abort (c : Connection σ κ) (m : Mem) (ip tcp : Nat) : Outcome σ κ :=
  let m := Tcp.clearFlags m tcp
  let m := Tcp.setRstFlag m tcp
  let m := Tcp.setAck m tcp 0
  let m := Tcp.setSeq m tcp c.seqLocal
  let m := IPv4.setPayloadLength m ip (UInt16.ofNat sizeofTcp)
  { conn := c, pkt := { data := m, dataLen := frameLen 0 }, newState := some States.END
    free := false, handed := [], calls := [] }

namespace Connection

/-- Erase all the old acknowledged segments. -/
def eraseAcked (c : Connection σ κ) (ack : UInt32) : Connection σ κ :=
  { c with dataAlreadySent :=
      c.dataAlreadySent.filter fun i => !decide (ack > i.seqNumber + i.dataLen.toUInt32) }

/-- Put the segments after `resetSeq` back, each to the front. -/
def resend (c : Connection σ κ) (resetSeq : UInt32) : Connection σ κ :=
  { c with
    dataToSend :=
      (c.dataAlreadySent.filter fun i => decide (i.seqNumber > resetSeq)).reverse ++ c.dataToSend
    dataAlreadySent := c.dataAlreadySent.filter fun i => !decide (i.seqNumber > resetSeq) }

/-- Run whatever congestion control magic we have. -/
def control (conCtl : ConCtl κ) (c : Connection σ κ) (ack : UInt32) : Connection σ κ :=
  match conCtl.reset (conCtl.handlePacket c.conCtl c.seqLocal ack) with
  | (none, k) => { c with conCtl := k }
  | (some resetSeq, k) => ({ c with conCtl := k } : Connection σ κ).resend resetSeq

/-- What `runEst` does for every packet with the right flags. -/
def acknowledge (conCtl : ConCtl κ) (c : Connection σ κ) (m : Mem) (tcp : Nat) :
    Connection σ κ :=
  let c := c.eraseAcked (Tcp.getAck m tcp)
  let c := c.control conCtl (Tcp.getAck m tcp)
  { c with sendWindow := Tcp.getWindow m tcp }

end Connection

/-- The header of an answer. -/
def answerHeader (c : Connection σ κ) (m : Mem) (tcp : Nat) : Mem :=
  let m := Tcp.clearFlags m tcp
  let m := Tcp.setAckFlag m tcp
  let m := Tcp.setSeq m tcp c.seqLocal
  let m := Tcp.setAck m tcp c.seqRemote
  Tcp.setOffset m tcp 5

/-- The packet was not expected: play Go-Back-N. -/
def goBackN (c : Connection σ κ) (m : Mem) (ip tcp : Nat) : Outcome σ κ :=
  let m := answerHeader c m tcp
  let m := IPv4.setPayloadLength m ip (UInt16.ofNat sizeofTcp)
  let m := match c.dataToSend with
    | [] => Tcp.setSeq m tcp c.seqLocal
    | front :: _ => Tcp.setSeq m tcp front.seqNumber
  let m := Tcp.setWindow m tcp (UInt16.ofNat (4 * MSS))
  { conn := c, pkt := { data := m, dataLen := frameLen 0 }, newState := none
    free := false, handed := [], calls := [] }

/-- The TCP payload length, as both computations of it in the source have it. -/
def payloadLen (m : Mem) (ip tcp : Nat) : UInt16 :=
  IPv4.getPayloadLength m ip - (Tcp.getHeaderLen m tcp).toUInt16

/-- Advance `seqRemote` over the payload and the FIN. -/
def Connection.advance (c : Connection σ κ) (m : Mem) (ip tcp : Nat) : Connection σ κ :=
  let c := { c with seqRemote := Tcp.getSeq m tcp + (payloadLen m ip tcp).toUInt32 }
  if Tcp.getFinFlag m tcp then
    { c with closeConnectionAfterSending := true, seqRemote := c.seqRemote + 1 }
  else c

/-- What the protocol is handed and what it does about it. -/
structure Delivery (σ : Type) where
  handed : List UInt8
  calls : List IfaceCall
  proto : σ

/-- Pump data into the protocol implementation. -/
def deliver (proto : Proto σ) (st : σ) (m : Mem) (ip tcp : Nat) : Delivery σ :=
  let dataLen := payloadLen m ip tcp
  if dataLen > 0 then
    let handed := m.read (Tcp.getPayload tcp) dataLen.toNat
    { handed := handed, calls := (proto.handlePacket st handed).1
      proto := (proto.handlePacket st handed).2 }
  else { handed := [], calls := [], proto := st }

/-! ### Sending -/

/-- The variables of the send loop. -/
structure Sending where
  dataToSend : List Segment
  dataAlreadySent : List Segment
  ipID : UInt16
  pkt : Mbuf
  tcp : Nat
  freePkt : Bool

/-- Write a segment to the packet, and remember it as sent. -/
def Sending.put (s : Sending) (seg : Segment) : Sending :=
  let ip := sizeofEthernet
  let tcp := IPv4.getPayload s.pkt.data ip
  let m := s.pkt.data.write (Tcp.getPayload tcp) seg.bytes
  let m := IPv4.setId m ip s.ipID
  let m := Tcp.setWindow m tcp (UInt16.ofNat (4 * MSS))
  let m := IPv4.setPayloadLength m ip (UInt16.ofNat sizeofTcp + seg.dataLen)
  let m := Tcp.setSeq m tcp seg.seqNumber
  { dataToSend := s.dataToSend
    dataAlreadySent := s.dataAlreadySent ++ [seg]
    ipID := s.ipID + 1
    pkt := { data := m, dataLen := frameLen seg.dataLen }
    tcp := tcp
    freePkt := false }

/-- A segment of which only a part can be sent: what is put on the list of sent segments, and
what goes back to the queue.  `dataLen` is overwritten before the rest is computed. -/
def Segment.split (seg : Segment) (curSend : UInt16) : Segment × Segment :=
  let segmentToSend := { seg with dataLen := curSend }
  let rest := segmentToSend.dataLen - curSend
  let moved := (segmentToSend.data.drop curSend.toNat).take rest.toNat
  let oldModSeg :=
    { data := moved, seqNumber := segmentToSend.seqNumber + curSend.toUInt32, dataLen := rest }
  ({ segmentToSend with data := moved ++ segmentToSend.data.drop rest.toNat, dataLen := rest },
    oldModSeg)

/-- The send loop.  When a segment is split `alreadySent` has reached `maxSend`, and the loop
ends. -/
def sendLoop (maxSend : UInt32) : List Segment → UInt32 → Sending → Sending
  | [], _, s => { s with dataToSend := [] }
  | seg :: rest, alreadySent, s =>
    if maxSend > alreadySent then
      let curSend := min seg.dataLen (maxSend - alreadySent).toUInt16
      if curSend = seg.dataLen then
        sendLoop maxSend rest (alreadySent + curSend.toUInt32) (s.put seg)
      else
        { s.put (seg.split curSend).1 with dataToSend := (seg.split curSend).2 :: rest }
    else { s with dataToSend := seg :: rest }

/-- How much may be sent, if anything is queued. -/
def maxSend (conCtl : ConCtl κ) (c : Connection σ κ) : UInt32 :=
  min c.sendWindow.toUInt32 (conCtl.getConWindow c.conCtl).1

/-- Send what is queued. -/
def transmit (conCtl : ConCtl κ) (c : Connection σ κ) (pkt : Mbuf) (tcp : Nat) (freePkt : Bool) :
    Connection σ κ × Sending :=
  let s : Sending :=
    { dataToSend := c.dataToSend, dataAlreadySent := c.dataAlreadySent, ipID := c.ipID
      pkt := pkt, tcp := tcp, freePkt := freePkt }
  if c.dataToSend = [] then (c, s)
  else
    let s := sendLoop (maxSend conCtl c) c.dataToSend 0 s
    ({ c with
        dataToSend := s.dataToSend
        dataAlreadySent := s.dataAlreadySent
        ipID := s.ipID
        conCtl := (conCtl.getConWindow c.conCtl).2 }, s)

/-- The end of `runEst`: set FIN once everything is sent, and mark the packet. -/
def finish (c : Connection σ κ) (s : Sending) (d : Delivery σ) : Outcome σ κ :=
  if c.closeConnectionAfterSending && c.dataToSend.isEmpty then
    { conn := { c with seqLocal := c.seqLocal + 1 }
      pkt := { s.pkt with data := Tcp.setFinFlag s.pkt.data s.tcp }
      newState := some States.ack_fin, free := false, handed := d.handed, calls := d.calls }
  else
    { conn := c, pkt := s.pkt, newState := none, free := s.freePkt, handed := d.handed
      calls := d.calls }

/-- `runEst` from the point where the packet is known to be the expected one. -/
def serve (proto : Proto σ) (conCtl : ConCtl κ) (c : Connection σ κ) (pkt : Mbuf) (ip tcp : Nat) :
    Outcome σ κ :=
  let c := c.advance pkt.data ip tcp
  let m := answerHeader c pkt.data tcp
  let d := deliver proto c.proto m ip tcp
  let c := d.calls.foldl Connection.iface { c with proto := d.proto }
  let freePkt := !decide (payloadLen m ip tcp > 0)
  let t := transmit conCtl c { pkt with data := m } tcp freePkt
  finish t.1 t.2 d

def runEst (proto : Proto σ) (conCtl : ConCtl κ) (c : Connection σ κ) (pkt : Mbuf) :
    Outcome σ κ :=
  let ip := sizeofEthernet
  let tcp := IPv4.getPayload pkt.data ip
  let m := swapAddresses pkt.data ip tcp
  if badFlags m tcp then abort c m ip tcp
  else
    let c := c.acknowledge conCtl m tcp
    if Tcp.getSeq m tcp ≠ c.seqRemote then goBackN c m ip tcp
    else serve proto conCtl c { pkt with data := m } ip tcp

/-! ### `runAckFin` -/

def runAckFin (c : Connection σ κ) (pkt : Mbuf) : Outcome σ κ :=
  let ip := sizeofEthernet
  let tcp := IPv4.getPayload pkt.data ip
  let m := swapAddresses pkt.data ip tcp
  if Tcp.getSynFlag m tcp || !Tcp.getAckFlag m tcp || Tcp.getRstFlag m tcp ||
      Tcp.getAck m tcp ≠ c.seqLocal || Tcp.getSeq m tcp ≠ c.seqRemote then
    let m := Tcp.clearFlags m tcp
    let m := Tcp.setRstFlag m tcp
    { conn := c, pkt := { pkt with data := m }, newState := some States.END
      free := false, handed := [], calls := [] }
  else if Tcp.getFinFlag m tcp then
    let c := { c with seqLocal := c.seqLocal + 1, seqRemote := Tcp.getSeq m tcp }
    let m := Tcp.setSeq m tcp c.seqLocal
    let m := Tcp.setAck m tcp (c.seqRemote + 1)
    let m := Tcp.clearFlags m tcp
    let m := Tcp.setAckFlag m tcp
    let m := Tcp.setOffset m tcp 5
    { conn := c, pkt := { pkt with data := m }, newState := some States.END
      free := false, handed := [], calls := [] }
  else
    { conn := c, pkt := { pkt with data := m }, newState := none
      free := true, handed := [], calls := [] }

/-! ### The joke server -/

/-- `TcpProtoJoke` sends back what it receives. -/
def TcpProtoJoke : Proto Unit where
  init := ()
  handlePacket := fun st data => ([.sendData data], st)

/-- The attributes of `TcpConCtlSimple`. -/
structure AckCount where
  lastAck : UInt32
  alreadySeen : UInt32
deriving DecidableEq, Repr

/-- `TcpConCtlSimple` asks for a reset when an ACK is seen for the fourth time. -/
def TcpConCtlSimple : ConCtl AckCount where
  init := { lastAck := 0, alreadySeen := 0 }
  handlePacket := fun k seq ack =>
    if k.lastAck = ack ∧ ack < seq then { k with alreadySeen := k.alreadySeen + 1 }
    else { lastAck := ack, alreadySeen := 0 }
  reset := fun k => if k.alreadySeen ≥ 3 then (some k.lastAck, k) else (none, k)
  getConWindow := fun k => (0xffffffff, k)

end MoonState.TCP
