/-
The life of one TCP connection.

A `Session` is a connection with the state it is in, from the SYN it was opened
with on, and with what a run of it has seen so far: the bytes the protocol passed
to `sendData`, the bytes it was handed, the highest ACK number, and whether a FIN
was accepted.  The connection never reads these.

`Session.Run` is any sequence of packets that are processed in the state `est`.
`Life` follows the connection into `ack_fin`, up to its end.
-/
import MoonState.Model.Tcp

namespace MoonState.TCP

open Headers

structure Session (σ κ : Type) where
  conn : Connection σ κ
  state : StateID
  stream : List UInt8
  received : List UInt8
  acked : UInt32
  finished : Bool

/-- The bytes of a call on the `TcpIface`. -/
def IfaceCall.bytes : IfaceCall → List UInt8
  | .close => []
  | .sendData data => data

variable {σ κ : Type}

/-- The bytes the protocol passed to `sendData`. -/
def Outcome.stream (o : Outcome σ κ) : List UInt8 := o.calls.flatMap IfaceCall.bytes

/-- Where the code finds the TCP header of a packet. -/
def Mbuf.tcp (f : Mbuf) : Nat := IPv4.getPayload f.data sizeofEthernet

/-- The packet once it is turned around: what the code reads the fields of. -/
def Mbuf.swapped (f : Mbuf) : Mem := swapAddresses f.data sizeofEthernet f.tcp

/-- `runEst` accepts the packet as the segment it expects. -/
def Expected (c : Connection σ κ) (f : Mbuf) : Prop :=
  badFlags f.swapped f.tcp = false ∧ Tcp.getSeq f.swapped f.tcp = c.seqRemote

instance (c : Connection σ κ) (f : Mbuf) : Decidable (Expected c f) :=
  inferInstanceAs (Decidable (_ ∧ _))

namespace Session

/-- A connection as `runSynAck` leaves it. -/
def accept (proto : Proto σ) (conCtl : ConCtl κ) (syn : Mbuf) : Session σ κ :=
  let o := runSynAck (factory proto conCtl) syn
  { conn := o.conn, state := o.newState.getD States.syn_ack, stream := [], received := []
    acked := 0, finished := false }

/-- The ACK number counts where the flags are right. -/
def packet (proto : Proto σ) (conCtl : ConCtl κ) (s : Session σ κ) (f : Mbuf) : Session σ κ :=
  let o := runEst proto conCtl s.conn f
  { conn := o.conn
    state := o.newState.getD s.state
    stream := s.stream ++ o.stream
    received := s.received ++ o.handed
    acked := if badFlags f.swapped f.tcp then s.acked
      else max s.acked (Tcp.getAck f.swapped f.tcp)
    finished := s.finished || (decide (Expected s.conn f) && Tcp.getFinFlag f.swapped f.tcp) }

/-- `s'` is reached from `s` by packets processed in `est` that all met the condition `ok`. -/
inductive Run (proto : Proto σ) (conCtl : ConCtl κ) (ok : Session σ κ → Mbuf → Prop)
    (s : Session σ κ) : Session σ κ → Prop
  | refl : Run proto conCtl ok s s
  | step {s' : Session σ κ} (f : Mbuf) (h : Run proto conCtl ok s s') (hest : s'.state = States.est)
      (hok : ok s' f) : Run proto conCtl ok s (s'.packet proto conCtl f)

end Session

/-! ### Closing -/

/-- `runAckFin` accepts the packet. -/
def Accepted (c : Connection σ κ) (f : Mbuf) : Prop :=
  badFlags f.swapped f.tcp = false ∧ Tcp.getAck f.swapped f.tcp = c.seqLocal ∧
    Tcp.getSeq f.swapped f.tcp = c.seqRemote

instance (c : Connection σ κ) (f : Mbuf) : Decidable (Accepted c f) :=
  inferInstanceAs (Decidable (_ ∧ _))

/-- A session, and whether the peer has acknowledged the server's FIN. -/
structure Life (σ κ : Type) where
  session : Session σ κ
  finAcked : Bool

namespace Life

def accept (proto : Proto σ) (conCtl : ConCtl κ) (syn : Mbuf) : Life σ κ :=
  { session := Session.accept proto conCtl syn, finAcked := false }

/-- What the function of the state makes of a packet. -/
def answer (proto : Proto σ) (conCtl : ConCtl κ) (x : Life σ κ) (f : Mbuf) : Outcome σ κ :=
  if x.session.state = States.est then runEst proto conCtl x.session.conn f
  else runAckFin x.session.conn f

/-- A packet in `est` or in `ack_fin`; there the server's FIN is the last number before
`seqLocal`. -/
def packet (proto : Proto σ) (conCtl : ConCtl κ) (x : Life σ κ) (f : Mbuf) : Life σ κ :=
  if x.session.state = States.est then { x with session := x.session.packet proto conCtl f }
  else
    let o := runAckFin x.session.conn f
    { session := { x.session with
        conn := o.conn
        state := o.newState.getD x.session.state
        finished := x.session.finished ||
          (decide (Expected x.session.conn f) && Tcp.getFinFlag f.swapped f.tcp) }
      finAcked := x.finAcked || (!badFlags f.swapped f.tcp &&
        decide (Tcp.getAck f.swapped f.tcp = x.session.conn.seqLocal)) }

/-- Both directions are closed: each side has its FIN acknowledged, or seen. -/
def Closed (x : Life σ κ) : Prop := x.session.finished = true ∧ x.finAcked = true

instance (x : Life σ κ) : Decidable x.Closed := inferInstanceAs (Decidable (_ ∧ _))

end Life

end MoonState.TCP
