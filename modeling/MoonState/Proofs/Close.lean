/-
Closing a connection.

The server sends its FIN from `est` and then waits in `ack_fin`, where the function
is a different one.  It accepts only what acknowledges everything and comes next in
the sequence; anything else it answers with RST.  A packet it accepts ends the
connection if it carries a FIN, and is dropped if it does not.

So the two orders of a close both go wrong.  Where the peer's FIN came before the
server's, the last ACK carries none, and the connection stays.  Where it comes
after, the answer to it counts the server's FIN twice.
-/
import MoonState.Lib.Steps
import MoonState.Proofs.Frames

namespace MoonState.TCP

open Headers

variable {σ κ : Type}

/-- The packet of a peer that keeps to the protocol: an IPv4 header of full length, ACK set, SYN
and RST clear. -/
structure Orderly (f : Mbuf) : Prop where
  ihl : 5 ≤ f.ihl
  flags : badFlags f.swapped f.tcp = false

theorem Orderly.tcp_eq {f : Mbuf} (h : Orderly f) :
    sizeofEthernet + 20 ≤ f.tcp ∧ IPv4.getPayload f.swapped sizeofEthernet = f.tcp := by
  have hle : sizeofEthernet + 20 ≤ f.tcp := by
    have h5 : 5 ≤ (IPv4.ihl f.data sizeofEthernet).toNat := h.ihl
    show sizeofEthernet + 20 ≤ sizeofEthernet + 4 * (IPv4.ihl f.data sizeofEthernet).toNat
    omega
  exact ⟨hle, IPv4.getPayload_congr (swapAddresses_of_ne (by omega) (by omega))⟩

/-! ### `runAckFin` -/

section ackFin

variable {c : Connection σ κ} {f : Mbuf}

/-- The test that `runAckFin` refuses a packet by. -/
def refused (c : Connection σ κ) (m : Mem) (tcp : Nat) : Bool :=
  Tcp.getSynFlag m tcp || !Tcp.getAckFlag m tcp || Tcp.getRstFlag m tcp ||
    Tcp.getAck m tcp ≠ c.seqLocal || Tcp.getSeq m tcp ≠ c.seqRemote

/-- The answer to a FIN. -/
def finAnswer (c : Connection σ κ) (m : Mem) (tcp : Nat) : Mem :=
  Tcp.setOffset (Tcp.setAckFlag (Tcp.clearFlags (Tcp.setAck (Tcp.setSeq m tcp (c.seqLocal + 1)) tcp
    (Tcp.getSeq m tcp + 1)) tcp) tcp) tcp 5

theorem runAckFin_eq (c : Connection σ κ) (f : Mbuf) : runAckFin c f
    = if refused c f.swapped f.tcp then
        { conn := c
          pkt := { f with data := Tcp.setRstFlag (Tcp.clearFlags f.swapped f.tcp) f.tcp }
          newState := some States.END, free := false, handed := [], calls := [] }
      else if Tcp.getFinFlag f.swapped f.tcp then
        { conn := { c with
            seqLocal := c.seqLocal + 1
            seqRemote := Tcp.getSeq f.swapped f.tcp }
          pkt := { f with data := finAnswer c f.swapped f.tcp }
          newState := some States.END, free := false, handed := [], calls := [] }
      else
        { conn := c, pkt := { f with data := f.swapped }, newState := none, free := true
          handed := [], calls := [] } :=
  rfl

theorem refused_eq_false : refused c f.swapped f.tcp = false ↔ Accepted c f := by
  unfold refused Accepted badFlags
  rw [Bool.or_eq_false_iff, Bool.or_eq_false_iff, decide_eq_false_iff_not, decide_eq_false_iff_not,
    not_not, not_not, and_assoc]

theorem runAckFin_of_fin (h : Accepted c f) (hfin : Tcp.getFinFlag f.swapped f.tcp = true) :
    (runAckFin c f).newState = some States.END ∧ (runAckFin c f).free = false ∧
      (runAckFin c f).pkt.data = finAnswer c f.swapped f.tcp := by
  rw [runAckFin_eq, if_neg (by rw [refused_eq_false.mpr h]; simp), if_pos hfin]
  exact ⟨rfl, rfl, rfl⟩

theorem runAckFin_of_not_fin (h : Accepted c f) (hfin : Tcp.getFinFlag f.swapped f.tcp = false) :
    (runAckFin c f).newState = none ∧ (runAckFin c f).free = true := by
  rw [runAckFin_eq, if_neg (by rw [refused_eq_false.mpr h]; simp), if_neg (by rw [hfin]; simp)]
  exact ⟨rfl, rfl⟩

/-- What it does not accept it answers with RST. -/
theorem runAckFin_of_not_accepted (h : ¬ Accepted c f) :
    (runAckFin c f).newState = some States.END ∧ (runAckFin c f).free = false ∧
      (runAckFin c f).pkt.data = Tcp.setRstFlag (Tcp.clearFlags f.swapped f.tcp) f.tcp := by
  have hyes : refused c f.swapped f.tcp = true := by
    by_contra hc
    exact h (refused_eq_false.mp (Bool.not_eq_true _ ▸ hc))
  rw [runAckFin_eq, if_pos hyes]
  exact ⟨rfl, rfl, rfl⟩

/-- The numbers and flags of the answer to a FIN. -/
theorem finAnswer_fields (c : Connection σ κ) (m : Mem) (tcp : Nat) :
    Tcp.getSeq (finAnswer c m tcp) tcp = c.seqLocal + 1 ∧
      Tcp.getAck (finAnswer c m tcp) tcp = Tcp.getSeq m tcp + 1 ∧
      Tcp.getRstFlag (finAnswer c m tcp) tcp = false := by
  unfold finAnswer
  refine ⟨?_, ?_, ?_⟩
  · refine (Mem.Same.get32 fun j _ _ => ?_).trans (getSeq_setSeq m tcp (c.seqLocal + 1))
    unfold Tcp.setOffset Tcp.setAckFlag Tcp.clearFlags Tcp.setAck
    rw [Mem.set8_of_ne _ (by omega), Mem.set8_of_ne _ (by omega), Mem.set8_of_ne _ (by omega),
      Mem.set32_of_ne _ (by omega)]
  · refine (Mem.Same.get32 fun j _ _ => ?_).trans (Mem.get32_set32 (Tcp.setSeq m tcp
      (c.seqLocal + 1)) (tcp + 8) (Tcp.getSeq m tcp + 1))
    unfold Tcp.setOffset Tcp.setAckFlag Tcp.clearFlags Tcp.setAck
    rw [Mem.set8_of_ne _ (by omega), Mem.set8_of_ne _ (by omega), Mem.set8_of_ne _ (by omega)]
  · unfold Tcp.getRstFlag Tcp.flags Tcp.setOffset
    rw [Mem.set8_of_ne _ (by omega)]
    unfold Tcp.setAckFlag Tcp.flags Tcp.clearFlags
    rw [Mem.set8_self, Mem.set8_self]
    decide

end ackFin

/-! ### The flags `runEst` answers with -/

/-- The answer has its TCP header at `t`, with the flags `fl`. -/
structure Flagged (m : Mem) (t : Nat) (fl : UInt8) : Prop where
  start : IPv4.getPayload m sizeofEthernet = t
  flags : Tcp.flags m t = fl

theorem Flagged.put {s : Sending} {t : Nat} {fl : UInt8} (h : Flagged s.pkt.data t fl)
    (seg : Segment) : Flagged (s.put seg).pkt.data t fl ∧ (s.put seg).tcp = t := by
  have htcp : (s.put seg).tcp = t := h.start
  have hle := put_tcp_bounds s seg
  refine ⟨⟨(getPayload_put s seg).trans htcp, ?_⟩, htcp⟩
  rw [htcp] at hle
  exact (Tcp.flags_congr (put_of_lt (by omega) (by omega) (by omega) (by omega))).trans h.flags

/-- Whatever is sent, the flags stay. -/
theorem Flagged.sendLoop {t : Nat} {fl : UInt8} (maxSend : UInt32) :
    ∀ (queue : List Segment) (alreadySent : UInt32) {s : Sending}, Flagged s.pkt.data t fl →
      s.tcp = t → Flagged (TCP.sendLoop maxSend queue alreadySent s).pkt.data t fl ∧
        (TCP.sendLoop maxSend queue alreadySent s).tcp = t := by
  intro queue
  induction queue with
  | nil => exact fun _ _ h htcp => ⟨h, htcp⟩
  | cons seg rest ih =>
      intro alreadySent s h htcp
      rw [TCP.sendLoop]
      split
      · dsimp only
        split
        · obtain ⟨hput, htcp'⟩ := h.put seg
          exact ih _ hput htcp'
        · exact h.put (seg.split _).1
      · exact ⟨h, htcp⟩

theorem flags_answerHeader (c : Connection σ κ) (m : Mem) (t : Nat) :
    Tcp.flags (answerHeader c m t) t = 0x10 := by
  unfold answerHeader Tcp.flags
  dsimp only
  unfold Tcp.setOffset Tcp.setAck Tcp.setSeq
  rw [Mem.set8_of_ne _ (by omega), Mem.set32_of_ne _ (by omega), Mem.set32_of_ne _ (by omega)]
  unfold Tcp.setAckFlag Tcp.flags Tcp.clearFlags
  rw [Mem.set8_self, Mem.set8_self]
  rfl

/-- ACK alone is not RST, and ACK with FIN is not. -/
theorem Flagged.not_rst {m : Mem} {t : Nat} (h : Flagged m t 0x10) :
    Tcp.getRstFlag m t = false ∧ Tcp.getRstFlag (Tcp.setFinFlag m t) t = false := by
  unfold Tcp.getRstFlag Tcp.setFinFlag
  rw [h.flags]
  refine ⟨by decide, ?_⟩
  unfold Tcp.flags
  rw [Mem.set8_self]
  decide

section est

variable (proto : Proto σ) (conCtl : ConCtl κ) {c : Connection σ κ} {f : Mbuf}

theorem goBackN_flagged {m : Mem} {tcp : Nat} (h : IPv4.getPayload m sizeofEthernet = tcp) :
    Flagged (goBackN c m sizeofEthernet tcp).pkt.data tcp 0x10 := by
  have hle : sizeofEthernet ≤ tcp := h ▸ (IPv4.getPayload_bounds m sizeofEthernet).1
  refine ⟨(goBackN_head h).start, ?_⟩
  rw [← flags_answerHeader c m tcp]
  refine Tcp.flags_congr ?_
  unfold goBackN
  dsimp only
  have hset : ∀ seq, Tcp.setWindow (Tcp.setSeq (IPv4.setPayloadLength (answerHeader c m tcp)
      sizeofEthernet (UInt16.ofNat sizeofTcp)) tcp seq) tcp (UInt16.ofNat (4 * MSS)) (tcp + 13)
      = answerHeader c m tcp (tcp + 13) := by
    intro seq
    unfold Tcp.setWindow Tcp.setSeq IPv4.setPayloadLength
    rw [Mem.set16_of_ne _ (by omega), Mem.set32_of_ne _ (by omega), Mem.set16_of_ne _ (by omega)]
  cases c.dataToSend with
  | nil => exact hset _
  | cons front rest => exact hset _

/-- What sending leaves in the packet. -/
theorem transmitted_flagged (h : Orderly f) :
    Flagged (transmitted proto conCtl c f).2.pkt.data f.tcp 0x10 ∧
      (transmitted proto conCtl c f).2.tcp = f.tcp := by
  have hpkt : Flagged (pktAtSend conCtl c f).data f.tcp 0x10 :=
    ⟨(pktAtSend_head conCtl c h.tcp_eq.2).start, flags_answerHeader _ _ _⟩
  unfold transmitted transmit
  generalize pktAtSend conCtl c f = p at hpkt ⊢
  generalize atSend proto conCtl c f = d
  dsimp only
  split
  · exact ⟨hpkt, rfl⟩
  · exact Flagged.sendLoop _ _ _ hpkt rfl

/-- **To an orderly peer `runEst` answers without RST**, and it does not end the connection. -/
theorem runEst_orderly (h : Orderly f) :
    Tcp.getRstFlag (runEst proto conCtl c f).pkt.data (runEst proto conCtl c f).pkt.tcp = false ∧
      ((runEst proto conCtl c f).newState = none ∨
        (runEst proto conCtl c f).newState = some States.ack_fin) := by
  rcases runEst_cases c f with hbad | ⟨hflags, hseq⟩ | he
  · rw [h.flags] at hbad
    exact absurd hbad (by decide)
  · rw [runEst_of_unexpected proto conCtl hflags hseq]
    have hfl := goBackN_flagged (c := c.acknowledge conCtl f.swapped f.tcp) h.tcp_eq.2
    refine ⟨?_, Or.inl rfl⟩
    rw [show (goBackN (c.acknowledge conCtl f.swapped f.tcp) f.swapped sizeofEthernet f.tcp).pkt.tcp
      = f.tcp from hfl.start]
    exact hfl.not_rst.1
  · rw [runEst_eq_finish proto conCtl he]
    obtain ⟨hfl, htcp⟩ := transmitted_flagged (c := c) proto conCtl h
    obtain ⟨hno, hnoFin⟩ := hfl.not_rst
    unfold finish
    split
    · refine ⟨?_, Or.inr rfl⟩
      dsimp only
      rw [htcp]
      have hstart : (Mbuf.mk (Tcp.setFinFlag (transmitted proto conCtl c f).2.pkt.data f.tcp)
          (transmitted proto conCtl c f).2.pkt.dataLen).tcp = f.tcp := by
        refine (IPv4.getPayload_congr (Mem.set8_of_ne _ ?_)).trans hfl.start
        have := h.tcp_eq.1
        omega
      rw [hstart]
      exact hnoFin
    · refine ⟨?_, Or.inl rfl⟩
      dsimp only
      rw [show (transmitted proto conCtl c f).2.pkt.tcp = f.tcp from hfl.start]
      exact hno

end est

/-! ### A connection up to its end -/

namespace Life

variable (proto : Proto σ) (conCtl : ConCtl κ)

/-- A packet of an orderly peer, in `est` or in `ack_fin`. -/
def OrderlyStep (x : Life σ κ) (f : Mbuf) : Prop :=
  (x.session.state = States.est ∨ x.session.state = States.ack_fin) ∧ Orderly f

/-- The packets of an orderly peer, up to the end of the connection. -/
def OrderlyRun (x : Life σ κ) (fs : List Mbuf) : Prop :=
  Throughout (packet proto conCtl) OrderlyStep x fs

variable {proto conCtl} {x : Life σ κ} {f : Mbuf}

theorem packet_est (h : x.session.state = States.est) : x.packet proto conCtl f
    = { x with session := x.session.packet proto conCtl f } :=
  if_pos h

theorem answer_est (h : x.session.state = States.est) :
    x.answer proto conCtl f = runEst proto conCtl x.session.conn f :=
  if_pos h

theorem answer_ackFin (h : x.session.state = States.ack_fin) :
    x.answer proto conCtl f = runAckFin x.session.conn f :=
  if_neg (by rw [h]; decide)

variable (proto conCtl f) in
/-- What a packet in `ack_fin` changes besides the connection. -/
theorem packet_ackFin (h : x.session.state = States.ack_fin) :
    (x.packet proto conCtl f).session.state
        = (runAckFin x.session.conn f).newState.getD States.ack_fin ∧
      (x.packet proto conCtl f).session.finished = (x.session.finished ||
        (decide (Expected x.session.conn f) && Tcp.getFinFlag f.swapped f.tcp)) ∧
      (x.packet proto conCtl f).finAcked = (x.finAcked || (!badFlags f.swapped f.tcp &&
        decide (Tcp.getAck f.swapped f.tcp = x.session.conn.seqLocal))) := by
  unfold packet
  rw [if_neg (by rw [h]; decide)]
  refine ⟨?_, rfl, rfl⟩
  rw [← h]

variable (proto conCtl) in
/-- What is accepted is expected, and acknowledges the server's FIN. -/
theorem packet_accepted (h : x.session.state = States.ack_fin) (ha : Accepted x.session.conn f) :
    (x.packet proto conCtl f).session.finished
        = (x.session.finished || Tcp.getFinFlag f.swapped f.tcp) ∧
      (x.packet proto conCtl f).finAcked = true := by
  obtain ⟨-, hfin, hacked⟩ := packet_ackFin proto conCtl f h
  obtain ⟨hflags, hack, hseq⟩ := ha
  have he : decide (Expected x.session.conn f) = true := decide_eq_true ⟨hflags, hseq⟩
  rw [hfin, hacked, he, hflags, hack]
  simp

/-! ### Does a close complete? -/

/-- Once both directions are closed the connection has ended, and a FIN that is accepted in
`ack_fin` is answered with the number behind it and with the number the peer acknowledged. -/
structure Completes (proto : Proto σ) (conCtl : ConCtl κ) (x : Life σ κ) (f : Mbuf) : Prop where
  ends : (x.packet proto conCtl f).Closed → (x.packet proto conCtl f).session.state = States.END
  answers : x.session.state = States.ack_fin → Accepted x.session.conn f →
    Tcp.getFinFlag f.swapped f.tcp = true →
    Tcp.getSeq (x.answer proto conCtl f).pkt.data (x.answer proto conCtl f).pkt.tcp
        = x.session.conn.seqLocal ∧
      Tcp.getAck (x.answer proto conCtl f).pkt.data (x.answer proto conCtl f).pkt.tcp
        = Tcp.getSeq f.swapped f.tcp
          + (payloadLen f.swapped sizeofEthernet f.tcp).toUInt32 + 1

/-- The packet does not complete the close: it does not acknowledge the server's FIN with the
peer's FIN in it or before it. -/
def StaysOpen (x : Life σ κ) (f : Mbuf) : Prop :=
  x.session.state = States.ack_fin → Accepted x.session.conn f →
    Tcp.getFinFlag f.swapped f.tcp = false ∧ x.session.finished = false

theorem finAnswer_tcp (c : Connection σ κ) (h : Orderly f) :
    IPv4.getPayload (finAnswer c f.swapped f.tcp) sizeofEthernet = f.tcp := by
  obtain ⟨hle, hstart⟩ := h.tcp_eq
  refine (IPv4.getPayload_congr ?_).trans hstart
  unfold finAnswer Tcp.setOffset Tcp.setAckFlag Tcp.clearFlags Tcp.setAck Tcp.setSeq
  rw [Mem.set8_of_ne _ (by omega), Mem.set8_of_ne _ (by omega), Mem.set8_of_ne _ (by omega),
    Mem.set32_of_ne _ (by omega), Mem.set32_of_ne _ (by omega)]

/-- **One packet** keeps what is said of a close exactly when it does not complete it. -/
theorem completes_iff (hstate : x.session.state = States.est ∨ x.session.state = States.ack_fin)
    (hopen : x.session.state = States.est → x.finAcked = false) (h : Orderly f) :
    x.Completes proto conCtl f ↔ x.StaysOpen f := by
  rcases hstate with hest | hfin
  · refine ⟨fun _ hc => ?_, fun _ => ⟨fun hc => ?_, fun hc => ?_⟩⟩
    · rw [hest] at hc
      exact absurd hc (by decide)
    · have hacked : (x.packet proto conCtl f).finAcked = x.finAcked := by rw [packet_est hest]
      rw [Closed, hacked, hopen hest] at hc
      exact absurd hc.2 (by decide)
    · rw [hest] at hc
      exact absurd hc (by decide)
  obtain ⟨hst, -, -⟩ := packet_ackFin proto conCtl f hfin
  constructor
  · intro hcomp _ ha
    obtain ⟨hfinished, hacked⟩ := packet_accepted proto conCtl hfin ha
    have hno : Tcp.getFinFlag f.swapped f.tcp = false := by
      by_contra hc
      rw [Bool.not_eq_false] at hc
      obtain ⟨hseq, -⟩ := hcomp.answers hfin ha hc
      obtain ⟨-, -, hdata⟩ := runAckFin_of_fin ha hc
      rw [answer_ackFin hfin, show (runAckFin x.session.conn f).pkt.tcp = f.tcp by
        unfold Mbuf.tcp
        rw [hdata]
        exact finAnswer_tcp x.session.conn h, hdata, (finAnswer_fields _ _ _).1] at hseq
      have hnat := congrArg UInt32.toNat hseq
      rw [UInt32.toNat_add] at hnat
      have := x.session.conn.seqLocal.toNat_lt
      simp at hnat
      omega
    refine ⟨hno, ?_⟩
    by_contra hc
    rw [Bool.not_eq_false] at hc
    have hend := hcomp.ends ⟨by rw [hfinished, hc]; rfl, hacked⟩
    rw [hst, (runAckFin_of_not_fin ha hno).1] at hend
    exact absurd hend (by decide)
  · intro hopen
    by_cases ha : Accepted x.session.conn f
    · obtain ⟨hno, hf⟩ := hopen hfin ha
      obtain ⟨hfinished, -⟩ := packet_accepted proto conCtl hfin ha
      refine ⟨fun hc => ?_, fun _ _ hc => ?_⟩
      · rw [Closed, hfinished, hf, hno] at hc
        exact absurd hc.1 (by decide)
      · rw [hno] at hc
        exact absurd hc (by decide)
    · refine ⟨fun _ => ?_, fun _ hc => absurd hc ha⟩
      rw [hst, (runAckFin_of_not_accepted ha).1]
      rfl

variable (proto conCtl) in
/-- Nothing is acknowledged of a FIN that was not sent. -/
theorem keeps_open (h : x.session.state = States.est → x.finAcked = false)
    (hstep : x.OrderlyStep f) :
    (x.packet proto conCtl f).session.state = States.est →
      (x.packet proto conCtl f).finAcked = false := by
  obtain ⟨hstate, -⟩ := hstep
  intro hest
  rcases hstate with hx | hx
  · have hacked : (x.packet proto conCtl f).finAcked = x.finAcked := by rw [packet_est hx]
    rw [hacked, h hx]
  · rw [(packet_ackFin proto conCtl f hx).1] at hest
    by_cases ha : Accepted x.session.conn f
    · cases hfin : Tcp.getFinFlag f.swapped f.tcp with
      | true =>
          rw [(runAckFin_of_fin ha hfin).1] at hest
          exact absurd hest (by decide)
      | false =>
          rw [(runAckFin_of_not_fin ha hfin).1] at hest
          exact absurd hest (by decide)
    · rw [(runAckFin_of_not_accepted ha).1] at hest
      exact absurd hest (by decide)

/--
**A close does not complete.**

For every protocol, congestion control and orderly peer, from the handshake on: each
packet of a run keeps what is said of a close exactly when none of them completes it.
-/
theorem completes_run_iff (proto : Proto σ) (conCtl : ConCtl κ) (syn : Mbuf) (fs : List Mbuf)
    (h : OrderlyRun proto conCtl (accept proto conCtl syn) fs) :
    Throughout (packet proto conCtl) (Completes proto conCtl) (accept proto conCtl syn) fs ↔
      Throughout (packet proto conCtl) StaysOpen (accept proto conCtl syn) fs := by
  have hstart : (accept proto conCtl syn).session.state = States.est →
      (accept proto conCtl syn).finAcked = false := fun _ => rfl
  refine Throughout.congr_of_invariant (fun x f => keeps_open proto conCtl) ?_ hstart h
  intro x f hopen hf
  exact completes_iff hf.1 hopen hf.2

/-! ### Is an orderly peer reset? -/

/-- Until both directions are closed, a packet is not answered with RST and does not end the
connection. -/
def NotReset (proto : Proto σ) (conCtl : ConCtl κ) (x : Life σ κ) (f : Mbuf) : Prop :=
  (x.packet proto conCtl f).Closed ∨
    (((x.answer proto conCtl f).free = true ∨
        Tcp.getRstFlag (x.answer proto conCtl f).pkt.data (x.answer proto conCtl f).pkt.tcp
          = false) ∧
      (x.packet proto conCtl f).session.state ≠ States.END)

/-- In `ack_fin` a packet acknowledges all that was sent and comes next in the sequence, or with it
both directions are closed. -/
def Exact (x : Life σ κ) (f : Mbuf) : Prop :=
  x.session.state = States.ack_fin → Accepted x.session.conn f ∨
    ((x.session.finished = true ∨
        (Expected x.session.conn f ∧ Tcp.getFinFlag f.swapped f.tcp = true)) ∧
      (x.finAcked = true ∨ Tcp.getAck f.swapped f.tcp = x.session.conn.seqLocal))

theorem closed_ackFin (hfin : x.session.state = States.ack_fin) (h : Orderly f) :
    (x.packet proto conCtl f).Closed ↔
      ((x.session.finished = true ∨
          (Expected x.session.conn f ∧ Tcp.getFinFlag f.swapped f.tcp = true)) ∧
        (x.finAcked = true ∨ Tcp.getAck f.swapped f.tcp = x.session.conn.seqLocal)) := by
  obtain ⟨-, hfinished, hacked⟩ := packet_ackFin proto conCtl f hfin
  unfold Closed
  rw [hfinished, hacked, h.flags, Bool.or_eq_true, Bool.or_eq_true, Bool.and_eq_true,
    Bool.and_eq_true, decide_eq_true_eq, decide_eq_true_eq]
  simp

/-- **One packet** of an orderly peer is not answered with RST exactly when it is exact. -/
theorem notReset_iff (hstate : x.session.state = States.est ∨ x.session.state = States.ack_fin)
    (h : Orderly f) : x.NotReset proto conCtl f ↔ x.Exact f := by
  rcases hstate with hest | hfin
  · obtain ⟨hrst, hnew⟩ := runEst_orderly proto conCtl (c := x.session.conn) h
    refine ⟨fun _ hc => ?_, fun _ => Or.inr ⟨Or.inr ?_, ?_⟩⟩
    · rw [hest] at hc
      exact absurd hc (by decide)
    · rw [answer_est hest]
      exact hrst
    · have hst : (x.packet proto conCtl f).session.state
          = (runEst proto conCtl x.session.conn f).newState.getD States.est := by
        rw [packet_est hest, ← hest]
        rfl
      rw [hst]
      rcases hnew with hnew | hnew <;> rw [hnew] <;> decide
  obtain ⟨hst, -, -⟩ := packet_ackFin proto conCtl f hfin
  by_cases ha : Accepted x.session.conn f
  · refine ⟨fun _ _ => Or.inl ha, fun _ => ?_⟩
    obtain ⟨hfinished, hacked⟩ := packet_accepted proto conCtl hfin ha
    cases hflag : Tcp.getFinFlag f.swapped f.tcp with
    | true => exact Or.inl ⟨by rw [hfinished, hflag, Bool.or_true], hacked⟩
    | false =>
        obtain ⟨hnew, hfree⟩ := runAckFin_of_not_fin ha hflag
        refine Or.inr ⟨Or.inl ?_, ?_⟩
        · rw [answer_ackFin hfin]
          exact hfree
        · rw [hst, hnew]
          decide
  · obtain ⟨hnew, -, -⟩ := runAckFin_of_not_accepted ha
    have hend : (x.packet proto conCtl f).session.state = States.END := by
      rw [hst, hnew]
      rfl
    unfold NotReset Exact
    rw [closed_ackFin hfin h]
    constructor
    · rintro (hc | ⟨-, hc⟩)
      · exact fun _ => Or.inr hc
      · exact absurd hend hc
    · intro hexact
      exact Or.inl ((hexact hfin).resolve_left ha)

/--
**When an orderly peer is not reset.**

For every protocol, congestion control and connection: no packet of a run of an orderly
peer is answered with RST, and none ends the connection, before both directions are
closed, exactly when each packet that arrives in `ack_fin` before that acknowledges
everything the server has sent, its FIN included, and comes next in the sequence.
-/
theorem notReset_run_iff (proto : Proto σ) (conCtl : ConCtl κ) (x : Life σ κ) (fs : List Mbuf)
    (h : OrderlyRun proto conCtl x fs) :
    Throughout (packet proto conCtl) (NotReset proto conCtl) x fs ↔
      Throughout (packet proto conCtl) Exact x fs := by
  refine Throughout.congr_of_invariant (P := fun _ => True) (fun _ _ _ _ => trivial) ?_ trivial h
  intro x f _ hf
  exact notReset_iff hf.1 hf.2

end Life

/-! ### Two bytes, and both sides close -/

/-- A packet without payload from a peer that has sent two bytes and its FIN. -/
def ackFrame (ack : UInt8) : Mbuf :=
  .ofBytes (List.replicate 14 0 ++ ipv4Bytes 40 ++ tcpBytes 11 ack 0x50 0x10 32)

/-- The joke server got two bytes and a FIN, and has sent both back. -/
def closing : Life Unit AckCount :=
  (Life.accept TcpProtoJoke TcpConCtlSimple synFrame).packet TcpProtoJoke TcpConCtlSimple helloFrame

/-- Both directions close, and a third packet arrives. -/
theorem closing_orderly (ack : UInt8) (h : Orderly (ackFrame ack)) :
    Life.OrderlyRun TcpProtoJoke TcpConCtlSimple
      (Life.accept TcpProtoJoke TcpConCtlSimple synFrame) [helloFrame, ackFrame ack] :=
  ⟨⟨Or.inl (by decide), ⟨by decide, by decide⟩⟩,
    ⟨Or.inr (show closing.session.state = States.ack_fin by decide), h⟩, trivial⟩

theorem ackFrame_orderly : Orderly (ackFrame 2) ∧ Orderly (ackFrame 4) :=
  ⟨⟨by decide, by decide⟩, ⟨by decide, by decide⟩⟩

/-- The last ACK acknowledges everything: both directions are closed, and the connection stays in
`ack_fin`. -/
theorem close_not_completed :
    Life.OrderlyRun TcpProtoJoke TcpConCtlSimple
        (Life.accept TcpProtoJoke TcpConCtlSimple synFrame) [helloFrame, ackFrame 4] ∧
      closing.session.state = States.ack_fin ∧
      (closing.packet TcpProtoJoke TcpConCtlSimple (ackFrame 4)).Closed ∧
      ¬ closing.Completes TcpProtoJoke TcpConCtlSimple (ackFrame 4) ∧
      ¬ Throughout (Life.packet TcpProtoJoke TcpConCtlSimple)
        (Life.Completes TcpProtoJoke TcpConCtlSimple)
        (Life.accept TcpProtoJoke TcpConCtlSimple synFrame) [helloFrame, ackFrame 4] := by
  have hno : ¬ closing.Completes TcpProtoJoke TcpConCtlSimple (ackFrame 4) :=
    fun h => absurd (h.ends (by decide)) (by decide)
  exact ⟨closing_orderly 4 ackFrame_orderly.2, by decide, by decide, hno, fun h => hno h.2.1⟩

/-- An ACK that is not accepted does not complete the close, and ends the connection. -/
theorem Life.completes_run_iff_closing :
    Throughout (packet TcpProtoJoke TcpConCtlSimple) (Completes TcpProtoJoke TcpConCtlSimple)
      (accept TcpProtoJoke TcpConCtlSimple synFrame) [helloFrame, ackFrame 2] := by
  refine (Life.completes_run_iff TcpProtoJoke TcpConCtlSimple synFrame [helloFrame, ackFrame 2]
    (closing_orderly 2 ackFrame_orderly.1)).mpr ⟨?_, ?_, trivial⟩
  · intro hstate
    exact absurd hstate (by decide)
  · intro _ haccepted
    have hacked : Accepted closing.session.conn (ackFrame 2) := haccepted
    exact absurd hacked (by decide)

/-- An ACK of the first byte only, which is next in the sequence, is answered with RST and ends
the connection. -/
theorem orderly_reset :
    Life.OrderlyRun TcpProtoJoke TcpConCtlSimple
        (Life.accept TcpProtoJoke TcpConCtlSimple synFrame) [helloFrame, ackFrame 2] ∧
      closing.session.state = States.ack_fin ∧
      closing.session.acked = 1 ∧ Tcp.getAck (ackFrame 2).swapped (ackFrame 2).tcp = 2 ∧
      closing.session.conn.seqLocal = 4 ∧ Expected closing.session.conn (ackFrame 2) ∧
      ¬ closing.NotReset TcpProtoJoke TcpConCtlSimple (ackFrame 2) ∧
      ¬ Throughout (Life.packet TcpProtoJoke TcpConCtlSimple)
        (Life.NotReset TcpProtoJoke TcpConCtlSimple)
        (Life.accept TcpProtoJoke TcpConCtlSimple synFrame) [helloFrame, ackFrame 2] := by
  have hno : ¬ closing.NotReset TcpProtoJoke TcpConCtlSimple (ackFrame 2) := by
    rintro (hc | ⟨-, hend⟩)
    · exact absurd hc (by decide)
    · exact hend (by decide)
  exact ⟨closing_orderly 2 ackFrame_orderly.1, by decide, by decide, by decide, by decide,
    by decide, hno, fun h => hno h.2.1⟩

/-- An ACK of everything is not answered with RST. -/
theorem Life.notReset_run_iff_closing :
    Throughout (packet TcpProtoJoke TcpConCtlSimple) (NotReset TcpProtoJoke TcpConCtlSimple)
      (accept TcpProtoJoke TcpConCtlSimple synFrame) [helloFrame, ackFrame 4] := by
  refine (Life.notReset_run_iff TcpProtoJoke TcpConCtlSimple _ [helloFrame, ackFrame 4]
    (closing_orderly 4 ackFrame_orderly.2)).mpr ⟨?_, ?_, trivial⟩
  · intro hstate
    exact absurd hstate (by decide)
  · intro _
    have hacked : Accepted closing.session.conn (ackFrame 4) := by decide
    exact Or.inl hacked

end MoonState.TCP
