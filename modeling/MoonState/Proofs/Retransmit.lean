/-
What an ACK does to the segments that have been sent.

The erase loop takes the sequence number after a segment for the segment's last
byte, so it keeps one segment too many: the one that ends exactly at the ACK.

A reset moves segments from one list to the front of the other, each in front of
the one before, and leaves the segment the reset is about where it was.  What
results is ordered only if no more than one segment is moved.

`Resendable` is when a reset does what it is for, in terms of the segments that are
left after the erase loop.
-/
import MoonState.Proofs.Receive

namespace MoonState.TCP

open Headers

variable {σ κ : Type}

/-- The sequence number after the segment, below the wrap-around. -/
def Segment.stop (s : Segment) : Nat := s.seqNumber.toNat + s.dataLen.toNat

/-! ### The erase loop -/

/-- What `runEst` compares the ACK with. -/
theorem Segment.toNat_stop {s : Segment} (h : s.stop < 2 ^ 32) :
    (s.seqNumber + s.dataLen.toUInt32).toNat = s.stop := by
  simp only [UInt32.toNat_add, UInt16.toNat_toUInt32]
  exact Nat.mod_eq_of_lt h

/-- The segments with a byte that is not acknowledged. -/
def Connection.unacked (c : Connection σ κ) (ack : UInt32) : List Segment :=
  c.dataAlreadySent.filter fun s => decide (ack.toNat < s.stop)

/-- The loop keeps what has not been acknowledged, and what ends at the ACK. -/
theorem Connection.mem_eraseAcked_iff {c : Connection σ κ} {ack : UInt32}
    (hwrap : ∀ s ∈ c.dataAlreadySent, s.stop < 2 ^ 32) {s : Segment} :
    s ∈ (c.eraseAcked ack).dataAlreadySent ↔ s ∈ c.dataAlreadySent ∧ ack.toNat ≤ s.stop := by
  refine List.mem_filter.trans (and_congr_right fun hs => ?_)
  rw [Bool.not_eq_true', decide_eq_false_iff_not, gt_iff_lt, UInt32.lt_iff_toNat_lt,
    Segment.toNat_stop (hwrap s hs)]
  exact Nat.not_lt

/--
**The segments an ACK leaves.**

For every list of segments below the wrap-around and every ACK number: the erase loop
leaves exactly the segments with a byte that is not acknowledged, in order, if and only
if no segment ends where the ACK stands.
-/
theorem Connection.eraseAcked_iff (c : Connection σ κ) (ack : UInt32)
    (hwrap : ∀ s ∈ c.dataAlreadySent, s.stop < 2 ^ 32) :
    (c.eraseAcked ack).dataAlreadySent = c.unacked ack ↔
      ∀ s ∈ c.dataAlreadySent, s.stop ≠ ack.toNat := by
  constructor
  · intro h s hs hstop
    have hkept : s ∈ (c.eraseAcked ack).dataAlreadySent :=
      (mem_eraseAcked_iff hwrap).mpr ⟨hs, Nat.le_of_eq hstop.symm⟩
    rw [h] at hkept
    have hlt : ack.toNat < s.stop := by simpa using (List.mem_filter.mp hkept).2
    omega
  · intro h
    refine List.filter_congr fun s hs => ?_
    have hne := h s hs
    have hiff : ack > s.seqNumber + s.dataLen.toUInt32 ↔ s.stop < ack.toNat := by
      rw [gt_iff_lt, UInt32.lt_iff_toNat_lt, Segment.toNat_stop (hwrap s hs)]
    rw [← decide_not, decide_eq_decide, hiff]
    omega

/-- A connection that has sent three segments of five bytes, and got an ACK for the first two
sequence numbers twice. -/
def threeSent : Connection Unit AckCount :=
  { factory TcpProtoJoke TcpConCtlSimple with
    seqLocal := 16
    seqRemote := 8
    dataAlreadySent :=
      [⟨[1, 2, 3, 4, 5], 1, 5⟩, ⟨[6, 7, 8, 9, 10], 6, 5⟩, ⟨[11, 12, 13, 14, 15], 11, 5⟩]
    conCtl := { lastAck := 1, alreadySeen := 2 } }

/-- An ACK for anything but a segment end leaves what it should. -/
theorem Connection.eraseAcked_iff_three :
    (threeSent.eraseAcked 7).dataAlreadySent = threeSent.unacked 7 ↔
      ∀ s ∈ threeSent.dataAlreadySent, s.stop ≠ 7 :=
  Connection.eraseAcked_iff threeSent 7 (by decide)

/-- The first segment is acknowledged up to its last byte, and kept. -/
theorem Connection.eraseAcked_not_exact :
    (∀ s ∈ threeSent.dataAlreadySent, s.stop < 2 ^ 32) ∧
      ⟨[1, 2, 3, 4, 5], 1, 5⟩ ∈ (threeSent.eraseAcked 6).dataAlreadySent ∧
      (threeSent.eraseAcked 6).dataAlreadySent ≠ threeSent.unacked 6 := by
  decide

/-! ### The reset -/

/-- In ascending sequence order. -/
def Ascending (l : List Segment) : Prop := l.Pairwise fun s t => s.seqNumber ≤ t.seqNumber

instance (l : List Segment) : Decidable (Ascending l) :=
  inferInstanceAs (Decidable (l.Pairwise _))

/-- The segments that start after a sequence number. -/
def Connection.after (c : Connection σ κ) (r : UInt32) : List Segment :=
  c.dataAlreadySent.filter fun s => decide (s.seqNumber > r)

/-- Bytes of the segment at or after `r` have not been acknowledged. -/
def Segment.Pending (ack r : UInt32) (s : Segment) : Prop := max ack.toNat r.toNat < s.stop

instance (ack r : UInt32) (s : Segment) : Decidable (s.Pending ack r) :=
  inferInstanceAs (Decidable (_ < _))

/-- `c'` is the connection `c` with everything from `r` on back in the queue. -/
structure Retransmits (c c' : Connection σ κ) (ack r : UInt32) : Prop where
  queued : ∀ s ∈ c.dataAlreadySent, s.Pending ack r → s ∈ c'.dataToSend
  gone : ∀ s ∈ c.dataAlreadySent, s.Pending ack r → s ∉ c'.dataAlreadySent
  ascending : Ascending c'.dataToSend
  inOrder : ∃ l, l.Sublist c.dataAlreadySent ∧ c'.dataToSend = l ++ c.dataToSend

/-- A reset at `r` does no harm: what is pending starts after `r`, reads the same in both
directions, and comes before what is queued. -/
structure Resendable (c : Connection σ κ) (ack r : UInt32) : Prop where
  starts : ∀ s ∈ c.dataAlreadySent, s.Pending ack r → s.seqNumber > r
  reverse : (c.after r).reverse = c.after r
  before : ∀ s ∈ c.after r, ∀ t ∈ c.dataToSend, s.seqNumber ≤ t.seqNumber

namespace Connection

theorem mem_after {c : Connection σ κ} {r : UInt32} {s : Segment} :
    s ∈ c.after r ↔ s ∈ c.dataAlreadySent ∧ s.seqNumber > r := by
  simp [after]

theorem resend_dataToSend (c : Connection σ κ) (r : UInt32) :
    (c.resend r).dataToSend = (c.after r).reverse ++ c.dataToSend :=
  rfl

theorem mem_resend_dataAlreadySent {c : Connection σ κ} {r : UInt32} {s : Segment} :
    s ∈ (c.resend r).dataAlreadySent ↔ s ∈ c.dataAlreadySent ∧ ¬ s.seqNumber > r := by
  simp [resend]

/-- A part of the sent segments that is as long as those after `r`, and starts after `r`, is
those after `r`. -/
theorem eq_after {c : Connection σ κ} {r : UInt32} {l : List Segment}
    (hsub : l.Sublist c.dataAlreadySent) (hlen : l.length = (c.after r).length)
    (hgt : ∀ s ∈ l, s.seqNumber > r) : l = c.after r := by
  have hfilter : l.filter (fun s => decide (s.seqNumber > r)) = l := by
    apply List.filter_eq_self.mpr
    intro s hs
    exact decide_eq_true (hgt s hs)
  have hpart := hsub.filter fun s => decide (s.seqNumber > r)
  rw [hfilter] at hpart
  exact hpart.eq_of_length hlen

/-- Resending is right exactly when the connection is resendable. -/
theorem resend_retransmits_iff {c : Connection σ κ} {ack r : UInt32}
    (hsent : Ascending c.dataAlreadySent) (hqueue : Ascending c.dataToSend) :
    Retransmits c (c.resend r) ack r ↔ Resendable c ack r := by
  constructor
  · intro h
    obtain ⟨l, hsub, hl⟩ := h.inOrder
    rw [resend_dataToSend] at hl
    have hrev : (c.after r).reverse = l := List.append_cancel_right hl
    have hafter : l = c.after r := by
      apply eq_after hsub
      · rw [← hrev, List.length_reverse]
      · intro s hs
        rw [← hrev, List.mem_reverse] at hs
        exact (mem_after.mp hs).2
    refine ⟨?_, hrev.trans hafter, ?_⟩
    · intro s hs hp
      by_contra hle
      exact h.gone s hs hp (mem_resend_dataAlreadySent.mpr ⟨hs, hle⟩)
    · intro s hs t ht
      have hasc := h.ascending
      rw [resend_dataToSend] at hasc
      exact (List.pairwise_append.mp hasc).2.2 s (List.mem_reverse.mpr hs) t ht
  · intro h
    have hqueue' : (c.resend r).dataToSend = c.after r ++ c.dataToSend := by
      rw [resend_dataToSend, h.reverse]
    refine ⟨?_, ?_, ?_, c.after r, List.filter_sublist, hqueue'⟩
    · intro s hs hp
      rw [hqueue', List.mem_append]
      exact Or.inl (mem_after.mpr ⟨hs, h.starts s hs hp⟩)
    · intro s hs hp hmem
      exact (mem_resend_dataAlreadySent.mp hmem).2 (h.starts s hs hp)
    · rw [hqueue']
      apply List.pairwise_append.mpr
      exact ⟨hsent.filter _, hqueue, h.before⟩

end Connection

/--
**Fast retransmit.**

For every connection with both lists in ascending sequence order and every packet with an
ACK at which the congestion control asks for a reset to `r`: the connection is back to
sending everything from `r` on, in order, exactly when the segments left after the erase
loop are resendable.
-/
theorem Connection.acknowledge_retransmits_iff (conCtl : ConCtl κ) (c : Connection σ κ) (f : Mbuf)
    (r : UInt32) (k : κ)
    (hreset : conCtl.reset (conCtl.handlePacket c.conCtl c.seqLocal (Tcp.getAck f.swapped f.tcp))
      = (some r, k))
    (hsent : Ascending c.dataAlreadySent) (hqueue : Ascending c.dataToSend) :
    Retransmits (c.eraseAcked (Tcp.getAck f.swapped f.tcp)) (c.acknowledge conCtl f.swapped f.tcp)
        (Tcp.getAck f.swapped f.tcp) r ↔
      Resendable (c.eraseAcked (Tcp.getAck f.swapped f.tcp)) (Tcp.getAck f.swapped f.tcp) r := by
  generalize hnum : Tcp.getAck f.swapped f.tcp = ack at hreset ⊢
  have hcontrol : (c.eraseAcked ack).control conCtl ack
      = ({ c.eraseAcked ack with conCtl := k } : Connection σ κ).resend r := by
    unfold control
    rw [show conCtl.reset (conCtl.handlePacket (c.eraseAcked ack).conCtl (c.eraseAcked ack).seqLocal
      ack) = (some r, k) from hreset]
  -- what else the step writes are fields that neither side looks at
  have hsame : ∀ c' : Connection σ κ, c'.dataToSend = ((c.eraseAcked ack).resend r).dataToSend →
      c'.dataAlreadySent = ((c.eraseAcked ack).resend r).dataAlreadySent →
      (Retransmits (c.eraseAcked ack) c' ack r ↔
        Retransmits (c.eraseAcked ack) ((c.eraseAcked ack).resend r) ack r) := by
    intro c' hto hal
    constructor
    · intro h
      exact ⟨hto ▸ h.queued, hal ▸ h.gone, hto ▸ h.ascending, hto ▸ h.inOrder⟩
    · intro h
      exact ⟨hto ▸ h.queued, hal ▸ h.gone, hto ▸ h.ascending, hto ▸ h.inOrder⟩
  refine (hsame _ ?_ ?_).trans (resend_retransmits_iff (hsent.filter _) hqueue)
  · unfold acknowledge
    dsimp only
    rw [hnum, hcontrol]
    rfl
  · unfold acknowledge
    dsimp only
    rw [hnum, hcontrol]
    rfl

/-- An ACK for the first byte, again. -/
def duplicateFrame : Mbuf :=
  .ofBytes (List.replicate 14 0 ++ ipv4Bytes 40 ++ tcpBytes 8 1 0x50 0x10 32)

/-- A connection whose only segment in flight starts behind the ACK. -/
def laterSent : Connection Unit AckCount :=
  { threeSent with
    dataAlreadySent := [⟨[6, 7, 8, 9, 10], 6, 5⟩]
    dataToSend := [⟨[11, 12, 13, 14, 15], 11, 5⟩] }

/-- It is sent again, in order; where a segment starts at the ACK it is not. -/
theorem Connection.acknowledge_retransmits_iff_later :
    Retransmits (laterSent.eraseAcked 1)
        (laterSent.acknowledge TcpConCtlSimple duplicateFrame.swapped duplicateFrame.tcp) 1 1 ∧
      ¬ Retransmits (threeSent.eraseAcked 1)
        (threeSent.acknowledge TcpConCtlSimple duplicateFrame.swapped duplicateFrame.tcp) 1 1 := by
  have hlater := acknowledge_retransmits_iff TcpConCtlSimple laterSent duplicateFrame 1
    { lastAck := 1, alreadySeen := 3 } (by decide) (by decide) (by decide)
  have hthree := acknowledge_retransmits_iff TcpConCtlSimple threeSent duplicateFrame 1
    { lastAck := 1, alreadySeen := 3 } (by decide) (by decide) (by decide)
  refine ⟨hlater.mpr ⟨?_, ?_, ?_⟩, fun h => ?_⟩
  · decide
  · decide
  · decide
  · exact absurd (hthree.mp h).reverse (by decide)

/-- With the third duplicate the segment that starts at the ACK is not queued, and the two after
it are queued the wrong way round. -/
theorem Connection.acknowledge_not_retransmits :
    Expected threeSent duplicateFrame ∧ Ascending threeSent.dataAlreadySent ∧
      Ascending threeSent.dataToSend ∧
      TcpConCtlSimple.reset (TcpConCtlSimple.handlePacket threeSent.conCtl threeSent.seqLocal
        (Tcp.getAck duplicateFrame.swapped duplicateFrame.tcp))
        = (some 1, { lastAck := 1, alreadySeen := 3 }) ∧
      (threeSent.acknowledge TcpConCtlSimple duplicateFrame.swapped duplicateFrame.tcp).dataToSend
        = [⟨[11, 12, 13, 14, 15], 11, 5⟩, ⟨[6, 7, 8, 9, 10], 6, 5⟩] ∧
      ¬ Retransmits (threeSent.eraseAcked 1)
        (threeSent.acknowledge TcpConCtlSimple duplicateFrame.swapped duplicateFrame.tcp) 1 1 := by
  refine ⟨by decide, by decide, by decide, by decide, by decide, ?_⟩
  intro h
  exact absurd h.ascending (by decide)

end MoonState.TCP
