/-
The bytes in flight.

What may be sent is limited by the window, and the send loop counts against that
limit what it sends itself: `alreadySent` starts at 0 for every packet.  What
earlier packets sent and the peer has not acknowledged is not counted.

`Flow` remembers the segments the send loop has sent.  A packet is `Controlled`
when it leaves no more bytes in flight than the window has, or sends no new ones.
It is, exactly when every first part of the queue that fits the window by itself
also fits it on top of what is in flight: `Roomy`.
-/
import MoonState.Lib.Steps
import MoonState.Proofs.Stream
import Mathlib.Data.Finset.Card

namespace MoonState.TCP

open Headers

variable {σ κ : Type}

/-! ### Counting bytes -/

/-- The numbers of the segment's bytes. -/
def Segment.numbers (seg : Segment) : List UInt32 :=
  (List.range seg.dataLen.toNat).map fun i => seg.seqNumber + UInt32.ofNat i

def numbers (segs : List Segment) : Finset UInt32 := (segs.flatMap Segment.numbers).toFinset

/-- Those of the numbers that an ACK does not reach. -/
def unacked (ack : UInt32) (ns : Finset UInt32) : Finset UInt32 := ns.filter fun n => ack ≤ n

theorem numbers_append (l l' : List Segment) : numbers (l ++ l') = numbers l ∪ numbers l' := by
  unfold numbers
  rw [List.flatMap_append, List.toFinset_append]

theorem numbers_mono {l l' : List Segment} (h : l ⊆ l') : numbers l ⊆ numbers l' := by
  intro n hn
  simp only [numbers, List.mem_toFinset, List.mem_flatMap] at hn ⊢
  obtain ⟨seg, hseg, hn⟩ := hn
  exact ⟨seg, h hseg, hn⟩

/-- Segments without bytes have no numbers. -/
theorem numbers_eq_empty {l : List Segment} (h : ∀ seg ∈ l, seg.dataLen.toNat = 0) :
    numbers l = ∅ := by
  rw [Finset.eq_empty_iff_forall_notMem]
  intro n hn
  simp only [numbers, List.mem_toFinset, List.mem_flatMap] at hn
  obtain ⟨seg, hseg, hn⟩ := hn
  rw [Segment.numbers, h seg hseg] at hn
  simp at hn

theorem total_eq_zero {l : List Segment} (h : total l = 0) :
    ∀ seg ∈ l, seg.dataLen.toNat = 0 := by
  intro seg hseg
  exact List.sum_eq_zero_iff_forall_eq_nat.mp h _ (List.mem_map.mpr ⟨seg, hseg, rfl⟩)

theorem unacked_mono {ack ack' : UInt32} {ns ns' : Finset UInt32} (hack : ack ≤ ack')
    (h : ns ⊆ ns') : unacked ack' ns ⊆ unacked ack ns' := by
  intro n hn
  obtain ⟨hmem, hle⟩ := Finset.mem_filter.mp hn
  exact Finset.mem_filter.mpr ⟨h hmem, UInt32.le_trans hack hle⟩

/-! ### What the send loop sends -/

/-- The longest first part of the queue that fits, and perhaps a segment of no bytes: what is
left of one that is split. -/
def Sends (budget : Nat) (queue out : List Segment) : Prop :=
  ∃ whole none, out = whole ++ none ∧ whole <+: queue ∧ total whole ≤ budget ∧
    (∀ seg ∈ none, seg.dataLen.toNat = 0) ∧
    ∀ part, part <+: queue → total part ≤ budget → numbers part ⊆ numbers whole

theorem Sends.nil (budget : Nat) : Sends budget [] [] :=
  ⟨[], [], rfl, List.nil_prefix, Nat.zero_le _, by simp, fun part hp _ => by
    rw [List.prefix_nil.mp hp]⟩

/-- With nothing left of the window, what fits has no bytes. -/
theorem Sends.stop {budget : Nat} (h : budget = 0) (queue : List Segment) :
    Sends budget queue [] := by
  refine ⟨[], [], rfl, List.nil_prefix, Nat.zero_le _, by simp, ?_⟩
  intro part _ hle
  rw [numbers_eq_empty (total_eq_zero (by omega))]
  exact Finset.empty_subset _

/-- A segment that fits is sent. -/
theorem Sends.fits {budget : Nat} {seg : Segment} {rest out : List Segment}
    (h : seg.dataLen.toNat ≤ budget) (hrest : Sends (budget - seg.dataLen.toNat) rest out) :
    Sends budget (seg :: rest) (seg :: out) := by
  obtain ⟨whole, none, rfl, hpre, hle, hnone, hmax⟩ := hrest
  refine ⟨seg :: whole, none, rfl, List.cons_prefix_cons.mpr ⟨rfl, hpre⟩, ?_, hnone, ?_⟩
  · rw [total_cons]
    omega
  · intro part hp hfit
    cases part with
    | nil => exact numbers_mono (List.nil_subset _)
    | cons s part =>
        obtain ⟨rfl, hp'⟩ := List.cons_prefix_cons.mp hp
        rw [total_cons] at hfit
        have hsub := hmax part hp' (by omega)
        rw [← List.singleton_append, ← List.singleton_append (l := whole), numbers_append,
          numbers_append]
        exact Finset.union_subset_union_right hsub

/-- One that does not fit is split, and of what is put on the list nothing is left. -/
theorem Sends.split {budget : Nat} {seg : Segment} (h : budget < seg.dataLen.toNat)
    (rest : List Segment) (curSend : UInt16) :
    Sends budget (seg :: rest) [(seg.split curSend).1] := by
  refine ⟨[], [(seg.split curSend).1], rfl, List.nil_prefix, Nat.zero_le _, ?_, ?_⟩
  · intro s hs
    rw [List.mem_singleton.mp hs]
    show (curSend - curSend).toNat = 0
    rw [UInt16.sub_self]
    rfl
  · intro part hp hfit
    cases part with
    | nil => exact Finset.Subset.refl _
    | cons s part =>
        obtain ⟨rfl, -⟩ := List.cons_prefix_cons.mp hp
        rw [total_cons] at hfit
        omega

theorem sendLoop_sends {maxSend : UInt32} (hmax : maxSend.toNat < 2 ^ 16) :
    ∀ (queue : List Segment) (alreadySent : UInt32) (s : Sending),
      alreadySent.toNat ≤ maxSend.toNat →
      ∃ out, (sendLoop maxSend queue alreadySent s).dataAlreadySent = s.dataAlreadySent ++ out ∧
        Sends (maxSend.toNat - alreadySent.toNat) queue out := by
  intro queue
  induction queue with
  | nil => exact fun _ s _ => ⟨[], (List.append_nil _).symm, .nil _⟩
  | cons seg rest ih =>
      intro alreadySent s hle
      rw [sendLoop]
      by_cases hlt : alreadySent.toNat < maxSend.toNat
      · rw [if_pos (by rw [gt_iff_lt, UInt32.lt_iff_toNat_lt]; exact hlt)]
        dsimp only
        have hleft := toNat_room hmax hle
        by_cases hfit : seg.dataLen.toNat ≤ maxSend.toNat - alreadySent.toNat
        · have hmin : min seg.dataLen (maxSend - alreadySent).toUInt16 = seg.dataLen := by
            refine if_pos ?_
            rw [UInt16.le_iff_toNat_le, hleft]
            exact hfit
          have hsum := toNat_alreadySent hmax hfit
          rw [hmin, if_pos rfl]
          obtain ⟨out, hout, hsends⟩ := ih (alreadySent + seg.dataLen.toUInt32) (s.put seg)
            (by omega)
          rw [hsum, ← Nat.sub_sub] at hsends
          refine ⟨seg :: out, ?_, hsends.fits hfit⟩
          rw [hout]
          show (s.dataAlreadySent ++ [seg]) ++ out = _
          rw [List.append_assoc]
          rfl
        · have hne : min seg.dataLen (maxSend - alreadySent).toUInt16 ≠ seg.dataLen := by
            rw [UInt16.min_def, if_neg (by rw [UInt16.le_iff_toNat_le, hleft]; exact hfit)]
            intro hc
            rw [← hc, hleft] at hfit
            exact hfit (Nat.le_refl _)
          rw [if_neg hne]
          exact ⟨_, rfl, .split (by omega) rest _⟩
      · rw [if_neg (by rw [gt_iff_lt, UInt32.lt_iff_toNat_lt]; exact hlt)]
        exact ⟨[], (List.append_nil _).symm, .stop (by omega) _⟩

theorem transmit_sends (conCtl : ConCtl κ) (c : Connection σ κ) (pkt : Mbuf) (tcp : Nat)
    (freePkt : Bool) : ∃ out,
      (transmit conCtl c pkt tcp freePkt).1.dataAlreadySent = c.dataAlreadySent ++ out ∧
        Sends (maxSend conCtl c).toNat c.dataToSend out := by
  unfold transmit
  dsimp only
  by_cases hq : c.dataToSend = []
  · rw [if_pos hq, hq]
    exact ⟨[], (List.append_nil _).symm, .nil _⟩
  · rw [if_neg hq]
    exact sendLoop_sends (maxSend_lt conCtl c) c.dataToSend 0 _ (Nat.zero_le _)

/-! ### A connection and what it has sent -/

section settled

variable (conCtl : ConCtl κ) (c : Connection σ κ) (f : Mbuf)

/-- The connection once the ACK is processed, if it is. -/
def settled : Connection σ κ :=
  if badFlags f.swapped f.tcp then c else c.acknowledge conCtl f.swapped f.tcp

/-- The window of the last packet, or that of the congestion control if it is smaller. -/
def window : Nat := (maxSend conCtl (settled conCtl c f)).toNat

end settled

/-- A session, and the segments its send loop has sent. -/
structure Flow (σ κ : Type) where
  session : Session σ κ
  sent : List Segment

namespace Flow

variable (proto : Proto σ) (conCtl : ConCtl κ)

/-- A connection as `runSynAck` leaves it has sent no stream data. -/
def accept (syn : Mbuf) : Flow σ κ := { session := Session.accept proto conCtl syn, sent := [] }

/-- The segments a packet adds to the list of sent ones, behind those that stay on it. -/
def sends (x : Flow σ κ) (f : Mbuf) : List Segment :=
  (x.session.packet proto conCtl f).conn.dataAlreadySent.drop
    (settled conCtl x.session.conn f).dataAlreadySent.length

def packet (x : Flow σ κ) (f : Mbuf) : Flow σ κ :=
  { session := x.session.packet proto conCtl f, sent := x.sent ++ x.sends proto conCtl f }

/-- The bytes that were sent, and not acknowledged by the highest ACK number. -/
def inFlight (x : Flow σ κ) : Nat := (unacked x.session.acked (numbers x.sent)).card

/-- A packet leaves no more in flight than the window has, unless there was more before, and
then it sends nothing new. -/
def Controlled (x : Flow σ κ) (f : Mbuf) : Prop :=
  (x.packet proto conCtl f).inFlight ≤ window conCtl x.session.conn f ∨
    (window conCtl x.session.conn f < x.inFlight ∧
      numbers (x.packet proto conCtl f).sent ⊆ numbers x.sent)

/-- What is queued when sending begins and fits the window by itself, fits it together with what
is in flight, or it has all been sent before. -/
def Roomy (x : Flow σ κ) (f : Mbuf) : Prop :=
  Expected x.session.conn f →
    ∀ part, part <+: (atSend proto conCtl x.session.conn f).dataToSend →
      total part ≤ window conCtl x.session.conn f →
      (unacked (max x.session.acked (Tcp.getAck f.swapped f.tcp))
          (numbers (x.sent ++ part))).card ≤ window conCtl x.session.conn f ∨
        numbers part ⊆ numbers x.sent

/-- The packets are all processed in `est`. -/
def InEst (x : Flow σ κ) (fs : List Mbuf) : Prop :=
  Throughout (packet proto conCtl) (fun x _ => x.session.state = States.est) x fs

variable {proto conCtl} {x : Flow σ κ} {f : Mbuf}

/-- Only a packet that is expected makes the connection send. -/
theorem sends_of_not_expected (h : ¬ Expected x.session.conn f) :
    x.sends proto conCtl f = [] := by
  unfold sends settled
  rcases runEst_cases x.session.conn f with hbad | ⟨hflags, hseq⟩ | he
  · rw [if_pos hbad, (Session.packet_of_bad proto conCtl hbad).1]
    exact List.drop_length
  · rw [if_neg (by simp [hflags]), (Session.packet_of_unexpected proto conCtl hflags hseq).1]
    exact List.drop_length
  · exact absurd he h

variable (proto) in
theorem sends_of_expected (h : Expected x.session.conn f) :
    Sends (window conCtl x.session.conn f) (atSend proto conCtl x.session.conn f).dataToSend
      (x.sends proto conCtl f) := by
  obtain ⟨q, n, b, hcalls⟩ := Connection.foldl_iface_frame
    (delivered proto conCtl x.session.conn f).calls
    { (x.session.conn.acknowledge conCtl f.swapped f.tcp).advance f.swapped sizeofEthernet f.tcp with
      proto := (delivered proto conCtl x.session.conn f).proto }
  obtain ⟨n', b', hadv⟩ := (x.session.conn.acknowledge conCtl f.swapped f.tcp).advance_frame
    f.swapped sizeofEthernet f.tcp
  have hsettled : settled conCtl x.session.conn f
      = x.session.conn.acknowledge conCtl f.swapped f.tcp := if_neg (by simp [h.1])
  have hat : atSend proto conCtl x.session.conn f = _ := hcalls
  obtain ⟨-, -, m, hconn, -⟩ := Session.packet_of_expected proto conCtl (s := x.session) h
  obtain ⟨out, hout, hsends⟩ := transmit_sends conCtl (atSend proto conCtl x.session.conn f)
    (pktAtSend conCtl x.session.conn f) f.tcp
    (!decide (payloadLen (pktAtSend conCtl x.session.conn f).data sizeofEthernet f.tcp > 0))
  have hwindow : (maxSend conCtl (atSend proto conCtl x.session.conn f)).toNat
      = window conCtl x.session.conn f := by
    unfold window maxSend
    rw [hsettled, hat, hadv]
  have hlist : (atSend proto conCtl x.session.conn f).dataAlreadySent
      = (settled conCtl x.session.conn f).dataAlreadySent := by
    rw [hsettled, hat, hadv]
  rw [hwindow] at hsends
  have hdrop : x.sends proto conCtl f = out := by
    unfold sends
    rw [hconn]
    unfold transmitted
    rw [hout, hlist, List.drop_left]
  rw [hdrop]
  exact hsends

theorem acked_packet (h : Expected x.session.conn f) : (x.packet proto conCtl f).session.acked
    = max x.session.acked (Tcp.getAck f.swapped f.tcp) :=
  (Session.packet_of_expected proto conCtl h).2.1

/-- Without new bytes there are not more of them in flight. -/
theorem controlled_of_subset (h : numbers (x.packet proto conCtl f).sent ⊆ numbers x.sent) :
    x.Controlled proto conCtl f := by
  have hack : x.session.acked ≤ (x.packet proto conCtl f).session.acked :=
    UInt32.le_iff_toNat_le.mpr Session.le_acked_packet.1
  have hle : (x.packet proto conCtl f).inFlight ≤ x.inFlight :=
    Finset.card_le_card (unacked_mono hack h)
  by_cases hfit : (x.packet proto conCtl f).inFlight ≤ window conCtl x.session.conn f
  · exact Or.inl hfit
  · exact Or.inr ⟨by omega, h⟩

/-- **One packet** keeps the flow control exactly when it is roomy. -/
theorem controlled_iff_roomy : x.Controlled proto conCtl f ↔ x.Roomy proto conCtl f := by
  by_cases he : Expected x.session.conn f
  · obtain ⟨whole, none, hout, hpre, hle, hnone, hmax⟩ := sends_of_expected proto he
    have hsent : numbers (x.packet proto conCtl f).sent = numbers (x.sent ++ whole) := by
      show numbers (x.sent ++ x.sends proto conCtl f) = _
      rw [hout, ← List.append_assoc, numbers_append, numbers_eq_empty hnone, Finset.union_empty]
    constructor
    · rintro (hfit | ⟨-, hold⟩) - part hp hpart
      · refine Or.inl (Nat.le_trans (Finset.card_le_card ?_) hfit)
        rw [acked_packet he, hsent, numbers_append, numbers_append]
        exact unacked_mono (UInt32.le_refl _)
          (Finset.union_subset_union_right (hmax part hp hpart))
      · rw [hsent, numbers_append] at hold
        exact Or.inr ((hmax part hp hpart).trans (Finset.union_subset_iff.mp hold).2)
    · intro hroom
      rcases hroom he whole hpre hle with hfit | hold
      · refine Or.inl ?_
        unfold inFlight
        rw [acked_packet he, hsent]
        exact hfit
      · refine controlled_of_subset ?_
        rw [hsent, numbers_append]
        exact Finset.union_subset (Finset.Subset.refl _) hold
  · refine ⟨fun _ hc => absurd hc he, fun _ => controlled_of_subset ?_⟩
    show numbers (x.sent ++ x.sends proto conCtl f) ⊆ _
    rw [sends_of_not_expected he, List.append_nil]

/--
**When the flow control holds.**

For every connection, protocol and congestion control and every sequence of packets: each
of the packets leaves the bytes in flight within the window, as far as they were before,
exactly when each of them is roomy.
-/
theorem controlled_run_iff (proto : Proto σ) (conCtl : ConCtl κ) (x : Flow σ κ) (fs : List Mbuf) :
    Throughout (packet proto conCtl) (Controlled proto conCtl) x fs ↔
      Throughout (packet proto conCtl) (Roomy proto conCtl) x fs :=
  Throughout.congr (fun _ _ => controlled_iff_roomy) fs x

end Flow

/-! ### A window that is filled twice -/

/-- Two bytes with sequence number `seq`, from a peer that has acknowledged none and has room for
two. -/
def pairFrame (seq : UInt8) : Mbuf :=
  .ofBytes (List.replicate 14 0 ++ ipv4Bytes 42 ++ tcpBytes seq 1 0x50 0x10 2 ++ [104, 105])

/-- The joke server has sent two bytes back. -/
def pairSent : Flow Unit AckCount :=
  (Flow.accept TcpProtoJoke TcpConCtlSimple synFrame).packet TcpProtoJoke TcpConCtlSimple
    (pairFrame 8)

/-- With the next packet it sends two more, though the first two fill the window. -/
theorem flow_not_controlled :
    Flow.InEst TcpProtoJoke TcpConCtlSimple (Flow.accept TcpProtoJoke TcpConCtlSimple synFrame)
        [pairFrame 8, pairFrame 10] ∧
      pairSent.inFlight = 2 ∧
      ¬ Throughout (Flow.packet TcpProtoJoke TcpConCtlSimple)
        (Flow.Controlled TcpProtoJoke TcpConCtlSimple)
        (Flow.accept TcpProtoJoke TcpConCtlSimple synFrame) [pairFrame 8, pairFrame 10] := by
  refine ⟨⟨by decide, by decide, trivial⟩, by decide, ?_⟩
  intro ⟨_, hsecond, _⟩
  have hcontrolled : pairSent.Controlled TcpProtoJoke TcpConCtlSimple (pairFrame 10) := hsecond
  rcases hcontrolled with hfit | ⟨hmore, -⟩
  · exact absurd hfit (by decide)
  · exact absurd hmore (by decide)

end MoonState.TCP
