/-
The frames `runEst` sends.

An answer is written over the packet that was received, and what a receiver of it
reads is what its headers say.  `Head` is that: where the TCP header is, how many
payload bytes there are, and their sequence number.  A segment that is written to
the packet gives a frame that carries it.  Where nothing is written, the lengths
in the header are still those of the received packet.

`Placed` says that a segment is a part of the send stream.  Unlike `Intact` it does
not say that nothing is missing, and it is kept by every packet.
-/
import MoonState.Proofs.Stream

namespace MoonState.TCP

open Headers

variable {σ κ : Type}

/-! ### What a receiver reads -/

/-- The frame has its TCP header at `t`, without options, and `n` payload bytes from sequence
number `seq` on. -/
structure Head (m : Mem) (t : Nat) (n : UInt16) (seq : UInt32) : Prop where
  start : IPv4.getPayload m sizeofEthernet = t
  headerLen : Tcp.getHeaderLen m t = 20
  payloadLen : payloadLen m sizeofEthernet t = n
  seq : Tcp.getSeq m t = seq

/-- The lengths that `setPayloadLength` writes are read back. -/
theorem payloadLen_eq {m m' : Mem} {ip tcp : Nat} {n : UInt16} (hihl : m' ip = m ip)
    (htot : m'.get16 (ip + 2) = (IPv4.setPayloadLength m ip (20 + n)).get16 (ip + 2))
    (hlen : Tcp.getHeaderLen m' tcp = 20) : payloadLen m' ip tcp = n := by
  unfold payloadLen IPv4.getPayloadLength
  rw [htot, hlen]
  unfold IPv4.setPayloadLength IPv4.ihl
  rw [Mem.get16_set16, hihl]
  have h20 : (20 : UInt8).toUInt16 = 20 := rfl
  rw [h20, UInt16.add_comm, UInt16.add_sub_cancel, UInt16.add_comm, UInt16.add_sub_cancel]

theorem get16_of_same {m m' : Mem} {i : Nat} (h : ∀ j, i ≤ j → j < i + 2 → m' j = m j) :
    m'.get16 i = m.get16 i :=
  Mem.Same.get16 h

theorem getSeq_setSeq (m : Mem) (t : Nat) (seq : UInt32) :
    Tcp.getSeq (Tcp.setSeq m t seq) t = seq :=
  Mem.get32_set32 _ _ _

theorem getSeq_setWindow (m : Mem) (t : Nat) (w : UInt16) :
    Tcp.getSeq (Tcp.setWindow m t w) t = Tcp.getSeq m t :=
  Mem.Same.get32 fun _ _ _ => Mem.set16_of_ne _ (by omega)

/-- The number an answer carries before a segment is written to it. -/
theorem getSeq_answerHeader (c : Connection σ κ) (m : Mem) (t : Nat) :
    Tcp.getSeq (answerHeader c m t) t = c.seqLocal := by
  unfold answerHeader
  dsimp only
  refine (Mem.Same.get32 fun j _ _ => ?_).trans (getSeq_setSeq (Tcp.setAckFlag (Tcp.clearFlags m t) t)
    t c.seqLocal)
  unfold Tcp.setOffset Tcp.setAck
  rw [Mem.set8_of_ne _ (by omega), Mem.set32_of_ne _ (by omega)]

section answers

variable {c : Connection σ κ} {m : Mem} {tcp : Nat}

/-- An answer without payload, in the three writes that follow its header. -/
theorem goBackN_head (h : IPv4.getPayload m sizeofEthernet = tcp) :
    Head (goBackN c m sizeofEthernet tcp).pkt.data tcp 0
      (match c.dataToSend with
        | [] => c.seqLocal
        | front :: _ => front.seqNumber) := by
  have hle : sizeofEthernet ≤ tcp := h ▸ (IPv4.getPayload_bounds m sizeofEthernet).1
  obtain ⟨seq, hseq, hdata⟩ : ∃ seq : UInt32, seq = (match c.dataToSend with
        | [] => c.seqLocal
        | front :: _ => front.seqNumber) ∧
      (goBackN c m sizeofEthernet tcp).pkt.data = Tcp.setWindow (Tcp.setSeq
        (IPv4.setPayloadLength (answerHeader c m tcp) sizeofEthernet 20) tcp seq) tcp
          (UInt16.ofNat (4 * MSS)) := by
    refine ⟨_, rfl, ?_⟩
    unfold goBackN
    cases c.dataToSend <;> rfl
  have hihl : (goBackN c m sizeofEthernet tcp).pkt.data sizeofEthernet = m sizeofEthernet := by
    rw [hdata]
    unfold Tcp.setWindow Tcp.setSeq IPv4.setPayloadLength
    rw [Mem.set16_of_ne _ (by omega), Mem.set32_of_ne _ (by omega), Mem.set16_of_ne _ (by omega)]
    exact answerHeader_of_ne (by omega)
  have hlen : Tcp.getHeaderLen (goBackN c m sizeofEthernet tcp).pkt.data tcp = 20 := by
    rw [hdata, ← getHeaderLen_answerHeader c m tcp]
    refine Tcp.getHeaderLen_congr ?_
    unfold Tcp.setWindow Tcp.setSeq IPv4.setPayloadLength
    rw [Mem.set16_of_ne _ (by omega), Mem.set32_of_ne _ (by omega), Mem.set16_of_ne _ (by omega)]
  refine ⟨?_, hlen, ?_, ?_⟩
  · exact (IPv4.getPayload_congr hihl).trans h
  · refine payloadLen_eq (m := answerHeader c m tcp) ?_ ?_ hlen
    · rw [hihl, answerHeader_of_ne (by omega)]
    · rw [hdata]
      refine get16_of_same fun j hj hj' => ?_
      unfold Tcp.setWindow Tcp.setSeq
      rw [Mem.set16_of_ne _ (by omega), Mem.set32_of_ne _ (by omega)]
      rfl
  · rw [hdata, ← hseq, getSeq_setWindow, getSeq_setSeq]

/-- The answer to flags that do not add up keeps the data offset of the packet. -/
theorem abort_head (h : IPv4.getPayload m sizeofEthernet = tcp)
    (hlen : Tcp.getHeaderLen m tcp = 20) :
    Head (abort c m sizeofEthernet tcp).pkt.data tcp 0 c.seqLocal := by
  have hle : sizeofEthernet ≤ tcp := h ▸ (IPv4.getPayload_bounds m sizeofEthernet).1
  obtain ⟨m', hm', hdata⟩ : ∃ m', m' = Tcp.setSeq (Tcp.setAck (Tcp.setRstFlag
        (Tcp.clearFlags m tcp) tcp) tcp 0) tcp c.seqLocal ∧
      (abort c m sizeofEthernet tcp).pkt.data = IPv4.setPayloadLength m' sizeofEthernet 20 :=
    ⟨_, rfl, rfl⟩
  have hout : ∀ j, j < tcp + 4 ∨ j = tcp + 12 → m' j = m j := by
    intro j hj
    rw [hm']
    unfold Tcp.setSeq Tcp.setAck Tcp.setRstFlag Tcp.clearFlags
    rw [Mem.set32_of_ne _ (by omega), Mem.set32_of_ne _ (by omega), Mem.set8_of_ne _ (by omega),
      Mem.set8_of_ne _ (by omega)]
  have hwrite : ∀ j, j < sizeofEthernet + 2 ∨ sizeofEthernet + 4 ≤ j →
      (abort c m sizeofEthernet tcp).pkt.data j = m' j := by
    intro j hj
    rw [hdata]
    exact Mem.set16_of_ne _ (by omega)
  have hihl : (abort c m sizeofEthernet tcp).pkt.data sizeofEthernet = m sizeofEthernet := by
    rw [hwrite _ (by omega), hout _ (by omega)]
  have hlen' : Tcp.getHeaderLen (abort c m sizeofEthernet tcp).pkt.data tcp = 20 := by
    rw [← hlen]
    refine Tcp.getHeaderLen_congr ?_
    rw [hwrite _ (by omega), hout _ (by omega)]
  refine ⟨?_, hlen', ?_, ?_⟩
  · exact (IPv4.getPayload_congr hihl).trans h
  · refine payloadLen_eq (m := m') ?_ ?_ hlen'
    · rw [hihl, hout _ (by omega)]
    · rw [hdata]
      rfl
  · refine (Mem.Same.get32 fun j hj hj' => hwrite j (by omega)).trans ?_
    rw [hm']
    exact getSeq_setSeq _ _ _

end answers

/-! ### A segment in a packet -/

/-- What writing a segment to the packet leaves alone. -/
theorem put_of_ne {s : Sending} {seg : Segment} {j : Nat}
    (hip : j < sizeofEthernet + 2 ∨ sizeofEthernet + 6 ≤ j)
    (hseq : j < (s.put seg).tcp + 4 ∨ (s.put seg).tcp + 8 ≤ j)
    (hwin : j < (s.put seg).tcp + 14 ∨ (s.put seg).tcp + 16 ≤ j) :
    (s.put seg).pkt.data j = s.pkt.data.write ((s.put seg).tcp + 20) seg.bytes j := by
  show Tcp.setSeq (IPv4.setPayloadLength (Tcp.setWindow (IPv4.setId (s.pkt.data.write
    ((s.put seg).tcp + 20) seg.bytes) sizeofEthernet s.ipID) (s.put seg).tcp
    (UInt16.ofNat (4 * MSS))) sizeofEthernet (UInt16.ofNat sizeofTcp + seg.dataLen))
    (s.put seg).tcp seg.seqNumber j = _
  unfold Tcp.setSeq IPv4.setPayloadLength Tcp.setWindow IPv4.setId
  rw [Mem.set32_of_ne _ (by omega), Mem.set16_of_ne _ (by omega), Mem.set16_of_ne _ (by omega),
    Mem.set16_of_ne _ (by omega)]

theorem put_tcp_bounds (s : Sending) (seg : Segment) : sizeofEthernet ≤ (s.put seg).tcp :=
  (IPv4.getPayload_bounds s.pkt.data sizeofEthernet).1

/-- Up to the payload only the fields that are set change. -/
theorem put_of_lt {s : Sending} {seg : Segment} {j : Nat} (hj : j < (s.put seg).tcp + 20)
    (hip : j < sizeofEthernet + 2 ∨ sizeofEthernet + 6 ≤ j)
    (hseq : j < (s.put seg).tcp + 4 ∨ (s.put seg).tcp + 8 ≤ j)
    (hwin : j < (s.put seg).tcp + 14 ∨ (s.put seg).tcp + 16 ≤ j) :
    (s.put seg).pkt.data j = s.pkt.data j := by
  rw [put_of_ne hip hseq hwin]
  exact Mem.write_of_notMem (by omega)

/-- Writing a segment does not move the TCP header. -/
theorem getPayload_put (s : Sending) (seg : Segment) :
    IPv4.getPayload (s.put seg).pkt.data sizeofEthernet = (s.put seg).tcp := by
  have hle := put_tcp_bounds s seg
  show _ = IPv4.getPayload s.pkt.data sizeofEthernet
  exact IPv4.getPayload_congr (put_of_lt (by omega) (by omega) (by omega) (by omega))

theorem getHeaderLen_put (s : Sending) (seg : Segment) :
    Tcp.getHeaderLen (s.put seg).pkt.data (s.put seg).tcp
      = Tcp.getHeaderLen s.pkt.data (s.put seg).tcp := by
  have hle := put_tcp_bounds s seg
  exact Tcp.getHeaderLen_congr (put_of_lt (by omega) (by omega) (by omega) (by omega))

/-- **A frame carries the segment that was written to it.** -/
theorem put_head {s : Sending} (seg : Segment) {t : Nat}
    (hstart : IPv4.getPayload s.pkt.data sizeofEthernet = t)
    (hlen : Tcp.getHeaderLen s.pkt.data t = 20) :
    Head (s.put seg).pkt.data t seg.dataLen seg.seqNumber ∧
      (s.put seg).pkt.data.read (t + 20) seg.bytes.length = seg.bytes := by
  have htcp : (s.put seg).tcp = t := hstart
  have hle := put_tcp_bounds s seg
  rw [← htcp] at hlen ⊢
  refine ⟨⟨getPayload_put s seg, (getHeaderLen_put s seg).trans hlen, ?_, ?_⟩, ?_⟩
  · refine payloadLen_eq (m := Tcp.setWindow (IPv4.setId (s.pkt.data.write
      ((s.put seg).tcp + 20) seg.bytes) sizeofEthernet s.ipID) (s.put seg).tcp
      (UInt16.ofNat (4 * MSS))) ?_ ?_ ((getHeaderLen_put s seg).trans hlen)
    · rw [put_of_lt (by omega) (by omega) (by omega) (by omega)]
      unfold Tcp.setWindow IPv4.setId
      rw [Mem.set16_of_ne _ (by omega), Mem.set16_of_ne _ (by omega),
        Mem.write_of_notMem (by omega)]
    · exact get16_of_same fun j hj hj' => Mem.set32_of_ne _ (by omega)
  · exact getSeq_setSeq _ (s.put seg).tcp seg.seqNumber
  · conv_rhs => rw [← Mem.read_write_self s.pkt.data ((s.put seg).tcp + 20) seg.bytes]
    exact Mem.read_congr fun j hj hj' => put_of_ne (by omega) (by omega) (by omega)

/-- The FIN flag is neither a length nor a number. -/
theorem Head.setFinFlag {m : Mem} {t : Nat} {n : UInt16} {seq : UInt32} (h : Head m t n seq) :
    Head (Tcp.setFinFlag m t) t n seq ∧
      ∀ k, (Tcp.setFinFlag m t).read (t + 20) k = m.read (t + 20) k := by
  have hle : sizeofEthernet ≤ t := h.start ▸ (IPv4.getPayload_bounds m sizeofEthernet).1
  have hout : ∀ j, j ≠ t + 13 → Tcp.setFinFlag m t j = m j := fun j hj => Mem.set8_of_ne _ hj
  refine ⟨⟨?_, ?_, ?_, ?_⟩, fun k => Mem.read_congr fun j hj hj' => hout j (by omega)⟩
  · exact (IPv4.getPayload_congr (hout _ (by omega))).trans h.start
  · exact (Tcp.getHeaderLen_congr (hout _ (by omega))).trans h.headerLen
  · exact (payloadLen_congr (hout _ (by omega))
      (get16_of_same fun j hj hj' => hout j (by omega)) (hout _ (by omega))).trans h.payloadLen
  · exact (Mem.Same.get32 fun j hj hj' => hout j (by omega)).trans h.seq

/-! ### Segments of the stream -/

/-- The segment is a part of the stream `B`, and has the sequence number of its place. -/
def Placed (B : List UInt8) (seg : Segment) : Prop :=
  ∃ pos, seg.seqNumber = UInt32.ofNat (1 + pos) ∧ pos + seg.dataLen.toNat ≤ B.length ∧
    seg.bytes = (B.drop pos).take seg.dataLen.toNat

theorem Placed.append {B : List UInt8} {seg : Segment} (h : Placed B seg) (B' : List UInt8) :
    Placed (B ++ B') seg := by
  obtain ⟨pos, hseq, hle, hbytes⟩ := h
  refine ⟨pos, hseq, by rw [List.length_append]; omega, ?_⟩
  rw [hbytes, List.drop_append_of_le_length (by omega), List.take_append_of_le_length]
  rw [List.length_drop]
  omega

theorem Placed.length_bytes {B : List UInt8} {seg : Segment} (h : Placed B seg) :
    seg.bytes.length = seg.dataLen.toNat := by
  obtain ⟨pos, -, hle, hbytes⟩ := h
  rw [hbytes, List.length_take, List.length_drop]
  omega

/-- What is queued is of the stream, and so is what was sent, up to a segment with number 0: that
of the handshake, which no reset puts back. -/
structure InStream (B : List UInt8) (c : Connection σ κ) : Prop where
  queued : ∀ seg ∈ c.dataToSend, Placed B seg
  sent : ∀ seg ∈ c.dataAlreadySent, Placed B seg ∨ seg.seqNumber = 0

/-- The stream goes on at `seqLocal`. -/
def GoesOn (B : List UInt8) (c : Connection σ κ) : Prop :=
  c.seqLocal = UInt32.ofNat (1 + B.length)

namespace InStream

variable {B : List UInt8} {c c' : Connection σ κ}

theorem of_subset (h : InStream B c)
    (hqueued : ∀ seg ∈ c'.dataToSend, seg ∈ c.dataToSend ∨
      seg ∈ c.dataAlreadySent ∧ seg.seqNumber ≠ 0)
    (hsent : ∀ seg ∈ c'.dataAlreadySent, seg ∈ c.dataAlreadySent ∨ seg ∈ c.dataToSend) :
    InStream B c' := by
  constructor
  · intro seg hseg
    rcases hqueued seg hseg with hq | ⟨ha, hne⟩
    · exact h.queued seg hq
    · exact (h.sent seg ha).resolve_right hne
  · intro seg hseg
    rcases hsent seg hseg with ha | hq
    · exact h.sent seg ha
    · exact Or.inl (h.queued seg hq)

theorem enqueue (h : InStream B c) (hnext : GoesOn B c) {data : List UInt8} {len : Nat}
    (hlen : len ≤ data.length) (hlen' : len < 2 ^ 16) :
    InStream (B ++ data.take len) (c.enqueue data len) ∧
      GoesOn (B ++ data.take len) (c.enqueue data len) := by
  have hl : (UInt16.ofNat len).toNat = len := by
    rw [UInt16.toNat_ofNat']
    exact Nat.mod_eq_of_lt hlen'
  have htake : (data.take len).length = len := by
    rw [List.length_take]
    omega
  refine ⟨⟨?_, ?_⟩, ?_⟩
  · intro seg hseg
    rcases List.mem_append.mp hseg with hseg | hseg
    · exact (h.queued seg hseg).append _
    · rw [List.mem_singleton.mp hseg]
      refine ⟨B.length, hnext, ?_, ?_⟩
      · rw [List.length_append, htake]
        exact Nat.le_of_eq (by rw [hl])
      · show data.take (UInt16.ofNat len).toNat = _
        rw [hl, List.drop_left, List.take_take, Nat.min_self]
  · intro seg hseg
    exact (h.sent seg hseg).imp_left fun hp => hp.append _
  · show c.seqLocal + UInt32.ofNat len = _
    rw [hnext, List.length_append, htake, ← Nat.add_assoc, UInt32.ofNat_add (1 + B.length)]

/-- After the calls of the protocol. -/
theorem calls (h : InStream B c) (hnext : GoesOn B c) (calls : List IfaceCall) :
    InStream (B ++ calls.flatMap IfaceCall.bytes) (calls.foldl Connection.iface c) ∧
      GoesOn (B ++ calls.flatMap IfaceCall.bytes) (calls.foldl Connection.iface c) := by
  have hmss : MSS = 1460 := rfl
  refine Connection.calls_induct (P := fun B c => InStream B c ∧ GoesOn B c) ?_ ?_ calls
    ⟨h, hnext⟩
  · exact fun B c data len ih hlen hle => ih.1.enqueue ih.2 hlen (by omega)
  · exact fun B c ih => ⟨⟨ih.1.queued, ih.1.sent⟩, ih.2⟩

/-- A reset goes back to numbers that are not 0. -/
theorem resend (h : InStream B c) (r : UInt32) : InStream B (c.resend r) := by
  refine h.of_subset ?_ fun seg hseg => Or.inl (List.mem_of_mem_filter hseg)
  intro seg hseg
  rcases List.mem_append.mp hseg with hback | hq
  · obtain ⟨ha, hgt⟩ := List.mem_filter.mp (List.mem_reverse.mp hback)
    refine Or.inr ⟨ha, fun hz => ?_⟩
    have hlt : r < seg.seqNumber := of_decide_eq_true hgt
    rw [hz, UInt32.lt_iff_toNat_lt] at hlt
    exact absurd hlt (Nat.not_lt_zero _)
  · exact Or.inl hq

theorem acknowledge (h : InStream B c) (conCtl : ConCtl κ) (m : Mem) (tcp : Nat) :
    InStream B (c.acknowledge conCtl m tcp) := by
  have herase : InStream B (c.eraseAcked (Tcp.getAck m tcp)) :=
    h.of_subset (fun _ hq => Or.inl hq) fun _ hseg => Or.inl (List.mem_of_mem_filter hseg)
  unfold Connection.acknowledge
  dsimp only
  obtain ⟨k, hk | ⟨r, hk⟩⟩ := (c.eraseAcked (Tcp.getAck m tcp)).control_cases conCtl
    (Tcp.getAck m tcp)
  · rw [hk]
    exact ⟨herase.queued, herase.sent⟩
  · have hctl : InStream B { c.eraseAcked (Tcp.getAck m tcp) with conCtl := k } :=
      ⟨herase.queued, herase.sent⟩
    rw [hk]
    exact ⟨(hctl.resend r).queued, (hctl.resend r).sent⟩

end InStream

/-! ### One packet -/

/-- The next number that is to be sent: that of the queue, or of the next byte of the stream. -/
def Session.nextSeq (s : Session σ κ) : UInt32 :=
  match s.conn.dataToSend with
  | [] => UInt32.ofNat (1 + s.stream.length)
  | front :: _ => front.seqNumber

/-- The frame announces bytes of the stream and carries them, or it announces none and says what
comes next. -/
def StreamFrame (s : Session σ κ) (pkt : Mbuf) : Prop :=
  let t := pkt.tcp
  let n := payloadLen pkt.data sizeofEthernet t
  (n = 0 → Tcp.getSeq pkt.data t = s.nextSeq) ∧
    (n ≠ 0 → ∃ pos, Tcp.getSeq pkt.data t = UInt32.ofNat (1 + pos) ∧
      pos + n.toNat ≤ s.stream.length ∧
      pkt.data.read (t + (Tcp.getHeaderLen pkt.data t).toNat) n.toNat
        = (s.stream.drop pos).take n.toNat)

theorem Head.streamFrame_zero {s : Session σ κ} {pkt : Mbuf} {t : Nat} {seq : UInt32}
    (h : Head pkt.data t 0 seq) (hseq : seq = s.nextSeq) : StreamFrame s pkt := by
  have ht : pkt.tcp = t := h.start
  refine ⟨fun _ => ?_, fun hne => absurd ?_ hne⟩
  · rw [ht, h.seq, hseq]
  · rw [ht, h.payloadLen]

/-- What a packet must not do, and must not meet. -/
structure Honest (proto : Proto σ) (conCtl : ConCtl κ) (c : Connection σ κ) (f : Mbuf) :
    Prop where
  /-- the addresses are swapped outside the byte with the IHL -/
  header : IPv4.getPayload f.swapped sizeofEthernet = f.tcp
  /-- wrong flags come without options, and when nothing is queued -/
  abort : badFlags f.swapped f.tcp = true →
    Tcp.getHeaderLen f.swapped f.tcp = 20 ∧ c.dataToSend = []
  whole : Unsplit proto conCtl c f
  /-- there is something to send instead of a payload, and the window is open -/
  answer : Expected c f → payloadLen (pktAtSend conCtl c f).data sizeofEthernet f.tcp ≠ 0 →
    (atSend proto conCtl c f).dataToSend ≠ [] ∧ 0 < (maxSend conCtl (atSend proto conCtl c f)).toNat
  /-- a segment of no bytes that would be sent last is the last of the stream -/
  last : Expected c f → ∀ init seg, (atSend proto conCtl c f).dataToSend = init ++ [seg] →
    seg.dataLen.toNat = 0 → total init < (maxSend conCtl (atSend proto conCtl c f)).toNat →
    seg.seqNumber = (atSend proto conCtl c f).seqLocal

section expected

variable {proto : Proto σ} {conCtl : ConCtl κ} {B : List UInt8} {c : Connection σ κ} {f : Mbuf}

/-- What the protocol is not handed it does not answer. -/
theorem delivered_calls_of_zero
    (h : payloadLen (pktAtSend conCtl c f).data sizeofEthernet f.tcp = 0) :
    (delivered proto conCtl c f).calls = [] := by
  unfold delivered delivery deliver
  dsimp only
  rw [if_neg]
  rw [show payloadLen (answerHeader ((c.acknowledge conCtl f.swapped f.tcp).advance f.swapped
    sizeofEthernet f.tcp) f.swapped f.tcp) sizeofEthernet f.tcp = 0 from h]
  decide

variable (proto conCtl f) in
/-- The stream when sending begins. -/
theorem InStream.atSend (h : InStream B c) (hnext : GoesOn B c) :
    InStream (B ++ (delivered proto conCtl c f).calls.flatMap IfaceCall.bytes)
        (atSend proto conCtl c f) ∧
      GoesOn (B ++ (delivered proto conCtl c f).calls.flatMap IfaceCall.bytes)
        (atSend proto conCtl c f) := by
  obtain ⟨q, l, w, k, hack⟩ := c.acknowledge_frame conCtl f.swapped f.tcp
  obtain ⟨n, b, hadv⟩ := (c.acknowledge conCtl f.swapped f.tcp).advance_frame f.swapped
    sizeofEthernet f.tcp
  have hin := h.acknowledge conCtl f.swapped f.tcp
  unfold TCP.atSend
  refine InStream.calls ?_ ?_ _
  · rw [hadv]
    exact ⟨hin.queued, hin.sent⟩
  · rw [hadv, hack]
    exact hnext

variable (conCtl c) in
/-- What the header says when sending begins. -/
theorem pktAtSend_head (h : IPv4.getPayload f.swapped sizeofEthernet = f.tcp) :
    Head (pktAtSend conCtl c f).data f.tcp
      (payloadLen (pktAtSend conCtl c f).data sizeofEthernet f.tcp) c.seqLocal := by
  have hle : sizeofEthernet ≤ f.tcp := h ▸ (IPv4.getPayload_bounds f.swapped sizeofEthernet).1
  obtain ⟨q, l, w, k, hack⟩ := c.acknowledge_frame conCtl f.swapped f.tcp
  obtain ⟨n, b, hadv⟩ := (c.acknowledge conCtl f.swapped f.tcp).advance_frame f.swapped
    sizeofEthernet f.tcp
  refine ⟨?_, getHeaderLen_answerHeader _ _ _, rfl, ?_⟩
  · exact (IPv4.getPayload_congr (answerHeader_of_ne (by omega))).trans h
  · show Tcp.getSeq (answerHeader ((c.acknowledge conCtl f.swapped f.tcp).advance f.swapped
      sizeofEthernet f.tcp) f.swapped f.tcp) f.tcp = _
    rw [getSeq_answerHeader, hadv, hack]

end expected

/-- Segments that are written one after the other leave the header in its place. -/
theorem foldl_put_header {t : Nat} (segs : List Segment) :
    ∀ {s : Sending}, IPv4.getPayload s.pkt.data sizeofEthernet = t →
      Tcp.getHeaderLen s.pkt.data t = 20 →
      IPv4.getPayload (segs.foldl Sending.put s).pkt.data sizeofEthernet = t ∧
        Tcp.getHeaderLen (segs.foldl Sending.put s).pkt.data t = 20 := by
  induction segs with
  | nil => exact fun h h' => ⟨h, h'⟩
  | cons seg segs ih =>
      intro s h h'
      obtain ⟨hhead, -⟩ := put_head seg h h'
      exact ih hhead.start hhead.headerLen

theorem foldl_put_concat (init : List Segment) (seg : Segment) (s : Sending) :
    (init ++ [seg]).foldl Sending.put s = (init.foldl Sending.put s).put seg := by
  rw [List.foldl_append]
  rfl

/-- With or without a FIN, the frame is what sending left in the packet. -/
theorem finish_head {c : Connection σ κ} {s : Sending} {d : Delivery σ} {t : Nat} {n : UInt16}
    {seq : UInt32} (h : Head s.pkt.data t n seq) (htcp : s.tcp = t) :
    Head (finish c s d).pkt.data t n seq ∧
      ∀ k, (finish c s d).pkt.data.read (t + 20) k = s.pkt.data.read (t + 20) k := by
  unfold finish
  split
  · rw [htcp]
    exact h.setFinFlag
  · exact ⟨h, fun _ => rfl⟩

/-- A frame with a segment in it. -/
theorem Head.streamFrame {s : Session σ κ} {pkt : Mbuf} {t : Nat} {seg : Segment}
    (h : Head pkt.data t seg.dataLen seg.seqNumber) (hplaced : Placed s.stream seg)
    (hbytes : pkt.data.read (t + 20) seg.dataLen.toNat = seg.bytes)
    (hzero : seg.dataLen.toNat = 0 → seg.seqNumber = s.nextSeq) : StreamFrame s pkt := by
  have ht : pkt.tcp = t := h.start
  obtain ⟨pos, hseq, hle, hstream⟩ := hplaced
  unfold StreamFrame
  dsimp only
  rw [ht, h.payloadLen, h.seq, h.headerLen]
  refine ⟨fun hz => hzero (by rw [hz]; rfl), fun _ => ⟨pos, hseq, hle, ?_⟩⟩
  rw [← hstream]
  exact hbytes

section packet

variable {proto : Proto σ} {conCtl : ConCtl κ} {s : Session σ κ} {f : Mbuf}

/-- **The frame that serves a packet.** -/
theorem Honest.expected_frame (h : Honest proto conCtl s.conn f) (he : Expected s.conn f)
    (hin : InStream s.stream s.conn) (hnext : GoesOn s.stream s.conn)
    (hsend : (runEst proto conCtl s.conn f).free = false) :
    StreamFrame (s.packet proto conCtl f) (runEst proto conCtl s.conn f).pkt := by
  obtain ⟨hstream, -, m, hconn, -⟩ := Session.packet_of_expected proto conCtl he
  obtain ⟨sent, left, k, htakes, hloop, htrans⟩ := transmit_whole conCtl
    (pktAtSend conCtl s.conn f) f.tcp
    (!decide (payloadLen (pktAtSend conCtl s.conn f).data sizeofEthernet f.tcp > 0)) (h.whole he)
  have hqueue : (s.packet proto conCtl f).conn.dataToSend = left := by
    rw [hconn]
    show (transmitted proto conCtl s.conn f).1.dataToSend = left
    rw [show (transmitted proto conCtl s.conn f).1 = _ from htrans]
  obtain ⟨hat, hgoes⟩ := hin.atSend proto conCtl f hnext
  have hhead := pktAtSend_head conCtl s.conn h.header
  have hloop' : (transmitted proto conCtl s.conn f).2 = _ := hloop
  rw [runEst_eq_finish proto conCtl he] at hsend ⊢
  rcases List.eq_nil_or_concat' sent with rfl | ⟨init, seg, rfl⟩
  · -- nothing is sent, so the packet has no payload and is sent for the FIN
    have hzero : payloadLen (pktAtSend conCtl s.conn f).data sizeofEthernet f.tcp = 0 := by
      by_contra hne
      obtain ⟨hq, hopen⟩ := h.answer he hne
      exact htakes.starts hq hopen rfl
    rw [hzero] at hhead
    have hs : (transmitted proto conCtl s.conn f).2.pkt = pktAtSend conCtl s.conn f ∧
        (transmitted proto conCtl s.conn f).2.tcp = f.tcp ∧
        (transmitted proto conCtl s.conn f).2.freePkt = true := by
      rw [hloop', hzero]
      exact ⟨rfl, rfl, rfl⟩
    have hleft : left = [] := by
      by_contra hne
      have hq : (transmitted proto conCtl s.conn f).1.dataToSend = left := by
        rw [show (transmitted proto conCtl s.conn f).1 = _ from htrans]
      unfold finish at hsend
      rw [hq, if_neg (by simp [hne])] at hsend
      rw [hs.2.2] at hsend
      exact absurd hsend (by simp)
    obtain ⟨hfin, -⟩ := finish_head (c := (transmitted proto conCtl s.conn f).1)
      (d := delivered proto conCtl s.conn f) (s := (transmitted proto conCtl s.conn f).2)
      (by rw [hs.1]; exact hhead) hs.2.1
    refine hfin.streamFrame_zero ?_
    unfold Session.nextSeq
    rw [hqueue, hleft, hstream, delivered_calls_of_zero hzero, List.flatMap_nil, List.append_nil]
    exact hnext
  · rw [foldl_put_concat] at hloop'
    obtain ⟨hstart, hlen⟩ := foldl_put_header init
      (s := ⟨(atSend proto conCtl s.conn f).dataToSend, (atSend proto conCtl s.conn f).dataAlreadySent,
        (atSend proto conCtl s.conn f).ipID, pktAtSend conCtl s.conn f, f.tcp,
        !decide (payloadLen (pktAtSend conCtl s.conn f).data sizeofEthernet f.tcp > 0)⟩)
      hhead.start hhead.headerLen
    obtain ⟨hput, hbytes⟩ := put_head seg hstart hlen
    have hplaced : Placed (s.packet proto conCtl f).stream seg := by
      rw [hstream]
      refine hat.queued seg ?_
      rw [htakes.split]
      simp
    rw [hplaced.length_bytes] at hbytes
    obtain ⟨hfin, hread⟩ := finish_head (c := (transmitted proto conCtl s.conn f).1)
      (d := delivered proto conCtl s.conn f) (s := (transmitted proto conCtl s.conn f).2)
      (by rw [hloop']; exact hput) (by rw [hloop']; exact hstart)
    refine hfin.streamFrame hplaced ?_ ?_
    · rw [hread, hloop']
      exact hbytes
    · intro hz
      obtain ⟨hopen, hall⟩ := htakes.last init seg rfl
      have hleft := hall hz
      have hq := htakes.split
      rw [hleft, List.append_nil] at hq
      unfold Session.nextSeq
      rw [hqueue, hleft, hstream]
      exact (h.last he init seg hq hz hopen).trans hgoes

/-- **The frame that answers a packet**, whichever way it goes. -/
theorem Honest.frame (h : Honest proto conCtl s.conn f) (hin : InStream s.stream s.conn)
    (hnext : GoesOn s.stream s.conn) (hsend : (runEst proto conCtl s.conn f).free = false) :
    StreamFrame (s.packet proto conCtl f) (runEst proto conCtl s.conn f).pkt := by
  rcases runEst_cases s.conn f with hbad | ⟨hflags, hseq⟩ | he
  · obtain ⟨hlen, hq⟩ := h.abort hbad
    obtain ⟨hconn, -, hstream, -⟩ := Session.packet_of_bad proto conCtl (s := s) hbad
    rw [runEst_of_bad proto conCtl s.conn hbad]
    refine (abort_head h.header hlen).streamFrame_zero ?_
    unfold Session.nextSeq
    rw [hconn, hq, hstream]
    exact hnext
  · obtain ⟨hconn, -, hstream, -⟩ := Session.packet_of_unexpected proto conCtl hflags hseq
    obtain ⟨q, l, w, k, hack⟩ := s.conn.acknowledge_frame conCtl f.swapped f.tcp
    rw [runEst_of_unexpected proto conCtl hflags hseq]
    refine (goBackN_head h.header).streamFrame_zero ?_
    unfold Session.nextSeq
    rw [hconn, hstream, hack]
    cases q with
    | nil => exact hnext
    | cons front q => rfl
  · exact h.expected_frame he hin hnext hsend

/-- The segments of a session are of its stream, which goes on at `seqLocal` in `est`. -/
structure OfStream (s : Session σ κ) : Prop where
  segments : InStream s.stream s.conn
  next : s.state = States.est → GoesOn s.stream s.conn

theorem OfStream.packet (h : OfStream s) (hest : s.state = States.est)
    (hok : Honest proto conCtl s.conn f) : OfStream (s.packet proto conCtl f) := by
  rcases runEst_cases s.conn f with hbad | ⟨hflags, hseq⟩ | he
  · obtain ⟨hconn, hstate, hstream, -⟩ := Session.packet_of_bad proto conCtl (s := s) hbad
    refine ⟨?_, fun hc => ?_⟩
    · rw [hconn, hstream]
      exact h.segments
    · rw [hstate] at hc
      exact absurd hc (by decide)
  · obtain ⟨hconn, -, hstream, -⟩ := Session.packet_of_unexpected proto conCtl hflags hseq
    obtain ⟨q, l, w, k, hack⟩ := s.conn.acknowledge_frame conCtl f.swapped f.tcp
    refine ⟨?_, fun _ => ?_⟩
    · rw [hconn, hstream]
      exact h.segments.acknowledge conCtl f.swapped f.tcp
    · unfold GoesOn
      rw [hconn, hstream, hack]
      exact h.next hest
  · obtain ⟨hstream, -, n, hconn, hn⟩ := Session.packet_of_expected proto conCtl he
    obtain ⟨sent, left, k, htakes, -, htrans⟩ := transmit_whole conCtl
      (pktAtSend conCtl s.conn f) f.tcp
      (!decide (payloadLen (pktAtSend conCtl s.conn f).data sizeofEthernet f.tcp > 0))
      (hok.whole he)
    obtain ⟨hat, hgoes⟩ := h.segments.atSend proto conCtl f (h.next hest)
    have htrans' : (transmitted proto conCtl s.conn f).1 = _ := htrans
    refine ⟨?_, fun hest' => ?_⟩
    · rw [hstream, hconn, htrans']
      refine hat.of_subset (fun seg hseg => Or.inl ?_) fun seg hseg => ?_
      · rw [htakes.split]
        exact List.mem_append_right _ hseg
      · refine (List.mem_append.mp hseg).imp_right fun hmem => ?_
        rw [htakes.split]
        exact List.mem_append_left _ hmem
    · unfold GoesOn
      rw [hstream, hconn]
      exact (hn hest').trans (transmitted_seqLocal.trans hgoes)

end packet

/-- A connection starts with the segment of the handshake, if any. -/
theorem Session.accept_ofStream (proto : Proto σ) (conCtl : ConCtl κ) (syn : Mbuf) :
    OfStream (Session.accept proto conCtl syn) := by
  obtain ⟨hq, ⟨hend, ha⟩ | ⟨synAck, ha, h0, -, hseq⟩⟩ := Session.accept_conn proto conCtl syn
  · refine ⟨⟨by rw [hq]; simp, by rw [ha]; simp⟩, fun hc => absurd hc hend⟩
  · refine ⟨⟨by rw [hq]; simp, ?_⟩, fun _ => hseq⟩
    rw [ha]
    intro seg hseg
    rw [List.mem_singleton.mp hseg]
    exact Or.inr h0

/--
**Every frame carries stream data only**, in every run of honest packets.

Whatever the protocol and the congestion control do: a frame that is left to be sent
announces bytes of the send stream and carries them, or it announces none, with the
next sequence number.
-/
theorem Session.Run.frames_of_stream (proto : Proto σ) (conCtl : ConCtl κ) (syn : Mbuf)
    {s : Session σ κ} (hrun : Session.Run proto conCtl
      (fun s f => Honest proto conCtl s.conn f) (Session.accept proto conCtl syn) s)
    (hest : s.state = States.est) {f : Mbuf} (hok : Honest proto conCtl s.conn f)
    (hsend : (runEst proto conCtl s.conn f).free = false) :
    StreamFrame (s.packet proto conCtl f) (runEst proto conCtl s.conn f).pkt := by
  have hof : OfStream s := by
    clear hest hok hsend
    induction hrun with
    | refl => exact Session.accept_ofStream proto conCtl syn
    | step f _ hest hok ih => exact ih.packet hest hok
  exact hok.frame hof.segments (hof.next hest) hsend

/-! ### A received payload that is sent back -/

theorem honest_helloFrame : Honest TcpProtoJoke TcpConCtlSimple opened.conn helloFrame := by
  have hq : (atSend TcpProtoJoke TcpConCtlSimple opened.conn helloFrame).dataToSend
      = [⟨[104, 105], 1, 2⟩] := by decide
  refine ⟨by decide, fun hc => absurd hc (by decide), (lossless_helloFrame (by decide)).2, ?_, ?_⟩
  · rw [hq]
    exact fun _ _ => ⟨by simp, by decide⟩
  · rw [hq]
    intro _ init seg heq hz
    have hlast := congrArg List.getLast? heq
    rw [List.getLast?_concat] at hlast
    rw [← Option.some.inj hlast] at hz
    exact absurd hz (by decide)

/-- The joke server answers its first two bytes. -/
theorem Session.Run.frames_of_stream_hello :
    StreamFrame (opened.packet TcpProtoJoke TcpConCtlSimple helloFrame)
      (runEst TcpProtoJoke TcpConCtlSimple opened.conn helloFrame).pkt :=
  Session.Run.frames_of_stream TcpProtoJoke TcpConCtlSimple synFrame .refl (by decide)
    honest_helloFrame (by decide)

/-- A protocol that takes everything and says nothing. -/
def silent : Proto Unit where
  init := ()
  handlePacket := fun st _ => ([], st)

/-- Its server sends the payload it received back, two bytes of a stream that has none. -/
theorem frame_not_of_stream :
    let s := Session.accept silent TcpConCtlSimple synFrame
    s.state = States.est ∧ (runEst silent TcpConCtlSimple s.conn helloFrame).free = false ∧
      (s.packet silent TcpConCtlSimple helloFrame).stream = [] ∧
      ¬ StreamFrame (s.packet silent TcpConCtlSimple helloFrame)
        (runEst silent TcpConCtlSimple s.conn helloFrame).pkt := by
  refine ⟨by decide, by decide, by decide, fun h => ?_⟩
  obtain ⟨pos, -, hle, -⟩ := h.2 (by decide)
  exact absurd hle (by
    rw [show (payloadLen (runEst silent TcpConCtlSimple
      (Session.accept silent TcpConCtlSimple synFrame).conn helloFrame).pkt.data sizeofEthernet
      (runEst silent TcpConCtlSimple
        (Session.accept silent TcpConCtlSimple synFrame).conn helloFrame).pkt.tcp).toNat = 2 by decide,
      show (Session.packet silent TcpConCtlSimple (Session.accept silent TcpConCtlSimple synFrame)
        helloFrame).stream.length = 0 by decide]
    omega)

end MoonState.TCP
