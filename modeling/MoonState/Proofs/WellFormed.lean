/-
Are the frames the TCP server sends well formed?

Every answer is written over the packet it answers, and turning that around is the
part that always works.  The lengths are not: `setPayloadLength` takes the IHL of
the packet, and the length of the mbuf is that of a packet without IP options.
Some answers keep the lengths of the received packet, and its data offset with
them.

So for each way a packet can be answered there is a condition on the packet, and
`Turned.wellFormed_iff` reduces the frame to the four facts these are about.
-/
import MoonState.Proofs.Close

namespace MoonState.TCP

open Headers

variable {σ κ : Type}

/-! ### The frames -/

namespace Mbuf

/-- IPv4 with a header of full length, and TCP in it. -/
structure IsTcp (f : Mbuf) : Prop where
  version : f.data sizeofEthernet >>> 4 = 4
  ihl : 5 ≤ f.ihl
  proto : IPv4.proto f.data sizeofEthernet = 6

instance (f : Mbuf) : Decidable f.IsTcp :=
  decidable_of_iff (f.data sizeofEthernet >>> 4 = 4 ∧ 5 ≤ f.ihl ∧
      IPv4.proto f.data sizeofEthernet = 6)
    ⟨fun ⟨hv, hi, hp⟩ => ⟨hv, hi, hp⟩, fun ⟨hv, hi, hp⟩ => ⟨hv, hi, hp⟩⟩

/-- The length in the IPv4 header. -/
def totalLength (f : Mbuf) : Nat := (f.data.get16 (sizeofEthernet + 2)).toNat

/-- The length in the TCP header. -/
def headerLen (f : Mbuf) : Nat := (Tcp.getHeaderLen f.data f.tcp).toNat

end Mbuf

/-- `pkt` is a well-formed answer to `f` with `n` bytes of payload, from a server that expects
`seqRemote`. -/
structure WellFormed (f : Mbuf) (seqRemote : UInt32) (pkt : Mbuf) (n : Nat) : Prop where
  isTcp : pkt.IsTcp
  dataLen : pkt.dataLen.toNat = sizeofEthernet + pkt.totalLength
  src : IPv4.getSrcIP pkt.data sizeofEthernet = IPv4.getDstIP f.data sizeofEthernet
  dst : IPv4.getDstIP pkt.data sizeofEthernet = IPv4.getSrcIP f.data sizeofEthernet
  srcPort : Tcp.getSrcPort pkt.data pkt.tcp = Tcp.getDstPort f.data f.tcp
  dstPort : Tcp.getDstPort pkt.data pkt.tcp = Tcp.getSrcPort f.data f.tcp
  length : pkt.totalLength = 4 * pkt.ihl + pkt.headerLen + n
  ack : Tcp.getRstFlag pkt.data pkt.tcp = true ∨
    Tcp.getAckFlag pkt.data pkt.tcp = true ∧ Tcp.getAck pkt.data pkt.tcp = seqRemote

/-! ### A packet that is turned around -/

/-- What no answer changes in the packet once it is turned around: version and IHL, the protocol,
the addresses and the ports. -/
def Turned (f pkt : Mbuf) : Prop :=
  ∀ j, j = 14 ∨ (20 ≤ j ∧ j < 34) ∨ (f.tcp ≤ j ∧ j < f.tcp + 4) → pkt.data j = f.swapped j

section turned

variable {f pkt : Mbuf}

theorem Mbuf.tcp_of_whole (h : 5 ≤ f.ihl) : 34 ≤ f.tcp := by
  rw [Mbuf.tcp_eq]
  omega

/-- The addresses and ports are swapped, as the TCP header is behind the IPv4 header. -/
theorem Mbuf.swapped_exchanges (h : 5 ≤ f.ihl) :
    IPv4.getSrcIP f.swapped sizeofEthernet = IPv4.getDstIP f.data sizeofEthernet ∧
      IPv4.getDstIP f.swapped sizeofEthernet = IPv4.getSrcIP f.data sizeofEthernet ∧
      Tcp.getSrcPort f.swapped f.tcp = Tcp.getDstPort f.data f.tcp ∧
      Tcp.getDstPort f.swapped f.tcp = Tcp.getSrcPort f.data f.tcp := by
  have hle := Mbuf.tcp_of_whole h
  unfold Mbuf.swapped swapAddresses
  generalize f.tcp = t at hle ⊢
  simp (disch := omega) [IPv4.getSrcIP, IPv4.getDstIP, IPv4.setSrcIP, IPv4.setDstIP, IPv4.setTtl,
    IPv4.clearChecksum, Tcp.getSrcPort, Tcp.getDstPort, Tcp.setSrcPort, Tcp.setDstPort,
    sizeofEthernet, Mem.get16_set8, Mem.get16_set16_of_ne, Mem.get16_set32, Mem.get32_set8,
    Mem.get32_set16, Mem.get32_set32_of_ne]

namespace Turned

theorem version (ht : Turned f pkt) (h : 5 ≤ f.ihl) :
    pkt.data sizeofEthernet = f.data sizeofEthernet :=
  (ht 14 (Or.inl rfl)).trans (Mbuf.swapped_of_ihl (by omega)).1

theorem ihl (ht : Turned f pkt) (h : 5 ≤ f.ihl) : pkt.ihl = f.ihl := by
  unfold Mbuf.ihl IPv4.ihl
  rw [ht.version h]

theorem tcp (ht : Turned f pkt) (h : 5 ≤ f.ihl) : pkt.tcp = f.tcp :=
  IPv4.getPayload_congr (ht.version h)

theorem isTcp_iff (ht : Turned f pkt) (h : 5 ≤ f.ihl) : pkt.IsTcp ↔ f.IsTcp := by
  have hproto : IPv4.proto pkt.data sizeofEthernet = IPv4.proto f.data sizeofEthernet := by
    have hle := Mbuf.tcp_of_whole h
    refine (ht 23 (by omega)).trans (swapAddresses_of_ne (by unfold sizeofEthernet; omega) ?_)
    omega
  constructor
  · intro hp
    exact ⟨ht.version h ▸ hp.version, h, hproto ▸ hp.proto⟩
  · intro hf
    exact ⟨(ht.version h).symm ▸ hf.version, (ht.ihl h).symm ▸ h, hproto.symm ▸ hf.proto⟩

/-- **What is left to say of an answer**: its lengths, and its flags and numbers. -/
theorem wellFormed_iff (ht : Turned f pkt) (h : 5 ≤ f.ihl) {seqRemote : UInt32} {n : Nat} :
    WellFormed f seqRemote pkt n ↔
      f.IsTcp ∧ pkt.dataLen.toNat = sizeofEthernet + pkt.totalLength ∧
        pkt.totalLength = 4 * f.ihl + (Tcp.getHeaderLen pkt.data f.tcp).toNat + n ∧
        (Tcp.getRstFlag pkt.data f.tcp = true ∨
          Tcp.getAckFlag pkt.data f.tcp = true ∧ Tcp.getAck pkt.data f.tcp = seqRemote) := by
  have hle := Mbuf.tcp_of_whole h
  obtain ⟨hsrc, hdst, hsrcPort, hdstPort⟩ := Mbuf.swapped_exchanges h
  constructor
  · intro hw
    refine ⟨(ht.isTcp_iff h).mp hw.isTcp, hw.dataLen, ?_, ?_⟩
    · rw [hw.length, ht.ihl h, Mbuf.headerLen, ht.tcp h]
    · rw [← ht.tcp h]
      exact hw.ack
  · rintro ⟨htcp, hlen, htotal, hack⟩
    refine ⟨(ht.isTcp_iff h).mpr htcp, hlen, ?_, ?_, ?_, ?_, ?_, ?_⟩
    · rw [← hsrc]
      refine Mem.Same.get32 fun j hj hj' => ht j ?_
      simp only [sizeofEthernet] at hj hj'
      omega
    · rw [← hdst]
      refine Mem.Same.get32 fun j hj hj' => ht j ?_
      simp only [sizeofEthernet] at hj hj'
      omega
    · rw [ht.tcp h, ← hsrcPort]
      exact Mem.Same.get16 fun j hj hj' => ht j (by omega)
    · rw [ht.tcp h, ← hdstPort]
      exact Mem.Same.get16 fun j hj hj' => ht j (by omega)
    · rw [ht.ihl h, Mbuf.headerLen, ht.tcp h, htotal]
    · rw [ht.tcp h]
      exact hack

end Turned

end turned

/-! ### Answers with ACK -/

/-- The length that is written is that of both headers and the payload. -/
theorem toNat_setPayloadLength {m : Mem} {ip n : Nat} (h : n < 60000) :
    ((IPv4.setPayloadLength m ip (UInt16.ofNat n)).get16 (ip + 2)).toNat
      = 4 * (IPv4.ihl m ip).toNat + n := by
  have hihl : (IPv4.ihl m ip).toNat < 16 := by
    rw [IPv4.ihl_toNat]
    omega
  unfold IPv4.setPayloadLength
  simp
  omega

theorem toNat_frameLen {n : UInt16} (h : n.toNat ≤ MSS) :
    (frameLen n).toNat = sizeofEthernet + sizeofIPv4 + sizeofTcp + n.toNat := by
  have hmss : MSS = 1460 := rfl
  unfold frameLen sizeofEthernet sizeofIPv4 sizeofTcp
  simp
  omega

theorem and_or_distrib (a b c : UInt8) : (a ||| b) &&& c = (a &&& c) ||| (b &&& c) :=
  UInt8.toBitVec_inj.1 BitVec.and_or_distrib_right

theorem getAckFlag_setAckFlag (m : Mem) (t : Nat) :
    Tcp.getAckFlag (Tcp.setAckFlag m t) t = true := by
  unfold Tcp.getAckFlag Tcp.setAckFlag
  simp [Tcp.flags, and_or_distrib]

theorem getAckFlag_setFinFlag (m : Mem) (t : Nat) :
    Tcp.getAckFlag (Tcp.setFinFlag m t) t = Tcp.getAckFlag m t := by
  have hflags : Tcp.flags (Tcp.setFinFlag m t) t = Tcp.flags m t ||| 0x1 := Mem.set8_self _ _ _
  have hfin : (0x1 : UInt8) &&& 0x10 = 0 := rfl
  unfold Tcp.getAckFlag
  rw [hflags, and_or_distrib, hfin, UInt8.or_zero]

theorem getAckFlag_congr {m m' : Mem} {t : Nat} (h : m' (t + 13) = m (t + 13)) :
    Tcp.getAckFlag m' t = Tcp.getAckFlag m t := by
  unfold Tcp.getAckFlag
  rw [Tcp.flags_congr h]

/-- The memory of an answer to `f`, without options, that acknowledges what is before `seqRemote`. -/
structure Acks (f : Mbuf) (seqRemote : UInt32) (pkt : Mbuf) : Prop where
  turned : Turned f pkt
  headerLen : Tcp.getHeaderLen pkt.data f.tcp = 20
  ackFlag : Tcp.getAckFlag pkt.data f.tcp = true
  ack : Tcp.getAck pkt.data f.tcp = seqRemote

namespace Acks

variable {f pkt pkt' : Mbuf} {seqRemote : UInt32}

/-- The fields of an answer are not written again. -/
theorem congr (h : Acks f seqRemote pkt) (hsame : ∀ j, j = 14 ∨ (20 ≤ j ∧ j < 34) ∨
    (f.tcp ≤ j ∧ j < f.tcp + 4) ∨ (f.tcp + 8 ≤ j ∧ j < f.tcp + 14) → pkt'.data j = pkt.data j) :
    Acks f seqRemote pkt' := by
  refine ⟨fun j hj => ?_, ?_, ?_, ?_⟩
  · rw [hsame j (by omega)]
    exact h.turned j hj
  · exact (Tcp.getHeaderLen_congr (hsame _ (by omega))).trans h.headerLen
  · exact (getAckFlag_congr (hsame _ (by omega))).trans h.ackFlag
  · exact (Mem.Same.get32 fun j hj hj' => hsame j (by omega)).trans h.ack

theorem setFinFlag (h : Acks f seqRemote pkt) (h5 : 5 ≤ f.ihl) :
    Acks f seqRemote { pkt with data := Tcp.setFinFlag pkt.data f.tcp } := by
  have hle := Mbuf.tcp_of_whole h5
  have hout : ∀ j, j ≠ f.tcp + 13 → Tcp.setFinFlag pkt.data f.tcp j = pkt.data j := fun j hj =>
    Mem.set8_of_ne _ hj
  refine ⟨fun j hj => ?_, ?_, ?_, ?_⟩
  · exact (hout j (by omega)).trans (h.turned j hj)
  · exact (Tcp.getHeaderLen_congr (hout _ (by omega))).trans h.headerLen
  · exact (getAckFlag_setFinFlag _ _).trans h.ackFlag
  · exact (Mem.Same.get32 fun j hj hj' => hout j (by omega)).trans h.ack

/-- Then only the lengths are left. -/
theorem wellFormed_iff (h : Acks f seqRemote pkt) (h5 : 5 ≤ f.ihl) {n : Nat} :
    WellFormed f seqRemote pkt n ↔
      f.IsTcp ∧ pkt.dataLen.toNat = sizeofEthernet + pkt.totalLength ∧
        pkt.totalLength = 4 * f.ihl + 20 + n := by
  rw [h.turned.wellFormed_iff h5, h.headerLen, h.ack, h.ackFlag]
  simp

/-- With lengths of its own an answer is well formed where the packet has no IP options. -/
theorem wellFormed_iff_of_sized (h : Acks f seqRemote pkt) (h5 : 5 ≤ f.ihl) {n : Nat}
    (htotal : pkt.totalLength = 4 * f.ihl + 20 + n) (hlen : pkt.dataLen.toNat = 54 + n) :
    WellFormed f seqRemote pkt n ↔ f.IsTcp ∧ f.ihl = 5 := by
  rw [h.wellFormed_iff h5, htotal, hlen, sizeofEthernet]
  refine and_congr_right fun _ => ⟨fun ⟨h', _⟩ => by omega, fun h' => ⟨by omega, rfl⟩⟩

end Acks

theorem getAckFlag_answerHeader (c : Connection σ κ) (m : Mem) (t : Nat) :
    Tcp.getAckFlag (answerHeader c m t) t = true := by
  unfold Tcp.getAckFlag
  rw [flags_answerHeader]
  decide

theorem getAck_answerHeader (c : Connection σ κ) (m : Mem) (t : Nat) :
    Tcp.getAck (answerHeader c m t) t = c.seqRemote := by
  unfold Tcp.getAck answerHeader Tcp.setOffset Tcp.setAck
  simp (disch := omega) [Mem.get32_set8]

/-- The header of an answer, on the packet it answers. -/
theorem acks_answerHeader (c : Connection σ κ) {f : Mbuf} (h5 : 5 ≤ f.ihl) (dataLen : UInt16) :
    Acks f c.seqRemote ⟨answerHeader c f.swapped f.tcp, dataLen⟩ := by
  have hle := Mbuf.tcp_of_whole h5
  refine ⟨fun j hj => answerHeader_of_ne (by omega), ?_, ?_, ?_⟩
  · exact getHeaderLen_answerHeader c f.swapped f.tcp
  · exact getAckFlag_answerHeader c f.swapped f.tcp
  · exact getAck_answerHeader c f.swapped f.tcp

/-! ### The send loop -/

/-- The segments the send loop writes, each with the frame it leaves. -/
def sent (maxSend : UInt32) : List Segment → UInt32 → Sending → List (Segment × Mbuf)
  | [], _, _ => []
  | seg :: rest, alreadySent, s =>
    if maxSend > alreadySent then
      let curSend := min seg.dataLen (maxSend - alreadySent).toUInt16
      if curSend = seg.dataLen then
        (seg, (s.put seg).pkt) :: sent maxSend rest (alreadySent + curSend.toUInt32) (s.put seg)
      else [((seg.split curSend).1, (s.put (seg.split curSend).1).pkt)]
    else []

/-- What the loop leaves in the packet is what it wrote last. -/
theorem sendLoop_pkt (maxSend : UInt32) (queue : List Segment) : ∀ (alreadySent : UInt32)
    (s : Sending), (sendLoop maxSend queue alreadySent s).pkt
      = ((sent maxSend queue alreadySent s).getLast?.map Prod.snd).getD s.pkt := by
  induction queue with
  | nil => intro alreadySent s; rfl
  | cons seg rest ih =>
      intro alreadySent s
      rw [sendLoop, sent]
      split
      · dsimp only
        split
        · rw [ih, List.getLast?_cons]
          cases (sent maxSend rest (alreadySent + (min seg.dataLen
              (maxSend - alreadySent).toUInt16).toUInt32) (s.put seg)).getLast? <;> rfl
        · rfl
      · rfl

/-- Where nothing is sent the packet stays, and so does the wish to free it. -/
theorem sent_eq_nil_iff (maxSend : UInt32) (queue : List Segment) (s : Sending) :
    sent maxSend queue 0 s = [] ↔ ¬ (queue ≠ [] ∧ 0 < maxSend) := by
  cases queue with
  | nil => simp [sent]
  | cons seg rest =>
      rw [sent]
      split
      · rename_i hpos
        dsimp only
        split <;> simp [gt_iff_lt.mp hpos]
      · rename_i hpos
        simp [gt_iff_lt] at hpos ⊢
        exact hpos

/-- An answer that carries a segment: it has the lengths of one. -/
structure Sized (f : Mbuf) (seqRemote : UInt32) (pkt : Mbuf) (n : Nat) : Prop where
  acks : Acks f seqRemote pkt
  total : pkt.totalLength = 4 * f.ihl + 20 + n
  dataLen : pkt.dataLen.toNat = 54 + n

theorem Sized.wellFormed_iff {f pkt : Mbuf} {seqRemote : UInt32} {n : Nat}
    (h : Sized f seqRemote pkt n) (h5 : 5 ≤ f.ihl) :
    WellFormed f seqRemote pkt n ↔ f.IsTcp ∧ f.ihl = 5 :=
  h.acks.wellFormed_iff_of_sized h5 h.total h.dataLen

theorem Sized.setFinFlag {f pkt : Mbuf} {seqRemote : UInt32} {n : Nat}
    (h : Sized f seqRemote pkt n) (h5 : 5 ≤ f.ihl) :
    Sized f seqRemote { pkt with data := Tcp.setFinFlag pkt.data f.tcp } n := by
  have hle := Mbuf.tcp_of_whole h5
  refine ⟨h.acks.setFinFlag h5, ?_, h.dataLen⟩
  rw [← h.total]
  unfold Mbuf.totalLength Tcp.setFinFlag sizeofEthernet
  rw [Mem.get16_set8 (by omega)]

section loop

variable {f : Mbuf} {seqRemote : UInt32} {s : Sending}

/-- A segment is written below the fields of the answer, or behind them. -/
theorem Acks.put (h : Acks f seqRemote s.pkt) (h5 : 5 ≤ f.ihl) (seg : Segment) :
    Acks f seqRemote (s.put seg).pkt := by
  have hle := Mbuf.tcp_of_whole h5
  have htcp : (s.put seg).tcp = f.tcp := h.turned.tcp h5
  refine h.congr fun j hj => ?_
  refine put_of_lt ?_ ?_ ?_ ?_ <;> simp only [htcp, sizeofEthernet] <;> omega

theorem Acks.put_sized (h : Acks f seqRemote s.pkt) (h5 : 5 ≤ f.ihl) {seg : Segment}
    (hshort : seg.dataLen.toNat ≤ MSS) :
    Sized f seqRemote (s.put seg).pkt seg.dataLen.toNat := by
  have hle := Mbuf.tcp_of_whole h5
  have htcp : (s.put seg).tcp = f.tcp := h.turned.tcp h5
  have hmss : MSS = 1460 := rfl
  refine ⟨h.put h5 seg, ?_, toNat_frameLen hshort⟩
  obtain ⟨m, hm⟩ : ∃ m, m = Tcp.setWindow (IPv4.setId (s.pkt.data.write ((s.put seg).tcp + 20)
      seg.bytes) sizeofEthernet s.ipID) (s.put seg).tcp (UInt16.ofNat (4 * MSS)) := ⟨_, rfl⟩
  have hlow : m sizeofEthernet = s.pkt.data sizeofEthernet := by
    rw [hm]
    unfold Tcp.setWindow IPv4.setId sizeofEthernet
    rw [Mem.set16_of_ne _ (by omega), Mem.set16_of_ne _ (by omega),
      Mem.write_of_notMem (by omega)]
  have hdata : (s.put seg).pkt.data = Tcp.setSeq (IPv4.setPayloadLength m sizeofEthernet
      (UInt16.ofNat (20 + seg.dataLen.toNat))) (s.put seg).tcp seg.seqNumber := by
    rw [hm, UInt16.ofNat_add, UInt16.ofNat_toNat]
    rfl
  have hihl : (IPv4.ihl m sizeofEthernet).toNat = f.ihl := by
    unfold IPv4.ihl
    rw [hlow]
    exact h.turned.ihl h5
  unfold Mbuf.totalLength
  rw [hdata, Tcp.setSeq, Mem.get16_set32 (by unfold sizeofEthernet; omega),
    toNat_setPayloadLength (by omega), hihl]
  omega

/-- **Every frame of the send loop** acknowledges, and has the lengths of its segment. -/
theorem sent_sized (maxSend : UInt32) (h5 : 5 ≤ f.ihl) (queue : List Segment) :
    ∀ (alreadySent : UInt32) {s : Sending}, Acks f seqRemote s.pkt →
      (∀ seg ∈ queue, seg.dataLen.toNat ≤ MSS) →
      ∀ x ∈ sent maxSend queue alreadySent s, Sized f seqRemote x.2 x.1.dataLen.toNat := by
  induction queue with
  | nil =>
      intro alreadySent s _ _ x hx
      simp [sent] at hx
  | cons seg rest ih =>
      intro alreadySent s h hshort x hx
      obtain ⟨hseg, hrest⟩ := List.forall_mem_cons.mp hshort
      rw [sent] at hx
      split at hx
      · dsimp only at hx
        split at hx
        · rcases List.mem_cons.mp hx with rfl | hx
          · exact h.put_sized h5 hseg
          · exact ih _ (h.put h5 seg) hrest x hx
        · rw [List.mem_singleton.mp hx]
          refine h.put_sized h5 ?_
          simp [Segment.split]
      · simp at hx

end loop

/-! ### Segments are short -/

/-- A segment takes at most `MSS` bytes. -/
def Connection.Short (c : Connection σ κ) : Prop :=
  ∀ seg, seg ∈ c.dataToSend ∨ seg ∈ c.dataAlreadySent → seg.dataLen.toNat ≤ MSS

namespace Connection.Short

variable {c c' : Connection σ κ}

theorem of_subset (h : c.Short) (hsub : ∀ seg, seg ∈ c'.dataToSend ∨ seg ∈ c'.dataAlreadySent →
    (seg ∈ c.dataToSend ∨ seg ∈ c.dataAlreadySent) ∨ seg.dataLen.toNat ≤ MSS) : c'.Short := by
  intro seg hseg
  rcases hsub seg hseg with hold | hshort
  · exact h seg hold
  · exact hshort

theorem calls (h : c.Short) (calls : List IfaceCall) : (calls.foldl Connection.iface c).Short := by
  refine Connection.calls_induct (P := fun _ c => c.Short) ?_ ?_ calls (B := []) h
  · intro _ c data len ih _ hle
    refine ih.of_subset ?_
    rintro seg (hq | ha)
    · rcases List.mem_append.mp hq with hq | hq
      · exact Or.inl (Or.inl hq)
      · rw [List.mem_singleton.mp hq]
        refine Or.inr (Nat.le_trans ?_ hle)
        simp
        omega
    · exact Or.inl (Or.inr ha)
  · exact fun _ _ ih => ih

theorem resend (h : c.Short) (r : UInt32) : (c.resend r).Short := by
  refine h.of_subset ?_
  rintro seg (hq | ha)
  · rcases List.mem_append.mp hq with hback | hq
    · exact Or.inl (Or.inr (List.mem_of_mem_filter (List.mem_reverse.mp hback)))
    · exact Or.inl (Or.inl hq)
  · exact Or.inl (Or.inr (List.mem_of_mem_filter ha))

theorem acknowledge (h : c.Short) (conCtl : ConCtl κ) (m : Mem) (tcp : Nat) :
    (c.acknowledge conCtl m tcp).Short := by
  have herase : (c.eraseAcked (Tcp.getAck m tcp)).Short :=
    h.of_subset fun _ hseg => Or.inl (hseg.imp_right List.mem_of_mem_filter)
  unfold Connection.acknowledge
  dsimp only
  obtain ⟨k, hk | ⟨r, hk⟩⟩ := (c.eraseAcked (Tcp.getAck m tcp)).control_cases conCtl
    (Tcp.getAck m tcp)
  · rw [hk]
    exact herase
  · rw [hk]
    exact resend (c := { c.eraseAcked (Tcp.getAck m tcp) with conCtl := k }) herase r

/-- The loop moves segments, and of what it splits both parts are empty. -/
theorem sendLoop_mem (maxSend : UInt32) (queue : List Segment) : ∀ (alreadySent : UInt32)
    (s : Sending) (seg : Segment),
      seg ∈ (sendLoop maxSend queue alreadySent s).dataToSend ∨
        seg ∈ (sendLoop maxSend queue alreadySent s).dataAlreadySent →
      (seg ∈ queue ∨ seg ∈ s.dataAlreadySent) ∨ seg.dataLen.toNat = 0 := by
  induction queue with
  | nil =>
      intro alreadySent s seg hseg
      simp [sendLoop] at hseg
      exact Or.inl (Or.inr hseg)
  | cons front rest ih =>
      intro alreadySent s seg hseg
      rw [sendLoop] at hseg
      split at hseg
      · dsimp only at hseg
        split at hseg
        · rcases ih _ _ seg hseg with (hq | ha) | hz
          · exact Or.inl (Or.inl (List.mem_cons_of_mem _ hq))
          · simp [Sending.put] at ha
            rcases ha with ha | rfl
            · exact Or.inl (Or.inr ha)
            · exact Or.inl (Or.inl List.mem_cons_self)
          · exact Or.inr hz
        · simp [Sending.put] at hseg
          rcases hseg with (rfl | hq) | ha | rfl
          · simp [Segment.split]
          · exact Or.inl (Or.inl (List.mem_cons_of_mem _ hq))
          · exact Or.inl (Or.inr ha)
          · simp [Segment.split]
      · exact Or.inl hseg

theorem transmit (h : c.Short) (conCtl : ConCtl κ) (pkt : Mbuf) (tcp : Nat) (freePkt : Bool) :
    (TCP.transmit conCtl c pkt tcp freePkt).1.Short := by
  unfold TCP.transmit
  dsimp only
  split
  · exact h
  · refine h.of_subset fun seg hseg => ?_
    rcases sendLoop_mem _ _ _ _ seg hseg with hold | hz
    · exact Or.inl hold
    · exact Or.inr (by omega)

/-- When sending begins. -/
theorem atSend (h : c.Short) (proto : Proto σ) (conCtl : ConCtl κ) (f : Mbuf) :
    (TCP.atSend proto conCtl c f).Short := by
  obtain ⟨n, b, hadv⟩ := (c.acknowledge conCtl f.swapped f.tcp).advance_frame f.swapped
    sizeofEthernet f.tcp
  refine calls ?_ _
  rw [hadv]
  exact h.acknowledge conCtl f.swapped f.tcp

theorem runEst (h : c.Short) (proto : Proto σ) (conCtl : ConCtl κ) (f : Mbuf) :
    (TCP.runEst proto conCtl c f).conn.Short := by
  rcases runEst_cases c f with hbad | ⟨hflags, hseq⟩ | he
  · rw [runEst_of_bad proto conCtl c hbad]
    exact h
  · have hconn : ∀ c' : Connection σ κ, (goBackN c' f.swapped sizeofEthernet f.tcp).conn = c' :=
      fun _ => rfl
    rw [runEst_of_unexpected proto conCtl hflags hseq, hconn]
    exact h.acknowledge conCtl f.swapped f.tcp
  · have hsent : (transmitted proto conCtl c f).1.Short := (h.atSend proto conCtl f).transmit _ _ _ _
    rw [runEst_eq_finish proto conCtl he]
    generalize transmitted proto conCtl c f = t at hsent ⊢
    unfold finish
    split
    · exact hsent
    · exact hsent

theorem runSynAck (h : c.Short) (f : Mbuf) : (TCP.runSynAck c f).conn.Short := by
  unfold TCP.runSynAck
  dsimp only
  split
  · exact h
  · refine h.of_subset ?_
    rintro seg (hq | ha)
    · exact Or.inl (Or.inl hq)
    · rcases List.mem_append.mp ha with ha | ha
      · exact Or.inl (Or.inr ha)
      · rw [List.mem_singleton.mp ha]
        refine Or.inr ?_
        show (frameLen 0).toNat ≤ MSS
        decide

theorem runAckFin (h : c.Short) (f : Mbuf) : (TCP.runAckFin c f).conn.Short := by
  rw [runAckFin_eq]
  split
  · exact h
  · split
    · exact h
    · exact h

end Connection.Short

/-- The connections there are: `factory` makes them, and the three functions are called on them, in
any order. -/
inductive Reached (proto : Proto σ) (conCtl : ConCtl κ) : Connection σ κ → Prop
  | factory : Reached proto conCtl (factory proto conCtl)
  | synAck {c : Connection σ κ} (f : Mbuf) (h : Reached proto conCtl c) :
      Reached proto conCtl (runSynAck c f).conn
  | est {c : Connection σ κ} (f : Mbuf) (h : Reached proto conCtl c) :
      Reached proto conCtl (runEst proto conCtl c f).conn
  | ackFin {c : Connection σ κ} (f : Mbuf) (h : Reached proto conCtl c) :
      Reached proto conCtl (runAckFin c f).conn

theorem Reached.short {proto : Proto σ} {conCtl : ConCtl κ} {c : Connection σ κ}
    (h : Reached proto conCtl c) : c.Short := by
  induction h with
  | factory => simp [Connection.Short, TCP.factory]
  | synAck f _ ih => exact ih.runSynAck f
  | est f _ ih => exact ih.runEst proto conCtl f
  | ackFin f _ ih => exact ih.runAckFin f

/-! ### Answers with RST -/

/-- `pkt` is turned around and has RST set; its lengths may be those of the packet it answers. -/
structure Resets (f pkt : Mbuf) : Prop where
  turned : Turned f pkt
  offset : Tcp.getHeaderLen pkt.data f.tcp = Tcp.getHeaderLen f.data f.tcp
  rst : Tcp.getRstFlag pkt.data f.tcp = true

namespace Resets

variable {f pkt : Mbuf}

theorem wellFormed_iff (h : Resets f pkt) (h5 : 5 ≤ f.ihl) {seqRemote : UInt32} :
    WellFormed f seqRemote pkt 0 ↔
      f.IsTcp ∧ pkt.dataLen.toNat = sizeofEthernet + pkt.totalLength ∧
        pkt.totalLength = 4 * f.ihl + f.headerLen := by
  rw [h.turned.wellFormed_iff h5, h.offset, h.rst, Mbuf.headerLen]
  simp

/-- Flags that are cleared, and RST; what is written besides keeps clear of the fields. -/
theorem of_set (h5 : 5 ≤ f.ihl) (hout : ∀ j, j = 14 ∨ (20 ≤ j ∧ j < 34) ∨
      (f.tcp ≤ j ∧ j < f.tcp + 4) ∨ (f.tcp + 12 ≤ j ∧ j < f.tcp + 14) →
      pkt.data j = Tcp.setRstFlag (Tcp.clearFlags f.swapped f.tcp) f.tcp j) : Resets f pkt := by
  have hle := Mbuf.tcp_of_whole h5
  have hne : ∀ j, j ≠ f.tcp + 13 →
      Tcp.setRstFlag (Tcp.clearFlags f.swapped f.tcp) f.tcp j = f.swapped j := by
    intro j hj
    unfold Tcp.setRstFlag Tcp.clearFlags
    rw [Mem.set8_of_ne _ hj, Mem.set8_of_ne _ hj]
  refine ⟨fun j hj => ?_, Tcp.getHeaderLen_congr ?_, ?_⟩
  · rw [hout j (by omega), hne j (by omega)]
  · rw [hout _ (by omega), hne _ (by omega)]
    exact (Mbuf.swapped_of_ihl (by omega)).2.2.1
  · unfold Tcp.getRstFlag
    rw [Tcp.flags_congr (hout _ (by omega))]
    simp [Tcp.flags, Tcp.setRstFlag, Tcp.clearFlags]

end Resets

/-! ### `runSynAck` -/

/-- A frame that is left marked for sending is well formed. -/
def Outcome.Formed (f : Mbuf) (o : Outcome σ κ) (n : Nat) : Prop :=
  o.free = false → WellFormed f o.conn.seqRemote o.pkt n

/-- The packet does not open a connection. -/
def Mbuf.noSyn (f : Mbuf) : Bool :=
  !Tcp.getSynFlag f.data f.tcp || Tcp.getAckFlag f.data f.tcp || Tcp.getFinFlag f.data f.tcp ||
    Tcp.getRstFlag f.data f.tcp

/-- A SYN must come without IP options.  What is refused must be no longer than its headers, and
without TCP options. -/
def Mbuf.SynOk (f : Mbuf) : Prop :=
  f.IsTcp ∧
    if f.noSyn then
      f.headerLen = 20 ∧ f.dataLen.toNat = sizeofEthernet + 4 * f.ihl + sizeofTcp
    else f.ihl = 5

instance (f : Mbuf) : Decidable f.SynOk := by
  unfold Mbuf.SynOk
  infer_instance

section synAck

variable {c : Connection σ κ} {f : Mbuf}

/-- The packet with the length of an answer. -/
def Mbuf.sized (f : Mbuf) : Mem :=
  IPv4.setPayloadLength f.swapped sizeofEthernet (UInt16.ofNat sizeofTcp)

theorem Mbuf.sized_of_ne {j : Nat} (h : j < 16 ∨ 18 ≤ j) : f.sized j = f.swapped j :=
  Mem.set16_of_ne _ (by unfold sizeofEthernet; omega)

/-- The length that is written, with an IHL that is there. -/
theorem Mbuf.toNat_sized (h5 : 5 ≤ f.ihl) :
    (f.sized.get16 (sizeofEthernet + 2)).toNat = 4 * f.ihl + 20 := by
  unfold Mbuf.sized
  rw [toNat_setPayloadLength (by decide)]
  have hihl : IPv4.ihl f.swapped sizeofEthernet = IPv4.ihl f.data sizeofEthernet := by
    unfold IPv4.ihl
    rw [show f.swapped sizeofEthernet = f.data sizeofEthernet from
      (Mbuf.swapped_of_ihl (by omega)).1]
  rw [hihl]
  rfl

theorem Mbuf.noSyn_sized (h5 : 5 ≤ f.ihl) : f.noSyn = (!Tcp.getSynFlag f.sized f.tcp ||
    Tcp.getAckFlag f.sized f.tcp || Tcp.getFinFlag f.sized f.tcp ||
    Tcp.getRstFlag f.sized f.tcp) := by
  have hle := Mbuf.tcp_of_whole h5
  have hflags : Tcp.flags f.sized f.tcp = Tcp.flags f.data f.tcp :=
    (Mbuf.sized_of_ne (by omega)).trans (Mbuf.swapped_of_whole h5).1
  unfold Mbuf.noSyn Tcp.getSynFlag Tcp.getAckFlag Tcp.getFinFlag Tcp.getRstFlag
  rw [hflags]

/-- The packet that is refused keeps its length. -/
theorem runSynAck_of_noSyn (h5 : 5 ≤ f.ihl) (h : f.noSyn = true) :
    (runSynAck c f).free = false ∧ (runSynAck c f).pkt
      = ⟨Tcp.setRstFlag (Tcp.clearFlags f.sized f.tcp) f.tcp, f.dataLen⟩ := by
  rw [Mbuf.noSyn_sized h5] at h
  have heq : runSynAck c f = _ := if_pos h
  rw [heq]
  exact ⟨rfl, rfl⟩

/-- The answer to a SYN. -/
theorem runSynAck_of_syn (h5 : 5 ≤ f.ihl) (h : f.noSyn = false) :
    (runSynAck c f).free = false ∧
      (runSynAck c f).conn.seqRemote = Tcp.getSeq f.sized f.tcp + 1 ∧ (runSynAck c f).pkt
      = ⟨Tcp.setOffset (Tcp.setAckFlag (Tcp.setSeq (Tcp.setAck f.sized f.tcp
          (Tcp.getSeq f.sized f.tcp + 1)) f.tcp 0) f.tcp) f.tcp 5, frameLen 0⟩ := by
  rw [Mbuf.noSyn_sized h5, ← Bool.not_eq_true] at h
  have heq : runSynAck c f = _ := if_neg h
  rw [heq]
  exact ⟨rfl, rfl, rfl⟩

/-- What is refused is reset. -/
theorem runSynAck_resets (h5 : 5 ≤ f.ihl) (h : f.noSyn = true) : Resets f (runSynAck c f).pkt := by
  have hle := Mbuf.tcp_of_whole h5
  rw [(runSynAck_of_noSyn h5 h).2]
  refine .of_set h5 fun j hj => ?_
  dsimp only
  unfold Tcp.setRstFlag Tcp.clearFlags Tcp.flags
  by_cases hflags : j = f.tcp + 13
  · simp [hflags]
  · rw [Mem.set8_of_ne _ hflags, Mem.set8_of_ne _ hflags, Mem.set8_of_ne _ hflags,
      Mem.set8_of_ne _ hflags, Mbuf.sized_of_ne (by omega)]

theorem runSynAck_acks (h5 : 5 ≤ f.ihl) (h : f.noSyn = false) :
    Acks f (runSynAck c f).conn.seqRemote (runSynAck c f).pkt := by
  have hle := Mbuf.tcp_of_whole h5
  obtain ⟨-, hremote, hpkt⟩ := runSynAck_of_syn (c := c) h5 h
  rw [hpkt, hremote]
  unfold Tcp.setOffset Tcp.setSeq Tcp.setAck
  refine ⟨fun j hj => ?_, Tcp.getHeaderLen_setOffset _ _, ?_, ?_⟩
  · unfold Tcp.setAckFlag
    simp (disch := omega) only [Mem.set8_of_ne, Mem.set32_of_ne, Mbuf.sized_of_ne]
  · rw [getAckFlag_congr (Mem.set8_of_ne _ (by omega))]
    exact getAckFlag_setAckFlag _ _
  · unfold Tcp.getAck Tcp.setAckFlag
    simp (disch := omega) [Mem.get32_set8, Mem.get32_set32_of_ne]

theorem runSynAck_formed_iff (h5 : 5 ≤ f.ihl) : (runSynAck c f).Formed f 0 ↔ f.SynOk := by
  have hle := Mbuf.tcp_of_whole h5
  unfold Outcome.Formed Mbuf.SynOk
  cases h : f.noSyn with
  | true =>
      obtain ⟨hfree, hpkt⟩ := runSynAck_of_noSyn (c := c) h5 h
      have hresets := runSynAck_resets (c := c) h5 h
      have htotal : (runSynAck c f).pkt.totalLength = 4 * f.ihl + 20 := by
        rw [hpkt, ← Mbuf.toNat_sized h5]
        unfold Mbuf.totalLength Tcp.setRstFlag Tcp.clearFlags sizeofEthernet
        rw [Mem.get16_set8 (by omega), Mem.get16_set8 (by omega)]
      rw [hresets.wellFormed_iff h5, htotal, hpkt]
      simp [hfree, sizeofTcp]
      omega
  | false =>
      obtain ⟨hfree, hremote, hpkt⟩ := runSynAck_of_syn (c := c) h5 h
      have hacks := runSynAck_acks (c := c) h5 h
      have htotal : (runSynAck c f).pkt.totalLength = 4 * f.ihl + 20 + 0 := by
        rw [hpkt, Nat.add_zero, ← Mbuf.toNat_sized h5]
        unfold Mbuf.totalLength Tcp.setOffset Tcp.setAckFlag Tcp.setSeq Tcp.setAck sizeofEthernet
        simp (disch := omega) only [Mem.get16_set8, Mem.get16_set32]
      rw [hacks.wellFormed_iff_of_sized h5 htotal (by rw [hpkt]; rfl)]
      simp [hfree]

end synAck

/-! ### `runAckFin` -/

/-- A packet that is accepted must come without FIN, as it is dropped then.  One that is refused
must be no longer than its headers. -/
def AckFinOk (c : Connection σ κ) (f : Mbuf) : Prop :=
  if Accepted c f then Tcp.getFinFlag f.swapped f.tcp = false
  else f.IsTcp ∧ f.dataLen.toNat = sizeofEthernet + f.totalLength ∧
    f.totalLength = 4 * f.ihl + f.headerLen

section ackFin

variable {c : Connection σ κ} {f : Mbuf}

/-- What `runAckFin` expects is not what it acknowledges. -/
theorem runAckFin_not_formed (h5 : 5 ≤ f.ihl) (ha : Accepted c f)
    (hfin : Tcp.getFinFlag f.swapped f.tcp = true) (n : Nat) : ¬ (runAckFin c f).Formed f n := by
  intro h
  obtain ⟨-, hfree, hdata⟩ := runAckFin_of_fin ha hfin
  have hremote : (runAckFin c f).conn.seqRemote = Tcp.getSeq f.swapped f.tcp := by
    rw [runAckFin_eq, if_neg (by rw [refused_eq_false.mpr ha]; simp), if_pos hfin]
  have htcp : (runAckFin c f).pkt.tcp = f.tcp := by
    unfold Mbuf.tcp
    rw [hdata]
    exact Life.finAnswer_tcp c ⟨h5, ha.1⟩
  obtain ⟨-, hack, hrst⟩ := finAnswer_fields c f.swapped f.tcp
  have hw := (h hfree).ack
  rw [htcp, hdata, hrst, hack, hremote] at hw
  rcases hw with hw | ⟨-, hw⟩
  · exact absurd hw (by decide)
  · have hnat := congrArg UInt32.toNat hw
    rw [UInt32.toNat_add] at hnat
    have := (Tcp.getSeq f.swapped f.tcp).toNat_lt
    simp at hnat
    omega

theorem runAckFin_formed_iff (h5 : 5 ≤ f.ihl) : (runAckFin c f).Formed f 0 ↔ AckFinOk c f := by
  have hle := Mbuf.tcp_of_whole h5
  unfold AckFinOk
  by_cases ha : Accepted c f
  · rw [if_pos ha]
    cases hfin : Tcp.getFinFlag f.swapped f.tcp with
    | true => simp [runAckFin_not_formed h5 ha hfin]
    | false => simp [Outcome.Formed, (runAckFin_of_not_fin ha hfin).2]
  · obtain ⟨-, hfree, hdata⟩ := runAckFin_of_not_accepted ha
    have hlen : (runAckFin c f).pkt.dataLen = f.dataLen := by
      rw [runAckFin_eq]
      split
      · rfl
      · split <;> rfl
    have hresets : Resets f (runAckFin c f).pkt := .of_set h5 fun j _ => by rw [hdata]
    have htotal : (runAckFin c f).pkt.totalLength = f.totalLength := by
      unfold Mbuf.totalLength Tcp.setRstFlag Tcp.clearFlags at *
      rw [hdata, sizeofEthernet, Mem.get16_set8 (by omega), Mem.get16_set8 (by omega)]
      rw [(Mbuf.swapped_of_ihl (by omega)).2.1]
    rw [if_neg ha, ← hlen, ← htotal, ← hresets.wellFormed_iff h5]
    exact ⟨fun h => h hfree, fun h _ => h⟩

end ackFin

/-! ### `runEst` -/

section est

variable (proto : Proto σ) (conCtl : ConCtl κ) (c : Connection σ κ) (f : Mbuf)

/-- The segments that are sent for an expected packet, and their frames. -/
def frames : List (Segment × Mbuf) :=
  sent (maxSend conCtl (atSend proto conCtl c f)) (atSend proto conCtl c f).dataToSend 0
    { dataToSend := (atSend proto conCtl c f).dataToSend
      dataAlreadySent := (atSend proto conCtl c f).dataAlreadySent
      ipID := (atSend proto conCtl c f).ipID
      pkt := pktAtSend conCtl c f
      tcp := f.tcp
      freePkt := !decide (payloadLen (pktAtSend conCtl c f).data sizeofEthernet f.tcp > 0) }

/-- The payload of the answer: that of the last segment, if any is sent. -/
def answerPayload : Nat :=
  if Expected c f then
    ((frames proto conCtl c f).getLast?.map fun x => x.1.dataLen.toNat).getD 0
  else 0

/-- The answer is well formed, and so is the frame of every segment. -/
structure EstFormed : Prop where
  answer : (runEst proto conCtl c f).Formed f (answerPayload proto conCtl c f)
  segments : Expected c f → ∀ x ∈ frames proto conCtl c f,
    WellFormed f (runEst proto conCtl c f).conn.seqRemote x.2 x.1.dataLen.toNat

/-- There is a segment to send and a window to send it in. -/
def CanSend : Prop :=
  (atSend proto conCtl c f).dataToSend ≠ [] ∧ 0 < maxSend conCtl (atSend proto conCtl c f)

instance : Decidable (CanSend proto conCtl c f) := inferInstanceAs (Decidable (_ ∧ _))

/-- The packet had no payload, and the server does not close: the packet is freed. -/
def Dropped : Prop :=
  payloadLen (pktAtSend conCtl c f).data sizeofEthernet f.tcp = 0 ∧
    ¬ ((atSend proto conCtl c f).closeConnectionAfterSending = true ∧
      (atSend proto conCtl c f).dataToSend = [])

/-- A packet must come without IP options, and without TCP options where it is aborted.  Where the
answer carries no segment it must be no longer than an answer, or it is dropped. -/
def EstOk : Prop :=
  if badFlags f.swapped f.tcp then f.IsTcp ∧ f.ihl = 5 ∧ f.headerLen = 20
  else if Expected c f ∧ ¬ CanSend proto conCtl c f then
    Dropped proto conCtl c f ∨ f.IsTcp ∧ f.dataLen.toNat = sizeofEthernet + f.totalLength ∧
      f.totalLength = 4 * f.ihl + sizeofTcp
  else f.IsTcp ∧ f.ihl = 5

variable {proto conCtl c f}

theorem acks_pktAtSend (h5 : 5 ≤ f.ihl) (he : Expected c f) :
    Acks f (runEst proto conCtl c f).conn.seqRemote (pktAtSend conCtl c f) := by
  rw [runEst_of_expected proto conCtl he, serve_seqRemote]
  exact acks_answerHeader _ h5 f.dataLen

theorem frames_sized (hc : c.Short) (h5 : 5 ≤ f.ihl) (he : Expected c f) :
    ∀ x ∈ frames proto conCtl c f,
      Sized f (runEst proto conCtl c f).conn.seqRemote x.2 x.1.dataLen.toNat :=
  sent_sized _ h5 _ _ (acks_pktAtSend h5 he) fun seg hseg =>
    hc.atSend proto conCtl f seg (Or.inl hseg)

variable (proto conCtl c f) in
/-- Sending leaves the last frame in the packet. -/
theorem transmitted_pkt : (transmitted proto conCtl c f).2.pkt
    = ((frames proto conCtl c f).getLast?.map Prod.snd).getD (pktAtSend conCtl c f) := by
  unfold transmitted transmit frames
  dsimp only
  split
  · rename_i hq
    rw [hq]
    rfl
  · exact sendLoop_pkt _ _ _ _

/-- The wish to close is not touched by sending. -/
theorem transmitted_close : (transmitted proto conCtl c f).1.closeConnectionAfterSending
    = (atSend proto conCtl c f).closeConnectionAfterSending := by
  obtain ⟨q, l, i, k, ht⟩ := transmit_frame conCtl (atSend proto conCtl c f)
    (pktAtSend conCtl c f) f.tcp
    (!decide (payloadLen (pktAtSend conCtl c f).data sizeofEthernet f.tcp > 0))
  unfold transmitted
  rw [ht]

/-- Where nothing is sent, sending changes nothing that `finish` looks at. -/
theorem transmit_of_not {d : Connection σ κ} {pkt : Mbuf} {tcp : Nat} {freePkt : Bool}
    (h : ¬ (d.dataToSend ≠ [] ∧ 0 < maxSend conCtl d)) :
    (transmit conCtl d pkt tcp freePkt).1.dataToSend = d.dataToSend ∧
      (transmit conCtl d pkt tcp freePkt).2.freePkt = freePkt := by
  unfold transmit
  dsimp only
  split
  · exact ⟨rfl, rfl⟩
  · rename_i hq
    cases hqueue : d.dataToSend with
    | nil => exact absurd hqueue hq
    | cons seg rest =>
        rw [sendLoop, if_neg fun hpos => h ⟨hq, hpos⟩]
        exact ⟨rfl, rfl⟩

theorem transmitted_of_not_canSend (h : ¬ CanSend proto conCtl c f) :
    (transmitted proto conCtl c f).1.dataToSend = (atSend proto conCtl c f).dataToSend ∧
      (transmitted proto conCtl c f).2.freePkt
        = !decide (payloadLen (pktAtSend conCtl c f).data sizeofEthernet f.tcp > 0) := by
  unfold CanSend at h
  unfold transmitted
  generalize atSend proto conCtl c f = d at h ⊢
  exact transmit_of_not h

/-- The length that is written where the byte with the IHL is still that of the packet. -/
theorem toNat_total_of_ihl {m : Mem} (h5 : 5 ≤ f.ihl) (h : m sizeofEthernet = f.swapped sizeofEthernet) :
    ((IPv4.setPayloadLength m sizeofEthernet (UInt16.ofNat sizeofTcp)).get16
      (sizeofEthernet + 2)).toNat = 4 * f.ihl + 20 := by
  rw [toNat_setPayloadLength (by decide)]
  unfold Mbuf.ihl IPv4.ihl
  rw [h, show f.swapped sizeofEthernet = f.data sizeofEthernet from
    (Mbuf.swapped_of_ihl (by omega)).1]
  rfl

theorem abort_resets (h5 : 5 ≤ f.ihl) :
    Resets f (abort c f.swapped sizeofEthernet f.tcp).pkt := by
  have hle := Mbuf.tcp_of_whole h5
  refine .of_set h5 fun j hj => ?_
  unfold abort
  dsimp only [sizeofEthernet]
  unfold IPv4.setPayloadLength Tcp.setSeq Tcp.setAck
  rw [Mem.set16_of_ne _ (by omega), Mem.set32_of_ne _ (by omega), Mem.set32_of_ne _ (by omega)]

theorem abort_formed_iff (h5 : 5 ≤ f.ihl) : (abort c f.swapped sizeofEthernet f.tcp).Formed f 0 ↔
    f.IsTcp ∧ f.ihl = 5 ∧ f.headerLen = 20 := by
  have hle := Mbuf.tcp_of_whole h5
  have hresets := abort_resets (c := c) h5
  have htotal : (abort c f.swapped sizeofEthernet f.tcp).pkt.totalLength = 4 * f.ihl + 20 := by
    refine toNat_total_of_ihl h5 ?_
    unfold Tcp.setSeq Tcp.setAck Tcp.setRstFlag Tcp.clearFlags sizeofEthernet
    simp (disch := omega) only [Mem.set8_of_ne, Mem.set32_of_ne]
  have hlen : (abort c f.swapped sizeofEthernet f.tcp).pkt.dataLen.toNat = 54 := rfl
  have hwell : WellFormed f (abort c f.swapped sizeofEthernet f.tcp).conn.seqRemote
      (abort c f.swapped sizeofEthernet f.tcp).pkt 0 ↔ _ := hresets.wellFormed_iff h5
  rw [htotal, hlen, sizeofEthernet] at hwell
  refine Iff.trans ⟨fun h => h rfl, fun h _ => h⟩ (hwell.trans (and_congr_right fun _ => ?_))
  omega

theorem goBackN_formed_iff (h5 : 5 ≤ f.ihl) :
    (goBackN c f.swapped sizeofEthernet f.tcp).Formed f 0 ↔ f.IsTcp ∧ f.ihl = 5 := by
  have hle := Mbuf.tcp_of_whole h5
  obtain ⟨seq, hdata⟩ : ∃ seq, (goBackN c f.swapped sizeofEthernet f.tcp).pkt.data
      = Tcp.setWindow (Tcp.setSeq (IPv4.setPayloadLength (answerHeader c f.swapped f.tcp)
          sizeofEthernet (UInt16.ofNat sizeofTcp)) f.tcp seq) f.tcp (UInt16.ofNat (4 * MSS)) := by
    unfold goBackN
    cases c.dataToSend with
    | nil => exact ⟨_, rfl⟩
    | cons front rest => exact ⟨_, rfl⟩
  have hacks : Acks f c.seqRemote (goBackN c f.swapped sizeofEthernet f.tcp).pkt := by
    refine (acks_answerHeader c h5 0).congr fun j hj => ?_
    rw [hdata]
    unfold Tcp.setWindow Tcp.setSeq IPv4.setPayloadLength sizeofEthernet
    simp (disch := omega) only [Mem.set16_of_ne, Mem.set32_of_ne]
  have htotal : (goBackN c f.swapped sizeofEthernet f.tcp).pkt.totalLength
      = 4 * f.ihl + 20 + 0 := by
    unfold Mbuf.totalLength
    rw [hdata, ← toNat_total_of_ihl h5 (m := answerHeader c f.swapped f.tcp)
      (answerHeader_of_ne (by unfold sizeofEthernet; omega))]
    unfold Tcp.setWindow Tcp.setSeq sizeofEthernet
    rw [Mem.get16_set16_of_ne (by omega), Mem.get16_set32 (by omega)]
  refine Iff.trans ⟨fun h => h rfl, fun h _ => h⟩ ?_
  exact hacks.wellFormed_iff_of_sized h5 htotal rfl

/-- The frame that carries no segment: it has the lengths of the packet it answers. -/
theorem echo_iff (h5 : 5 ≤ f.ihl) {seqRemote : UInt32} {pkt : Mbuf} (h : Acks f seqRemote pkt)
    (hlen : pkt.dataLen = f.dataLen) (htotal : pkt.totalLength = f.totalLength) :
    WellFormed f seqRemote pkt 0 ↔ f.IsTcp ∧ f.dataLen.toNat = sizeofEthernet + f.totalLength ∧
      f.totalLength = 4 * f.ihl + sizeofTcp := by
  rw [h.wellFormed_iff h5, hlen, htotal]
  rfl

/-- **Nothing is sent**: the packet goes back as it came, or it is freed. -/
theorem finish_formed_iff (h5 : 5 ≤ f.ihl) (he : Expected c f) (h : ¬ CanSend proto conCtl c f) :
    (runEst proto conCtl c f).Formed f 0 ↔ Dropped proto conCtl c f ∨
      f.IsTcp ∧ f.dataLen.toNat = sizeofEthernet + f.totalLength ∧
        f.totalLength = 4 * f.ihl + sizeofTcp := by
  have hle := Mbuf.tcp_of_whole h5
  obtain ⟨hqueue, hfree⟩ := transmitted_of_not_canSend h
  have hpkt : (transmitted proto conCtl c f).2.pkt = pktAtSend conCtl c f := by
    rw [transmitted_pkt, frames, (sent_eq_nil_iff _ _ _).mpr h]
    rfl
  have htcp := (transmitted_flagged (c := c) proto conCtl ⟨h5, he.1⟩).2
  have hacks : Acks f (runEst proto conCtl c f).conn.seqRemote (pktAtSend conCtl c f) :=
    acks_pktAtSend h5 he
  have htotal : (pktAtSend conCtl c f).totalLength = f.totalLength := by
    have hswapped : f.swapped.get16 (sizeofEthernet + 2) = f.data.get16 (sizeofEthernet + 2) :=
      (Mbuf.swapped_of_ihl (by omega)).2.1
    unfold Mbuf.totalLength
    rw [← hswapped]
    refine congrArg UInt16.toNat (Mem.Same.get16 fun j hj hj' => answerHeader_of_ne ?_)
    unfold sizeofEthernet at hj'
    omega
  have hpos : payloadLen (pktAtSend conCtl c f).data sizeofEthernet f.tcp > 0 ↔
      payloadLen (pktAtSend conCtl c f).data sizeofEthernet f.tcp ≠ 0 := by
    rw [gt_iff_lt, UInt16.lt_iff_toNat_lt, ne_eq, ← UInt16.toNat_inj]
    exact Nat.pos_iff_ne_zero
  by_cases hfin : (atSend proto conCtl c f).closeConnectionAfterSending = true ∧
      (atSend proto conCtl c f).dataToSend = []
  · -- the FIN is sent in the packet
    have heq : (runEst proto conCtl c f).free = false ∧ (runEst proto conCtl c f).pkt
        = { pktAtSend conCtl c f with data := Tcp.setFinFlag (pktAtSend conCtl c f).data f.tcp } := by
      rw [runEst_eq_finish proto conCtl he, finish, if_pos (by rw [transmitted_close, hqueue]; simp [hfin])]
      dsimp only
      rw [hpkt, htcp]
      exact ⟨rfl, rfl⟩
    have hnot : ¬ Dropped proto conCtl c f := fun hd => hd.2 hfin
    unfold Outcome.Formed
    rw [heq.1, heq.2, or_iff_right hnot, ← echo_iff h5 (hacks.setFinFlag h5) rfl ?_]
    · simp
    · rw [← htotal]
      unfold Mbuf.totalLength Tcp.setFinFlag sizeofEthernet
      rw [Mem.get16_set8 (by omega)]
  · have heq : (runEst proto conCtl c f).free
          = !decide (payloadLen (pktAtSend conCtl c f).data sizeofEthernet f.tcp > 0) ∧
        (runEst proto conCtl c f).pkt = pktAtSend conCtl c f := by
      rw [runEst_eq_finish proto conCtl he, finish, if_neg (by rw [transmitted_close, hqueue]; simpa using hfin)]
      dsimp only
      rw [hfree, hpkt]
      exact ⟨rfl, rfl⟩
    unfold Outcome.Formed Dropped
    rw [heq.1, heq.2, ← echo_iff h5 hacks rfl htotal]
    by_cases hzero : payloadLen (pktAtSend conCtl c f).data sizeofEthernet f.tcp = 0
    · simp [hzero, hfin]
    · simp [hpos, hzero]

/-- The packet goes out as it is, or with the FIN. -/
theorem finish_pkt (c : Connection σ κ) (s : Sending) (d : Delivery σ) :
    (finish c s d).pkt = s.pkt ∨
      (finish c s d).pkt = { s.pkt with data := Tcp.setFinFlag s.pkt.data s.tcp } := by
  unfold finish
  split
  · exact Or.inr rfl
  · exact Or.inl rfl

/-- **Something is sent**: the last segment is in the answer, with the FIN or without. -/
theorem finish_sized (hc : c.Short) (h5 : 5 ≤ f.ihl) (he : Expected c f)
    (h : CanSend proto conCtl c f) : ∃ x ∈ frames proto conCtl c f,
      answerPayload proto conCtl c f = x.1.dataLen.toNat ∧
        Sized f (runEst proto conCtl c f).conn.seqRemote (runEst proto conCtl c f).pkt
          x.1.dataLen.toNat := by
  have hne : frames proto conCtl c f ≠ [] := fun hnil => (sent_eq_nil_iff _ _ _).mp hnil h
  have hlast := List.getLast?_eq_some_getLast hne
  have hmem := List.getLast_mem hne
  generalize (frames proto conCtl c f).getLast hne = x at hlast hmem
  have hsized := frames_sized hc h5 he x hmem
  have hpkt : (transmitted proto conCtl c f).2.pkt = x.2 := by
    rw [transmitted_pkt, hlast]
    rfl
  have htcp := (transmitted_flagged (c := c) proto conCtl ⟨h5, he.1⟩).2
  refine ⟨x, hmem, ?_, ?_⟩
  · unfold answerPayload
    rw [if_pos he, hlast]
    rfl
  · have heq : (runEst proto conCtl c f).pkt = x.2 ∨ (runEst proto conCtl c f).pkt
        = { x.2 with data := Tcp.setFinFlag x.2.data f.tcp } := by
      rw [runEst_eq_finish proto conCtl he, ← hpkt, ← htcp]
      exact finish_pkt _ _ _
    rcases heq with heq | heq
    · rw [heq]
      exact hsized
    · rw [heq]
      exact hsized.setFinFlag h5

/-- **The answer to a packet in `est`**, whichever way it goes. -/
theorem estFormed_iff (hc : c.Short) (h5 : 5 ≤ f.ihl) :
    EstFormed proto conCtl c f ↔ EstOk proto conCtl c f := by
  unfold EstOk
  rcases runEst_cases c f with hbad | ⟨hflags, hseq⟩ | he
  · have hne : ¬ Expected c f := fun he => by simp [he.1] at hbad
    have hpayload : answerPayload proto conCtl c f = 0 := if_neg hne
    rw [if_pos hbad, ← abort_formed_iff h5, ← runEst_of_bad proto conCtl c hbad, ← hpayload]
    exact ⟨fun h => h.answer, fun h => ⟨h, fun he => absurd he hne⟩⟩
  · have hne : ¬ Expected c f := fun he => hseq he.2
    have hpayload : answerPayload proto conCtl c f = 0 := if_neg hne
    rw [if_neg (by simp [hflags]), if_neg (fun h => hne h.1),
      ← goBackN_formed_iff (c := c.acknowledge conCtl f.swapped f.tcp) h5,
      ← runEst_of_unexpected proto conCtl hflags hseq, ← hpayload]
    exact ⟨fun h => h.answer, fun h => ⟨h, fun he => absurd he hne⟩⟩
  · rw [if_neg (by simp [he.1])]
    by_cases hsends : CanSend proto conCtl c f
    · rw [if_neg (fun h => h.2 hsends)]
      obtain ⟨x, hx, hpayload, hanswer⟩ := finish_sized hc h5 he hsends
      constructor
      · intro h
        exact ((frames_sized hc h5 he x hx).wellFormed_iff h5).mp (h.segments he x hx)
      · intro hok
        refine ⟨fun _ => ?_, fun _ y hy => ?_⟩
        · rw [hpayload]
          exact (hanswer.wellFormed_iff h5).mpr hok
        · exact ((frames_sized hc h5 he y hy).wellFormed_iff h5).mpr hok
    · have hnil : frames proto conCtl c f = [] := (sent_eq_nil_iff _ _ _).mpr hsends
      have hpayload : answerPayload proto conCtl c f = 0 := by
        unfold answerPayload
        rw [if_pos he, hnil]
        rfl
      rw [if_pos ⟨he, hsends⟩, ← finish_formed_iff h5 he hsends, ← hpayload]
      refine ⟨fun h => h.answer, fun h => ⟨h, fun _ x hx => ?_⟩⟩
      simp [hnil] at hx

/-- What is dropped is not sent, however short its header. -/
theorem Dropped.free (hd : Dropped proto conCtl c f) (he : Expected c f)
    (h : ¬ CanSend proto conCtl c f) : (runEst proto conCtl c f).free = true := by
  obtain ⟨hqueue, hfree⟩ := transmitted_of_not_canSend h
  have hopen : ((atSend proto conCtl c f).closeConnectionAfterSending
      && (atSend proto conCtl c f).dataToSend.isEmpty) = false := by
    simpa using hd.2
  rw [runEst_eq_finish proto conCtl he, finish, transmitted_close, hqueue, hopen]
  simp [hfree, hd.1]

/-- A packet without a whole IPv4 header can only be dropped. -/
theorem estFormed_of_short (hok : EstOk proto conCtl c f) (h5 : ¬ 5 ≤ f.ihl) :
    EstFormed proto conCtl c f := by
  unfold EstOk at hok
  split at hok
  · exact absurd hok.1.ihl h5
  · split at hok
    · rename_i hsends
      rcases hok with hd | htcp
      · have hfree := hd.free hsends.1 hsends.2
        refine ⟨fun h => absurd (hfree.symm.trans h) (by decide), fun _ x hx => ?_⟩
        rw [frames, (sent_eq_nil_iff _ _ _).mpr hsends.2] at hx
        simp at hx
      · exact absurd htcp.1.ihl h5
    · exact absurd hok.1.ihl h5

end est

/--
**When the frames of the server are well formed.**

For every connection there is, and every packet: the condition on the packet is enough,
for each of the three functions.  Where the IPv4 header has its full length it is also
necessary.
-/
theorem Reached.answers_wellFormed_iff (proto : Proto σ) (conCtl : ConCtl κ) {c : Connection σ κ}
    (h : Reached proto conCtl c) (f : Mbuf) :
    ((f.SynOk → (runSynAck c f).Formed f 0) ∧
        (EstOk proto conCtl c f → EstFormed proto conCtl c f) ∧
        (AckFinOk c f → (runAckFin c f).Formed f 0)) ∧
      (5 ≤ f.ihl →
        ((runSynAck c f).Formed f 0 → f.SynOk) ∧
        (EstFormed proto conCtl c f → EstOk proto conCtl c f) ∧
        ((runAckFin c f).Formed f 0 → AckFinOk c f)) := by
  refine ⟨⟨?_, ?_, ?_⟩, fun h5 => ⟨?_, ?_, ?_⟩⟩
  · intro hok
    exact (runSynAck_formed_iff hok.1.ihl).mpr hok
  · intro hok
    by_cases h5 : 5 ≤ f.ihl
    · exact (estFormed_iff h.short h5).mpr hok
    · exact estFormed_of_short hok h5
  · intro hok
    by_cases ha : Accepted c f
    · intro hfree
      rw [AckFinOk, if_pos ha] at hok
      rw [(runAckFin_of_not_fin ha hok).2] at hfree
      exact absurd hfree (by decide)
    · have htcp : f.IsTcp := by
        rw [AckFinOk, if_neg ha] at hok
        exact hok.1
      exact (runAckFin_formed_iff htcp.ihl).mpr hok
  · exact (runSynAck_formed_iff h5).mp
  · exact (estFormed_iff h.short h5).mp
  · exact (runAckFin_formed_iff h5).mp

/-! ### Options, and the end of a connection -/

/-- A SYN whose IPv4 header has an option. -/
def optionFrame : Mbuf :=
  .ofBytes (List.replicate 14 0 ++ [0x46, 0, 0, 44, 0, 0, 0, 0, 64, 6, 0, 0, 10, 0, 0, 1, 10, 0, 0, 2,
    1, 1, 1, 0] ++ tcpBytes 7 0 0x50 0x02 32)

/-- The FIN of a peer that has acknowledged everything. -/
def finFrame : Mbuf :=
  .ofBytes (List.replicate 14 0 ++ ipv4Bytes 40 ++ tcpBytes 11 4 0x50 0x11 32)

instance (proto : Proto σ) (conCtl : ConCtl κ) (c : Connection σ κ) (f : Mbuf) :
    Decidable (EstOk proto conCtl c f) := by
  unfold EstOk Dropped
  infer_instance

/-- The joke server's answer to its first two bytes is well formed. -/
theorem Reached.answers_wellFormed_iff_hello :
    EstFormed TcpProtoJoke TcpConCtlSimple opened.conn helloFrame :=
  (Reached.answers_wellFormed_iff TcpProtoJoke TcpConCtlSimple (.synAck synFrame .factory)
    helloFrame).1.2.1 (by decide)

/-- The SYN-ACK is four bytes too short for its lengths, and the answer to the last FIN does not
acknowledge what the server expects. -/
theorem answers_not_wellFormed :
    Reached TcpProtoJoke TcpConCtlSimple (factory TcpProtoJoke TcpConCtlSimple) ∧
      ¬ (runSynAck (factory TcpProtoJoke TcpConCtlSimple) optionFrame).Formed optionFrame 0 ∧
      Reached TcpProtoJoke TcpConCtlSimple closing.session.conn ∧
      closing.session.state = States.ack_fin ∧
      ¬ (runAckFin closing.session.conn finFrame).Formed finFrame 0 := by
  refine ⟨.factory, ?_, .est helloFrame (.synAck synFrame .factory), by decide, ?_⟩
  · intro h
    exact absurd (h (by decide)).dataLen (by decide)
  · intro h
    exact absurd (h (by decide)).ack (by decide)

end MoonState.TCP
