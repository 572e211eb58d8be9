/-
What the joke server sends back.

The peer numbers its stream from `r + 1` on, the server its own from 1 on, and the joke
server puts what it is handed at the end of its stream.  So both streams are the same,
and a frame of the server with the number `1 + pos` has to carry what is at `pos` in the
stream of the peer.

That goes wrong where the window of the peer ends inside a segment or is closed.  With
room for the whole stream it does not: the segments that are waiting or can be put back
are together no longer than the stream, and none of them is empty.  `Light` is that, and
with it every packet is `Honest`.
-/
import MoonState.Proofs.Close

namespace MoonState.TCP

open Headers

variable {σ κ : Type}

/-! ### How much there is to send -/

theorem total_append (segs segs' : List Segment) :
    total (segs ++ segs') = total segs + total segs' := by
  unfold total
  rw [List.map_append, List.sum_append]

theorem total_reverse (segs : List Segment) : total segs.reverse = total segs := by
  unfold total
  rw [List.map_reverse, List.sum_reverse]

/-- What is kept of the segments, and what is not. -/
theorem total_filter (keep : Segment → Bool) (segs : List Segment) :
    total (segs.filter keep) + total (segs.filter fun seg => !keep seg) = total segs := by
  induction segs with
  | nil => rfl
  | cons seg segs ih =>
      rw [List.filter_cons, List.filter_cons, total_cons]
      cases keep seg with
      | true =>
          simp
          omega
      | false =>
          simp
          omega

/-- A reset can put the segment back: it is not that of the handshake. -/
def Segment.numbered (seg : Segment) : Bool := seg.seqNumber != 0

/-- What is queued and what can be put back to the queue. -/
def Connection.load (c : Connection σ κ) : Nat :=
  total c.dataToSend + total (c.dataAlreadySent.filter Segment.numbered)

/-- There is no more to send than the bytes of `B`, and no segment is empty. -/
structure Light (B : List UInt8) (c : Connection σ κ) : Prop where
  load : c.load ≤ B.length
  queued : ∀ seg ∈ c.dataToSend, 0 < seg.dataLen.toNat
  sent : ∀ seg ∈ c.dataAlreadySent, 0 < seg.dataLen.toNat

/-- A queue with room for it is sent whole. -/
theorem whole_of_total {budget : Nat} {segs : List Segment} (h : total segs ≤ budget) :
    Whole budget segs := by
  induction segs generalizing budget with
  | nil => exact .all budget
  | cons seg segs ih =>
      rw [total_cons] at h
      exact .fits (by omega) (ih (by omega))

/-! ### The calls of the protocol -/

namespace Connection

theorem load_enqueue (c : Connection σ κ) (data : List UInt8) {len : Nat} (h : len ≤ MSS) :
    (c.enqueue data len).load = c.load + len := by
  have hmss : MSS = 1460 := rfl
  have hlen : (UInt16.ofNat len).toNat = len := by
    rw [UInt16.toNat_ofNat']
    exact Nat.mod_eq_of_lt (by omega)
  unfold load enqueue
  dsimp only
  rw [total_append, total_cons, total_nil, hlen]
  omega

/-- What is passed to `sendData` is waiting then. -/
theorem load_calls {B : List UInt8} {c : Connection σ κ} (h : c.load ≤ B.length)
    (calls : List IfaceCall) :
    (calls.foldl iface c).load ≤ (B ++ calls.flatMap IfaceCall.bytes).length := by
  refine calls_induct (P := fun B c => c.load ≤ B.length) ?_ (fun _ _ h => h) calls h
  intro B c data len h hle hmss
  rw [c.load_enqueue data hmss, List.length_append, List.length_take]
  omega

/-- And the queue is not empty. -/
theorem calls_ne_nil (c : Connection σ κ) {calls : List IfaceCall}
    (h : calls.flatMap IfaceCall.bytes ≠ []) : (calls.foldl iface c).dataToSend ≠ [] := by
  have hall := calls_induct (P := fun B (c : Connection σ κ) => B ≠ [] → c.dataToSend ≠ [])
    (fun B c data len _ _ _ _ => by unfold enqueue; simp) (fun _ _ h => h) calls
    (B := []) (c := c) (fun hc => absurd rfl hc)
  exact hall (by simpa using h)

theorem sendRest_pos (data : List UInt8) (fuel : Nat) (totalLen : Nat) (c : Connection σ κ)
    (h : ∀ seg ∈ c.dataToSend, 0 < seg.dataLen.toNat) :
    ∀ seg ∈ (sendRest data fuel totalLen c).dataToSend, 0 < seg.dataLen.toNat := by
  induction fuel generalizing totalLen c with
  | zero => exact h
  | succ fuel ih =>
      rw [sendRest]
      split
      · rename_i hlt
        refine ih _ _ fun seg hseg => ?_
        rcases List.mem_append.mp hseg with hseg | hseg
        · exact h seg hseg
        · rw [List.mem_singleton.mp hseg]
          have hmss : MSS = 1460 := rfl
          show 0 < (UInt16.ofNat (min (data.length - totalLen) MSS)).toNat
          rw [UInt16.toNat_ofNat', Nat.mod_eq_of_lt (by omega)]
          omega
      · exact h

/-- No segment of a buffer with bytes in it is empty. -/
theorem sendData_pos {c : Connection σ κ} (h : ∀ seg ∈ c.dataToSend, 0 < seg.dataLen.toNat)
    {data : List UInt8} (hdata : data ≠ []) :
    ∀ seg ∈ (c.sendData data).dataToSend, 0 < seg.dataLen.toNat := by
  have hmss : MSS = 1460 := rfl
  have hpos : 0 < data.length := List.length_pos_iff.mpr hdata
  have henqueue : ∀ len, 0 < len → len ≤ MSS →
      ∀ seg ∈ (c.enqueue data len).dataToSend, 0 < seg.dataLen.toNat := by
    intro len hlen hle seg hseg
    rcases List.mem_append.mp hseg with hseg | hseg
    · exact h seg hseg
    · rw [List.mem_singleton.mp hseg]
      show 0 < (UInt16.ofNat len).toNat
      rw [UInt16.toNat_ofNat', Nat.mod_eq_of_lt (by omega)]
      exact hlen
  unfold sendData
  split
  · rename_i hle
    exact henqueue _ hpos hle
  · exact sendRest_pos data _ _ _ (henqueue MSS (by omega) (Nat.le_refl _))

end Connection

/-! ### Acknowledging and sending -/

namespace Light

variable {B : List UInt8} {c : Connection σ κ}

/-- What the ACK number covers is gone. -/
theorem eraseAcked (h : Light B c) (ack : UInt32) : Light B (c.eraseAcked ack) := by
  obtain ⟨hload, hq, hs⟩ := h
  refine ⟨?_, hq, fun seg hseg => hs seg (List.mem_of_mem_filter hseg)⟩
  unfold Connection.load Connection.eraseAcked at *
  dsimp only
  rw [List.filter_filter]
  have hsplit := total_filter (fun i => !decide (ack > i.seqNumber + i.dataLen.toUInt32))
    (c.dataAlreadySent.filter Segment.numbered)
  rw [List.filter_filter] at hsplit
  simp only [Bool.and_comm] at hsplit ⊢
  omega

/-- A reset moves segments that count already. -/
theorem resend (h : Light B c) (r : UInt32) : Light B (c.resend r) := by
  obtain ⟨hload, hq, hs⟩ := h
  have hback : (c.dataAlreadySent.filter Segment.numbered).filter (fun i => decide (i.seqNumber > r))
      = c.dataAlreadySent.filter fun i => decide (i.seqNumber > r) := by
    rw [List.filter_filter]
    refine List.filter_congr fun seg _ => ?_
    by_cases hgt : seg.seqNumber > r
    · have hne : seg.seqNumber ≠ 0 := by
        intro hz
        rw [hz, gt_iff_lt, UInt32.lt_iff_toNat_lt] at hgt
        exact absurd hgt (Nat.not_lt_zero _)
      simp [hgt, Segment.numbered, hne]
    · simp [hgt]
  refine ⟨?_, fun seg hseg => ?_, fun seg hseg => hs seg (List.mem_of_mem_filter hseg)⟩
  · have hsplit := total_filter (fun i => decide (i.seqNumber > r))
      (c.dataAlreadySent.filter Segment.numbered)
    rw [hback, List.filter_filter] at hsplit
    unfold Connection.load Connection.resend at *
    dsimp only
    rw [total_append, total_reverse, List.filter_filter]
    simp only [Bool.and_comm] at hsplit ⊢
    omega
  · rcases List.mem_append.mp hseg with hseg | hseg
    · exact hs seg (List.mem_of_mem_filter (List.mem_reverse.mp hseg))
    · exact hq seg hseg

theorem acknowledge (h : Light B c) (conCtl : ConCtl κ) (m : Mem) (tcp : Nat) :
    Light B (c.acknowledge conCtl m tcp) := by
  have herase := h.eraseAcked (Tcp.getAck m tcp)
  unfold Connection.acknowledge
  dsimp only
  obtain ⟨k, hk | ⟨r, hk⟩⟩ := (c.eraseAcked (Tcp.getAck m tcp)).control_cases conCtl
    (Tcp.getAck m tcp)
  · rw [hk]
    exact ⟨herase.load, herase.queued, herase.sent⟩
  · have hctl : Light B { c.eraseAcked (Tcp.getAck m tcp) with conCtl := k } :=
      ⟨herase.load, herase.queued, herase.sent⟩
    rw [hk]
    exact ⟨(hctl.resend r).load, (hctl.resend r).queued, (hctl.resend r).sent⟩

/-- What is sent can be put back, and counts as before. -/
theorem sendOut (h : Light B c) {out left : List Segment} (hq : c.dataToSend = out ++ left)
    {c' : Connection σ κ} (hq' : c'.dataToSend = left)
    (hs' : c'.dataAlreadySent = c.dataAlreadySent ++ out) : Light B c' := by
  obtain ⟨hload, hqueued, hsent⟩ := h
  rw [hq] at hqueued
  refine ⟨?_, fun seg hseg => hqueued seg (List.mem_append_right _ (hq' ▸ hseg)), ?_⟩
  · have hsplit := total_filter Segment.numbered out
    unfold Connection.load at *
    rw [hq, total_append] at hload
    rw [hq', hs', List.filter_append, total_append]
    omega
  · intro seg hseg
    rw [hs'] at hseg
    rcases List.mem_append.mp hseg with hseg | hseg
    · exact hsent seg hseg
    · exact hqueued seg (List.mem_append_left _ hseg)

/-- Calls with bytes in them. -/
theorem calls (h : Light B c) {calls : List IfaceCall}
    (hcalls : ∀ x ∈ calls, x.bytes ≠ [] ∨ x = .close) :
    Light (B ++ calls.flatMap IfaceCall.bytes) (calls.foldl Connection.iface c) := by
  refine ⟨Connection.load_calls h.load calls, ?_, ?_⟩
  · have hq := h.queued
    clear h
    induction calls generalizing c with
    | nil => exact hq
    | cons x calls ih =>
        obtain ⟨hx, hrest⟩ := List.forall_mem_cons.mp hcalls
        refine ih hrest ?_
        cases x with
        | close => exact hq
        | sendData data => exact Connection.sendData_pos hq (hx.resolve_right (by simp))
  · obtain ⟨q, n, b, hall⟩ := Connection.foldl_iface_frame calls c
    rw [hall]
    exact h.sent

end Light

/-! ### The two streams -/

/-- The joke server passes what it is handed to `sendData`. -/
theorem delivered_echo (conCtl : ConCtl κ) (c : Connection Unit κ) (f : Mbuf) :
    (delivered TcpProtoJoke conCtl c f).calls.flatMap IfaceCall.bytes
      = (delivered TcpProtoJoke conCtl c f).handed := by
  unfold delivered delivery deliver
  dsimp only
  split
  · exact List.append_nil _
  · rfl

/-- It is handed bytes, or not called. -/
theorem delivered_calls (conCtl : ConCtl κ) (c : Connection Unit κ) (f : Mbuf) :
    ∀ x ∈ (delivered TcpProtoJoke conCtl c f).calls, x.bytes ≠ [] ∨ x = .close := by
  unfold delivered delivery deliver
  dsimp only
  split
  · rename_i hpos
    intro x hx
    rw [List.mem_singleton.mp hx]
    refine Or.inl fun hc => ?_
    have hlen := congrArg List.length hc
    unfold IfaceCall.bytes at hlen
    rw [Mem.length_read] at hlen
    exact absurd hlen (Nat.ne_of_gt (UInt16.lt_iff_toNat_lt.mp hpos))
  · simp

/-- A payload is handed over. -/
theorem delivered_handed_ne_nil {proto : Proto σ} {conCtl : ConCtl κ} {c : Connection σ κ}
    {f : Mbuf} (h : payloadLen (pktAtSend conCtl c f).data sizeofEthernet f.tcp ≠ 0) :
    (delivered proto conCtl c f).handed ≠ [] := by
  have hpos : payloadLen (pktAtSend conCtl c f).data sizeofEthernet f.tcp > 0 := by
    rw [gt_iff_lt, UInt16.lt_iff_toNat_lt]
    exact Nat.pos_of_ne_zero fun hz => h (UInt16.toNat_inj.mp hz)
  unfold pktAtSend at h hpos
  dsimp only at h hpos
  unfold delivered delivery deliver
  dsimp only
  rw [if_pos hpos]
  intro hc
  have hlen := congrArg List.length hc
  rw [Mem.length_read] at hlen
  exact h (UInt16.toNat_inj.mp hlen)

theorem runEst_echo (conCtl : ConCtl κ) (c : Connection Unit κ) (f : Mbuf) :
    (runEst TcpProtoJoke conCtl c f).stream = (runEst TcpProtoJoke conCtl c f).handed := by
  obtain hbad | ⟨hflags, hseq⟩ | he := runEst_cases c f
  · rw [runEst_of_bad TcpProtoJoke conCtl c hbad]
    rfl
  · rw [runEst_of_unexpected TcpProtoJoke conCtl hflags hseq]
    rfl
  · rw [runEst_eq_finish TcpProtoJoke conCtl he, finish_stream, finish_handed]
    exact delivered_echo conCtl c f

/-- A segment of `S` from a peer with room for all of `S`. -/
def Roomy (S : List UInt8) (r : UInt32) (f : Mbuf) : Prop :=
  (∃ off n, Carries S r off n f) ∧ S.length ≤ (Tcp.getWindow f.data f.tcp).toNat

/-- A connection starts with nothing to send. -/
theorem light_accept (syn : Mbuf) :
    Light [] (Session.accept TcpProtoJoke TcpConCtlSimple syn).conn := by
  obtain ⟨hq, ⟨-, hs⟩ | ⟨synAck, hs, h0, hlen, -⟩⟩ :=
    Session.accept_conn TcpProtoJoke TcpConCtlSimple syn
  · refine ⟨?_, by rw [hq]; simp, by rw [hs]; simp⟩
    unfold Connection.load
    rw [hq, hs]
    exact Nat.le_refl 0
  · refine ⟨?_, by rw [hq]; simp, by rw [hs]; simpa using hlen⟩
    unfold Connection.load
    rw [hq, hs, List.filter_cons_of_neg (by simp [Segment.numbered, h0])]
    exact Nat.le_refl 0

/-- The joke server after segments of `S`. -/
structure Echoes (S : List UInt8) (r : UInt32) (s : Session Unit AckCount) : Prop where
  prefixed : ∃ k, Prefixed S r k s
  echo : s.stream = s.received
  ofStream : OfStream s
  light : Light s.stream s.conn

section packet

variable {S : List UInt8} {r : UInt32} {s : Session Unit AckCount} {f : Mbuf}

theorem Roomy.length_lt (h : Roomy S r f) : S.length < 2 ^ 16 := by
  have hlt := (Tcp.getWindow f.data f.tcp).toNat_lt
  have hle := h.2
  omega

/-- The window that sending looks at. -/
theorem Roomy.maxSend (h : Roomy S r f) (c : Connection Unit AckCount) :
    S.length ≤ (TCP.maxSend TcpConCtlSimple (atSend TcpProtoJoke TcpConCtlSimple c f)).toNat := by
  obtain ⟨⟨off, n, hf⟩, hroom⟩ := h
  have htcp := f.tcp_eq
  have hihl := hf.ihl
  obtain ⟨q, m, b, hcalls⟩ := Connection.foldl_iface_frame
    (delivered TcpProtoJoke TcpConCtlSimple c f).calls
    { (c.acknowledge TcpConCtlSimple f.swapped f.tcp).advance f.swapped sizeofEthernet f.tcp with
      proto := (delivered TcpProtoJoke TcpConCtlSimple c f).proto }
  obtain ⟨m', b', hadv⟩ := (c.acknowledge TcpConCtlSimple f.swapped f.tcp).advance_frame f.swapped
    sizeofEthernet f.tcp
  have hwindow : (atSend TcpProtoJoke TcpConCtlSimple c f).sendWindow
      = Tcp.getWindow f.data f.tcp := by
    unfold atSend
    rw [hcalls, hadv]
    exact Mem.Same.get16 fun j hj _ => f.swapped_of_ge (by omega) (by omega)
  have hmax : TCP.maxSend TcpConCtlSimple (atSend TcpProtoJoke TcpConCtlSimple c f)
      = (Tcp.getWindow f.data f.tcp).toUInt32 := by
    unfold TCP.maxSend
    rw [hwindow]
    have hlt := (Tcp.getWindow f.data f.tcp).toNat_lt
    refine if_pos (UInt32.le_iff_toNat_le.mpr ?_)
    rw [UInt16.toNat_toUInt32]
    show _ ≤ (0xffffffff : UInt32).toNat
    exact Nat.le_trans (Nat.le_of_lt hlt) (by decide)
  rw [hmax, UInt16.toNat_toUInt32]
  exact hroom

/-- The echo of an expected packet, when sending begins. -/
theorem Light.atSend {B : List UInt8} {c : Connection Unit AckCount} (h : Light B c) (f : Mbuf) :
    Light (B ++ (delivered TcpProtoJoke TcpConCtlSimple c f).calls.flatMap IfaceCall.bytes)
      (TCP.atSend TcpProtoJoke TcpConCtlSimple c f) := by
  obtain ⟨m, b, hadv⟩ := (c.acknowledge TcpConCtlSimple f.swapped f.tcp).advance_frame f.swapped
    sizeofEthernet f.tcp
  have hack := h.acknowledge TcpConCtlSimple f.swapped f.tcp
  unfold TCP.atSend
  rw [hadv]
  refine Light.calls ?_ (delivered_calls TcpConCtlSimple c f)
  exact ⟨hack.load, hack.queued, hack.sent⟩

/-- What is queued when sending begins is no more than the peer has room for. -/
theorem Echoes.total_le (h : Echoes S r s) (hf : Roomy S r f) (he : Expected s.conn f) :
    total (atSend TcpProtoJoke TcpConCtlSimple s.conn f).dataToSend
      ≤ (maxSend TcpConCtlSimple (atSend TcpProtoJoke TcpConCtlSimple s.conn f)).toNat := by
  obtain ⟨off, n, hcarries⟩ := hf.1
  obtain ⟨k, hk⟩ := h.prefixed
  have hpacket : ∃ k', Prefixed S r k' (s.packet TcpProtoJoke TcpConCtlSimple f) :=
    hk.packet (by have := hf.length_lt; omega) hcarries
  obtain ⟨k', hk'⟩ := hpacket
  have hload := (h.light.atSend f).load
  have hstream : (s.packet TcpProtoJoke TcpConCtlSimple f).received
      = s.stream ++ (delivered TcpProtoJoke TcpConCtlSimple s.conn f).calls.flatMap
        IfaceCall.bytes := by
    show s.received ++ (runEst TcpProtoJoke TcpConCtlSimple s.conn f).handed = _
    rw [← runEst_echo, ← h.echo]
    exact (Session.packet_of_expected TcpProtoJoke TcpConCtlSimple he).1
  rw [← hstream, hk'.received, List.length_take] at hload
  unfold Connection.load at hload
  have hroom := hf.maxSend s.conn
  omega

/-- **Such a packet is honest.** -/
theorem Echoes.honest (h : Echoes S r s) (hf : Roomy S r f) :
    Honest TcpProtoJoke TcpConCtlSimple s.conn f := by
  obtain ⟨off, n, hcarries⟩ := hf.1
  have hflags := hcarries.badFlags
  refine ⟨(Orderly.tcp_eq ⟨hcarries.ihl, hflags⟩).2, fun hc => ?_, fun he => ?_, fun he hne => ?_,
    fun he init seg hq hz => ?_⟩
  · rw [hflags] at hc
    exact absurd hc (by simp)
  · exact whole_of_total (h.total_le hf he)
  · have hqueue : (atSend TcpProtoJoke TcpConCtlSimple s.conn f).dataToSend ≠ [] := by
      refine Connection.calls_ne_nil _ ?_
      rw [delivered_echo]
      exact delivered_handed_ne_nil hne
    refine ⟨hqueue, Nat.lt_of_lt_of_le ?_ (h.total_le hf he)⟩
    obtain ⟨seg, segs, hcons⟩ := List.exists_cons_of_ne_nil hqueue
    have hpos := (h.light.atSend f).queued seg (by rw [hcons]; exact List.mem_cons_self)
    rw [hcons, total_cons]
    omega
  · have hpos := (h.light.atSend f).queued seg (by rw [hq]; simp)
    exact absurd hz (Nat.ne_of_gt hpos)

/-- **One packet.** -/
theorem Echoes.packet (h : Echoes S r s) (hest : s.state = States.est) (hf : Roomy S r f) :
    Echoes S r (s.packet TcpProtoJoke TcpConCtlSimple f) := by
  obtain ⟨off, n, hcarries⟩ := hf.1
  obtain ⟨k, hk⟩ := h.prefixed
  have hhonest := h.honest hf
  refine ⟨hk.packet (by have := hf.length_lt; omega) hcarries, ?_, h.ofStream.packet hest hhonest, ?_⟩
  · show s.stream ++ (runEst TcpProtoJoke TcpConCtlSimple s.conn f).stream
      = s.received ++ (runEst TcpProtoJoke TcpConCtlSimple s.conn f).handed
    rw [h.echo, runEst_echo]
  · rcases runEst_cases s.conn f with hbad | ⟨hflags, hseq⟩ | he
    · rw [hcarries.badFlags] at hbad
      exact absurd hbad (by simp)
    · obtain ⟨hconn, -, hstream, -⟩ :=
        Session.packet_of_unexpected TcpProtoJoke TcpConCtlSimple hflags hseq
      rw [hconn, hstream]
      exact h.light.acknowledge TcpConCtlSimple f.swapped f.tcp
    · obtain ⟨hstream, -, m, hconn, -⟩ :=
        Session.packet_of_expected TcpProtoJoke TcpConCtlSimple he
      obtain ⟨sent, left, k, htakes, -, htrans⟩ := transmit_whole TcpConCtlSimple
        (pktAtSend TcpConCtlSimple s.conn f) f.tcp
        (!decide (payloadLen (pktAtSend TcpConCtlSimple s.conn f).data sizeofEthernet f.tcp > 0))
        (hhonest.whole he)
      have htrans' : (transmitted TcpProtoJoke TcpConCtlSimple s.conn f).1 = _ := htrans
      rw [hstream]
      refine (h.light.atSend f).sendOut htakes.split ?_ ?_
      · rw [hconn, htrans']
      · rw [hconn, htrans']

end packet

/--
**The echo.**

For every stream `S` of a peer that starts at `r`, after every sequence of segments of
`S` in which the window has room for all of it: what the joke server has been handed is
a prefix of `S` and so is what it has to send, and a frame that is sent carries what `S`
has where its number says, and nothing the server has not been handed.
-/
theorem Session.Run.echo {S : List UInt8} {r : UInt32} {syn : Mbuf} (hsyn : Opens r syn)
    {s : Session Unit AckCount} (hrun : Session.Run TcpProtoJoke TcpConCtlSimple
      (fun _ f => Roomy S r f) (Session.accept TcpProtoJoke TcpConCtlSimple syn) s)
    (hest : s.state = States.est) {f : Mbuf} (hf : Roomy S r f) :
    let s' := s.packet TcpProtoJoke TcpConCtlSimple f
    let o := runEst TcpProtoJoke TcpConCtlSimple s.conn f
    let n := payloadLen o.pkt.data sizeofEthernet o.pkt.tcp
    ∃ k ≤ S.length, s'.received = S.take k ∧ s'.stream = S.take k ∧
      (s'.finished = true → k = S.length) ∧
      (o.free = false → n ≠ 0 → ∃ pos, Tcp.getSeq o.pkt.data o.pkt.tcp = UInt32.ofNat (1 + pos) ∧
        pos + n.toNat ≤ k ∧
        o.pkt.data.read (o.pkt.tcp + (Tcp.getHeaderLen o.pkt.data o.pkt.tcp).toNat) n.toNat
          = (S.drop pos).take n.toNat) := by
  have h : Echoes S r s := by
    clear hest hf
    induction hrun with
    | refl =>
        exact ⟨⟨0, hsyn.prefixed _ _⟩, rfl, Session.accept_ofStream _ _ _, light_accept syn⟩
    | step f _ hest hok ih => exact ih.packet hest hok
  obtain ⟨⟨k, hk⟩, hecho, -, -⟩ := h.packet hest hf
  refine ⟨k, hk.le, hk.received, hecho.trans hk.received, hk.finished, fun hsend hne => ?_⟩
  obtain ⟨pos, hseq, hle, hread⟩ :=
    ((h.honest hf).frame h.ofStream.segments (h.ofStream.next hest) hsend).2 hne
  rw [hecho, hk.received] at hle hread
  rw [List.length_take] at hle
  refine ⟨pos, hseq, by omega, hread.trans ?_⟩
  rw [List.drop_take, List.take_take, Nat.min_eq_left (by omega)]

/-- Two bytes, of which the second came first. -/
theorem Session.Run.echo_greeted :
    let s := opened.packet TcpProtoJoke TcpConCtlSimple earlyFrame
    let o := runEst TcpProtoJoke TcpConCtlSimple s.conn helloFrame
    let n := payloadLen o.pkt.data sizeofEthernet o.pkt.tcp
    ∃ k ≤ 2, greeted.received = [104, 105].take k ∧ greeted.stream = [104, 105].take k ∧
      (greeted.finished = true → k = 2) ∧
      (o.free = false → n ≠ 0 → ∃ pos, Tcp.getSeq o.pkt.data o.pkt.tcp = UInt32.ofNat (1 + pos) ∧
        pos + n.toNat ≤ k ∧
        o.pkt.data.read (o.pkt.tcp + (Tcp.getHeaderLen o.pkt.data o.pkt.tcp).toNat) n.toNat
          = (([104, 105] : List UInt8).drop pos).take n.toNat) :=
  Session.Run.echo synFrame_opens
    (.step earlyFrame .refl (by decide) ⟨⟨1, 1, earlyFrame_carries⟩, by decide⟩) (by decide)
    ⟨⟨0, 2, helloFrame_carries⟩, by decide⟩

end MoonState.TCP
