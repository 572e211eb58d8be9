/-
The receive stream.

The peer numbers the bytes of its stream from `r + 1` on and sends them in segments
that arrive in any order, more than once or not at all.  `runEst` takes a segment
only if it starts where the last one ended, so what the protocol has been handed is
always a prefix of the stream, and `seqRemote` says how long it is.

A FIN takes a number of its own.  After it every segment of the stream lies behind
`seqRemote`, so nothing more is accepted.
-/
import MoonState.Proofs.Payload

namespace MoonState.TCP

open Headers

variable {σ κ : Type}

/-- A segment with the bytes of `S` from `off` on, `n` of them, of a peer that started at
`r`. -/
structure Carries (S : List UInt8) (r : UInt32) (off n : Nat) (f : Mbuf) : Prop where
  ihl : 5 ≤ f.ihl
  flags : badFlags f.data f.tcp = false
  headerLen : (Tcp.getHeaderLen f.data f.tcp).toNat = 20
  total : f.payloadEnd = f.tcp + 20 + n
  fits : f.payloadEnd ≤ f.dataLen.toNat
  inside : off + n ≤ S.length
  seq : Tcp.getSeq f.data f.tcp = r + 1 + UInt32.ofNat off
  payload : f.data.read (f.tcp + 20) n = (S.drop off).take n
  fin : f.fin = true → off + n = S.length

/-- A SYN of a peer that starts at `r`. -/
structure Opens (r : UInt32) (f : Mbuf) : Prop where
  ihl : 5 ≤ f.ihl
  syn : Tcp.getSynFlag f.data f.tcp = true
  ack : Tcp.getAckFlag f.data f.tcp = false
  fin : Tcp.getFinFlag f.data f.tcp = false
  rst : Tcp.getRstFlag f.data f.tcp = false
  seq : Tcp.getSeq f.data f.tcp = r

/-! ### Reading a whole header -/

/-- With a whole IPv4 header the TCP header beyond the ports is read as it was received. -/
theorem Mbuf.swapped_of_whole {f : Mbuf} (h : 5 ≤ f.ihl) :
    Tcp.flags f.swapped f.tcp = Tcp.flags f.data f.tcp ∧
      Tcp.getSeq f.swapped f.tcp = Tcp.getSeq f.data f.tcp ∧
      Tcp.getAck f.swapped f.tcp = Tcp.getAck f.data f.tcp := by
  have ht := f.tcp_eq
  have hge : ∀ j, f.tcp + 4 ≤ j → f.swapped j = f.data j := fun j hj =>
    f.swapped_of_ge (by omega) hj
  exact ⟨hge _ (by omega), Mem.Same.get32 fun j hj _ => hge j (by omega),
    Mem.Same.get32 fun j hj _ => hge j (by omega)⟩

theorem badFlags_congr {m m' : Mem} {tcp : Nat} (h : Tcp.flags m' tcp = Tcp.flags m tcp) :
    badFlags m' tcp = badFlags m tcp := by
  unfold badFlags Tcp.getSynFlag Tcp.getAckFlag Tcp.getRstFlag
  rw [h]

section carries

variable {S : List UInt8} {r : UInt32} {off n : Nat} {f : Mbuf}

theorem Carries.badFlags (h : Carries S r off n f) : badFlags f.swapped f.tcp = false := by
  rw [badFlags_congr (Mbuf.swapped_of_whole h.ihl).1]
  exact h.flags

theorem Carries.getSeq (h : Carries S r off n f) :
    Tcp.getSeq f.swapped f.tcp = r + 1 + UInt32.ofNat off := by
  rw [(Mbuf.swapped_of_whole h.ihl).2.1]
  exact h.seq

theorem Carries.getFinFlag (h : Carries S r off n f) :
    Tcp.getFinFlag f.swapped f.tcp = f.fin := by
  unfold Mbuf.fin Tcp.getFinFlag
  rw [(Mbuf.swapped_of_whole h.ihl).1]

/-- Such a segment is described right, and is handed over whole. -/
theorem Carries.bounded (h : Carries S r off n f) (proto : Proto σ) (conCtl : ConCtl κ)
    {c : Connection σ κ} (he : Expected c f) :
    (runEst proto conCtl c f).handed = (S.drop off).take n ∧
      (runEst proto conCtl c f).conn.seqRemote
        = c.seqRemote + UInt32.ofNat n + finLen f.fin := by
  have htotal := h.total
  have hstart : f.payloadStart = f.tcp + 20 := by
    unfold Mbuf.payloadStart
    rw [h.headerLen]
  have hdesc : f.Describes := ⟨by omega, h.fits⟩
  have hplain : f.Plain := ⟨h.headerLen, hdesc.1, Or.inl hdesc.2⟩
  have hihl : 2 ≤ f.ihl := Nat.le_trans (by decide) h.ihl
  have hb : Bounded c f (runEst proto conCtl c f) :=
    (bounded_iff_readRight he).mpr ((Mbuf.readRight_iff hihl).mpr hplain)
  unfold Bounded at hb
  rw [if_pos hdesc, hstart, show f.payloadEnd - (f.tcp + 20) = n by omega, h.payload] at hb
  exact hb

end carries

/-! ### The run -/

/-- The first `k` bytes of the stream were handed over, and then the FIN if it was accepted. -/
structure Prefixed (S : List UInt8) (r : UInt32) (k : Nat) (s : Session σ κ) : Prop where
  le : k ≤ S.length
  received : s.received = S.take k
  seqRemote : s.conn.seqRemote = r + 1 + UInt32.ofNat k + finLen s.finished
  finished : s.finished = true → k = S.length

/-- Numbers of the stream do not meet. -/
theorem offset_eq {r : UInt32} {off k : Nat} {b : Bool} (hoff : off < 2 ^ 32 - 2)
    (hk : k < 2 ^ 32 - 2)
    (h : r + 1 + UInt32.ofNat off = r + 1 + UInt32.ofNat k + finLen b) : off = k + b.toNat := by
  have hb : b.toNat ≤ 1 := Bool.toNat_le b
  have hr := (r + 1).toNat_lt
  rw [← UInt32.toNat_inj] at h
  rw [UInt32.toNat_add, UInt32.toNat_add (r + 1 + UInt32.ofNat k), UInt32.toNat_add (r + 1),
    finLen_toNat, UInt32.toNat_ofNat', UInt32.toNat_ofNat'] at h
  omega

/-- One segment keeps the invariant. -/
theorem Prefixed.packet {S : List UInt8} {r : UInt32} {k off n : Nat} {f : Mbuf}
    {s : Session σ κ} {proto : Proto σ} {conCtl : ConCtl κ} (hS : S.length < 2 ^ 32 - 2)
    (h : Prefixed S r k s) (hf : Carries S r off n f) :
    ∃ k', Prefixed S r k' (s.packet proto conCtl f) := by
  by_cases he : Expected s.conn f
  · -- the segment starts where the prefix ends, so no FIN was accepted
    have hoff : off = k + s.finished.toNat := by
      refine offset_eq (r := r) ?_ ?_ ?_
      · have := hf.inside
        omega
      · have := h.le
        omega
      · rw [← hf.getSeq, he.2, h.seqRemote]
    have hfin : s.finished = false := by
      cases hb : s.finished with
      | false => rfl
      | true =>
          have hk := h.finished hb
          have hin := hf.inside
          rw [hb, Bool.toNat_true] at hoff
          omega
    rw [hfin, Bool.toNat_false, Nat.add_zero] at hoff
    subst hoff
    obtain ⟨hhand, hseq⟩ := hf.bounded proto conCtl he
    have hfinished : (s.packet proto conCtl f).finished = f.fin := by
      show (s.finished || (decide (Expected s.conn f) && Tcp.getFinFlag f.swapped f.tcp)) = _
      rw [hfin, hf.getFinFlag]
      simp [he]
    refine ⟨off + n, hf.inside, ?_, ?_, ?_⟩
    · show s.received ++ (runEst proto conCtl s.conn f).handed = _
      rw [hhand, h.received, List.take_add]
    · rw [hfinished]
      refine hseq.trans ?_
      rw [h.seqRemote, hfin, UInt32.ofNat_add]
      show r + 1 + UInt32.ofNat off + 0 + UInt32.ofNat n + _ = _
      rw [UInt32.add_zero, ← UInt32.add_assoc (r + 1)]
    · rw [hfinished]
      exact hf.fin
  · -- another one: nothing is handed over
    have hseq : Tcp.getSeq f.swapped f.tcp ≠ s.conn.seqRemote := fun hc => he ⟨hf.badFlags, hc⟩
    have hout := runEst_of_unexpected proto conCtl hf.badFlags hseq
    obtain ⟨q, l, w, c, hack⟩ := s.conn.acknowledge_frame conCtl f.swapped f.tcp
    have hfinished : (s.packet proto conCtl f).finished = s.finished := by
      show (s.finished || (decide (Expected s.conn f) && _)) = _
      simp [he]
    refine ⟨k, h.le, ?_, ?_, ?_⟩
    · show s.received ++ (runEst proto conCtl s.conn f).handed = _
      rw [hout]
      exact (List.append_nil _).trans h.received
    · rw [hfinished, ← h.seqRemote]
      show (runEst proto conCtl s.conn f).conn.seqRemote = _
      rw [hout]
      show (s.conn.acknowledge conCtl f.swapped f.tcp).seqRemote = _
      rw [hack]
    · rw [hfinished]
      exact h.finished

/-! ### The connection that a SYN opens -/

/-- Writing the total length leaves the TCP header of a whole packet alone. -/
theorem setPayloadLength_of_ge {m : Mem} {v : UInt16} {j : Nat} (h : 18 ≤ j) :
    IPv4.setPayloadLength m sizeofEthernet v j = m j := by
  unfold IPv4.setPayloadLength
  exact Mem.set16_of_ne _ (Or.inr (by unfold sizeofEthernet; omega))

/-- A SYN is answered, and its number remembered. -/
theorem Opens.accept {r : UInt32} {f : Mbuf} (h : Opens r f) (proto : Proto σ)
    (conCtl : ConCtl κ) :
    (Session.accept proto conCtl f).state = States.est ∧
      (Session.accept proto conCtl f).conn.seqRemote = r + 1 := by
  have ht := f.tcp_eq
  have hihl := h.ihl
  let m := IPv4.setPayloadLength f.swapped sizeofEthernet (UInt16.ofNat sizeofTcp)
  have hflags : Tcp.flags m f.tcp = Tcp.flags f.data f.tcp :=
    (setPayloadLength_of_ge (by omega)).trans (Mbuf.swapped_of_whole h.ihl).1
  have hseq : Tcp.getSeq m f.tcp = r := by
    rw [← h.seq, ← (Mbuf.swapped_of_whole h.ihl).2.1]
    exact Mem.Same.get32 fun j hj _ => setPayloadLength_of_ge (by omega)
  have hbad : (!Tcp.getSynFlag m f.tcp || Tcp.getAckFlag m f.tcp || Tcp.getFinFlag m f.tcp ||
      Tcp.getRstFlag m f.tcp) = false := by
    have hsyn := h.syn
    have hack := h.ack
    have hfin := h.fin
    have hrst := h.rst
    unfold Tcp.getSynFlag at hsyn ⊢
    unfold Tcp.getAckFlag at hack ⊢
    unfold Tcp.getFinFlag at hfin ⊢
    unfold Tcp.getRstFlag at hrst ⊢
    rw [hflags, hsyn, hack, hfin, hrst]
    rfl
  have hout : ∃ o : Outcome σ κ, runSynAck (factory proto conCtl) f = o ∧
      o.newState = some States.est ∧ o.conn.seqRemote = Tcp.getSeq m f.tcp + 1 := by
    exact ⟨_, if_neg fun hc => Bool.false_ne_true (hbad.symm.trans hc), rfl, rfl⟩
  obtain ⟨o, ho, hstate, hremote⟩ := hout
  unfold Session.accept
  rw [ho, hseq] at *
  dsimp only
  rw [hstate, hremote]
  exact ⟨rfl, rfl⟩

theorem Opens.prefixed {S : List UInt8} {r : UInt32} {f : Mbuf} (h : Opens r f) (proto : Proto σ)
    (conCtl : ConCtl κ) : Prefixed S r 0 (Session.accept proto conCtl f) := by
  refine ⟨Nat.zero_le _, rfl, ?_, ?_⟩
  · rw [(h.accept proto conCtl).2]
    show _ = r + 1 + 0 + 0
    rw [UInt32.add_zero, UInt32.add_zero]
  · intro hc
    simp [Session.accept] at hc

/--
**The receive stream is never garbled.**

For every stream `S` of a peer that starts at `r`, every protocol and every
congestion control, after every sequence of segments of `S`: the protocol was
handed a prefix of `S`, and `seqRemote` is the number behind it, or behind the FIN
once that was accepted.
-/
theorem Session.Run.received_prefix (proto : Proto σ) (conCtl : ConCtl κ) {S : List UInt8}
    {r : UInt32} {syn : Mbuf} (hS : S.length < 2 ^ 32 - 2) (hsyn : Opens r syn) {s : Session σ κ}
    (hrun : Session.Run proto conCtl (fun _ f => ∃ off n, Carries S r off n f)
      (Session.accept proto conCtl syn) s) :
    ∃ k ≤ S.length, s.received = S.take k ∧
      s.conn.seqRemote = r + 1 + UInt32.ofNat k + (if s.finished then 1 else 0) ∧
      (s.finished = true → k = S.length) := by
  have hpre : ∃ k, Prefixed S r k s := by
    induction hrun with
    | refl => exact ⟨0, hsyn.prefixed proto conCtl⟩
    | step f hrun hest hok ih =>
        obtain ⟨k, hk⟩ := ih
        obtain ⟨off, n, hf⟩ := hok
        exact hk.packet hS hf
  obtain ⟨k, hk⟩ := hpre
  exact ⟨k, hk.le, hk.received, hk.seqRemote, hk.finished⟩

/-! ### The hypotheses can be met -/

/-- A SYN with sequence number 7. -/
def synFrame : Mbuf :=
  .ofBytes (List.replicate 14 0 ++ ipv4Bytes 40 ++ tcpBytes 7 0 0x50 0x02 32)

/-- Two bytes and a FIN. -/
def helloFrame : Mbuf :=
  .ofBytes (List.replicate 14 0 ++ ipv4Bytes 42 ++ tcpBytes 8 1 0x50 0x11 32 ++ [104, 105])

/-- The second of the two bytes, ahead of the first. -/
def earlyFrame : Mbuf :=
  .ofBytes (List.replicate 14 0 ++ ipv4Bytes 41 ++ tcpBytes 9 1 0x50 0x10 32 ++ [105])

theorem synFrame_opens : Opens 7 synFrame :=
  ⟨by decide, by decide, by decide, by decide, by decide, by decide⟩

theorem helloFrame_carries : Carries [104, 105] 7 0 2 helloFrame :=
  ⟨by decide, by decide, by decide, by decide, by decide, by decide, by decide, by decide,
    by decide⟩

theorem earlyFrame_carries : Carries [104, 105] 7 1 1 earlyFrame :=
  ⟨by decide, by decide, by decide, by decide, by decide, by decide, by decide, by decide,
    by decide⟩

/-- The joke server after the SYN. -/
def opened : Session Unit AckCount := Session.accept TcpProtoJoke TcpConCtlSimple synFrame

/-- It was sent the second byte first. -/
def greeted : Session Unit AckCount :=
  (opened.packet TcpProtoJoke TcpConCtlSimple earlyFrame).packet TcpProtoJoke TcpConCtlSimple
    helloFrame

theorem Session.Run.received_prefix_greeted :
    ∃ k ≤ 2, greeted.received = [104, 105].take k ∧
      greeted.conn.seqRemote = 7 + 1 + UInt32.ofNat k + (if greeted.finished then 1 else 0) ∧
      (greeted.finished = true → k = 2) :=
  Session.Run.received_prefix TcpProtoJoke TcpConCtlSimple (by decide) synFrame_opens
    (.step helloFrame (.step earlyFrame .refl (by decide) ⟨1, 1, earlyFrame_carries⟩) (by decide)
      ⟨0, 2, helloFrame_carries⟩)

example : greeted.received = [104, 105] ∧ greeted.conn.seqRemote = 11 := by decide

end MoonState.TCP
