/-
The send stream.

The bytes a protocol passes to `sendData` are numbered from 1 on, and cut into
segments that move between two lists: `dataToSend` and `dataAlreadySent`.
`Intact` says of all these segments that they hold what their numbers promise, that
no two overlap, and that together they still have every byte the peer has not
acknowledged.

Putting a segment at the end of the stream keeps this, and so does moving segments
from one list to the other in any order.  Erasing a segment keeps it because the
peer has acknowledged all of it; only a segment that ends at `2 ^ 32` is erased by
any ACK, as the sum is taken in 32 bits.  Splitting a segment does not keep it.
-/
import Mathlib.Algebra.GroupWithZero.Nat
import MoonState.Proofs.Receive

namespace MoonState.TCP

open Headers

variable {σ κ : Type}

namespace Segment

/-- The number is one of the segment's. -/
def Covers (seg : Segment) (i : Nat) : Prop :=
  seg.seqNumber.toNat ≤ i ∧ i < seg.seqNumber.toNat + seg.dataLen.toNat

instance (seg : Segment) (i : Nat) : Decidable (seg.Covers i) :=
  inferInstanceAs (Decidable (_ ∧ _))

/-- The segment holds the bytes of `B` that have its numbers. -/
structure Holds (B : List UInt8) (seg : Segment) : Prop where
  bytes : seg.bytes = (B.drop (seg.seqNumber.toNat - 1)).take seg.dataLen.toNat
  inside : 0 < seg.dataLen.toNat →
    1 ≤ seg.seqNumber.toNat ∧ seg.seqNumber.toNat + seg.dataLen.toNat ≤ B.length + 1

end Segment

/-- The segments hold what is left of the stream `B` above `hi`, each byte once. -/
structure Intact (B : List UInt8) (hi : Nat) (segs : List Segment) : Prop where
  holds : ∀ seg ∈ segs, seg.Holds B
  disjoint : segs.Pairwise fun a b => ∀ i, a.Covers i → ¬ b.Covers i
  covers : ∀ i, 1 ≤ i → i ≤ B.length → hi ≤ i → ∃ seg ∈ segs, seg.Covers i

namespace Intact

variable {B : List UInt8} {hi : Nat} {segs segs' : List Segment}

theorem nil (hi : Nat) : Intact [] hi [] :=
  ⟨by simp, List.Pairwise.nil, fun i h1 h2 _ => absurd (Nat.le_trans h1 h2) (by decide)⟩

/-- The order does not matter. -/
theorem perm (h : Intact B hi segs) (hp : segs.Perm segs') : Intact B hi segs' := by
  refine ⟨?_, ?_, ?_⟩
  · exact fun seg hseg => h.holds seg (hp.mem_iff.mpr hseg)
  · refine (hp.pairwise_iff ?_).mp h.disjoint
    exact fun hab i hb ha => hab i ha hb
  · intro i h1 h2 hle
    obtain ⟨seg, hseg, hc⟩ := h.covers i h1 h2 hle
    exact ⟨seg, hp.mem_iff.mp hseg, hc⟩

/-- Segments whose bytes are all acknowledged may go. -/
theorem erase (h : Intact B hi segs) (hsub : segs'.Sublist segs) {hi' : Nat} (hle : hi ≤ hi')
    (hgone : ∀ seg ∈ segs, seg ∉ segs' → ∀ i, seg.Covers i → i < hi') :
    Intact B hi' segs' := by
  refine ⟨fun seg hseg => h.holds seg (hsub.subset hseg), h.disjoint.sublist hsub, ?_⟩
  intro i h1 h2 hi'
  obtain ⟨seg, hseg, hc⟩ := h.covers i h1 h2 (Nat.le_trans hle hi')
  refine ⟨seg, ?_, hc⟩
  by_contra hk
  have := hgone seg hseg hk i hc
  omega

/-- A segment at the end of the stream. -/
theorem append (h : Intact B hi segs) {data : List UInt8} {len : Nat} (hlen : len ≤ data.length)
    (hlen' : len < 2 ^ 16) (hB : B.length + len < 2 ^ 32) {n : UInt32}
    (hn : n.toNat = (1 + B.length) % 2 ^ 32) :
    Intact (B ++ data.take len) hi (segs ++ [⟨data, n, UInt16.ofNat len⟩]) := by
  have hl : (UInt16.ofNat len).toNat = len := by
    rw [UInt16.toNat_ofNat']
    exact Nat.mod_eq_of_lt hlen'
  have htake : (data.take len).length = len := by
    rw [List.length_take]
    omega
  have hlt : ∀ seg ∈ segs, ∀ i, seg.Covers i → i ≤ B.length := by
    intro seg hseg i hc
    obtain ⟨h1, h2⟩ := hc
    have := ((h.holds seg hseg).inside (by omega)).2
    omega
  refine ⟨?_, ?_, ?_⟩
  · intro seg hseg
    rcases List.mem_append.mp hseg with hseg | hseg
    · obtain ⟨hbytes, hin⟩ := h.holds seg hseg
      refine ⟨?_, ?_⟩
      · rw [hbytes]
        by_cases hz : 0 < seg.dataLen.toNat
        · obtain ⟨h1, h2⟩ := hin hz
          rw [List.drop_append_of_le_length (by omega), List.take_append_of_le_length]
          rw [List.length_drop]
          omega
        · rw [Nat.eq_zero_of_not_pos hz, List.take_zero, List.take_zero]
      · intro hz
        rw [List.length_append]
        have := hin hz
        omega
    · rw [List.mem_singleton.mp hseg]
      refine ⟨?_, ?_⟩
      · show data.take (UInt16.ofNat len).toNat = ((B ++ data.take len).drop (n.toNat - 1)).take _
        rw [hl]
        by_cases hz : len = 0
        · rw [hz, List.take_zero, List.take_zero]
        · have hn' : n.toNat - 1 = B.length := by omega
          rw [hn', List.drop_left, List.take_take, Nat.min_self]
      · show 0 < (UInt16.ofNat len).toNat → 1 ≤ n.toNat ∧ n.toNat + (UInt16.ofNat len).toNat ≤ _
        rw [hl, List.length_append, htake]
        intro hz
        omega
  · rw [List.pairwise_append]
    refine ⟨h.disjoint, List.pairwise_singleton _ _, ?_⟩
    intro a ha b hb i hca hcb
    rw [List.mem_singleton.mp hb] at hcb
    obtain ⟨h1, h2⟩ := hcb
    have h1' : n.toNat ≤ i := h1
    have h2' : i < n.toNat + (UInt16.ofNat len).toNat := h2
    have := hlt a ha i hca
    omega
  · intro i h1 h2 hle
    by_cases hi : i ≤ B.length
    · obtain ⟨seg, hseg, hc⟩ := h.covers i h1 hi hle
      exact ⟨seg, List.mem_append_left _ hseg, hc⟩
    · rw [List.length_append, htake] at h2
      refine ⟨_, List.mem_append_right _ List.mem_cons_self, ?_⟩
      show n.toNat ≤ i ∧ i < n.toNat + (UInt16.ofNat len).toNat
      omega

end Intact

/-! ### A connection whose segments are intact -/

/-- Besides the segment `synAck`, which belongs to the handshake, the connection has those of
the stream `B`. -/
structure Streams (synAck : Segment) (B : List UInt8) (hi : Nat) (c : Connection σ κ)
    (sent : List Segment) : Prop where
  already : c.dataAlreadySent = sent ∨ c.dataAlreadySent = synAck :: sent
  intact : Intact B hi (sent ++ c.dataToSend)

/-- The next byte of the stream gets the number `seqLocal`. -/
def Numbers (B : List UInt8) (c : Connection σ κ) : Prop :=
  c.seqLocal.toNat = (1 + B.length) % 2 ^ 32

theorem Numbers.congr {B : List UInt8} {c c' : Connection σ κ} (h : Numbers B c)
    (hl : c'.seqLocal = c.seqLocal) : Numbers B c' := by
  unfold Numbers
  rw [hl]
  exact h

theorem Streams.congr {synAck : Segment} {sent : List Segment} {B : List UInt8} {hi : Nat}
    {c c' : Connection σ κ} (h : Streams synAck B hi c sent)
    (ha : c'.dataAlreadySent = c.dataAlreadySent) (hq : c'.dataToSend = c.dataToSend) :
    Streams synAck B hi c' sent := by
  refine ⟨?_, ?_⟩
  · rw [ha]
    exact h.already
  · rw [hq]
    exact h.intact

section calls

variable {synAck : Segment} {sent : List Segment} {B : List UInt8} {hi : Nat} {c : Connection σ κ}

theorem Streams.enqueue (h : Streams synAck B hi c sent) (hn : Numbers B c) {data : List UInt8}
    {len : Nat} (hlen : len ≤ data.length) (hlen' : len < 2 ^ 16) (hB : B.length + len < 2 ^ 32) :
    Streams synAck (B ++ data.take len) hi (c.enqueue data len) sent ∧
      Numbers (B ++ data.take len) (c.enqueue data len) := by
  refine ⟨⟨h.already, ?_⟩, ?_⟩
  · have happ := h.intact.append hlen hlen' hB hn
    rw [List.append_assoc] at happ
    exact happ
  · show (c.seqLocal + UInt32.ofNat len).toNat = _
    rw [UInt32.toNat_add, UInt32.toNat_ofNat', hn, List.length_append, List.length_take]
    omega

/-- The calls of the protocol put their bytes at the end of the stream. -/
theorem Streams.calls (calls : List IfaceCall) (h : Streams synAck B hi c sent) (hn : Numbers B c)
    (hB : (B ++ calls.flatMap IfaceCall.bytes).length < 2 ^ 32) :
    Streams synAck (B ++ calls.flatMap IfaceCall.bytes) hi (calls.foldl Connection.iface c) sent ∧
      Numbers (B ++ calls.flatMap IfaceCall.bytes) (calls.foldl Connection.iface c) := by
  have hmss : MSS = 1460 := rfl
  refine Connection.calls_induct (P := fun B c => B.length < 2 ^ 32 →
    Streams synAck B hi c sent ∧ Numbers B c) ?_ ?_ calls (fun _ => ⟨h, hn⟩) hB
  · intro B c data len ih hlen hle hB
    rw [List.length_append, List.length_take, Nat.min_eq_left hlen] at hB
    obtain ⟨h', hn'⟩ := ih (by omega)
    exact h'.enqueue hn' hlen (by omega) hB
  · intro B c ih hB
    exact ⟨⟨(ih hB).1.already, (ih hB).1.intact⟩, (ih hB).2⟩

end calls

/-! ### Acknowledgements -/

section acknowledge

variable {synAck : Segment} {sent : List Segment} {B : List UInt8} {hi : Nat} {c : Connection σ κ}

/-- No segment ends at `2 ^ 32`, unless nothing is acknowledged. -/
def EndsBelow (c : Connection σ κ) (ack : UInt32) : Prop :=
  ∀ seg ∈ c.dataAlreadySent, seg.seqNumber.toNat + seg.dataLen.toNat = 2 ^ 32 → ack = 0

/-- A filter of the sent segments that keeps the one of the handshake, or not. -/
theorem Streams.already_filter (h : Streams synAck B hi c sent) (keep : Segment → Bool) :
    c.dataAlreadySent.filter keep = sent.filter keep ∨
      c.dataAlreadySent.filter keep = synAck :: sent.filter keep := by
  rcases h.already with ha | ha
  · exact Or.inl (by rw [ha])
  · rw [ha]
    cases hk : keep synAck with
    | true => exact Or.inr (List.filter_cons_of_pos hk)
    | false => exact Or.inl (List.filter_cons_of_neg (by simp [hk]))

theorem Streams.mem_already (h : Streams synAck B hi c sent) {seg : Segment} (hseg : seg ∈ sent) :
    seg ∈ c.dataAlreadySent := by
  rcases h.already with ha | ha
  · rwa [ha]
  · rw [ha]
    exact List.mem_cons_of_mem _ hseg

/-- Of the segments that `ack` erases, every number is below `hi`. -/
def Gone (hi : Nat) (sent : List Segment) (ack : UInt32) : Prop :=
  ∀ seg ∈ sent, ack > seg.seqNumber + seg.dataLen.toUInt32 → ∀ i, seg.Covers i → i < hi

/-- What is erased is acknowledged. -/
theorem Streams.gone (h : Streams synAck B hi c sent) (hB : B.length < 2 ^ 32) {ack : UInt32}
    (hend : EndsBelow c ack) : Gone ack.toNat sent ack := by
  intro seg hseg hgt i hc
  have hin := (h.intact.holds seg (List.mem_append_left _ hseg)).inside
  rw [gt_iff_lt, UInt32.lt_iff_toNat_lt, UInt32.toNat_add, UInt16.toNat_toUInt32] at hgt
  obtain ⟨h1, h2⟩ := hc
  have hin' := hin (by omega)
  by_cases hwrap : seg.seqNumber.toNat + seg.dataLen.toNat = 2 ^ 32
  · rw [hend seg (h.mem_already hseg) hwrap] at hgt
    exact absurd hgt (Nat.not_lt_zero _)
  · rw [Nat.mod_eq_of_lt (by omega)] at hgt
    omega

theorem Gone.mono {hi hi' : Nat} {ack : UInt32} (h : Gone hi sent ack) (hle : hi ≤ hi') :
    Gone hi' sent ack :=
  fun seg hseg hgt i hc => Nat.lt_of_lt_of_le (h seg hseg hgt i hc) hle

theorem Streams.eraseAcked (h : Streams synAck B hi c sent) {hi' : Nat} (hle : hi ≤ hi')
    {ack : UInt32} (hgone : Gone hi' sent ack) :
    ∃ sent', Streams synAck B hi' (c.eraseAcked ack) sent' := by
  let keep : Segment → Bool := fun i => !decide (ack > i.seqNumber + i.dataLen.toUInt32)
  refine ⟨sent.filter keep, h.already_filter keep, ?_⟩
  refine h.intact.erase (List.filter_sublist.append_right _) hle ?_
  intro seg hseg hno i hc
  rw [List.mem_append, not_or] at hno
  have hs : seg ∈ sent := (List.mem_append.mp hseg).resolve_right hno.2
  have hk : ¬ keep seg = true := fun hk => hno.1 (List.mem_filter.mpr ⟨hs, hk⟩)
  exact hgone seg hs (by simpa [keep] using hk) i hc

/-- Segments that go back to the queue stay segments of the stream; that of the handshake never
does. -/
theorem Streams.resend (h : Streams synAck B hi c sent) (h0 : synAck.seqNumber = 0) (r : UInt32) :
    ∃ sent', Streams synAck B hi (c.resend r) sent' := by
  let back : Segment → Bool := fun i => decide (i.seqNumber > r)
  have hback : c.dataAlreadySent.filter back = sent.filter back := by
    rcases h.already with ha | ha
    · rw [ha]
    · rw [ha]
      refine List.filter_cons_of_neg ?_
      have hr : ¬ r < synAck.seqNumber := by
        rw [h0, UInt32.lt_iff_toNat_lt]
        exact Nat.not_lt_zero _
      simpa [back] using hr
  refine ⟨sent.filter fun i => !back i, h.already_filter _, h.intact.perm ?_⟩
  show (sent ++ c.dataToSend).Perm
    (sent.filter (fun i => !back i) ++ ((c.dataAlreadySent.filter back).reverse ++ c.dataToSend))
  rw [hback, ← List.append_assoc]
  refine List.Perm.append_right _ ?_
  refine ((List.filter_append_perm back sent).symm.trans List.perm_append_comm).trans ?_
  exact List.Perm.append_left _ (List.reverse_perm _).symm

theorem Streams.acknowledge (h : Streams synAck B hi c sent) (h0 : synAck.seqNumber = 0)
    {hi' : Nat} (hle : hi ≤ hi') {m : Mem} {tcp : Nat} (hgone : Gone hi' sent (Tcp.getAck m tcp))
    (conCtl : ConCtl κ) :
    ∃ sent', Streams synAck B hi' (c.acknowledge conCtl m tcp) sent' := by
  obtain ⟨sent₁, h₁⟩ := h.eraseAcked hle hgone
  unfold Connection.acknowledge
  dsimp only
  obtain ⟨k, hk | ⟨r, hk⟩⟩ := (c.eraseAcked (Tcp.getAck m tcp)).control_cases conCtl
    (Tcp.getAck m tcp)
  · rw [hk]
    exact ⟨sent₁, h₁.already, h₁.intact⟩
  · have h₂ : Streams synAck B hi'
        { c.eraseAcked (Tcp.getAck m tcp) with conCtl := k } sent₁ := ⟨h₁.already, h₁.intact⟩
    obtain ⟨sent₃, h₃⟩ := h₂.resend h0 r
    rw [hk]
    exact ⟨sent₃, h₃.already, h₃.intact⟩

end acknowledge

/-! ### Sending -/

/-- What may be sent ends at the end of a segment, or behind the queue. -/
inductive Whole : Nat → List Segment → Prop
  | all (budget : Nat) : Whole budget []
  | stop {budget : Nat} (h : budget = 0) (segs : List Segment) : Whole budget segs
  | fits {budget : Nat} {seg : Segment} {rest : List Segment} (h : seg.dataLen.toNat ≤ budget)
      (hrest : Whole (budget - seg.dataLen.toNat) rest) : Whole budget (seg :: rest)

/-- What the loop may still send. -/
theorem toNat_room {maxSend alreadySent : UInt32} (hmax : maxSend.toNat < 2 ^ 16)
    (hle : alreadySent.toNat ≤ maxSend.toNat) :
    (maxSend - alreadySent).toUInt16.toNat = maxSend.toNat - alreadySent.toNat := by
  rw [UInt32.toNat_toUInt16, UInt32.toNat_sub_of_le _ _ (UInt32.le_iff_toNat_le.mpr hle)]
  exact Nat.mod_eq_of_lt (by omega)

/-- What it has sent after one segment more. -/
theorem toNat_alreadySent {maxSend alreadySent : UInt32} {dataLen : UInt16}
    (hmax : maxSend.toNat < 2 ^ 16) (hfit : dataLen.toNat ≤ maxSend.toNat - alreadySent.toNat) :
    (alreadySent + dataLen.toUInt32).toNat = alreadySent.toNat + dataLen.toNat := by
  have := dataLen.toNat_lt
  have := alreadySent.toNat_lt
  rw [UInt32.toNat_add, UInt16.toNat_toUInt32]
  by_cases hle : alreadySent.toNat ≤ maxSend.toNat <;> omega

/-- How many bytes the segments have. -/
def total (segs : List Segment) : Nat := (segs.map fun seg => seg.dataLen.toNat).sum

@[simp] theorem total_nil : total [] = 0 := rfl

@[simp] theorem total_cons (seg : Segment) (segs : List Segment) :
    total (seg :: segs) = seg.dataLen.toNat + total segs := rfl

/-- The first segments of a queue, as the loop takes them: it goes on while the window is open. -/
structure Takes (budget : Nat) (queue sent left : List Segment) : Prop where
  split : queue = sent ++ left
  starts : queue ≠ [] → 0 < budget → sent ≠ []
  /-- the last one found the window open, and if it left it open there is no other -/
  last : ∀ init seg, sent = init ++ [seg] →
    total init < budget ∧ (seg.dataLen.toNat = 0 → left = [])

theorem Takes.nil (budget : Nat) : Takes budget [] [] [] :=
  ⟨rfl, fun hc => absurd rfl hc, fun init seg h => by simp at h⟩

theorem Takes.stop {budget : Nat} (h : budget = 0) (queue : List Segment) :
    Takes budget queue [] queue :=
  ⟨rfl, fun _ hlt => by omega, fun init seg h => by simp at h⟩

theorem Takes.cons {budget : Nat} {seg : Segment} {rest sent left : List Segment}
    (hopen : 0 < budget) (h : Takes (budget - seg.dataLen.toNat) rest sent left) :
    Takes budget (seg :: rest) (seg :: sent) left := by
  refine ⟨by rw [h.split]; rfl, fun _ _ => List.cons_ne_nil _ _, ?_⟩
  intro init last heq
  cases init with
  | nil =>
      obtain ⟨rfl, rfl⟩ := List.cons.inj heq
      refine ⟨hopen, fun hz => ?_⟩
      by_contra hleft
      exact h.starts (fun hc => hleft (by rw [h.split] at hc; exact hc)) (by omega) rfl
  | cons s init =>
      obtain ⟨rfl, heq'⟩ := List.cons.inj heq
      obtain ⟨hlt, hz⟩ := h.last init last heq'
      refine ⟨?_, hz⟩
      rw [total_cons]
      omega

/-- **The send loop**, when no segment has to be split: it sends the first segments, as they
are. -/
theorem sendLoop_whole {maxSend : UInt32} (hmax : maxSend.toNat < 2 ^ 16) :
    ∀ (queue : List Segment) (alreadySent : UInt32) (s : Sending),
      alreadySent.toNat ≤ maxSend.toNat → Whole (maxSend.toNat - alreadySent.toNat) queue →
      ∃ sent left, Takes (maxSend.toNat - alreadySent.toNat) queue sent left ∧
        sendLoop maxSend queue alreadySent s
          = { sent.foldl Sending.put s with dataToSend := left } := by
  intro queue
  induction queue with
  | nil => exact fun _ s _ _ => ⟨[], [], .nil _, rfl⟩
  | cons seg rest ih =>
      intro alreadySent s hle hwhole
      rw [sendLoop]
      by_cases hlt : alreadySent.toNat < maxSend.toNat
      · rw [if_pos (by rw [gt_iff_lt, UInt32.lt_iff_toNat_lt]; exact hlt)]
        obtain ⟨hfit, hrest⟩ : seg.dataLen.toNat ≤ maxSend.toNat - alreadySent.toNat ∧
            Whole (maxSend.toNat - alreadySent.toNat - seg.dataLen.toNat) rest := by
          cases hwhole with
          | stop h => omega
          | fits h hrest => exact ⟨h, hrest⟩
        have hleft := toNat_room hmax hle
        have hmin : min seg.dataLen (maxSend - alreadySent).toUInt16 = seg.dataLen := by
          refine if_pos ?_
          rw [UInt16.le_iff_toNat_le, hleft]
          exact hfit
        have hsum := toNat_alreadySent hmax hfit
        dsimp only
        rw [hmin, if_pos rfl]
        obtain ⟨sent, left, htakes, hloop⟩ := ih (alreadySent + seg.dataLen.toUInt32) (s.put seg)
          (by omega) (by rw [hsum, ← Nat.sub_sub]; exact hrest)
        rw [hsum, ← Nat.sub_sub] at htakes
        exact ⟨seg :: sent, left, htakes.cons (by omega), hloop⟩
      · rw [if_neg (by rw [gt_iff_lt, UInt32.lt_iff_toNat_lt]; exact hlt)]
        exact ⟨[], seg :: rest, .stop (by omega) _, rfl⟩

theorem foldl_put_already (sent : List Segment) :
    ∀ s : Sending, (sent.foldl Sending.put s).dataAlreadySent = s.dataAlreadySent ++ sent := by
  induction sent with
  | nil => exact fun s => (List.append_nil _).symm
  | cons seg sent ih =>
      intro s
      rw [List.foldl_cons, ih]
      show (s.dataAlreadySent ++ [seg]) ++ sent = _
      rw [List.append_assoc]
      rfl

theorem maxSend_lt (conCtl : ConCtl κ) (c : Connection σ κ) :
    (maxSend conCtl c).toNat < 2 ^ 16 := by
  have hw := c.sendWindow.toNat_lt
  unfold maxSend
  rw [UInt32.min_def]
  split
  · rw [UInt16.toNat_toUInt32]
    exact hw
  · rename_i hle
    rw [UInt32.le_iff_toNat_le, UInt16.toNat_toUInt32] at hle
    omega

/-- What `transmit` does when no segment has to be split. -/
theorem transmit_whole (conCtl : ConCtl κ) {c : Connection σ κ} (pkt : Mbuf) (tcp : Nat)
    (freePkt : Bool) (h : Whole (maxSend conCtl c).toNat c.dataToSend) :
    ∃ sent left k, Takes (maxSend conCtl c).toNat c.dataToSend sent left ∧
      (transmit conCtl c pkt tcp freePkt).2
        = { sent.foldl Sending.put ⟨c.dataToSend, c.dataAlreadySent, c.ipID, pkt, tcp, freePkt⟩ with
            dataToSend := left } ∧
      (transmit conCtl c pkt tcp freePkt).1
        = { c with
            dataToSend := left
            dataAlreadySent := c.dataAlreadySent ++ sent
            ipID := (transmit conCtl c pkt tcp freePkt).2.ipID
            conCtl := k } := by
  unfold transmit
  dsimp only
  by_cases hq : c.dataToSend = []
  · rw [if_pos hq]
    refine ⟨[], [], c.conCtl, by rw [hq]; exact .nil _, ?_, ?_⟩
    · rw [List.foldl_nil, hq]
    · rw [List.append_nil, ← hq]
  · rw [if_neg hq]
    obtain ⟨sent, left, htakes, hloop⟩ := sendLoop_whole (maxSend_lt conCtl c) c.dataToSend 0
      ⟨c.dataToSend, c.dataAlreadySent, c.ipID, pkt, tcp, freePkt⟩ (Nat.zero_le _) h
    refine ⟨sent, left, (conCtl.getConWindow c.conCtl).2, htakes, hloop, ?_⟩
    rw [hloop, foldl_put_already]

section send

variable {synAck : Segment} {sent : List Segment} {B : List UInt8} {hi : Nat}
  {c : Connection σ κ}

theorem Streams.transmit (h : Streams synAck B hi c sent) (conCtl : ConCtl κ) (pkt : Mbuf)
    (tcp : Nat) (freePkt : Bool) (hwhole : Whole (maxSend conCtl c).toNat c.dataToSend) :
    ∃ sent', Streams synAck B hi (transmit conCtl c pkt tcp freePkt).1 sent' := by
  obtain ⟨out, left, k, htakes, -, hconn⟩ := transmit_whole conCtl pkt tcp freePkt hwhole
  rw [hconn]
  refine ⟨sent ++ out, ?_, ?_⟩
  · rcases h.already with ha | ha
    · exact Or.inl (by rw [ha])
    · exact Or.inr (by rw [ha]; rfl)
  · have hintact := h.intact
    rw [htakes.split, ← List.append_assoc] at hintact
    exact hintact

end send

/-! ### `runEst`, up to where sending begins -/

section expected

variable (proto : Proto σ) (conCtl : ConCtl κ) (c : Connection σ κ) (f : Mbuf)

/-- What the protocol makes of the packet. -/
def delivered : Delivery σ :=
  delivery proto (c.acknowledge conCtl f.swapped f.tcp) { f with data := f.swapped } sizeofEthernet
    f.tcp

/-- The connection when sending begins. -/
def atSend : Connection σ κ :=
  (delivered proto conCtl c f).calls.foldl Connection.iface
    { (c.acknowledge conCtl f.swapped f.tcp).advance f.swapped sizeofEthernet f.tcp with
      proto := (delivered proto conCtl c f).proto }

/-- The packet when sending begins. -/
def pktAtSend : Mbuf :=
  let c := (c.acknowledge conCtl f.swapped f.tcp).advance f.swapped sizeofEthernet f.tcp
  { f with data := answerHeader c f.swapped f.tcp }

/-- What sending makes of both. -/
def transmitted : Connection σ κ × Sending :=
  transmit conCtl (atSend proto conCtl c f) (pktAtSend conCtl c f) f.tcp
    (!decide (payloadLen (pktAtSend conCtl c f).data sizeofEthernet f.tcp > 0))

variable {c f}

theorem runEst_eq_finish (h : Expected c f) : runEst proto conCtl c f
    = finish (transmitted proto conCtl c f).1 (transmitted proto conCtl c f).2
        (delivered proto conCtl c f) :=
  runEst_of_expected proto conCtl h

/-- The window does not end inside a segment: no segment is split. -/
def Unsplit (c : Connection σ κ) (f : Mbuf) : Prop :=
  Expected c f → Whole (maxSend conCtl (atSend proto conCtl c f)).toNat
    (atSend proto conCtl c f).dataToSend

end expected

theorem finish_stream (c : Connection σ κ) (s : Sending) (d : Delivery σ) :
    (finish c s d).stream = d.calls.flatMap IfaceCall.bytes := by
  unfold Outcome.stream
  rw [finish_calls]

/-- The end of `runEst` leaves the segments alone, and `seqLocal` while it stays in `est`. -/
theorem finish_conn (c : Connection σ κ) (s : Sending) (d : Delivery σ) :
    ∃ n, (finish c s d).conn = { c with seqLocal := n } ∧
      ((finish c s d).newState ≠ some States.ack_fin → n = c.seqLocal) := by
  unfold finish
  split
  · exact ⟨c.seqLocal + 1, rfl, fun hc => absurd rfl hc⟩
  · exact ⟨c.seqLocal, rfl, fun _ => rfl⟩

section send

variable (proto : Proto σ) {conCtl : ConCtl κ} {synAck : Segment} {sent : List Segment}
  {B : List UInt8} {hi : Nat} {c : Connection σ κ} {f : Mbuf}

/-- Taking a packet in and handing it over puts the calls at the end of the stream. -/
theorem Streams.handOver
    (h : Streams synAck B hi (c.acknowledge conCtl f.swapped f.tcp) sent)
    (hn : Numbers B (c.acknowledge conCtl f.swapped f.tcp))
    (hB : (B ++ (delivered proto conCtl c f).calls.flatMap IfaceCall.bytes).length < 2 ^ 32) :
    Streams synAck (B ++ (delivered proto conCtl c f).calls.flatMap IfaceCall.bytes) hi
        (atSend proto conCtl c f) sent ∧
      Numbers (B ++ (delivered proto conCtl c f).calls.flatMap IfaceCall.bytes)
        (atSend proto conCtl c f) := by
  obtain ⟨n, b, hadv⟩ := (c.acknowledge conCtl f.swapped f.tcp).advance_frame f.swapped
    sizeofEthernet f.tcp
  unfold atSend
  refine Streams.calls _ (h.congr ?_ ?_) (hn.congr ?_) hB <;> rw [hadv]

variable {proto}

theorem Streams.sendOut (h : Streams synAck B hi (atSend proto conCtl c f) sent)
    (hwhole : Whole (maxSend conCtl (atSend proto conCtl c f)).toNat
      (atSend proto conCtl c f).dataToSend) :
    ∃ sent', Streams synAck B hi (transmitted proto conCtl c f).1 sent' :=
  h.transmit conCtl _ _ _ hwhole

theorem transmitted_seqLocal :
    (transmitted proto conCtl c f).1.seqLocal = (atSend proto conCtl c f).seqLocal := by
  obtain ⟨q, l, i, k, h⟩ := transmit_frame conCtl (atSend proto conCtl c f)
    (pktAtSend conCtl c f) f.tcp
    (!decide (payloadLen (pktAtSend conCtl c f).data sizeofEthernet f.tcp > 0))
  unfold transmitted
  rw [h]

end send

/-! ### The run -/

/-- The segments of a session are those of the stream, and while it is in `est` the stream goes
on at `seqLocal`. -/
structure Ledger (synAck : Segment) (hi : Nat) (s : Session σ κ) (sent : List Segment) : Prop where
  streams : Streams synAck s.stream hi s.conn sent
  numbers : s.state = States.est → Numbers s.stream s.conn

section packet

variable (proto : Proto σ) (conCtl : ConCtl κ) {s : Session σ κ} {f : Mbuf}

theorem Session.packet_of_bad (h : badFlags f.swapped f.tcp = true) :
    (s.packet proto conCtl f).conn = s.conn ∧ (s.packet proto conCtl f).state = States.END ∧
      (s.packet proto conCtl f).stream = s.stream ∧ (s.packet proto conCtl f).acked = s.acked := by
  unfold packet
  dsimp only
  rw [runEst_of_bad proto conCtl s.conn h, if_pos h]
  exact ⟨rfl, rfl, List.append_nil _, rfl⟩

theorem Session.packet_of_unexpected (hflags : badFlags f.swapped f.tcp = false)
    (hseq : Tcp.getSeq f.swapped f.tcp ≠ s.conn.seqRemote) :
    (s.packet proto conCtl f).conn = s.conn.acknowledge conCtl f.swapped f.tcp ∧
      (s.packet proto conCtl f).state = s.state ∧
      (s.packet proto conCtl f).stream = s.stream ∧
      (s.packet proto conCtl f).acked = max s.acked (Tcp.getAck f.swapped f.tcp) := by
  unfold packet
  dsimp only
  rw [runEst_of_unexpected proto conCtl hflags hseq, if_neg (by simp [hflags])]
  exact ⟨rfl, rfl, List.append_nil _, rfl⟩

theorem Session.packet_of_expected (h : Expected s.conn f) :
    (s.packet proto conCtl f).stream
        = s.stream ++ (delivered proto conCtl s.conn f).calls.flatMap IfaceCall.bytes ∧
      (s.packet proto conCtl f).acked = max s.acked (Tcp.getAck f.swapped f.tcp) ∧
      ∃ n, (s.packet proto conCtl f).conn
          = { (transmitted proto conCtl s.conn f).1 with seqLocal := n } ∧
        ((s.packet proto conCtl f).state = States.est →
          n = (transmitted proto conCtl s.conn f).1.seqLocal) := by
  obtain ⟨n, hconn, hn⟩ := finish_conn (transmitted proto conCtl s.conn f).1
    (transmitted proto conCtl s.conn f).2 (delivered proto conCtl s.conn f)
  unfold packet
  dsimp only
  rw [runEst_eq_finish proto conCtl h, if_neg (by simp [h.1]), finish_stream]
  refine ⟨rfl, rfl, n, hconn, fun hest => hn fun hc => ?_⟩
  rw [hc] at hest
  exact absurd (show States.ack_fin = States.est from hest) (by decide)

end packet

section run

variable {proto : Proto σ} {conCtl : ConCtl κ} {synAck : Segment} {s : Session σ κ} {f : Mbuf}
  {sent : List Segment}

/-- **One packet** keeps the ledger, when no segment is split and what it erases is below
`hi'`. -/
theorem Ledger.packet {hi hi' : Nat} (h : Ledger synAck hi s sent) (h0 : synAck.seqNumber = 0)
    (hest : s.state = States.est) (hle : hi ≤ hi')
    (hgone : badFlags f.swapped f.tcp = false → Gone hi' sent (Tcp.getAck f.swapped f.tcp))
    (hsplit : Unsplit proto conCtl s.conn f)
    (hB : (s.packet proto conCtl f).stream.length < 2 ^ 32) :
    ∃ sent', Ledger synAck hi' (s.packet proto conCtl f) sent' := by
  rcases runEst_cases s.conn f with hbad | ⟨hflags, hseq⟩ | he
  · obtain ⟨hconn, hstate, hstream, -⟩ := Session.packet_of_bad proto conCtl (s := s) hbad
    refine ⟨sent, ?_, ?_⟩
    · rw [hconn, hstream]
      exact ⟨h.streams.already, h.streams.intact.erase (List.Sublist.refl _) hle
        fun seg hseg hno => absurd hseg hno⟩
    · rw [hstate]
      exact fun hc => absurd hc (by decide)
  · obtain ⟨hconn, hstate, hstream, -⟩ := Session.packet_of_unexpected proto conCtl hflags hseq
    obtain ⟨sent', h'⟩ := h.streams.acknowledge h0 hle (hgone hflags) conCtl
    obtain ⟨q, l, w, k, hack⟩ := s.conn.acknowledge_frame conCtl f.swapped f.tcp
    refine ⟨sent', ?_, ?_⟩
    · rw [hconn, hstream]
      exact h'
    · intro _
      rw [hstream]
      refine (h.numbers hest).congr ?_
      rw [hconn, hack]
  · obtain ⟨hstream, -, n, hconn, hn⟩ := Session.packet_of_expected proto conCtl he
    rw [hstream] at hB
    obtain ⟨sent₁, h₁⟩ := h.streams.acknowledge h0 hle (hgone he.1) conCtl
    obtain ⟨q, l, w, k, hack⟩ := s.conn.acknowledge_frame conCtl f.swapped f.tcp
    have hnum : Numbers s.stream (s.conn.acknowledge conCtl f.swapped f.tcp) :=
      (h.numbers hest).congr (by rw [hack])
    obtain ⟨h₂, hnum₂⟩ := h₁.handOver proto hnum hB
    obtain ⟨sent₃, h₃⟩ := h₂.sendOut (hsplit he)
    refine ⟨sent₃, ?_, ?_⟩
    · rw [hstream]
      refine h₃.congr ?_ ?_ <;> rw [hconn]
    · intro hest'
      rw [hstream]
      refine hnum₂.congr ?_
      rw [hconn]
      exact (hn hest').trans transmitted_seqLocal

/-- The highest ACK number only grows, and covers that of the packet. -/
theorem Session.le_acked_packet : s.acked.toNat ≤ (s.packet proto conCtl f).acked.toNat ∧
    (badFlags f.swapped f.tcp = false →
      (Tcp.getAck f.swapped f.tcp).toNat ≤ (s.packet proto conCtl f).acked.toNat) := by
  show s.acked.toNat ≤ UInt32.toNat (if badFlags f.swapped f.tcp then s.acked
      else max s.acked (Tcp.getAck f.swapped f.tcp)) ∧
    (_ → _ ≤ UInt32.toNat (if badFlags f.swapped f.tcp then s.acked
      else max s.acked (Tcp.getAck f.swapped f.tcp)))
  cases hf : badFlags f.swapped f.tcp with
  | true => exact ⟨Nat.le_refl _, fun hc => absurd hc (by simp)⟩
  | false =>
      rw [if_neg (by simp), UInt32.max_def]
      split
      · rename_i hle
        exact ⟨UInt32.le_iff_toNat_le.mp hle, fun _ => Nat.le_refl _⟩
      · rename_i hle
        rw [UInt32.le_iff_toNat_le] at hle
        exact ⟨Nat.le_refl _, fun _ => by omega⟩

end run

/-- What `runSynAck` stores: the frame it sends, with the number 0, if anything. -/
theorem Session.accept_conn (proto : Proto σ) (conCtl : ConCtl κ) (syn : Mbuf) :
    (Session.accept proto conCtl syn).conn.dataToSend = [] ∧
      (((Session.accept proto conCtl syn).state ≠ States.est ∧
          (Session.accept proto conCtl syn).conn.dataAlreadySent = []) ∨
        ∃ synAck, (Session.accept proto conCtl syn).conn.dataAlreadySent = [synAck] ∧
          synAck.seqNumber = 0 ∧ 0 < synAck.dataLen.toNat ∧
          (Session.accept proto conCtl syn).conn.seqLocal = 1) := by
  unfold accept runSynAck
  dsimp only
  split
  · exact ⟨rfl, Or.inl ⟨show States.END ≠ States.est by decide, rfl⟩⟩
  · exact ⟨rfl, Or.inr ⟨_, rfl, rfl, show 0 < (frameLen 0).toNat by decide, rfl⟩⟩

/-- A connection starts with an empty stream. -/
theorem Session.accept_ledger (proto : Proto σ) (conCtl : ConCtl κ) (syn : Mbuf)
    {synAck : Segment} (ha : (Session.accept proto conCtl syn).conn.dataAlreadySent = [synAck])
    (hseq : (Session.accept proto conCtl syn).conn.seqLocal = 1) (hi : Nat) :
    Ledger synAck hi (Session.accept proto conCtl syn) [] := by
  refine ⟨⟨Or.inr ha, ?_⟩, fun _ => ?_⟩
  · rw [(Session.accept_conn proto conCtl syn).1]
    exact .nil hi
  · unfold Numbers
    rw [hseq]
    rfl

/-- The segments of a session, other than those its handshake stored. -/
def Session.segments (s₀ s : Session σ κ) : List Segment :=
  s.conn.dataAlreadySent.diff s₀.conn.dataAlreadySent ++ s.conn.dataToSend

theorem Ledger.intact {synAck : Segment} {hi : Nat} {s₀ s : Session σ κ} {sent : List Segment}
    (h : Ledger synAck hi s sent) (hs₀ : s₀.conn.dataAlreadySent = [synAck])
    (h0 : synAck.seqNumber = 0) (hlen : 0 < synAck.dataLen.toNat) :
    Intact s.stream hi (s₀.segments s) := by
  have hdiff : s.conn.dataAlreadySent.diff s₀.conn.dataAlreadySent = sent := by
    rw [hs₀, List.diff_cons, List.diff_nil]
    rcases h.streams.already with ha | ha
    · rw [ha]
      refine List.erase_of_not_mem fun hmem => ?_
      have hin := (h.streams.intact.holds _ (List.mem_append_left _ hmem)).inside hlen
      rw [h0] at hin
      exact absurd hin.1 (by decide)
    · rw [ha, List.erase_cons_head]
  unfold Session.segments
  rw [hdiff]
  exact h.streams.intact

/-- What a packet must not do: acknowledge anything while a segment ends at `2 ^ 32`, or open
the window up to the middle of a segment. -/
def Lossless (proto : Proto σ) (conCtl : ConCtl κ) (c : Connection σ κ) (f : Mbuf) : Prop :=
  badFlags f.swapped f.tcp = false →
    EndsBelow c (Tcp.getAck f.swapped f.tcp) ∧ Unsplit proto conCtl c f

/--
**The send stream stays intact** in every run of lossless packets.

Whatever the protocol and the congestion control do, and with fewer than `2 ^ 32`
bytes passed to `sendData`: the segments, other than the stored SYN-ACK, hold what
their numbers promise, do not overlap, and have every byte at or above the highest
ACK number.
-/
theorem Session.Run.stream_intact (proto : Proto σ) (conCtl : ConCtl κ) (syn : Mbuf)
    {s : Session σ κ} (hrun : Session.Run proto conCtl
      (fun s f => Lossless proto conCtl s.conn f) (Session.accept proto conCtl syn) s)
    (hB : s.stream.length < 2 ^ 32) :
    Intact s.stream s.acked.toNat ((Session.accept proto conCtl syn).segments s) := by
  obtain ⟨hq, ⟨hend, ha⟩ | ⟨synAck, ha, h0, hlen, hseq⟩⟩ := Session.accept_conn proto conCtl syn
  · obtain rfl := hrun.eq_of_ne_est hend
    unfold Session.segments
    rw [hq, ha]
    exact .nil 0
  · have hledger : ∃ sent, Ledger synAck s.acked.toNat s sent := by
      induction hrun with
      | refl => exact ⟨[], Session.accept_ledger proto conCtl syn ha hseq _⟩
      | step f hrun hest hok ih =>
          have hB' := hB
          simp only [Session.packet, List.length_append] at hB'
          obtain ⟨sent, hl⟩ := ih (by omega)
          obtain ⟨hle, hack⟩ := Session.le_acked_packet
          exact hl.packet h0 hest hle
            (fun hflags => (hl.streams.gone (by omega) (hok hflags).1).mono (hack hflags))
            (fun he => (hok he.1).2 he) hB
    obtain ⟨sent, hl⟩ := hledger
    exact hl.intact ha h0 hlen

/-! ### A split segment is lost -/

/-- Two bytes, from a peer that has room for one. -/
def narrowFrame : Mbuf :=
  .ofBytes (List.replicate 14 0 ++ ipv4Bytes 42 ++ tcpBytes 8 1 0x50 0x10 1 ++ [104, 105])

theorem lossless_helloFrame : Lossless TcpProtoJoke TcpConCtlSimple opened.conn helloFrame := by
  intro _
  refine ⟨?_, fun _ => ?_⟩
  · unfold EndsBelow
    decide
  · have hq : (atSend TcpProtoJoke TcpConCtlSimple opened.conn helloFrame).dataToSend
        = [⟨[104, 105], 1, 2⟩] := by decide
    rw [hq]
    exact .fits (by decide) (.all _)

/-- The joke server after the first data segment. -/
theorem Session.Run.stream_intact_hello :
    Intact [104, 105] 1
      (opened.segments (opened.packet TcpProtoJoke TcpConCtlSimple helloFrame)) :=
  Session.Run.stream_intact TcpProtoJoke TcpConCtlSimple synFrame
    (.step helloFrame .refl (by decide) lossless_helloFrame) (by decide)

/-- With a window of one byte the joke server loses both bytes it has to send. -/
theorem stream_not_intact :
    let s := opened.packet TcpProtoJoke TcpConCtlSimple narrowFrame
    s.stream = [104, 105] ∧ ¬ Intact s.stream s.acked.toNat (opened.segments s) := by
  refine ⟨by decide, fun h => ?_⟩
  have hlost : ∀ seg ∈ opened.segments (opened.packet TcpProtoJoke TcpConCtlSimple narrowFrame),
      ¬ seg.Covers 1 := by decide
  obtain ⟨seg, hseg, hc⟩ := h.covers 1 (by decide) (by decide) (by decide)
  exact hlost seg hseg hc

end MoonState.TCP
