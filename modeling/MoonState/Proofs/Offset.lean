/-
Sequence numbers on a circle.

A sequence number counts from an arbitrary start, so adding the same offset to all
of them should change nothing.  The three comparisons that process an ACK are the
plain unsigned ones, though: `ack > seqNumber + dataLen` erases a segment,
`ack < seqLocal` makes an ACK a duplicate, `seqNumber > resetSeq` puts a segment
back.  Such a comparison keeps its outcome under an offset unless the offset
carries exactly one of two different numbers over 2^32: `Crosses`.
-/
import Mathlib.Algebra.GroupWithZero.Nat
import MoonState.Proofs.Tcp

/-! ### Comparing after an offset -/

namespace UInt32

/-- The offset carries the number over 2^32. -/
def Wraps (k a : UInt32) : Prop := 2 ^ 32 ≤ a.toNat + k.toNat

instance (k a : UInt32) : Decidable (Wraps k a) := inferInstanceAs (Decidable (_ ≤ _))

/-- The offset carries one of two numbers over 2^32, and not the other. -/
def Crosses (k a b : UInt32) : Prop := a ≠ b ∧ ¬ (Wraps k a ↔ Wraps k b)

instance (k a b : UInt32) : Decidable (Crosses k a b) := inferInstanceAs (Decidable (_ ∧ _))

/-- An offset keeps the order of two numbers, or it separates them. -/
theorem add_lt_add_iff_not_crosses (k a b : UInt32) :
    (a + k < b + k ↔ a < b) ↔ ¬ Crosses k a b := by
  have ha := a.toNat_lt
  have hb := b.toNat_lt
  have hk := k.toNat_lt
  have heq : a = b ↔ a.toNat = b.toNat := UInt32.toNat_inj.symm
  unfold Crosses Wraps
  rw [UInt32.lt_iff_toNat_lt, UInt32.lt_iff_toNat_lt, UInt32.toNat_add, UInt32.toNat_add, Ne, heq]
  by_cases hwa : 2 ^ 32 ≤ a.toNat + k.toNat
  · by_cases hwb : 2 ^ 32 ≤ b.toNat + k.toNat <;> omega
  · by_cases hwb : 2 ^ 32 ≤ b.toNat + k.toNat <;> omega

end UInt32

/-- A list is filtered alike before and after an injective map, if each element is. -/
theorem List.filter_map_eq_map_filter_iff {α : Type} {f : α → α} (hf : Function.Injective f)
    {p q : α → Bool} {l : List α} :
    (l.map f).filter p = (l.filter q).map f ↔ ∀ x ∈ l, p (f x) = q x := by
  rw [List.filter_map, List.map_inj_right (fun x y h => hf h)]
  constructor
  · intro h x hx
    have hmem : x ∈ l.filter (p ∘ f) ↔ x ∈ l.filter q := by rw [h]
    rw [List.mem_filter, List.mem_filter] at hmem
    rw [Bool.eq_iff_iff]
    exact ⟨fun hp => (hmem.mp ⟨hx, hp⟩).2, fun hq => (hmem.mpr ⟨hx, hq⟩).2⟩
  · exact fun h => List.filter_congr h

namespace MoonState.TCP

open Headers UInt32

variable {σ : Type}

/-! ### The same connection, counted from elsewhere -/

def Segment.shift (k : UInt32) (s : Segment) : Segment := { s with seqNumber := s.seqNumber + k }

def AckCount.shift (k : UInt32) (a : AckCount) : AckCount := { a with lastAck := a.lastAck + k }

def Connection.shift (k : UInt32) (c : Connection σ AckCount) : Connection σ AckCount :=
  { c with
    seqLocal := c.seqLocal + k
    dataToSend := c.dataToSend.map (Segment.shift k)
    dataAlreadySent := c.dataAlreadySent.map (Segment.shift k)
    conCtl := c.conCtl.shift k }

/-- The number after a segment, as the code adds it up. -/
def Segment.next (s : Segment) : UInt32 := s.seqNumber + s.dataLen.toUInt32

theorem Segment.shift_injective (k : UInt32) : Function.Injective (Segment.shift k) := by
  intro s t h
  have hseq := congrArg Segment.seqNumber h
  have hlen := congrArg Segment.dataLen h
  have hdata := congrArg Segment.data h
  cases s
  cases t
  simp only [shift, UInt32.add_left_inj] at hseq hlen hdata
  rw [hseq, hlen, hdata]

theorem Segment.next_shift (k : UInt32) (s : Segment) : (s.shift k).next = s.next + k := by
  show s.seqNumber + k + s.dataLen.toUInt32 = s.seqNumber + s.dataLen.toUInt32 + k
  rw [UInt32.add_assoc, UInt32.add_comm k, UInt32.add_assoc]

/-! ### What an ACK decides -/

/-- `TcpConCtlSimple` counts the ACK as a duplicate. -/
def Connection.Duplicate (c : Connection σ AckCount) (ack : UInt32) : Prop :=
  c.conCtl.lastAck = ack ∧ ack < c.seqLocal

instance (c : Connection σ AckCount) (ack : UInt32) : Decidable (c.Duplicate ack) :=
  inferInstanceAs (Decidable (_ ∧ _))

/-- Where to go back to, if the ACK triggers a reset. -/
def Connection.resetSeq (c : Connection σ AckCount) (ack : UInt32) : Option UInt32 :=
  (TcpConCtlSimple.reset (TcpConCtlSimple.handlePacket c.conCtl c.seqLocal ack)).1

/-- The two lists of segments after the ACK. -/
def Connection.processAck (c : Connection σ AckCount) (ack : UInt32) : Connection σ AckCount :=
  (c.eraseAcked ack).control TcpConCtlSimple ack

/-- That is what `runEst` does with an ACK number, but for the window. -/
theorem Connection.acknowledge_eq (c : Connection σ AckCount) (m : Mem) (tcp : Nat) :
    c.acknowledge TcpConCtlSimple m tcp
      = { c.processAck (Tcp.getAck m tcp) with sendWindow := Tcp.getWindow m tcp } :=
  rfl

/-- An ACK decides the same when every number is `k` further on. -/
structure Connection.Independent (c : Connection σ AckCount) (ack k : UInt32) : Prop where
  erased : ((c.shift k).eraseAcked (ack + k)).dataAlreadySent
    = (c.eraseAcked ack).dataAlreadySent.map (Segment.shift k)
  duplicate : (c.shift k).Duplicate (ack + k) ↔ c.Duplicate ack
  reset : ((c.shift k).resetSeq (ack + k)).isSome = (c.resetSeq ack).isSome
  sent : ((c.shift k).processAck (ack + k)).dataAlreadySent
    = (c.processAck ack).dataAlreadySent.map (Segment.shift k)
  queued : ((c.shift k).processAck (ack + k)).dataToSend
    = (c.processAck ack).dataToSend.map (Segment.shift k)

/-- No comparison of the ACK is between numbers that the offset separates. -/
structure Connection.Together (c : Connection σ AckCount) (ack k : UInt32) : Prop where
  /-- the one that erases -/
  erase : ∀ seg ∈ c.dataAlreadySent, ¬ Crosses k seg.next ack
  /-- the one for duplicates, if it is made -/
  duplicate : c.conCtl.lastAck = ack → ¬ Crosses k ack c.seqLocal
  /-- the one that puts a segment back, on the fourth ACK of this number -/
  resend : c.Duplicate ack → 3 ≤ c.conCtl.alreadySeen + 1 →
    ∀ seg ∈ c.dataAlreadySent, ¬ ack > seg.next → ¬ Crosses k ack seg.seqNumber

/-! ### Each decision by itself -/

namespace Connection

variable {c : Connection σ AckCount} {ack k : UInt32}

theorem erased_iff : ((c.shift k).eraseAcked (ack + k)).dataAlreadySent
      = (c.eraseAcked ack).dataAlreadySent.map (Segment.shift k) ↔
    ∀ seg ∈ c.dataAlreadySent, ¬ Crosses k seg.next ack := by
  refine (List.filter_map_eq_map_filter_iff (Segment.shift_injective k)).trans ?_
  refine forall₂_congr fun seg _ => ?_
  rw [← add_lt_add_iff_not_crosses, ← Segment.next_shift, Bool.not_eq_eq_eq_not, Bool.not_not,
    decide_eq_decide]
  rfl

theorem duplicate_iff : ((c.shift k).Duplicate (ack + k) ↔ c.Duplicate ack) ↔
    (c.conCtl.lastAck = ack → ¬ Crosses k ack c.seqLocal) := by
  have hlast : (c.shift k).Duplicate (ack + k) ↔
      c.conCtl.lastAck = ack ∧ ack + k < c.seqLocal + k := and_congr_left' (UInt32.add_left_inj k)
  rw [hlast, ← add_lt_add_iff_not_crosses]
  exact and_congr_right_iff

/-- A reset goes back to the ACK that triggered it. -/
theorem resetSeq_eq : c.resetSeq ack
    = if c.Duplicate ack ∧ 3 ≤ c.conCtl.alreadySeen + 1 then some ack else none := by
  show (TcpConCtlSimple.reset (if c.Duplicate ack then _ else _)).1 = _
  by_cases hdup : c.Duplicate ack
  · rw [if_pos hdup]
    by_cases hseen : 3 ≤ c.conCtl.alreadySeen + 1
    · rw [if_pos ⟨hdup, hseen⟩, ← hdup.1]
      exact congrArg Prod.fst (if_pos hseen)
    · rw [if_neg (fun h => hseen h.2)]
      exact congrArg Prod.fst (if_neg hseen)
  · rw [if_neg hdup, if_neg (fun h => hdup h.1)]
    rfl

theorem reset_eq (h : (c.shift k).Duplicate (ack + k) ↔ c.Duplicate ack) :
    (c.shift k).resetSeq (ack + k) = (c.resetSeq ack).map (· + k) := by
  rw [resetSeq_eq, resetSeq_eq]
  have hiff : ((c.shift k).Duplicate (ack + k) ∧ 3 ≤ (c.shift k).conCtl.alreadySeen + 1) ↔
      (c.Duplicate ack ∧ 3 ≤ c.conCtl.alreadySeen + 1) := and_congr_left' h
  by_cases hr : c.Duplicate ack ∧ 3 ≤ c.conCtl.alreadySeen + 1
  · rw [if_pos hr, if_pos (hiff.mpr hr)]
    rfl
  · rw [if_neg hr, if_neg (fun h => hr (hiff.mp h))]
    rfl

theorem processAck_of_none (h : c.resetSeq ack = none) :
    (c.processAck ack).dataAlreadySent = (c.eraseAcked ack).dataAlreadySent ∧
      (c.processAck ack).dataToSend = c.dataToSend := by
  unfold resetSeq at h
  unfold processAck control
  rw [show TcpConCtlSimple.reset (TcpConCtlSimple.handlePacket (c.eraseAcked ack).conCtl
    (c.eraseAcked ack).seqLocal ack) = (none, _) from Prod.ext h rfl]
  exact ⟨rfl, rfl⟩

theorem processAck_of_some {r : UInt32} (h : c.resetSeq ack = some r) :
    (c.processAck ack).dataAlreadySent = (c.eraseAcked ack).dataAlreadySent.filter
        (fun seg => !decide (seg.seqNumber > r)) ∧
      (c.processAck ack).dataToSend = ((c.eraseAcked ack).dataAlreadySent.filter
        (fun seg => decide (seg.seqNumber > r))).reverse ++ c.dataToSend := by
  unfold resetSeq at h
  unfold processAck control
  rw [show TcpConCtlSimple.reset (TcpConCtlSimple.handlePacket (c.eraseAcked ack).conCtl
    (c.eraseAcked ack).seqLocal ack) = (some r, _) from Prod.ext h rfl]
  exact ⟨rfl, rfl⟩

/-- What is still on the list of sent segments was not erased. -/
theorem mem_eraseAcked {seg : Segment} : seg ∈ (c.eraseAcked ack).dataAlreadySent ↔
    seg ∈ c.dataAlreadySent ∧ ¬ ack > seg.next := by
  refine List.mem_filter.trans (and_congr_right fun _ => ?_)
  rw [Bool.not_eq_true', decide_eq_false_iff_not]
  rfl

/-! ### All of them -/

/-- The segments a reset at `ack` puts back, before and after the offset. -/
theorem resend_iff {l : List Segment} : (∀ seg ∈ l, decide ((seg.shift k).seqNumber > ack + k)
      = decide (seg.seqNumber > ack)) ↔ ∀ seg ∈ l, ¬ Crosses k ack seg.seqNumber := by
  refine forall₂_congr fun seg _ => ?_
  rw [← add_lt_add_iff_not_crosses, decide_eq_decide]
  rfl

theorem Together.independent (h : c.Together ack k) : c.Independent ack k := by
  have herased := erased_iff.mpr h.erase
  have hdup := duplicate_iff.mpr h.duplicate
  have hreset := reset_eq hdup
  cases hr : c.resetSeq ack with
  | none =>
      rw [hr] at hreset
      obtain ⟨hsent, hqueued⟩ := processAck_of_none hr
      obtain ⟨hsent', hqueued'⟩ := processAck_of_none hreset
      refine ⟨herased, hdup, by rw [hreset, hr]; rfl, ?_, ?_⟩
      · rw [hsent', hsent, herased]
      · rw [hqueued', hqueued]
        rfl
  | some r =>
      rw [hr] at hreset
      have htrig : (c.Duplicate ack ∧ 3 ≤ c.conCtl.alreadySeen + 1) ∧ ack = r := by
        rw [resetSeq_eq] at hr
        split at hr
        · rename_i hc
          exact ⟨hc, Option.some.inj hr⟩
        · simp at hr
      obtain ⟨⟨hd, hseen⟩, rfl⟩ := htrig
      have hput := resend_iff.mpr fun seg hseg =>
        h.resend hd hseen seg (mem_eraseAcked.mp hseg).1 (mem_eraseAcked.mp hseg).2
      obtain ⟨hsent, hqueued⟩ := processAck_of_some hr
      obtain ⟨hsent', hqueued'⟩ := processAck_of_some hreset
      refine ⟨herased, hdup, by rw [hreset, hr]; rfl, ?_, ?_⟩
      · rw [hsent', hsent, herased]
        refine (List.filter_map_eq_map_filter_iff (Segment.shift_injective k)).mpr ?_
        exact fun seg hseg => congrArg (!·) (hput seg hseg)
      · rw [hqueued', hqueued, herased, List.map_append, List.map_reverse]
        congr 2
        exact (List.filter_map_eq_map_filter_iff (Segment.shift_injective k)).mpr hput

theorem Independent.together (h : c.Independent ack k) : c.Together ack k := by
  refine ⟨erased_iff.mp h.erased, duplicate_iff.mp h.duplicate, ?_⟩
  intro hd hseen seg hmem hkeep
  have hr : c.resetSeq ack = some ack := by rw [resetSeq_eq, if_pos ⟨hd, hseen⟩]
  have hreset : (c.shift k).resetSeq (ack + k) = some (ack + k) := by
    rw [reset_eq h.duplicate, hr]
    rfl
  have hsent := h.sent
  rw [(processAck_of_some hreset).1, (processAck_of_some hr).1, h.erased,
    List.filter_map_eq_map_filter_iff (Segment.shift_injective k)] at hsent
  refine resend_iff.mp (fun s hs => ?_) seg (mem_eraseAcked.mpr ⟨hmem, hkeep⟩)
  rw [← Bool.not_not (decide _), hsent s hs, Bool.not_not]

/--
**When ACK processing does not depend on where the numbers start.**

Shifting `seqLocal`, all segments, `lastAck` and the ACK number by `k` leaves the erased
segments, the duplicate count, the reset and the segments it puts back what they were exactly
when none of the comparisons made is between two different numbers of which `k` carries just
one over 2^32.
-/
theorem independent_iff (c : Connection σ AckCount) (ack k : UInt32) :
    c.Independent ack k ↔ c.Together ack k :=
  ⟨Independent.together, Together.independent⟩

end Connection

/-! ### A segment that is acknowledged by a smaller number -/

/-- Two segments of ten bytes are in flight, from 100 and from 110 on. -/
def twoSegments : Connection Unit AckCount :=
  { factory TcpProtoJoke TcpConCtlSimple with
    seqLocal := 120
    dataAlreadySent := [⟨List.replicate 10 0, 100, 10⟩, ⟨List.replicate 10 0, 110, 10⟩]
    conCtl := ⟨99, 0⟩ }

/-- The peer acknowledges both, and the first is erased.  When all numbers are 2^32 - 120 further
on, the ACK number is 0, and nothing is. -/
theorem seqSpace_not_independent :
    (twoSegments.dataAlreadySent.map fun seg => seg.dataLen.toNat).sum < 2 ^ 31 ∧
      ¬ twoSegments.Independent 120 (0 - 120) := by
  refine ⟨by decide, fun h => ?_⟩
  exact absurd (congrArg List.length h.erased) (by decide)

end MoonState.TCP
