/-
`sendData` cuts the stream into segments.

`Segmented` says what a call leaves: new segments at the end of the queue, whose bytes
are those of the buffer and whose numbers go on from one to the next.  Putting one
segment at the end is such a call, and two of them in a row are one; so the loop, which
puts one segment a pass, is one by induction on what is left of the buffer.

The counter never exceeds `dataLen`.  So the integers of the source count like the
natural numbers of `Connection.sendData`, and both do the same.
-/
import MoonState.Lib.Steps
import MoonState.Model.SendData

namespace MoonState.TCP

variable {σ κ : Type} {c c' c'' : Connection σ κ} {data bs bs' : List UInt8}
  {segs segs' : List Segment}

/-! ### Segments in a row -/

/-- The sequence numbers go from `n` on, without a gap, and `n'` is next. -/
def Contiguous : UInt32 → List Segment → UInt32 → Prop
  | n, [], n' => n = n'
  | n, seg :: segs, n' => seg.seqNumber = n ∧ Contiguous (n + seg.dataLen.toUInt32) segs n'

theorem Contiguous.append {n n' n'' : UInt32} (h : Contiguous n segs n')
    (h' : Contiguous n' segs' n'') : Contiguous n (segs ++ segs') n'' := by
  induction segs generalizing n with
  | nil =>
      obtain rfl : n = n' := h
      exact h'
  | cons seg segs ih => exact ⟨h.1, ih h.2⟩

/-- `c'` is `c` after the bytes `bs` were put at the end, in the segments `segs`. -/
structure Segmented (bs : List UInt8) (segs : List Segment) (c c' : Connection σ κ) : Prop where
  rest : c' = { c with dataToSend := c'.dataToSend, seqLocal := c'.seqLocal }
  dataToSend : c'.dataToSend = c.dataToSend ++ segs
  seqLocal : c'.seqLocal = c.seqLocal + UInt32.ofNat bs.length
  bytes : segs.flatMap Segment.bytes = bs
  short : ∀ seg ∈ segs, seg.bytes.length = seg.dataLen.toNat ∧ seg.bytes.length ≤ MSS
  contiguous : Contiguous c.seqLocal segs c'.seqLocal

namespace Segmented

theorem refl (c : Connection σ κ) : Segmented [] [] c c where
  rest := rfl
  dataToSend := by simp
  seqLocal := by simp
  bytes := rfl
  short := by simp
  contiguous := rfl

theorem trans (h : Segmented bs segs c c') (h' : Segmented bs' segs' c' c'') :
    Segmented (bs ++ bs') (segs ++ segs') c c'' where
  rest := by
    rw [h'.rest, h.rest]
  dataToSend := by rw [h'.dataToSend, h.dataToSend, List.append_assoc]
  seqLocal := by
    rw [h'.seqLocal, h.seqLocal, List.length_append, UInt32.ofNat_add, UInt32.add_assoc]
  bytes := by rw [List.flatMap_append, h.bytes, h'.bytes]
  short := by
    intro seg hseg
    rcases List.mem_append.mp hseg with hseg | hseg
    · exact h.short seg hseg
    · exact h'.short seg hseg
  contiguous := h.contiguous.append h'.contiguous

end Segmented

/-- One segment. -/
theorem Connection.pushSegment_segmented (c : Connection σ κ) (data : List UInt8) {len : UInt32}
    (hle : len.toNat ≤ data.length) (hmss : len.toNat ≤ MSS) :
    ∃ segs, Segmented (data.take len.toNat) segs c (c.pushSegment data len) := by
  have hnarrow : len.toUInt16.toNat = len.toNat := by
    rw [UInt32.toNat_toUInt16]
    unfold MSS at hmss
    omega
  have hlen : (data.take len.toNat).length = len.toNat := by simp [hle]
  have hbytes : Segment.bytes ⟨data, c.seqLocal, len.toUInt16⟩ = data.take len.toNat := by
    unfold Segment.bytes
    rw [hnarrow]
  refine ⟨[⟨data, c.seqLocal, len.toUInt16⟩], rfl, rfl, ?_, ?_, ?_, rfl, ?_⟩
  · rw [hlen, UInt32.ofNat_toNat]
    rfl
  · simp [hbytes]
  · intro seg hseg
    obtain rfl := List.mem_singleton.mp hseg
    rw [hbytes, hlen]
    exact ⟨hnarrow.symm, hmss⟩
  · show c.seqLocal + len.toUInt16.toUInt32 = c.seqLocal + len
    refine congrArg (c.seqLocal + ·) (UInt32.toNat_inj.mp ?_)
    rw [UInt16.toNat_toUInt32, hnarrow]

/-! ### The loop -/

namespace Cutting

variable {dataLen : UInt32} {s s' : Cutting σ κ}

/-- What is left is cut off, up to a segment's length. -/
theorem toNat_curSize (h : s.totalLen.toNat ≤ dataLen.toNat) :
    (s.curSize dataLen).toNat = min (dataLen.toNat - s.totalLen.toNat) MSS := by
  have hsub : (dataLen - s.totalLen).toNat = dataLen.toNat - s.totalLen.toNat :=
    UInt32.toNat_sub_of_le _ _ (UInt32.le_iff_toNat_le.mpr h)
  have hmss : MSS32.toNat = MSS := rfl
  unfold curSize
  rw [← hsub, ← hmss]
  by_cases hle : dataLen - s.totalLen ≤ MSS32
  · rw [show min (dataLen - s.totalLen) MSS32 = dataLen - s.totalLen from if_pos hle]
    exact (Nat.min_eq_left (UInt32.le_iff_toNat_le.mp hle)).symm
  · rw [show min (dataLen - s.totalLen) MSS32 = MSS32 from if_neg hle]
    rw [UInt32.le_iff_toNat_le] at hle
    omega

/-- The counter does not overflow. -/
theorem toNat_totalLen_pass (data : List UInt8) (h : s.totalLen.toNat ≤ dataLen.toNat) :
    (s.pass data dataLen).totalLen.toNat = s.totalLen.toNat + (s.curSize dataLen).toNat ∧
      s.totalLen.toNat + (s.curSize dataLen).toNat ≤ dataLen.toNat := by
  have hcur := toNat_curSize h
  have hlt := dataLen.toNat_lt
  have hle : s.totalLen.toNat + (s.curSize dataLen).toNat ≤ dataLen.toNat := by omega
  refine ⟨?_, hle⟩
  show (s.totalLen + s.curSize dataLen).toNat = _
  rw [UInt32.toNat_add, Nat.mod_eq_of_lt (by omega)]

/-- It never gets beyond what there is to be sent. -/
theorem totalLen_le (hrun : Steps (Goes data dataLen) s s')
    (h : s.totalLen.toNat ≤ dataLen.toNat) : s'.totalLen.toNat ≤ dataLen.toNat := by
  refine hrun.invariant (P := fun s => s.totalLen.toNat ≤ dataLen.toNat) h fun y _ z hy hstep => ?_
  obtain ⟨-, rfl⟩ := hstep
  obtain ⟨htotal, hle⟩ := toNat_totalLen_pass data hy
  omega

/-- **The loop ends, and has put what was left into segments.** -/
theorem loop_eq (hdata : dataLen.toNat ≤ data.length) (fuel : Nat) :
    ∀ {s : Cutting σ κ}, s.totalLen.toNat ≤ dataLen.toNat →
      dataLen.toNat ≤ s.totalLen.toNat + fuel →
      ∃ s' segs, loop data dataLen fuel s = some s' ∧
        Segmented ((data.take dataLen.toNat).drop s.totalLen.toNat) segs s.conn s'.conn := by
  induction fuel with
  | zero =>
      intro s hle hfuel
      have hend : ¬ s.totalLen < dataLen := by
        rw [UInt32.lt_iff_toNat_lt]
        omega
      refine ⟨s, [], ?_, ?_⟩
      · unfold loop
        rw [if_neg hend]
      · rw [List.drop_eq_nil_of_le (by simp; omega)]
        exact .refl _
  | succ fuel ih =>
      intro s hle hfuel
      by_cases hlt : s.totalLen < dataLen
      · have hcur := toNat_curSize hle
        obtain ⟨htotal, hle'⟩ := toNat_totalLen_pass data hle
        have hpos := UInt32.lt_iff_toNat_lt.mp hlt
        have hmss : MSS = 1460 := rfl
        obtain ⟨s', segs, hs', hsegs⟩ := ih (by rw [htotal]; exact hle') (by rw [htotal]; omega)
        have hfits : (s.curSize dataLen).toNat
            ≤ ((data.drop s.totalLen.toNat).take (s.curSize dataLen).toNat).length := by
          simp
          omega
        obtain ⟨segs₁, hfirst⟩ := s.conn.pushSegment_segmented _ hfits (by omega)
        refine ⟨s', segs₁ ++ segs, ?_, ?_⟩
        · unfold loop
          rw [if_pos hlt]
          exact hs'
        · -- the segment and the rest are what was left
          have hcut : ((data.drop s.totalLen.toNat).take (s.curSize dataLen).toNat).take
              (s.curSize dataLen).toNat ++
              (data.take dataLen.toNat).drop (s.totalLen.toNat + (s.curSize dataLen).toNat)
              = (data.take dataLen.toNat).drop s.totalLen.toNat := by
            have hpart : (data.drop s.totalLen.toNat).take (s.curSize dataLen).toNat
                = ((data.take dataLen.toNat).drop s.totalLen.toNat).take
                    (s.curSize dataLen).toNat := by
              rw [List.drop_take, List.take_take, Nat.min_eq_left (by omega)]
            rw [List.take_take, Nat.min_self, hpart, ← List.drop_drop, List.take_append_drop]
          have hboth := hfirst.trans hsegs
          rw [htotal, hcut] at hboth
          exact hboth
      · refine ⟨s, [], ?_, ?_⟩
        · unfold loop
          rw [if_neg hlt]
        · rw [UInt32.lt_iff_toNat_lt] at hlt
          rw [List.drop_eq_nil_of_le (by simp; omega)]
          exact .refl _

/-- More fuel changes nothing. -/
theorem loop_mono {fuel fuel' : Nat} (h : loop data dataLen fuel s = some s') (hle : fuel ≤ fuel') :
    loop data dataLen fuel' s = some s' := by
  induction fuel generalizing s fuel' with
  | zero =>
      unfold loop at h ⊢
      by_cases hlt : s.totalLen < dataLen
      · simp [hlt] at h
      · rw [if_neg hlt] at h ⊢
        exact h
  | succ fuel ih =>
      obtain ⟨k, rfl⟩ : ∃ k, fuel' = k + 1 := ⟨fuel' - 1, by omega⟩
      unfold loop at h ⊢
      by_cases hlt : s.totalLen < dataLen
      · rw [if_pos hlt] at h ⊢
        exact ih h (by omega)
      · rw [if_neg hlt] at h ⊢
        exact h

/-- The loop in natural numbers does the same. -/
theorem loop_sendRest (hdata : dataLen.toNat = data.length) (fuel : Nat) :
    ∀ {s : Cutting σ κ}, s.totalLen.toNat ≤ dataLen.toNat →
      dataLen.toNat ≤ s.totalLen.toNat + fuel →
      (loop data dataLen fuel s).map Cutting.conn
        = some (Connection.sendRest data fuel s.totalLen.toNat s.conn) := by
  induction fuel with
  | zero =>
      intro s hle hfuel
      have hend : ¬ s.totalLen < dataLen := by
        rw [UInt32.lt_iff_toNat_lt]
        omega
      unfold loop
      rw [if_neg hend]
      rfl
  | succ fuel ih =>
      intro s hle hfuel
      unfold loop Connection.sendRest
      by_cases hlt : s.totalLen < dataLen
      · have hcur := toNat_curSize hle
        obtain ⟨htotal, hle'⟩ := toNat_totalLen_pass data hle
        have hpos := UInt32.lt_iff_toNat_lt.mp hlt
        have hmss : MSS = 1460 := rfl
        have hnext := ih (s := s.pass data dataLen) (by omega) (by omega)
        have hconn : (s.pass data dataLen).conn = s.conn.enqueue
            ((data.drop s.totalLen.toNat).take (s.curSize dataLen).toNat)
            (s.curSize dataLen).toNat := by
          simp [pass, Connection.pushSegment, Connection.enqueue]
        rw [if_pos hlt, if_pos (by omega), ← hdata, ← hcur]
        rw [htotal, hconn] at hnext
        exact hnext
      · rw [UInt32.lt_iff_toNat_lt] at hlt
        rw [if_neg (by rw [UInt32.lt_iff_toNat_lt]; exact hlt), if_neg (by omega)]
        rfl

end Cutting

/-! ### The whole call -/

namespace Connection

theorem toNat_firstSegment (c : Connection σ κ) (data : List UInt8) :
    (c.firstSegment data).totalLen.toNat = MSS := rfl

/-- Where the buffer is no longer than what is sent, this is the `sendData` of the functions. -/
theorem sendBuffer_eq_sendData {dataLen : UInt32} (c : Connection σ κ) (data : List UInt8)
    (h : dataLen.toNat = data.length) :
    c.sendBuffer data dataLen data.length = some (c.sendData data) := by
  have hmss : MSS32.toNat = MSS := rfl
  have hle : dataLen ≤ MSS32 ↔ data.length ≤ MSS := by
    rw [UInt32.le_iff_toNat_le, hmss, h]
  unfold sendBuffer sendData
  by_cases hshort : data.length ≤ MSS
  · rw [if_pos (hle.mpr hshort), if_pos hshort, ← h]
    simp [pushSegment, enqueue]
  · rw [if_neg (fun hc => hshort (hle.mp hc)), if_neg hshort]
    have hfirst := c.toNat_firstSegment data
    rw [Cutting.loop_sendRest h data.length (by omega) (by omega), hfirst]
    rfl

/-- **`sendData` segments the stream.**  It ends, appends the bytes in segments of contiguous
numbers, and its counter does not overflow. -/
theorem sendBuffer_segmented (c : Connection σ κ) (data : List UInt8) (dataLen : UInt32)
    (h : dataLen.toNat ≤ data.length) :
    (∃ c' segs, (∀ fuel, dataLen.toNat ≤ fuel → c.sendBuffer data dataLen fuel = some c') ∧
      Segmented (data.take dataLen.toNat) segs c c' ∧ c'.seqLocal = c.seqLocal + dataLen) ∧
    ∀ s, MSS32 < dataLen → Steps (Cutting.Goes data dataLen) (c.firstSegment data) s →
      s.totalLen < dataLen → s.totalLen.toNat + (s.curSize dataLen).toNat < 2 ^ 32 := by
  have hfirst := c.toNat_firstSegment data
  have hmss : MSS32.toNat = MSS := rfl
  constructor
  · have hseq : ∀ {segs} {c' : Connection σ κ}, Segmented (data.take dataLen.toNat) segs c c' →
        c'.seqLocal = c.seqLocal + dataLen := by
      intro segs c' hsegs
      rw [hsegs.seqLocal, List.length_take, Nat.min_eq_left h, UInt32.ofNat_toNat]
    by_cases hshort : dataLen ≤ MSS32
    · obtain ⟨segs, hsegs⟩ := c.pushSegment_segmented data h
        (by rw [← hmss]; exact UInt32.le_iff_toNat_le.mp hshort)
      refine ⟨_, segs, fun fuel _ => ?_, hsegs, hseq hsegs⟩
      unfold sendBuffer
      rw [if_pos hshort]
    · have hlong : MSS < dataLen.toNat := by
        rw [UInt32.le_iff_toNat_le] at hshort
        omega
      obtain ⟨s', segs, hs', hrest⟩ := Cutting.loop_eq h dataLen.toNat
        (s := c.firstSegment data) (by omega) (by omega)
      have hfits : MSS32.toNat ≤ data.length := by omega
      obtain ⟨segs₁, hone⟩ := c.pushSegment_segmented data hfits (Nat.le_refl _)
      have hall := hone.trans hrest
      have hcut : data.take MSS32.toNat ++ (data.take dataLen.toNat).drop MSS = data.take dataLen.toNat := by
        have hpart : data.take MSS = (data.take dataLen.toNat).take MSS := by
          rw [List.take_take, Nat.min_eq_left (by omega)]
        rw [hmss, hpart, List.take_append_drop]
      refine ⟨s'.conn, segs₁ ++ segs, fun fuel hfuel => ?_, ?_, ?_⟩
      · unfold sendBuffer
        rw [if_neg hshort, Cutting.loop_mono hs' hfuel]
        rfl
      · rw [hfirst, hcut] at hall
        exact hall
      · rw [hfirst, hcut] at hall
        exact hseq hall
  · intro s hlong hrun hlt
    have hlt' := UInt32.lt_iff_toNat_lt.mp hlong
    have hle := Cutting.totalLen_le hrun (by omega)
    have hno := (Cutting.toNat_totalLen_pass data hle).2
    have hbound := dataLen.toNat_lt
    omega

/-- Two segments and a byte, from a buffer that goes on. -/
theorem sendBuffer_segmented_long :
    ∃ c' segs, (factory TcpProtoJoke TcpConCtlSimple).sendBuffer (List.replicate 4000 7) 2921 2921
        = some c' ∧
      Segmented ((List.replicate 4000 7).take 2921) segs (factory TcpProtoJoke TcpConCtlSimple) c' ∧
      c'.seqLocal = 0 + 2921 := by
  have hlen : (2921 : UInt32).toNat ≤ (List.replicate 4000 (7 : UInt8)).length := by
    rw [List.length_replicate]
    decide
  obtain ⟨⟨c', segs, hc', hsegs, hseq⟩, -⟩ := sendBuffer_segmented
    (factory TcpProtoJoke TcpConCtlSimple) (List.replicate 4000 7) 2921 hlen
  exact ⟨c', segs, hc' 2921 (by decide), hsegs, hseq⟩

end Connection

end MoonState.TCP
