/-
What `calcChecksum` computes.

Folding the carry after every word is one's complement addition, so the loop adds up
what it reads.  It reads the words of the header and as many again behind it.  The
words of the header then sum up to all ones exactly if those behind it sum up to a
multiple of 65535, and whatever they sum up to, there are others that give another
checksum.
-/
import MoonState.Lib.OnesComplement
import MoonState.Model.Checksum
import MoonState.Proofs.Headers
import Mathlib.Data.Nat.Bitwise

namespace MoonState.Headers.IPv4

variable {m : Mem} {ip : Nat}

/-! ### The words -/

/-- The `n` words from an address on. -/
def words (m : Mem) (i n : Nat) : List Nat :=
  (List.range n).map fun k => (m.get16 (i + 2 * k)).toNat

theorem length_words (m : Mem) (i n : Nat) : (words m i n).length = n := by
  simp [words]

theorem words_lt (m : Mem) (i n : Nat) : ∀ w ∈ words m i n, w < 2 ^ 16 := by
  intro w hw
  obtain ⟨k, -, rfl⟩ := List.mem_map.mp hw
  exact UInt16.toNat_lt _

theorem words_succ (m : Mem) (i n : Nat) :
    words m i (n + 1) = words m i n ++ [(m.get16 (i + 2 * n)).toNat] := by
  simp [words, List.range_succ]

theorem words_append (m : Mem) (i n k : Nat) :
    words m i (n + k) = words m i n ++ words m (i + 2 * n) k := by
  induction k with
  | zero => simp [words]
  | succ k ih =>
      rw [← Nat.add_assoc, words_succ, ih, words_succ, List.append_assoc]
      have hadd : i + 2 * (n + k) = i + 2 * n + 2 * k := by omega
      rw [hadd]

theorem words_congr {m m' : Mem} {i n : Nat} (h : m.Same m' i (2 * n)) :
    words m' i n = words m i n := by
  refine List.map_congr_left fun k hk => ?_
  have hk := List.mem_range.mp hk
  have hsame : m.Same m' (i + 2 * k) 2 := fun j hj hj' => h j (by omega) (by omega)
  rw [hsame.get16]

/-- To store a number is to change a word. -/
theorem words_set16 (m : Mem) (i n k : Nat) (v : UInt16) :
    words (m.set16 (i + 2 * k) v) i n = (words m i n).set k v.toNat := by
  refine List.ext_getElem (by simp [words]) fun l h h' => ?_
  by_cases hl : k = l
  · simp [words, hl]
  · have hother : (m.set16 (i + 2 * k) v).get16 (i + 2 * l) = m.get16 (i + 2 * l) :=
      Mem.get16_set16_of_ne (by omega)
    simp [words, hl, hother]

/-! ### The loop -/

/-- The bit that is tested is the carry. -/
theorem carry_eq_zero_iff {s : UInt32} (h : s.toNat < 2 ^ 17) :
    s &&& ((1 : UInt32) <<< 16) = 0 ↔ s.toNat < 2 ^ 16 := by
  have hbit : s.toNat &&& 2 ^ 16 = s.toNat / 2 ^ 16 * 2 ^ 16 := by
    rw [Nat.and_two_pow, Nat.testBit_eq_decide_div_mod_eq]
    obtain hzero | hone : s.toNat / 2 ^ 16 = 0 ∨ s.toNat / 2 ^ 16 = 1 := by omega
    · rw [hzero]
      simp
    · rw [hone]
      simp
  have hand : (s &&& ((1 : UInt32) <<< 16)).toNat = s.toNat &&& 2 ^ 16 := UInt32.toNat_and ..
  rw [← UInt32.toNat_inj, hand, hbit]
  show s.toNat / 2 ^ 16 * 2 ^ 16 = 0 ↔ _
  omega

/-- A pass of the loop adds in one's complement. -/
theorem addWord_toNat {result : UInt32} (h : result.toNat < 2 ^ 16) (word : UInt16) :
    (addWord result word).toNat = OnesComplement.add 16 result.toNat word.toNat := by
  have hword : word.toNat < 2 ^ 16 := word.toNat_lt
  have hsum : (result + word.toUInt32).toNat = result.toNat + word.toNat := by
    rw [UInt32.toNat_add, UInt16.toNat_toUInt32]
    exact Nat.mod_eq_of_lt (by omega)
  have hcarry := carry_eq_zero_iff (s := result + word.toUInt32) (by omega)
  have hlow : ((result + word.toUInt32) &&& (0xffff : UInt32)).toNat
      = (result.toNat + word.toNat) % 2 ^ 16 := by
    rw [UInt32.toNat_and, hsum]
    exact Nat.and_two_pow_sub_one_eq_mod _ 16
  rw [hsum] at hcarry
  unfold addWord OnesComplement.add
  rcases Nat.lt_or_ge (result.toNat + word.toNat) (2 ^ 16) with hlt | hge
  · rw [if_pos hlt, ← hsum]
    simp [hcarry.mpr hlt]
  · have hset : (result + word.toUInt32) &&& ((1 : UInt32) <<< 16) ≠ 0 :=
      fun hzero => absurd (hcarry.mp hzero) (Nat.not_lt.mpr hge)
    rw [if_neg (Nat.not_lt.mpr hge)]
    simp only [hset, ne_eq, not_false_eq_true, if_true]
    rw [UInt32.toNat_add, hlow, UInt32.toNat_one]
    omega

theorem addWords_toNat (m : Mem) (ip n : Nat) :
    (addWords m ip n).toNat = OnesComplement.sum 16 (words m ip n) := by
  induction n with
  | zero => simp [addWords, words, OnesComplement.sum]
  | succ n ih =>
      have hlt : (addWords m ip n).toNat < 2 ^ 16 := by
        rw [ih]
        exact OnesComplement.sum_lt (words_lt m ip n)
      have hstep : addWords m ip (n + 1) = addWord (addWords m ip n) (m.get16 (ip + 2 * n)) := by
        simp [addWords, List.range_succ]
      rw [hstep, addWord_toNat hlt, ih, words_succ]
      simp [OnesComplement.sum]

/-! ### The checksum -/

/-- What the loop adds up. -/
def total (m : Mem) (ip : Nat) : Nat :=
  OnesComplement.sum 16 (words (clearChecksum m ip) ip ((ihl m ip).toNat * 4))

theorem ihl_clearChecksum (m : Mem) (ip : Nat) : ihl (clearChecksum m ip) ip = ihl m ip := by
  have h : clearChecksum m ip ip = m ip := Mem.set16_of_ne 0 (by omega)
  rw [ihl, h]
  rfl

theorem total_lt (m : Mem) (ip : Nat) : total m ip < 2 ^ 16 :=
  OnesComplement.sum_lt (words_lt _ _ _)

/-- The complement of the sum, as a word. -/
theorem toNat_complement (m : Mem) (ip : Nat) :
    (UInt16.ofNat (2 ^ 16 - 1 - total m ip)).toNat = 2 ^ 16 - 1 - total m ip :=
  UInt16.toNat_ofNat_of_lt (by simp only [UInt16.size]; omega)

/-- The checksum is the complement of the sum. -/
theorem calcChecksum_eq (m : Mem) (ip : Nat) :
    calcChecksum m ip
      = (clearChecksum m ip).set16 (ip + 10) (UInt16.ofNat (2 ^ 16 - 1 - total m ip)) := by
  have hsum := addWords_toNat (clearChecksum m ip) ip ((ihl m ip).toNat * 4)
  have hlt := total_lt m ip
  have hnot : (~~~addWords (clearChecksum m ip) ip ((ihl m ip).toNat * 4)).toUInt16
      = UInt16.ofNat (2 ^ 16 - 1 - total m ip) := by
    apply UInt16.toNat_inj.mp
    rw [UInt32.toNat_toUInt16, UInt32.toNat_not, hsum, UInt16.toNat_ofNat']
    change (UInt32.size - 1 - total m ip) % _ = _
    simp only [UInt32.size]
    omega
  rw [calcChecksum, ihl_clearChecksum, hnot]

theorem calcChecksum_of_ne {j : Nat} (h : j < ip + 10 ∨ ip + 12 ≤ j) :
    calcChecksum m ip j = m j := by
  rw [calcChecksum_eq, Mem.set16_of_ne _ (by omega)]
  exact Mem.set16_of_ne 0 (by omega)

theorem ihl_calcChecksum (m : Mem) (ip : Nat) : ihl (calcChecksum m ip) ip = ihl m ip := by
  rw [ihl, calcChecksum_of_ne (by omega)]
  rfl

/-- The checksum is the sixth word. -/
theorem words_clearChecksum (m : Mem) (ip n : Nat) :
    words (clearChecksum m ip) ip n = (words m ip n).set 5 0 :=
  words_set16 m ip n 5 0

theorem words_calcChecksum (m : Mem) (ip n : Nat) :
    words (calcChecksum m ip) ip n = (words m ip n).set 5 (2 ^ 16 - 1 - total m ip) := by
  have hset := words_set16 (clearChecksum m ip) ip n 5 (UInt16.ofNat (2 ^ 16 - 1 - total m ip))
  rw [calcChecksum_eq, hset, words_clearChecksum, toNat_complement, List.set_set]

/-- The first word of a header has its IHL. -/
theorem exists_word_pos {n : Nat} (h : 5 ≤ (ihl m ip).toNat) (hn : 0 < n) :
    ∃ w ∈ words m ip n, 0 < w := by
  refine ⟨(m.get16 ip).toNat, List.mem_map.mpr ⟨0, List.mem_range.mpr hn, rfl⟩, ?_⟩
  apply Nat.pos_of_ne_zero
  intro hzero
  have hread := Mem.ofNatBE_get16 m ip
  rw [hzero] at hread
  have hbyte : m ip = 0 := by
    simpa [Mem.read, List.range'_succ, Bytes.ofNatBE] using (congrArg List.head? hread).symm
  rw [ihl, hbyte] at h
  simp at h

/-- The loop adds up the words of the header and as many behind it. -/
theorem total_mod (h : 5 ≤ (ihl m ip).toNat) :
    total m ip % 65535
      = (((words m ip (2 * (ihl m ip).toNat)).set 5 0).sum
          + (words m (ip + 4 * (ihl m ip).toNat) (2 * (ihl m ip).toNat)).sum) % 65535 := by
  have hbehind : (clearChecksum m ip).Same m (ip + 4 * (ihl m ip).toNat)
      (2 * (2 * (ihl m ip).toNat)) := by
    intro j hj _
    exact (Mem.set16_of_ne 0 (by omega)).symm
  have hsplit : words (clearChecksum m ip) ip ((ihl m ip).toNat * 4)
      = (words m ip (2 * (ihl m ip).toNat)).set 5 0
        ++ words m (ip + 4 * (ihl m ip).toNat) (2 * (ihl m ip).toNat) := by
    have hlen : (ihl m ip).toNat * 4 = 2 * (ihl m ip).toNat + 2 * (ihl m ip).toNat := by omega
    have haddr : ip + 2 * (2 * (ihl m ip).toNat) = ip + 4 * (ihl m ip).toNat := by omega
    rw [hlen, words_append, words_clearChecksum, haddr, words_congr hbehind]
  have hmod : total m ip % 65535
      = (words (clearChecksum m ip) ip ((ihl m ip).toNat * 4)).sum % 65535 :=
    OnesComplement.sum_mod 16 _
  rw [hmod, hsplit, List.sum_append]

/-! ### What is asked of it -/

/-- The words of the header in one's complement. -/
def headerSum (m : Mem) (ip : Nat) : Nat :=
  OnesComplement.sum 16 (words m ip (2 * (ihl m ip).toNat))

/-- The checksum makes the words of the header sum up to all ones, nothing else in the
header is changed, and the bytes behind the header do not matter. -/
structure Checksummed (m : Mem) (ip : Nat) : Prop where
  sum : headerSum (calcChecksum m ip) ip = 0xffff
  others : ∀ j, ip ≤ j → j < ip + 4 * (ihl m ip).toNat → j ≠ ip + 10 → j ≠ ip + 11 →
    calcChecksum m ip j = m j
  independent : ∀ m', m.Same m' ip (4 * (ihl m ip).toNat) →
    (calcChecksum m ip).Same (calcChecksum m' ip) ip (4 * (ihl m ip).toNat)

theorem headerSum_calcChecksum (h : 5 ≤ (ihl m ip).toNat) :
    headerSum (calcChecksum m ip) ip = 0xffff ↔
      65535 ∣ (words m (ip + 4 * (ihl m ip).toNat) (2 * (ihl m ip).toNat)).sum := by
  have hpos : 5 ≤ (ihl (calcChecksum m ip) ip).toNat := by rwa [ihl_calcChecksum]
  have hiff := OnesComplement.sum_eq_max_iff (w := 16) (by omega)
    (words_lt (calcChecksum m ip) ip (2 * (ihl m ip).toNat)) (exists_word_pos hpos (by omega))
  rw [headerSum, ihl_calcChecksum]
  refine hiff.trans ?_
  have hmod := total_mod h
  have hlt := total_lt m ip
  have hsix : 5 < (words m ip (2 * (ihl m ip).toNat)).length := by
    rw [length_words]
    omega
  rw [words_calcChecksum, List.sum_set]
  rw [List.sum_set] at hmod
  simp only [hsix, if_true] at hmod ⊢
  omega

/-- The sum after the first word behind the header was changed. -/
theorem total_set16 (h : 5 ≤ (ihl m ip).toNat) (v : UInt16) :
    m.Same (m.set16 (ip + 4 * (ihl m ip).toNat) v) ip (4 * (ihl m ip).toNat) ∧
      total (m.set16 (ip + 4 * (ihl m ip).toNat) v) ip % 65535
        = (((words m ip (2 * (ihl m ip).toNat)).set 5 0).sum
            + ((words m (ip + 4 * (ihl m ip).toNat) (2 * (ihl m ip).toNat)).set 0 v.toNat).sum)
          % 65535 := by
  have hsame : m.Same (m.set16 (ip + 4 * (ihl m ip).toNat) v) ip (4 * (ihl m ip).toNat) :=
    fun j hj hj' => Mem.set16_of_ne v (by omega)
  have hihl : ihl (m.set16 (ip + 4 * (ihl m ip).toNat) v) ip = ihl m ip := by
    rw [ihl, hsame ip (by omega) (by omega)]
    rfl
  have hheader : words (m.set16 (ip + 4 * (ihl m ip).toNat) v) ip (2 * (ihl m ip).toNat)
      = words m ip (2 * (ihl m ip).toNat) :=
    words_congr fun j hj hj' => hsame j hj (by omega)
  have hbehind := words_set16 m (ip + 4 * (ihl m ip).toNat) (2 * (ihl m ip).toNat) 0 v
  have hpos : 5 ≤ (ihl (m.set16 (ip + 4 * (ihl m ip).toNat) v) ip).toNat := by rwa [hihl]
  have hmod := total_mod hpos
  refine And.intro hsame ?_
  rw [hmod, hihl, hheader]
  rw [Nat.mul_zero, Nat.add_zero] at hbehind
  rw [hbehind]

/-- The bytes behind the header matter: with a one or with a two there the sum is another. -/
theorem exists_total_ne (h : 5 ≤ (ihl m ip).toNat) :
    ∃ m', m.Same m' ip (4 * (ihl m ip).toNat) ∧ total m' ip ≠ total m ip := by
  obtain ⟨hsame, hone⟩ := total_set16 h 1
  obtain ⟨hsame', htwo⟩ := total_set16 h 2
  have hfirst : ∀ v : Nat,
      ((words m (ip + 4 * (ihl m ip).toNat) (2 * (ihl m ip).toNat)).set 0 v).sum
        = v + ((words m (ip + 4 * (ihl m ip).toNat) (2 * (ihl m ip).toNat)).drop 1).sum := by
    intro v
    have hlen : 0 < (words m (ip + 4 * (ihl m ip).toNat) (2 * (ihl m ip).toNat)).length := by
      rw [length_words]
      omega
    simp [List.sum_set, hlen]
  have hone' : (1 : UInt16).toNat = 1 := UInt16.toNat_one
  have htwo' : (2 : UInt16).toNat = 2 := by simp
  rw [hfirst, hone'] at hone
  rw [hfirst, htwo'] at htwo
  by_cases heq : total (m.set16 (ip + 4 * (ihl m ip).toNat) 1) ip = total m ip
  · refine Exists.intro _ (And.intro hsame' fun hne => ?_)
    rw [heq, ← hne, htwo] at hone
    omega
  · exact Exists.intro _ (And.intro hsame heq)

/-- The checksum tells the sums apart. -/
theorem total_of_calcChecksum {m m' : Mem}
    (h : (calcChecksum m ip).Same (calcChecksum m' ip) (ip + 10) 2) :
    total m' ip = total m ip := by
  have hsum := h.get16
  rw [calcChecksum_eq, calcChecksum_eq, Mem.get16_set16, Mem.get16_set16] at hsum
  have hnat := congrArg UInt16.toNat hsum
  have hlt := total_lt m ip
  have hlt' := total_lt m' ip
  rw [toNat_complement, toNat_complement] at hnat
  omega

/-- **The checksum of a header depends on what is behind it.** -/
theorem calcChecksum_past_header (h : 5 ≤ (ihl m ip).toNat) :
    ¬ Checksummed m ip ∧
      (∀ j, j < ip + 10 ∨ ip + 12 ≤ j → calcChecksum m ip j = m j) ∧
      (headerSum (calcChecksum m ip) ip = 0xffff ↔
        65535 ∣ (words m (ip + 4 * (ihl m ip).toNat) (2 * (ihl m ip).toNat)).sum) := by
  refine And.intro ?_ (And.intro (fun _ hj => calcChecksum_of_ne hj) (headerSum_calcChecksum h))
  intro hc
  obtain ⟨m', hsame, hne⟩ := exists_total_ne h
  have hheader := hc.independent m' hsame
  exact hne (total_of_calcChecksum fun j hj hj' => hheader j (by omega) (by omega))

/-- A header of twenty bytes, and nothing but zeros behind it. -/
def plain : Mem := fun j => if j = 0 then 0x45 else 0

theorem calcChecksum_past_header_plain :
    ¬ Checksummed plain 0 ∧
      (∀ j, j < 10 ∨ 12 ≤ j → calcChecksum plain 0 j = plain j) ∧
      (headerSum (calcChecksum plain 0) 0 = 0xffff ↔
        65535 ∣ (words plain 20 10).sum) := by
  have hihl : (ihl plain 0).toNat = 5 := by decide
  have hpos : 5 ≤ (ihl plain 0).toNat := by rw [hihl]
  have h := calcChecksum_past_header hpos
  simpa [hihl] using h

/-- A one behind the header, and the words of the header no longer sum up to all ones. -/
theorem checksum_not_calculated :
    (ihl (plain.set8 21 1) 0).toNat = 5 ∧ ¬ Checksummed (plain.set8 21 1) 0 := by
  have hihl : (ihl (plain.set8 21 1) 0).toNat = 5 := by decide
  have hpos : 5 ≤ (ihl (plain.set8 21 1) 0).toNat := by rw [hihl]
  refine And.intro hihl fun hc => ?_
  have hdvd := (headerSum_calcChecksum hpos).mp hc.sum
  rw [hihl] at hdvd
  revert hdvd
  decide

end MoonState.Headers.IPv4
