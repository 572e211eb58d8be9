/-
Memory, and numbers in network byte order in it.

`Mem` is memory as a function of the address.  A write changes the addresses it
covers and no others, so a read after it is either what was written or what was
there before: `read_write_self` and `read_write_of_disjoint` say so once, and the
numbers of two, four and eight bytes inherit it.  The latter are in the order of
the host, which is the reverse.
-/
import Mathlib.Algebra.Group.Nat.Defs
import Mathlib.Data.List.Basic

/-! ### Big-endian numbers -/

namespace Bytes

/-- The number with these bytes, most significant first. -/
def toNatBE : List UInt8 → Nat
  | [] => 0
  | b :: bs => b.toNat * 256 ^ bs.length + toNatBE bs

/-- The `w` last bytes of `n`, most significant first. -/
def ofNatBE : Nat → Nat → List UInt8
  | 0, _ => []
  | w + 1, n => UInt8.ofNat (n / 256 ^ w) :: ofNatBE w n

@[simp] theorem length_ofNatBE (w n : Nat) : (ofNatBE w n).length = w := by
  induction w with
  | zero => rfl
  | succ w ih => rw [ofNatBE, List.length_cons, ih]

theorem toNatBE_ofNatBE (w n : Nat) : toNatBE (ofNatBE w n) = n % 256 ^ w := by
  induction w with
  | zero => rw [Nat.pow_zero, Nat.mod_one]; rfl
  | succ w ih =>
      have hb : (UInt8.ofNat (n / 256 ^ w)).toNat = n / 256 ^ w % 256 := UInt8.toNat_ofNat'
      rw [ofNatBE, toNatBE, ih, length_ofNatBE, hb, Nat.pow_succ, Nat.mod_mul]
      rw [Nat.mul_comm, Nat.add_comm]

theorem toNatBE_lt (bs : List UInt8) : toNatBE bs < 256 ^ bs.length := by
  induction bs with
  | nil => simp [toNatBE]
  | cons b bs ih =>
      have hb : b.toNat < 256 := b.toNat_lt
      calc b.toNat * 256 ^ bs.length + toNatBE bs
          < b.toNat * 256 ^ bs.length + 256 ^ bs.length := by omega
        _ = (b.toNat + 1) * 256 ^ bs.length := by rw [Nat.add_mul, Nat.one_mul]
        _ ≤ 256 * 256 ^ bs.length := Nat.mul_le_mul_right _ hb
        _ = 256 ^ (b :: bs).length := by rw [List.length_cons, Nat.pow_succ, Nat.mul_comm]

/-- The bytes do not depend on what is beyond them. -/
theorem ofNatBE_mod (w n : Nat) : ∀ k, w ≤ k → ofNatBE w (n % 256 ^ k) = ofNatBE w n := by
  induction w with
  | zero =>
      intro k _
      rfl
  | succ w ih =>
      intro k hk
      have hdiv : n % 256 ^ k / 256 ^ w % 256 = n / 256 ^ w % 256 := by
        obtain ⟨j, rfl⟩ : ∃ j, k = w + 1 + j := ⟨k - (w + 1), by omega⟩
        rw [Nat.pow_add, Nat.pow_succ, Nat.mul_assoc, Nat.mod_mul_right_div_self,
          Nat.mod_mul_right_mod]
      have hbyte : UInt8.ofNat (n % 256 ^ k / 256 ^ w) = UInt8.ofNat (n / 256 ^ w) := by
        apply UInt8.toNat_inj.mp
        simpa using hdiv
      rw [ofNatBE, ofNatBE, hbyte, ih k (by omega)]

/-- A number has the bytes it was made of. -/
theorem ofNatBE_toNatBE (bs : List UInt8) : ofNatBE bs.length (toNatBE bs) = bs := by
  induction bs with
  | nil => rfl
  | cons b bs ih =>
      have hlt := toNatBE_lt bs
      have hpos : 0 < 256 ^ bs.length := Nat.pow_pos (by omega)
      have hhead : (b.toNat * 256 ^ bs.length + toNatBE bs) / 256 ^ bs.length = b.toNat := by
        rw [Nat.mul_comm, Nat.mul_add_div hpos, Nat.div_eq_of_lt hlt, Nat.add_zero]
      have htail : (b.toNat * 256 ^ bs.length + toNatBE bs) % 256 ^ bs.length = toNatBE bs := by
        rw [Nat.mul_comm, Nat.mul_add_mod, Nat.mod_eq_of_lt hlt]
      rw [toNatBE, List.length_cons, ofNatBE, hhead, UInt8.ofNat_toNat,
        ← ofNatBE_mod _ _ _ (Nat.le_refl _), htail, ih]

theorem toNatBE_append_singleton (bs : List UInt8) (b : UInt8) :
    toNatBE (bs ++ [b]) = toNatBE bs * 256 + b.toNat := by
  induction bs with
  | nil => simp [toNatBE]
  | cons c bs ih =>
      rw [List.cons_append, toNatBE, ih, toNatBE, List.length_append, List.length_singleton,
        Nat.pow_succ, Nat.add_mul, Nat.mul_assoc, Nat.add_assoc]

/-- Of as many bytes, no two make the same number. -/
theorem toNatBE_inj {bs cs : List UInt8} (hlen : bs.length = cs.length) :
    toNatBE bs = toNatBE cs ↔ bs = cs := by
  constructor
  · intro h
    rw [← ofNatBE_toNatBE bs, ← ofNatBE_toNatBE cs, h, hlen]
  · intro h
    rw [h]

/-- A number is read back from its bytes in the other order if they are the same from both
ends. -/
theorem toNatBE_reverse_eq_iff {w n : Nat} :
    toNatBE (ofNatBE w n).reverse = n ↔
      n < 256 ^ w ∧ (ofNatBE w n).reverse = ofNatBE w n := by
  have hlen : (ofNatBE w n).reverse.length = (ofNatBE w n).length := List.length_reverse
  have hval := toNatBE_ofNatBE w n
  constructor
  · intro h
    have hlt := toNatBE_lt (ofNatBE w n).reverse
    rw [h, hlen, length_ofNatBE] at hlt
    rw [Nat.mod_eq_of_lt hlt] at hval
    exact And.intro hlt ((toNatBE_inj hlen).mp (h.trans hval.symm))
  · intro h
    rw [h.2, hval, Nat.mod_eq_of_lt h.1]

/-! ### The order of the host

The host stores the least significant byte first.
-/

def htons (v : UInt16) : UInt16 := UInt16.ofNat (toNatBE (ofNatBE 2 v.toNat).reverse)

def htonl (v : UInt32) : UInt32 := UInt32.ofNat (toNatBE (ofNatBE 4 v.toNat).reverse)

/-- The bytes of the number in the other order. -/
theorem ofNatBE_swap (w n : Nat) :
    ofNatBE w (toNatBE (ofNatBE w n).reverse) = (ofNatBE w n).reverse := by
  have h := ofNatBE_toNatBE (ofNatBE w n).reverse
  rwa [List.length_reverse, length_ofNatBE] at h

@[simp] theorem htons_htons (v : UInt16) : htons (htons v) = v := by
  have hv : (htons v).toNat = toNatBE (ofNatBE 2 v.toNat).reverse := by
    have h := toNatBE_lt (ofNatBE 2 v.toNat).reverse
    rw [List.length_reverse, length_ofNatBE] at h
    exact UInt16.toNat_ofNat_of_lt h
  rw [htons, hv, ofNatBE_swap, List.reverse_reverse, toNatBE_ofNatBE,
    Nat.mod_eq_of_lt (by exact v.toNat_lt), UInt16.ofNat_toNat]

@[simp] theorem htonl_htonl (v : UInt32) : htonl (htonl v) = v := by
  have hv : (htonl v).toNat = toNatBE (ofNatBE 4 v.toNat).reverse := by
    have h := toNatBE_lt (ofNatBE 4 v.toNat).reverse
    rw [List.length_reverse, length_ofNatBE] at h
    exact UInt32.toNat_ofNat_of_lt h
  rw [htonl, hv, ofNatBE_swap, List.reverse_reverse, toNatBE_ofNatBE,
    Nat.mod_eq_of_lt (by exact v.toNat_lt), UInt32.ofNat_toNat]

end Bytes

/-! ### Memory -/

abbrev Mem := Nat → UInt8

namespace Mem

/-- The `n` bytes from address `i` on. -/
def read (m : Mem) (i n : Nat) : List UInt8 := (List.range' i n).map m

/-- `memcpy` to address `i`. -/
def write (m : Mem) (i : Nat) (bs : List UInt8) : Mem := fun j =>
  if i ≤ j then (bs[j - i]?).getD (m j) else m j

@[simp] theorem length_read (m : Mem) (i n : Nat) : (m.read i n).length = n := by
  simp [read]

theorem read_congr {m m' : Mem} {i n : Nat} (h : ∀ j, i ≤ j → j < i + n → m j = m' j) :
    m.read i n = m'.read i n := by
  refine List.map_congr_left fun j hj => ?_
  rw [List.mem_range'_1] at hj
  exact h j hj.1 hj.2

/-- Outside what it covers a write changes nothing. -/
theorem write_of_notMem {m : Mem} {i j : Nat} {bs : List UInt8} (h : j < i ∨ i + bs.length ≤ j) :
    m.write i bs j = m j := by
  unfold write
  split
  · rw [List.getElem?_eq_none (by omega)]
    rfl
  · rfl

theorem write_of_mem {m : Mem} {i j : Nat} {bs : List UInt8} (h : i ≤ j)
    (h' : j - i < bs.length) : m.write i bs j = bs.get ⟨j - i, h'⟩ := by
  unfold write
  rw [if_pos h, List.getElem?_eq_getElem h']
  rfl

theorem read_write_of_disjoint {m : Mem} {i j n : Nat} {bs : List UInt8}
    (h : i + n ≤ j ∨ j + bs.length ≤ i) : (m.write j bs).read i n = m.read i n :=
  read_congr fun k hk hk' => write_of_notMem (by omega)

theorem read_write_self (m : Mem) (i : Nat) (bs : List UInt8) :
    (m.write i bs).read i bs.length = bs := by
  refine List.ext_getElem (length_read _ _ _) fun k h h' => ?_
  have hget : (m.write i bs) (i + k) = bs.get ⟨k, h'⟩ := by
    rw [write_of_mem (Nat.le_add_right i k) (by omega)]
    simp
  simpa [read] using hget

/-- A part of what is read. -/
theorem read_append (m : Mem) (i n k : Nat) : m.read i (n + k) = m.read i n ++ m.read (i + n) k := by
  unfold read
  rw [← List.map_append, List.range'_append_1]

/-! ### Numbers in memory -/

def get16 (m : Mem) (i : Nat) : UInt16 := UInt16.ofNat (Bytes.toNatBE (m.read i 2))

def get32 (m : Mem) (i : Nat) : UInt32 := UInt32.ofNat (Bytes.toNatBE (m.read i 4))

def set8 (m : Mem) (i : Nat) (v : UInt8) : Mem := m.write i [v]

def set16 (m : Mem) (i : Nat) (v : UInt16) : Mem := m.write i (Bytes.ofNatBE 2 v.toNat)

def set32 (m : Mem) (i : Nat) (v : UInt32) : Mem := m.write i (Bytes.ofNatBE 4 v.toNat)

/-- A `uint64_t` as the host stores it, least significant byte first. -/
def get64 (m : Mem) (i : Nat) : UInt64 := UInt64.ofNat (Bytes.toNatBE (m.read i 8).reverse)

def set64 (m : Mem) (i : Nat) (v : UInt64) : Mem := m.write i (Bytes.ofNatBE 8 v.toNat).reverse

/-- A `uint16_t` as the host stores it. -/
def load16 (m : Mem) (i : Nat) : UInt16 := UInt16.ofNat (Bytes.toNatBE (m.read i 2).reverse)

/-- A `uint32_t` as the host stores it. -/
def load32 (m : Mem) (i : Nat) : UInt32 := UInt32.ofNat (Bytes.toNatBE (m.read i 4).reverse)

/-- `memset(data, 0, n)`. -/
def clear (m : Mem) (n : Nat) : Mem := fun j => if j < n then 0 else m j

@[simp] theorem set8_self (m : Mem) (i : Nat) (v : UInt8) : m.set8 i v i = v := by
  simp [set8, write]

@[simp] theorem get16_set16 (m : Mem) (i : Nat) (v : UInt16) : (m.set16 i v).get16 i = v := by
  have h : (m.set16 i v).read i 2 = Bytes.ofNatBE 2 v.toNat := by
    have := read_write_self m i (Bytes.ofNatBE 2 v.toNat)
    rwa [Bytes.length_ofNatBE] at this
  rw [get16, h, Bytes.toNatBE_ofNatBE, Nat.mod_eq_of_lt (by exact v.toNat_lt), UInt16.ofNat_toNat]

@[simp] theorem get32_set32 (m : Mem) (i : Nat) (v : UInt32) : (m.set32 i v).get32 i = v := by
  have h : (m.set32 i v).read i 4 = Bytes.ofNatBE 4 v.toNat := by
    have := read_write_self m i (Bytes.ofNatBE 4 v.toNat)
    rwa [Bytes.length_ofNatBE] at this
  rw [get32, h, Bytes.toNatBE_ofNatBE, Nat.mod_eq_of_lt (by exact v.toNat_lt), UInt32.ofNat_toNat]

@[simp] theorem get64_set64 (m : Mem) (i : Nat) (v : UInt64) : (m.set64 i v).get64 i = v := by
  have h : (m.set64 i v).read i 8 = (Bytes.ofNatBE 8 v.toNat).reverse := by
    have := read_write_self m i (Bytes.ofNatBE 8 v.toNat).reverse
    rwa [List.length_reverse, Bytes.length_ofNatBE] at this
  rw [get64, h, List.reverse_reverse, Bytes.toNatBE_ofNatBE, Nat.mod_eq_of_lt (by exact v.toNat_lt),
    UInt64.ofNat_toNat]

/-- A number is read where its bytes are. -/
theorem get64_eq_iff {m : Mem} {i : Nat} {v : UInt64} :
    m.get64 i = v ↔ m.read i 8 = (Bytes.ofNatBE 8 v.toNat).reverse := by
  have hlt := Bytes.toNatBE_lt (m.read i 8).reverse
  rw [List.length_reverse, length_read] at hlt
  have hbytes := Bytes.ofNatBE_toNatBE (m.read i 8).reverse
  rw [List.length_reverse, length_read] at hbytes
  constructor
  · intro h
    have hv : v.toNat = Bytes.toNatBE (m.read i 8).reverse := by
      rw [← h]
      exact UInt64.toNat_ofNat_of_lt hlt
    rw [hv, hbytes, List.reverse_reverse]
  · intro h
    have hv := v.toNat_lt
    rw [get64, h, List.reverse_reverse, Bytes.toNatBE_ofNatBE, Nat.mod_eq_of_lt (by exact hv),
      UInt64.ofNat_toNat]

theorem toNatBE_read_lt (m : Mem) (i n : Nat) : Bytes.toNatBE (m.read i n) < 256 ^ n := by
  have hlt := Bytes.toNatBE_lt (m.read i n)
  rwa [length_read] at hlt

theorem ofNatBE_toNatBE_read (m : Mem) (i n : Nat) :
    Bytes.ofNatBE n (Bytes.toNatBE (m.read i n)) = m.read i n := by
  have hbytes := Bytes.ofNatBE_toNatBE (m.read i n)
  rwa [length_read] at hbytes

/-- The bytes of a number are those it is read from. -/
theorem ofNatBE_get16 (m : Mem) (i : Nat) : Bytes.ofNatBE 2 (m.get16 i).toNat = m.read i 2 := by
  rw [get16, UInt16.toNat_ofNat', Nat.mod_eq_of_lt (by exact toNatBE_read_lt m i 2),
    ofNatBE_toNatBE_read]

theorem ofNatBE_get32 (m : Mem) (i : Nat) : Bytes.ofNatBE 4 (m.get32 i).toNat = m.read i 4 := by
  rw [get32, UInt32.toNat_ofNat', Nat.mod_eq_of_lt (by exact toNatBE_read_lt m i 4),
    ofNatBE_toNatBE_read]

theorem get16_eq_iff {m : Mem} {i : Nat} {v : UInt16} :
    m.get16 i = v ↔ m.read i 2 = Bytes.ofNatBE 2 v.toNat := by
  constructor
  · intro h
    rw [← h, ofNatBE_get16]
  · intro h
    rw [get16, h, Bytes.toNatBE_ofNatBE, Nat.mod_eq_of_lt (by exact v.toNat_lt), UInt16.ofNat_toNat]

theorem get32_eq_iff {m : Mem} {i : Nat} {v : UInt32} :
    m.get32 i = v ↔ m.read i 4 = Bytes.ofNatBE 4 v.toNat := by
  constructor
  · intro h
    rw [← h, ofNatBE_get32]
  · intro h
    rw [get32, h, Bytes.toNatBE_ofNatBE, Nat.mod_eq_of_lt (by exact v.toNat_lt), UInt32.ofNat_toNat]

/-- To store a number that was read is to copy its bytes. -/
theorem set16_get16 (m m' : Mem) (i j : Nat) : m.set16 i (m'.get16 j) = m.write i (m'.read j 2) := by
  rw [set16, ofNatBE_get16]

theorem set32_get32 (m m' : Mem) (i j : Nat) : m.set32 i (m'.get32 j) = m.write i (m'.read j 4) := by
  rw [set32, ofNatBE_get32]

/-- The host reads the bytes of a number in network byte order the other way round. -/
theorem load16_eq (m : Mem) (i : Nat) : m.load16 i = Bytes.htons (m.get16 i) := by
  rw [load16, Bytes.htons, ofNatBE_get16]

theorem load32_eq (m : Mem) (i : Nat) : m.load32 i = Bytes.htonl (m.get32 i) := by
  rw [load32, Bytes.htonl, ofNatBE_get32]

/-! ### What a write leaves alone -/

theorem set8_of_ne {m : Mem} {i j : Nat} (v : UInt8) (h : j ≠ i) : m.set8 i v j = m j :=
  write_of_notMem (by simp only [List.length_singleton]; omega)

theorem set16_of_ne {m : Mem} {i j : Nat} (v : UInt16) (h : j < i ∨ i + 2 ≤ j) :
    m.set16 i v j = m j :=
  write_of_notMem (by rwa [Bytes.length_ofNatBE])

theorem set32_of_ne {m : Mem} {i j : Nat} (v : UInt32) (h : j < i ∨ i + 4 ≤ j) :
    m.set32 i v j = m j :=
  write_of_notMem (by rwa [Bytes.length_ofNatBE])

theorem set64_of_ne {m : Mem} {i j : Nat} (v : UInt64) (h : j < i ∨ i + 8 ≤ j) :
    m.set64 i v j = m j :=
  write_of_notMem (by rwa [List.length_reverse, Bytes.length_ofNatBE])

/-- The addresses from `i` on, `n` of them, hold the same in both. -/
def Same (m m' : Mem) (i n : Nat) : Prop := ∀ j, i ≤ j → j < i + n → m' j = m j

theorem Same.read {m m' : Mem} {i n : Nat} (h : Same m m' i n) : m'.read i n = m.read i n :=
  read_congr h

theorem Same.get16 {m m' : Mem} {i : Nat} (h : Same m m' i 2) : m'.get16 i = m.get16 i := by
  rw [Mem.get16, h.read]
  rfl

theorem Same.get32 {m m' : Mem} {i : Nat} (h : Same m m' i 4) : m'.get32 i = m.get32 i := by
  rw [Mem.get32, h.read]
  rfl

theorem Same.get64 {m m' : Mem} {i : Nat} (h : Same m m' i 8) : m'.get64 i = m.get64 i := by
  rw [Mem.get64, h.read]
  rfl

/-! ### Numbers a write leaves alone -/

section numbers

variable {m : Mem} {i j : Nat}

theorem get16_set8 {v : UInt8} (h : j < i ∨ i + 2 ≤ j) : (m.set8 j v).get16 i = m.get16 i :=
  Same.get16 fun _ _ _ => set8_of_ne v (by omega)

theorem get16_set16_of_ne {v : UInt16} (h : j + 2 ≤ i ∨ i + 2 ≤ j) :
    (m.set16 j v).get16 i = m.get16 i :=
  Same.get16 fun _ _ _ => set16_of_ne v (by omega)

theorem get16_set32 {v : UInt32} (h : j + 4 ≤ i ∨ i + 2 ≤ j) : (m.set32 j v).get16 i = m.get16 i :=
  Same.get16 fun _ _ _ => set32_of_ne v (by omega)

theorem get32_set8 {v : UInt8} (h : j < i ∨ i + 4 ≤ j) : (m.set8 j v).get32 i = m.get32 i :=
  Same.get32 fun _ _ _ => set8_of_ne v (by omega)

theorem get32_set16 {v : UInt16} (h : j + 2 ≤ i ∨ i + 4 ≤ j) : (m.set16 j v).get32 i = m.get32 i :=
  Same.get32 fun _ _ _ => set16_of_ne v (by omega)

theorem get32_set32_of_ne {v : UInt32} (h : j + 4 ≤ i ∨ i + 4 ≤ j) :
    (m.set32 j v).get32 i = m.get32 i :=
  Same.get32 fun _ _ _ => set32_of_ne v (by omega)

end numbers

end Mem
