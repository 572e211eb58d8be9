/-
The setter and the getter of the narrow integers.

The setter stores the least significant byte first, and the getter takes the first
byte for the most significant one.  Each alone is right.  Together they turn the
bytes around, so what is read after an assignment is what was assigned exactly if its
bytes are the same from both ends.
-/
import Mathlib.Data.List.Induction
import MoonState.Lib.Bytes
import MoonState.Model.Common

namespace MoonState

/-! ### A byte of the value -/

theorem toUInt8_shiftRight64 (val k : UInt64) (hk : k.toNat < 64) :
    ((val >>> k) &&& 0xff).toUInt8 = UInt8.ofNat (val.toNat / 2 ^ k.toNat) := by
  apply UInt8.toNat_inj.mp
  rw [UInt64.toNat_toUInt8, UInt64.toNat_and, UInt64.toNat_shiftRight, Nat.mod_eq_of_lt hk,
    UInt8.toNat_ofNat', Nat.shiftRight_eq_div_pow]
  change (_ &&& 2 ^ 8 - 1) % _ = _
  rw [Nat.and_two_pow_sub_one_eq_mod, Nat.mod_mod]

theorem toUInt8_shiftRight32 (val k : UInt32) (hk : k.toNat < 32) :
    ((val >>> k) &&& 0xff).toUInt8 = UInt8.ofNat (val.toNat / 2 ^ k.toNat) := by
  apply UInt8.toNat_inj.mp
  rw [UInt32.toNat_toUInt8, UInt32.toNat_and, UInt32.toNat_shiftRight, Nat.mod_eq_of_lt hk,
    UInt8.toNat_ofNat', Nat.shiftRight_eq_div_pow]
  change (_ &&& 2 ^ 8 - 1) % _ = _
  rw [Nat.and_two_pow_sub_one_eq_mod, Nat.mod_mod]

/-! ### A byte is taken in -/

theorem toNat_take64 {val : UInt64} (h : val.toNat < 2 ^ 56) (b : UInt8) :
    ((val <<< 8) ||| b.toUInt64).toNat = val.toNat * 256 + b.toNat := by
  have hb : b.toNat < 2 ^ 8 := b.toNat_lt
  have hshift : (val <<< 8).toNat = val.toNat <<< 8 := by
    rw [UInt64.toNat_shiftLeft]
    change val.toNat <<< 8 % 2 ^ 64 = _
    rw [Nat.shiftLeft_eq, Nat.mod_eq_of_lt (by omega)]
  rw [UInt64.toNat_or, hshift, UInt8.toNat_toUInt64, ← Nat.shiftLeft_add_eq_or_of_lt hb,
    Nat.shiftLeft_eq]

theorem toNat_take32 {val : UInt32} (h : val.toNat < 2 ^ 24) (b : UInt8) :
    ((val <<< 8) ||| b.toUInt32).toNat = val.toNat * 256 + b.toNat := by
  have hb : b.toNat < 2 ^ 8 := b.toNat_lt
  have hshift : (val <<< 8).toNat = val.toNat <<< 8 := by
    rw [UInt32.toNat_shiftLeft]
    change val.toNat <<< 8 % 2 ^ 32 = _
    rw [Nat.shiftLeft_eq, Nat.mod_eq_of_lt (by omega)]
  rw [UInt32.toNat_or, hshift, UInt8.toNat_toUInt32, ← Nat.shiftLeft_add_eq_or_of_lt hb,
    Nat.shiftLeft_eq]

/-- The value after some bytes were taken in. -/
theorem toNat_foldl64 (bs : List UInt8) (h : bs.length ≤ 8) :
    (bs.foldl (fun (val : UInt64) b => (val <<< 8) ||| b.toUInt64) 0).toNat = Bytes.toNatBE bs := by
  induction bs using List.reverseRecOn with
  | nil => rfl
  | append_singleton bs b ih =>
      rw [List.length_append, List.length_singleton] at h
      have ih := ih (by omega)
      have hlt := Bytes.toNatBE_lt bs
      have hpow : 256 ^ bs.length ≤ 256 ^ 7 := Nat.pow_le_pow_right (by omega) (by omega)
      rw [List.foldl_append, List.foldl_cons, List.foldl_nil, toNat_take64 (by omega), ih,
        Bytes.toNatBE_append_singleton]

theorem toNat_foldl32 (bs : List UInt8) (h : bs.length ≤ 4) :
    (bs.foldl (fun (val : UInt32) b => (val <<< 8) ||| b.toUInt32) 0).toNat = Bytes.toNatBE bs := by
  induction bs using List.reverseRecOn with
  | nil => rfl
  | append_singleton bs b ih =>
      rw [List.length_append, List.length_singleton] at h
      have ih := ih (by omega)
      have hlt := Bytes.toNatBE_lt bs
      have hpow : 256 ^ bs.length ≤ 256 ^ 3 := Nat.pow_le_pow_right (by omega) (by omega)
      rw [List.foldl_append, List.foldl_cons, List.foldl_nil, toNat_take32 (by omega), ih,
        Bytes.toNatBE_append_singleton]

/-! ### Two orders -/

/-- A variable of `w` bytes, with a getter that takes the first byte for the most significant
one and a setter that puts the least significant one first. -/
structure Swapped {U V : Type} (w : Nat) (ndebug : Bool) (bytes : U → List UInt8)
    (toNat : V → Nat) (set : V → Option U) (get : U → V) : Prop where
  length : ∀ u, (bytes u).length = w
  exists_of_length : ∀ bs : List UInt8, bs.length = w → ∃ u, bytes u = bs
  toNat_inj : ∀ v v', toNat v = toNat v' → v = v'
  toNat_get : ∀ u, toNat (get u) = Bytes.toNatBE (bytes u)
  set_eq_some_iff : ∀ v u, set v = some u ↔
    (ndebug = true ∨ toNat v < 256 ^ w) ∧ bytes u = (Bytes.ofNatBE w (toNat v)).reverse

namespace Swapped

variable {U V : Type} {w : Nat} {ndebug : Bool} {bytes : U → List UInt8} {toNat : V → Nat}
  {set : V → Option U} {get : U → V}

/-- Reading what was assigned. -/
theorem get_of_set (h : Swapped w ndebug bytes toNat set get) (v : V) :
    (∃ u, set v = some u ∧ get u = v) ↔
      toNat v < 256 ^ w ∧ (Bytes.ofNatBE w (toNat v)).reverse = Bytes.ofNatBE w (toNat v) := by
  rw [← Bytes.toNatBE_reverse_eq_iff]
  constructor
  · intro hread
    obtain ⟨u, hset, hget⟩ := hread
    rw [← ((h.set_eq_some_iff v u).mp hset).2, ← h.toNat_get, hget]
  · intro hread
    obtain ⟨u, hu⟩ := h.exists_of_length (Bytes.ofNatBE w (toNat v)).reverse (by simp)
    have hlt := (Bytes.toNatBE_reverse_eq_iff.mp hread).1
    have hset := (h.set_eq_some_iff v u).mpr (And.intro (Or.inr hlt) hu)
    refine Exists.intro u (And.intro hset (h.toNat_inj _ _ ?_))
    rw [h.toNat_get, hu, hread]

/-- Assigning what was read. -/
theorem set_get (h : Swapped w ndebug bytes toNat set get) (u : U) :
    set (get u) = some u ↔ (bytes u).reverse = bytes u := by
  have hbytes := Bytes.ofNatBE_toNatBE (bytes u)
  have hlt := Bytes.toNatBE_lt (bytes u)
  rw [h.length] at hbytes hlt
  rw [h.set_eq_some_iff, h.toNat_get, hbytes, and_iff_right (Or.inr hlt), eq_comm]

end Swapped

namespace Uint48

/-- The getter takes the first byte for the most significant one. -/
theorem toNat_get (u : Uint48) : u.get.toNat = Bytes.toNatBE u.arr.toList := by
  have harr : u.arr.toList = [u.arr[0], u.arr[1], u.arr[2], u.arr[3], u.arr[4], u.arr[5]] := by
    refine List.ext_getElem (by simp) fun i h h' => ?_
    rcases i with _ | _ | _ | _ | _ | _ | i
    all_goals simp at h' ⊢
    omega
  have hget : u.get
      = u.arr.toList.foldl (fun (val : UInt64) b => (val <<< 8) ||| b.toUInt64) 0 := by
    rw [harr]
    simp [get]
  rw [hget, toNat_foldl64 _ (by simp)]

/-- The setter puts the least significant byte first. -/
theorem set_eq_some_iff (ndebug : Bool) (val : UInt64) (u : Uint48) :
    set ndebug val = some u ↔
      (ndebug = true ∨ val.toNat < 256 ^ 6) ∧
        u.arr.toList = (Bytes.ofNatBE 6 val.toNat).reverse := by
  have hcheck : val >>> 48 ≠ 0 ↔ ¬ val.toNat < 256 ^ 6 := by
    rw [ne_eq, ← UInt64.toNat_inj, UInt64.toNat_shiftRight, Nat.shiftRight_eq_div_pow]
    change ¬ val.toNat / 2 ^ 48 = 0 ↔ _
    omega
  have hbytes : (Bytes.ofNatBE 6 val.toNat).reverse
      = [(val &&& 0xff).toUInt8, ((val >>> 8) &&& 0xff).toUInt8, ((val >>> 16) &&& 0xff).toUInt8,
          ((val >>> 24) &&& 0xff).toUInt8, ((val >>> 32) &&& 0xff).toUInt8,
          ((val >>> 40) &&& 0xff).toUInt8] := by
    have hlow := toUInt8_shiftRight64 val 0 (by simp)
    rw [UInt64.shiftRight_zero] at hlow
    rw [hlow, toUInt8_shiftRight64 val 8 (by simp), toUInt8_shiftRight64 val 16 (by simp),
      toUInt8_shiftRight64 val 24 (by simp), toUInt8_shiftRight64 val 32 (by simp),
      toUInt8_shiftRight64 val 40 (by simp)]
    simp [Bytes.ofNatBE]
  obtain ⟨arr⟩ := u
  unfold set
  rw [Option.ite_none_left_eq_some, hcheck, hbytes]
  refine and_congr ?_ ?_
  · cases ndebug with
    | true => simp
    | false => simp
  · rw [Option.some.injEq, mk.injEq, eq_comm, ← Vector.toList_inj]
    exact Iff.rfl

theorem swapped (ndebug : Bool) :
    Swapped 6 ndebug (fun u : Uint48 => u.arr.toList) UInt64.toNat (set ndebug) get where
  length u := u.arr.length_toList
  exists_of_length bs hbs := Exists.intro { arr := ⟨bs.toArray, hbs⟩ } rfl
  toNat_inj _ _ := UInt64.toNat_inj.mp
  toNat_get := toNat_get
  set_eq_some_iff := set_eq_some_iff ndebug

end Uint48

namespace Uint24

/-- The getter takes the first byte for the most significant one. -/
theorem toNat_get (u : Uint24) : u.get.toNat = Bytes.toNatBE u.arr.toList := by
  have harr : u.arr.toList = [u.arr[0], u.arr[1], u.arr[2]] := by
    refine List.ext_getElem (by simp) fun i h h' => ?_
    rcases i with _ | _ | _ | i
    all_goals simp at h' ⊢
    omega
  have hget : u.get
      = u.arr.toList.foldl (fun (val : UInt32) b => (val <<< 8) ||| b.toUInt32) 0 := by
    rw [harr]
    simp [get]
  rw [hget, toNat_foldl32 _ (by simp)]

/-- The setter puts the least significant byte first. -/
theorem set_eq_some_iff (ndebug : Bool) (val : UInt32) (u : Uint24) :
    set ndebug val = some u ↔
      (ndebug = true ∨ val.toNat < 256 ^ 3) ∧
        u.arr.toList = (Bytes.ofNatBE 3 val.toNat).reverse := by
  have hcheck : val >>> 24 ≠ 0 ↔ ¬ val.toNat < 256 ^ 3 := by
    rw [ne_eq, ← UInt32.toNat_inj, UInt32.toNat_shiftRight, Nat.shiftRight_eq_div_pow]
    change ¬ val.toNat / 2 ^ 24 = 0 ↔ _
    omega
  have hbytes : (Bytes.ofNatBE 3 val.toNat).reverse
      = [(val &&& 0xff).toUInt8, ((val >>> 8) &&& 0xff).toUInt8,
          ((val >>> 16) &&& 0xff).toUInt8] := by
    have hlow := toUInt8_shiftRight32 val 0 (by simp)
    rw [UInt32.shiftRight_zero] at hlow
    rw [hlow, toUInt8_shiftRight32 val 8 (by simp), toUInt8_shiftRight32 val 16 (by simp)]
    simp [Bytes.ofNatBE]
  obtain ⟨arr⟩ := u
  unfold set
  rw [Option.ite_none_left_eq_some, hcheck, hbytes]
  refine and_congr ?_ ?_
  · cases ndebug with
    | true => simp
    | false => simp
  · rw [Option.some.injEq, mk.injEq, eq_comm, ← Vector.toList_inj]
    exact Iff.rfl

theorem swapped (ndebug : Bool) :
    Swapped 3 ndebug (fun u : Uint24 => u.arr.toList) UInt32.toNat (set ndebug) get where
  length u := u.arr.length_toList
  exists_of_length bs hbs := Exists.intro { arr := ⟨bs.toArray, hbs⟩ } rfl
  toNat_inj _ _ := UInt32.toNat_inj.mp
  toNat_get := toNat_get
  set_eq_some_iff := set_eq_some_iff ndebug

end Uint24

/-- **What is read after an assignment**, and what is assigned after reading: they are the same
exactly for bytes that are the same from both ends. -/
theorem narrow_roundtrip (ndebug : Bool) :
    (∀ val, (∃ u, Uint48.assign ndebug val = some (u, val) ∧ u.toUInt64 = val) ↔
      val.toNat < 2 ^ 48 ∧ (Bytes.ofNatBE 6 val.toNat).reverse = Bytes.ofNatBE 6 val.toNat) ∧
    (∀ u, Uint48.assign ndebug u.toUInt64 = some (u, u.toUInt64) ↔
      u.arr.toList.reverse = u.arr.toList) ∧
    (∀ val, (∃ u, Uint24.assign ndebug val = some (u, val) ∧ u.toUInt32 = val) ↔
      val.toNat < 2 ^ 24 ∧ (Bytes.ofNatBE 3 val.toNat).reverse = Bytes.ofNatBE 3 val.toNat) ∧
    (∀ u, Uint24.assign ndebug u.toUInt32 = some (u, u.toUInt32) ↔
      u.arr.toList.reverse = u.arr.toList) := by
  refine And.intro ?_ (And.intro ?_ (And.intro ?_ ?_))
  · intro val
    simpa [Uint48.assign, Uint48.toUInt64] using (Uint48.swapped ndebug).get_of_set val
  · intro u
    simpa [Uint48.assign, Uint48.toUInt64] using (Uint48.swapped ndebug).set_get u
  · intro val
    simpa [Uint24.assign, Uint24.toUInt32] using (Uint24.swapped ndebug).get_of_set val
  · intro u
    simpa [Uint24.assign, Uint24.toUInt32] using (Uint24.swapped ndebug).set_get u

/-- A one is read back as two to the fortieth. -/
theorem one_not_read_back : ∃ u, Uint48.assign false 1 = some (u, 1) ∧
    u.toUInt64 = 0x10000000000 ∧ u.toUInt64 ≠ 1 := by
  refine ⟨⟨#v[1, 0, 0, 0, 0, 0]⟩, ?_, ?_, ?_⟩
  · rfl
  · decide
  · decide

end MoonState
