/-
The integers of 48 and of 24 bits (`include/common.hpp`).

Both are arrays of bytes with a setter and a getter written out byte by byte, and
are kept so here.
-/
import Mathlib.Algebra.Group.Nat.Defs

namespace MoonState

structure Uint48 where
  arr : Vector UInt8 6
deriving DecidableEq, Repr

namespace Uint48

/-- `none` where the assertion fails; with `NDEBUG` it is compiled out. -/
def set (ndebug : Bool) (val : UInt64) : Option Uint48 :=
  if ndebug = false ∧ val >>> 48 ≠ 0 then none
  else
    some
      { arr := #v[
          (val &&& 0xff).toUInt8,
          ((val >>> 8) &&& 0xff).toUInt8,
          ((val >>> 16) &&& 0xff).toUInt8,
          ((val >>> 24) &&& 0xff).toUInt8,
          ((val >>> 32) &&& 0xff).toUInt8,
          ((val >>> 40) &&& 0xff).toUInt8] }

def get (u : Uint48) : UInt64 :=
  let val : UInt64 := 0
  let val := val ||| u.arr[0].toUInt64
  let val := val <<< 8
  let val := val ||| u.arr[1].toUInt64
  let val := val <<< 8
  let val := val ||| u.arr[2].toUInt64
  let val := val <<< 8
  let val := val ||| u.arr[3].toUInt64
  let val := val <<< 8
  let val := val ||| u.arr[4].toUInt64
  let val := val <<< 8
  let val := val ||| u.arr[5].toUInt64
  val

/-- `operator uint64_t`. -/
def toUInt64 (u : Uint48) : UInt64 := u.get

/-- `operator=`: the variable, and the value of the assignment. -/
def assign (ndebug : Bool) (val : UInt64) : Option (Uint48 × UInt64) :=
  (set ndebug val).map fun u => (u, val)

end Uint48

structure Uint24 where
  arr : Vector UInt8 3
deriving DecidableEq, Repr

namespace Uint24

/-- `none` where the assertion fails; with `NDEBUG` it is compiled out. -/
def set (ndebug : Bool) (val : UInt32) : Option Uint24 :=
  if ndebug = false ∧ val >>> 24 ≠ 0 then none
  else
    some
      { arr := #v[
          (val &&& 0xff).toUInt8,
          ((val >>> 8) &&& 0xff).toUInt8,
          ((val >>> 16) &&& 0xff).toUInt8] }

def get (u : Uint24) : UInt32 :=
  let val : UInt32 := 0
  let val := val ||| u.arr[0].toUInt32
  let val := val <<< 8
  let val := val ||| u.arr[1].toUInt32
  let val := val <<< 8
  let val := val ||| u.arr[2].toUInt32
  val

/-- `operator uint32_t`. -/
def toUInt32 (u : Uint24) : UInt32 := u.get

/-- `operator=`: the variable, and the value of the assignment. -/
def assign (ndebug : Bool) (val : UInt32) : Option (Uint24 × UInt32) :=
  (set ndebug val).map fun u => (u, val)

end Uint24

end MoonState
