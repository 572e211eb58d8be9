/-
`IPv4::calcChecksum` (`include/headers.hpp`).

The loop counts to four times the IHL, as if it counted bytes, and adds 16-bit words.
-/
import MoonState.Model.Headers

namespace MoonState.Headers.IPv4

/-- A pass of the loop: add a word, and fold the carry. -/
def addWord (result : UInt32) (word : UInt16) : UInt32 :=
  let result := result + word.toUInt32
  if result &&& ((1 : UInt32) <<< 16) ≠ 0 then (result &&& (0xffff : UInt32)) + 1 else result

/-- The loop, over `n` words. -/
def addWords (m : Mem) (ip n : Nat) : UInt32 :=
  (List.range n).foldl (fun result i => addWord result (m.get16 (ip + 2 * i))) 0

def calcChecksum (m : Mem) (ip : Nat) : Mem :=
  let m := clearChecksum m ip
  let result := addWords m ip ((ihl m ip).toNat * 4)
  m.set16 (ip + 10) (~~~result).toUInt16

end MoonState.Headers.IPv4
