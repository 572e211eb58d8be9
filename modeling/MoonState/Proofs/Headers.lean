/-
What the header accessors read and leave alone.

The writes of the server come in a few groups, and a group is described by the
addresses it stays away from.  A field keeps what it is when its bytes are not among
those a group writes.
-/
import MoonState.Model.Tcp

namespace MoonState

open Headers

namespace Headers

/-! ### The small fields -/

theorem IPv4.ihl_toNat (m : Mem) (ip : Nat) : (ihl m ip).toNat = (m ip).toNat % 16 := by
  unfold ihl
  rw [UInt8.toNat_and]
  exact Nat.and_two_pow_sub_one_eq_mod _ 4

theorem Tcp.getHeaderLen_toNat (m : Mem) (tcp : Nat) :
    (getHeaderLen m tcp).toNat = (m (tcp + 12)).toNat / 16 * 4 := by
  unfold getHeaderLen
  have h := (m (tcp + 12)).toNat_lt
  rw [UInt8.toNat_mul, UInt8.toNat_shiftRight]
  show (m (tcp + 12)).toNat >>> 4 * 4 % 256 = _
  rw [Nat.shiftRight_eq_div_pow]
  omega

theorem Tcp.getHeaderLen_setOffset (m : Mem) (tcp : Nat) :
    getHeaderLen (setOffset m tcp 5) tcp = 20 := by
  unfold getHeaderLen setOffset
  rw [Mem.set8_self]
  decide

/-- The TCP header starts inside or right behind the IPv4 header. -/
theorem IPv4.getPayload_bounds (m : Mem) (ip : Nat) :
    ip ≤ getPayload m ip ∧ getPayload m ip ≤ ip + 60 := by
  unfold getPayload
  rw [ihl_toNat]
  omega

theorem IPv4.getPayload_congr {m m' : Mem} {ip : Nat} (h : m' ip = m ip) :
    getPayload m' ip = getPayload m ip := by
  unfold getPayload ihl
  rw [h]

theorem Tcp.getHeaderLen_congr {m m' : Mem} {tcp : Nat} (h : m' (tcp + 12) = m (tcp + 12)) :
    getHeaderLen m' tcp = getHeaderLen m tcp := by
  unfold getHeaderLen
  rw [h]

theorem Tcp.flags_congr {m m' : Mem} {tcp : Nat} (h : m' (tcp + 13) = m (tcp + 13)) :
    flags m' tcp = flags m tcp := h

end Headers

namespace TCP

/-! ### The groups of writes -/

/-- Turning the packet around writes the addresses and ports, the TTL and the checksum. -/
theorem swapAddresses_of_ne {m : Mem} {ip tcp j : Nat}
    (hip : j < ip + 8 ∨ j = ip + 9 ∨ ip + 20 ≤ j) (htcp : j < tcp ∨ tcp + 4 ≤ j) :
    swapAddresses m ip tcp j = m j := by
  unfold swapAddresses
  simp (disch := omega) only [IPv4.clearChecksum, IPv4.setTtl, Tcp.setDstPort, Tcp.setSrcPort,
    IPv4.setDstIP, IPv4.setSrcIP, Mem.set8_of_ne, Mem.set16_of_ne, Mem.set32_of_ne]

variable {σ κ : Type}

/-- The header of an answer is what stands between the ports and the window. -/
theorem answerHeader_of_ne {c : Connection σ κ} {m : Mem} {tcp j : Nat}
    (h : j < tcp + 4 ∨ tcp + 14 ≤ j) : answerHeader c m tcp j = m j := by
  unfold answerHeader
  simp (disch := omega) only [Tcp.setOffset, Tcp.setAck, Tcp.setSeq, Tcp.setAckFlag,
    Tcp.clearFlags, Mem.set8_of_ne, Mem.set32_of_ne]

theorem getHeaderLen_answerHeader (c : Connection σ κ) (m : Mem) (tcp : Nat) :
    Tcp.getHeaderLen (answerHeader c m tcp) tcp = 20 :=
  Tcp.getHeaderLen_setOffset _ _

/-- The length of the payload depends on the total length, the IHL and the data offset. -/
theorem payloadLen_congr {m m' : Mem} {ip tcp : Nat} (hihl : m' ip = m ip)
    (htot : m'.get16 (ip + 2) = m.get16 (ip + 2)) (hoff : m' (tcp + 12) = m (tcp + 12)) :
    payloadLen m' ip tcp = payloadLen m ip tcp := by
  unfold payloadLen IPv4.getPayloadLength IPv4.ihl
  rw [hihl, htot, Tcp.getHeaderLen_congr hoff]

end TCP

end MoonState
