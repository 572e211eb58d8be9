/-
The 5-tuple of a reply.

The lines that set the headers of a reply exchange the addresses and ports, if the UDP
header is behind the IPv4 header.  A UDP packet is identified by just these fields, so a
reply is identified by the reversed 5-tuple.
-/
import MoonState.Model.HelloByeNet
import MoonState.Proofs.HelloBye2

namespace MoonState

open Headers

/-! ### The reversed 5-tuple -/

namespace Headers

variable {m : Mem} {ipv4 udp : Nat}

theorem getSrcIP_setHeaders (h : ipv4 + 20 ≤ udp) :
    IPv4.getSrcIP (setHeaders m ipv4 udp) ipv4 = IPv4.getDstIP m ipv4 := by
  unfold setHeaders IPv4.getSrcIP IPv4.getDstIP Udp.setSrcPort Udp.setDstPort Udp.clearChecksum
    IPv4.clearChecksum IPv4.setSrcIP IPv4.setDstIP IPv4.setTtl
  simp (disch := omega) only [Mem.get32_set16, Mem.get32_set32, Mem.get32_set8]

theorem getDstIP_setHeaders (h : ipv4 + 20 ≤ udp) :
    IPv4.getDstIP (setHeaders m ipv4 udp) ipv4 = IPv4.getSrcIP m ipv4 := by
  unfold setHeaders IPv4.getSrcIP IPv4.getDstIP Udp.setSrcPort Udp.setDstPort Udp.clearChecksum
    IPv4.clearChecksum IPv4.setSrcIP IPv4.setDstIP IPv4.setTtl
  simp (disch := omega) only [Mem.get32_set16, Mem.get32_set32_of_ne, Mem.get32_set32,
    Mem.get32_set8]

theorem getSrcPort_setHeaders (h : ipv4 + 20 ≤ udp) :
    Udp.getSrcPort (setHeaders m ipv4 udp) udp = Udp.getDstPort m udp := by
  unfold setHeaders Udp.getSrcPort Udp.getDstPort Udp.setSrcPort Udp.setDstPort Udp.clearChecksum
    IPv4.clearChecksum IPv4.setSrcIP IPv4.setDstIP IPv4.setTtl
  simp (disch := omega) only [Mem.get16_set16, Mem.get16_set16_of_ne, Mem.get16_set32,
    Mem.get16_set8]

theorem getDstPort_setHeaders (h : ipv4 + 20 ≤ udp) :
    Udp.getDstPort (setHeaders m ipv4 udp) udp = Udp.getSrcPort m udp := by
  unfold setHeaders Udp.getSrcPort Udp.getDstPort Udp.setSrcPort Udp.setDstPort Udp.clearChecksum
    IPv4.clearChecksum IPv4.setSrcIP IPv4.setDstIP IPv4.setTtl
  simp (disch := omega) only [Mem.get16_set16, Mem.get16_set16_of_ne, Mem.get16_set32,
    Mem.get16_set8]

end Headers

namespace IPv4_5TupleL2Ident

variable {m m' : Mem}

@[simp] theorem ConnectionID.reverse_reverse (c : ConnectionID) : c.reverse.reverse = c := rfl

theorem ConnectionID.reverse_inj {c d : ConnectionID} : c.reverse = d.reverse ↔ c = d :=
  ⟨fun h => congrArg ConnectionID.reverse h, fun h => congrArg ConnectionID.reverse h⟩

/-- The 5-tuple of a UDP packet, from the fields of its headers. -/
theorem identify_udp (h : IPv4.proto m 14 = IPv4.PROTO_UDP) : identify m = some
    { dstIP := Bytes.htonl (IPv4.getDstIP m 14)
      srcIP := Bytes.htonl (IPv4.getSrcIP m 14)
      dstPort := Bytes.htons (Udp.getDstPort m (IPv4.getPayload m 14))
      srcPort := Bytes.htons (Udp.getSrcPort m (IPv4.getPayload m 14))
      proto := IPv4.PROTO_UDP } := by
  have hudp : IPv4.proto m 14 = IPPROTO_UDP := h
  unfold identify
  dsimp only
  rw [if_pos hudp, h]
  simp only [Mem.load16_eq, Mem.load32_eq]
  rfl

end IPv4_5TupleL2Ident

end MoonState
