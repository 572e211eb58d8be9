/-
Which frames the 5-tuple identifies.

`identify` looks at one byte, the protocol, and reads the addresses before it does.
Neither the EtherType nor the version nor the IHL is checked, and the length of the
frame is asked for by nothing but the dump.  So it is right about the frames that are
what it takes them for, and about those it can tell by that byte and that hold it.
-/
import MoonState.Model.Identifier

namespace MoonState.IPv4_5TupleL2Ident

open Headers Reading

/-! ### What is to be identified -/

/-- The frame is IPv4 with UDP or TCP, and holds the header and the ports. -/
structure Valid (p : Packet) : Prop where
  ethertype : Ethernet.getEthertype p.data = Ethernet.ETHERTYPE_IPv4
  version : IPv4.version p.data 14 = 4
  ihl : 5 ≤ IPv4.ihl p.data 14
  proto : IPv4.proto p.data 14 = IPPROTO_UDP ∨ IPv4.proto p.data 14 = IPPROTO_TCP
  long : IPv4.getPayload p.data 14 + 4 ≤ p.dataLen.toNat

/-- The addresses, the ports and the protocol of a frame, in network byte order. -/
def fields (p : Packet) : ConnectionID where
  dstIP := Bytes.htonl (IPv4.getDstIP p.data 14)
  srcIP := Bytes.htonl (IPv4.getSrcIP p.data 14)
  dstPort := Bytes.htons (Udp.getDstPort p.data (IPv4.getPayload p.data 14))
  srcPort := Bytes.htons (Udp.getSrcPort p.data (IPv4.getPayload p.data 14))
  proto := IPv4.proto p.data 14

/-- **`identify` is right**: a valid frame gets its fields, every other one is refused, and
either way nothing outside the frame is read. -/
def Right (p : Packet) : Prop :=
  (Valid p → (identifyReads p p.data).1 = some (fields p)) ∧
    (¬ Valid p → (identifyReads p p.data).1 = none) ∧
    Inside p.dataLen.toNat (identifyReads p p.data).2

/-! ### What is read -/

/-- The fields as the host reads them. -/
theorem fields_eq (p : Packet) : fields p =
    { dstIP := p.data.load32 30, srcIP := p.data.load32 26
      dstPort := p.data.load16 (IPv4.getPayload p.data 14 + 2)
      srcPort := p.data.load16 (IPv4.getPayload p.data 14), proto := p.data 23 } := by
  rw [Mem.load32_eq, Mem.load32_eq, Mem.load16_eq, Mem.load16_eq]
  rfl

/-- A frame whose protocol byte is one of the two: its ports are read where its IHL says. -/
theorem identifyReads_of_known {p : Packet}
    (h : IPv4.proto p.data 14 = IPPROTO_UDP ∨ IPv4.proto p.data 14 = IPPROTO_TCP) :
    identifyReads p p.data = (some (fields p),
      [(30, 4), (26, 4), (23, 1), (14, 1), (IPv4.getPayload p.data 14 + 2, 2),
        (IPv4.getPayload p.data 14, 2)]) := by
  rw [fields_eq]
  rcases h with hudp | htcp
  · have hudp' : p.data (14 + 9) = IPPROTO_UDP := hudp
    simp [identifyReads, payload, hudp', IPv4.getPayload, IPv4.ihl]
  · have htcp' : p.data (14 + 9) = IPPROTO_TCP := htcp
    have hne : ¬ IPPROTO_TCP = IPPROTO_UDP := by decide
    simp [identifyReads, payload, htcp', hne, IPv4.getPayload, IPv4.ihl]

/-- Any other one is dumped. -/
theorem identifyReads_of_other {p : Packet}
    (h : ¬ (IPv4.proto p.data 14 = IPPROTO_UDP ∨ IPv4.proto p.data 14 = IPPROTO_TCP)) :
    identifyReads p p.data
      = (none, [(30, 4), (26, 4), (23, 1), (0, p.dataLen.toNat)]) := by
  obtain ⟨hudp, htcp⟩ := not_or.mp h
  have hudp' : ¬ p.data 23 = IPPROTO_UDP := hudp
  have htcp' : ¬ p.data 23 = IPPROTO_TCP := htcp
  simp [identifyReads, hudp', htcp']

/-- The reads do not change what `identify` computes. -/
theorem identifyReads_fst (p : Packet) : (identifyReads p p.data).1 = identifier.identify p := by
  show _ = identify p.data
  unfold identify
  dsimp only
  by_cases hudp : IPv4.proto p.data 14 = IPPROTO_UDP
  · rw [identifyReads_of_known (Or.inl hudp), fields_eq, if_pos hudp]
    rfl
  · by_cases htcp : IPv4.proto p.data 14 = IPPROTO_TCP
    · rw [identifyReads_of_known (Or.inr htcp), fields_eq, if_neg hudp, if_pos htcp]
      rfl
    · rw [identifyReads_of_other (not_or.mpr ⟨hudp, htcp⟩), if_neg hudp, if_neg htcp]

/--
**Which frames the 5-tuple identifier is right about.**

For every frame of every length: exactly the ones it is for, and those that say another
protocol where the protocol would be and reach to the end of the addresses.
-/
theorem identify_right_iff (p : Packet) : Right p ↔
    Valid p ∨ (¬ (IPv4.proto p.data 14 = IPPROTO_UDP ∨ IPv4.proto p.data 14 = IPPROTO_TCP) ∧
      34 ≤ p.dataLen.toNat) := by
  by_cases hproto : IPv4.proto p.data 14 = IPPROTO_UDP ∨ IPv4.proto p.data 14 = IPPROTO_TCP
  · rw [Right, identifyReads_of_known hproto]
    constructor
    · intro h
      by_contra hnot
      have hinvalid : ¬ Valid p := fun hvalid => hnot (Or.inl hvalid)
      simpa using h.2.1 hinvalid
    · intro h
      rcases h with hvalid | hother
      · have hihl : 5 ≤ (IPv4.ihl p.data 14).toNat := hvalid.ihl
        have hlong := hvalid.long
        have hpayload : IPv4.getPayload p.data 14 = 14 + 4 * (IPv4.ihl p.data 14).toNat := rfl
        refine ⟨fun _ => rfl, fun hinvalid => absurd hvalid hinvalid, ?_⟩
        simp only [inside_cons, inside_nil, and_true]
        omega
      · exact absurd hproto hother.1
  · rw [Right, identifyReads_of_other hproto]
    constructor
    · intro h
      have hinside := h.2.2
      simp only [inside_cons, inside_nil, and_true] at hinside
      exact Or.inr ⟨hproto, by omega⟩
    · intro h
      rcases h with hvalid | hother
      · exact absurd hvalid.proto hproto
      · refine ⟨fun hvalid => absurd hvalid.proto hproto, fun _ => rfl, ?_⟩
        have hlen := hother.2
        simp only [inside_cons, inside_nil, and_true]
        omega

/-- An ARP request of a host whose MAC address has 17 as its second byte. -/
def arp : Packet where
  data := Mem.set8 (Mem.set8 (Mem.set8 (fun _ => 0) 12 8) 13 6) 23 17
  dataLen := 60

/-- It gets a `ConnectionID`. -/
theorem arp_not_right : (identifier.identify arp).isSome ∧ ¬ Right arp := by
  refine ⟨rfl, fun h => ?_⟩
  have hinvalid : ¬ Valid arp := fun hvalid => absurd hvalid.ethertype (by decide)
  have hnone := h.2.1 hinvalid
  rw [identifyReads_fst] at hnone
  simp [show (identifier.identify arp) = some _ from rfl] at hnone

end MoonState.IPv4_5TupleL2Ident
