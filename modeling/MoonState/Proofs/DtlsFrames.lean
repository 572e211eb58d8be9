/-
A record in a packet.

The server sets the IHL of a packet before it asks where the UDP header is, and so does
not depend on what is in the packet.  The client asks first: what it writes is a frame
when the packet says five words already, and with any other IHL the ports or the end of
the record are what was in the packet before.
-/
import MoonState.Model.Dtls
import MoonState.Proofs.Headers

namespace MoonState

open Headers DTLS

/-! ### The header -/

namespace Headers

/-- Version and IHL are set, whatever was there. -/
theorem IPv4.setIHL_setVersion (m : Mem) (ip : Nat) : setIHL (setVersion m ip) ip 5 ip = 0x45 := by
  have hversion : setVersion m ip ip = m ip &&& 0x0f ||| 0x40 := Mem.set8_self _ _ _
  rw [setIHL, Mem.set8_self, hversion]
  refine UInt8.toNat_inj.mp ?_
  show ((m ip).toNat &&& 15 ||| 64) &&& 240 ||| 5 = 69
  rw [Nat.and_or_distrib_right, Nat.and_assoc, show 15 &&& 240 = 0 from rfl, Nat.and_zero]
  rfl

/-- Only their byte is written. -/
theorem IPv4.setIHL_setVersion_of_ne (m : Mem) {ip j : Nat} (h : j ≠ ip) :
    setIHL (setVersion m ip) ip 5 j = m j := by
  rw [setIHL, Mem.set8_of_ne _ h, setVersion, Mem.set8_of_ne _ h]

theorem IPv4.getPayload_of_five {m : Mem} {ip : Nat} (h : m ip = 0x45) :
    getPayload m ip = ip + 20 := by
  unfold getPayload ihl
  rw [h]
  rfl

end Headers

namespace DTLS

/-- Where the frames of a connection come from and go to; the client knows no MAC addresses. -/
structure Endpoint where
  localIP : UInt32
  remoteIP : UInt32
  localPort : UInt16
  remotePort : UInt16
  macs : Option (Mac × Mac)

/-- A frame of the connection that carries the bytes. -/
structure Framed (e : Endpoint) (bytes : List UInt8) (p : Mbuf) : Prop where
  ethertype : Ethernet.getEthertype p.data = Ethernet.ETHERTYPE_IPv4
  version : IPv4.version p.data sizeofEthernet = 4
  ihl : IPv4.ihl p.data sizeofEthernet = 5
  proto : IPv4.proto p.data sizeofEthernet = IPv4.PROTO_UDP
  srcIP : IPv4.getSrcIP p.data sizeofEthernet = e.localIP
  dstIP : IPv4.getDstIP p.data sizeofEthernet = e.remoteIP
  srcPort : Udp.getSrcPort p.data 34 = e.localPort
  dstPort : Udp.getDstPort p.data 34 = e.remotePort
  dataLen : p.dataLen.toNat = 42 + bytes.length
  ipLen : (p.data.get16 16).toNat = 28 + bytes.length
  udpLen : (p.data.get16 38).toNat = 8 + bytes.length
  payload : p.data.read 42 bytes.length = bytes
  macs : ∀ localMac remoteMac, e.macs = some (localMac, remoteMac) →
    Ethernet.srcMac p.data = localMac ∧ Ethernet.destMac p.data = remoteMac

/-! ### One record -/

section header

variable {localIP remoteIP : UInt32} {localPort remotePort dataLen : UInt16} {m : Mem}

/-- In front of the lengths, and behind the UDP header, nothing is written. -/
theorem setHeader_of_notMem {udp j : Nat} (hj : j < 16 ∨ 34 ≤ j) (hudp : j < udp ∨ udp + 6 ≤ j) :
    setHeader localIP remoteIP localPort remotePort m udp dataLen j = m j := by
  unfold setHeader
  simp (disch := omega) only [sizeofEthernet, IPv4.setPayloadLength, IPv4.setProtoUDP,
    IPv4.setSrcIP, IPv4.setDstIP, IPv4.clearChecksum, IPv4.setTtl, Udp.setDstPort, Udp.setSrcPort,
    Udp.setPayloadLength, Mem.set8_of_ne, Mem.set16_of_ne, Mem.set32_of_ne]

variable {udp : Nat} (h : 34 ≤ udp)

include h

theorem getSrcIP_setHeader : IPv4.getSrcIP
    (setHeader localIP remoteIP localPort remotePort m udp dataLen) sizeofEthernet = localIP := by
  unfold setHeader IPv4.getSrcIP Udp.setPayloadLength Udp.setSrcPort Udp.setDstPort IPv4.setTtl
    IPv4.clearChecksum IPv4.setDstIP IPv4.setSrcIP
  simp (disch := omega) only [sizeofEthernet, Mem.get32_set16, Mem.get32_set32_of_ne,
    Mem.get32_set32, Mem.get32_set8]

theorem getDstIP_setHeader : IPv4.getDstIP
    (setHeader localIP remoteIP localPort remotePort m udp dataLen) sizeofEthernet = remoteIP := by
  unfold setHeader IPv4.getDstIP Udp.setPayloadLength Udp.setSrcPort Udp.setDstPort IPv4.setTtl
    IPv4.clearChecksum IPv4.setDstIP
  simp (disch := omega) only [sizeofEthernet, Mem.get32_set16, Mem.get32_set32, Mem.get32_set8]

omit h in
theorem getSrcPort_setHeader : Udp.getSrcPort
    (setHeader localIP remoteIP localPort remotePort m udp dataLen) udp = localPort := by
  unfold setHeader Udp.getSrcPort Udp.setPayloadLength Udp.setSrcPort
  simp (disch := omega) only [Mem.get16_set16_of_ne, Mem.get16_set16]

omit h in
theorem getDstPort_setHeader : Udp.getDstPort
    (setHeader localIP remoteIP localPort remotePort m udp dataLen) udp = remotePort := by
  unfold setHeader Udp.getDstPort Udp.setPayloadLength Udp.setSrcPort Udp.setDstPort
  simp (disch := omega) only [Mem.get16_set16_of_ne, Mem.get16_set16]

theorem proto_setHeader : IPv4.proto
    (setHeader localIP remoteIP localPort remotePort m udp dataLen) sizeofEthernet
      = IPv4.PROTO_UDP := by
  unfold setHeader IPv4.proto Udp.setPayloadLength Udp.setSrcPort Udp.setDstPort IPv4.setTtl
    IPv4.clearChecksum IPv4.setDstIP IPv4.setSrcIP IPv4.setProtoUDP
  simp (disch := omega) only [sizeofEthernet, Mem.set16_of_ne, Mem.set32_of_ne, Mem.set8_of_ne,
    Mem.set8_self]

/-- The length in the IP header counts the IHL that is in the packet. -/
theorem ipLen_setHeader :
    (setHeader localIP remoteIP localPort remotePort m udp dataLen).get16 (sizeofEthernet + 2)
      = (IPv4.ihl m sizeofEthernet).toUInt16 * 4 + (dataLen + UInt16.ofNat sizeofUdp) := by
  unfold setHeader Udp.setPayloadLength Udp.setSrcPort Udp.setDstPort IPv4.setTtl
    IPv4.clearChecksum IPv4.setDstIP IPv4.setSrcIP IPv4.setProtoUDP IPv4.setPayloadLength
  simp (disch := omega) only [sizeofEthernet, Mem.get16_set16_of_ne, Mem.get16_set32,
    Mem.get16_set8, Mem.get16_set16]

omit h in
theorem udpLen_setHeader :
    (setHeader localIP remoteIP localPort remotePort m udp dataLen).get16 (udp + 4)
      = dataLen + 8 := by
  unfold setHeader Udp.setPayloadLength
  exact Mem.get16_set16 _ _ _

omit h in
/-- The header makes a frame of a packet with the record in its place. -/
theorem framed_setHeader {bytes : List UInt8} {macs : Option (Mac × Mac)} {p : Mbuf} (m : Mem)
    (hethertype : Ethernet.getEthertype m = Ethernet.ETHERTYPE_IPv4) (hversion : m 14 = 0x45)
    (hpayload : m.read 42 bytes.length = bytes) (hlen : 42 + bytes.length < 2 ^ 16)
    (hmacs : ∀ localMac remoteMac, macs = some (localMac, remoteMac) →
      Ethernet.srcMac m = localMac ∧ Ethernet.destMac m = remoteMac)
    (hdata : p.data
      = setHeader localIP remoteIP localPort remotePort m 34 (UInt16.ofNat bytes.length))
    (hdataLen : p.dataLen = UInt16.ofNat bytes.length + UInt16.ofNat allHeaderLength) :
    Framed ⟨localIP, remoteIP, localPort, remotePort, macs⟩ bytes p := by
  have hlow : ∀ {i n}, i + n ≤ 16 → p.data.read i n = m.read i n := fun hi => by
    rw [hdata]
    exact Mem.read_congr fun j _ hj => setHeader_of_notMem (Or.inl (by omega)) (Or.inl (by omega))
  have hbyte : p.data 14 = 0x45 := by
    rw [hdata, setHeader_of_notMem (Or.inl (by decide)) (Or.inl (by decide)), hversion]
  have hbytes : (UInt16.ofNat bytes.length).toNat = bytes.length :=
    UInt16.toNat_ofNat_of_lt (by exact (by omega : bytes.length < 2 ^ 16))
  have hsize : (UInt16.ofNat sizeofUdp).toNat = 8 := rfl
  constructor
  case ethertype =>
    rw [← hethertype, Ethernet.getEthertype, Mem.get16, hlow (by decide)]
    rfl
  case version =>
    rw [IPv4.version, sizeofEthernet, hbyte]
    rfl
  case ihl =>
    rw [IPv4.ihl, sizeofEthernet, hbyte]
    rfl
  case proto => rw [hdata, proto_setHeader (by decide)]
  case srcIP => rw [hdata, getSrcIP_setHeader (by decide)]
  case dstIP => rw [hdata, getDstIP_setHeader (by decide)]
  case srcPort => rw [hdata, getSrcPort_setHeader]
  case dstPort => rw [hdata, getDstPort_setHeader]
  case dataLen =>
    have hheader : (UInt16.ofNat allHeaderLength).toNat = 42 := rfl
    rw [hdataLen, UInt16.toNat_add, hbytes, hheader]
    omega
  case ipLen =>
    have hihl : (IPv4.ihl m sizeofEthernet).toUInt16 = 5 := by
      rw [IPv4.ihl, sizeofEthernet, hversion]
      rfl
    have hip : p.data.get16 16
        = (IPv4.ihl m sizeofEthernet).toUInt16 * 4
          + (UInt16.ofNat bytes.length + UInt16.ofNat sizeofUdp) := by
      rw [hdata]
      exact ipLen_setHeader (Nat.le_refl 34)
    rw [hip, hihl, UInt16.toNat_add, UInt16.toNat_add, hbytes, hsize]
    show (20 + (bytes.length + 8) % 65536) % 65536 = _
    omega
  case udpLen =>
    rw [hdata, udpLen_setHeader, UInt16.toNat_add, hbytes]
    show (bytes.length + 8) % 65536 = _
    omega
  case payload =>
    rw [hdata]
    refine Eq.trans (Mem.read_congr fun j hj _ => ?_) hpayload
    exact setHeader_of_notMem (Or.inr (by omega)) (Or.inr (by omega))
  case macs =>
    intro localMac remoteMac hm
    obtain ⟨hsrc, hdst⟩ := hmacs localMac remoteMac hm
    refine ⟨?_, ?_⟩
    · rw [← hsrc]
      exact Subtype.ext (hlow (by decide))
    · rw [← hdst]
      exact Subtype.ext (hlow (by decide))

end header

end DTLS

/-! ### A record in a packet of the server -/

namespace DTLS_Server

variable {S : Type}

/-- What a server sends with. -/
def dtlsServer.endpoint (server : dtlsServer S) : Endpoint :=
  ⟨server.localIP, server.remoteIP, server.localPort, server.remotePort,
    some (server.localMac, server.remoteMac)⟩

/-- The MAC addresses, with what is written where the packet starts. -/
def addressed (server : dtlsServer S) (m : Mem) : Mem :=
  Ethernet.setSrcAddr (Ethernet.setDstAddr m server.remoteMac) server.localMac

theorem addressed_of_le (server : dtlsServer S) (m : Mem) {j : Nat} (hj : 12 ≤ j) :
    addressed server m j = m j := by
  have hdst := server.remoteMac.property
  have hsrc := server.localMac.property
  rw [addressed, Ethernet.setSrcAddr, Mem.write_of_notMem (by omega), Ethernet.setDstAddr,
    Mem.write_of_notMem (by omega)]

theorem srcMac_addressed (server : dtlsServer S) (m : Mem) :
    Ethernet.srcMac (addressed server m) = server.localMac := by
  have h := Mem.read_write_self (Ethernet.setDstAddr m server.remoteMac) 6 server.localMac.val
  rw [server.localMac.property] at h
  exact Subtype.ext h

theorem destMac_addressed (server : dtlsServer S) (m : Mem) :
    Ethernet.destMac (addressed server m) = server.remoteMac := by
  have h := Mem.read_write_self m 0 server.remoteMac.val
  rw [server.remoteMac.property] at h
  refine Subtype.ext (Eq.trans ?_ h)
  exact Mem.read_write_of_disjoint (Or.inl (by decide))

theorem framed_fill (server : dtlsServer S) {bytes : List UInt8} (p : Mbuf)
    (hlen : 42 + bytes.length < 2 ^ 16) : Framed server.endpoint bytes (fill server bytes p) := by
  have hudp : IPv4.getPayload (IPv4.setIHL (IPv4.setVersion p.data 14) 14 5) 14 = 34 :=
    IPv4.getPayload_of_five (IPv4.setIHL_setVersion _ _)
  let placed := (IPv4.setIHL (IPv4.setVersion p.data 14) 14 5).write 42 bytes
  let typed := Ethernet.setEthertype (addressed server placed) Ethernet.ETHERTYPE_IPv4
  have htyped : ∀ {i n}, i + n ≤ 14 ∨ 15 ≤ i →
      (IPv4.setIHL (IPv4.setVersion typed 14) 14 5).read i n = typed.read i n := fun hi =>
    Mem.read_congr fun j _ _ => IPv4.setIHL_setVersion_of_ne _ (by omega)
  have hmacs : ∀ {i n}, i + n ≤ 12 → typed.read i n = (addressed server placed).read i n :=
    fun hi => Mem.read_congr fun j _ _ => Mem.set16_of_ne _ (by omega)
  refine framed_setHeader (IPv4.setIHL (IPv4.setVersion typed 14) 14 5) ?_
    (IPv4.setIHL_setVersion _ _) ?_ hlen ?_ ?_ rfl
  case refine_1 =>
    rw [Ethernet.getEthertype, Mem.get16, htyped (by decide)]
    exact Mem.get16_set16 _ _ _
  case refine_2 =>
    have hplaced : placed.read 42 bytes.length = bytes := Mem.read_write_self _ 42 bytes
    rw [htyped (Or.inr (by decide))]
    refine (Mem.read_congr fun j hj _ => ?_).trans hplaced
    exact (Mem.set16_of_ne _ (by omega)).trans (addressed_of_le server _ (by omega))
  case refine_3 =>
    intro localMac remoteMac h
    obtain ⟨rfl, rfl⟩ := Prod.mk.inj (Option.some.inj h)
    refine ⟨?_, ?_⟩
    · rw [← srcMac_addressed server placed]
      exact Subtype.ext ((htyped (by decide)).trans (hmacs (by decide)))
    · rw [← destMac_addressed server placed]
      exact Subtype.ext ((htyped (by decide)).trans (hmacs (by decide)))
  case refine_4 =>
    unfold fill
    simp only [sizeofEthernet, hudp]
    rfl

theorem framed_fillXtra (server : dtlsServer S) {bytes : List UInt8} (p : Mbuf)
    (hlen : 42 + bytes.length < 2 ^ 16) :
    Framed server.endpoint bytes (fillXtra server bytes p) := by
  have hudp : IPv4.getPayload (IPv4.setIHL (IPv4.setVersion p.data 14) 14 5) 14 = 34 :=
    IPv4.getPayload_of_five (IPv4.setIHL_setVersion _ _)
  let placed := (IPv4.setIHL (IPv4.setVersion p.data 14) 14 5).write 42 bytes
  let typed := Ethernet.setEthertype placed Ethernet.ETHERTYPE_IPv4
  refine framed_setHeader (addressed server typed) ?_ ?_ ?_ hlen ?_ ?_ rfl
  case refine_1 =>
    refine Eq.trans (Mem.Same.get16 fun j hj _ => ?_) (Mem.get16_set16 placed 12 _)
    exact addressed_of_le server typed hj
  case refine_2 =>
    rw [addressed_of_le server typed (by decide)]
    refine (Mem.set16_of_ne _ (Or.inr (by decide))).trans ?_
    exact (Mem.write_of_notMem (Or.inl (by decide))).trans (IPv4.setIHL_setVersion _ _)
  case refine_3 =>
    have hplaced : placed.read 42 bytes.length = bytes := Mem.read_write_self _ 42 bytes
    refine (Mem.read_congr fun j hj _ => ?_).trans hplaced
    exact (addressed_of_le server typed (by omega)).trans (Mem.set16_of_ne _ (by omega))
  case refine_4 =>
    intro localMac remoteMac h
    obtain ⟨rfl, rfl⟩ := Prod.mk.inj (Option.some.inj h)
    exact ⟨srcMac_addressed server typed, destMac_addressed server typed⟩
  case refine_5 =>
    unfold fillXtra
    simp only [sizeofEthernet, hudp]
    rfl

end DTLS_Server

/-! ### A record in a packet of the client -/

namespace DTLS_Client

variable {S : Type} (client : dtlsClient S)

/-- What a client sends with. -/
def dtlsClient.endpoint : Endpoint :=
  ⟨client.localIP, client.remoteIP, client.localPort, client.remotePort, none⟩

/-- With five words in the IP header already, the record is where it should be. -/
theorem framed_fill {bytes : List UInt8} {p : Mbuf} (hihl : IPv4.ihl p.data sizeofEthernet = 5)
    (hlen : 42 + bytes.length < 2 ^ 16) : Framed client.endpoint bytes (fill client bytes p) := by
  have hudp : IPv4.getPayload p.data 14 = 34 := by
    have hihl' : IPv4.ihl p.data 14 = 5 := hihl
    rw [IPv4.getPayload, hihl']
    rfl
  let placed := p.data.write 42 bytes
  let typed := Ethernet.setEthertype placed Ethernet.ETHERTYPE_IPv4
  refine framed_setHeader (IPv4.setIHL (IPv4.setVersion typed 14) 14 5) ?_
    (IPv4.setIHL_setVersion _ _) ?_ hlen ?_ ?_ rfl
  case refine_1 =>
    refine Eq.trans (Mem.Same.get16 fun j _ hj => ?_) (Mem.get16_set16 placed 12 _)
    exact IPv4.setIHL_setVersion_of_ne _ (by omega)
  case refine_2 =>
    refine Eq.trans (Mem.read_congr fun j hj _ => ?_) (Mem.read_write_self p.data 42 bytes)
    exact (IPv4.setIHL_setVersion_of_ne _ (by omega)).trans (Mem.set16_of_ne _ (by omega))
  case refine_3 =>
    intro localMac remoteMac h
    simp at h
  case refine_4 =>
    unfold fill
    simp only [sizeofEthernet, hudp]
    rfl

/-- What the client writes behind the IP header is where the packet says the UDP header is. -/
theorem fill_of_notMem {bytes : List UInt8} {p : Mbuf} {j : Nat} (hj : 34 ≤ j)
    (hudp : j < IPv4.getPayload p.data sizeofEthernet ∨
      IPv4.getPayload p.data sizeofEthernet + 8 + bytes.length ≤ j) :
    (fill client bytes p).data j = p.data j := by
  unfold fill
  dsimp only
  rw [setHeader_of_notMem (Or.inr hj) (by omega), sizeofEthernet,
    IPv4.setIHL_setVersion_of_ne _ (by omega)]
  refine (Mem.set16_of_ne _ (by omega)).trans (Mem.write_of_notMem ?_)
  rw [Udp.getPayload, sizeofUdp]
  rw [sizeofEthernet] at hudp
  omega

/-- A byte that the client does not write, and that a frame of the record needs. -/
theorem exists_not_framed_of_byte {bytes : List UInt8} (p : Mbuf) {j : Nat} {v : UInt8}
    (hj : 34 ≤ j) (hudp : j < IPv4.getPayload p.data sizeofEthernet ∨
      IPv4.getPayload p.data sizeofEthernet + 8 + bytes.length ≤ j)
    (hv : ∀ q, Framed client.endpoint bytes q → q.data j = v) :
    ∃ q : Mbuf, IPv4.ihl q.data sizeofEthernet = IPv4.ihl p.data sizeofEthernet ∧
      q.bufLen = p.bufLen ∧ ¬ Framed client.endpoint bytes (fill client bytes q) := by
  let q : Mbuf := { p with data := p.data.set8 j (v + 1) }
  have hbyte : q.data sizeofEthernet = p.data sizeofEthernet :=
    Mem.set8_of_ne _ (by rw [sizeofEthernet]; omega)
  refine ⟨q, by rw [IPv4.ihl, hbyte]; rfl, rfl, fun h => ?_⟩
  have hkept : (fill client bytes q).data j = v + 1 := by
    rw [fill_of_notMem client hj (by rwa [IPv4.getPayload_congr hbyte])]
    exact Mem.set8_self _ _ _
  have hv' : v = v + 1 := (hv _ h).symm.trans hkept
  have hnat := congrArg UInt8.toNat hv'
  rw [UInt8.toNat_add, show (1 : UInt8).toNat = 1 from rfl] at hnat
  have hlt := v.toNat_lt
  omega

/-- With another IHL the ports, or the last byte of the record, are what was there. -/
theorem exists_not_framed_fill {bytes : List UInt8} (p : Mbuf)
    (hihl : IPv4.ihl p.data sizeofEthernet ≠ 5) (hbytes : bytes ≠ []) :
    ∃ q : Mbuf, IPv4.ihl q.data sizeofEthernet = IPv4.ihl p.data sizeofEthernet ∧
      q.bufLen = p.bufLen ∧ ¬ Framed client.endpoint bytes (fill client bytes q) := by
  have hne : (IPv4.ihl p.data sizeofEthernet).toNat ≠ 5 :=
    fun h => hihl (UInt8.toNat_inj.mp h)
  have hudp : IPv4.getPayload p.data sizeofEthernet
      = 14 + 4 * (IPv4.ihl p.data sizeofEthernet).toNat := rfl
  rcases Nat.lt_or_gt_of_ne hne with hlt | hgt
  · obtain ⟨bs, b, rfl⟩ := (List.eq_nil_or_concat' bytes).resolve_left hbytes
    refine exists_not_framed_of_byte client p (Nat.le_add_right_of_le (by decide : 34 ≤ 42))
      (Or.inr ?_) (v := b) (j := 42 + bs.length) fun q hq => ?_
    · rw [List.length_append, List.length_singleton]
      omega
    · have hread := hq.payload
      rw [List.length_append, List.length_singleton, Mem.read_append] at hread
      exact List.head_eq_of_cons_eq (List.append_inj_right hread (Mem.length_read _ _ _))
  · refine exists_not_framed_of_byte client p (Nat.le_refl 34) (Or.inl (by omega))
      (v := UInt8.ofNat (client.localPort.toNat / 256 ^ 1)) fun q hq => ?_
    have hread := Mem.ofNatBE_get16 q.data 34
    rw [show q.data.get16 34 = client.localPort from hq.srcPort] at hread
    exact (List.head_eq_of_cons_eq hread).symm

end DTLS_Client

end MoonState
