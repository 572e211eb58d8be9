/-
The packet headers (`include/headers.hpp`).

The source lays packed structs over the bytes of a packet.  Here a header is an
address in memory, and each accessor reads or writes the bytes its field occupies,
in network byte order.  Nothing keeps two headers apart: the TCP header is where
the IHL of the IPv4 header says, even inside it.

Only the accessors the protocols use are here.
-/
import MoonState.Lib.Bytes

namespace MoonState.Headers

def sizeofEthernet : Nat := 14

def sizeofIPv4 : Nat := 20

def sizeofTcp : Nat := 20

def sizeofUdp : Nat := 8

/-- The Ethernet header is at the start of a packet. -/
def Ethernet.getEthertype (m : Mem) : UInt16 := m.get16 12

def Ethernet.ETHERTYPE_IPv4 : UInt16 := 0x0800

/-- `ethertype = htons(type)`. -/
def Ethernet.setEthertype (m : Mem) (type : UInt16) : Mem := m.set16 12 type

/-- `std::array<uint8_t, 6>`. -/
abbrev Mac := { bytes : List UInt8 // bytes.length = 6 }

def Ethernet.destMac (m : Mem) : Mac := ⟨m.read 0 6, m.length_read 0 6⟩

def Ethernet.srcMac (m : Mem) : Mac := ⟨m.read 6 6, m.length_read 6 6⟩

def Ethernet.setDstAddr (m : Mem) (addr : Mac) : Mem := m.write 0 addr.val

def Ethernet.setSrcAddr (m : Mem) (addr : Mac) : Mem := m.write 6 addr.val

namespace IPv4

def PROTO_UDP : UInt8 := 17

def proto (m : Mem) (ip : Nat) : UInt8 := m (ip + 9)

def setProtoUDP (m : Mem) (ip : Nat) : Mem := m.set8 (ip + 9) PROTO_UDP

/-- `(version_ihl & 0xf0) >> 4`; the assertion on it is not checked. -/
def version (m : Mem) (ip : Nat) : UInt8 := (m ip &&& 0xf0) >>> 4

def setVersion (m : Mem) (ip : Nat) : Mem := m.set8 ip (m ip &&& 0x0f ||| 0x40)

def setIHL (m : Mem) (ip : Nat) (len : UInt8) : Mem := m.set8 ip (m ip &&& 0xf0 ||| len &&& 0x0f)

def setLength (m : Mem) (ip : Nat) (len : UInt16) : Mem := m.set16 (ip + 2) len

def ihl (m : Mem) (ip : Nat) : UInt8 := m ip &&& 0x0f

def setPayloadLength (m : Mem) (ip : Nat) (len : UInt16) : Mem :=
  m.set16 (ip + 2) ((ihl m ip).toUInt16 * 4 + len)

def getPayloadLength (m : Mem) (ip : Nat) : UInt16 := m.get16 (ip + 2) - (ihl m ip).toUInt16 * 4

/-- `id = htons(v)`. -/
def setId (m : Mem) (ip : Nat) (v : UInt16) : Mem := m.set16 (ip + 4) v

/-- `ttl = v`. -/
def setTtl (m : Mem) (ip : Nat) (v : UInt8) : Mem := m.set8 (ip + 8) v

/-- `checksum = 0`. -/
def clearChecksum (m : Mem) (ip : Nat) : Mem := m.set16 (ip + 10) 0

def getSrcIP (m : Mem) (ip : Nat) : UInt32 := m.get32 (ip + 12)

def getDstIP (m : Mem) (ip : Nat) : UInt32 := m.get32 (ip + 16)

def setSrcIP (m : Mem) (ip : Nat) (v : UInt32) : Mem := m.set32 (ip + 12) v

def setDstIP (m : Mem) (ip : Nat) (v : UInt32) : Mem := m.set32 (ip + 16) v

def getPayload (m : Mem) (ip : Nat) : Nat := ip + 4 * (ihl m ip).toNat

end IPv4

namespace Tcp

def getSrcPort (m : Mem) (tcp : Nat) : UInt16 := m.get16 tcp

def getDstPort (m : Mem) (tcp : Nat) : UInt16 := m.get16 (tcp + 2)

def setSrcPort (m : Mem) (tcp : Nat) (p : UInt16) : Mem := m.set16 tcp p

def setDstPort (m : Mem) (tcp : Nat) (p : UInt16) : Mem := m.set16 (tcp + 2) p

def getSeq (m : Mem) (tcp : Nat) : UInt32 := m.get32 (tcp + 4)

def getAck (m : Mem) (tcp : Nat) : UInt32 := m.get32 (tcp + 8)

def setSeq (m : Mem) (tcp : Nat) (s : UInt32) : Mem := m.set32 (tcp + 4) s

def setAck (m : Mem) (tcp : Nat) (a : UInt32) : Mem := m.set32 (tcp + 8) a

def setOffset (m : Mem) (tcp : Nat) (offset : UInt8) : Mem := m.set8 (tcp + 12) (offset <<< 4)

def getHeaderLen (m : Mem) (tcp : Nat) : UInt8 := (m (tcp + 12) >>> 4) * 4

def flags (m : Mem) (tcp : Nat) : UInt8 := m (tcp + 13)

def getFinFlag (m : Mem) (tcp : Nat) : Bool := flags m tcp &&& 0x1 ≠ 0

def getSynFlag (m : Mem) (tcp : Nat) : Bool := flags m tcp &&& 0x2 ≠ 0

def getRstFlag (m : Mem) (tcp : Nat) : Bool := flags m tcp &&& 0x4 ≠ 0

def getAckFlag (m : Mem) (tcp : Nat) : Bool := flags m tcp &&& 0x10 ≠ 0

def clearFlags (m : Mem) (tcp : Nat) : Mem := m.set8 (tcp + 13) 0

def setFinFlag (m : Mem) (tcp : Nat) : Mem := m.set8 (tcp + 13) (flags m tcp ||| 0x1)

def setRstFlag (m : Mem) (tcp : Nat) : Mem := m.set8 (tcp + 13) (flags m tcp ||| 0x4)

def setAckFlag (m : Mem) (tcp : Nat) : Mem := m.set8 (tcp + 13) (flags m tcp ||| 0x10)

def getWindow (m : Mem) (tcp : Nat) : UInt16 := m.get16 (tcp + 14)

def setWindow (m : Mem) (tcp : Nat) (w : UInt16) : Mem := m.set16 (tcp + 14) w

def getPayload (tcp : Nat) : Nat := tcp + sizeofTcp

end Tcp

namespace Udp

def getSrcPort (m : Mem) (udp : Nat) : UInt16 := m.get16 udp

def getDstPort (m : Mem) (udp : Nat) : UInt16 := m.get16 (udp + 2)

def setSrcPort (m : Mem) (udp : Nat) (p : UInt16) : Mem := m.set16 udp p

def setDstPort (m : Mem) (udp : Nat) (p : UInt16) : Mem := m.set16 (udp + 2) p

def setPayloadLength (m : Mem) (udp : Nat) (length : UInt16) : Mem :=
  m.set16 (udp + 4) (length + 8)

/-- `ntohs(len) - sizeof(Udp)`, in 16 bits. -/
def getPayloadLength (m : Mem) (udp : Nat) : UInt16 := m.get16 (udp + 4) - 8

/-- `checksum = 0`. -/
def clearChecksum (m : Mem) (udp : Nat) : Mem := m.set16 (udp + 6) 0

def getPayload (udp : Nat) : Nat := udp + sizeofUdp

end Udp

end MoonState.Headers
