/-
The 5-tuple of a packet (`include/IPv4_5TupleL2Ident.hpp`).

The fields of a `ConnectionID` hold the bytes of the packet as they are, read as
numbers of the host.
-/
import MoonState.Model.Headers

namespace MoonState.IPv4_5TupleL2Ident

open Headers

structure ConnectionID where
  dstIP : UInt32
  srcIP : UInt32
  dstPort : UInt16
  srcPort : UInt16
  proto : UInt8
deriving DecidableEq, Repr

def IPPROTO_UDP : UInt8 := 17

def IPPROTO_TCP : UInt8 := 6

/-- `identify` on the bytes of a packet; `none` where it throws.  The ports are in the same place
in both headers, and the ethertype is not looked at. -/
def identify (m : Mem) : Option ConnectionID :=
  let ip := 14
  let proto := IPv4.proto m ip
  if proto = IPPROTO_UDP then
    let udp := IPv4.getPayload m ip
    some
      { dstIP := m.load32 (ip + 16), srcIP := m.load32 (ip + 12)
        dstPort := m.load16 (udp + 2), srcPort := m.load16 udp, proto := proto }
  else if proto = IPPROTO_TCP then
    let tcp := IPv4.getPayload m ip
    some
      { dstIP := m.load32 (ip + 16), srcIP := m.load32 (ip + 12)
        dstPort := m.load16 (tcp + 2), srcPort := m.load16 tcp, proto := proto }
  else none

def getDelKey : ConnectionID := { dstIP := 0, srcIP := 0, dstPort := 0, srcPort := 0, proto := 253 }

def getEmptyKey : ConnectionID := { dstIP := 0, srcIP := 0, dstPort := 0, srcPort := 0, proto := 254 }

/-- The 5-tuple of the packets in the other direction. -/
def ConnectionID.reverse (c : ConnectionID) : ConnectionID :=
  { dstIP := c.srcIP, srcIP := c.dstIP, dstPort := c.srcPort, srcPort := c.dstPort, proto := c.proto }

end MoonState.IPv4_5TupleL2Ident
