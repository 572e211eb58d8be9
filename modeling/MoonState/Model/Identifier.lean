/-
The identifiers, as the state table uses them.

Each has two `ConnectionID`s that the hash map of the table keeps for itself.  The
identifiers of HelloBye2, HelloBye3 and HelloBye3MemPool are declared three times
and alike (`include/helloBye2Proto.hpp`, `include/helloBye3.hpp`,
`include/helloBye3MemPool.hpp`).

`identifyReads` is `identify` of the 5-tuple with what it reads, in the order of the
source.  Nothing in it looks at the length of the frame but the dump of a frame it
does not identify.
-/
import MoonState.Lib.Reads
import MoonState.Model.FiveTuple
import MoonState.Model.HelloBye2

namespace MoonState

/-- The members of an `Identifier` that the state machine uses. -/
structure Identifier (F K : Type) where
  identify : F → Option K
  getDelKey : K
  getEmptyKey : K

def HelloBye2.identifier : Identifier Packet UInt64 where
  identify := identify
  getDelKey := .ofNat (2 ^ 64 - 1)
  getEmptyKey := .ofNat (2 ^ 64 - 1) - 1

def HelloBye3.identifier : Identifier Packet UInt64 where
  identify := identify
  getDelKey := .ofNat (2 ^ 64 - 1)
  getEmptyKey := .ofNat (2 ^ 64 - 1) - 1

def HelloBye3MemPool.identifier : Identifier Packet UInt64 where
  identify := identify
  getDelKey := .ofNat (2 ^ 64 - 1)
  getEmptyKey := .ofNat (2 ^ 64 - 1) - 1

namespace IPv4_5TupleL2Ident

open Headers

def identifier : Identifier Packet ConnectionID where
  identify pkt := identify pkt.data
  getDelKey := getDelKey
  getEmptyKey := getEmptyKey

/-- `ip->getPayload()`, which reads the IHL. -/
def payload (ip : Nat) : Reading Nat := do
  let version_ihl ← Reading.byte ip
  return ip + 4 * (version_ihl &&& 0x0f).toNat

/-- `identify`, with what it reads; both headers have their ports in the same place. -/
def identifyReads (pkt : Packet) : Reading (Option ConnectionID) := do
  let ip := 14
  let dstIP ← Reading.load32 (ip + 16)
  let srcIP ← Reading.load32 (ip + 12)
  let proto ← Reading.byte (ip + 9)
  if proto = IPPROTO_UDP then
    let udp ← payload ip
    let dstPort ← Reading.load16 (udp + 2)
    let srcPort ← Reading.load16 udp
    return some { dstIP, srcIP, dstPort, srcPort, proto }
  else if proto = IPPROTO_TCP then
    let tcp ← payload ip
    let dstPort ← Reading.load16 (tcp + 2)
    let srcPort ← Reading.load16 tcp
    return some { dstIP, srcIP, dstPort, srcPort, proto }
  else
    -- `hexdump(pkt->getData(), pkt->getDataLen())`
    Reading.touch 0 pkt.dataLen.toNat
    return none

end IPv4_5TupleL2Ident

end MoonState
