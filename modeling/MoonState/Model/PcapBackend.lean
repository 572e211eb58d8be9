/-
Receiving through libpcap (`include/pcapBackend.hpp`, `src/pcapBackend.cpp`,
`include/samplePacket.hpp`).

`pcap_next` returns the next frame and consumes it, or returns null while there is
none.  `handle` is what it will return, one call after the other, and null forever
after that.

`recvBatch` allocates an array for the pointers to the packets, fills packets, and
never stores a pointer to one in it.  So the array is handed over as `malloc`
returned it, and what that is comes as an argument: a pointer to a packet, or
`none` for bits that point to no packet.
-/
import Mathlib.Logic.Function.Basic
import MoonState.Lib.Bytes
import MoonState.Lib.Steps
import MoonState.Model.BufArray

namespace MoonState

/-- The bytes of a frame; `header.len` is how many there are. -/
abbrev Frame := List UInt8

/-- What a `SamplePacket *` points to. -/
structure SamplePacket where
  data : Mem
  dataLen : UInt16

structure PcapBackend (P : Type) where
  handle : List (Option Frame)
  /-- a vector; its back is the end of the list -/
  packetPool : List P
  mem : P → SamplePacket
  /-- how many packets were allocated -/
  given : Nat

namespace PcapBackend

def bufSize : Nat := 2048

variable {P : Type} [DecidableEq P]

/-- `setDataLen` on a packet. -/
def setDataLen (pkt : P) (l : UInt16) (b : PcapBackend P) : PcapBackend P :=
  { b with mem := Function.update b.mem pkt { b.mem pkt with dataLen := l } }

/-- `memcpy` to the data of a packet. -/
def copy (pkt : P) (pcapPacket : Frame) (b : PcapBackend P) : PcapBackend P :=
  { b with
    mem := Function.update b.mem pkt
      { b.mem pkt with data := (b.mem pkt).data.write 0 pcapPacket } }

/-- The back of the pool, or a new packet.  `alloc n` is the `n`-th one. -/
def getPkt (alloc : Nat → P) (b : PcapBackend P) : P × PcapBackend P :=
  match b.packetPool.getLast? with
  | none => (alloc b.given, { b with given := b.given + 1 }.setDataLen (alloc b.given) 0)
  | some sp => (sp, { b with packetPool := b.packetPool.dropLast }.setDataLen sp 0)

/-- A frame is put into a packet. -/
def receive (alloc : Nat → P) (b : PcapBackend P) (pcapPacket : Frame) : PcapBackend P :=
  let pkt := b.getPkt alloc
  (pkt.2.copy pkt.1 pcapPacket).setDataLen pkt.1 (UInt16.ofNat pcapPacket.length)

/-- The loop, over what `pcap_next` will return: it is called before the count is looked at. -/
def recvLoop (alloc : Nat → P) : List (Option Frame) → Nat → PcapBackend P → PcapBackend P × Nat
  | [], count, b => ({ b with handle := [] }, count)
  | none :: handle, count, b => ({ b with handle := handle }, count)
  | some pcapPacket :: handle, count, b =>
    if count < 64 then
      if pcapPacket.length > bufSize then recvLoop alloc handle count b
      else recvLoop alloc handle (count + 1) (b.receive alloc pcapPacket)
    else ({ b with handle := handle }, count)

/-- `none` where the constructor of the `BufArray` aborts. -/
def recvBatch (alloc : Nat → P) (spArray : Vector (Option P) 64) (b : PcapBackend P) :
    Option (BufArray (Option P) × PcapBackend P) :=
  let r := recvLoop alloc b.handle 0 b
  (BufArray.new (spArray.toList.take r.2)).map fun pkts => (pkts, r.1)

/-! ### One call after another -/

/-- What is read through a pointer of a batch. -/
def content (b : PcapBackend P) (pkt : Option P) : Option Frame :=
  pkt.map fun p => (b.mem p).data.read 0 (b.mem p).dataLen.toNat

def contents (b : PcapBackend P) (pkts : BufArray (Option P)) : List (Option Frame) :=
  pkts.pkts.map b.content

/-- The backend, and what was read from the batches so far. -/
structure Session (P : Type) where
  backend : PcapBackend P
  got : List (Option Frame)

/-- A call of `recvBatch` with an array that is as `ok` says, or whatever the program does to
the pool and to the packets in between. -/
inductive Session.Does (alloc : Nat → P) (ok : PcapBackend P → Vector (Option P) 64 → Prop) :
    Session P → Option (Vector (Option P) 64) → Session P → Prop
  | recvBatch {x : Session P} {spArray : Vector (Option P) 64} {pkts : BufArray (Option P)}
      {b : PcapBackend P} (hok : ok x.backend spArray)
      (h : x.backend.recvBatch alloc spArray = some (pkts, b)) :
      Does alloc ok x (some spArray) { backend := b, got := x.got ++ b.contents pkts }
  | other {x : Session P} {b : PcapBackend P} (h : b.handle = x.backend.handle) :
      Does alloc ok x none { x with backend := b }

end PcapBackend

end MoonState
