/-
The packet array a batch is handed over in (`include/bufArray.hpp`).

A `BufArray` is an array of packet pointers with one bit for each slot: set to
send the packet, clear to free it.  It starts out full and doubles when a packet
is added to a full array.  What the source leaves unsaid is carried by the
structure: there are never more packets than slots, there is at least one slot,
the slot count fits the `uint32_t` it is kept in, and the bits of the slots that
hold no packet yet are clear.

Every operation that C++ leaves undefined or stops with an assertion returns a
`Fault`.
-/
import Mathlib.Algebra.Group.Nat.Defs
import Mathlib.Data.List.Basic

namespace MoonState

/-- The ways a call does not return normally. -/
inductive Fault
  /-- `assert(pktIdx < numBufs)` in a mark function, or its write outside the mask -/
  | markOutOfRange
  /-- `numSlots *= 2` leaves the 32 bits -/
  | bufOverflow
  /-- a packet pointer is read outside the array -/
  | pktOutOfRange
  /-- `assert(sm->getPktCB != nullptr)` -/
  | noGetPktCB
  /-- the two assertions before a state function is called -/
  | noFunction
  /-- `assert(stateIt != stateTable.end())` in the timeout loop -/
  | noState
  /-- a `State &` is used after its entry was erased -/
  | dangling
  /-- an exception leaves the call -/
  | exception
  /-- the fuel of a loop of the model ran out -/
  | outOfFuel
deriving DecidableEq, Repr

/-- `pkts` are the `numBufs` pointers stored so far, `sendMask` has one bit a slot. -/
structure BufArray (P : Type) where
  pkts : List P
  sendMask : List Bool
  fits : pkts.length ≤ sendMask.length
  nonempty : 0 < sendMask.length
  wide : sendMask.length < 2 ^ 32
  slack : ∀ i, pkts.length ≤ i → sendMask[i]? ≠ some true

namespace BufArray

variable {P : Type}

/-- Number of packets; `getTotalCount` in the source returns it. -/
def numBufs (ba : BufArray P) : Nat := ba.pkts.length

def numSlots (ba : BufArray P) : Nat := ba.sendMask.length

def getTotalCount (ba : BufArray P) : Nat := ba.numBufs

theorem numBufs_lt (ba : BufArray P) : ba.numBufs < 2 ^ 32 :=
  Nat.lt_of_le_of_lt ba.fits ba.wide

/-- The constructor: the array fits exactly, everything is marked to be sent.  It aborts on
an empty array; the count is a `uint32_t`. -/
def new (pkts : List P) : Option (BufArray P) :=
  if h : 0 < pkts.length ∧ pkts.length < 2 ^ 32 then
    some
      { pkts := pkts
        sendMask := List.replicate pkts.length true
        fits := by simp
        nonempty := by simpa using h.1
        wide := by simpa using h.2
        slack := by
          intro i hi
          rw [List.getElem?_eq_none (by simpa using hi)]
          simp }
  else none

/-! ### Marking -/

/-- Write one bit of the mask, of a slot that holds a packet. -/
def setMark (ba : BufArray P) (idx : Nat) (b : Bool) (h : idx < ba.numBufs) : BufArray P :=
  { ba with
    sendMask := ba.sendMask.set idx b
    fits := by simpa using ba.fits
    nonempty := by simpa using ba.nonempty
    wide := by simpa using ba.wide
    slack := by
      intro i hi
      have hne : idx ≠ i := by
        unfold numBufs at h
        omega
      rw [List.getElem?_set_ne hne]
      exact ba.slack i hi }

/-- The body of the two mark functions.  With `NDEBUG` the assertion is compiled out; an index
past every slot then writes to memory that is not the mask's. -/
def mark (ndebug : Bool) (ba : BufArray P) (idx : Nat) (b : Bool) : Except Fault (BufArray P) :=
  if h : idx < ba.numBufs then .ok (ba.setMark idx b h)
  else if ndebug = true ∧ ba.numSlots ≤ idx then .ok ba
  else .error .markOutOfRange

def markDropPkt (ndebug : Bool) (ba : BufArray P) (pktIdx : Nat) : Except Fault (BufArray P) :=
  ba.mark ndebug pktIdx false

def markSendPkt (ndebug : Bool) (ba : BufArray P) (pktIdx : Nat) : Except Fault (BufArray P) :=
  ba.mark ndebug pktIdx true

/-- `if (pkt == pkts[pktIdx]) sendMask[pktIdx] = false`. -/
def dropIf [DecidableEq P] (pkt : P) (ba : BufArray P) (pktIdx : Nat) : BufArray P :=
  if h : pktIdx < ba.numBufs then
    if pkt = ba.pkts.get ⟨pktIdx, h⟩ then ba.setMark pktIdx false h else ba
  else ba

/-- `markDropPkt` for a pointer, which is not null: every slot that holds the packet. -/
def markDropPktPtr [DecidableEq P] (ba : BufArray P) (pkt : P) : BufArray P :=
  (List.range ba.numBufs).foldl (dropIf pkt) ba

/-! ### Growing -/

/-- Double the slots; `sendMask.resize` clears the new bits. -/
def grow (ba : BufArray P) (h : ba.numSlots < 2 ^ 31) : BufArray P :=
  { ba with
    sendMask := ba.sendMask ++ List.replicate ba.numSlots false
    fits := by
      have := ba.fits
      simp only [List.length_append]
      omega
    nonempty := by
      have := ba.nonempty
      simp only [List.length_append]
      omega
    wide := by
      have : ba.sendMask.length = ba.numSlots := rfl
      simp only [List.length_append, List.length_replicate]
      omega
    slack := by
      intro i hi
      rw [List.getElem?_append]
      split
      · exact ba.slack i hi
      · rw [List.getElem?_replicate]
        split <;> simp }

/-- `sendMask[numBufs] = true; pkts[numBufs++] = pkt`. -/
def append (ba : BufArray P) (pkt : P) (h : ba.numBufs < ba.numSlots) : BufArray P :=
  { pkts := ba.pkts ++ [pkt]
    sendMask := ba.sendMask.set ba.numBufs true
    fits := by
      have : ba.pkts.length < ba.sendMask.length := h
      simp only [List.length_append, List.length_singleton, List.length_set]
      omega
    nonempty := by simpa using ba.nonempty
    wide := by simpa using ba.wide
    slack := by
      intro i hi
      have hlen : ba.pkts.length + 1 ≤ i := by simpa using hi
      have hne : ba.numBufs ≠ i := by
        unfold numBufs
        omega
      rw [List.getElem?_set_ne hne]
      exact ba.slack i (by omega) }

theorem numBufs_lt_grow {ba : BufArray P} (h : ba.numSlots < 2 ^ 31) :
    (ba.grow h).numBufs < (ba.grow h).numSlots := by
  have hfits := ba.fits
  have hpos := ba.nonempty
  show ba.pkts.length < (ba.sendMask ++ List.replicate ba.sendMask.length false).length
  simp only [List.length_append, List.length_replicate]
  omega

/-- Growing from `2 ^ 31` slots wraps `numSlots`, and the write to the shrunken mask is out of
range. -/
def addPkt (ba : BufArray P) (pkt : P) : Except Fault (BufArray P) :=
  if h : ba.numBufs < ba.numSlots then .ok (ba.append pkt h)
  else if h : ba.numSlots < 2 ^ 31 then .ok ((ba.grow h).append pkt (numBufs_lt_grow h))
  else .error .bufOverflow

/-! ### Reading the result -/

/-- `pkts[idx]`. -/
def get (ba : BufArray P) (idx : Nat) : Except Fault P :=
  match ba.pkts[idx]? with
  | some p => .ok p
  | none => .error .pktOutOfRange

/-- The number of set bits, over the whole mask. -/
def getSendCount (ba : BufArray P) : Nat := ba.sendMask.count true

def getFreeCount (ba : BufArray P) : Nat := ba.numBufs - ba.getSendCount

/-- The loop of `getSendBufs` and `getFreeBufs`: `left` entries are still to be written, slot
`curPkts` is looked at next.  Reading a slot that does not exist, or the pointer of a slot
that holds no packet, is `none`; so is running out of fuel. -/
def collect (ba : BufArray P) (want : Bool) : Nat → Nat → Nat → Option (List P)
  | _, _, 0 => some []
  | 0, _, _ + 1 => none
  | fuel + 1, curPkts, left + 1 =>
    match ba.sendMask[curPkts]? with
    | none => none
    | some b =>
      if b = want then
        match ba.pkts[curPkts]? with
        | none => none
        | some p => (collect ba want fuel (curPkts + 1) left).map (p :: ·)
      else collect ba want fuel (curPkts + 1) (left + 1)

/-- The slots the loop looks at. -/
def visited (ba : BufArray P) (want : Bool) : Nat → Nat → Nat → List Nat
  | _, _, 0 => []
  | 0, _, _ + 1 => []
  | fuel + 1, curPkts, left + 1 =>
    curPkts ::
      match ba.sendMask[curPkts]? with
      | none => []
      | some b =>
        if b = want then visited ba want fuel (curPkts + 1) left
        else visited ba want fuel (curPkts + 1) (left + 1)

def getSendBufs (ba : BufArray P) : Option (List P) :=
  ba.collect true ba.numSlots 0 ba.getSendCount

def getFreeBufs (ba : BufArray P) : Option (List P) :=
  ba.collect false ba.numSlots 0 ba.getFreeCount

/-! ### The calls that change an array -/

inductive Change (P : Type)
  | markDropPkt (pktIdx : Nat)
  | markDropPktPtr (pkt : P)
  | markSendPkt (pktIdx : Nat)
  | addPkt (pkt : P)

variable [DecidableEq P]

def change (ndebug : Bool) (ba : BufArray P) : Change P → Except Fault (BufArray P)
  | .markDropPkt pktIdx => ba.markDropPkt ndebug pktIdx
  | .markDropPktPtr pkt => .ok (ba.markDropPktPtr pkt)
  | .markSendPkt pktIdx => ba.markSendPkt ndebug pktIdx
  | .addPkt pkt => ba.addPkt pkt

def changes (ndebug : Bool) (ba : BufArray P) (cs : List (Change P)) : Except Fault (BufArray P) :=
  cs.foldlM (change ndebug) ba

end BufArray

end MoonState
