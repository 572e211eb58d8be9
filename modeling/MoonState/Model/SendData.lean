/-
`TcpIface::sendData`, in the integers of the source (`include/tcp.hpp`).

In `Model.Tcp` the buffer is the list of the bytes to be sent, and the loop counts in
natural numbers.  Here the buffer may go on behind them, lengths and the counter of the
loop have 32 bits, and what is put into a segment is narrowed to 16.
-/
import MoonState.Model.Tcp

namespace MoonState.TCP

variable {σ κ : Type}

/-- `static constexpr unsigned int MSS`. -/
def MSS32 : UInt32 := 1460

/-- Fill a segment in and append it. -/
def Connection.pushSegment (c : Connection σ κ) (dataPtr : List UInt8) (dataLen : UInt32) :
    Connection σ κ :=
  { c with
    seqLocal := c.seqLocal + dataLen
    dataToSend := c.dataToSend ++ [⟨dataPtr, c.seqLocal, dataLen.toUInt16⟩] }

/-- The variables of the loop. -/
structure Cutting (σ κ : Type) where
  totalLen : UInt32
  conn : Connection σ κ

namespace Cutting

def curSize (dataLen : UInt32) (s : Cutting σ κ) : UInt32 := min (dataLen - s.totalLen) MSS32

/-- The body of the loop. -/
def pass (data : List UInt8) (dataLen : UInt32) (s : Cutting σ κ) : Cutting σ κ where
  totalLen := s.totalLen + s.curSize dataLen
  conn := s.conn.pushSegment ((data.drop s.totalLen.toNat).take (s.curSize dataLen).toNat)
    (s.curSize dataLen)

/-- The loop is about to be passed, and then was. -/
def Goes (data : List UInt8) (dataLen : UInt32) (s : Cutting σ κ) (_ : Unit) (s' : Cutting σ κ) :
    Prop :=
  s.totalLen < dataLen ∧ s' = s.pass data dataLen

/-- The loop, or `none` where the fuel is used up. -/
def loop (data : List UInt8) (dataLen : UInt32) : Nat → Cutting σ κ → Option (Cutting σ κ)
  | fuel, s =>
    if s.totalLen < dataLen then
      match fuel with
      | 0 => none
      | fuel + 1 => loop data dataLen fuel (s.pass data dataLen)
    else some s

end Cutting

namespace Connection

/-- The first segment reuses the given buffer. -/
def firstSegment (data : List UInt8) (c : Connection σ κ) : Cutting σ κ where
  totalLen := 0 + MSS32
  conn := c.pushSegment data MSS32

/-- `sendData`. -/
def sendBuffer (data : List UInt8) (dataLen : UInt32) (fuel : Nat) (c : Connection σ κ) :
    Option (Connection σ κ) :=
  if dataLen ≤ MSS32 then some (c.pushSegment data dataLen)
  else (Cutting.loop data dataLen fuel (c.firstSegment data)).map Cutting.conn

end Connection

end MoonState.TCP
