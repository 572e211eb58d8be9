/-
What a factory that fails does to the batch.

The factory of the start state is called from `findState`, in the middle of a batch, and
may throw.  `runPkt` catches `PacketNotIdentified` only: the exception leaves the loop
of `runPktBatch`, and with it go the packets that are yet to be run and the marks of
those that have been.
-/
import MoonState.Model.HelloBye3
import MoonState.Proofs.StateMachine

namespace MoonState

variable {K P D W : Type} [DecidableEq K] [Inhabited D]

open HelloBye3MemPool

end MoonState
