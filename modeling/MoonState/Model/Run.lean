/-
The life of one machine.

A program uses a machine by calling its public methods, with a new packet array
for each batch.  `Op` takes `runPktBatch` apart into the passes of its timeout
loop and its packets, so that a run can stop between any two of them; `Sys.op`
executes one.
-/
import MoonState.Model.StateMachine

namespace MoonState

/-- One step of a program that uses a machine. -/
inductive Op (K P D : Type)
  /-- the caller hands over a packet array -/
  | batch (ba : BufArray P)
  /-- one pass of the timeout loop -/
  | pass
  /-- one packet of the batch -/
  | packet (cur : Nat)
  | addState (id : K) (st : State D)
  | addStateNoFun (id : K) (st : State D)
  | removeState (id : K)

namespace Sys

variable {K P D W : Type} [DecidableEq K] [Inhabited D]

/-- One pass of the timeout loop. -/
def pass (env : Env K P W) (s : Sys K P D W) : Except Fault (Sys K P D W) :=
  match env.topRule.top s.sm.timeoutsQ with
  | none => .ok s
  | some timeoutElem =>
    let now := env.clock s.ticks
    let s := { s with ticks := s.ticks + 1 }
    if timeoutElem.time > now then .ok s
    else
      match s.sm.timeoutFunctions.lookup timeoutElem.timeoutID with
      | none => .ok { s with sm := { s.sm with timeoutsQ := env.topRule.pop s.sm.timeoutsQ } }
      | some timeoutData => fireTimeout env timeoutElem timeoutData s

def op (env : Env K P W) (s : Sys K P D W) : Op K P D → Except Fault (Sys K P D W)
  | .batch ba => .ok { s with pktsBA := ba }
  | .pass => s.pass env
  | .packet cur => runPkt env cur s
  | .addState id st =>
    match MoonState.addState env id st s with
    | .ok (s, _) => .ok s
    | .error e => .error e
  | .addStateNoFun id st => .ok (MoonState.addStateNoFun id st s)
  | .removeState id => .ok (s.removeState id)

/-- `s'` is reached from `s` by steps that all met the condition `ok`; it is told the step and
the system on both sides of it. -/
inductive Run (env : Env K P W) (ok : Sys K P D W → Op K P D → Sys K P D W → Prop)
    (s : Sys K P D W) : Sys K P D W → Prop
  | refl : Run env ok s s
  | step {s₁ s₂ : Sys K P D W} (c : Op K P D) (h : Run env ok s s₁) (hop : s₁.op env c = .ok s₂)
      (hok : ok s₁ c s₂) : Run env ok s s₂

end Sys

end MoonState
