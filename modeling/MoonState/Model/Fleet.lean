/-
Programs with several machines and several pools.

Each machine has a table of its own and one of the pools; which, says `poolOf`.
The machines share what the program holds besides, and the memory of the packets.
An `Act` is what happens next: packets arrive, a machine is handed an array of
packets, a connection is opened on it, with an object that is made for it, or the
program does something of its own.

A `Deployment` is a program of servers and clients.
-/
import MoonState.Model.Responder

namespace MoonState

/-- What is told of a connection. -/
def State.entry {D : Type} (st : State D) : StateID × D := (st.state, st.stateData)

/-! ### Where functions are called -/

section meets

variable {K P D B R : Type} [DecidableEq K] [Inhabited D]

/-- A condition on calls: the connection, what its packet holds, and the rest of the program. -/
abbrev When (D B R : Type) := StateID × D → B → R → Prop

/-- If a function is called on the packet of the slot, the condition holds. -/
def Sys.Meets (env : Env K P (World P B R)) (ok : When D B R) (cur : Nat)
    (s : Sys K P D (World P B R)) : Prop :=
  match s.pktsBA.get cur with
  | .error _ => True
  | .ok p =>
    match env.identify p s.w with
    | none => True
    | some id =>
      match (s.emit (.run cur)).findState id with
      | .ok (s', some st) => ok st.entry (s'.w.mem p) s'.w.rest
      | _ => True

instance (env : Env K P (World P B R)) (ok : When D B R) [∀ e b w, Decidable (ok e b w)] (cur : Nat)
    (s : Sys K P D (World P B R)) : Decidable (s.Meets env ok cur) :=
  match hp : s.pktsBA.get cur with
  | .error _ => isTrue (by simp [Sys.Meets, hp])
  | .ok p =>
    match hid : env.identify p s.w with
    | none => isTrue (by simp [Sys.Meets, hp, hid])
    | some id =>
      match hf : (s.emit (.run cur)).findState id with
      | .ok (s', some st) =>
        decidable_of_iff (ok st.entry (s'.w.mem p) s'.w.rest) (by simp [Sys.Meets, hp, hid, hf])
      | .ok (_, none) => isTrue (by simp [Sys.Meets, hp, hid, hf])
      | .error _ => isTrue (by simp [Sys.Meets, hp, hid, hf])

/-- The condition holds where a function is called on a packet of these slots. -/
def Sys.MeetsAll (env : Env K P (World P B R)) (ok : When D B R) :
    List Nat → Sys K P D (World P B R) → Prop
  | [], _ => True
  | cur :: slots, s => s.Meets env ok cur ∧
    match runPkt env cur s with
    | .error _ => True
    | .ok s' => s'.MeetsAll env ok slots

/-- The instance, slot by slot. -/
def Sys.decMeetsAll (env : Env K P (World P B R)) (ok : When D B R)
    [∀ e b w, Decidable (ok e b w)] :
    (slots : List Nat) → (s : Sys K P D (World P B R)) → Decidable (s.MeetsAll env ok slots)
  | [], _ => isTrue trivial
  | cur :: slots, s =>
    match hs : runPkt env cur s with
    | .error _ => decidable_of_iff (s.Meets env ok cur) (by simp [Sys.MeetsAll, hs])
    | .ok s' =>
      have : Decidable (s'.MeetsAll env ok slots) := Sys.decMeetsAll env ok slots s'
      decidable_of_iff (s.Meets env ok cur ∧ s'.MeetsAll env ok slots)
        (by simp [Sys.MeetsAll, hs])

instance (env : Env K P (World P B R)) (ok : When D B R) [∀ e b w, Decidable (ok e b w)]
    (slots : List Nat) (s : Sys K P D (World P B R)) : Decidable (s.MeetsAll env ok slots) :=
  Sys.decMeetsAll env ok slots s

end meets

/-- The machines `ι` and the pools `κ`. -/
structure Fleet (ι κ K P D B R : Type) where
  sms : ι → StateMachine K P D (World P B R)
  connPool : κ → FMap K (State D)
  w : World P B R

namespace Fleet

/-- What happens next. -/
inductive Act (ι K P D B R : Type)
  /-- the packets hold this from now on -/
  | arrive (mem : P → B)
  | process (i : ι) (pktsIn : BufArray P)
  /-- a connection is opened in this state -/
  | connect (i : ι) (id : K) (state : StateID) (create : R → Option (D × R)) (pktsIn : BufArray P)
  /-- what the program holds besides changes -/
  | between (f : R → R)

variable {ι κ K P D B R : Type} [DecidableEq ι] [DecidableEq κ] [DecidableEq K]

/-- Set-up machines, and empty pools. -/
def start (setup : ι → StateMachine K P D (World P B R)) (w : World P B R) :
    Fleet ι κ K P D B R where
  sms := setup
  connPool := fun _ => ∅
  w := w

/-- What a call on machine `i` with the packet array `ba` gets to see. -/
def view (x : Fleet ι κ K P D B R) (poolOf : ι → κ) (i : ι) (ba : BufArray P) :
    Sys K P D (World P B R) where
  sm := x.sms i
  connPool := x.connPool (poolOf i)
  pktsBA := ba
  w := x.w
  ticks := 0
  log := []

/-- The fleet after a call on machine `i` ended with `s`. -/
def update (x : Fleet ι κ K P D B R) (poolOf : ι → κ) (i : ι) (s : Sys K P D (World P B R)) :
    Fleet ι κ K P D B R where
  sms := Function.update x.sms i s.sm
  connPool := Function.update x.connPool (poolOf i) s.connPool
  w := s.w

/-- The program holds something else. -/
def withRest (x : Fleet ι κ K P D B R) (rest : R) : Fleet ι κ K P D B R :=
  { x with w := { x.w with rest := rest } }

variable [Inhabited D]

def step (env : Env K P (World P B R)) (poolOf : ι → κ) (x : Fleet ι κ K P D B R) :
    Act ι K P D B R → Except Fault (Fleet ι κ K P D B R)
  | .arrive mem => .ok { x with w := { x.w with mem := mem } }
  | .process i ba => (runPktBatch env 1 (x.view poolOf i ba)).map (x.update poolOf i)
  | .connect i id state create ba =>
    match create x.w.rest with
    | none => .error .exception
    | some (d, rest) =>
      (addState env id (State.new state d) ((x.withRest rest).view poolOf i ba)).map fun r =>
        x.update poolOf i r.1
  | .between f => .ok (x.withRest (f x.w.rest))

/-- Where the act calls a function the condition holds, which may depend on the machine. -/
def Meets (env : Env K P (World P B R)) (poolOf : ι → κ) (ok : ι → When D B R)
    (x : Fleet ι κ K P D B R) : Act ι K P D B R → Prop
  | .arrive _ => True
  | .process i ba =>
    (x.view poolOf i ba).MeetsAll env (ok i) (List.range ba.getTotalCount)
  | .connect i _ state create ba =>
    match create x.w.rest, ba.get 0 with
    | some (d, rest), .ok p => ok i (state, d) (x.w.mem p) rest
    | _, _ => True
  | .between _ => True

/-- One act takes the fleet from one state to the next; it is one of those that can happen. -/
def Does (env : Env K P (World P B R)) (poolOf : ι → κ)
    (Can : Fleet ι κ K P D B R → Act ι K P D B R → Prop) (x : Fleet ι κ K P D B R)
    (a : Act ι K P D B R) (y : Fleet ι κ K P D B R) : Prop :=
  Can x a ∧ x.step env poolOf a = .ok y

/-- What there is at a place: in the table of a machine, or in a pool. -/
def entries (x : Fleet ι κ K P D B R) : (ι ⊕ κ) × K → Option (State D)
  | (.inl i, id) => (x.sms i).stateTable.lookup id
  | (.inr k, id) => (x.connPool k).lookup id

end Fleet

/-! ### Servers and clients -/

inductive Role
  | server
  | client
deriving DecidableEq, Repr

/-- Which machines there are, and which pools they use. -/
structure Deployment (ι κ : Type) where
  role : ι → Role
  poolOf : ι → κ
  platform : Service.Platform

namespace Deployment

variable {ι κ K P D B R : Type} (S : Deployment ι κ)

/-- No server shares its pool with a client. -/
def Apart : Prop := ∀ i j, S.poolOf i = S.poolOf j → S.role i = S.role j

/-- The servers and clients are set up. -/
def start [DecidableEq P] [DecidableEq K] (service : Role → Service K D B R) (w : World P B R) :
    Fleet ι κ K P D B R :=
  Fleet.start (fun i => (service (S.role i)).machine) w

/-- A server and a client, and which pools they use. -/
def duo (poolOf : Bool → κ) : Deployment Bool κ where
  role := fun i => if i then .client else .server
  poolOf := poolOf
  platform := { clock := fun _ => 0, topRule := Timeout.firstRule, ndebug := false }

/-- What the machines are compiled against. -/
def env (ident : B → Option K) : Env K P (World P B R) where
  identify := fun p w => ident (w.mem p)
  clock := S.platform.clock
  topRule := S.platform.topRule
  ndebug := S.platform.ndebug

end Deployment

end MoonState
