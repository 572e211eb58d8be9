/-
HelloBye and HelloBye2 with their objects on the heap.

Each `run` casts `state.stateData`, calls the function, and then, in some of the
classes, replaces the object by one of the class of the new state, or deletes it.
`Store.run` is such a `run`; `Finish` is what it does at its end.  An object that is
cast to a class of the other role is no answer.

The functions are those of the models on values.
-/
import MoonState.Lib.Arena
import MoonState.Model.Fleet
import MoonState.Model.HelloBye

namespace MoonState

/-- The heap of a program, and what else it holds. -/
structure Store (A M V R : Type) where
  heap : Arena A M V
  rest : R

/-- What becomes of the object. -/
inductive Finish (V : Type)
  | keep
  /-- `state.stateData = new C(t); delete (t);` -/
  | convert (v : V)
  /-- `delete (t);` -/
  | delete

namespace Finish

variable {T V : Type}

/-- "Finish transision to other state": an object of the class of `next`, which its constructor
makes of this one, or none at the end. -/
def converts (next endStateID : StateID) (make : T → Option V) (newState : Option StateID) (t : T) :
    Option (Finish V) :=
  if newState = some next then (make t).map .convert
  else if newState = some endStateID then some .delete
  else some .keep

/-- The object is deleted at the end. -/
def deletes (endStateID : StateID) (newState : Option StateID) (_ : T) : Option (Finish V) :=
  if newState = some endStateID then some .delete else some .keep

/-- The object is left alone. -/
def keeps (_ : Option StateID) (_ : T) : Option (Finish V) := some .keep

end Finish

namespace Store

variable {A M V R T : Type} [DecidableEq A] (alloc : Allocator A M)

/-- `new`, with what the constructor writes. -/
def create (make : R → V × R) (w : Store A M V R) : Option (Option A × Store A M V R) :=
  match w.heap.get alloc with
  | none => none
  | some (a, heap) =>
    let (v, rest) := make w.rest
    some (some a, ⟨heap.write a v, rest⟩)

/-- `run` of a class `T`.  What is cast to it is `cast v`; `back` puts its members back. -/
def run (cast : V → Option T) (back : V → T → V)
    (func : T → Packet → R → Option (Answer T Packet R))
    (finish : Option StateID → T → Option (Finish V)) :
    Responder (Option A) Packet (Store A M V R) := fun stateData pkt w =>
  match stateData with
  | none => none
  | some t =>
    let v := w.heap.mem t
    match cast v with
    | none => none
    | some this =>
      match func this pkt w.rest with
      | none => none
      | some a =>
        let heap := w.heap.write t (back v a.stateData)
        match finish a.newState a.stateData with
        | none => none
        | some .keep => some ⟨some t, a.newState, a.pkt, ⟨heap, a.rest⟩, a.free⟩
        | some .delete => some ⟨some t, a.newState, a.pkt, ⟨heap.put alloc t, a.rest⟩, a.free⟩
        | some (.convert v') =>
          match heap.get alloc with
          | none => none
          | some (t', heap) =>
            some ⟨some t', a.newState, a.pkt, ⟨(heap.write t' v').put alloc t, a.rest⟩, a.free⟩

end Store

/-- The classes of both versions, which have the same states. -/
inductive Class
  | serverHello
  | serverBye
  | clientHello
  | clientBye
  | clientRecvBye
deriving DecidableEq, Repr

/-- The classes whose `run` is registered, in the order of the states. -/
def registered : Role → List Class
  | .server => [.serverHello, .serverBye]
  | .client => [.clientHello, .clientBye, .clientRecvBye]

/-! ### HelloBye2 -/

namespace HelloBye2.Objects

/-- What is on the heap. -/
inductive Object
  | server (t : Server.Object)
  | client (t : Client.Object)
deriving DecidableEq, Repr

def Object.class : Object → Class
  | .server (.hello _) => .serverHello
  | .server (.bye _) => .serverBye
  | .client (.hello _) => .clientHello
  | .client (.bye _) => .clientBye
  | .client (.recvBye _) => .clientRecvBye

/-- What the objects share. -/
structure Program where
  rnd : Rand
  config : HelloBye2ClientConfig

variable {A M : Type} [DecidableEq A] (alloc : Allocator A M)

abbrev Heap (A M : Type) := Store A M Object Program

/-- An answer that uses `rand` only. -/
def Program.answer {T : Type} (w : Program) (a : Answer T Packet Rand) : Answer T Packet Program :=
  { a with rest := { w with rnd := a.rest } }

namespace Server

open HelloBye2.Server MoonState.Server

def factory (_ : UInt64) : Heap A M → Option (Option A × Heap A M) :=
  Store.create alloc fun w =>
    let (t, rnd) := Hello.new w.rnd
    (.server (.hello t), { w with rnd := rnd })

/-- `Hello::run`. -/
def runHello : Responder (Option A) Packet (Heap A M) :=
  Store.run alloc
    (fun v => match v with | .server (.hello t) => some t | _ => none)
    (fun _ t => .server (.hello t))
    (fun this pkt w => some (w.answer (this.func pkt w.rnd)))
    (Finish.converts States.Bye States.Terminate fun t => (Bye.new t).map fun b => .server (.bye b))

/-- `Bye::run`. -/
def runBye : Responder (Option A) Packet (Heap A M) :=
  Store.run alloc
    (fun v => match v with | .server (.bye t) => some t | _ => none)
    (fun _ t => .server (.bye t))
    (fun this pkt w => some (w.answer (this.func pkt w.rnd)))
    (Finish.deletes States.Terminate)

/-- `HelloBye2_Server_init`. -/
def service : Service UInt64 (Option A) Packet (Heap A M) where
  responders := [some (runHello alloc), some (runBye alloc)]
  small := by simp
  startStateID := States.Hello
  endStateID := States.Terminate
  factory := some (factory alloc)
  listenToConnections := true
  ident := identify

end Server

namespace Client

open HelloBye2.Client MoonState.Client

/-- `Hello::run`. -/
def runHello : Responder (Option A) Packet (Heap A M) :=
  Store.run alloc
    (fun v => match v with | .client (.hello t) => some t | _ => none)
    (fun _ t => .client (.hello t))
    (fun this pkt w => some (w.answer (this.func w.config pkt w.rnd)))
    (Finish.converts States.Bye States.Terminate fun t => some (.client (.bye (Bye.new t))))

/-- `Bye::run`. -/
def runBye : Responder (Option A) Packet (Heap A M) :=
  Store.run alloc
    (fun v => match v with | .client (.bye t) => some t | _ => none)
    (fun _ t => .client (.bye t))
    (fun this pkt w => some (w.answer (this.func pkt w.rnd)))
    (Finish.converts States.RecvBye States.Terminate fun t =>
      (RecvBye.new t).map fun b => .client (.recvBye b))

/-- `RecvBye::run`. -/
def runRecvBye : Responder (Option A) Packet (Heap A M) :=
  Store.run alloc
    (fun v => match v with | .client (.recvBye t) => some t | _ => none)
    (fun _ t => .client (.recvBye t))
    (fun this pkt w => some (w.answer (this.func pkt w.rnd)))
    (Finish.deletes States.Terminate)

/-- `HelloBye2_Client_init`. -/
def service : Service UInt64 (Option A) Packet (Heap A M) where
  responders := [some (runHello alloc), some (runBye alloc), some (runRecvBye alloc)]
  small := by simp
  startStateID := 0
  endStateID := States.Terminate
  factory := none
  listenToConnections := false
  ident := identify

/-- The object of `HelloBye2_Client_connect`. -/
def create (dstIp : UInt32) (srcPort : UInt16) (ident : UInt64) :
    Heap A M → Option (Option A × Heap A M) :=
  Store.create alloc fun w =>
    let (t, rnd) := Hello.new dstIp srcPort ident w.rnd
    (.client (.hello t), { w with rnd := rnd })

end Client

/-- The machine of a role. -/
def service : Role → Service UInt64 (Option A) Packet (Heap A M)
  | .server => Server.service alloc
  | .client => Client.service alloc

end HelloBye2.Objects

/-! ### HelloBye -/

namespace HelloBye.Objects

open IPv4_5TupleL2Ident

/-- What is on the heap.  `connect` makes a `HelloByeClientHello`. -/
inductive Object
  | server (t : Server.Object)
  | client (b : Block)
deriving DecidableEq, Repr

def Object.class : Object → Class
  | .server (.hello _) => .serverHello
  | .server (.bye _) => .serverBye
  | .client _ => .clientHello

variable {A M : Type} [DecidableEq A] (alloc : Allocator A M)

abbrev Heap (A M : Type) := Store A M Object Program

namespace Server

def factory (_ : ConnectionID) : Heap A M → Option (Option A × Heap A M) :=
  Store.create alloc fun w =>
    let (t, w) := HelloByeServerHello.new w
    (.server (.hello t), w)

/-- `HelloByeServerHello::run`. -/
def runHello : Responder (Option A) Packet (Heap A M) :=
  Store.run alloc
    (fun v => match v with | .server (.hello t) => some t | _ => none)
    (fun _ t => .server (.hello t))
    (fun this pkt w => some (this.func pkt w))
    (Finish.converts HelloByeServer.Bye HelloByeServer.Terminate fun t =>
      (HelloByeServerBye.new t).map fun b => .server (.bye b))

/-- `HelloByeServerBye::run`. -/
def runBye : Responder (Option A) Packet (Heap A M) :=
  Store.run alloc
    (fun v => match v with | .server (.bye t) => some t | _ => none)
    (fun _ t => .server (.bye t))
    (fun this pkt w => some (this.func pkt w))
    Finish.keeps

/-- `HelloByeServer_init`. -/
def service : Service ConnectionID (Option A) Packet (Heap A M) where
  responders := [some (runHello alloc), some (runBye alloc)]
  small := by simp
  startStateID := HelloByeServer.Hello
  endStateID := HelloByeServer.Terminate
  factory := some (factory alloc)
  listenToConnections := true
  ident := fun pkt => IPv4_5TupleL2Ident.identify pkt.data

end Server

namespace Client

/-- A client's object, taken for one of the class `T`. -/
def cast {T : Type} (as : Block → T) : Object → Option T
  | .client b => some (as b)
  | .server _ => none

/-- The members of the class `T`, put back. -/
def back {T : Type} (set : Block → T → Block) : Object → T → Object
  | .client b, t => .client (set b t)
  | .server t, _ => .server t

/-- `HelloByeClientHello::run`. -/
def runHello : Responder (Option A) Packet (Heap A M) :=
  Store.run alloc (cast Block.asHello) (back fun _ t => .ofHello t) HelloByeClientHello.func
    Finish.keeps

/-- `HelloByeClientBye::run`. -/
def runBye : Responder (Option A) Packet (Heap A M) :=
  Store.run alloc (cast Block.asBye) (back Block.setBye)
    (fun this pkt w => some (this.func pkt w)) Finish.keeps

/-- `HelloByeClientRecvBye::run`. -/
def runRecvBye : Responder (Option A) Packet (Heap A M) :=
  Store.run alloc (cast Block.asRecvBye) (back Block.setRecvBye)
    (fun this pkt w => some (this.func pkt w)) Finish.keeps

/-- `HelloByeClient_init`. -/
def service : Service ConnectionID (Option A) Packet (Heap A M) where
  responders := [some (runHello alloc), some (runBye alloc), some (runRecvBye alloc)]
  small := by simp
  startStateID := 0
  endStateID := HelloByeClient.Terminate
  factory := none
  listenToConnections := false
  ident := fun pkt => IPv4_5TupleL2Ident.identify pkt.data

/-- The object of `HelloByeClient_connect`. -/
def create (dstIP : UInt32) (srcPort : UInt16) : Heap A M → Option (Option A × Heap A M) :=
  Store.create alloc fun w =>
    let (t, w) := HelloByeClientHello.new dstIP srcPort w
    (.client (.ofHello t), w)

end Client

/-- The machine of a role. -/
def service : Role → Service ConnectionID (Option A) Packet (Heap A M)
  | .server => Server.service alloc
  | .client => Client.service alloc

end HelloBye.Objects

end MoonState
