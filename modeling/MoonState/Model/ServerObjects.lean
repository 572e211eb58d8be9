/-
The TCP and the DTLS server with their objects on the heap.

A factory allocates the object of a connection, and `state.stateData` points to it.  The
segment buffers of a TCP connection and the `SSL` of a DTLS server are part of it: nothing
else refers to them.

The models of both servers have the object itself where the code has the pointer.
`Code.onHeap` is such a function with the pointer: it reads what the pointer points to,
which is still there after the object was deleted, and where the function leaves the
pointer dangling the object is given back.
-/
import MoonState.Lib.Arena
import MoonState.Model.Dtls
import MoonState.Model.Fleet
import MoonState.Model.Objects
import MoonState.Model.Tcp

namespace MoonState

variable {K P B C A M : Type} [DecidableEq A]

/-- The packets, the heap of the objects, and how many packets were taken from the supply. -/
abbrev Placed (P B C A M : Type) := World P B (Store A M C Nat)

/-- What a function of the object itself sees. -/
def Placed.packets (w : Placed P B C A M) : Heap P B := ⟨w.mem, w.rest.rest⟩

variable (alloc : Allocator A M)

/-- Assign through the pointer `a`, or delete what it points to. -/
def assign (a : A) (heap : Arena A M C) : Ptr C → Arena A M C
  | .null => heap
  | .dangling => heap.put alloc a
  | .to c => heap.write a c

namespace Code

/-- Read the object. -/
def reading (k : State (Ptr C) → Heap P B → Code P (Option A) (Placed P B C A M)) :
    Code P (Option A) (Placed P B C A M) :=
  .get fun st w =>
    match st.stateData with
    | none => k { st with stateData := .null } (Placed.packets w)
    | some a =>
      .put (some a) ⟨w.mem, w.rest.heap.touch a, w.rest.rest⟩
        (k { st with stateData := .to (w.rest.heap.mem a) } (Placed.packets w))

/-- Write the object and the packets. -/
def writing (v : Ptr C) (h : Heap P B) (k : Code P (Option A) (Placed P B C A M)) :
    Code P (Option A) (Placed P B C A M) :=
  .get fun st w =>
    match st.stateData with
    | none => .put none ⟨h.mem, w.rest.heap, h.given⟩ k
    | some a => .put (some a) ⟨h.mem, assign alloc a w.rest.heap v, h.given⟩ k

def onHeap : Code P (Ptr C) (Heap P B) → Code P (Option A) (Placed P B C A M)
  | .done => .done
  | .throw => .throw
  | .get k => reading fun st h => (k st h).onHeap
  | .put v h k => writing alloc v h k.onHeap
  | .freePkt k => .freePkt k.onHeap
  | .getPkt k => .getPkt fun p => (k p).onHeap
  | .transition n k => .transition n k.onHeap
  | .transitionNow n k => .transitionNow n k.onHeap
  | .setTimeout t f k => .setTimeout t (fun _ => reading fun st _ => (f st).onHeap) k.onHeap

end Code

namespace StateMachine

/-- A state function. -/
def onHeapFun (f : StateFun P (Ptr C) (Heap P B)) : StateFun P (Option A) (Placed P B C A M) :=
  fun _ pkt => Code.reading fun st _ => (f st pkt).onHeap alloc

/-- A factory: `new` fails where there is no memory left. -/
def onHeapFactory (f : K → Heap P B → Option (Ptr C × Heap P B)) (id : K) (w : Placed P B C A M) :
    Option (Option A × Placed P B C A M) :=
  match f id w.packets, w.rest.heap.get alloc with
  | some (.to c, h), some (a, heap) => some (some a, ⟨h.mem, heap.write a c, h.given⟩)
  | _, _ => none

/-- The supply of packets. -/
def onHeapCB (cb : Heap P B → P × Heap P B) (w : Placed P B C A M) : P × Placed P B C A M :=
  let ret := cb w.packets
  (ret.1, ⟨ret.2.mem, w.rest.heap, ret.2.given⟩)

/-- A machine that was set up. -/
def onHeap (sm : StateMachine K P (Ptr C) (Heap P B)) :
    StateMachine K P (Option A) (Placed P B C A M) :=
  { StateMachine.new with
    functions := sm.functions.map (Option.map (onHeapFun alloc))
    startStateID := sm.startStateID
    startStateFun := sm.startStateFun.map (onHeapFactory alloc)
    endStateID := sm.endStateID
    getPktCB := sm.getPktCB.map onHeapCB
    listenToConnections := sm.listenToConnections }

end StateMachine

/-! ### The servers -/

namespace TCP

variable {σ κ : Type} [DecidableEq P] (proto : Proto σ) (conCtl : ConCtl κ)

/-- A function of the server, on the object `stateData` points to. -/
def onObject (f : Connection σ κ → Mbuf → Outcome σ κ) :
    StateFun P (Ptr (Connection σ κ)) (Heap P Mbuf) := fun _ pkt =>
  .get fun st w =>
    match st.stateData with
    | .to c =>
      let o := f c (w.mem pkt)
      Reply.code ⟨.to o.conn, o.newState, o.pkt, [], o.free⟩ pkt []
    | _ => .throw

/-- What `TCP_Server_Joke_init` sets up, for any protocol. -/
def TCP_Server_init (getPktCB : Heap P Mbuf → P × Heap P Mbuf) :
    StateMachine K P (Ptr (Connection σ κ)) (Heap P Mbuf) :=
  let sm := StateMachine.new
  let sm := sm.registerGetPktCB getPktCB
  let sm := sm.registerEndStateID States.END
  let sm := sm.registerStartStateID States.syn_ack
    (some fun _ w => some (.to (factory proto conCtl), w))
  let sm := sm.registerFunction States.syn_ack (onObject runSynAck)
  let sm := sm.registerFunction States.est (onObject (runEst proto conCtl))
  sm.registerFunction States.ack_fin (onObject runAckFin)

end TCP

/-! ### Programs of servers -/

namespace Servers

variable {ι κ : Type} [DecidableEq ι] [DecidableEq κ] [DecidableEq K] [DecidableEq P]

/-- What the machines are compiled against. -/
def env (pl : Service.Platform) (ident : B → Option K) : Env K P (Placed P B C A M) where
  identify := fun p w => ident (w.mem p)
  clock := pl.clock
  topRule := pl.topRule
  ndebug := pl.ndebug

/-- Machines that were all set up alike, with nothing on the heap. -/
def start (sm : StateMachine K P (Ptr C) (Heap P B)) (pool : M) (mem : A → C) (pkts : Heap P B) :
    Fleet ι κ K P (Option A) B (Store A M C Nat) :=
  Fleet.start (fun _ => sm.onHeap alloc) ⟨pkts.mem, .new pool mem, pkts.given⟩

/-- Packets are whatever arrives, and batches any array of them.  Servers open no connections, and
what else the program does leaves the heap alone. -/
def Can : Fleet.Act ι K P (Option A) B (Store A M C Nat) → Prop
  | .arrive _ => True
  | .process _ _ => True
  | .connect .. => False
  | .between f => ∀ w, (f w).heap = w.heap

/-- One step of the program. -/
def Does (pl : Service.Platform) (ident : B → Option K) (poolOf : ι → κ)
    (x : Fleet ι κ K P (Option A) B (Store A M C Nat))
    (a : Fleet.Act ι K P (Option A) B (Store A M C Nat))
    (y : Fleet ι κ K P (Option A) B (Store A M C Nat)) : Prop :=
  Fleet.Does (env pl ident) poolOf (fun _ => Can) x a y

/-- One step in which every packet that is handed to a function meets the condition. -/
def DoesWhen (pl : Service.Platform) (ident : B → Option K) (poolOf : ι → κ) (ok : StateID → C → B → Prop)
    (x : Fleet ι κ K P (Option A) B (Store A M C Nat))
    (a : Fleet.Act ι K P (Option A) B (Store A M C Nat))
    (y : Fleet ι κ K P (Option A) B (Store A M C Nat)) : Prop :=
  Does pl ident poolOf x a y ∧ x.Meets (env pl ident) poolOf
    (fun _ e pkt w => ∀ t, e.2 = some t → ok e.1 (w.heap.mem t) pkt) a

end Servers

end MoonState
