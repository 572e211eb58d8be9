/-
Two TCP servers that face each other.

The functions of the server answer in the packet they got, so the machine is a
`Service`; `stateData` points to the connection.  Both servers listen and have no
connection.  A `Pair` is the two of them on a link with nothing else on it: what is in
flight is handed to the server it is for, and what that server sends is then in flight
to the other one.
-/
import MoonState.Model.FiveTuple
import MoonState.Model.HelloBye2
import MoonState.Model.Tcp

namespace MoonState.TCP

instance : Inhabited Mbuf := ⟨⟨fun _ => 0, 0⟩⟩

variable {σ κ : Type} (proto : Proto σ) (conCtl : ConCtl κ)

/-- A function of the server, with the pointer to its connection. -/
def onPtr (f : Connection σ κ → Mbuf → Outcome σ κ) : Responder (Ptr (Connection σ κ)) Mbuf Unit :=
  fun stateData pkt w =>
    match stateData with
    | .to c => some ⟨.to (f c pkt).conn, (f c pkt).newState, (f c pkt).pkt, w, (f c pkt).free⟩
    | _ => none

/-- A server, as `tcpJoke.cpp` sets it up, for any protocol. -/
def service : Service IPv4_5TupleL2Ident.ConnectionID (Ptr (Connection σ κ)) Mbuf Unit where
  responders := [some (onPtr runSynAck), some (onPtr (runEst proto conCtl)), none,
    some (onPtr runAckFin)]
  small := by simp
  startStateID := States.syn_ack
  endStateID := States.END
  factory := some fun _ w => some (.to (factory proto conCtl), w)
  listenToConnections := true
  ident := fun pkt => IPv4_5TupleL2Ident.identify pkt.data

structure Pair (σ κ : Type) where
  /-- the server that what is in flight is for -/
  here : Instance IPv4_5TupleL2Ident.ConnectionID (Ptr (Connection σ κ)) Mbuf Unit
  there : Instance IPv4_5TupleL2Ident.ConnectionID (Ptr (Connection σ κ)) Mbuf Unit
  flight : List Mbuf

namespace Pair

/-- Two servers, and a packet that gets to one of them. -/
def start (f : Mbuf) : Pair σ κ where
  here := Instance.start (service proto conCtl) ()
  there := Instance.start (service proto conCtl) ()
  flight := [f]

/-- What is in flight arrives; with nothing in flight nothing happens. -/
def step (pl : Service.Platform) (x : Pair σ κ) : Except Fault (Pair σ κ) :=
  if x.flight = [] then .ok x
  else
    (x.here.process (service proto conCtl) pl x.flight).map fun r =>
      { here := x.there, there := r.1, flight := (r.2.filter Prod.snd).map Prod.fst }

/-- The exchange, for some steps. -/
def run (pl : Service.Platform) : Nat → Pair σ κ → Except Fault (Pair σ κ)
  | 0, x => .ok x
  | n + 1, x => (x.step proto conCtl pl).bind (run pl n)

end Pair

end MoonState.TCP
