/-
No server gives the object of a connection back.

The functions of the TCP server all keep their object, also where they go to the end
state.  Of those of the DTLS server `sendData` does, where the peer has shut the
connection down, and `runTeardown`, which deletes its object, is never called.  `Lasts`
is, for each of the servers, what a packet must be not to end its connection.

So the objects are those of the tracked connections as long as no packet ends one:
`servers_tracked`.
-/
import MoonState.Proofs.Close
import MoonState.Proofs.DtlsInput
import MoonState.Proofs.OnHeap
import MoonState.Proofs.Receive
import MoonState.Proofs.Serve

namespace MoonState

variable {K P C : Type}

/-! ### The TCP server -/

namespace TCP

open Headers

variable {σ κ : Type} {proto : Proto σ} {conCtl : ConCtl κ} {c : Connection σ κ} {f : Mbuf}
  {n : StateID}

/-- The test that `runSynAck` refuses a packet by. -/
def refusesSyn (f : Mbuf) : Bool :=
  let m := IPv4.setPayloadLength f.swapped sizeofEthernet (UInt16.ofNat sizeofTcp)
  !Tcp.getSynFlag m f.tcp || Tcp.getAckFlag m f.tcp || Tcp.getFinFlag m f.tcp ||
    Tcp.getRstFlag m f.tcp

/-- **The packet does not end the connection**: one that waits for the SYN gets it, an established
one gets the right flags, and one that waits for the last FIN gets an ACK it accepts and no FIN. -/
def Lasts (n : StateID) (c : Connection σ κ) (f : Mbuf) : Prop :=
  if n = States.syn_ack then refusesSyn f = false
  else if n = States.est then badFlags f.swapped f.tcp = false
  else Accepted c f ∧ Tcp.getFinFlag f.swapped f.tcp = false

instance (n : StateID) (c : Connection σ κ) (f : Mbuf) : Decidable (Lasts n c f) := by
  unfold Lasts
  infer_instance

/-- The states with a function. -/
def Served (n : StateID) : Prop := n = States.syn_ack ∨ n = States.est ∨ n = States.ack_fin

instance (n : StateID) : Decidable (Served n) := inferInstanceAs (Decidable (_ ∨ _))

theorem newState_runSynAck (c : Connection σ κ) (f : Mbuf) :
    (runSynAck c f).newState = if refusesSyn f then some States.END else some States.est := by
  by_cases h : refusesSyn f = true
  · have heq : runSynAck c f = _ := if_pos h
    rw [if_pos h, heq]
  · have heq : runSynAck c f = _ := if_neg h
    rw [if_neg h, heq]

theorem newState_runEst (proto : Proto σ) (conCtl : ConCtl κ) (c : Connection σ κ) (f : Mbuf) :
    (badFlags f.swapped f.tcp = true ∧ (runEst proto conCtl c f).newState = some States.END) ∨
    (badFlags f.swapped f.tcp = false ∧ ((runEst proto conCtl c f).newState = none ∨
      (runEst proto conCtl c f).newState = some States.ack_fin)) := by
  rcases runEst_cases c f with hbad | ⟨hflags, hseq⟩ | he
  · rw [runEst_of_bad proto conCtl c hbad]
    exact Or.inl ⟨hbad, rfl⟩
  · rw [runEst_of_unexpected proto conCtl hflags hseq]
    exact Or.inr ⟨hflags, Or.inl rfl⟩
  · rw [runEst_eq_finish proto conCtl he]
    refine Or.inr ⟨he.1, ?_⟩
    unfold finish
    split
    · exact Or.inr rfl
    · exact Or.inl rfl

theorem newState_runAckFin (c : Connection σ κ) (f : Mbuf) : (runAckFin c f).newState
    = if Accepted c f ∧ Tcp.getFinFlag f.swapped f.tcp = false then none else some States.END := by
  by_cases ha : Accepted c f
  · cases hfin : Tcp.getFinFlag f.swapped f.tcp with
    | false => simp [ha, (runAckFin_of_not_fin ha hfin).1]
    | true => simp [(runAckFin_of_fin ha hfin).1]
  · simp [ha, (runAckFin_of_not_accepted ha).1]

/-- The function of a state. -/
def answer (proto : Proto σ) (conCtl : ConCtl κ) (n : StateID) (c : Connection σ κ) (f : Mbuf) :
    Outcome σ κ :=
  if n = States.syn_ack then runSynAck c f
  else if n = States.est then runEst proto conCtl c f
  else runAckFin c f

theorem answer_syn_ack : answer proto conCtl States.syn_ack = runSynAck := by
  funext c f
  rw [answer, if_pos rfl]

theorem answer_est : answer proto conCtl States.est = runEst proto conCtl := by
  funext c f
  rw [answer, if_neg (by decide), if_pos rfl]

theorem answer_ack_fin : answer proto conCtl States.ack_fin = runAckFin := by
  funext c f
  rw [answer, if_neg (by decide), if_neg (by decide)]

theorem served_est : Served States.est := Or.inr (Or.inl rfl)

theorem served_ack_fin : Served States.ack_fin := Or.inr (Or.inr rfl)

theorem not_served_end : ¬ Served States.END := by decide

/-- **Exactly those packets leave the connection in a state with a function**; the others end it. -/
theorem lasts_iff (hn : Served n) :
    Lasts n c f ↔ Served ((answer proto conCtl n c f).newState.getD n) := by
  rcases hn with rfl | rfl | rfl
  · rw [answer_syn_ack, newState_runSynAck, Lasts, if_pos rfl]
    cases refusesSyn f <;> simp [served_est, not_served_end]
  · rw [answer_est, Lasts, if_neg (by decide), if_pos rfl]
    rcases newState_runEst proto conCtl c f with ⟨hbad, hnew⟩ | ⟨hgood, hnew | hnew⟩
    · simp [hbad, hnew, not_served_end]
    · simp [hgood, hnew, served_est]
    · simp [hgood, hnew, served_ack_fin]
  · rw [answer_ack_fin, newState_runAckFin, Lasts, if_neg (by decide), if_neg (by decide)]
    split <;> rename_i h <;> simp [h, served_ack_fin, not_served_end]

section machine

variable [DecidableEq P] {cb : Heap P Mbuf → P × Heap P Mbuf}

theorem functions_TCP_Server_init :
    (TCP_Server_init (K := K) proto conCtl cb).functions = [some (onObject runSynAck),
      some (onObject (runEst proto conCtl)), none, some (onObject runAckFin)] := by
  simp [TCP_Server_init, StateMachine.registerFunction, StateMachine.registerStartStateID,
    StateMachine.registerEndStateID, StateMachine.registerGetPktCB, StateMachine.new, States.syn_ack,
    States.est, States.ack_fin]

/-- The function of a state, in the machine. -/
theorem eq_onObject {g : StateFun P (Ptr (Connection σ κ)) (Heap P Mbuf)} (hn : Served n)
    (h : (TCP_Server_init (K := K) proto conCtl cb).dispatch n = .ok g) :
    g = onObject (answer proto conCtl n) := by
  have hget := StateMachine.dispatch_eq_ok h
  rw [functions_TCP_Server_init] at hget
  rcases hn with rfl | rfl | rfl
  · rw [answer_syn_ack]
    exact (Option.some.inj (Option.some.inj hget)).symm
  · rw [answer_est]
    exact (Option.some.inj (Option.some.inj hget)).symm
  · rw [answer_ack_fin]
    exact (Option.some.inj (Option.some.inj hget)).symm

theorem within_onObject (g : Connection σ κ → Mbuf → Outcome σ κ) (st : State (Ptr (Connection σ κ)))
    (p : P) : (onObject g st p).Within ⟨True, False, False⟩ := by
  intro st' w
  dsimp only
  split
  · exact fun _ _ => Reply.within_tail
  · trivial

/-- A function does with its object what its outcome says. -/
theorem tame_onObject {ok : StateID → Prop} {g : Connection σ κ → Mbuf → Outcome σ κ} {p : P}
    {h : Heap P Mbuf} (st : State (Ptr (Connection σ κ)))
    (hok : ∀ n, (g c (h.mem p)).newState = some n → ok n) : (onObject g st p).Tame ok c h := by
  intro st' hst
  dsimp only
  rw [hst]
  intro st'' _
  exact ⟨_, rfl, Reply.tame_tail hok⟩

/-- **The TCP server ends no connection** on packets that do not ask for it. -/
theorem server_lasting :
    (TCP_Server_init (K := K) proto conCtl cb).Lasting Served Lasts where
  within := by
    intro g hg st p
    rw [functions_TCP_Server_init] at hg
    simp only [List.mem_cons, Option.some.injEq, reduceCtorEq, List.not_mem_nil, or_false,
      false_or] at hg
    rcases hg with rfl | rfl | rfl <;> exact within_onObject _ st p
  factory := by simp [TCP_Server_init, StateMachine.registerFunction, StateMachine.registerStartStateID]
  start := Or.inl rfl
  ends := not_served_end
  call := by
    intro n g hg hn st p c h _ hcond
    obtain rfl := eq_onObject hn hg
    apply tame_onObject
    intro n' hnew
    have hserved : Served ((answer proto conCtl n c (h.mem p)).newState.getD n) :=
      (lasts_iff hn).mp hcond
    rwa [hnew] at hserved

end machine

end TCP

/-! ### The DTLS server -/

namespace DTLS

variable {S : Type} [DecidableEq P] {r : Side S C} {o : OpenSSL S} {ok : StateID → Prop} {c : C}
  {h : Heap P Mbuf}

omit [DecidableEq P] in
theorem tame_object {k : C → Heap P Mbuf → Code P (Ptr C) (Heap P Mbuf)}
    (hk : (k c h).Tame ok c h) : (object k).Tame ok c h := by
  intro st hst
  dsimp only
  rw [hst]
  exact hk

theorem tame_writeRecord {maxLen : Heap P Mbuf → Int} {fill : C → List UInt8 → Mbuf → Mbuf} {pkt : P}
    {k : Code P (Ptr C) (Heap P Mbuf)} (hk : ∀ c h, k.Tame ok c h) :
    (writeRecord r o maxLen fill pkt k).Tame ok c h := by
  apply tame_object
  dsimp only
  split
  · trivial
  · exact ⟨_, rfl, hk _ _⟩

theorem tame_writeXtra {pkt : P} {fuel ret : Nat} {k : Nat → Code P (Ptr C) (Heap P Mbuf)}
    (hk : ∀ ret c h, (k ret).Tame ok c h) : (writeXtra r o pkt fuel ret k).Tame ok c h := by
  induction fuel generalizing ret c h with
  | zero => trivial
  | succ fuel ih =>
      apply tame_object
      split
      · exact hk ret c h
      · intro p h'
        apply tame_writeRecord
        intro c h
        exact ih

theorem tame_writeAllDataAvailable {pkt : P} {fuel : Nat} {k : Nat → Code P (Ptr C) (Heap P Mbuf)}
    (hk : ∀ ret c h, (k ret).Tame ok c h) : (r.writeAllDataAvailable o fuel pkt k).Tame ok c h := by
  apply tame_object
  split
  · exact tame_writeXtra hk
  · apply tame_writeRecord
    intro c h
    exact tame_writeXtra hk

omit [DecidableEq P] in
theorem tame_withSsl {f : S → S} {k : Code P (Ptr C) (Heap P Mbuf)}
    (hk : k.Tame ok (r.setSsl c (f (r.ssl c))) h) : (withSsl r f k).Tame ok c h := by
  apply tame_object
  exact ⟨_, rfl, hk⟩

/-- The `SSL` after the peer was read, and what it said was sent back. -/
def reflected (o : OpenSSL S) (ssl : S) : S :=
  let (buf, ssl) := o.SSL_read ssl 2048
  if buf = [] then ssl else (o.SSL_write ssl buf).2

omit [DecidableEq P] in
theorem tame_reflect {k : Code P (Ptr C) (Heap P Mbuf)}
    (hk : k.Tame ok (r.setSsl c (reflected o (r.ssl c))) h) : (reflect r o k).Tame ok c h := by
  apply tame_object
  unfold reflected at hk
  dsimp only at hk ⊢
  split
  · rename_i hbuf
    rw [if_pos hbuf] at hk
    exact ⟨_, rfl, hk⟩
  · rename_i hbuf
    rw [if_neg hbuf] at hk
    split
    · trivial
    · exact ⟨_, rfl, hk⟩

omit [DecidableEq P] in
theorem tame_code {f : Receiver C P} {st : State (Ptr C)} {pkt : P}
    (hk : (f.after pkt).Tame ok (f.received r o c (h.mem pkt)) h) :
    (f.code r o st pkt).Tame ok c h := by
  apply tame_object
  dsimp only
  split
  · exact ⟨_, rfl, hk⟩
  · trivial

/-! No function makes an immediate transition or sets a timeout. -/

variable {pw : Powers} (hpw : pw.throws)

include hpw

omit [DecidableEq P] in
theorem within_object {k : C → Heap P Mbuf → Code P (Ptr C) (Heap P Mbuf)}
    (hk : ∀ c h, (k c h).Within pw) : (object k).Within pw := by
  intro st h
  dsimp only
  split
  · exact hk _ _
  · exact hpw

theorem within_writeRecord {maxLen : Heap P Mbuf → Int} {fill : C → List UInt8 → Mbuf → Mbuf} {pkt : P}
    {k : Code P (Ptr C) (Heap P Mbuf)} (hk : k.Within pw) :
    (writeRecord r o maxLen fill pkt k).Within pw := by
  apply within_object hpw
  intro c h
  dsimp only
  split
  · exact hpw
  · exact hk

theorem within_writeXtra {pkt : P} {fuel ret : Nat} {k : Nat → Code P (Ptr C) (Heap P Mbuf)}
    (hk : ∀ ret, (k ret).Within pw) : (writeXtra r o pkt fuel ret k).Within pw := by
  induction fuel generalizing ret with
  | zero => exact hpw
  | succ fuel ih =>
      apply within_object hpw
      intro c h
      split
      · exact hk ret
      · intro p
        exact within_writeRecord hpw ih

theorem within_writeAllDataAvailable {pkt : P} {fuel : Nat}
    {k : Nat → Code P (Ptr C) (Heap P Mbuf)} (hk : ∀ ret, (k ret).Within pw) :
    (r.writeAllDataAvailable o fuel pkt k).Within pw := by
  apply within_object hpw
  intro c h
  split
  · exact within_writeXtra hpw hk
  · exact within_writeRecord hpw (within_writeXtra hpw hk)

omit [DecidableEq P] in
theorem within_withSsl {f : S → S} {k : Code P (Ptr C) (Heap P Mbuf)} (hk : k.Within pw) :
    (withSsl r f k).Within pw := by
  apply within_object hpw
  intro c h
  exact hk

omit [DecidableEq P] in
theorem within_reflect {k : Code P (Ptr C) (Heap P Mbuf)} (hk : k.Within pw) :
    (reflect r o k).Within pw := by
  apply within_object hpw
  intro c h
  dsimp only
  split
  · exact hk
  · split
    · exact hpw
    · exact hk

omit [DecidableEq P] in
theorem within_code {f : Receiver C P} {st : State (Ptr C)} {pkt : P} (hk : (f.after pkt).Within pw) :
    (f.code r o st pkt).Within pw := by
  apply within_object hpw
  intro c h
  dsimp only
  split
  · exact hk
  · exact hpw

end DTLS

namespace DTLS_Server

open DTLS

variable {S : Type} [DecidableEq P] {o : OpenSSL S} {fuel : Nat}

theorem within_receivers {f : Receiver (dtlsServer S) P} (hf : f ∈ receivers o fuel)
    (st : State (Ptr (dtlsServer S))) (pkt : P) :
    (f.code side o st pkt).Within ⟨True, False, False⟩ := by
  have hwrite : (writeAllDataAvailable o fuel pkt).Within ⟨True, False, False⟩ :=
    within_writeAllDataAvailable trivial fun _ => trivial
  apply within_code trivial
  simp only [receivers, List.mem_cons, List.not_mem_nil, or_false] at hf
  rcases hf with rfl | rfl | rfl
  · apply within_withSsl trivial
    apply within_object trivial
    intro server h
    split
    · exact within_reflect trivial hwrite
    · exact hwrite
  · apply within_reflect trivial
    apply within_object trivial
    intro server h
    split
    · exact within_withSsl trivial hwrite
    · exact hwrite
  · apply within_object trivial
    intro server h
    dsimp only
    split
    · exact hwrite
    · exact hwrite

/-- The states that are reached. -/
def Served (n : StateID) : Prop := n = States.HANDSHAKE ∨ n = States.ESTABLISHED

instance (n : StateID) : Decidable (Served n) := inferInstanceAs (Decidable (_ ∨ _))

/-- **The packet does not end the connection**: one that is established has not been shut down by the
peer when the packet was read. -/
def Lasts (o : OpenSSL S) (n : StateID) (server : dtlsServer S) (pkt : Mbuf) : Prop :=
  n = States.ESTABLISHED → o.SSL_get_shutdown (reflected o
    (o.BIO_write server.ssl pkt.data (incoming pkt).1 (incoming pkt).2).2) = 0

instance (o : OpenSSL S) (n : StateID) (server : dtlsServer S) (pkt : Mbuf) :
    Decidable (Lasts o n server pkt) :=
  inferInstanceAs (Decidable (_ → _))

variable {server : dtlsServer S} {h : Heap P Mbuf} {st : State (Ptr (dtlsServer S))} {pkt : P}

theorem tame_write : (writeAllDataAvailable o fuel pkt).Tame Served server h :=
  tame_writeAllDataAvailable fun _ _ _ => trivial

theorem tame_runHandshake :
    ((runHandshake o fuel).code side o st pkt).Tame Served server h := by
  apply tame_code
  apply tame_withSsl
  apply tame_object
  split
  · refine ⟨Or.inr rfl, ?_⟩
    apply tame_reflect
    exact tame_write
  · exact tame_write

theorem tame_sendData (hlasts : Lasts o States.ESTABLISHED server (h.mem pkt)) :
    ((sendData o fuel).code side o st pkt).Tame Served server h := by
  apply tame_code
  apply tame_reflect
  apply tame_object
  rw [if_neg (by exact not_not.mpr (hlasts rfl))]
  exact tame_write

/-- **The DTLS server ends no connection** that its peer has not shut down. -/
theorem server_lasting {cb : Heap P Mbuf → P × Heap P Mbuf} :
    (configStateMachine o fuel cb (StateMachine.new (K := K))).Lasting Served (Lasts o) where
  within := by
    intro g hg st p
    obtain ⟨f, hf, rfl⟩ := mem_configStateMachine hg
    exact within_receivers hf st p
  factory := by
    simp [configStateMachine, StateMachine.registerStartStateID, StateMachine.registerGetPktCB,
      StateMachine.registerEndStateID]
  start := Or.inl rfl
  ends := by
    show ¬ Served States.DELETED
    decide
  call := by
    intro n g hg hn st p c h _ hcond
    have hget := StateMachine.dispatch_eq_ok hg
    rw [functions_configStateMachine] at hget
    rcases hn with rfl | rfl
    · obtain rfl := Option.some.inj (Option.some.inj hget)
      exact tame_runHandshake
    · obtain rfl := Option.some.inj (Option.some.inj hget)
      exact tame_sendData hcond

end DTLS_Server

/-! ### Both servers -/

open Servers in
/-- **In every run of the servers in which no packet ends its connection** the objects are those of
the tracked connections, one each, and none is used after it was released. -/
theorem servers_tracked {ι κ A M : Type} [DecidableEq ι] [DecidableEq κ] [DecidableEq K]
    [DecidableEq P] [DecidableEq A] {alloc : Allocator A M} {Valid : M → Finset A → Prop}
    (hal : alloc.Lawful Valid) {m : M} (hm : Valid m ∅) (pl : Service.Platform) (poolOf : ι → κ) :
    (∀ (σ τ : Type) (proto : TCP.Proto σ) (conCtl : TCP.ConCtl τ) cb (ident : TCP.Mbuf → Option K)
      mem (pkts : Heap P TCP.Mbuf) x,
        Steps (DoesWhen pl ident poolOf TCP.Lasts)
          (start alloc (TCP.TCP_Server_init proto conCtl cb) m mem pkts) x → Tracked x) ∧
    (∀ (S : Type) (o : DTLS.OpenSSL S) fuel cb (ident : DTLS.Mbuf → Option K)
      mem (pkts : Heap P DTLS.Mbuf) x,
        Steps (DoesWhen pl ident poolOf (DTLS_Server.Lasts o))
          (start alloc (DTLS_Server.configStateMachine o fuel cb StateMachine.new) m mem pkts) x →
            Tracked x) := by
  constructor
  · intro σ τ proto conCtl cb ident mem pkts x hrun
    exact run_tracked TCP.server_lasting hal hm hrun
  · intro S o fuel cb ident mem pkts x hrun
    exact run_tracked DTLS_Server.server_lasting hal hm hrun

/-! ### Two connections that end -/

namespace Servers

/-- A server with room for two objects. -/
abbrev Small (B C : Type) := Fleet Unit Unit Nat Nat (Option Nat) B (Store Nat (List Nat) C Nat)

def platform : Service.Platform where
  clock := fun _ => 0
  topRule := Timeout.firstRule
  ndebug := false

variable {B C : Type}

/-- A packet arrives, and is handed to the server. -/
def receives (b : B) : List (Fleet.Act Unit Nat Nat (Option Nat) B (Store Nat (List Nat) C Nat)) :=
  [.arrive fun _ => b, .process () ((BufArray.new [7]).get BufArray.isSome_new_seven)]

def served (x : Small B C) (bs : List B) : Except Fault (Small B C) :=
  (bs.flatMap receives).foldlM (fun x a => x.step (env platform fun _ => some 7) id a) x

/-- The objects that were not released, and the connections in the table and in the pool. -/
def overview : Except Fault (Small B C) → Option (Finset Nat × Finset Nat × Finset Nat)
  | .error _ => none
  | .ok x => some (x.w.rest.heap.taken, (x.sms ()).stateTable.keys, (x.connPool ()).keys)

/-- The server of the joke protocol. -/
def tcp : Small TCP.Mbuf (TCP.Connection Unit TCP.AckCount) :=
  start .stack (TCP.TCP_Server_init TCP.TcpProtoJoke TCP.TcpConCtlSimple (Heap.take id)) [0, 1]
    (fun _ => TCP.factory TCP.TcpProtoJoke TCP.TcpConCtlSimple) ⟨fun _ => TCP.synFrame, 0⟩

/-- The peer resets the connection. -/
def rstFrame : TCP.Mbuf :=
  .ofBytes (List.replicate 14 0 ++ TCP.ipv4Bytes 40 ++ TCP.tcpBytes 8 1 0x50 0x14 32)

/-- A handshake of one datagram; the next one is the `close_notify` of the peer. -/
def closing : DTLS.OpenSSL Nat where
  SSL_new := 0
  BIO_eof _ := true
  BIO_read s _ := ([], s)
  BIO_write s _ _ len := (len, s + 1)
  SSL_accept s := s
  SSL_connect s := s
  SSL_is_init_finished _ := true
  SSL_read s _ := ([], s)
  SSL_write s buf := (buf.length, s)
  SSL_get_shutdown s := if s < 2 then 0 else 2
  SSL_shutdown s := (0, s)

/-- A datagram of one byte. -/
def datagram : DTLS.Mbuf where
  data := Mem.set16 (Mem.set8 (Mem.set8 (fun _ => 0) 14 0x45) 23 17) 38 9
  dataLen := 43
  bufLen := 2048

def dtls : Small DTLS.Mbuf (DTLS_Server.dtlsServer Nat) :=
  start .stack (DTLS_Server.configStateMachine closing 1 (Heap.take id) StateMachine.new) [0, 1]
    (fun _ => ⟨0, 0, 0, Headers.Ethernet.destMac fun _ => 0, Headers.Ethernet.srcMac fun _ => 0, 0, 0⟩)
    ⟨fun _ => datagram, 0⟩

theorem served_steps {x y : Small B C} {bs : List B} (h : served x bs = .ok y) :
    Steps (Does platform (fun _ => some 7) id) x y := by
  induction bs generalizing x with
  | nil =>
      obtain rfl := Except.ok.inj h
      exact .refl
  | cons b bs ih =>
      obtain ⟨x₁, h₁, h⟩ := foldlM_cons_eq_ok.mp h
      obtain ⟨x₂, h₂, h⟩ := foldlM_cons_eq_ok.mp h
      have hrest := ih h
      have hfirst : Steps (Does platform (fun _ => some 7) id) x x₂ :=
        (Steps.refl.step (.arrive fun _ => b) ⟨trivial, h₁⟩).step (.process () _) ⟨trivial, h₂⟩
      exact hfirst.trans hrest

/-- An object without a connection. -/
theorem not_tracked_of_overview {x : Small B C} (bs : List B)
    (hseen : overview (served x bs) = some ({0}, ∅, ∅)) :
    ∃ y, Steps (Does platform (fun _ => some 7) id) x y ∧ ¬ Tracked y := by
  cases hy : served x bs with
  | error e =>
      rw [hy] at hseen
      simp [overview] at hseen
  | ok y =>
      rw [hy] at hseen
      obtain ⟨htaken, hseen⟩ := Prod.mk.inj (Option.some.inj hseen)
      obtain ⟨htable, hpool⟩ := Prod.mk.inj hseen
      refine ⟨y, served_steps hy, ?_⟩
      intro h
      obtain ⟨⟨p, k⟩, st, hst, -⟩ := (h.live_iff 0).mp (by simp [htaken])
      cases p with
      | inl i =>
          have hmem := Finmap.mem_keys.mpr (Finmap.mem_of_lookup_eq_some hst)
          simp [htable] at hmem
      | inr i =>
          have hmem := Finmap.mem_keys.mpr (Finmap.mem_of_lookup_eq_some hst)
          simp [hpool] at hmem

/-- **The object of a connection that has ended is still there**: a reset takes a connection of the
TCP server to its end state, and a `close_notify` one of the DTLS server. -/
theorem not_tracked_ended :
    (∃ x, Steps (Does platform (fun _ => some 7) id) tcp x ∧ ¬ Tracked x) ∧
      ∃ x, Steps (Does platform (fun _ => some 7) id) dtls x ∧ ¬ Tracked x := by
  constructor
  · apply not_tracked_of_overview [TCP.synFrame, rstFrame]
    decide +kernel
  · apply not_tracked_of_overview [datagram, datagram]
    decide +kernel

instance {ok : StateID → C → B → Prop} [∀ n c b, Decidable (ok n c b)] (e : StateID × Option Nat)
    (b : B) (w : Store Nat (List Nat) C Nat) :
    Decidable (∀ t, e.2 = some t → ok e.1 (w.heap.mem t) b) :=
  inferInstanceAs (Decidable (∀ t ∈ e.2, ok e.1 (w.heap.mem t) b))

theorem served_stepsWhen {ok : StateID → C → B → Prop} {x y : Small B C} {b : B}
    (hmeets : Fleet.Meets (env platform fun _ => some 7) id
      (fun _ e pkt w => ∀ t, e.2 = some t → ok e.1 (w.heap.mem t) pkt)
      { x with w := { x.w with mem := fun _ => b } }
      (.process () ((BufArray.new [7]).get BufArray.isSome_new_seven)))
    (h : served x [b] = .ok y) : Steps (DoesWhen platform (fun _ => some 7) id ok) x y := by
  obtain ⟨x₁, h₁, h⟩ := foldlM_cons_eq_ok.mp h
  obtain ⟨x₂, h₂, h⟩ := foldlM_cons_eq_ok.mp h
  obtain rfl := Except.ok.inj h
  obtain rfl := Except.ok.inj h₁
  have hfirst : Steps (DoesWhen platform (fun _ => some 7) id ok) x
      { x with w := { x.w with mem := fun _ => b } } :=
    Steps.refl.step (.arrive fun _ => b) ⟨⟨trivial, rfl⟩, trivial⟩
  exact hfirst.step (.process () _) ⟨⟨trivial, h₂⟩, hmeets⟩

end Servers

open Servers in
/-- A SYN and a handshake, and the objects of the two connections. -/
theorem servers_tracked_served : ∃ x y, served tcp [TCP.synFrame] = .ok x ∧
    x.w.rest.heap.taken = {0} ∧ Tracked x ∧ served dtls [datagram] = .ok y ∧
      y.w.rest.heap.taken = {0} ∧ Tracked y := by
  have hvalid : Allocator.StackValid [0, 1] ∅ := ⟨by decide, by simp⟩
  obtain ⟨htcp, hdtls⟩ := servers_tracked (K := Nat) (P := Nat) Allocator.stack_lawful hvalid
    platform (fun _ : Unit => ())
  have hx : overview (served tcp [TCP.synFrame]) = some ({0}, {7}, ∅) := by decide +kernel
  have hy : overview (served dtls [datagram]) = some ({0}, {7}, ∅) := by decide +kernel
  cases hsx : served tcp [TCP.synFrame] with
  | error e =>
      rw [hsx] at hx
      simp [overview] at hx
  | ok x =>
      cases hsy : served dtls [datagram] with
      | error e =>
          rw [hsy] at hy
          simp [overview] at hy
      | ok y =>
          rw [hsx] at hx
          rw [hsy] at hy
          refine ⟨x, y, rfl, (Prod.mk.inj (Option.some.inj hx)).1, ?_, rfl,
            (Prod.mk.inj (Option.some.inj hy)).1, ?_⟩
          · refine htcp _ _ _ _ _ _ _ _ x (served_stepsWhen ?_ hsx)
            unfold Fleet.Meets
            decide +kernel
          · refine hdtls _ _ _ _ _ _ _ y (served_stepsWhen ?_ hsy)
            unfold Fleet.Meets
            decide +kernel

end MoonState
