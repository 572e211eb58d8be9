/-
The associations of a DTLS server.

An association is a connection by itself: an `SSL`, the addresses of the last packet of
the handshake, and the state.  `receive` is what a packet does to it, and which
datagrams it makes the server send.  The machine keeps one for each 5-tuple and does the
same: it goes on exactly where all of them do, and every datagram is a frame of its own,
back to where the packet came from.
-/
import MoonState.Model.HelloByeRun
import MoonState.Proofs.Astraeus
import MoonState.Proofs.DtlsDrain
import MoonState.Proofs.DtlsInput
import MoonState.Proofs.ServerObjects

namespace MoonState

open Headers DTLS
open IPv4_5TupleL2Ident (ConnectionID)

variable {K P S C : Type}

/-! ### The `SSL` alone -/

namespace DTLS

variable (o : OpenSSL S) (s : S)

/-- A datagram is handed over, or an assertion fails. -/
def OpenSSL.receive (pkt : Mbuf) : Option S :=
  let (data, len) := incoming pkt
  let (writeBytes, s) := o.BIO_write s pkt.data data len
  if writeBytes > 0 then some s else none

/-- What was said is said back. -/
def OpenSSL.echo : Option S :=
  let (buf, s) := o.SSL_read s 2048
  if buf = [] then some s
  else
    let (written, s) := o.SSL_write s buf
    if written ≠ buf.length then none else some s

variable {o} {r : Side S C} {supply : Nat → P} {pkt : P}

theorem exec_object (env : Env K P (Heap P Mbuf)) {a : Activation K P (Ptr C) (Heap P Mbuf)}
    {c : C} (h : a.state.stateData = .to c) (k : C → Heap P Mbuf → Code P (Ptr C) (Heap P Mbuf)) :
    exec env (object k) a = exec env (k c a.sys.w) a := by
  simp only [object, exec, h]

theorem exec_withSsl (env : Env K P (Heap P Mbuf)) {a : Activation K P (Ptr C) (Heap P Mbuf)}
    {c : C} (h : a.state.stateData = .to c) (f : S → S) (k : Code P (Ptr C) (Heap P Mbuf)) :
    exec env (withSsl r f k) a = exec env k (a.put (.to (r.setSsl c (f (r.ssl c)))) a.sys.w) := by
  simp only [withSsl, object, exec, h]

theorem exec_reflect (env : Env K P (Heap P Mbuf)) {a : Activation K P (Ptr C) (Heap P Mbuf)}
    {c : C} (h : a.state.stateData = .to c) (k : Code P (Ptr C) (Heap P Mbuf)) :
    exec env (reflect r o k) a = match o.echo (r.ssl c) with
      | none => .error .exception
      | some s => exec env k (a.put (.to (r.setSsl c s)) a.sys.w) := by
  simp only [reflect, object, exec, h]
  by_cases hbuf : (o.SSL_read (r.ssl c) 2048).1 = []
  · have hecho : o.echo (r.ssl c) = some (o.SSL_read (r.ssl c) 2048).2 := if_pos hbuf
    rw [hecho, if_pos hbuf]
    rfl
  · by_cases hwritten : (o.SSL_write (o.SSL_read (r.ssl c) 2048).2
        (o.SSL_read (r.ssl c) 2048).1).1 = (o.SSL_read (r.ssl c) 2048).1.length
    · have hecho : o.echo (r.ssl c) = some (o.SSL_write (o.SSL_read (r.ssl c) 2048).2
          (o.SSL_read (r.ssl c) 2048).1).2 := (if_neg hbuf).trans (if_neg (not_not.mpr hwritten))
      rw [hecho, if_neg hbuf, if_neg (not_not.mpr hwritten)]
      rfl
    · have hecho : o.echo (r.ssl c) = none := (if_neg hbuf).trans (if_pos hwritten)
      rw [hecho, if_neg hbuf, if_pos hwritten]
      rfl

theorem exec_reflect_none (env : Env K P (Heap P Mbuf))
    {a : Activation K P (Ptr C) (Heap P Mbuf)} {c : C} (h : a.state.stateData = .to c)
    (k : Code P (Ptr C) (Heap P Mbuf)) (hecho : o.echo (r.ssl c) = none) :
    exec env (reflect r o k) a = .error .exception := by
  rw [exec_reflect env h, hecho]

theorem exec_reflect_some (env : Env K P (Heap P Mbuf))
    {a : Activation K P (Ptr C) (Heap P Mbuf)} {c : C} {s : S} (h : a.state.stateData = .to c)
    (k : Code P (Ptr C) (Heap P Mbuf)) (hecho : o.echo (r.ssl c) = some s) :
    exec env (reflect r o k) a = exec env k (a.put (.to (r.setSsl c s)) a.sys.w) := by
  rw [exec_reflect env h, hecho]

section receiver

variable (env : Env K P (Heap P Mbuf)) {a : Activation K P (Ptr C) (Heap P Mbuf)} {c d : C}
  (h : a.state.stateData = .to c) (f : Receiver C P) (hd : f.before c (a.sys.w.mem pkt) = d)

include h hd

theorem exec_receiver_none (hrec : o.receive (r.ssl d) (a.sys.w.mem pkt) = none) :
    exec env (f.code r o a.state pkt) a = .error .exception := by
  subst hd
  rw [f.exec_code r o pkt h]
  unfold OpenSSL.receive at hrec
  dsimp only at hrec
  split at hrec
  · simp at hrec
  · rename_i hwrite
    exact if_neg hwrite

theorem exec_receiver_some {s : S} (hrec : o.receive (r.ssl d) (a.sys.w.mem pkt) = some s) :
    exec env (f.code r o a.state pkt) a
      = exec env (f.after pkt) (a.put (.to (r.setSsl d s)) a.sys.w) := by
  subst hd
  rw [f.exec_code r o pkt h]
  unfold OpenSSL.receive at hrec
  dsimp only at hrec
  split at hrec
  · rename_i hwrite
    rw [if_pos hwrite, ← Option.some.inj hrec]
    rfl
  · simp at hrec

end receiver

end DTLS

/-- What the packets of a batch hold. -/
def Rx.frames {supply : Nat → P} (x : Rx supply Mbuf) : List Mbuf := x.pkts.map x.w.mem

namespace DTLS_Server

theorem side_settled : (side (S := S)).Settled where
  toLawful := side_lawful
  setSsl_ssl _ := rfl
  setSsl_setSsl _ _ _ := rfl
  xtraMaxLen_fill _ _ _ _ := rfl

/-! ### A function -/

variable (o : OpenSSL S)

/-- What the function of a state does with the `SSL` once it was told the datagram, and the state
that follows if there is one. -/
def turn (n : StateID) (s : S) : Option (Option StateID × S) :=
  if n = States.HANDSHAKE then
    let s := o.SSL_accept s
    if o.SSL_is_init_finished s then (o.echo s).map fun s => (some States.ESTABLISHED, s)
    else some (none, s)
  else if n = States.ESTABLISHED then
    (o.echo s).map fun s =>
      if o.SSL_get_shutdown s ≠ 0 then (some States.DELETED, (o.SSL_shutdown s).2) else (none, s)
  else if n = States.RUN_TEARDOWN then
    let (ret, s) := o.SSL_shutdown s
    if ret = 1 then none else some (none, s)
  else none

/-- The object before its records are written, and the state that follows. -/
def prepare (n : StateID) (server : dtlsServer S) (pkt : Mbuf) :
    Option (Option StateID × dtlsServer S) :=
  let server := if n = States.HANDSHAKE then address server pkt else server
  (o.receive server.ssl pkt).bind fun s =>
    (turn o n s).map fun t => (t.1, { server with ssl := t.2 })

section prepare

variable {o} {n : StateID} {server d : dtlsServer S} {p : Mbuf}
  (hd : (if n = States.HANDSHAKE then address server p else server) = d)

include hd

theorem prepare_eq_none (hrec : o.receive d.ssl p = none) : prepare o n server p = none := by
  unfold prepare
  rw [hd]
  dsimp only
  rw [hrec]
  rfl

theorem prepare_eq_map {s : S} (hrec : o.receive d.ssl p = some s) :
    prepare o n server p = (turn o n s).map fun t => (t.1, { d with ssl := t.2 }) := by
  unfold prepare
  rw [hd]
  dsimp only
  rw [hrec]
  rfl

end prepare

/-- What the function of the `State` replies. -/
def reply (fuel : Nat) (st : State (Ptr (dtlsServer S))) (pkt : Mbuf) (fresh : Nat → Mbuf) :
    Option (Reply (Ptr (dtlsServer S)) Mbuf) :=
  match st.stateData with
  | .to server =>
    (prepare o st.state server pkt).bind fun t => side.flush o fuel t.1 t.2 pkt fresh
  | _ => none

variable {o} {supply : Nat → P} {pkt : P} [DecidableEq P]

/-- `a₁` is `a` after all but the records. -/
structure Prepared (t : Option StateID × dtlsServer S)
    (a a₁ : Activation K P (Ptr (dtlsServer S)) (Heap P Mbuf)) : Prop where
  state : a₁.state = ⟨.to t.2, t.1.getD a.state.state, a.state.timeoutID⟩
  sys : a₁.sys = a.sys
  iface : a₁.iface = a.iface

/-- What comes of preparing, in one of two ways. -/
def Prepares (env : Env K P (Heap P Mbuf)) (o : OpenSSL S) (fuel : Nat) (pkt : P)
    (a : Activation K P (Ptr (dtlsServer S)) (Heap P Mbuf))
    (code : Code P (Ptr (dtlsServer S)) (Heap P Mbuf)) :
    Option (Option StateID × dtlsServer S) → Prop
  | none => ∃ e, exec env code a = .error e
  | some t => ∃ a₁, Prepared t a a₁ ∧
      exec env code a = exec env (writeAllDataAvailable o fuel pkt) a₁

section functions

variable {env : Env K P (Heap P Mbuf)} {fuel : Nat}
  {a : Activation K P (Ptr (dtlsServer S)) (Heap P Mbuf)} {server : dtlsServer S}

theorem exec_runHandshake (h : a.state.stateData = .to server)
    (hstate : a.state.state = States.HANDSHAKE) :
    Prepares env o fuel pkt a ((runHandshake o fuel).code side o a.state pkt)
      (prepare o a.state.state server (a.sys.w.mem pkt)) := by
  let d := address server (a.sys.w.mem pkt)
  have hd : (if a.state.state = States.HANDSHAKE then address server (a.sys.w.mem pkt) else server)
      = d := if_pos hstate
  cases hrec : o.receive d.ssl (a.sys.w.mem pkt) with
  | none =>
      rw [prepare_eq_none hd hrec]
      exact ⟨_, exec_receiver_none (r := side) (d := d) env h (runHandshake o fuel) rfl hrec⟩
  | some s =>
      let d' : dtlsServer S := { d with ssl := o.SSL_accept s }
      let a' := a.put (.to d') a.sys.w
      have hcode := exec_receiver_some (r := side) (d := d) env h (runHandshake o fuel) rfl hrec
      have hexec : exec env ((runHandshake o fuel).code side o a.state pkt) a
          = exec env (if o.SSL_is_init_finished (o.SSL_accept s) then
              .transition States.ESTABLISHED (reflect side o (writeAllDataAvailable o fuel pkt))
            else writeAllDataAvailable o fuel pkt) a' :=
        (hcode.trans (exec_withSsl env rfl _ _)).trans (exec_object (c := d') env rfl _)
      rw [prepare_eq_map hd hrec, hstate, turn, if_pos rfl]
      dsimp only
      by_cases hfinished : o.SSL_is_init_finished (o.SSL_accept s) = true
      · rw [if_pos hfinished] at hexec ⊢
        let a'' := a'.transition States.ESTABLISHED
        cases hecho : o.echo (o.SSL_accept s) with
        | none =>
            exact ⟨_,
              hexec.trans (exec_reflect_none (r := side) (c := d') (a := a'') env rfl _ hecho)⟩
        | some s' =>
            exact ⟨a''.put (.to { d' with ssl := s' }) a''.sys.w, ⟨rfl, rfl, rfl⟩,
              hexec.trans (exec_reflect_some (r := side) (c := d') (a := a'') env rfl _ hecho)⟩
      · rw [if_neg hfinished] at hexec ⊢
        exact ⟨a', ⟨rfl, rfl, rfl⟩, hexec⟩

theorem exec_sendData (h : a.state.stateData = .to server)
    (hstate : a.state.state = States.ESTABLISHED) :
    Prepares env o fuel pkt a ((sendData o fuel).code side o a.state pkt)
      (prepare o a.state.state server (a.sys.w.mem pkt)) := by
  have hne : ¬ States.ESTABLISHED = States.HANDSHAKE := by decide
  have hd : (if a.state.state = States.HANDSHAKE then address server (a.sys.w.mem pkt) else server)
      = server := if_neg (hstate ▸ hne)
  cases hrec : o.receive server.ssl (a.sys.w.mem pkt) with
  | none =>
      rw [prepare_eq_none hd hrec]
      exact ⟨_, exec_receiver_none (r := side) env h (sendData o fuel) rfl hrec⟩
  | some s =>
      let a' := a.put (.to { server with ssl := s }) a.sys.w
      have hcode := exec_receiver_some (r := side) env h (sendData o fuel) rfl hrec
      rw [prepare_eq_map hd hrec, hstate, turn, if_neg hne, if_pos rfl]
      cases hecho : o.echo s with
      | none =>
          exact ⟨_, hcode.trans (exec_reflect_none (r := side) (c := { server with ssl := s })
            (a := a') env rfl _ hecho)⟩
      | some s' =>
          let d' : dtlsServer S := { server with ssl := s' }
          let a'' := a.put (.to d') a.sys.w
          have hexec : exec env ((sendData o fuel).code side o a.state pkt) a
              = exec env (if o.SSL_get_shutdown s' ≠ 0 then
                  withSsl side (fun ssl => (o.SSL_shutdown ssl).2)
                    (.transition States.DELETED (writeAllDataAvailable o fuel pkt))
                else writeAllDataAvailable o fuel pkt) a'' :=
            (hcode.trans (exec_reflect_some (r := side) (c := { server with ssl := s })
              (a := a') env rfl _ hecho)).trans (exec_object (c := d') env rfl _)
          rw [Option.map_some, Option.map_some]
          by_cases hdown : o.SSL_get_shutdown s' ≠ 0
          · rw [if_pos hdown] at hexec ⊢
            let put := a''.put (.to { d' with ssl := (o.SSL_shutdown s').2 }) a''.sys.w
            exact ⟨put.transition States.DELETED, ⟨rfl, rfl, rfl⟩,
              hexec.trans (exec_withSsl (r := side) (c := d') (a := a'') env rfl _ _)⟩
          · rw [if_neg hdown] at hexec ⊢
            exact ⟨a'', ⟨rfl, rfl, rfl⟩, hexec⟩

theorem exec_runTeardown (h : a.state.stateData = .to server)
    (hstate : a.state.state = States.RUN_TEARDOWN) :
    Prepares env o fuel pkt a ((runTeardown o fuel).code side o a.state pkt)
      (prepare o a.state.state server (a.sys.w.mem pkt)) := by
  have hne : ¬ States.RUN_TEARDOWN = States.HANDSHAKE := by decide
  have hne' : ¬ States.RUN_TEARDOWN = States.ESTABLISHED := by decide
  have hd : (if a.state.state = States.HANDSHAKE then address server (a.sys.w.mem pkt) else server)
      = server := if_neg (hstate ▸ hne)
  cases hrec : o.receive server.ssl (a.sys.w.mem pkt) with
  | none =>
      rw [prepare_eq_none hd hrec]
      exact ⟨_, exec_receiver_none (r := side) env h (runTeardown o fuel) rfl hrec⟩
  | some s =>
      let d' : dtlsServer S := { server with ssl := s }
      let a' := a.put (.to d') a.sys.w
      have hcode := exec_receiver_some (r := side) env h (runTeardown o fuel) rfl hrec
      have hexec : exec env ((runTeardown o fuel).code side o a.state pkt) a
          = exec env (if (o.SSL_shutdown s).1 = 1 then
              .put .dangling a.sys.w
                (.transition States.DELETED (.freePkt (writeAllDataAvailable o fuel pkt)))
            else .put (.to { d' with ssl := (o.SSL_shutdown s).2 }) a.sys.w
              (writeAllDataAvailable o fuel pkt)) a' :=
        hcode.trans (exec_object (c := d') env rfl _)
      rw [prepare_eq_map hd hrec, hstate, turn, if_neg hne, if_neg hne', if_pos rfl]
      dsimp only
      by_cases hret : (o.SSL_shutdown s).1 = 1
      · -- the object is deleted, and used to write what is available
        rw [if_pos hret] at hexec ⊢
        exact ⟨.exception, hexec⟩
      · rw [if_neg hret] at hexec ⊢
        exact ⟨a'.put (.to { d' with ssl := (o.SSL_shutdown s).2 }) a'.sys.w, ⟨rfl, rfl, rfl⟩,
          hexec⟩

end functions

/-! ### The machine -/

theorem length_zeros : (List.replicate 6 (0 : UInt8)).length = 6 := rfl

/-- The object of a new connection. -/
def opened (o : OpenSSL S) : dtlsServer S where
  ssl := o.SSL_new
  localIP := 0
  remoteIP := 0
  localMac := ⟨List.replicate 6 0, length_zeros⟩
  remoteMac := ⟨List.replicate 6 0, length_zeros⟩
  remotePort := 0
  localPort := 0

/-- The machine, one connection at a time. -/
def machine (o : OpenSSL S) (fuel : Nat) (supply : Nat → P) :
    Local ConnectionID P (Ptr (dtlsServer S)) Mbuf where
  reply := reply o fuel
  startStateID := States.HANDSHAKE
  endStateID := States.DELETED
  factory := some fun _ => .to (opened o)
  listenToConnections := true
  supply := supply
  ident b := IPv4_5TupleL2Ident.identify b.data

section machine

variable {fuel : Nat} {n : StateID} {g : StateFun P (Ptr (dtlsServer S)) (Heap P Mbuf)}
  {cb : Heap P Mbuf → P × Heap P Mbuf}

/-- Which function a state has. -/
def receiver (o : OpenSSL S) (fuel : Nat) (n : StateID) : Option (Receiver (dtlsServer S) P) :=
  if n = States.HANDSHAKE then some (runHandshake o fuel)
  else if n = States.ESTABLISHED then some (sendData o fuel)
  else if n = States.RUN_TEARDOWN then some (runTeardown o fuel)
  else none

theorem dispatch_eq : (configStateMachine o fuel cb (StateMachine.new (K := K))).dispatch n
    = match receiver o fuel n with
      | some f => .ok (f.code side o)
      | none => .error .noFunction := by
  have hlen : ((receivers (P := P) o fuel).map fun f => some (f.code side o)).length = 3 := rfl
  unfold StateMachine.dispatch
  rw [functions_configStateMachine, List.length_cons, hlen]
  by_cases hhandshake : n = States.HANDSHAKE
  · subst hhandshake
    rfl
  · by_cases hestablished : n = States.ESTABLISHED
    · subst hestablished
      rfl
    · by_cases hteardown : n = States.RUN_TEARDOWN
      · subst hteardown
        rfl
      · rw [receiver, if_neg hhandshake, if_neg hestablished, if_neg hteardown]
        by_cases hzero : n = 0
        · subst hzero
          rfl
        · have hn : 3 < n.toNat := by
            have h₀ : n.toNat ≠ 0 := fun h => hzero (UInt16.toNat_inj.mp h)
            have h₁ : n.toNat ≠ 1 := fun h => hhandshake (UInt16.toNat_inj.mp h)
            have h₂ : n.toNat ≠ 2 := fun h => hestablished (UInt16.toNat_inj.mp h)
            have h₃ : n.toNat ≠ 3 := fun h => hteardown (UInt16.toNat_inj.mp h)
            omega
          rw [if_neg (by omega)]

variable {env : Env K P (Heap P Mbuf)} {a : Activation K P (Ptr (dtlsServer S)) (Heap P Mbuf)}

/-- The function of a state does what `prepare` says first. -/
theorem exec_receiver {f : Receiver (dtlsServer S) P} {server : dtlsServer S}
    (hf : receiver o fuel a.state.state = some f) (h : a.state.stateData = .to server) :
    Prepares env o fuel pkt a (f.code side o a.state pkt)
      (prepare o a.state.state server (a.sys.w.mem pkt)) := by
  unfold receiver at hf
  split at hf
  · rename_i hstate
    rw [← Option.some.inj hf]
    exact exec_runHandshake h hstate
  · split at hf
    · rename_i hstate
      rw [← Option.some.inj hf]
      exact exec_sendData h hstate
    · split at hf
      · rename_i hstate
        rw [← Option.some.inj hf]
        exact exec_runTeardown h hstate
      · simp at hf

theorem prepare_of_receiver_none (server : dtlsServer S) (p : Mbuf)
    (h : receiver (P := P) o fuel n = none) : prepare o n server p = none := by
  have hn : n ≠ States.HANDSHAKE ∧ n ≠ States.ESTABLISHED ∧ n ≠ States.RUN_TEARDOWN := by
    unfold receiver at h
    split at h
    · simp at h
    · split at h
      · simp at h
      · split at h
        · simp at h
        · exact ⟨by assumption, by assumption, by assumption⟩
  have hturn : ∀ s, turn o n s = none := fun s => by
    rw [turn, if_neg hn.1, if_neg hn.2.1, if_neg hn.2.2]
  unfold prepare
  dsimp only
  simp only [hturn, Option.map_none, Option.bind_fun_none]

variable (env) in
/-- **A function** replies, where there is a reply and the array has room. -/
theorem exec_reply (hfuel : 0 < fuel) {f : Receiver (dtlsServer S) P} {server : dtlsServer S}
    (hf : receiver o fuel a.state.state = some f) (h : Lent supply pkt server a) :
    (∃ r a', reply o fuel a.state (a.sys.w.mem pkt) (a.sys.w.next supply) = some r ∧
      exec env (f.code side o a.state pkt) a = .ok a' ∧ Replied supply r pkt r.extra a a') ∨
    ((∃ e, exec env (f.code side o a.state pkt) a = .error e) ∧
      ∀ r, reply o fuel a.state (a.sys.w.mem pkt) (a.sys.w.next supply) = some r →
        BufArray.capacity a.sys.pktsBA.numSlots < a.sys.pktsBA.numBufs + r.extra.length) := by
  have hreply : reply o fuel a.state (a.sys.w.mem pkt) (a.sys.w.next supply)
      = (prepare o a.state.state server (a.sys.w.mem pkt)).bind fun t =>
        side.flush o fuel t.1 t.2 (a.sys.w.mem pkt) (a.sys.w.next supply) := by
    unfold reply
    rw [h.object]
  have hprepare : Prepares env o fuel pkt a (f.code side o a.state pkt)
      (prepare o a.state.state server (a.sys.w.mem pkt)) := exec_receiver hf h.object
  rw [hreply]
  cases hp : prepare o a.state.state server (a.sys.w.mem pkt) with
  | none =>
      rw [hp] at hprepare
      exact Or.inr ⟨hprepare, by simp⟩
  | some t =>
      rw [hp] at hprepare
      obtain ⟨a₁, ha₁, hexec⟩ := hprepare
      have hlent : Lent supply pkt t.2 a₁ :=
        ⟨by rw [ha₁.state], by rw [ha₁.sys]; exact h.getPktCB, by rw [ha₁.sys]; exact h.spares⟩
      have hflush := exec_flush side_settled env hfuel (o := o) hlent
      rw [ha₁.sys] at hflush
      rw [hexec, Option.bind_some]
      have hmap : side.flush o fuel t.1 t.2 (a.sys.w.mem pkt) (a.sys.w.next supply)
          = (side.flush o fuel none t.2 (a.sys.w.mem pkt) (a.sys.w.next supply)).map
            fun r => { r with newState := t.1 } := by
        unfold Side.flush
        rw [Option.map_map]
        rfl
      rw [hmap]
      rcases hflush with ⟨r, a', hr, hdone, hreplied⟩ | ⟨he, hroom⟩
      · refine Or.inl ⟨{ r with newState := t.1 }, a', by rw [hr]; rfl, hdone, ?_⟩
        obtain ⟨d, -, rfl⟩ := Option.map_eq_some_iff.mp hr
        constructor
        case state =>
          rw [hreplied.state, ha₁.state]
          rfl
        case w => rw [hreplied.w, ha₁.sys]
        case pkts => rw [hreplied.pkts, ha₁.sys]
        case sendPkt => rw [hreplied.sendPkt, ha₁.iface]
      · refine Or.inr ⟨he, fun r hr => ?_⟩
        obtain ⟨r', hr', rfl⟩ := Option.map_eq_some_iff.mp hr
        exact hroom r' hr'

omit [DecidableEq P] in
/-- A function that returns had an object. -/
theorem exists_object {f : Receiver (dtlsServer S) P}
    {a' : Activation K P (Ptr (dtlsServer S)) (Heap P Mbuf)}
    (h : exec env (f.code side o a.state pkt) a = .ok a') :
    ∃ server, a.state.stateData = .to server := by
  cases hd : a.state.stateData with
  | «to» server => exact ⟨server, rfl⟩
  | null => simp [Receiver.code, object, exec, hd] at h
  | dangling => simp [Receiver.code, object, exec, hd] at h

/-- The machine that is configured is this one. -/
theorem machine_runs (hfuel : 0 < fuel) : (machine o fuel supply).Runs
    (configStateMachine o fuel (Heap.take supply) (StateMachine.new (K := ConnectionID))) where
  startStateID := rfl
  endStateID := rfl
  startStateFun := rfl
  listenToConnections := rfl
  getPktCB := rfl
  timeoutsQ := rfl
  within := by
    intro g hg st p
    obtain ⟨f, hf, rfl⟩ := mem_configStateMachine hg
    exact within_receivers hf st p
  replied := by
    intro env g a a' p hg hcb hsp hexec
    rw [dispatch_eq] at hg
    cases hf : receiver (P := P) o fuel a.state.state with
    | none => simp [hf] at hg
    | some f =>
        rw [hf] at hg
        obtain rfl := Except.ok.inj hg
        obtain ⟨server, hobject⟩ := exists_object hexec
        rcases exec_reply env hfuel hf ⟨hobject, hcb, hsp⟩ with
          ⟨r, b, hr, hb, hreplied⟩ | ⟨⟨e, he⟩, -⟩
        · obtain rfl := Except.ok.inj (hb.symm.trans hexec)
          exact ⟨r, hr, hreplied⟩
        · simp [he] at hexec
  returns := by
    intro env a p r hcb hsp hr hroom
    cases hobject : a.state.stateData with
    | null => simp [machine, reply, hobject] at hr
    | dangling => simp [machine, reply, hobject] at hr
    | «to» server =>
        cases hf : receiver (P := P) o fuel a.state.state with
        | none =>
            have hnone := prepare_of_receiver_none server (a.sys.w.mem p) hf
            simp [machine, reply, hobject, hnone] at hr
        | some f =>
            rw [dispatch_eq, hf]
            rcases exec_reply env hfuel hf ⟨hobject, hcb, hsp⟩ with
              ⟨r', b, -, hb, -⟩ | ⟨-, hover⟩
            · exact ⟨_, b, rfl, hb⟩
            · exact absurd hroom (Nat.not_le.mpr (hover r hr))

end machine

/-! ### One association -/

/-- The state and the `SSL`, if there is an association. -/
abbrev Association (S : Type) := Option (StateID × S)

/-- What the function of a state does with a packet: the state that follows if there is one, the
`SSL`, and the records. -/
def exchange (o : OpenSSL S) (fuel : Nat) (n : StateID) (s : S) (pkt : Mbuf) :
    Option (Option StateID × S × List (List UInt8)) :=
  (o.receive s pkt).bind fun s => (turn o n s).bind fun t =>
    (drain o (fuel + 1) (fun _ => udpMaxLen pkt) t.2).map fun d => (t.1, d.2, d.1)

/-- **What a packet does to an association**, and the records that are sent back. -/
def Association.receive (o : OpenSSL S) (fuel : Nat) (a : Association S) (pkt : Mbuf) :
    Option (Association S × List (List UInt8)) :=
  let (n, s) := a.getD (States.HANDSHAKE, o.SSL_new)
  (exchange o fuel n s pkt).map fun e =>
    (if e.1.getD n = States.DELETED then none else some (e.1.getD n, e.2.1), e.2.2)

/-- The 5-tuple of what a server sends. -/
def dtlsServer.sends (server : dtlsServer S) : ConnectionID where
  dstIP := Bytes.htonl server.remoteIP
  srcIP := Bytes.htonl server.localIP
  dstPort := Bytes.htons server.remotePort
  srcPort := Bytes.htons server.localPort
  proto := IPv4_5TupleL2Ident.IPPROTO_UDP

/-- The 5-tuple of the answers to a 5-tuple. -/
def back (id : ConnectionID) : ConnectionID :=
  { id.reverse with proto := IPv4_5TupleL2Ident.IPPROTO_UDP }

/-- A frame with the datagram for a 5-tuple, back to where its packets come from. -/
structure Carries (d : ConnectionID × List UInt8) (p : Mbuf) : Prop where
  identify : IPv4_5TupleL2Ident.identify p.data = some (back d.1)
  framed : ∃ e, Framed e d.2 p

/-- The `SSL` is left alone. -/
theorem address_ssl (server : dtlsServer S) (p : Mbuf) : (address server p).ssl = server.ssl := by
  cases server
  rfl

theorem sends_address {p : Mbuf} {id : ConnectionID} (server : dtlsServer S)
    (h : IPv4_5TupleL2Ident.identify p.data = some id) : (address server p).sends = back id := by
  rw [IPv4_5TupleL2Ident.identify_eq] at h
  split at h
  · rw [← Option.some.inj h]
    rfl
  · simp at h

/-- A frame of a server has its 5-tuple. -/
theorem identify_framed {server : dtlsServer S} {bytes : List UInt8} {p : Mbuf}
    (h : Framed server.endpoint bytes p) :
    IPv4_5TupleL2Ident.identify p.data = some server.sends := by
  have hihl : IPv4.ihl p.data 14 = 5 := h.ihl
  have hproto : IPv4.proto p.data 14 = IPv4_5TupleL2Ident.IPPROTO_UDP := h.proto
  have hpayload : IPv4.getPayload p.data 14 = 34 := by
    rw [IPv4.getPayload, hihl]
    rfl
  rw [IPv4_5TupleL2Ident.identify_eq, if_pos (Or.inl hproto), hpayload, hproto]
  have hdstIP : IPv4.getDstIP p.data 14 = server.remoteIP := h.dstIP
  have hsrcIP : IPv4.getSrcIP p.data 14 = server.localIP := h.srcIP
  rw [hdstIP, hsrcIP, h.dstPort, h.srcPort]
  rfl

/-- What the table and the pool hold for an association. -/
def Holds (id : ConnectionID) : Association S → Conn (Ptr (dtlsServer S)) → Prop
  | none, c => c = (none, none)
  | some (n, s), c => ∃ server tid,
    c = (some ⟨.to server, n, tid⟩, none) ∧ server.ssl = s ∧ server.sends = back id

/-- A packet is answered with the datagrams. -/
structure Sent (ds : List (ConnectionID × List UInt8)) (out : Out Mbuf) : Prop where
  free : out.free = ds.isEmpty
  first : ∀ d, ds.head? = some d → Carries d out.pkt
  extra : List.Forall₂ Carries ds.tail out.extra

section association

variable {fuel : Nat} {id : ConnectionID} {A : Association S} {c : Conn (Ptr (dtlsServer S))}
  {p : Mbuf} {fresh : Nat → Mbuf}

variable (o supply fuel) in
omit [DecidableEq P] in
/-- The object a packet is served with. -/
theorem Holds.find (h : Holds id A c) : ∃ st server,
    (machine o fuel supply).plain.find id c = some (st, none) ∧ st.stateData = .to server ∧
      A.getD (States.HANDSHAKE, o.SSL_new) = (st.state, server.ssl) ∧
      (st.state = States.HANDSHAKE ∨ server.sends = back id) := by
  cases A with
  | none =>
      obtain rfl : c = (none, none) := h
      exact ⟨State.new States.HANDSHAKE (.to (opened o)), opened o, rfl, rfl, rfl, Or.inl rfl⟩
  | some a =>
      obtain ⟨server, tid, rfl, hssl, hsends⟩ := h
      exact ⟨_, server, rfl, rfl, Prod.ext rfl hssl.symm, Or.inr hsends⟩

variable (o fuel fresh) in
/-- A reply is an exchange, and its records in packets. -/
theorem reply_eq {st : State (Ptr (dtlsServer S))} {server d : dtlsServer S}
    (h : st.stateData = .to server)
    (hd : (if st.state = States.HANDSHAKE then address server p else server) = d) :
    reply o fuel st p fresh = (exchange o fuel st.state d.ssl p).map fun e =>
      { stateData := .to { d with ssl := e.2.1 }
        newState := e.1
        pkt := (side.fillAll d p fresh e.2.2).1
        extra := (side.fillAll d p fresh e.2.2).2
        free := e.2.2.isEmpty } := by
  have hlens : side.lens (S := S) (C := dtlsServer S) p fresh = fun _ => udpMaxLen p := by
    funext i
    cases i with
    | zero => rfl
    | succ i => rfl
  have hfill : ∀ (s : S) (rs : List (List UInt8)),
      side.fillAll { d with ssl := s } p fresh rs = side.fillAll d p fresh rs := by
    intro s rs
    cases rs with
    | nil => rfl
    | cons x rs => rfl
  unfold reply exchange
  rw [h]
  dsimp only
  cases hrec : o.receive d.ssl p with
  | none => rw [prepare_eq_none hd hrec]; rfl
  | some s =>
      rw [prepare_eq_map hd hrec]
      cases hturn : turn o st.state s with
      | none => simp [hturn]
      | some t =>
          rw [Option.map_some, Option.bind_some, Option.bind_some, hturn, Option.bind_some,
            Option.map_map]
          unfold Side.flush
          rw [hlens]
          simp only [hfill]
          rfl

/-- The packets of a server with records. -/
theorem sent_fillAll (ho : o.ReadsAtMost) {server : dtlsServer S} {s s' : S}
    {rs : List (List UInt8)} (hsends : server.sends = back id)
    (h : drain o (fuel + 1) (fun _ => udpMaxLen p) s = some (rs, s')) :
    Sent (rs.map fun x => (id, x)) ⟨(side.fillAll server p fresh rs).1, rs.isEmpty,
      (side.fillAll server p fresh rs).2⟩ := by
  have hshort : ∀ x ∈ rs, 42 + x.length < 2 ^ 16 := by
    intro x hx
    have hle : (x.length : Int) ≤ udpMaxLen p :=
      (length_le_of_drain ho (fun _ => Int.le_refl _) h hx).2
    have hmin : (min p.bufLen 1500).toNat ≤ 1500 := by
      show (if p.bufLen ≤ 1500 then p.bufLen else 1500).toNat ≤ 1500
      split
      · assumption
      · exact Nat.le_refl 1500
    unfold udpMaxLen at hle
    omega
  cases rs with
  | nil => exact ⟨rfl, by simp, .nil⟩
  | cons x rs =>
      refine ⟨rfl, ?_, ?_⟩
      · intro y hy
        obtain rfl := Option.some.inj hy
        have hframed := framed_fill server p (hshort x List.mem_cons_self)
        exact ⟨(identify_framed hframed).trans (congrArg some hsends), _, hframed⟩
      · refine List.forall₂_map_left_iff.mpr
          (List.forall₂_iff_get.mpr ⟨List.length_mapIdx.symm, fun i hi hi' => ?_⟩)
        have hframed := framed_fillXtra server (fresh i)
          (hshort (rs.get ⟨i, hi⟩) (List.mem_cons_of_mem _ (List.get_mem _ _)))
        have hget : (side.fillAll server p fresh (x :: rs)).2.get ⟨i, hi'⟩
            = fillXtra server (rs.get ⟨i, hi⟩) (fresh i) := by
          simp [Side.fillAll, side]
        rw [hget]
        exact ⟨(identify_framed hframed).trans (congrArg some hsends), _, hframed⟩

omit [DecidableEq P] in
theorem answer_eq {st : State (Ptr (dtlsServer S))} : (machine o fuel supply).answer fresh none st p
    = (reply o fuel st.woken p fresh).map fun r =>
      ((if (Setup.after st r).state = States.DELETED then none else some (Setup.after st r), none),
        ⟨r.pkt, r.free, r.extra⟩) := rfl

variable (supply fuel fresh) in
omit [DecidableEq P] in
/-- **One packet.** -/
theorem step_eq (ho : o.ReadsAtMost) (hid : IPv4_5TupleL2Ident.identify p.data = some id)
    (h : Holds id A c) :
    match A.receive o fuel p with
    | none => (machine o fuel supply).step fresh c p = none
    | some (A', rs) => ∃ c' out, (machine o fuel supply).step fresh c p = some (c', out) ∧
      Holds id A' c' ∧ Sent (rs.map fun x => (id, x)) out := by
  obtain ⟨st, server, hfind, hobject, hget, hsends⟩ := h.find o supply fuel
  obtain ⟨d, haddress, hd, hdsends⟩ : ∃ d : dtlsServer S,
      (if st.state = States.HANDSHAKE then address server p else server) = d ∧
        d.ssl = server.ssl ∧ d.sends = back id := by
    by_cases hstate : st.state = States.HANDSHAKE
    · exact ⟨address server p, if_pos hstate, address_ssl server p, sends_address server hid⟩
    · exact ⟨server, if_neg hstate, rfl, hsends.resolve_left hstate⟩
  have hstep : (machine o fuel supply).step fresh c p
      = (machine o fuel supply).answer fresh none st p := by
    unfold Local.step
    rw [show (machine o fuel supply).ident p = some id from hid]
    dsimp only
    rw [hfind]
  have hwoken : st.woken.stateData = .to server := hobject
  have hreply := reply_eq o fuel fresh hwoken haddress
  rw [hd] at hreply
  rw [hstep, answer_eq, hreply]
  unfold Association.receive
  rw [hget]
  dsimp only [State.woken]
  cases hex : exchange o fuel st.state server.ssl p with
  | none => rfl
  | some e =>
      rw [Option.map_some, Option.map_some, Option.map_some]
      refine ⟨_, _, rfl, ?_, ?_⟩
      · obtain ⟨n', s', rs⟩ := e
        by_cases hend : n'.getD st.state = States.DELETED
        · rw [if_pos hend]
          exact Prod.ext (if_pos hend) rfl
        · rw [if_neg hend]
          exact ⟨{ d with ssl := s' }, timeoutIDInvalid, Prod.ext (if_neg hend) rfl, rfl, hdsends⟩
      · obtain ⟨s₁, -, ht⟩ := Option.bind_eq_some_iff.mp hex
        obtain ⟨t, -, hdr⟩ := Option.bind_eq_some_iff.mp ht
        obtain ⟨⟨rs, s₂⟩, hdrain, rfl⟩ := Option.map_eq_some_iff.mp hdr
        exact sent_fillAll ho hdsends hdrain

end association

/-! ### A batch -/

/-- Packets one after another: the datagrams for each of them. -/
def receiveAll (o : OpenSSL S) (fuel : Nat) : (ConnectionID → Association S) → List Mbuf →
    Option ((ConnectionID → Association S) × List (List (ConnectionID × List UInt8)))
  | f, [] => some (f, [])
  | f, p :: ps =>
    match IPv4_5TupleL2Ident.identify p.data with
    | none => (receiveAll o fuel f ps).map fun r => (r.1, [] :: r.2)
    | some id =>
      ((f id).receive o fuel p).bind fun a =>
        (receiveAll o fuel (Function.update f id a.1) ps).map fun r =>
          (r.1, (a.2.map fun x => (id, x)) :: r.2)

/-- The machine holds these associations. -/
def Shows (f : ConnectionID → Association S) (σ : Option ConnectionID → Conn (Ptr (dtlsServer S))) :
    Prop :=
  ∀ id, Holds id (f id) (σ (some id))

theorem Shows.update {f : ConnectionID → Association S} {A : Association S}
    {σ : Option ConnectionID → Conn (Ptr (dtlsServer S))} {c : Conn (Ptr (dtlsServer S))}
    {id : ConnectionID} (h : Shows f σ) (hid : Holds id A c) :
    Shows (Function.update f id A) (Function.update σ (some id) c) := by
  intro j
  by_cases hj : j = id
  · subst hj
    rw [Function.update_self, Function.update_self]
    exact hid
  · have hj' : some j ≠ some id := fun hc => hj (Option.some.inj hc)
    rw [Function.update_of_ne hj, Function.update_of_ne hj']
    exact h j

section batch

variable {fuel : Nat} {mem : P → Mbuf}

variable (supply fuel mem) in
omit [DecidableEq P] in
/-- **Packets one after another.** -/
theorem run_eq (ho : o.ReadsAtMost) (l : List P) (given : Nat) {f : ConnectionID → Association S}
    {σ : Option ConnectionID → Conn (Ptr (dtlsServer S))} (h : Shows f σ) :
    match receiveAll o fuel f (l.map mem) with
    | none => (machine o fuel supply).run mem l given σ = none
    | some (f', as) => ∃ σ' res, (machine o fuel supply).run mem l given σ = some (σ', res) ∧
      Shows f' σ' ∧ res.map Prod.fst = l ∧ List.Forall₂ (fun a r => Sent a r.2) as res := by
  induction l generalizing given f σ with
  | nil => exact ⟨σ, [], rfl, h, rfl, .nil⟩
  | cons p l ih =>
      rw [List.map_cons, receiveAll]
      have hident : (machine o fuel supply).ident (mem p)
          = IPv4_5TupleL2Ident.identify (mem p).data := rfl
      cases hid : IPv4_5TupleL2Ident.identify (mem p).data with
      | none =>
          rw [hid] at hident
          have hstep : (machine o fuel supply).step (Heap.next supply ⟨mem, given⟩) (σ none) (mem p)
              = some (σ none, ⟨mem p, true, []⟩) := by
            unfold Local.step
            rw [hident]
          have hrun := ih given h
          have hcons : (machine o fuel supply).run mem (p :: l) given σ
              = ((machine o fuel supply).run mem l given σ).map
                fun r => (r.1, (p, ⟨mem p, true, []⟩) :: r.2) := by
            have hsupply : (machine o fuel supply).supply = supply := rfl
            rw [Local.run_cons, hident, hsupply, hstep, Option.bind_some, Function.update_eq_self]
            rfl
          dsimp only
          rw [hcons]
          cases hall : receiveAll o fuel f (l.map mem) with
          | none =>
              rw [hall] at hrun
              rw [hrun]
              rfl
          | some r =>
              rw [hall] at hrun
              obtain ⟨σ', res, hres, hshows, hfst, hsent⟩ := hrun
              refine ⟨σ', (p, ⟨mem p, true, []⟩) :: res, ?_, hshows, ?_, .cons ?_ hsent⟩
              · rw [hres]
                rfl
              · rw [List.map_cons, hfst]
              · exact ⟨rfl, by simp, .nil⟩
      | some id =>
          rw [hid] at hident
          have hone := step_eq supply fuel (Heap.next supply ⟨mem, given⟩) ho hid (h id)
          have hsupply : (machine o fuel supply).supply = supply := rfl
          rw [Local.run_cons, hident, hsupply]
          dsimp only
          cases hrec : (f id).receive o fuel (mem p) with
          | none =>
              rw [hrec] at hone
              rw [hone]
              rfl
          | some a =>
              obtain ⟨A', rs⟩ := a
              rw [hrec] at hone
              obtain ⟨c', out, hstep, hholds, hsent⟩ := hone
              have hrun := ih (given + out.extra.length) (h.update hholds)
              rw [hstep, Option.bind_some, Option.bind_some]
              dsimp only
              cases hall : receiveAll o fuel (Function.update f id A') (l.map mem) with
              | none =>
                  rw [hall] at hrun
                  rw [hrun]
                  rfl
              | some r =>
                  rw [hall] at hrun
                  obtain ⟨σ', res, hres, hshows, hfst, hrest⟩ := hrun
                  refine ⟨σ', (p, out) :: res, ?_, hshows, ?_, .cons hsent hrest⟩
                  · rw [hres]
                    rfl
                  · rw [List.map_cons, hfst]

/-- The datagrams in the order they are sent: the first one for each packet, and then the others. -/
def inOrder (as : List (List (ConnectionID × List UInt8))) : List (ConnectionID × List UInt8) :=
  as.filterMap List.head? ++ as.flatMap List.tail

/-- The packets that are sent: those that are answered, and then those that were asked for. -/
def sentPkts (x : Rx supply Mbuf) (as : List (List (ConnectionID × List UInt8))) : List P :=
  ((x.pkts.zip as).filter fun r => !r.2.isEmpty).map Prod.fst
    ++ (List.range' x.w.given (as.flatMap List.tail).length).map supply

/-- **The caller gets** a frame for each datagram to send, and the other packets to free. -/
structure Answered (x : Rx supply Mbuf) (as : List (List (ConnectionID × List UInt8)))
    (t : Sys K P (Ptr (dtlsServer S)) (Heap P Mbuf)) : Prop where
  send : t.pktsBA.getSendBufs = some (sentPkts x as)
  frames : List.Forall₂ Carries (inOrder as) ((sentPkts x as).map t.w.mem)
  free : t.pktsBA.getFreeBufs = some (((x.pkts.zip as).filter fun r => r.2.isEmpty).map Prod.fst)

omit [DecidableEq P] in
/-- What is answered, packet by packet. -/
theorem answers_eq {as : List (List (ConnectionID × List UInt8))} {res : List (P × Out Mbuf)}
    (h : List.Forall₂ (fun a r => Sent a r.2) as res) :
    (∀ b, (res.filter fun r => r.2.free == b).map Prod.fst
      = (((res.map Prod.fst).zip as).filter fun r => r.2.isEmpty == b).map Prod.fst) ∧
    List.Forall₂ Carries (as.filterMap List.head?)
      ((res.filter fun r => !r.2.free).map fun r => r.2.pkt) ∧
    List.Forall₂ Carries (as.flatMap List.tail) (extras res) := by
  induction h with
  | nil => exact ⟨fun _ => rfl, .nil, .nil⟩
  | cons hr hrest ih =>
      rename_i a r as res
      obtain ⟨hmarked, hfirst, hextra⟩ := ih
      refine ⟨fun b => ?_, ?_, ?_⟩
      · rw [List.map_cons, List.zip_cons_cons, List.filter_cons, List.filter_cons, hr.free]
        split
        · rw [List.map_cons, List.map_cons, hmarked]
        · exact hmarked b
      · rw [List.filterMap_cons, List.filter_cons, hr.free]
        cases a with
        | nil => exact hfirst
        | cons d ds => exact .cons (hr.first d rfl) hfirst
      · rw [List.flatMap_cons]
        exact List.rel_append hr.extra hextra

variable {env : Env ConnectionID P (Heap P Mbuf)} {f : ConnectionID → Association S}
  {s : Sys ConnectionID P (Ptr (dtlsServer S)) (Heap P Mbuf)}

/-- **What a batch did.** -/
theorem rx_eq_ok (ho : o.ReadsAtMost)
    (hident : ∀ q w, env.identify q w = IPv4_5TupleL2Ident.identify (w.mem q).data)
    (h : (machine o fuel supply).Runs s.sm) (hs : Shows f s.conns) (n : Nat) (x : Rx supply Mbuf)
    {t : Sys ConnectionID P (Ptr (dtlsServer S)) (Heap P Mbuf)}
    (ht : runPktBatch env (n + 1) (s.rx x) = .ok t) :
    (machine o fuel supply).Runs t.sm ∧ ∃ f' as,
      receiveAll o fuel f x.frames = some (f', as) ∧ Shows f' t.conns ∧
        Answered x as t := by
  obtain ⟨hruns, res, hrun, hfst, hresult⟩ := h.rx_eq_ok hident n x ht
  have htold : Told supply x.w.given res t := hresult
  have hall := run_eq supply fuel x.w.mem ho x.pkts x.w.given hs
  rw [show x.pkts.map x.w.mem = x.frames from rfl] at hall
  cases hr : receiveAll o fuel f x.frames with
  | none =>
      rw [hr] at hall
      rw [hall] at hrun
      simp at hrun
  | some r =>
      obtain ⟨f', as⟩ := r
      rw [hr] at hall
      obtain ⟨σ', res', hrun', hshows, -, hsent⟩ := hall
      obtain ⟨rfl, rfl⟩ := Prod.mk.inj (Option.some.inj (hrun'.symm.trans hrun))
      obtain ⟨hmarked, hfirst, hextra⟩ := answers_eq hsent
      rw [hfst] at hmarked
      have hsend : ((res'.filter fun r => !r.2.free).map Prod.fst)
          = ((x.pkts.zip as).filter fun r => !r.2.isEmpty).map Prod.fst := by
        simpa only [beq_false] using hmarked false
      have hfree : ((res'.filter fun r => r.2.free).map Prod.fst)
          = ((x.pkts.zip as).filter fun r => r.2.isEmpty).map Prod.fst := by
        simpa only [beq_true] using hmarked true
      have hpkts : (res'.filter fun r => !r.2.free).map Prod.fst
          ++ (List.range' x.w.given (extras res').length).map supply = sentPkts x as := by
        rw [hsend, ← hextra.length_eq]
        rfl
      refine ⟨hruns, f', as, rfl, hshows, ?_, ?_, ?_⟩
      · rw [← hpkts]
        exact htold.send
      · rw [← hpkts, htold.bytes]
        exact List.rel_append hfirst hextra
      · rw [← hfree]
        exact htold.free

/-- **When a batch does not stop the program.** -/
theorem rx_of_room (ho : o.ReadsAtMost)
    (hident : ∀ q w, env.identify q w = IPv4_5TupleL2Ident.identify (w.mem q).data)
    (h : (machine o fuel supply).Runs s.sm) (hs : Shows f s.conns) (n : Nat) (x : Rx supply Mbuf)
    {f' : ConnectionID → Association S} {as : List (List (ConnectionID × List UInt8))}
    (hall : receiveAll o fuel f x.frames = some (f', as))
    (hroom : x.pkts.length + (as.flatMap List.tail).length < 2 ^ 31) :
    ∃ t, runPktBatch env (n + 1) (s.rx x) = .ok t := by
  have hrun := run_eq supply fuel x.w.mem ho x.pkts x.w.given hs
  rw [show x.pkts.map x.w.mem = x.frames from rfl, hall] at hrun
  obtain ⟨σ', res, hres, -, -, hsent⟩ := hrun
  have hextra := (answers_eq hsent).2.2.length_eq
  exact h.rx_of_room hident n x hres (by rw [← hextra]; exact hroom)

/-! ### Batch after batch -/

/-- The batches of a run: the datagrams for each packet of each of them. -/
def receiveBatches (o : OpenSSL S) (fuel : Nat) : (ConnectionID → Association S) →
    List (List Mbuf) →
    Option ((ConnectionID → Association S) × List (List (List (ConnectionID × List UInt8))))
  | f, [] => some (f, [])
  | f, b :: bs =>
    (receiveAll o fuel f b).bind fun r =>
      (receiveBatches o fuel r.1 bs).map fun r' => (r'.1, r.2 :: r'.2)

/-- A batch, and what the caller reads from afterwards. -/
def batch {supply : Nat → P} (env : Env ConnectionID P (Heap P Mbuf)) (n : Nat)
    (s : Sys ConnectionID P (Ptr (dtlsServer S)) (Heap P Mbuf)) (x : Rx supply Mbuf) :
    Except Fault (Sys ConnectionID P (Ptr (dtlsServer S)) (Heap P Mbuf) ×
      Sys ConnectionID P (Ptr (dtlsServer S)) (Heap P Mbuf)) :=
  (runPktBatch env (n + 1) (s.rx x)).map fun t => (t, t)

/-- The packets of one association, one after another. -/
def Association.receives (o : OpenSSL S) (fuel : Nat) : Association S → List Mbuf →
    Option (Association S × List (List (List UInt8)))
  | A, [] => some (A, [])
  | A, p :: ps =>
    (A.receive o fuel p).bind fun a =>
      (receives o fuel a.1 ps).map fun r => (r.1, a.2 :: r.2)

/-- The packets with a 5-tuple. -/
def own (id : ConnectionID) (p : Mbuf) : Bool := IPv4_5TupleL2Ident.identify p.data = some id

omit [DecidableEq P] in
theorem receiveAll_append (f : ConnectionID → Association S) (ps qs : List Mbuf) :
    receiveAll o fuel f (ps ++ qs) = (receiveAll o fuel f ps).bind fun r =>
      (receiveAll o fuel r.1 qs).map fun r' => (r'.1, r.2 ++ r'.2) := by
  induction ps generalizing f with
  | nil => simp [receiveAll]
  | cons p ps ih =>
      rw [List.cons_append, receiveAll, receiveAll]
      cases IPv4_5TupleL2Ident.identify p.data with
      | none =>
          dsimp only
          rw [ih]
          cases receiveAll o fuel f ps with
          | none => rfl
          | some r => simp [Function.comp_def]
      | some id =>
          dsimp only
          cases (f id).receive o fuel p with
          | none => rfl
          | some a =>
              rw [Option.bind_some, Option.bind_some, ih]
              cases receiveAll o fuel (Function.update f id a.1) ps with
              | none => rfl
              | some r => simp [Function.comp_def]

omit [DecidableEq P] in
/-- How the packets are batched does not count. -/
theorem receiveAll_flatten {f f' : ConnectionID → Association S} {bs : List (List Mbuf)}
    {ass : List (List (List (ConnectionID × List UInt8)))}
    (h : receiveBatches o fuel f bs = some (f', ass)) :
    receiveAll o fuel f bs.flatten = some (f', ass.flatten) := by
  induction bs generalizing f ass with
  | nil =>
      obtain ⟨rfl, rfl⟩ := Prod.mk.inj (Option.some.inj h)
      rfl
  | cons b bs ih =>
      obtain ⟨⟨f₁, as⟩, hb, hrest⟩ := Option.bind_eq_some_iff.mp h
      obtain ⟨⟨f₂, ass'⟩, hbs, heq⟩ := Option.map_eq_some_iff.mp hrest
      obtain ⟨rfl, rfl⟩ := Prod.mk.inj heq
      rw [List.flatten_cons, receiveAll_append, hb, Option.bind_some, ih hbs]
      rfl

omit [DecidableEq P] in
/-- An association depends on its own packets alone. -/
theorem receives_own {f f' : ConnectionID → Association S} {ps : List Mbuf}
    {as : List (List (ConnectionID × List UInt8))} (h : receiveAll o fuel f ps = some (f', as))
    (id : ConnectionID) : (f id).receives o fuel (ps.filter (own id))
      = some (f' id, ((ps.zip as).filter fun r => own id r.1).map fun r => r.2.map Prod.snd) := by
  induction ps generalizing f as with
  | nil =>
      obtain ⟨rfl, rfl⟩ := Prod.mk.inj (Option.some.inj h)
      rfl
  | cons p ps ih =>
      rw [receiveAll] at h
      cases hid : IPv4_5TupleL2Ident.identify p.data with
      | none =>
          rw [hid] at h
          obtain ⟨⟨f₁, as'⟩, hrest, heq⟩ := Option.map_eq_some_iff.mp h
          obtain ⟨rfl, rfl⟩ := Prod.mk.inj heq
          have hown : ¬ own id p = true := by simp [own, hid]
          rw [List.filter_cons_of_neg hown, ih hrest, List.zip_cons_cons,
            List.filter_cons_of_neg (by exact hown)]
      | some j =>
          rw [hid] at h
          obtain ⟨a, hrec, hmap⟩ := Option.bind_eq_some_iff.mp h
          obtain ⟨⟨f₁, as'⟩, hrest, heq⟩ := Option.map_eq_some_iff.mp hmap
          obtain ⟨rfl, rfl⟩ := Prod.mk.inj heq
          have hih := ih hrest
          by_cases hj : j = id
          · subst hj
            have hown : own j p = true := by simp [own, hid]
            rw [Function.update_self] at hih
            have hrecords : (a.2.map fun x => (j, x)).map Prod.snd = a.2 := by
              rw [List.map_map]
              exact List.map_id _
            rw [List.filter_cons_of_pos hown, Association.receives, hrec, Option.bind_some, hih,
              List.zip_cons_cons, List.filter_cons_of_pos (by exact hown), List.map_cons, hrecords]
            rfl
          · have hown : ¬ own id p = true := by simp [own, hid, hj]
            rw [Function.update_of_ne (Ne.symm hj)] at hih
            rw [List.filter_cons_of_neg hown, hih, List.zip_cons_cons,
              List.filter_cons_of_neg (by exact hown)]

/-- The machine goes on as the associations do, from any associations it holds. -/
theorem feed_eq_ok (ho : o.ReadsAtMost)
    (hident : ∀ q w, env.identify q w = IPv4_5TupleL2Ident.identify (w.mem q).data) (n : Nat)
    (xs : List (Rx supply Mbuf)) (h : (machine o fuel supply).Runs s.sm) (hs : Shows f s.conns)
    {t : Sys ConnectionID P (Ptr (dtlsServer S)) (Heap P Mbuf)}
    {ts : List (Sys ConnectionID P (Ptr (dtlsServer S)) (Heap P Mbuf))}
    (ht : feed (batch env n) s xs = .ok (t, ts)) : ∃ f' ass,
      receiveBatches o fuel f (xs.map Rx.frames) = some (f', ass) ∧
        Shows f' t.conns ∧ List.Forall₂ (fun x r => Answered x r.1 r.2) xs (ass.zip ts) := by
  induction xs generalizing s f ts with
  | nil =>
      obtain ⟨rfl, rfl⟩ := Prod.mk.inj (Except.ok.inj ht)
      exact ⟨f, [], rfl, hs, .nil⟩
  | cons x xs ih =>
      rw [feed] at ht
      cases hx : runPktBatch env (n + 1) (s.rx x) with
      | error e => simp [batch, hx, Except.map] at ht
      | ok t₁ =>
          have hbatch : batch env n s x = .ok (t₁, t₁) := by
            rw [batch, hx]
            rfl
          rw [hbatch] at ht
          dsimp only at ht
          obtain ⟨hruns, f₁, as, hall, hshows, hanswered⟩ := rx_eq_ok ho hident h hs n x hx
          cases hrest : feed (batch env n) t₁ xs with
          | error e => simp [hrest] at ht
          | ok r =>
              obtain ⟨t', ts'⟩ := r
              rw [hrest] at ht
              obtain ⟨rfl, rfl⟩ := Prod.mk.inj (Except.ok.inj ht)
              obtain ⟨f', ass, hass, hshows', hothers⟩ := ih hruns hshows hrest
              refine ⟨f', as :: ass, ?_, hshows', .cons hanswered hothers⟩
              rw [List.map_cons, receiveBatches, hall, Option.bind_some, hass]
              rfl

/-- It does go on where they do, if the arrays have room. -/
theorem feed_of_room (ho : o.ReadsAtMost)
    (hident : ∀ q w, env.identify q w = IPv4_5TupleL2Ident.identify (w.mem q).data) (n : Nat)
    (xs : List (Rx supply Mbuf)) (h : (machine o fuel supply).Runs s.sm) (hs : Shows f s.conns)
    {f' : ConnectionID → Association S} {ass : List (List (List (ConnectionID × List UInt8)))}
    (hall : receiveBatches o fuel f (xs.map Rx.frames) = some (f', ass))
    (hroom : List.Forall₂ (fun x as => x.pkts.length + (as.flatMap List.tail).length < 2 ^ 31)
      xs ass) :
    ∃ t ts, feed (batch env n) s xs = .ok (t, ts) := by
  induction xs generalizing s f ass with
  | nil => exact ⟨s, [], rfl⟩
  | cons x xs ih =>
      obtain ⟨⟨f₁, as⟩, hx, hrest⟩ := Option.bind_eq_some_iff.mp hall
      obtain ⟨⟨f₂, ass'⟩, hass, heq⟩ := Option.map_eq_some_iff.mp hrest
      obtain ⟨rfl, rfl⟩ := Prod.mk.inj heq
      obtain ⟨hfirst, hothers⟩ := List.forall₂_cons.mp hroom
      obtain ⟨t₁, ht₁⟩ := rx_of_room ho hident h hs n x hx hfirst
      obtain ⟨hruns, f₁', as', hx', hshows, -⟩ := rx_eq_ok ho hident h hs n x ht₁
      obtain ⟨rfl, rfl⟩ := Prod.mk.inj (Option.some.inj (hx.symm.trans hx'))
      obtain ⟨t, ts, hts⟩ := ih hruns hshows hass hothers
      refine ⟨t, t₁ :: ts, ?_⟩
      have hbatch : batch env n s x = .ok (t₁, t₁) := by
        rw [batch, ht₁]
        rfl
      rw [feed, hbatch]
      dsimp only
      rw [hts]

/-- **The associations of a run.**  However the packets are batched, what the server did is what the
associations do, each with its own packets: it goes on only where they all do, it keeps their
objects, every datagram is sent in a frame of its own that goes back to where its packet came from,
and the packets that are not answered are freed.  Where the associations go on and the arrays have
room, so does the server. -/
theorem run_associations (ho : o.ReadsAtMost) (hfuel : 0 < fuel)
    (hident : ∀ q w, env.identify q w = IPv4_5TupleL2Ident.identify (w.mem q).data) (n : Nat)
    (hsm : s.sm = configStateMachine o fuel (Heap.take supply) StateMachine.new)
    (hpool : s.connPool = ∅) (xs : List (Rx supply Mbuf)) :
    (∀ t ts, feed (batch env n) s xs = .ok (t, ts) → ∃ f ass,
      receiveBatches o fuel (fun _ => none) (xs.map Rx.frames) = some (f, ass) ∧
        Shows f t.conns ∧ List.Forall₂ (fun x r => Answered x r.1 r.2) xs (ass.zip ts) ∧
        ∀ id, Association.receives o fuel none ((xs.flatMap Rx.frames).filter (own id))
          = some (f id, (((xs.flatMap Rx.frames).zip ass.flatten).filter fun r => own id r.1).map
            fun r => r.2.map Prod.snd)) ∧
    ∀ f ass,
      receiveBatches o fuel (fun _ => none) (xs.map Rx.frames) = some (f, ass) →
      List.Forall₂ (fun x as => x.pkts.length + (as.flatMap List.tail).length < 2 ^ 31) xs ass →
      ∃ t ts, feed (batch env n) s xs = .ok (t, ts) := by
  have hruns : (machine o fuel supply).Runs s.sm := hsm ▸ machine_runs hfuel
  have hshows : Shows (fun _ => none : ConnectionID → Association S) s.conns := by
    intro id
    show (s.sm.stateTable.lookup id, s.connPool.lookup id) = _
    rw [hsm, hpool]
    rfl
  refine ⟨fun t ts ht => ?_,
    fun f ass hall hroom => feed_of_room ho hident n xs hruns hshows hall hroom⟩
  obtain ⟨f, ass, hall, hshows', hanswered⟩ := feed_eq_ok ho hident n xs hruns hshows ht
  refine ⟨f, ass, hall, hshows', hanswered, fun id => ?_⟩
  rw [List.flatMap_def]
  exact receives_own (receiveAll_flatten hall) id

end batch

/-! A library that answers each packet of a handshake with a record of one byte. -/

def answering : OpenSSL (List (List UInt8)) where
  SSL_new := []
  BIO_eof s := s.isEmpty
  BIO_read s len := if ((s.headD []).length : Int) ≤ len then (s.headD [], s.tail) else ([], s)
  BIO_write s _ _ len := (len, s)
  SSL_accept s := s ++ [[22]]
  SSL_connect s := s
  SSL_is_init_finished _ := false
  SSL_read s _ := ([], s)
  SSL_write s buf := (buf.length, s)
  SSL_get_shutdown _ := 0
  SSL_shutdown s := (0, s)

theorem answering_readsAtMost : answering.ReadsAtMost := by
  intro s len h
  by_cases hlen : ((s.headD []).length : Int) ≤ len
  · have hread : answering.BIO_read s len = (s.headD [], s.tail) := if_pos hlen
    rw [hread]
    exact hlen
  · have hread : answering.BIO_read s len = ([], s) := if_neg hlen
    rw [hread] at h
    exact absurd rfl h

/-- A frame with a datagram of one byte: UDP, five words of IP header, a UDP length of nine. -/
def oneByte : Mbuf where
  data := Mem.set16 (Mem.set8 (Mem.set8 (fun _ => 0) 14 0x45) 23 17) 38 9
  dataLen := 43
  bufLen := 2048

theorem isNew_seven :
    BufArray.new [7] = some ((BufArray.new [7]).get BufArray.isSome_new_seven) :=
  (Option.some_get _).symm

theorem spares_seven : ∀ p ∈ [7], Spares id p 8 := by
  intro p hp
  obtain rfl := List.mem_singleton.mp hp
  refine ⟨fun i hi hc => ?_, fun i j _ _ h => h⟩
  have hseven : i = 7 := hc
  omega

theorem nodup_seven : [7].Nodup := List.nodup_singleton 7

/-- The frame is received by itself. -/
def oneRx : Rx id Mbuf where
  pkts := [7]
  array := (BufArray.new [7]).get BufArray.isSome_new_seven
  isNew := isNew_seven
  w := { mem := fun _ => oneByte, given := 8 }
  nodup := nodup_seven
  spares := spares_seven

def oneEnv : Env ConnectionID Nat (Heap Nat Mbuf) where
  identify q w := IPv4_5TupleL2Ident.identify (w.mem q).data
  clock _ := 0
  topRule := Timeout.firstRule
  ndebug := false

/-- The server, before any packet. -/
def oneSys : Sys ConnectionID Nat (Ptr (dtlsServer (List (List UInt8)))) (Heap Nat Mbuf) where
  sm := configStateMachine answering 1 (Heap.take id) StateMachine.new
  connPool := ∅
  pktsBA := oneRx.array
  w := oneRx.w
  ticks := 0
  log := []

theorem run_associations_oneByte : ∃ i t ts f ass,
    IPv4_5TupleL2Ident.identify oneByte.data = some i ∧
      feed (batch oneEnv 0) oneSys [oneRx, oneRx] = .ok (t, ts) ∧ Shows f t.conns ∧
      ass = [[[(i, [22])]], [[(i, [22])]]] ∧
      List.Forall₂ (fun x r => Answered x r.1 r.2) [oneRx, oneRx] (ass.zip ts) := by
  have hproto : IPv4.proto oneByte.data 14 = IPv4_5TupleL2Ident.IPPROTO_UDP := by decide +kernel
  obtain ⟨i, hi⟩ : ∃ i, IPv4_5TupleL2Ident.identify oneByte.data = some i :=
    ⟨_, by rw [IPv4_5TupleL2Ident.identify_eq, if_pos (Or.inl hproto)]⟩
  have hopen : Association.receive answering 1 none oneByte
      = some (some (States.HANDSHAKE, []), [[22]]) := by decide +kernel
  have hagain : Association.receive answering 1 (some (States.HANDSHAKE, [])) oneByte
      = some (some (States.HANDSHAKE, []), [[22]]) := by decide +kernel
  have hall : ∃ f, receiveBatches answering 1 (fun _ => none) ([oneRx, oneRx].map Rx.frames)
      = some (f, [[[(i, [22])]], [[(i, [22])]]]) := by
    have hfirst : receiveAll answering 1 (fun _ => none) oneRx.frames
        = some (Function.update (fun _ => none) i (some (States.HANDSHAKE, [])),
          [[(i, [22])]]) := by
      show receiveAll answering 1 _ [oneByte] = _
      rw [receiveAll, hi]
      dsimp only
      rw [hopen]
      rfl
    have hsecond : receiveAll answering 1
        (Function.update (fun _ => none) i (some (States.HANDSHAKE, []))) oneRx.frames
        = some (Function.update (Function.update (fun _ => none) i (some (States.HANDSHAKE, []))) i
          (some (States.HANDSHAKE, [])), [[(i, [22])]]) := by
      show receiveAll answering 1 _ [oneByte] = _
      rw [receiveAll, hi]
      dsimp only
      rw [Function.update_self, hagain]
      rfl
    refine ⟨Function.update (Function.update (fun _ => none) i (some (States.HANDSHAKE, []))) i
      (some (States.HANDSHAKE, [])), ?_⟩
    rw [List.map_cons, List.map_cons, List.map_nil, receiveBatches, hfirst, Option.bind_some,
      receiveBatches, hsecond]
    rfl
  obtain ⟨f, hf⟩ := hall
  have hident : ∀ q w, oneEnv.identify q w = IPv4_5TupleL2Ident.identify (w.mem q).data :=
    fun _ _ => rfl
  have hsm : oneSys.sm = configStateMachine answering 1 (Heap.take id) StateMachine.new := rfl
  obtain ⟨honly, hgoes⟩ := run_associations answering_readsAtMost Nat.one_pos hident 0 hsm rfl
    [oneRx, oneRx]
  have hroom : oneRx.pkts.length + ([[(i, [22])]].flatMap List.tail).length < 2 ^ 31 :=
    (by decide : 1 + 0 < 2 ^ 31)
  obtain ⟨t, ts, ht⟩ := hgoes f _ hf (.cons hroom (.cons hroom .nil))
  obtain ⟨f', ass, hass, hshows, hanswered, -⟩ := honly t ts ht
  obtain ⟨rfl, rfl⟩ := Prod.mk.inj (Option.some.inj (hf.symm.trans hass))
  exact ⟨i, t, ts, f, _, hi, ht, hshows, rfl, hanswered⟩

end DTLS_Server

end MoonState
