/-
What the DTLS functions hand to OpenSSL.

Every function that receives data takes the payload of the UDP header, as long as
that header says less its own eight bytes, in 16 bits.  Nothing compares this with the
length of the frame, so a function stays inside the frame, and passes its assertion,
when the header happens to say a length between nine and what is there.
-/
import MoonState.Model.Dtls
import MoonState.Model.FiveTuple
import MoonState.Proofs.StateMachine

namespace MoonState

open Headers DTLS

namespace DTLS

variable {P S C : Type}

/-! ### What is to be handed over -/

/-- `BIO_write` takes all it is given, and says so. -/
def OpenSSL.TakesAll (o : OpenSSL S) : Prop :=
  ∀ s m data len, (o.BIO_write s m data len).1 = (len : Int)

/-- A range of the frame that is not empty. -/
def InFrame (p : Mbuf) (range : Nat × Nat) : Prop :=
  0 < range.2 ∧ range.1 + range.2 ≤ p.dataLen.toNat

/-- The object once its packet is handed over. -/
def Receiver.received (f : Receiver C P) (r : Side S C) (o : OpenSSL S) (c : C) (p : Mbuf) : C :=
  r.setSsl (f.before c p)
    (o.BIO_write (r.ssl (f.before c p)) p.data (incoming p).1 (incoming p).2).2

/-- **A function is bounded**: it hands over a range of its frame that is not empty, and goes on
behind the assertion, whatever it does then. -/
def Receiver.Bounded (f : Receiver C P) (r : Side S C) (o : OpenSSL S) (p : Mbuf) : Prop :=
  InFrame p (incoming p) ∧
    ∀ (K : Type) (env : Env K P (Heap P Mbuf)) (a : Activation K P (Ptr C) (Heap P Mbuf)) (c : C)
      (pkt : P), a.state.stateData = .to c → a.sys.w.mem pkt = p →
        exec env (f.code r o a.state pkt) a
          = exec env (f.after pkt) (a.put (.to (f.received r o c p)) a.sys.w)

/-- The UDP header says that there is data, and the frame ends behind it. -/
def Fits (p : Mbuf) : Prop :=
  let udp := IPv4.getPayload p.data sizeofEthernet
  9 ≤ (p.data.get16 (udp + 4)).toNat ∧
    udp + (p.data.get16 (udp + 4)).toNat ≤ p.dataLen.toNat

/-! ### One function -/

/-- The length loses eight in 16 bits: what a header of less than eight bytes leaves is longer
than any frame. -/
theorem inFrame_incoming_iff (p : Mbuf) : InFrame p (incoming p) ↔ Fits p := by
  have hlen : (Udp.getPayloadLength p.data (IPv4.getPayload p.data sizeofEthernet)).toNat
      = ((p.data.get16 (IPv4.getPayload p.data sizeofEthernet + 4)).toNat + 65528) % 65536 := by
    rw [Udp.getPayloadLength, UInt16.toNat_sub]
    show (65536 - 8 + _) % 65536 = _
    omega
  have hudp := (p.data.get16 (IPv4.getPayload p.data sizeofEthernet + 4)).toNat_lt
  have hframe := p.dataLen.toNat_lt
  simp only [InFrame, Fits, incoming, hlen, Udp.getPayload, sizeofUdp]
  omega

/-- A function stops at the assertion, or goes on behind it. -/
theorem Receiver.exec_code {K : Type} {env : Env K P (Heap P Mbuf)}
    {a : Activation K P (Ptr C) (Heap P Mbuf)} {c : C} (f : Receiver C P) (r : Side S C) (o : OpenSSL S) (pkt : P)
    (h : a.state.stateData = .to c) :
    exec env (f.code r o a.state pkt) a =
      if 0 < (o.BIO_write (r.ssl (f.before c (a.sys.w.mem pkt))) (a.sys.w.mem pkt).data
          (incoming (a.sys.w.mem pkt)).1 (incoming (a.sys.w.mem pkt)).2).1 then
        exec env (f.after pkt) (a.put (.to (f.received r o c (a.sys.w.mem pkt))) a.sys.w)
      else .error .exception := by
  simp only [code, object, exec, h, gt_iff_lt]
  split <;> rfl

/-- A function keeps to its frame when the header fits, and only then. -/
theorem Receiver.bounded_iff {o : OpenSSL S} (ho : o.TakesAll) (f : Receiver C P) (r : Side S C)
    (p : Mbuf) : f.Bounded r o p ↔ Fits p := by
  rw [← inFrame_incoming_iff]
  constructor
  · intro h
    exact h.1
  · intro h
    refine ⟨h, fun K env a c pkt hc hp => ?_⟩
    subst hp
    rw [f.exec_code r o pkt hc, ho, if_pos (by exact_mod_cast h.1)]

end DTLS

/-! ### The functions of the states -/

/-- A function for the next ID goes behind the others. -/
theorem StateMachine.functions_registerFunction {K P D W : Type} {sm : StateMachine K P D W}
    {l : List (Option (StateFun P D W))} (id : StateID) (f : StateFun P D W)
    (hl : sm.functions = l) (hid : l.length = id.toNat) :
    (sm.registerFunction id f).functions = l ++ [some f] := by
  have hlt : (l.length : Int) - 1 < (l.length : Int) := by omega
  have hone : l.length + 1 - l.length = 1 := by omega
  simp [registerFunction, hl, ← hid, hlt, hone]

section states

variable {K P S : Type} [DecidableEq P] {o : OpenSSL S} {fuel : Nat}
  {cb : Heap P Mbuf → P × Heap P Mbuf} {n : StateID}

theorem DTLS_Server.functions_configStateMachine :
    (configStateMachine o fuel cb (StateMachine.new (K := K))).functions
      = none :: (receivers o fuel).map fun f => some (f.code side o) := by
  have hhandshake : ((StateMachine.new (K := K)).registerFunction States.HANDSHAKE
      ((runHandshake o fuel).code side o)).functions
      = [none, some ((runHandshake (P := P) o fuel).code side o)] := rfl
  have hestablished := StateMachine.functions_registerFunction States.ESTABLISHED
    ((sendData o fuel).code side o) hhandshake rfl
  have hteardown := StateMachine.functions_registerFunction States.RUN_TEARDOWN
    ((runTeardown o fuel).code side o) hestablished rfl
  dsimp only [configStateMachine, StateMachine.registerEndStateID, StateMachine.registerGetPktCB,
    StateMachine.registerStartStateID]
  rw [hteardown, receivers]
  rfl

theorem DTLS_Server.mem_configStateMachine {g : StateFun P (Ptr (dtlsServer S)) (Heap P Mbuf)}
    (h : some g ∈ (configStateMachine o fuel cb (StateMachine.new (K := K))).functions) :
    ∃ f ∈ receivers o fuel, g = f.code side o := by
  rw [functions_configStateMachine] at h
  simp only [List.mem_cons, reduceCtorEq, false_or, List.mem_map, Option.some.injEq] at h
  obtain ⟨f, hf, rfl⟩ := h
  exact ⟨f, hf, rfl⟩

/-- The functions of the server all receive data. -/
theorem DTLS_Server.dispatch_configStateMachine {g : StateFun P (Ptr (dtlsServer S)) (Heap P Mbuf)}
    (h : (configStateMachine o fuel cb (StateMachine.new (K := K))).dispatch n = .ok g) :
    ∃ f ∈ receivers o fuel, g = f.code side o :=
  mem_configStateMachine (StateMachine.mem_of_dispatch h)

/-- Those of the client do, but for the first one. -/
theorem DTLS_Client.dispatch_configStateMachine {g : StateFun P (Ptr (dtlsClient S)) (Heap P Mbuf)}
    (h : (configStateMachine o fuel cb (StateMachine.new (K := K))).dispatch n = .ok g) :
    n = States.DOWN ∧ g = initHandshake o fuel ∨ ∃ f ∈ receivers o fuel, g = f.code side o := by
  have hfunctions : (configStateMachine o fuel cb (StateMachine.new (K := K))).functions
      = some (initHandshake o fuel)
        :: (receivers o fuel).map fun f => some (f.code side o) := by
    have hnew : (StateMachine.new (K := K) (P := P) (D := Ptr (dtlsClient S))
        (W := Heap P Mbuf)).functions = [] := rfl
    have hdown := StateMachine.functions_registerFunction States.DOWN (initHandshake o fuel) hnew rfl
    have hhandshake := StateMachine.functions_registerFunction States.HANDSHAKE
      ((runHandshake o fuel).code side o) hdown rfl
    have hestablished := StateMachine.functions_registerFunction States.ESTABLISHED
      ((sendData o fuel).code side o) hhandshake rfl
    have hteardown := StateMachine.functions_registerFunction States.RUN_TEARDOWN
      ((runTeardown o fuel).code side o) hestablished rfl
    dsimp only [configStateMachine, StateMachine.registerEndStateID, StateMachine.registerGetPktCB]
    rw [hteardown, receivers]
    rfl
  have hget := StateMachine.dispatch_eq_ok h
  rw [hfunctions] at hget
  cases hn : n.toNat with
  | zero =>
      rw [hn] at hget
      exact Or.inl ⟨UInt16.toNat_inj.mp hn, (Option.some.inj (Option.some.inj hget)).symm⟩
  | succ i =>
      rw [hn, List.getElem?_cons_succ] at hget
      obtain ⟨f, hf, hg⟩ := List.mem_map.mp (List.mem_of_getElem? hget)
      exact Or.inr ⟨f, hf, (Option.some.inj hg).symm⟩

/--
**When a DTLS function keeps to its frame.**

In every state of both sides, but for the first one of the client, which receives nothing: for
the frames whose UDP header says nine bytes at least, and no more than are there.
-/
theorem DTLS.bounded_iff_fits (ho : o.TakesAll) (p : Mbuf) (n : StateID) :
    (∀ g, (DTLS_Server.configStateMachine o fuel cb (StateMachine.new (K := K))).dispatch n = .ok g →
        ∃ f ∈ DTLS_Server.receivers o fuel, g = f.code DTLS_Server.side o ∧
          (f.Bounded DTLS_Server.side o p ↔ Fits p)) ∧
      ∀ g, (DTLS_Client.configStateMachine o fuel cb (StateMachine.new (K := K))).dispatch n = .ok g →
        n = DTLS_Client.States.DOWN ∧ g = DTLS_Client.initHandshake o fuel ∨
          ∃ f ∈ DTLS_Client.receivers o fuel, g = f.code DTLS_Client.side o ∧
            (f.Bounded DTLS_Client.side o p ↔ Fits p) := by
  constructor
  · intro g hg
    obtain ⟨f, hf, hcode⟩ := DTLS_Server.dispatch_configStateMachine hg
    exact ⟨f, hf, hcode, f.bounded_iff ho _ p⟩
  · intro g hg
    rcases DTLS_Client.dispatch_configStateMachine hg with hdown | ⟨f, hf, hcode⟩
    · exact Or.inl hdown
    · exact Or.inr ⟨f, hf, hcode, f.bounded_iff ho _ p⟩

end states

/-- A library that takes everything and has nothing to say. -/
def DTLS.silent : OpenSSL Unit where
  SSL_new := ()
  BIO_eof _ := true
  BIO_read _ _ := ([], ())
  BIO_write _ _ _ len := (len, ())
  SSL_accept s := s
  SSL_connect s := s
  SSL_is_init_finished _ := false
  SSL_read _ _ := ([], ())
  SSL_write _ buf := (buf.length, ())
  SSL_get_shutdown _ := 0
  SSL_shutdown _ := (0, ())

theorem DTLS.silent_takesAll : silent.TakesAll := fun _ _ _ _ => rfl

/-- A frame with an empty datagram: UDP, five words of IP header, a UDP length of eight. -/
def DTLS.empty : Mbuf where
  data := Mem.set16 (Mem.set8 (Mem.set8 (fun _ => 0) 14 0x45) 23 17) 38 8
  dataLen := 42
  bufLen := 2048

theorem DTLS.bounded_empty_iff : ∃ f ∈ DTLS_Server.receivers (P := Nat) silent 1,
    (DTLS_Server.sendData silent 1).code DTLS_Server.side silent = f.code DTLS_Server.side silent ∧
      (f.Bounded DTLS_Server.side silent empty ↔ Fits empty) := by
  have hdispatch : (DTLS_Server.configStateMachine silent 1 (Heap.take id)
      (StateMachine.new (K := Nat))).dispatch DTLS_Server.States.ESTABLISHED
      = .ok ((DTLS_Server.sendData silent 1).code DTLS_Server.side silent) := rfl
  exact (bounded_iff_fits silent_takesAll empty DTLS_Server.States.ESTABLISHED).1 _ hdispatch

/-- It is identified as UDP, and nothing of it is handed over. -/
theorem DTLS.empty_not_bounded :
    (∃ id, IPv4_5TupleL2Ident.identify empty.data = some id ∧
      id.proto = IPv4_5TupleL2Ident.IPPROTO_UDP) ∧
      ¬ (DTLS_Server.sendData (P := Nat) silent 1).Bounded DTLS_Server.side silent empty := by
  have hproto : IPv4.proto empty.data 14 = IPv4_5TupleL2Ident.IPPROTO_UDP := by decide +kernel
  refine ⟨⟨_, by rw [IPv4_5TupleL2Ident.identify, if_pos hproto], hproto⟩, fun h => ?_⟩
  have hpos : 0 < (incoming empty).2 := h.1.1
  have hlen : (incoming empty).2 = 0 := by decide
  omega

end MoonState
