/-
The sessions of an Astraeus server.

The machine keeps a handle for each connection, and what a connection is answered
depends on its own packets and its own handles alone: `Session` is a connection by
itself, and a run of the server is one for each 5-tuple.  The functions take what they
answer to from the object, which the factory makes of the 5-tuple, so an answer goes
back to where the packet came from if the headers have the IHL for it.
-/
import MoonState.Model.Astraeus
import MoonState.Proofs.Headers
import MoonState.Proofs.Cores

namespace MoonState

open Headers
open DTLS (Mbuf allHeaderLength)
open IPv4_5TupleL2Ident (ConnectionID)

/-! ### The header of an answer -/

namespace IPv4_5TupleL2Ident

/-- The 5-tuple, from the fields of the headers. -/
theorem identify_eq (m : Mem) : identify m
    = if IPv4.proto m 14 = IPPROTO_UDP ∨ IPv4.proto m 14 = IPPROTO_TCP then some
        { dstIP := Bytes.htonl (IPv4.getDstIP m 14)
          srcIP := Bytes.htonl (IPv4.getSrcIP m 14)
          dstPort := Bytes.htons (Udp.getDstPort m (IPv4.getPayload m 14))
          srcPort := Bytes.htons (Udp.getSrcPort m (IPv4.getPayload m 14))
          proto := IPv4.proto m 14 }
      else none := by
  unfold identify
  simp only [Mem.load16_eq, Mem.load32_eq]
  by_cases hudp : IPv4.proto m 14 = IPPROTO_UDP
  · rw [if_pos hudp, if_pos (Or.inl hudp)]
    rfl
  · rw [if_neg hudp]
    by_cases htcp : IPv4.proto m 14 = IPPROTO_TCP
    · rw [if_pos htcp, if_pos (Or.inr htcp)]
      rfl
    · rw [if_neg htcp, if_neg fun h => h.elim hudp htcp]

/-- A 5-tuple is made of the bytes it is read from. -/
theorem identify_congr {m m' : Mem} (hihl : m' 14 = m 14) (hproto : m' 23 = m 23)
    (hip : m.Same m' 26 8) (hports : m.Same m' (IPv4.getPayload m 14) 4) :
    identify m' = identify m := by
  have hpayload : IPv4.getPayload m' 14 = IPv4.getPayload m 14 := IPv4.getPayload_congr hihl
  rw [identify_eq, identify_eq, hpayload]
  unfold IPv4.proto IPv4.getDstIP IPv4.getSrcIP Udp.getDstPort Udp.getSrcPort
  rw [hproto, Mem.Same.get32 fun j h h' => hip j (by omega) (by omega),
    Mem.Same.get32 fun j h h' => hip j (by omega) (by omega),
    Mem.Same.get16 fun j h h' => hports j (by omega) (by omega),
    Mem.Same.get16 fun j h h' => hports j (by omega) (by omega)]

end IPv4_5TupleL2Ident

namespace Astraeus

variable {H : Type} (c : astraeusClient H) {m : Mem} {n : Int}

/-- Only the lengths, the checksums, the addresses and the ports are written. -/
theorem setHeader_of_notMem {j : Nat} (hip : j < 16 ∨ 18 ≤ j ∧ j < 24 ∨ 34 ≤ j)
    (hudp : j < IPv4.getPayload m 14 ∨ IPv4.getPayload m 14 + 8 ≤ j) :
    c.setHeader m n j = m j := by
  unfold astraeusClient.setHeader
  simp (disch := omega) only [sizeofEthernet, IPv4.clearChecksum, IPv4.setDstIP, IPv4.setSrcIP,
    IPv4.setPayloadLength, Udp.clearChecksum, Udp.setDstPort, Udp.setSrcPort, Udp.setPayloadLength,
    Mem.set16_of_ne, Mem.set32_of_ne]

section behind

variable (h : 34 ≤ IPv4.getPayload m 14)

include h

theorem getSrcIP_setHeader : IPv4.getSrcIP (c.setHeader m n) 14 = c.localIP := by
  unfold astraeusClient.setHeader IPv4.getSrcIP Udp.setPayloadLength Udp.setSrcPort Udp.setDstPort
    Udp.clearChecksum IPv4.setPayloadLength IPv4.setSrcIP
  simp (disch := omega) only [sizeofEthernet, Mem.get32_set16, Mem.get32_set32]

theorem getDstIP_setHeader : IPv4.getDstIP (c.setHeader m n) 14 = c.remoteIP := by
  unfold astraeusClient.setHeader IPv4.getDstIP Udp.setPayloadLength Udp.setSrcPort Udp.setDstPort
    Udp.clearChecksum IPv4.setPayloadLength IPv4.setSrcIP IPv4.setDstIP
  simp (disch := omega) only [sizeofEthernet, Mem.get32_set16, Mem.get32_set32,
    Mem.get32_set32_of_ne]

omit h in
theorem getSrcPort_setHeader :
    Udp.getSrcPort (c.setHeader m n) (IPv4.getPayload m 14) = c.localPort := by
  unfold astraeusClient.setHeader Udp.getSrcPort Udp.setPayloadLength Udp.setSrcPort
  simp (disch := omega) only [sizeofEthernet, Mem.get16_set16_of_ne, Mem.get16_set16]

omit h in
theorem getDstPort_setHeader :
    Udp.getDstPort (c.setHeader m n) (IPv4.getPayload m 14) = c.remotePort := by
  unfold astraeusClient.setHeader Udp.getDstPort Udp.setPayloadLength Udp.setSrcPort Udp.setDstPort
  simp (disch := omega) only [sizeofEthernet, Mem.get16_set16_of_ne, Mem.get16_set16]

end behind

/-- The 5-tuple the packets of the connection have. -/
def astraeusClient.sends (proto : UInt8) : ConnectionID :=
  { dstIP := Bytes.htonl c.remoteIP
    srcIP := Bytes.htonl c.localIP
    dstPort := Bytes.htons c.remotePort
    srcPort := Bytes.htons c.localPort
    proto := proto }

variable {p : Mbuf} {bytes : List UInt8}

theorem answer_of_notMem {j : Nat} (hj : j < 42) (hip : j < 16 ∨ 18 ≤ j ∧ j < 24 ∨ 34 ≤ j)
    (hudp : j < IPv4.getPayload p.data 14 ∨ IPv4.getPayload p.data 14 + 8 ≤ j) :
    (c.answer bytes n p).data j = p.data j := by
  have hwrite : ∀ k, k < 42 → p.data.write allHeaderLength bytes k = p.data k :=
    fun k hk => Mem.write_of_notMem (Or.inl hk)
  have hpayload := IPv4.getPayload_congr (hwrite 14 (by omega))
  show c.setHeader _ n j = _
  rw [setHeader_of_notMem c hip (by rw [hpayload]; exact hudp), hwrite j hj]

/-- **An answer is of the connection**, if its headers are apart. -/
theorem identify_answer (h : 34 ≤ IPv4.getPayload p.data 14) : IPv4_5TupleL2Ident.identify (c.answer bytes n p).data
    = if IPv4.proto p.data 14 = IPv4_5TupleL2Ident.IPPROTO_UDP ∨
        IPv4.proto p.data 14 = IPv4_5TupleL2Ident.IPPROTO_TCP then
      some (c.sends (IPv4.proto p.data 14)) else none := by
  have hihl : (c.answer bytes n p).data 14 = p.data 14 :=
    answer_of_notMem c (by omega) (by omega) (by omega)
  have hproto : IPv4.proto (c.answer bytes n p).data 14 = IPv4.proto p.data 14 :=
    answer_of_notMem c (by omega) (by omega) (by omega)
  have hpayload : IPv4.getPayload (p.data.write allHeaderLength bytes) 14
      = IPv4.getPayload p.data 14 :=
    IPv4.getPayload_congr (Mem.write_of_notMem (Or.inl (by decide)))
  have h' : 34 ≤ IPv4.getPayload (p.data.write allHeaderLength bytes) 14 := hpayload.symm ▸ h
  rw [IPv4_5TupleL2Ident.identify_eq, hproto, IPv4.getPayload_congr hihl, ← hpayload]
  show (if _ then some (ConnectionID.mk (Bytes.htonl (IPv4.getDstIP (c.setHeader _ n) 14))
    (Bytes.htonl (IPv4.getSrcIP (c.setHeader _ n) 14))
    (Bytes.htons (Udp.getDstPort (c.setHeader _ n) _))
    (Bytes.htons (Udp.getSrcPort (c.setHeader _ n) _)) _) else none) = _
  rw [getDstIP_setHeader c h', getSrcIP_setHeader c h', getDstPort_setHeader, getSrcPort_setHeader]
  rfl

/-- The object of a connection. -/
def object (id : ConnectionID) (handle : H) : astraeusClient H where
  handle := handle
  localIP := Bytes.htonl id.dstIP
  remoteIP := Bytes.htonl id.srcIP
  localPort := Bytes.htons id.dstPort
  remotePort := Bytes.htons id.srcPort

theorem object_sends (id : ConnectionID) (handle : H) :
    (object id handle).sends id.proto = id.reverse := by
  unfold object astraeusClient.sends ConnectionID.reverse
  simp only [Bytes.htonl_htonl, Bytes.htons_htons]

/-- What is answered to a packet goes back where it came from. -/
theorem identify_object_answer {id : ConnectionID} (handle : H) (h : 5 ≤ (IPv4.ihl p.data 14).toNat)
    (hid : IPv4_5TupleL2Ident.identify p.data = some id) :
    IPv4_5TupleL2Ident.identify ((object id handle).answer bytes n p).data = some id.reverse := by
  have hpayload : 34 ≤ IPv4.getPayload p.data 14 := by
    unfold IPv4.getPayload
    omega
  rw [IPv4_5TupleL2Ident.identify_eq] at hid
  rw [identify_answer _ hpayload]
  split at hid
  · rename_i hproto
    have hp : IPv4.proto p.data 14 = id.proto := congrArg ConnectionID.proto (Option.some.inj hid)
    rw [if_pos hproto, hp, object_sends]
  · exact absurd hid (by simp)

/-- The `State` of a connection; the only one there is in either program. -/
def session (state : StateID) (id : ConnectionID) (handle : H) : State (Ptr (astraeusClient H)) :=
  State.new state (.to (object id handle))

/-! ### One connection -/

variable {L : Type} {noncelen : Nat} (o : AstraeusProto H L noncelen)

/-- What a handle does with a packet: the handle afterwards, if the handshake goes on, and the
packet, and whether it is sent. -/
def shake (handleHandshake : H → Mem → H × List UInt8 × Int) (id : ConnectionID) (handle : H)
    (p : Mbuf) : Option H × Mbuf × Bool :=
  let (handle, bytes, sendLen) := handleHandshake handle (payload p.data)
  (if o.handshakeOngoing handle then some handle else none,
    (object id handle).answer bytes sendLen p, !decide (sendLen ≤ 0))

/-- The function of the connection answers like that. -/
structure Shakes {R : Type} (handleHandshake : H → Mem → H × List UInt8 × Int)
    (HANDSHAKE DELETED : StateID) (id : ConnectionID) (handle : H) (p : Mbuf) (r : R)
    (a : Answer (Ptr (astraeusClient H)) Mbuf R) : Prop where
  out : (a.pkt, !a.free) = (shake o handleHandshake id handle p).2
  rest : a.rest = r
  state : (if (Service.after (session HANDSHAKE id handle) a).state = DELETED then none
      else some (Service.after (session HANDSHAKE id handle) a))
    = (shake o handleHandshake id handle p).1.map (session HANDSHAKE id)

variable {o} in
theorem runHandshake_eq {R : Type} (handleHandshake : H → Mem → H × List UInt8 × Int)
    {HANDSHAKE DELETED : StateID} (hne : HANDSHAKE ≠ DELETED) (id : ConnectionID) (handle : H)
    (p : Mbuf) (r : R) :
    ∃ a, runHandshake o handleHandshake DELETED (.to (object id handle)) p r = some a ∧
      Shakes o handleHandshake HANDSHAKE DELETED id handle p r a := by
  have hrun : runHandshake o handleHandshake DELETED (.to (object id handle)) p r = some
      { stateData := .to (object id (handleHandshake handle (payload p.data)).1)
        newState := if o.handshakeOngoing (handleHandshake handle (payload p.data)).1 = true then none
          else some DELETED
        pkt := (object id (handleHandshake handle (payload p.data)).1).answer _ _ p
        rest := r
        free := decide ((handleHandshake handle (payload p.data)).2.2 ≤ 0) } := rfl
  by_cases hon : o.handshakeOngoing (handleHandshake handle (payload p.data)).1 = true
  · rw [if_pos hon] at hrun
    refine ⟨_, hrun, rfl, rfl, ?_⟩
    show _ = Option.map _ (if _ then _ else _)
    rw [if_pos hon]
    exact if_neg hne
  · rw [if_neg hon] at hrun
    refine ⟨_, hrun, rfl, rfl, ?_⟩
    show _ = Option.map _ (if _ then _ else _)
    rw [if_neg hon]
    exact if_pos rfl

/-- A connection of the server by itself: the handle, if there is one, what becomes of its packets,
and the handle then. -/
inductive Session (id : ConnectionID) : Option H → List (Mbuf × Mbuf × Bool) → Option H → Prop
  | done (c : Option H) : Session id c [] c
  /-- a packet of a new connection, for which there is a new handle -/
  | opened (lib : L) {p : Mbuf} {out : Mbuf × Bool} {rs : List (Mbuf × Mbuf × Bool)} {c : Option H}
      (h : Session id (some (o.generateHandleGivenKey lib).1) ((p, out) :: rs) c) :
      Session id none ((p, out) :: rs) c
  | packet (handle : H) (p : Mbuf) {rs : List (Mbuf × Mbuf × Bool)} {c : Option H}
      (h : Session id (shake o o.handleHandshakeServer id handle p).1 rs c) :
      Session id (some handle) ((p, (shake o o.handleHandshakeServer id handle p).2) :: rs) c

variable {o}

/-- Answers go back. -/
theorem Session.identify_of_sent {id : ConnectionID} {c c' : Option H}
    {rs : List (Mbuf × Mbuf × Bool)} (h : Session o id c rs c') {p q : Mbuf} {sent : Bool}
    (hr : (p, q, sent) ∈ rs) (hp : IPv4_5TupleL2Ident.identify p.data = some id)
    (hihl : 5 ≤ (IPv4.ihl p.data 14).toNat) :
    IPv4_5TupleL2Ident.identify q.data = some id.reverse := by
  induction h with
  | done => exact absurd hr List.not_mem_nil
  | opened _ _ ih => exact ih hr
  | packet handle p' _ ih =>
      rcases List.mem_cons.mp hr with heq | hmem
      · obtain ⟨rfl, hq⟩ := Prod.mk.inj heq
        obtain ⟨rfl, -⟩ := Prod.mk.inj hq
        exact identify_object_answer _ hihl hp
      · exact ih hmem

end Astraeus

/-! ### The server -/

namespace Astraeus_Server

open Astraeus

variable {H L : Type} {noncelen : Nat} (o : AstraeusProto H L noncelen)

/-- The server has these handles, and nothing in its pool. -/
structure Shows (f : ConnectionID → Option H)
    (x : Held ConnectionID (Ptr (astraeusClient H)) L) : Prop where
  table : ∀ id, x.table.lookup id = (f id).map (session States.HANDSHAKE id)
  pool : ∀ id, x.pool.lookup id = none

variable {o} {f : ConnectionID → Option H} {x : Held ConnectionID (Ptr (astraeusClient H)) L}

/-- What the function of a connection answers. -/
theorem answer_eq (id : ConnectionID) (handle : H) (p : Mbuf) (lib : L) :
    ∃ a, (service o).answer (session States.HANDSHAKE id handle) p lib = some a ∧
      Shakes o o.handleHandshakeServer States.HANDSHAKE States.DELETED id handle p lib a :=
  runHandshake_eq o.handleHandshakeServer (by decide) id handle p lib

/-- A packet that has no 5-tuple is dropped. -/
theorem receive_of_none {p : Mbuf} (hp : IPv4_5TupleL2Ident.identify p.data = none) :
    (service o).receive x p = some (x, p, false) := by
  unfold Service.receive
  rw [show (service o).ident p = none from hp]

/-- **A packet is of the session of its 5-tuple.** -/
theorem receive_eq (hs : Shows f x) {p : Mbuf} {id : ConnectionID}
    (hp : IPv4_5TupleL2Ident.identify p.data = some id) :
    ∃ handle x', (f id = some handle ∨ f id = none ∧
        ∃ lib, handle = (o.generateHandleGivenKey lib).1) ∧
      (service o).receive x p = some (x', (shake o o.handleHandshakeServer id handle p).2) ∧
      Shows (Function.update f id (shake o o.handleHandshakeServer id handle p).1) x' := by
  have hserves : ∃ handle r x' a, (f id = some handle ∨ f id = none ∧
        ∃ lib, handle = (o.generateHandleGivenKey lib).1) ∧
      (service o).answer (session States.HANDSHAKE id handle) p r = some a ∧
      (service o).Serves x p id (session States.HANDSHAKE id handle) a x' := by
    cases hf : f id with
    | some handle =>
        have ht := hs.table id
        rw [hf, Option.map_some] at ht
        obtain ⟨a, ha, -⟩ := answer_eq (o := o) id handle p x.rest
        obtain ⟨x', hx'⟩ := Service.serves_of_table hp ht ha
        exact ⟨handle, x.rest, x', a, Or.inl rfl, ha, hx'⟩
    | none =>
        have ht := hs.table id
        rw [hf, Option.map_none] at ht
        obtain ⟨a, ha, -⟩ :=
          answer_eq (o := o) id (o.generateHandleGivenKey x.rest).1 p (o.generateHandleGivenKey x.rest).2
        obtain ⟨x', hx'⟩ := Service.serves_of_new hp ht (hs.pool id) rfl
          (show (service o).newData id x.rest = _ from rfl) ha
        exact ⟨_, _, x', a, Or.inr ⟨rfl, x.rest, rfl⟩, ha, hx'⟩
  obtain ⟨handle, r, x', a, hf, ha, hx'⟩ := hserves
  obtain ⟨a', ha', hshakes⟩ := answer_eq (o := o) id handle p r
  obtain rfl : a = a' := Option.some.inj (ha.symm.trans ha')
  refine ⟨handle, x', hf, by rw [hx'.receive, hshakes.out], fun j => ?_, fun j => ?_⟩
  · rw [hx'.table]
    by_cases hj : j = id
    · rw [if_pos hj, hj, Function.update_self]
      exact hshakes.state
    · rw [if_neg hj, Function.update_of_ne hj]
      exact hs.table j
  · rw [hx'.pool, hs.pool]
    exact ite_self none

variable (o) in
/-- What becomes of the packets that have no 5-tuple and of those of each connection. -/
structure Served (f : ConnectionID → Option H) (rs : List (Mbuf × Mbuf × Bool))
    (f' : ConnectionID → Option H) : Prop where
  unidentified : ∀ r ∈ rs, IPv4_5TupleL2Ident.identify r.1.data = none → r.2 = (r.1, false)
  session : ∀ id, Session o id (f id)
    (rs.filter fun r => IPv4_5TupleL2Ident.identify r.1.data = some id) (f' id)

/-- **All packets.** -/
theorem receiveAll_eq (ps : List Mbuf) (hs : Shows f x) :
    ∃ x' outs f', (service o).receiveAll ps x = some (x', outs) ∧ outs.length = ps.length ∧
      Served o f (ps.zip outs) f' ∧ Shows f' x' := by
  induction ps generalizing f x with
  | nil => exact ⟨x, [], f, rfl, rfl, ⟨by simp, fun id => .done _⟩, hs⟩
  | cons p ps ih =>
      rw [Service.receiveAll]
      cases hp : IPv4_5TupleL2Ident.identify p.data with
      | none =>
          obtain ⟨x', outs, f', hall, hlen, hserved, hs'⟩ := ih hs
          rw [receive_of_none hp]
          refine ⟨x', (p, false) :: outs, f', by simp only [hall]; rfl, congrArg Nat.succ hlen, ⟨?_, ?_⟩, hs'⟩
          · intro r hr hnone
            rcases List.mem_cons.mp hr with rfl | hmem
            · rfl
            · exact hserved.unidentified r hmem hnone
          · intro id
            rw [List.zip_cons_cons, List.filter_cons_of_neg (by simp [hp])]
            exact hserved.session id
      | some id =>
          obtain ⟨handle, x₁, hf, hrec, hs₁⟩ := receive_eq hs hp
          obtain ⟨x', outs, f', hall, hlen, hserved, hs'⟩ := ih hs₁
          rw [hrec]
          refine ⟨x', _ :: outs, f', by simp only [hall]; rfl, congrArg Nat.succ hlen, ⟨?_, ?_⟩, hs'⟩
          · intro r hr hnone
            rcases List.mem_cons.mp hr with rfl | hmem
            · simp [hp] at hnone
            · exact hserved.unidentified r hmem hnone
          · intro j
            rw [List.zip_cons_cons]
            have hj := hserved.session j
            by_cases hji : j = id
            · subst hji
              rw [List.filter_cons_of_pos (by simp [hp])]
              rw [Function.update_self] at hj
              rcases hf with hf | ⟨hf, lib, rfl⟩
              · rw [hf]
                exact .packet handle p hj
              · rw [hf]
                exact .opened lib (.packet _ p hj)
            · rw [List.filter_cons_of_neg (by simp [hp, Ne.symm hji])]
              rw [Function.update_of_ne hji] at hj
              exact hj

/-- A packet that is sent goes back. -/
theorem Served.identify_of_sent {f' : ConnectionID → Option H} {rs : List (Mbuf × Mbuf × Bool)}
    (h : Served o f rs f') {p q : Mbuf} (hr : (p, q, true) ∈ rs)
    (hihl : 5 ≤ (IPv4.ihl p.data 14).toNat) :
    ∃ id, IPv4_5TupleL2Ident.identify p.data = some id ∧
      IPv4_5TupleL2Ident.identify q.data = some id.reverse := by
  cases hp : IPv4_5TupleL2Ident.identify p.data with
  | none => exact absurd (congrArg Prod.snd (h.unidentified _ hr hp)) (by simp)
  | some id =>
      refine ⟨id, rfl, (h.session id).identify_of_sent (List.mem_filter.mpr ⟨hr, ?_⟩) hp hihl⟩
      simpa using hp

/-- **The sessions of a run.**  However the packets are batched, the server never stops, every
connection is a session by itself, and what it is sent goes back where its packets came from. -/
theorem run_sessions (o : AstraeusProto H L noncelen) (pl : Service.Platform) (lib : L)
    (bs : List (InPkts Mbuf)) :
    ∃ x outs f, feed (fun x (b : InPkts Mbuf) => x.process (service o) pl b.pkts)
        (Instance.start (service o) lib) bs = .ok (x, outs) ∧
      outs.flatten.length = (bs.flatMap InPkts.pkts).length ∧
      Served o (fun _ => none) ((bs.flatMap InPkts.pkts).zip outs.flatten) f ∧
      (∀ id, x.sm.stateTable.lookup id = (f id).map (session States.HANDSHAKE id)) ∧
      ∀ p q, (p, q, true) ∈ (bs.flatMap InPkts.pkts).zip outs.flatten →
        5 ≤ (IPv4.ihl p.data 14).toNat →
        ∃ id, IPv4_5TupleL2Ident.identify p.data = some id ∧
          IPv4_5TupleL2Ident.identify q.data = some id.reverse := by
  have hstart : Shows (fun _ => none : ConnectionID → Option H)
      (Instance.start (service o) lib).held := ⟨fun _ => rfl, fun _ => rfl⟩
  obtain ⟨x', outs, f, hall, hlen, hserved, hs⟩ :=
    receiveAll_eq (o := o) (bs.flatMap InPkts.pkts) hstart
  obtain ⟨x, os, hfeed, rfl, rfl, -⟩ :=
    Instance.feed_inPkts pl bs (Instance.start_runs (service o) lib) hall
  exact ⟨x, os, f, hfeed, hlen, hserved, hs.table,
    fun p q hr hihl => hserved.identify_of_sent hr hihl⟩

end Astraeus_Server

end MoonState
