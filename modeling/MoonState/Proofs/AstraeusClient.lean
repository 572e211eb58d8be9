/-
What an Astraeus client keeps.

A connection is in the pool from `connect` until its first packet comes, and then in the
table of a core, and its state is `HANDSHAKE` all the time: nothing else is ever in a
table, so no packet starts a handshake again, and the only function that uses a nonce is
the one `connect` calls.
-/
import MoonState.Proofs.Astraeus

namespace MoonState

open Headers
open DTLS (Mbuf allHeaderLength)
open IPv4_5TupleL2Ident (ConnectionID)

/-- It is the `addStateNoFun` of the machine. -/
theorem Instance.addStateNoFun_eq {K D B R : Type} [DecidableEq K] [Inhabited B]
    (x : Instance K D B R) (id : K) (st : State D) (ba : BufArray Nat) (bs : List B) :
    (leave (MoonState.addStateNoFun id st (x.view ba bs)) bs.length).1 = x.addStateNoFun id st := by
  unfold MoonState.addStateNoFun Instance.addStateNoFun
  show (leave (if st.state = x.sm.endStateID then _ else _) bs.length).1 = _
  split
  · rfl
  · rfl

namespace Astraeus_Client

open Astraeus

variable {ι H L : Type} [DecidableEq ι] {noncelen : Nat} {o : AstraeusProto H L noncelen}

/-! ### A packet -/

/-- A core has handles `f` in its table, and the pool has `g`. -/
structure Holds (f g : ConnectionID → Option H)
    (h : Held ConnectionID (Ptr (astraeusClient H)) (ι → Own L noncelen)) : Prop where
  table : ∀ id, h.table.lookup id = (f id).map (session States.HANDSHAKE id)
  pool : ∀ id, h.pool.lookup id = (g id).map (session States.HANDSHAKE id)

variable {f g : ConnectionID → Option H} {i : ι}
  {h : Held ConnectionID (Ptr (astraeusClient H)) (ι → Own L noncelen)}

/-- The connection is in the table, or it is taken out of the pool; the pool is `g'` then. -/
def Finds (f g : ConnectionID → Option H) (id : ConnectionID) (handle : H)
    (g' : ConnectionID → Option H) : Prop :=
  f id = some handle ∧ g' = g ∨
    f id = none ∧ g id = some handle ∧ g' = Function.update g id none

theorem answer_eq (i : ι) (id : ConnectionID) (handle : H) (p : Mbuf) (r : ι → Own L noncelen) :
    ∃ a, (service o i).answer (session States.HANDSHAKE id handle) p r = some a ∧
      Shakes o o.handleHandshakeClient States.HANDSHAKE States.DELETED id handle p r a :=
  runHandshake_eq o.handleHandshakeClient (by decide) id handle p r

/-- The function of a connection has answered. -/
theorem Holds.serves (hs : Holds f g h) {id : ConnectionID} {handle : H} {p : Mbuf}
    {a : Answer (Ptr (astraeusClient H)) Mbuf (ι → Own L noncelen)}
    {h' : Held ConnectionID (Ptr (astraeusClient H)) (ι → Own L noncelen)}
    (ha : (service o i).answer (session States.HANDSHAKE id handle) p h.rest = some a)
    (hh : (service o i).Serves h p id (session States.HANDSHAKE id handle) a h')
    {g' : ConnectionID → Option H}
    (hpool : ∀ j, (if j = id ∧ h.table.lookup id = none then none else h.pool.lookup j)
      = (g' j).map (session States.HANDSHAKE j)) :
    (service o i).receive h p = some (h', (shake o o.handleHandshakeClient id handle p).2) ∧
      Holds (Function.update f id (shake o o.handleHandshakeClient id handle p).1) g' h' ∧
      h'.rest = h.rest := by
  obtain ⟨a', ha', hshakes⟩ := answer_eq (o := o) i id handle p h.rest
  obtain rfl : a = a' := Option.some.inj (ha.symm.trans ha')
  refine ⟨by rw [hh.receive, hshakes.out], ⟨fun j => ?_, fun j => ?_⟩, hh.rest.trans hshakes.rest⟩
  · rw [hh.table]
    by_cases hj : j = id
    · rw [if_pos hj, hj, Function.update_self]
      exact hshakes.state
    · rw [if_neg hj, Function.update_of_ne hj]
      exact hs.table j
  · rw [hh.pool, hpool]

/-- **A packet.**  It is of a connection, or it is dropped. -/
theorem receive_eq (hs : Holds f g h) (p : Mbuf) :
    (∃ id handle g' h', IPv4_5TupleL2Ident.identify p.data = some id ∧ Finds f g id handle g' ∧
      (service o i).receive h p = some (h', (shake o o.handleHandshakeClient id handle p).2) ∧
      Holds (Function.update f id (shake o o.handleHandshakeClient id handle p).1) g' h' ∧
      h'.rest = h.rest) ∨
    (service o i).receive h p = some (h, p, false) := by
  cases hp : IPv4_5TupleL2Ident.identify p.data with
  | none =>
      refine Or.inr ?_
      unfold Service.receive
      rw [show (service o i).ident p = none from hp]
  | some id =>
      have ht := hs.table id
      have hg := hs.pool id
      cases hf : f id with
      | some handle =>
          rw [hf, Option.map_some] at ht
          obtain ⟨a, ha, -⟩ := answer_eq (o := o) i id handle p h.rest
          obtain ⟨h', hh'⟩ := Service.serves_of_table (u := service o i) hp ht ha
          refine Or.inl ⟨id, handle, g, h', rfl, Or.inl ⟨hf, rfl⟩, hs.serves ha hh' fun j => ?_⟩
          rw [ht, if_neg (by simp)]
          exact hs.pool j
      | none =>
          rw [hf, Option.map_none] at ht
          cases hgid : g id with
          | some handle =>
              rw [hgid, Option.map_some] at hg
              obtain ⟨a, ha, -⟩ := answer_eq (o := o) i id handle p h.rest
              obtain ⟨h', hh'⟩ := Service.serves_of_pool (u := service o i) hp ht hg ha
              refine Or.inl ⟨id, handle, Function.update g id none, h', rfl,
                Or.inr ⟨hf, hgid, rfl⟩, hs.serves ha hh' fun j => ?_⟩
              by_cases hj : j = id
              · rw [if_pos ⟨hj, ht⟩, hj, Function.update_self]
                rfl
              · rw [if_neg fun hc => hj hc.1, Function.update_of_ne hj]
                exact hs.pool j
          | none =>
              rw [hgid, Option.map_none] at hg
              refine Or.inr ?_
              unfold Service.receive Service.find
              rw [show (service o i).ident p = some id from hp]
              dsimp only
              rw [ht]
              dsimp only
              rw [hg]
              rfl

/-- Packets leave the handles to be made, and the nonces, alone. -/
theorem receiveAll_holds (ps : List Mbuf) (hs : Holds f g h) :
    ∃ h' outs f' g', (service o i).receiveAll ps h = some (h', outs) ∧ Holds f' g' h' ∧
      h'.rest = h.rest := by
  induction ps generalizing f g h with
  | nil => exact ⟨h, [], f, g, rfl, hs, rfl⟩
  | cons p ps ih =>
      have hp : ∃ h₁ out f₁ g₁, (service o i).receive h p = some (h₁, out) ∧ Holds f₁ g₁ h₁ ∧
          h₁.rest = h.rest := by
        rcases receive_eq hs p with ⟨_, _, _, _, -, -, hrec, hs₁, hrest⟩ | hrec
        · exact ⟨_, _, _, _, hrec, hs₁, hrest⟩
        · exact ⟨h, _, f, g, hrec, hs, rfl⟩
      obtain ⟨h₁, out, f₁, g₁, hrec, hs₁, hrest⟩ := hp
      obtain ⟨h', outs, f', g', hall, hs', hrest'⟩ := ih hs₁
      refine ⟨h', out :: outs, f', g', ?_, hs', hrest'.trans hrest⟩
      simp only [Service.receiveAll, hrec, hall, Option.map_some]

/-! ### The program -/

/-- The cores have these handles in their tables, and there are these in the pool. -/
structure Shows (o : AstraeusProto H L noncelen) (tables : ι → ConnectionID → Option H)
    (pool : ConnectionID → Option H) (x : Program ι H L noncelen) : Prop where
  runs : ∀ i, (service o i).Runs (x.sms i)
  table : ∀ i id, (x.sms i).stateTable.lookup id = (tables i id).map (session States.HANDSHAKE id)
  pool : ∀ id, x.connPool.lookup id = (pool id).map (session States.HANDSHAKE id)

variable {tables : ι → ConnectionID → Option H} {pool : ConnectionID → Option H}
  {x : Program ι H L noncelen}

theorem init_shows (libs : ι → L) : Shows o (fun _ _ => none) (fun _ => none) (init o libs) :=
  ⟨fun i => Instance.start_runs (service o i) (fun i => ⟨libs i, 0⟩), fun _ _ => rfl, fun _ => rfl⟩

theorem Shows.core (hs : Shows o tables pool x) (i : ι) : Holds (tables i) pool (x.core i).held :=
  ⟨hs.table i, hs.pool⟩

/-- A core has left its part like that. -/
theorem Shows.put (hs : Shows o tables pool x) {y : Instance ConnectionID _ Mbuf _}
    (hruns : (service o i).Runs y.sm) (hy : Holds f g y.held) :
    Shows o (Function.update tables i f) g (x.put i y) := by
  refine ⟨fun j => ?_, fun j id => ?_, hy.pool⟩
  · show (service o j).Runs (Function.update x.sms i y.sm j)
    by_cases hj : j = i
    · rw [hj, Function.update_self]
      exact hruns
    · rw [Function.update_of_ne hj]
      exact hs.runs j
  · show (Function.update x.sms i y.sm j).stateTable.lookup id = _
    by_cases hj : j = i
    · rw [hj, Function.update_self, Function.update_self]
      exact hy.table id
    · rw [Function.update_of_ne hj, Function.update_of_ne hj]
      exact hs.table j id

/-- **A batch.** -/
theorem process_eq (pl : Service.Platform) (hs : Shows o tables pool x) (inPkts : InPkts Mbuf)
    {h' : Held ConnectionID (Ptr (astraeusClient H)) (ι → Own L noncelen)}
    {outs : List (Mbuf × Bool)}
    (hall : (service o i).receiveAll inPkts.pkts (x.core i).held = some (h', outs))
    (hh : Holds f g h') :
    ∃ x', process o pl i inPkts x = .ok (x', outs) ∧
      Shows o (Function.update tables i f) g x' ∧ x'.rest = h'.rest := by
  have hb := Instance.process_eq pl (x := x.core i) (hs.runs i) inPkts.pkts inPkts.nonempty inPkts.fits
  rw [hall] at hb
  obtain ⟨y, hy, rfl, hruns⟩ := hb
  refine ⟨x.put i y, ?_, hs.put hruns hh, rfl⟩
  unfold process Cores.call
  dsimp only
  rw [hy]
  rfl

/-- What a connection is opened with: the object, and the packet. -/
def greeting (o : AstraeusProto H L noncelen) (config : Config) (srcIP : UInt32) (srcPort : UInt16)
    (pkt : Mbuf) (own : Own L noncelen) : astraeusClient H × Mbuf :=
  let r := o.generateInitGivenHandleAndNonce (o.generateHandleGivenKey own.lib).1 own.nonce
  let client := object (connectionID config srcIP srcPort) r.1
  (client, client.answer r.2.1 r.2.2 pkt)

/-- The next handle, and the next nonce. -/
def Own.next (o : AstraeusProto H L noncelen) (own : Own L noncelen) : Own L noncelen :=
  ⟨(o.generateHandleGivenKey own.lib).2, own.nonce + 1⟩

theorem object_connectionID (config : Config) (srcIP : UInt32) (srcPort : UInt16) (handle : H) :
    object (connectionID config srcIP srcPort) handle
      = ⟨handle, srcIP, config.dstIP, srcPort, config.dstPort⟩ := by
  unfold object connectionID
  simp only [Bytes.htonl_htonl, Bytes.htons_htons]

/-- The machine gets the object, and the packet the greeting. -/
theorem connectOne_def (config : Config) (i : ι) (srcIP : UInt32) (srcPort : UInt16) (pkt : Mbuf)
    (x : Program ι H L noncelen) : connectOne o config i srcIP srcPort pkt x
      = (let y := { x with rest := Function.update x.rest i ((x.rest i).next o) }
        y.put i ((y.core i).addStateNoFun (connectionID config srcIP srcPort)
          (session States.HANDSHAKE (connectionID config srcIP srcPort)
            (greeting o config srcIP srcPort pkt (x.rest i)).1.handle)),
        (greeting o config srcIP srcPort pkt (x.rest i)).2) := by
  unfold connectOne greeting session
  dsimp only
  rw [object_connectionID, object_connectionID]
  rfl

/-- **A new connection** gets into the pool, unless one with its 5-tuple is there. -/
theorem connectOne_eq (hs : Shows o tables pool x) (config : Config) (i : ι) (srcIP : UInt32)
    (srcPort : UInt16) (pkt : Mbuf) :
    ∃ x', connectOne o config i srcIP srcPort pkt x
        = (x', (greeting o config srcIP srcPort pkt (x.rest i)).2) ∧
      Shows o tables (Function.update pool (connectionID config srcIP srcPort)
        ((pool (connectionID config srcIP srcPort)).or
          (some (greeting o config srcIP srcPort pkt (x.rest i)).1.handle))) x' ∧
      x'.rest = Function.update x.rest i ((x.rest i).next o) := by
  rw [connectOne_def]
  generalize connectionID config srcIP srcPort = id
  generalize (greeting o config srcIP srcPort pkt (x.rest i)).1.handle = handle
  refine ⟨_, rfl, ?_, ?_⟩
  · have hend : ¬(session States.HANDSHAKE id handle).state = (x.sms i).endStateID := by
      rw [(hs.runs i).endStateID]
      show ¬States.HANDSHAKE = States.DELETED
      decide
    unfold Instance.addStateNoFun
    dsimp only
    rw [show (Cores.core { x with rest := Function.update x.rest i ((x.rest i).next o) } i).sm
      = x.sms i from rfl, if_neg hend]
    have hput := hs.put (i := i) (f := tables i)
      (g := Function.update pool id ((pool id).or (some handle)))
      (y := { x.core i with
        connPool := FMap.insertNew id (session States.HANDSHAKE id handle) x.connPool
        rest := Function.update x.rest i ((x.rest i).next o) }) (hs.runs i) ⟨hs.table i, fun j => ?_⟩
    · rw [Function.update_eq_self] at hput
      exact hput
    · show (FMap.insertNew id _ x.connPool).lookup j = _
      by_cases hj : j = id
      · rw [hj, Function.update_self, FMap.lookup_insertNew_self, hs.pool]
        cases pool id with
        | none => rfl
        | some handle => rfl
      · rw [Function.update_of_ne hj, FMap.lookup_insertNew_ne _ _ hj]
        exact hs.pool j
  · unfold Instance.addStateNoFun
    dsimp only
    split
    · rfl
    · rfl

/-! ### The nonces -/

/-- A connection `connect` is asked for, with its packet. -/
structure Opening where
  config : Config
  srcIP : UInt32
  srcPort : UInt16
  pkt : Mbuf

variable (o) in
/-- Its first packet. -/
def Opening.greeting (op : Opening) (own : Own L noncelen) : Mbuf :=
  (Astraeus_Client.greeting o op.config op.srcIP op.srcPort op.pkt own).2

/-- The connections of a loop that is at number `k`. -/
def openings (config : Config) (srcIP : UInt32) (srcPort : UInt16) : Nat → List Mbuf → List Opening
  | _, [] => []
  | k, pkt :: pkts =>
    ⟨config, srcIP, UInt16.ofNat (srcPort.toNat + k), pkt⟩ :: openings config srcIP srcPort (k + 1) pkts

/-- The connections a call opens on core `i`. -/
def Call.openings (i : ι) : Call ι → List Opening
  | .connect config j inPkts srcIP srcPort =>
    if j = i then Astraeus_Client.openings config srcIP srcPort 0 inPkts else []
  | .process .. => []

/-- The packets of new connections that core `i` sends. -/
def Call.greetings (i : ι) : Call ι → List (Mbuf × Bool) → List Mbuf
  | .connect _ j _ _ _, outs => if j = i then outs.map Prod.fst else []
  | .process .., _ => []

variable (o) in
/-- Handles and nonces, one after the other. -/
def greetings : Own L noncelen → List Opening → List Mbuf
  | _, [] => []
  | own, op :: ops => op.greeting o own :: greetings (own.next o) ops

theorem greetings_append (own : Own L noncelen) (ops ops' : List Opening) :
    greetings o own (ops ++ ops')
      = greetings o own ops ++ greetings o ((Own.next o)^[ops.length] own) ops' := by
  induction ops generalizing own with
  | nil => rfl
  | cons op ops ih =>
      rw [List.cons_append, greetings, ih, greetings, List.cons_append]
      rfl

theorem getElem?_greetings (own : Own L noncelen) (ops : List Opening) (n : Nat) :
    (greetings o own ops)[n]? = (ops[n]?).map fun op => op.greeting o ((Own.next o)^[n] own) := by
  induction ops generalizing own n with
  | nil => rfl
  | cons op ops ih =>
      cases n with
      | zero => rfl
      | succ n => exact ih (own.next o) n

/-- The `n`-th has nonce `n`. -/
theorem next_iterate (lib : L) (n : Nat) : (Own.next o)^[n] ⟨lib, 0⟩
    = ⟨(fun lib => (o.generateHandleGivenKey lib).2)^[n] lib, BitVec.ofNat (8 * noncelen) n⟩ := by
  induction n with
  | zero => rfl
  | succ n ih =>
      rw [Function.iterate_succ_apply', ih, Function.iterate_succ_apply']
      unfold Own.next
      rw [BitVec.ofNat_add]
      rfl

theorem length_openings (config : Config) (srcIP : UInt32) (srcPort : UInt16) (k : Nat)
    (pkts : List Mbuf) : (openings config srcIP srcPort k pkts).length = pkts.length := by
  induction pkts generalizing k with
  | nil => rfl
  | cons pkt pkts ih => exact congrArg Nat.succ (ih (k + 1))

/-- **The loop.** -/
theorem connect_eq (hs : Shows o tables pool x) (config : Config) (i : ι) (srcIP : UInt32)
    (srcPort : UInt16) (k : Nat) (pkts : List Mbuf) :
    ∃ x' pool', connect o config i srcIP srcPort k pkts x
        = (x', greetings o (x.rest i) (openings config srcIP srcPort k pkts)) ∧
      Shows o tables pool' x' ∧
      x'.rest = Function.update x.rest i ((Own.next o)^[pkts.length] (x.rest i)) := by
  induction pkts generalizing k x pool with
  | nil => exact ⟨x, pool, rfl, hs, (Function.update_eq_self _ _).symm⟩
  | cons pkt pkts ih =>
      obtain ⟨x₁, hone, hs₁, hrest₁⟩ :=
        connectOne_eq hs config i srcIP (UInt16.ofNat (srcPort.toNat + k)) pkt
      obtain ⟨x', pool', hloop, hs', hrest'⟩ := ih hs₁ (k + 1)
      have hi : x₁.rest i = (x.rest i).next o := by rw [hrest₁, Function.update_self]
      refine ⟨x', pool', ?_, hs', ?_⟩
      · simp only [connect, hone, hloop, hi]
        rfl
      · rw [hrest', hi, hrest₁, Function.update_idem]
        rfl

/-- What a call does. -/
theorem call_eq (pl : Service.Platform) (hs : Shows o tables pool x) (c : Call ι) :
    ∃ x' outs tables' pool', call o pl x c = .ok (x', outs) ∧ Shows o tables' pool' x' ∧
      ∀ i, c.greetings i outs = greetings o (x.rest i) (c.openings i) ∧
        x'.rest i = (Own.next o)^[(c.openings i).length] (x.rest i) := by
  cases c with
  | connect config j inPkts srcIP srcPort =>
      obtain ⟨x', pool', hloop, hs', hrest⟩ := connect_eq hs config j srcIP srcPort 0 inPkts
      refine ⟨x', _, tables, pool', by rw [call, hloop], hs', fun i => ?_⟩
      rw [Call.greetings, Call.openings]
      by_cases hj : j = i
      · subst hj
        rw [if_pos rfl, if_pos rfl, hrest, Function.update_self, length_openings, List.map_map]
        exact ⟨List.map_id _, rfl⟩
      · rw [if_neg hj, if_neg hj, hrest, Function.update_of_ne (Ne.symm hj)]
        exact ⟨rfl, rfl⟩
  | process j inPkts =>
      obtain ⟨h', outs, f', g', hall, hh', hrest⟩ :=
        receiveAll_holds (o := o) (i := j) inPkts.pkts (hs.core j)
      obtain ⟨x', hx', hs', hrest'⟩ := process_eq pl hs inPkts hall hh'
      exact ⟨x', outs, _, _, hx', hs', fun i => ⟨rfl, congrFun (hrest'.trans hrest) i⟩⟩

/-- A run. -/
theorem feed_eq (pl : Service.Platform) (cs : List (Call ι)) (hs : Shows o tables pool x) :
    ∃ x' outs, feed (call o pl) x cs = .ok (x', outs) ∧ outs.length = cs.length ∧
      ∀ i, ((cs.zip outs).flatMap fun c => c.1.greetings i c.2)
        = greetings o (x.rest i) (cs.flatMap (Call.openings i)) := by
  induction cs generalizing x tables pool with
  | nil => exact ⟨x, [], rfl, rfl, fun _ => rfl⟩
  | cons c cs ih =>
      obtain ⟨x₁, out, tables₁, pool₁, hcall, hs₁, hone⟩ := call_eq pl hs c
      obtain ⟨x', outs, hfeed, hlen, hall⟩ := ih hs₁
      refine ⟨x', out :: outs, by simp only [feed, hcall, hfeed], congrArg Nat.succ hlen,
        fun i => ?_⟩
      obtain ⟨hgreet, hrest⟩ := hone i
      rw [List.zip_cons_cons, List.flatMap_cons, List.flatMap_cons, greetings_append, hgreet,
        hall i, hrest]

/-- **The nonces of a run.**  Whatever calls there are in between, the program never stops, and the
`n`-th connection that a core opens is greeted with the `n`-th handle and nonce `n`. -/
theorem run_nonces (o : AstraeusProto H L noncelen) (pl : Service.Platform) (libs : ι → L)
    (cs : List (Call ι)) :
    ∃ x outs, feed (call o pl) (init o libs) cs = .ok (x, outs) ∧ outs.length = cs.length ∧
      ∀ i n, ((cs.zip outs).flatMap fun c => c.1.greetings i c.2)[n]?
        = ((cs.flatMap (Call.openings i))[n]?).map fun op : Opening => op.greeting o
          ⟨(fun lib => (o.generateHandleGivenKey lib).2)^[n] (libs i),
            BitVec.ofNat (8 * noncelen) n⟩ := by
  obtain ⟨x, outs, hfeed, hlen, hall⟩ := feed_eq pl cs (init_shows (o := o) libs)
  refine ⟨x, outs, hfeed, hlen, fun i n => ?_⟩
  rw [hall i, getElem?_greetings]
  show Option.map (fun op : Opening => op.greeting o ((Own.next o)^[n] ⟨libs i, 0⟩)) _ = _
  rw [next_iterate]

end Astraeus_Client

end MoonState
