/-
Servers and clients of different versions.

HelloBye3 does what HelloBye2 does, and HelloBye3 with a mempool does what HelloBye3
does while there are objects left.  Put together, any version on any cores does what
HelloBye2 does (`server_alike`, `client_alike`).  So an exchange of any server with
any client goes like one of HelloBye2 with itself, message by message, until a
mempool has no object left (`Exchange.interop`).
-/
import MoonState.Model.Exchange
import MoonState.Proofs.Cores
import MoonState.Proofs.Reserved
import MoonState.Proofs.Versions

namespace MoonState

open HelloBye2 (pick sent)

/-! ### Services that are alike -/

namespace Service.Alike

variable {K D E F B R S T : Type} [DecidableEq K] [Inhabited D] [Inhabited E] [Inhabited F]
  {u : Service K D B R} {v : Service K E B S} {w : Service K F B T}
  {rel : StateID → D → E → Prop} {room : R → S → Prop}

omit [DecidableEq K] in
/-- The first one, where it stands for an object of the second. -/
theorem self {room : R → R → Prop} {v : Service K E B R} (hroom : ∀ r, room r r)
    (h : u.Alike v rel room fun _ => False) :
    u.Alike u (fun n d d' => d = d' ∧ ∃ e, rel n d e) Eq fun _ => False where
  ident := rfl
  startStateID := rfl
  endStateID := rfl
  listenToConnections := rfl
  newData := by
    rintro hlisten id r _ rfl
    rcases h.newData hlisten id r r (hroom r) with ⟨-, hc⟩ | ⟨d, r', e, s', hd, -, hrel, -⟩
    · exact hc.elim
    · exact Or.inr ⟨d, r', d, r', hd, hd, ⟨rfl, e, hrel⟩, rfl⟩
  answer := by
    rintro ⟨d, n, tid⟩ ⟨d', n', tid'⟩ b r _ ⟨hn, hd, e, hrel⟩ rfl
    obtain rfl : n = n' := hn
    obtain rfl : d = d' := hd
    obtain ⟨a, a', ha, -, -, -, -, -, hafter⟩ := h.answer ⟨d, n, tid⟩ ⟨e, n, tid⟩ b r r
      ⟨rfl, hrel⟩ (hroom r)
    exact ⟨a, a, ha, ha, rfl, rfl, rfl, rfl, fun hne => ⟨rfl, a'.stateData, hafter hne⟩⟩

omit [DecidableEq K] in
/-- The second one always has room. -/
theorem trans {rel' : StateID → E → F → Prop}
    {room' : S → T → Prop} {short : T → Prop} (h : u.Alike v rel room fun _ => False)
    (h' : v.Alike w rel' room' short) :
    u.Alike w (fun n d f => ∃ e, rel n d e ∧ rel' n e f) (fun r t => ∃ s, room r s ∧ room' s t)
      short where
  ident := h.ident.trans h'.ident
  startStateID := h.startStateID.trans h'.startStateID
  endStateID := h.endStateID.trans h'.endStateID
  listenToConnections := h.listenToConnections.trans h'.listenToConnections
  newData := by
    rintro hlisten id r t ⟨s, hrs, hst⟩
    rcases h.newData hlisten id r s hrs with ⟨-, hc⟩ | ⟨d, r', e, s', hd, he, hrel, hroom⟩
    · exact hc.elim
    · rcases h'.newData (h.listenToConnections ▸ hlisten) id s t hst with hshort |
        ⟨e', s'', f, t', he', hf, hrel', hroom'⟩
      · exact Or.inl hshort
      · obtain ⟨rfl, rfl⟩ := Prod.mk.inj (Option.some.inj (he.symm.trans he'))
        exact Or.inr ⟨d, r', f, t', hd, hf, ⟨e, hrel, h.startStateID ▸ hrel'⟩, s', hroom, hroom'⟩
  answer := by
    rintro st st'' b r t ⟨hn, e, hrel, hrel'⟩ ⟨s, hrs, hst⟩
    obtain ⟨a, a', ha, ha', hnew, hpkt, hfree, hroom, hafter⟩ :=
      h.answer st ⟨e, st.state, st.timeoutID⟩ b r s ⟨rfl, hrel⟩ hrs
    obtain ⟨a₁, a'', ha₁, ha'', hnew', hpkt', hfree', hroom', hafter'⟩ :=
      h'.answer ⟨e, st.state, st.timeoutID⟩ st'' b s t ⟨hn, hrel'⟩ hst
    obtain rfl := Option.some.inj (ha'.symm.trans ha₁)
    refine ⟨a, a'', ha, ha'', hnew.trans hnew', hpkt.trans hpkt', hfree.trans hfree',
      ⟨a'.rest, hroom, hroom'⟩, fun hne => ?_⟩
    have hstate : (after ⟨e, st.state, st.timeoutID⟩ a').state = (after st a).state := by
      show a'.newState.getD st.state = a.newState.getD st.state
      rw [hnew]
    have hne' : (after ⟨e, st.state, st.timeoutID⟩ a').state ≠ v.endStateID := by
      rw [hstate, ← h.endStateID]
      exact hne
    exact ⟨a'.stateData, hafter hne, hstate ▸ hafter' hne'⟩

end Service.Alike

/-! ### Cores that are alike -/

/-- Each core does what the same core of the other program does. -/
structure Cores.Alike {ι K D E B R S : Type} [DecidableEq K] (u : Service K D B R)
    (v : Service K E B S) (rel : StateID → D → E → Prop) (room : R → S → Prop)
    (x : Cores ι K D B R) (y : Cores ι K E B S) : Prop where
  core : ∀ i, (x.core i).Alike u v rel room (y.core i)
  pool : MapAlike rel x.connPool y.connPool
  rest : room x.rest y.rest

namespace Cores.Alike

variable {ι K D E B R S : Type} [DecidableEq ι] [DecidableEq K] {u : Service K D B R}
  {v : Service K E B S} {rel : StateID → D → E → Prop} {room : R → S → Prop} {x : Cores ι K D B R}
  {y : Cores ι K E B S}

omit [DecidableEq ι] in
theorem start {r : R} {s : S} (h : room r s) :
    Cores.Alike (ι := ι) u v rel room (Cores.start u r) (Cores.start v s) :=
  ⟨fun _ => Instance.Alike.start h, .empty, h⟩

/-- A core has left its part. -/
theorem put (h : x.Alike u v rel room y) (i : ι) {x' : Instance K D B R} {y' : Instance K E B S}
    (h' : x'.Alike u v rel room y') : (x.put i x').Alike u v rel room (y.put i y') := by
  refine ⟨fun j => ?_, h'.held.pool, h'.held.rest⟩
  rw [core_put, core_put]
  by_cases hj : j = i
  · rw [if_pos hj, if_pos hj]
    exact h'
  · rw [if_neg hj, if_neg hj]
    exact ⟨(h.core j).left, (h.core j).right, (h.core j).held.table, h'.held.pool, h'.held.rest⟩

variable [Inhabited D] [Inhabited E] [Inhabited B] {short : S → Prop} (pl : Service.Platform)

theorem process (h : x.Alike u v rel room y) (ha : u.Alike v rel room short) (i : ι)
    (inPkts : InPkts B) :
    ((∃ e, y.call v pl (.process i inPkts) = .error e) ∧
        ∃ y', Instance.Partway v pl inPkts.pkts (y.core i) y' ∧ short y'.rest) ∨
      ∃ x' y' outs, x.call u pl (.process i inPkts) = .ok (x', outs) ∧
        y.call v pl (.process i inPkts) = .ok (y', outs) ∧ x'.Alike u v rel room y' := by
  simp only [Cores.call]
  rcases ha.process pl (h.core i) inPkts.pkts inPkts.nonempty inPkts.fits with
    ⟨⟨e, he⟩, hshort⟩ | ⟨x', y', outs, hx', hy', h'⟩
  · exact Or.inl ⟨⟨e, by rw [he]; rfl⟩, hshort⟩
  · exact Or.inr ⟨_, _, outs, by rw [hx']; rfl, by rw [hy']; rfl, h.put i h'⟩

theorem connect (h : x.Alike u v rel room y) (ha : u.Alike v rel room short) (i : ι) (id : K)
    (state : StateID) {create : R → Option (D × R)} {create' : S → Option (E × S)}
    (hnew : ∀ r s, room r s → (create' s = none ∧ short s) ∨
      ∃ d r' e s', create r = some (d, r') ∧ create' s = some (e, s') ∧ rel state d e ∧ room r' s')
    (inPkts : InPkts B) :
    ((∃ e, y.call v pl (.connect i id state create' inPkts) = .error e) ∧
        ∃ y', Instance.Partway v pl inPkts.pkts (y.core i) y' ∧ short y'.rest) ∨
      ∃ x' y' outs, x.call u pl (.connect i id state create inPkts) = .ok (x', outs) ∧
        y.call v pl (.connect i id state create' inPkts) = .ok (y', outs) ∧
        x'.Alike u v rel room y' := by
  simp only [Cores.call]
  rcases ha.connect pl (h.core i) id state create create' hnew inPkts.pkts inPkts.nonempty
    inPkts.fits with ⟨⟨e, he⟩, hshort⟩ | ⟨x', y', outs, hx', hy', h'⟩
  · exact Or.inl ⟨⟨e, by rw [he]; rfl⟩, hshort⟩
  · exact Or.inr ⟨_, _, outs, by rw [hx']; rfl, by rw [hy']; rfl, h.put i h'⟩

end Cores.Alike

/-! ### The versions -/

namespace Version

variable {M : Type} (mempool : Mempool M) (config : HelloBye2.HelloBye2ClientConfig)

/-- The rest of a program of HelloBye2, and that of this version. -/
def room : (v : Version) → Rand → v.Rest M → Prop
  | helloBye2 => Eq
  | helloBye3 => Eq
  | helloBye3MemPool => fun r t => ∃ s, r = s ∧ s = t.1

theorem room_rest (v : Version) (r : Rand) (m : M) : v.room r (v.rest r m) := by
  cases v with
  | helloBye2 => rfl
  | helloBye3 => rfl
  | helloBye3MemPool => exact ⟨r, rfl, rfl⟩

/-- There is no object left. -/
def Empty : (v : Version) → v.Rest M → Prop
  | helloBye2 => fun _ => False
  | helloBye3 => fun _ => False
  | helloBye3MemPool => fun t => mempool.get t.2 = none

/-- The object of HelloBye2, and that of this version, of a connection in a state. -/
def SameServer : (v : Version) → StateID → Ptr HelloBye2.Server.Object → v.ServerData → Prop
  | helloBye2 => fun n d d' => d = d' ∧ ∃ e, Server.Same n d e
  | helloBye3 => Server.Same
  | helloBye3MemPool => fun n d f => ∃ e, Server.Same n d e ∧ HelloBye3MemPool.Server.Same n e f

def SameClient : (v : Version) → StateID → Ptr HelloBye2.Client.Object → v.ClientData → Prop
  | helloBye2 => fun n d d' => d = d' ∧ ∃ e, Client.Same config n d e
  | helloBye3 => Client.Same config
  | helloBye3MemPool => fun n d f =>
    ∃ e, Client.Same config n d e ∧ HelloBye3MemPool.Client.Same n e f

/-- **A server of any version does what HelloBye2 does.** -/
theorem server_alike (v : Version) : HelloBye2.Server.service.Alike (v.server mempool)
    v.SameServer (room v) (Empty mempool v) := by
  cases v with
  | helloBye2 => exact Server.alike.self fun _ => rfl
  | helloBye3 => exact Server.alike
  | helloBye3MemPool => exact Server.alike.trans (HelloBye3MemPool.Server.alike mempool)

/-- **A client of any version does what HelloBye2 does.** -/
theorem client_alike (v : Version) : (HelloBye2.Client.service config).Alike
    (v.client mempool config) (SameClient config v) (room v) (Empty mempool v) := by
  cases v with
  | helloBye2 => exact (Client.alike config).self fun _ => rfl
  | helloBye3 => exact Client.alike config
  | helloBye3MemPool => exact (Client.alike config).trans (HelloBye3MemPool.Client.alike mempool)

/-- What `connect` makes. -/
theorem create_alike (v : Version) (dstIP : UInt32) (srcPort : UInt16) (ident : UInt64) (r : Rand)
    (s : v.Rest M) (h : room v r s) :
    (v.create mempool config dstIP srcPort ident s = none ∧ Empty mempool v s) ∨
      ∃ d r' e s', HelloBye2.Client.create dstIP srcPort ident r = some (d, r') ∧
        v.create mempool config dstIP srcPort ident s = some (e, s') ∧
        SameClient config v Client.States.Hello d e ∧ room v r' s' := by
  have hsame : ∀ r : Rand, ∃ d e r', HelloBye2.Client.create dstIP srcPort ident r = some (d, r') ∧
      HelloBye3.Client.createHello config.srcIp dstIP srcPort config.dstPort ident r = some (e, r') ∧
      Client.Same config Client.States.Hello d e :=
    fun r => ⟨_, _, _, rfl, rfl, .hello _ _ rfl rfl rfl rfl rfl rfl⟩
  cases v with
  | helloBye2 =>
      obtain rfl : r = s := h
      obtain ⟨d, e, r', hd, -, hde⟩ := hsame r
      exact Or.inr ⟨d, r', d, r', hd, hd, ⟨rfl, e, hde⟩, rfl⟩
  | helloBye3 =>
      obtain rfl : r = s := h
      obtain ⟨d, e, r', hd, he, hde⟩ := hsame r
      exact Or.inr ⟨d, r', e, r', hd, he, hde, rfl⟩
  | helloBye3MemPool =>
      obtain ⟨_, rfl, rfl⟩ := h
      obtain ⟨d, e, r', hd, he, hde⟩ := hsame s.1
      show (HelloBye3MemPool.Client.createHello mempool config.srcIp dstIP srcPort config.dstPort
        ident s = none ∧ mempool.get s.2 = none) ∨ ∃ d r' e s', _ ∧
          HelloBye3MemPool.Client.createHello mempool config.srcIp dstIP srcPort config.dstPort
            ident s = some (e, s') ∧ _
      unfold HelloBye3MemPool.Client.createHello
      cases mempool.get s.2 with
      | none => exact Or.inl ⟨rfl, rfl⟩
      | some m =>
          refine Or.inr ⟨d, r', _, _, hd, rfl, ⟨e, hde, ?_⟩, r', rfl, ?_⟩
          · obtain ⟨rfl, -⟩ := Prod.mk.inj (Option.some.inj he)
            exact .hello _
          · exact (Prod.mk.inj (Option.some.inj he)).2.symm

end Version

/-! ### Exchanges -/

namespace Exchange

variable {ι κ M : Type} [DecidableEq ι] [DecidableEq κ] (mempool : Mempool M)
  (config : HelloBye2.HelloBye2ClientConfig) (pl : Service.Platform) (sv cv : Version)

/-- An exchange of HelloBye2 with itself. -/
abbrev Plain (ι κ : Type) : Type :=
  Exchange ι κ (Ptr HelloBye2.Server.Object) Rand (Ptr HelloBye2.Client.Object) Rand

/-- An exchange of these versions. -/
abbrev Mixed (ι κ M : Type) (sv cv : Version) : Type :=
  Exchange ι κ sv.ServerData (sv.Rest M) cv.ClientData (cv.Rest M)

/-- The same messages in flight, between machines that are alike. -/
structure Alike (n : Plain ι κ) (m : Mixed ι κ M sv cv) : Prop where
  server : n.server.Alike HelloBye2.Server.service (sv.server mempool) sv.SameServer sv.room m.server
  client : n.client.Alike (HelloBye2.Client.service config) (cv.client mempool config)
    (cv.SameClient config) cv.room m.client
  flight : n.flight = m.flight

/-- In this act a core finds no object left, after some of its packets. -/
def RunsOut (m : Mixed ι κ M sv cv) : Act ι κ → Prop
  | .server i picks => ∃ inPkts, received picks m.flight = some inPkts ∧ ∃ y,
    Instance.Partway (sv.server mempool) pl inPkts.pkts (m.server.core i) y ∧ sv.Empty mempool y.rest
  | .client j picks => ∃ inPkts, received picks m.flight = some inPkts ∧ ∃ y,
    Instance.Partway (cv.client mempool config) pl inPkts.pkts (m.client.core j) y ∧
      cv.Empty mempool y.rest
  | .connect j _ _ _ pkt => ∃ y,
    Instance.Partway (cv.client mempool config) pl [pkt] (m.client.core j) y ∧
      cv.Empty mempool y.rest
  | _ => False

omit [DecidableEq ι] [DecidableEq κ] in
/-- HelloBye2 has no mempool. -/
theorem not_runsOut (m : Mixed ι κ M .helloBye2 .helloBye2) (a : Act ι κ) :
    ¬ m.RunsOut mempool config pl .helloBye2 .helloBye2 a := by
  cases a with
  | server i picks => exact fun ⟨_, _, _, _, h⟩ => h
  | client j picks => exact fun ⟨_, _, _, _, h⟩ => h
  | connect j dstIP srcPort ident pkt => exact fun ⟨_, _, h⟩ => h
  | inject pkt => exact id
  | lose k => exact id

/-- The step of an exchange of these versions. -/
abbrev go (m : Mixed ι κ M sv cv) (a : Act ι κ) : Except Fault (Mixed ι κ M sv cv × Nat) :=
  m.step (Parties.of mempool config sv cv) pl a

section step

variable {D R E S : Type} [Inhabited D] [Inhabited E] (V : Parties D R E S)
  {n : Exchange ι κ D R E S} {picks : List Nat} {inPkts : InPkts Packet}

theorem step_server_idle (h : received picks n.flight = none) (i : ι) :
    n.step V pl (.server i picks) = .ok (n, 0) := by
  simp only [step]
  rw [h]

theorem step_client_idle (h : received picks n.flight = none) (j : κ) :
    n.step V pl (.client j picks) = .ok (n, 0) := by
  simp only [step]
  rw [h]

theorem step_server (h : received picks n.flight = some inPkts) (i : ι) :
    n.step V pl (.server i picks) = (n.server.call V.server pl (.process i inPkts)).map fun r =>
      ({ n with server := r.1, flight := (pick picks n.flight).2 ++ sent r.2 },
        inPkts.pkts.length) := by
  simp only [step]
  rw [h]

theorem step_client (h : received picks n.flight = some inPkts) (j : κ) :
    n.step V pl (.client j picks) = (n.client.call V.client pl (.process j inPkts)).map fun r =>
      ({ n with client := r.1, flight := (pick picks n.flight).2 ++ sent r.2 },
        inPkts.pkts.length) := by
  simp only [step]
  rw [h]

end step

variable {sv cv}

/-- **One act.** -/
theorem Alike.step {n : Plain ι κ} {m : Mixed ι κ M sv cv}
    (h : n.Alike mempool config sv cv m) (a : Act ι κ) :
    ((∃ e, m.go mempool config pl sv cv a = .error e) ∧ m.RunsOut mempool config pl sv cv a) ∨
      ∃ n' m' k, n.go mempool config pl .helloBye2 .helloBye2 a = .ok (n', k) ∧
        m.go mempool config pl sv cv a = .ok (m', k) ∧ n'.Alike mempool config sv cv m' := by
  have hrec : ∀ {picks o}, received picks m.flight = o → received picks n.flight = o :=
    fun ho => h.flight ▸ ho
  cases a with
  | server i picks =>
      cases ho : received picks m.flight with
      | none =>
          exact Or.inr ⟨n, m, 0, step_server_idle pl _ (hrec ho) i, step_server_idle pl _ ho i, h⟩
      | some inPkts =>
          rcases h.server.process pl (sv.server_alike mempool) i inPkts with ⟨⟨e, he⟩, hout⟩ |
            ⟨x, y, outs, hx, hy, hxy⟩
          · exact Or.inl ⟨⟨e, (step_server pl _ ho i).trans (congrArg (Except.map _) he)⟩,
              inPkts, ho, hout⟩
          · refine Or.inr ⟨_, _, inPkts.pkts.length,
              (step_server pl _ (hrec ho) i).trans (congrArg (Except.map _) hx),
              (step_server pl _ ho i).trans (congrArg (Except.map _) hy), hxy, h.client, ?_⟩
            show (pick picks n.flight).2 ++ _ = (pick picks m.flight).2 ++ _
            rw [h.flight]
  | client j picks =>
      cases ho : received picks m.flight with
      | none =>
          exact Or.inr ⟨n, m, 0, step_client_idle pl _ (hrec ho) j, step_client_idle pl _ ho j, h⟩
      | some inPkts =>
          rcases h.client.process pl (cv.client_alike mempool config) j inPkts with ⟨⟨e, he⟩, hout⟩ |
            ⟨x, y, outs, hx, hy, hxy⟩
          · exact Or.inl ⟨⟨e, (step_client pl _ ho j).trans (congrArg (Except.map _) he)⟩,
              inPkts, ho, hout⟩
          · refine Or.inr ⟨_, _, inPkts.pkts.length,
              (step_client pl _ (hrec ho) j).trans (congrArg (Except.map _) hx),
              (step_client pl _ ho j).trans (congrArg (Except.map _) hy), h.server, hxy, ?_⟩
            show (pick picks n.flight).2 ++ _ = (pick picks m.flight).2 ++ _
            rw [h.flight]
  | connect j dstIP srcPort ident pkt =>
      rcases h.client.connect pl (cv.client_alike mempool config) j ident Client.States.Hello
        (cv.create_alike mempool config dstIP srcPort ident) ⟨[pkt], Nat.zero_lt_one, length_one_fits pkt⟩ with
        ⟨⟨e, he⟩, hout⟩ | ⟨x, y, outs, hx, hy, hxy⟩
      · exact Or.inl ⟨⟨e, congrArg (Except.map _) he⟩, hout⟩
      · refine Or.inr ⟨_, _, 0, congrArg (Except.map _) hx, congrArg (Except.map _) hy, h.server,
          hxy, ?_⟩
        show n.flight ++ _ = m.flight ++ _
        rw [h.flight]
  | inject pkt => exact Or.inr ⟨_, _, 0, rfl, rfl, h.server, h.client, congrArg (· ++ [pkt]) h.flight⟩
  | lose k =>
      exact Or.inr ⟨_, _, 0, rfl, rfl, h.server, h.client, congrArg (List.eraseIdx · k) h.flight⟩

omit [DecidableEq ι] [DecidableEq κ] in
theorem start_alike (r s : Rand) (p q : M) : Alike mempool config sv cv
    (Exchange.start (ι := ι) (κ := κ) (Parties.of mempool config .helloBye2 .helloBye2) r s)
    (Exchange.start (Parties.of mempool config sv cv) (sv.rest r p) (cv.rest s q)) :=
  ⟨.start (sv.room_rest r p), .start (cv.room_rest s q), rfl⟩

variable (sv cv)

/-- The machines of two exchanges, core by core: every connection is in the same state. -/
def SameStates (n : Plain ι κ) (m : Mixed ι κ M sv cv) : Prop :=
  (∀ i, (n.server.core i).SameStates (m.server.core i)) ∧
    ∀ j, (n.client.core j).SameStates (m.client.core j)

/-- An exchange of these versions and one of HelloBye2 with itself. -/
theorem feed_mixed (r s : Rand) (p q : M) (acts : List (Act ι κ)) : ∃ n ks,
    feed (go mempool config pl .helloBye2 .helloBye2)
      (Exchange.start (Parties.of mempool config .helloBye2 .helloBye2) r s) acts = .ok (n, ks) ∧
    (((∃ e, feed (go mempool config pl sv cv) (Exchange.start (Parties.of mempool config sv cv)
          (sv.rest r p) (cv.rest s q)) acts = .error e) ∧
        ∃ pre a m os, pre ++ [a] <+: acts ∧
          feed (go mempool config pl sv cv) (Exchange.start (Parties.of mempool config sv cv)
            (sv.rest r p) (cv.rest s q)) pre = .ok (m, os) ∧
          m.RunsOut mempool config pl sv cv a) ∨
      ∃ m, feed (go mempool config pl sv cv) (Exchange.start (Parties.of mempool config sv cv)
          (sv.rest r p) (cv.rest s q)) acts = .ok (m, ks) ∧ n.Alike mempool config sv cv m) := by
  rcases feed_alike (fun (n : Plain ι κ) m a h => Alike.step mempool config pl h a) acts
    (start_alike mempool config r s p q) with ⟨-, -, a, m, -, -, -, hout⟩ | ⟨n, -, ks, hn, -, -⟩
  · exact absurd hout (not_runsOut mempool config pl m a)
  · refine ⟨n, ks, hn, ?_⟩
    rcases feed_alike (fun (n : Plain ι κ) (m : Mixed ι κ M sv cv) a h =>
      Alike.step mempool config pl h a) acts (start_alike mempool config r s p q) with hout | ⟨n', m, os, hn', hm, h⟩
    · exact Or.inl hout
    · obtain ⟨rfl, rfl⟩ := Prod.mk.inj (Except.ok.inj (hn.symm.trans hn'))
      exact Or.inr ⟨m, hm, h⟩

/-- No message ever has one of the idents that the tables keep for themselves: neither a forged
one nor an answer, and no connection is opened with one, as its hello is a message. -/
def Unreserved (r s : Rand) (acts : List (Act ι κ)) : Prop :=
  ∀ k n ks, feed (go mempool config pl .helloBye2 .helloBye2)
      (Exchange.start (Parties.of mempool config .helloBye2 .helloBye2) r s) (acts.take k)
        = .ok (n, ks) → ∀ pkt ∈ n.flight, HelloBye2.identifier.Avoids pkt

/-- **The versions work together.**

As long as no message has an ident that the tables keep for themselves, an exchange of
HelloBye2 with itself never faults, whatever happens on the network.  One of any server
with any client hands out the same messages at the same times, none of which has such an
ident either, and has every connection in the same state, unless one of its cores finds
no object left in its mempool.
-/
theorem interop (r s : Rand) (p q : M) (acts : List (Act ι κ))
    (hkeys : Unreserved mempool config pl r s acts) : ∃ n ks,
    feed (go mempool config pl .helloBye2 .helloBye2)
      (Exchange.start (Parties.of mempool config .helloBye2 .helloBye2) r s) acts = .ok (n, ks) ∧
    (((∃ e, feed (go mempool config pl sv cv) (Exchange.start (Parties.of mempool config sv cv)
          (sv.rest r p) (cv.rest s q)) acts = .error e) ∧
        ∃ pre a m os, pre ++ [a] <+: acts ∧
          feed (go mempool config pl sv cv) (Exchange.start (Parties.of mempool config sv cv)
            (sv.rest r p) (cv.rest s q)) pre = .ok (m, os) ∧
          m.RunsOut mempool config pl sv cv a) ∨
      ∃ m, feed (go mempool config pl sv cv) (Exchange.start (Parties.of mempool config sv cv)
          (sv.rest r p) (cv.rest s q)) acts = .ok (m, ks) ∧
        n.flight = m.flight ∧ SameStates sv cv n m ∧
        ∀ pkt ∈ m.flight, HelloBye2.identifier.Avoids pkt) := by
  obtain ⟨n, ks, hn, hout | ⟨m, hm, h⟩⟩ := feed_mixed mempool config pl sv cv r s p q acts
  · exact ⟨n, ks, hn, Or.inl hout⟩
  · have havoids : ∀ pkt ∈ n.flight, HelloBye2.identifier.Avoids pkt :=
      hkeys acts.length n ks (by rw [List.take_length]; exact hn)
    refine ⟨n, ks, hn, Or.inr ⟨m, hm, h.flight, ⟨fun i => (h.server.core i).sameStates,
      fun j => (h.client.core j).sameStates⟩, ?_⟩⟩
    rw [← h.flight]
    exact havoids

/-! ### A connection is opened, and the server answers -/

/-- The idents of the messages in flight. -/
def idents {D R E S : Type} : Except Fault (Exchange ι κ D R E S × List Nat) → List (Option UInt64)
  | .error _ => []
  | .ok (n, _) => n.flight.map identify

omit [DecidableEq ι] [DecidableEq κ] in
theorem avoids_of_idents {D R E S : Type} {x : Except Fault (Exchange ι κ D R E S × List Nat)}
    {n : Exchange ι κ D R E S} {ks : List Nat} {i : UInt64} {l : List (Option UInt64)}
    (hx : x = .ok (n, ks)) (hl : idents x = l) (h : ∀ o ∈ l, o = some i)
    (hi : ¬ HelloBye2.identifier.Reserves i) :
    ∀ pkt ∈ n.flight, HelloBye2.identifier.Avoids pkt := by
  subst hx hl
  intro pkt hpkt
  exact Identifier.avoids_of_identify (h _ (List.mem_map_of_mem hpkt)) hi

/-- No object is needed, and the clock stands still. -/
def noMempool : Mempool Unit := ⟨fun _ => none, id⟩

/-- A client opens connection 5, and the server answers. -/
def greeting : List (Act Unit Unit) := [.connect () 3 4 5 default, .server () [0]]

theorem greeting_unreserved :
    Unreserved noMempool ⟨1, 2⟩ Cores.calm id id greeting := by
  have hkey : ¬ HelloBye2.identifier.Reserves 5 := by decide
  intro k n ks hrun
  match k with
  | 0 => exact avoids_of_idents (l := []) hrun (by decide) (by simp) hkey
  | 1 => exact avoids_of_idents (l := [some 5]) hrun (by decide) (by simp) hkey
  | k + 2 =>
      have hall : greeting.take (k + 2) = greeting := List.take_of_length_le (by simp [greeting])
      rw [hall] at hrun
      exact avoids_of_idents (l := [some 5]) hrun (by decide) (by simp) hkey

/-- A HelloBye3 server answers a HelloBye2 client like one of its own version. -/
theorem interop_greeting : ∃ n ks,
    feed (go noMempool ⟨1, 2⟩ Cores.calm .helloBye2 .helloBye2)
      (Exchange.start (Parties.of noMempool ⟨1, 2⟩ .helloBye2 .helloBye2) id id) greeting
        = .ok (n, ks) ∧
    ∃ m, feed (go noMempool ⟨1, 2⟩ Cores.calm .helloBye3 .helloBye2)
      (Exchange.start (Parties.of noMempool ⟨1, 2⟩ .helloBye3 .helloBye2) id id) greeting
        = .ok (m, ks) ∧ n.flight = m.flight ∧ idents (Except.ok (m, ks)) = [some 5] := by
  have hidents : idents (feed (go noMempool ⟨1, 2⟩ Cores.calm .helloBye3 .helloBye2)
      (Exchange.start (Parties.of noMempool ⟨1, 2⟩ .helloBye3 .helloBye2) id id) greeting)
        = [some 5] := by decide
  obtain ⟨n, ks, hn, ⟨⟨e, he⟩, -⟩ | ⟨m, hm, hflight, -⟩⟩ :=
    interop noMempool ⟨1, 2⟩ Cores.calm .helloBye3 .helloBye2 id id () () greeting
      greeting_unreserved
  · have hnone := congrArg idents he
    exact absurd (hidents.symm.trans hnone) (by simp [idents])
  · refine ⟨n, ks, hn, m, hm, hflight, ?_⟩
    rw [← hm]
    exact hidents

end Exchange

end MoonState
