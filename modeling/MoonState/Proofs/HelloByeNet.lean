/-
Every session of the text HelloBye completes.

The connections of a net are each at a stage, and what a machine does with a batch is
one message after the other, so they are at a stage in every state of a run
(`Net.Holds`).  The rest is read off the stages: by which 5-tuple a message is
identified, what each side made of the other's line, and that nothing is left where no
message is.
-/
import MoonState.Proofs.Completion
import MoonState.Proofs.Stages

namespace MoonState.HelloBye

open Headers HelloBye2 IPv4_5TupleL2Ident

/-! ### Batches -/

section batch

variable {D R : Type} [Inhabited D] {u : Service ConnectionID D Packet R}

theorem replies_cons (p : Packet) (ps : List Packet) (out : Packet × Bool)
    (outs : List (Packet × Bool)) :
    replies (p :: ps) (out :: outs) = replies [p] [out] ++ replies ps outs := by
  unfold replies
  rw [← List.filterMap_append]
  rfl

/-- **A batch is one message after the other.**  `Inv` is of what the machine holds, of the
messages to it and from it, and of what it sent and decided. -/
theorem batch_keeps
    (Inv : Held ConnectionID D R → Multiset Packet → Multiset Packet →
      List (ConnectionID × Packet) → List Verdict → Prop)
    (vd : ConnectionID → State D → Packet → Bool → Verdict)
    (hone : ∀ h p m out log vs, Inv h (p ::ₘ m) out log vs → ∃ id st a h', u.Serves h p id st a h' ∧
      Inv h' m (out + sends (a.pkt, !a.free)) (log ++ replies [p] [(a.pkt, !a.free)])
        (vs ++ [vd id st.woken p !a.free]))
    (ps : List Packet) {h : Held ConnectionID D R} {m out : Multiset Packet}
    {log : List (ConnectionID × Packet)} {vs : List Verdict} (hinv : Inv h (ps + m) out log vs) :
    ∃ h' outs, u.receiveAll ps h = some (h', outs) ∧
      Inv h' m (out + sent outs) (log ++ replies ps outs)
        (vs ++ (u.callsAll ps h).map fun c => vd c.1 c.2.1 c.2.2.1 c.2.2.2) := by
  induction ps generalizing h out log vs with
  | nil =>
      refine ⟨h, [], rfl, ?_⟩
      show Inv h m (out + 0) (log ++ []) (vs ++ [])
      rw [add_zero, List.append_nil, List.append_nil]
      rwa [show ((([] : List Packet) : Multiset Packet) + m) = m from zero_add m] at hinv
  | cons p ps ih =>
      rw [← Multiset.cons_coe, Multiset.cons_add] at hinv
      obtain ⟨id, st, a, h₁, hserves, hinv₁⟩ := hone h p _ out log vs hinv
      obtain ⟨h', outs, hall, hinv'⟩ := ih hinv₁
      refine ⟨h', (a.pkt, !a.free) :: outs, ?_, ?_⟩
      · rw [Service.receiveAll, hserves.receive]
        dsimp only
        rw [hall]
        rfl
      · rw [Service.callsAll, hserves.receive, hserves.served, replies_cons, sent_cons, ← add_assoc,
          ← List.append_assoc, List.map_append, ← List.append_assoc]
        exact hinv'

end batch

/-- The reply to a message. -/
theorem replies_sent {p q : Packet} {id : ConnectionID}
    (h : IPv4_5TupleL2Ident.identify p.data = some id) : replies [p] [(q, true)] = [(id, q)] := by
  unfold replies
  simp [h]

theorem replies_freed (p q : Packet) : replies [p] [(q, false)] = [] := by
  unfold replies
  simp

/-- Whatever a machine sends is a reply. -/
theorem length_replies {D R : Type} [Inhabited D] {u : Service ConnectionID D Packet R}
    (hident : ∀ p, u.ident p = IPv4_5TupleL2Ident.identify p.data) (ps : List Packet)
    {h h' : Held ConnectionID D R} {outs : List (Packet × Bool)}
    (hall : u.receiveAll ps h = some (h', outs)) : (replies ps outs).length = (sent outs).length := by
  induction ps generalizing h outs with
  | nil =>
      obtain ⟨-, rfl⟩ := Prod.mk.inj (Option.some.inj hall)
      rfl
  | cons p ps ih =>
      rw [Service.receiveAll] at hall
      cases hrec : u.receive h p with
      | none => simp [hrec] at hall
      | some r =>
          obtain ⟨h₁, q, mark⟩ := r
          rw [hrec] at hall
          obtain ⟨⟨h₂, outs'⟩, hall', heq⟩ := Option.map_eq_some_iff.mp hall
          obtain ⟨rfl, rfl⟩ := Prod.mk.inj heq
          have hone : (replies [p] [(q, mark)]).length = (sent [(q, mark)]).length := by
            cases mark with
            | false => rw [replies_freed]; rfl
            | true =>
                cases hi : IPv4_5TupleL2Ident.identify p.data with
                | some i => rw [replies_sent hi]; rfl
                | none =>
                    -- such a packet is marked not to be sent
                    unfold Service.receive at hrec
                    rw [hident, hi] at hrec
                    simp at hrec
          have hsent : sent ((q, mark) :: outs') = sent [(q, mark)] ++ sent outs' := by
            cases mark <;> rfl
          rw [replies_cons, hsent, List.length_append, List.length_append, hone, ih hall']

namespace View

variable {v : View} {m : Multiset Packet}

/-- A batch for the server. -/
theorem Staged.server_batch (h : v.Staged) (ps : List Packet) (hflight : v.toServer = ps + m) :
    ∃ h' outs, Server.service.receiveAll ps v.server = some (h', outs) ∧
      ({ v with
        server := h'
        toServer := m
        toClient := v.toClient + sent outs
        fromServer := v.fromServer ++ replies ps outs
        verdicts := v.verdicts ++ (Server.service.callsAll ps v.server).map fun c =>
          Server.verdict c.1 c.2.1 c.2.2.1 } : View).Staged := by
  refine batch_keeps (fun g toServer toClient log vs => ({ v with
      server := g, toServer := toServer, toClient := toClient, fromServer := log
      verdicts := vs } : View).Staged)
    (fun id st p _ => Server.verdict id st p) ?_ ps (by rw [← hflight]; exact h)
  intro g p m' out log vs hg
  obtain ⟨c, st, a, h', hi, hserves, hfree, hstaged⟩ := hg.server_move rfl
  refine ⟨c.reverse, st, a, h', hserves, ?_⟩
  rw [hfree, Bool.not_false, replies_sent hi, show sends (a.pkt, true) = {a.pkt} from rfl,
    add_comm out, Multiset.singleton_add]
  exact hstaged

/-- A batch for the client. -/
theorem Staged.client_batch (h : v.Staged) (ps : List Packet) (hflight : v.toClient = ps + m) :
    ∃ h' outs, Client.service.receiveAll ps v.client = some (h', outs) ∧
      ({ v with
        client := h'
        toClient := m
        toServer := v.toServer + sent outs
        fromClient := v.fromClient ++ replies ps outs
        verdicts := v.verdicts ++ (Client.service.callsAll ps v.client).map fun c =>
          Client.verdict c.1 c.2.1 c.2.2.1 c.2.2.2 } : View).Staged := by
  refine batch_keeps (fun g toClient toServer log vs => ({ v with
      client := g, toClient := toClient, toServer := toServer, fromClient := log
      verdicts := vs } : View).Staged)
    Client.verdict ?_ ps (by rw [← hflight]; exact h)
  intro g p m' out log vs hg
  obtain ⟨c, st, a, h', hi, hserves, hstaged⟩ := hg.client_move rfl
  refine ⟨c, st, a, h', hserves, ?_⟩
  cases hfree : a.free with
  | false =>
      rw [hfree] at hstaged
      rw [Bool.not_false, replies_sent hi, show sends (a.pkt, true) = {a.pkt} from rfl,
        add_comm out, Multiset.singleton_add]
      exact hstaged
  | true =>
      rw [hfree] at hstaged
      rw [Bool.not_true, replies_freed, show sends (a.pkt, false) = 0 from rfl, add_zero,
        List.append_nil]
      exact hstaged

end View

/-! ### The net -/

/-- **A connection is opened**: its first message, and the session in the pool. -/
theorem Client.connect_eq (pl : Service.Platform)
    {x : Instance ConnectionID (Ptr Block) Packet Program} (hruns : Client.service.Runs x.sm)
    {config : HelloByeClientConfig} (hconfig : x.rest.config = some config) (ip : UInt32)
    (port : UInt16) (pkt : Packet) :
    ∃ (k : Fin 10) (y : Message (cID config ip port).reverse "CLIENT HELLO:" k)
      (x' : Instance ConnectionID (Ptr Block) Packet Program),
      connect pl x ip port [pkt] = .ok (x', [(y.pkt, true)]) ∧ Client.service.Runs x'.sm ∧
      x'.held.table = x.held.table ∧
      x'.held.pool = FMap.insertNew (cID config ip port) (greeting k ip port) x.held.pool := by
  obtain ⟨k, w', hw, hw'⟩ := x.rest.cookie_eq
  obtain ⟨y, hy⟩ := Client.runHello_sends (k := k) (hw'.trans hconfig) ip port pkt
  have hcreate : create ip port x.rest = some (.to ⟨ofInt k.val, ip, port⟩, w') := by
    unfold create HelloByeClientHello.new
    rw [hw]
    rfl
  have hopen : ((create ip port x.rest).bind fun d => Client.service.openWith (cID config ip port)
      (State.new HelloByeClient.Hello d.1) { x.held with rest := d.2 } pkt)
      = some (⟨x.sm.stateTable,
        FMap.insertNew (cID config ip port) (greeting k ip port) x.connPool, w'⟩, y.pkt, true) := by
    rw [hcreate, Option.bind_some]
    show (Option.map _ (runHello (.to ⟨ofInt k.val, ip, port⟩) pkt w')) = _
    rw [hy]
    rfl
  have hconnect := Instance.connect_eq pl hruns (cID config ip port) HelloByeClient.Hello
    (create ip port) pkt [] (by decide)
  rw [hopen] at hconnect
  obtain ⟨x', hx', hheld, hruns'⟩ := hconnect
  refine ⟨k, y, x', ?_, hruns', by rw [hheld]; rfl, by rw [hheld]; rfl⟩
  unfold connect
  rw [hconfig]
  exact hx'

namespace Net

variable (pl : Service.Platform) {wc ws : Program} {n n' : Net} {a : Act}

def view (n : Net) : View where
  client := n.client.held
  server := n.server.held
  toServer := n.toServer
  toClient := n.toClient
  opened := n.opened
  fromClient := n.fromClient
  fromServer := n.fromServer
  verdicts := n.verdicts

/-- The machines run, and every connection is at a stage. -/
structure Holds (n : Net) : Prop where
  clientRuns : Client.service.Runs n.client.sm
  serverRuns : Server.service.Runs n.server.sm
  staged : n.view.Staged

/-- The act delivers messages. -/
def Delivers : Act → Prop
  | .client _ | .server _ => True
  | .config _ _ | .connect _ _ _ => False

/-- The calls of the act are ones the programs can make, and no 5-tuple is opened again. -/
def Fits (n : Net) : Act → Prop
  | .config _ _ => True
  | .connect dstIP srcPort _ =>
    ∃ config, n.client.rest.config = some config ∧ Client.cID config dstIP srcPort ∉ n.opened
  | .client picks =>
    0 < (pick picks n.toClient).1.length ∧ (pick picks n.toClient).1.length < 2 ^ 32
  | .server picks =>
    0 < (pick picks n.toServer).1.length ∧ (pick picks n.toServer).1.length < 2 ^ 32

theorem start_holds (wc ws : Program) : (start wc ws).Holds := by
  refine ⟨⟨rfl, rfl, rfl, rfl, rfl, rfl⟩, ⟨rfl, rfl, rfl, rfl, rfl, rfl⟩, ⟨?_, ?_, ?_, ?_⟩⟩
  · exact fun p hp => absurd hp (Multiset.notMem_zero p)
  · exact fun p hp => absurd hp (Multiset.notMem_zero p)
  · exact fun i hi => absurd hi List.not_mem_nil
  · exact fun c => ⟨.unopened, rfl⟩

/-- The client gets a batch. -/
theorem Holds.client_step (h : n.Holds) (picks : List Nat) (hfits : n.Fits (.client picks)) :
    ∃ n', n.step pl (.client picks) = .ok n' ∧ n'.Holds := by
  obtain ⟨hpos, hlt⟩ := hfits
  obtain ⟨h', outs, hall, hstaged⟩ := h.staged.client_batch _ (pick_eq picks n.toClient)
  have hprocess := Instance.process_eq pl h.clientRuns _ hpos hlt
  have hcalls := Instance.calls_eq pl h.clientRuns _ hpos hlt
    (by rw [show n.client.held = n.view.client from rfl, hall]; exact Option.some_ne_none _)
  rw [show n.client.held = n.view.client from rfl, hall] at hprocess
  obtain ⟨x', hx', rfl, hruns⟩ := hprocess
  refine ⟨{ n with
      client := x'
      toClient := (pick picks n.toClient).2
      toServer := n.toServer ++ sent outs
      fromClient := n.fromClient ++ replies (pick picks n.toClient).1 outs
      verdicts := n.verdicts ++ _ }, ?_, hruns, h.serverRuns, hstaged⟩
  show Except.map _ (Instance.process _ _ _ _) = _
  rw [hx', hcalls]
  rfl

/-- The server gets a batch. -/
theorem Holds.server_step (h : n.Holds) (picks : List Nat) (hfits : n.Fits (.server picks)) :
    ∃ n', n.step pl (.server picks) = .ok n' ∧ n'.Holds := by
  obtain ⟨hpos, hlt⟩ := hfits
  obtain ⟨h', outs, hall, hstaged⟩ := h.staged.server_batch _ (pick_eq picks n.toServer)
  have hprocess := Instance.process_eq pl h.serverRuns _ hpos hlt
  have hcalls := Instance.calls_eq pl h.serverRuns _ hpos hlt
    (by rw [show n.server.held = n.view.server from rfl, hall]; exact Option.some_ne_none _)
  rw [show n.server.held = n.view.server from rfl, hall] at hprocess
  obtain ⟨x', hx', rfl, hruns⟩ := hprocess
  refine ⟨{ n with
      server := x'
      toServer := (pick picks n.toServer).2
      toClient := n.toClient ++ sent outs
      fromServer := n.fromServer ++ replies (pick picks n.toServer).1 outs
      verdicts := n.verdicts ++ _ }, ?_, h.clientRuns, hruns, hstaged⟩
  show Except.map _ (Instance.process _ _ _ _) = _
  rw [hx', hcalls]
  rfl

/-- The client opens a connection. -/
theorem Holds.connect_step (h : n.Holds) (ip : UInt32) (port : UInt16) (pkt : Packet)
    (hfits : n.Fits (.connect ip port pkt)) :
    ∃ n', n.step pl (.connect ip port pkt) = .ok n' ∧ n'.Holds := by
  obtain ⟨config, hconfig, hnew⟩ := hfits
  obtain ⟨k, y, x', hx', hruns, htable, hpool⟩ :=
    Client.connect_eq pl h.clientRuns hconfig ip port pkt
  refine ⟨{ n with
      client := x'
      toServer := n.toServer ++ [y.pkt]
      opened := Client.cID config ip port :: n.opened
      fromClient := n.fromClient ++ [(Client.cID config ip port, y.pkt)] }, ?_, hruns,
    h.serverRuns, ?_⟩
  · unfold Net.step
    dsimp only
    rw [hconfig]
    dsimp only
    rw [hx']
    rfl
  · have hstaged := h.staged.connect hnew ip port y htable hpool
    have hflight : y.pkt ::ₘ (n.toServer : Multiset Packet)
        = (n.toServer ++ [y.pkt] : List Packet) := by
      rw [Multiset.cons_coe, Multiset.coe_eq_coe]
      exact (List.perm_append_singleton _ _).symm
    unfold View.afterConnect at hstaged
    rw [show n.view.toServer = (n.toServer : Multiset Packet) from rfl, hflight] at hstaged
    exact hstaged

/-- **A step that fits is done**, and leaves every connection at a stage. -/
theorem Holds.step (h : n.Holds) (hfits : n.Fits a) : ∃ n', n.step pl a = .ok n' ∧ n'.Holds := by
  cases a with
  | config srcIP dstPort =>
      exact ⟨_, rfl, h.clientRuns, h.serverRuns, h.staged.toServer, h.staged.toClient, h.staged.fine,
        h.staged.stage⟩
  | connect ip port pkt => exact h.connect_step pl ip port pkt hfits
  | client picks => exact h.client_step pl picks hfits
  | server picks => exact h.server_step pl picks hfits

/-- An act that was done did fit, if no 5-tuple was opened twice. -/
theorem Does.fits (h : n.Does pl a n') (hdistinct : n'.opened.Nodup) :
    n.Fits a ∧ n.opened.Nodup := by
  cases a with
  | config srcIP dstPort =>
      obtain rfl := Except.ok.inj h
      exact ⟨trivial, hdistinct⟩
  | connect ip port pkt =>
      unfold Does step at h
      dsimp only at h
      cases hconfig : n.client.rest.config with
      | none => simp [hconfig] at h
      | some config =>
          rw [hconfig] at h
          obtain ⟨⟨x, outs⟩, -, rfl⟩ := HelloBye2.Net.map_eq_ok h
          obtain ⟨hnew, hdistinct'⟩ := List.nodup_cons.mp hdistinct
          exact ⟨⟨config, hconfig, hnew⟩, hdistinct'⟩
  | client picks =>
      obtain ⟨⟨x, outs⟩, hx, rfl⟩ := HelloBye2.Net.map_eq_ok h
      exact ⟨Instance.process_fits pl hx, hdistinct⟩
  | server picks =>
      obtain ⟨⟨x, outs⟩, hx, rfl⟩ := HelloBye2.Net.map_eq_ok h
      exact ⟨Instance.process_fits pl hx, hdistinct⟩

/-- **Every connection is at a stage**, in every state of a run. -/
theorem holds_of_run (hrun : Steps (Does pl) (start wc ws) n) (hdistinct : n.opened.Nodup) :
    n.Holds := by
  induction hrun with
  | refl => exact start_holds wc ws
  | step a hrun hstep ih =>
      obtain ⟨hfits, hdistinct'⟩ := Does.fits pl hstep hdistinct
      obtain ⟨n'', hn'', hholds⟩ := (ih hdistinct').step pl hfits
      obtain rfl := Except.ok.inj (hn''.symm.trans hstep)
      exact hholds

/-! ### What a run comes to -/

/-- The messages of connection `c` are the four of a session with these cookies. -/
structure Exchange (n : Net) (c : ConnectionID) (k d : Int) : Prop where
  client : ∃ p p', logged c n.fromClient = [p, p'] ∧ Prints p "CLIENT HELLO:" k ∧
    Prints p' "CLIENT BYE:" d
  server : ∃ q q', logged c.reverse n.fromServer = [q, q'] ∧ Prints q "SERVER HELLO:" d ∧
    Prints q' "SERVER BYE:" k

/-- What holds all along.  The cookies of a verdict are those the function holds: its own, and the
one it read in a message of the other side. -/
structure Orderly (n : Net) : Prop where
  client : ∀ c p, (c, p) ∈ n.fromClient →
    c ∈ n.opened ∧ IPv4_5TupleL2Ident.identify p.data = some c.reverse
  server : ∀ i p, (i, p) ∈ n.fromServer →
    i.reverse ∈ n.opened ∧ IPv4_5TupleL2Ident.identify p.data = some i.reverse
  accepts : ∀ i k d, .accepts i k d ∈ n.verdicts → n.Exchange i.reverse k d
  completes : ∀ c k d sent, .completes c k d sent ∈ n.verdicts →
    sent = false ∧ .accepts c.reverse k d ∈ n.verdicts
  rejects : ∀ i, .rejects i ∉ n.verdicts

/-- Every session has ended well, and nothing is left of any. -/
structure Completed (n : Net) : Prop where
  completes : ∀ c ∈ n.opened, ∃ k d, .completes c k d false ∈ n.verdicts
  table : n.client.sm.stateTable = ∅
  pool : n.client.connPool = ∅
  serverTable : n.server.sm.stateTable = ∅
  serverPool : n.server.connPool = ∅

theorem Holds.orderly (h : n.Holds) : n.Orderly := by
  refine ⟨fun c p hp => ?_, fun i p hp => ?_, fun i k d hacc => ?_, fun c k d sent hdone => ?_,
    h.staged.fine⟩
  · have hmem : p ∈ (n.view.spot c).fromClient := mem_logged.mpr hp
    obtain ⟨x, hx⟩ := h.staged.stage c
    rw [hx] at hmem
    obtain ⟨hopened, hident⟩ := x.of_mem_fromClient hmem
    rw [← hx] at hopened
    exact And.intro (of_decide_eq_true hopened) hident
  · have hmem : p ∈ (n.view.spot i.reverse).fromServer := mem_logged.mpr hp
    obtain ⟨x, hx⟩ := h.staged.stage i.reverse
    rw [hx] at hmem
    obtain ⟨hopened, hident⟩ := x.of_mem_fromServer hmem
    rw [← hx] at hopened
    exact And.intro (of_decide_eq_true hopened) hident
  · have hmem : (k, d) ∈ (n.view.spot i.reverse).accepted := mem_accepted.mpr hacc
    obtain ⟨x, hx⟩ := h.staged.stage i.reverse
    rw [hx] at hmem
    have hmsgs := x.of_mem_accepted hmem
    rw [← hx] at hmsgs
    exact ⟨hmsgs.1, hmsgs.2⟩
  · have hmem : (k, d, sent) ∈ (n.view.spot c).completed := mem_completed.mpr hdone
    obtain ⟨x, hx⟩ := h.staged.stage c
    rw [hx] at hmem
    obtain ⟨hsent, hacc⟩ := x.of_mem_completed hmem
    rw [← hx] at hacc
    exact And.intro hsent (mem_accepted.mp hacc)

theorem Holds.completed (h : n.Holds) (hserver : n.toServer = []) (hclient : n.toClient = []) :
    n.Completed := by
  have hend : ∀ c, ((n.view.spot c).pool = none ∧ (n.view.spot c).table = none ∧
      (n.view.spot c).server = none) ∧ ((n.view.spot c).opened = true →
        ∃ k d, (k, d, false) ∈ (n.view.spot c).completed) := by
    intro c
    obtain ⟨x, hx⟩ := h.staged.stage c
    have hserver' : (n.view.spot c).toServer = 0 := by
      unfold View.spot view
      rw [hserver]
      rfl
    have hclient' : (n.view.spot c).toClient = 0 := by
      unfold View.spot view
      rw [hclient]
      rfl
    rw [hx] at hserver' hclient' ⊢
    exact x.finished hserver' hclient'
  refine ⟨fun c hc => ?_, ?_, ?_, ?_, ?_⟩
  · obtain ⟨k, d, hmem⟩ := (hend c).2 (decide_eq_true hc)
    exact ⟨k, d, mem_completed.mp hmem⟩
  · exact eq_empty fun c => (hend c).1.2.1
  · exact eq_empty fun c => (hend c).1.1
  · exact eq_empty fun i => (hend i.reverse).1.2.2
  · refine eq_empty fun i => ?_
    obtain ⟨x, hx⟩ := h.staged.stage i.reverse
    exact (congrArg Spot.serverPool hx).trans x.serverPool_eq

/-! ### The deliveries end -/

/-- A log of connections with a few entries each is short. -/
theorem length_le_of_logged {b : Nat} (ids : List ConnectionID) {l : List (ConnectionID × Packet)}
    (hmem : ∀ i p, (i, p) ∈ l → i ∈ ids) (hle : ∀ i, (logged i l).length ≤ b) :
    l.length ≤ b * ids.length := by
  induction ids generalizing l with
  | nil =>
      have hnil : l = [] := List.eq_nil_iff_forall_not_mem.mpr fun x hx =>
        List.not_mem_nil (hmem x.1 x.2 hx)
      rw [hnil]
      exact Nat.zero_le _
  | cons i ids ih =>
      have hsplit := List.length_eq_length_filter_add (l := l) fun x => decide (x.1 = i)
      have hi := hle i
      have hrest : (l.filter fun x => !decide (x.1 = i)).length ≤ b * ids.length := by
        refine ih (fun j p hj => ?_) fun j => le_trans ?_ (hle j)
        · obtain ⟨hj, hne⟩ := List.mem_filter.mp hj
          exact (List.mem_cons.mp (hmem j p hj)).resolve_left (by simpa using hne)
        · unfold logged
          rw [List.length_map, List.length_map]
          exact (List.filter_sublist.filter _).length_le
      rw [logged, List.length_map] at hi
      rw [List.length_cons, Nat.mul_succ]
      omega

/-- No more than four messages are sent in a connection. -/
theorem Holds.sent_le (h : n.Holds) :
    n.fromClient.length + n.fromServer.length ≤ 4 * n.opened.length := by
  have hlog := h.orderly
  have hclient : n.fromClient.length ≤ 2 * n.opened.length := by
    refine length_le_of_logged n.opened (fun c p hp => (hlog.client c p hp).1) fun c => ?_
    obtain ⟨x, hx⟩ := h.staged.stage c
    have hle := x.length_le.1
    rwa [← hx] at hle
  have hserver : n.fromServer.length ≤ 2 * (n.opened.map ConnectionID.reverse).length := by
    refine length_le_of_logged _ (fun i p hp => ?_) fun i => ?_
    · exact List.mem_map.mpr ⟨i.reverse, (hlog.server i p hp).1, rfl⟩
    · obtain ⟨x, hx⟩ := h.staged.stage i.reverse
      have hle := x.length_le.2
      rwa [← hx] at hle
  rw [List.length_map] at hserver
  omega

/-- What is left to be delivered, in twos: a message that is answered counts for two more. -/
def due (n : Net) : Nat :=
  8 * n.opened.length + n.toServer.length + n.toClient.length
    - 2 * (n.fromClient.length + n.fromServer.length)

theorem length_pick {α : Type} (ks : List Nat) (l : List α) :
    l.length = (pick ks l).1.length + (pick ks l).2.length := by
  have h := congrArg Multiset.card (pick_eq ks l)
  rwa [Multiset.card_add, Multiset.coe_card, Multiset.coe_card, Multiset.coe_card] at h

variable {pl} in
/-- What a machine was handed, and what it sent. -/
theorem process_lengths {D R : Type} [Inhabited D] {u : Service ConnectionID D Packet R}
    (hident : ∀ p, u.ident p = IPv4_5TupleL2Ident.identify p.data)
    {x : Instance ConnectionID D Packet R} (hruns : u.Runs x.sm) {ps : List Packet}
    {r : Instance ConnectionID D Packet R × List (Packet × Bool)} (h : x.process u pl ps = .ok r) :
    0 < ps.length ∧ (replies ps r.2).length = (sent r.2).length := by
  obtain ⟨hpos, hlt⟩ := Instance.process_fits pl h
  have hprocess := Instance.process_eq pl hruns ps hpos hlt
  cases hall : u.receiveAll ps x.held with
  | none =>
      rw [hall] at hprocess
      obtain ⟨e, he⟩ := hprocess
      simp [he] at h
  | some o =>
      rw [hall] at hprocess
      obtain ⟨x', hx', -⟩ := hprocess
      obtain rfl := Except.ok.inj (hx'.symm.trans h)
      exact And.intro hpos (length_replies hident ps hall)

theorem Delivers.opened (hdelivers : Delivers a) (hstep : n.Does pl a n') :
    n'.opened = n.opened := by
  cases a with
  | config srcIP dstPort => exact hdelivers.elim
  | connect ip port pkt => exact hdelivers.elim
  | client picks =>
      obtain ⟨r, -, rfl⟩ := HelloBye2.Net.map_eq_ok hstep
      rfl
  | server picks =>
      obtain ⟨r, -, rfl⟩ := HelloBye2.Net.map_eq_ok hstep
      rfl

/-- **A delivery leaves less to be delivered.** -/
theorem Holds.due_lt (h : n.Holds) (h' : n'.Holds) (hdelivers : Delivers a)
    (hstep : n.Does pl a n') : n'.due < n.due := by
  have hle := h'.sent_le
  cases a with
  | config srcIP dstPort => exact hdelivers.elim
  | connect ip port pkt => exact hdelivers.elim
  | client picks =>
      obtain ⟨⟨x, outs⟩, hx, rfl⟩ := HelloBye2.Net.map_eq_ok hstep
      obtain ⟨hpos, hsent⟩ := process_lengths (fun _ => rfl) h.clientRuns hx
      have hpick := length_pick picks n.toClient
      unfold due
      simp only [List.length_append] at hle hsent ⊢
      omega
  | server picks =>
      obtain ⟨⟨x, outs⟩, hx, rfl⟩ := HelloBye2.Net.map_eq_ok hstep
      obtain ⟨hpos, hsent⟩ := process_lengths (fun _ => rfl) h.serverRuns hx
      have hpick := length_pick picks n.toServer
      unfold due
      simp only [List.length_append] at hle hsent ⊢
      omega

/-- **The deliveries end**: there is no endless row of them. -/
theorem Holds.deliveries_end (h : n.Holds) (hdistinct : n.opened.Nodup) (f : Nat → Net)
    (hstart : f 0 = n) (hf : ∀ i, ∃ a, Delivers a ∧ (f i).Does pl a (f (i + 1))) : False := by
  have hall : ∀ i, (f i).Holds ∧ (f i).opened = n.opened ∧ (f i).due + i ≤ n.due := by
    intro i
    induction i with
    | zero =>
        rw [hstart]
        exact ⟨h, rfl, Nat.le_refl _⟩
    | succ i ih =>
        obtain ⟨hi, hopened, hdue⟩ := ih
        obtain ⟨a, hdelivers, hstep⟩ := hf i
        have hsame : (f (i + 1)).opened = (f i).opened := Delivers.opened pl hdelivers hstep
        obtain ⟨hfits, -⟩ := Does.fits pl hstep (by rw [hsame, hopened]; exact hdistinct)
        obtain ⟨n'', hn'', hholds⟩ := hi.step pl hfits
        obtain rfl := Except.ok.inj (hn''.symm.trans hstep)
        have hlt := hi.due_lt pl hholds hdelivers hstep
        exact ⟨hholds, hsame.trans hopened, by omega⟩
  have hlast := (hall (n.due + 1)).2.2
  omega

/-- **Completion.**  In every state of a run that opened no 5-tuple twice each message was
identified as it should be, each side has read the cookies of the other, and no session was
rejected; what fits is done; the deliveries end; and when no message is left every session has
completed. -/
theorem sessions_complete (hrun : Steps (Does pl) (start wc ws) n) (hdistinct : n.opened.Nodup) :
    n.Orderly ∧ (∀ a, n.Fits a → ∃ n', n.Does pl a n') ∧
    (∀ f : Nat → Net, f 0 = n → ¬ ∀ i, ∃ a, Delivers a ∧ (f i).Does pl a (f (i + 1))) ∧
    (n.toServer = [] → n.toClient = [] → n.Completed) := by
  have h := holds_of_run pl hrun hdistinct
  refine ⟨h.orderly, fun a hfits => ?_, fun f hstart hf => h.deliveries_end pl hdistinct f hstart hf,
    h.completed⟩
  obtain ⟨n', hn', -⟩ := h.step pl hfits
  exact ⟨n', hn'⟩

/-- The messages can be delivered until none is left. -/
theorem Holds.drains (h : n.Holds) (hdistinct : n.opened.Nodup) : ∃ n', Steps (Does pl) n n' ∧
    n'.opened = n.opened ∧ n'.toServer = [] ∧ n'.toClient = [] := by
  induction hdue : n.due using Nat.strong_induction_on generalizing n with
  | _ due ih =>
    have hnext : ∀ a, Delivers a → n.Fits a → ∃ n', Steps (Does pl) n n' ∧
        n'.opened = n.opened ∧ n'.toServer = [] ∧ n'.toClient = [] := by
      intro a hdelivers hfits
      obtain ⟨n₁, hstep, h₁⟩ := h.step pl hfits
      have hopened := Delivers.opened pl hdelivers hstep
      obtain ⟨n', hsteps, hopened', hend⟩ := ih n₁.due (hdue ▸ h.due_lt pl h₁ hdelivers hstep) h₁
        (by rw [hopened]; exact hdistinct) rfl
      exact ⟨n', (Steps.refl.step a hstep).trans hsteps, hopened'.trans hopened, hend⟩
    cases hserver : n.toServer with
    | cons p ps =>
        refine hnext (.server [0]) trivial ?_
        unfold Fits
        rw [hserver]
        exact And.intro Nat.zero_lt_one (by decide : 1 < 2 ^ 32)
    | nil =>
        cases hclient : n.toClient with
        | cons p ps =>
            refine hnext (.client [0]) trivial ?_
            unfold Fits
            rw [hclient]
            exact And.intro Nat.zero_lt_one (by decide : 1 < 2 ^ 32)
        | nil => exact ⟨n, .refl, rfl, hserver, hclient⟩

/-- The client is configured, and opens a connection. -/
theorem Holds.opens (h : n.Holds) (srcIP ip : UInt32) (dstPort port : UInt16)
    (hnew : Client.cID ⟨srcIP, dstPort⟩ ip port ∉ n.opened) : ∃ n', n'.Holds ∧
    Steps (Does pl) n n' ∧ n'.opened = Client.cID ⟨srcIP, dstPort⟩ ip port :: n.opened := by
  obtain ⟨n₁, hstep₁, h₁⟩ := h.step pl (a := .config srcIP dstPort) trivial
  obtain rfl := Except.ok.inj hstep₁
  obtain ⟨n', hstep, h'⟩ := h₁.step pl (a := .connect ip port default) ⟨_, rfl, hnew⟩
  obtain ⟨r, -, hr⟩ := HelloBye2.Net.map_eq_ok hstep
  exact ⟨n', h', (Steps.refl.step _ hstep₁).step _ hstep, by rw [← hr]⟩

/-- Two sessions, of the same two machines. -/
theorem sessions_complete_two : ∃ n,
    Steps (Does quiet) (start ⟨fun _ => 5, none⟩ ⟨fun _ => 3, none⟩) n ∧
    n.opened = [Client.cID ⟨1, 2⟩ 9 7, Client.cID ⟨1, 2⟩ 9 8] ∧ n.Orderly ∧ n.Completed := by
  obtain ⟨n₁, h₁, hsteps₁, hopened₁⟩ :=
    (start_holds ⟨fun _ => 5, none⟩ ⟨fun _ => 3, none⟩).opens quiet 1 9 2 8 List.not_mem_nil
  obtain ⟨n₂, h₂, hsteps₂, hopened₂⟩ := h₁.opens quiet 1 9 2 7 (by rw [hopened₁]; decide +kernel)
  have hopened : n₂.opened = [Client.cID ⟨1, 2⟩ 9 7, Client.cID ⟨1, 2⟩ 9 8] := by
    rw [hopened₂, hopened₁]
    rfl
  have hdistinct : n₂.opened.Nodup := by
    rw [hopened]
    decide +kernel
  obtain ⟨n, hsteps, hsame, hserver, hclient⟩ := h₂.drains quiet hdistinct
  have hrun := (hsteps₁.trans hsteps₂).trans hsteps
  obtain ⟨horderly, -, -, hcompleted⟩ := sessions_complete quiet hrun (by rw [hsame]; exact hdistinct)
  exact ⟨n, hrun, hsame.trans hopened, horderly, hcompleted hserver hclient⟩

end Net

end MoonState.HelloBye
