/-
The connections of the text HelloBye, stage by stage.

`Spot` is what there is of one connection in a net, and `Stage` is what there can be:
the messages so far, each with the cookie it has to have, and what the two sides keep.
At most one message of a connection is on its way.  Whoever gets it takes the
connection one stage on, and no other connection notices.
-/
import MoonState.Proofs.HelloNet
import MoonState.Proofs.Lines

namespace MoonState.HelloBye

open Headers HelloBye2 IPv4_5TupleL2Ident

/-! ### One connection of a net -/

/-- What there is to a net besides the setup of its machines. -/
structure View where
  client : Held ConnectionID (Ptr Block) Program
  server : Held ConnectionID (Ptr Server.Object) Program
  toServer : Multiset Packet
  toClient : Multiset Packet
  opened : List ConnectionID
  fromClient : List (ConnectionID × Packet)
  fromServer : List (ConnectionID × Packet)
  verdicts : List Verdict

/-- What there is of a connection. -/
structure Spot where
  opened : Bool
  pool : Option (State (Ptr Block))
  table : Option (State (Ptr Block))
  server : Option (State (Ptr Server.Object))
  serverPool : Option (State (Ptr Server.Object))
  toServer : Multiset Packet
  toClient : Multiset Packet
  fromClient : List Packet
  fromServer : List Packet
  accepted : List (Int × Int)
  completed : List (Int × Int × Bool)

/-- The messages of a connection. -/
def messages (id : ConnectionID) (m : Multiset Packet) : Multiset Packet :=
  m.filter fun p => IPv4_5TupleL2Ident.identify p.data = some id

/-- What a log has of a connection. -/
def logged (id : ConnectionID) (l : List (ConnectionID × Packet)) : List Packet :=
  (l.filter fun x => x.1 = id).map Prod.snd

namespace Verdict

/-- The cookies of a goodbye the server answers in this connection. -/
def accepted (id : ConnectionID) : Verdict → Option (Int × Int)
  | accepts i k d => if i = id then some (k, d) else none
  | _ => none

/-- The cookies of a session the client ends in this connection, and the mark of the packet. -/
def completed (id : ConnectionID) : Verdict → Option (Int × Int × Bool)
  | completes i k d sent => if i = id then some (k, d, sent) else none
  | _ => none

variable {id : ConnectionID} {k d : Int} {sent : Bool} {v : Verdict}

theorem accepted_eq_some : v.accepted id = some (k, d) ↔ v = .accepts id k d := by
  cases v with
  | accepts i k' d' =>
      by_cases hi : i = id
      · simp [accepted, hi]
      · simp [accepted, hi]
  | _ => simp [accepted]

theorem completed_eq_some : v.completed id = some (k, d, sent) ↔ v = .completes id k d sent := by
  cases v with
  | completes i k' d' sent' =>
      by_cases hi : i = id
      · simp [completed, hi]
      · simp [completed, hi]
  | _ => simp [completed]

end Verdict

/-- The connection registered under `c`; the server knows it by the reverse. -/
def View.spot (v : View) (c : ConnectionID) : Spot where
  opened := c ∈ v.opened
  pool := v.client.pool.lookup c
  table := v.client.table.lookup c
  server := v.server.table.lookup c.reverse
  serverPool := v.server.pool.lookup c.reverse
  toServer := messages c.reverse v.toServer
  toClient := messages c v.toClient
  fromClient := logged c v.fromClient
  fromServer := logged c.reverse v.fromServer
  accepted := v.verdicts.filterMap (Verdict.accepted c.reverse)
  completed := v.verdicts.filterMap (Verdict.completed c)

/-! ### Stages -/

/-- A session the server has answered the hello of. -/
def Server.session (k d : Fin 10) : State (Ptr Server.Object) where
  stateData := .to (.bye ⟨k.val, d.val⟩)
  state := HelloByeServer.Bye
  timeoutID := timeoutIDInvalid

namespace Client

/-- A session that waits for the server's hello. -/
def greeting (k : Fin 10) (ip : UInt32) (port : UInt16) : State (Ptr Block) where
  stateData := .to ⟨ofInt k.val, ip, port⟩
  state := HelloByeClient.Bye
  timeoutID := timeoutIDInvalid

/-- A session that waits for the server's goodbye. -/
def parting (k d : Fin 10) (port : UInt16) : State (Ptr Block) where
  stateData := .to ⟨ofInt k.val, ofInt d.val, port⟩
  state := HelloByeClient.RecvBye
  timeoutID := timeoutIDInvalid

end Client

/-- How far a connection is, with its messages. -/
inductive Stage (c : ConnectionID)
  | unopened
  | hello (k : Fin 10) (ip : UInt32) (port : UInt16) (p : Message c.reverse "CLIENT HELLO:" k)
  | answered (k d : Fin 10) (ip : UInt32) (port : UInt16) (p : Message c.reverse "CLIENT HELLO:" k)
      (q : Message c "SERVER HELLO:" d)
  | parting (k d : Fin 10) (port : UInt16) (p : Message c.reverse "CLIENT HELLO:" k)
      (q : Message c "SERVER HELLO:" d) (p' : Message c.reverse "CLIENT BYE:" d)
  | parted (k d : Fin 10) (port : UInt16) (p : Message c.reverse "CLIENT HELLO:" k)
      (q : Message c "SERVER HELLO:" d) (p' : Message c.reverse "CLIENT BYE:" d)
      (q' : Message c "SERVER BYE:" k)
  | done (k d : Fin 10) (p : Message c.reverse "CLIENT HELLO:" k) (q : Message c "SERVER HELLO:" d)
      (p' : Message c.reverse "CLIENT BYE:" d) (q' : Message c "SERVER BYE:" k)

namespace Stage

variable {c : ConnectionID}

def spot : Stage c → Spot
  | unopened => ⟨false, none, none, none, none, 0, 0, [], [], [], []⟩
  | hello k ip port p =>
    ⟨true, some (Client.greeting k ip port), none, none, none, {p.pkt}, 0, [p.pkt], [], [], []⟩
  | answered k d ip port p q =>
    ⟨true, some (Client.greeting k ip port), none, some (Server.session k d), none, 0, {q.pkt},
      [p.pkt], [q.pkt], [], []⟩
  | parting k d port p q p' =>
    ⟨true, none, some (Client.parting k d port), some (Server.session k d), none, {p'.pkt}, 0,
      [p.pkt, p'.pkt], [q.pkt], [], []⟩
  | parted k d port p q p' q' =>
    ⟨true, none, some (Client.parting k d port), none, none, 0, {q'.pkt}, [p.pkt, p'.pkt],
      [q.pkt, q'.pkt], [(k.val, d.val)], []⟩
  | done k d p q p' q' =>
    ⟨true, none, none, none, none, 0, 0, [p.pkt, p'.pkt], [q.pkt, q'.pkt], [(k.val, d.val)],
      [(k.val, d.val, false)]⟩

end Stage

namespace Stage

variable {c : ConnectionID}

/-- What the client sends is identified as the reverse of its connection. -/
theorem of_mem_fromClient (x : Stage c) {p : Packet} (h : p ∈ x.spot.fromClient) :
    x.spot.opened = true ∧ IPv4_5TupleL2Ident.identify p.data = some c.reverse := by
  cases x with
  | unopened => exact absurd h List.not_mem_nil
  | hello k ip port p =>
      obtain rfl := List.mem_singleton.mp h
      exact And.intro rfl p.ident
  | answered k d ip port p q =>
      obtain rfl := List.mem_singleton.mp h
      exact And.intro rfl p.ident
  | parting k d port p q p' | parted k d port p q p' q' | done k d p q p' q' =>
      rcases List.mem_pair.mp h with rfl | rfl
      · exact And.intro rfl p.ident
      · exact And.intro rfl p'.ident

/-- What the server sends is identified as the connection. -/
theorem of_mem_fromServer (x : Stage c) {q : Packet} (h : q ∈ x.spot.fromServer) :
    x.spot.opened = true ∧ IPv4_5TupleL2Ident.identify q.data = some c := by
  cases x with
  | unopened | hello k ip port p => exact absurd h List.not_mem_nil
  | answered k d ip port p q | parting k d port p q p' =>
      obtain rfl := List.mem_singleton.mp h
      exact And.intro rfl q.ident
  | parted k d port p q p' q' | done k d p q p' q' =>
      rcases List.mem_pair.mp h with rfl | rfl
      · exact And.intro rfl q.ident
      · exact And.intro rfl q'.ident

/-- Where the server has accepted, the messages are the four of the session. -/
theorem of_mem_accepted (x : Stage c) {k d : Int} (h : (k, d) ∈ x.spot.accepted) :
    (∃ p p', x.spot.fromClient = [p, p'] ∧ Prints p "CLIENT HELLO:" k ∧ Prints p' "CLIENT BYE:" d) ∧
      ∃ q q', x.spot.fromServer = [q, q'] ∧ Prints q "SERVER HELLO:" d ∧
        Prints q' "SERVER BYE:" k := by
  cases x with
  | parted k' d' port p q p' q' | done k' d' p q p' q' =>
      obtain ⟨rfl, rfl⟩ := Prod.mk.inj (List.mem_singleton.mp h)
      exact And.intro ⟨_, _, rfl, p.prints, p'.prints⟩ ⟨_, _, rfl, q.prints, q'.prints⟩
  | _ => exact absurd h List.not_mem_nil

/-- The client ends a session the server has accepted, with its cookies, and frees the packet. -/
theorem of_mem_completed (x : Stage c) {k d : Int} {sent : Bool}
    (h : (k, d, sent) ∈ x.spot.completed) : sent = false ∧ (k, d) ∈ x.spot.accepted := by
  cases x with
  | done k' d' p q p' q' =>
      obtain ⟨rfl, hrest⟩ := Prod.mk.inj (List.mem_singleton.mp h)
      obtain ⟨rfl, rfl⟩ := Prod.mk.inj hrest
      exact And.intro rfl (List.mem_singleton.mpr rfl)
  | _ => exact absurd h List.not_mem_nil

/-- Without a message a connection is new or done. -/
theorem finished (x : Stage c) (hserver : x.spot.toServer = 0) (hclient : x.spot.toClient = 0) :
    (x.spot.pool = none ∧ x.spot.table = none ∧ x.spot.server = none) ∧
      (x.spot.opened = true → ∃ k d, (k, d, false) ∈ x.spot.completed) := by
  cases x with
  | unopened => exact And.intro ⟨rfl, rfl, rfl⟩ fun h => absurd h Bool.false_ne_true
  | hello k ip port p => exact absurd hserver (Multiset.singleton_ne_zero _)
  | answered k d ip port p q => exact absurd hclient (Multiset.singleton_ne_zero _)
  | parting k d port p q p' => exact absurd hserver (Multiset.singleton_ne_zero _)
  | parted k d port p q p' q' => exact absurd hclient (Multiset.singleton_ne_zero _)
  | done k d p q p' q' =>
      exact And.intro ⟨rfl, rfl, rfl⟩ fun _ => ⟨_, _, List.mem_singleton.mpr rfl⟩

/-- The server never has a connection in its pool. -/
theorem serverPool_eq (x : Stage c) : x.spot.serverPool = none := by
  cases x <;> rfl

/-- Each side sends two messages at most. -/
theorem length_le (x : Stage c) : x.spot.fromClient.length ≤ 2 ∧ x.spot.fromServer.length ≤ 2 := by
  cases x <;> simp [spot]

end Stage

/-- **The invariant**: every connection is at a stage, and every message is of one. -/
structure View.Staged (v : View) : Prop where
  toServer : ∀ p ∈ v.toServer, ∃ i, IPv4_5TupleL2Ident.identify p.data = some i
  toClient : ∀ p ∈ v.toClient, ∃ i, IPv4_5TupleL2Ident.identify p.data = some i
  fine : ∀ i, .rejects i ∉ v.verdicts
  stage : ∀ c, ∃ x : Stage c, v.spot c = x.spot

/-! ### Messages and logs -/

theorem mem_logged {l : List (ConnectionID × Packet)} {id : ConnectionID} {p : Packet} :
    p ∈ logged id l ↔ (id, p) ∈ l := by
  unfold logged
  rw [List.mem_map]
  constructor
  · rintro ⟨⟨i, q⟩, hx, rfl⟩
    obtain ⟨hmem, hi⟩ := List.mem_filter.mp hx
    obtain rfl : i = id := of_decide_eq_true hi
    exact hmem
  · intro h
    exact ⟨(id, p), List.mem_filter.mpr ⟨h, decide_eq_true rfl⟩, rfl⟩

theorem mem_accepted {vs : List Verdict} {id : ConnectionID} {k d : Int} :
    (k, d) ∈ vs.filterMap (Verdict.accepted id) ↔ .accepts id k d ∈ vs := by
  simp [List.mem_filterMap, Verdict.accepted_eq_some]

theorem mem_completed {vs : List Verdict} {id : ConnectionID} {k d : Int} {sent : Bool} :
    (k, d, sent) ∈ vs.filterMap (Verdict.completed id) ↔ .completes id k d sent ∈ vs := by
  simp [List.mem_filterMap, Verdict.completed_eq_some]

/-- The last entry of a log is taken or not. -/
theorem filterMap_append_singleton {α β : Type} (f : α → Option β) (l : List α) (x : α) :
    (l ++ [x]).filterMap f = l.filterMap f ++ (f x).toList := by
  rw [List.filterMap_append]
  cases h : f x with
  | none => rw [List.filterMap_cons_none h]; rfl
  | some y => rw [List.filterMap_cons_some h]; rfl

section messages

variable {id : ConnectionID} {p : Packet} {m : Multiset Packet}

theorem messages_cons (h : IPv4_5TupleL2Ident.identify p.data = some id) (m : Multiset Packet) :
    messages id (p ::ₘ m) = p ::ₘ messages id m := Multiset.filter_cons_of_pos _ h

theorem messages_cons_of_ne (h : IPv4_5TupleL2Ident.identify p.data ≠ some id)
    (m : Multiset Packet) : messages id (p ::ₘ m) = messages id m := Multiset.filter_cons_of_neg _ h

theorem logged_append_self (l : List (ConnectionID × Packet)) (id : ConnectionID) (p : Packet) :
    logged id (l ++ [(id, p)]) = logged id l ++ [p] := by
  simp [logged]

theorem logged_append_of_ne {i : ConnectionID} (h : i ≠ id) (l : List (ConnectionID × Packet))
    (p : Packet) : logged id (l ++ [(i, p)]) = logged id l := by
  simp [logged, h]

/-- The only message of a connection, when it is taken. -/
theorem only_message {q : Packet} (h : IPv4_5TupleL2Ident.identify p.data = some id)
    (hone : messages id (p ::ₘ m) = {q}) : p = q ∧ messages id m = 0 := by
  rw [messages_cons h] at hone
  obtain ⟨rfl, hm⟩ := (Multiset.singleton_eq_cons_iff _).mp hone.symm
  exact And.intro rfl hm

theorem no_message (h : IPv4_5TupleL2Ident.identify p.data = some id)
    (hnone : messages id (p ::ₘ m) = 0) : False := by
  rw [messages_cons h] at hnone
  exact Multiset.cons_ne_zero hnone

end messages

/-! ### A message for the server -/

namespace View

variable {v v' : View} {p q : Packet} {m : Multiset Packet} {vd : Verdict} {c : ConnectionID}

/-- A connection is at another stage, and the others are where they were. -/
theorem Staged.advance (h : v.Staged) (x : Stage c) (hself : v'.spot c = x.spot)
    (hne : ∀ c', c' ≠ c → v'.spot c' = v.spot c')
    (hserver : ∀ p ∈ v'.toServer,
      p ∈ v.toServer ∨ IPv4_5TupleL2Ident.identify p.data = some c.reverse)
    (hclient : ∀ p ∈ v'.toClient, p ∈ v.toClient ∨ IPv4_5TupleL2Ident.identify p.data = some c)
    (hfine : ∀ i, .rejects i ∈ v'.verdicts → .rejects i ∈ v.verdicts) : v'.Staged := by
  refine ⟨fun p hp => ?_, fun p hp => ?_, fun i hi => h.fine i (hfine i hi), fun c' => ?_⟩
  · exact (hserver p hp).elim (h.toServer p) fun hi => Exists.intro _ hi
  · exact (hclient p hp).elim (h.toClient p) fun hi => Exists.intro _ hi
  · by_cases hc : c' = c
    · subst hc
      exact Exists.intro x hself
    · obtain ⟨x', hx'⟩ := h.stage c'
      exact Exists.intro x' ((hne c' hc).trans hx')

/-- The server has taken a message of connection `c.reverse`, and sent `q`. -/
def afterServer (v : View) (c : ConnectionID) (h' : Held ConnectionID (Ptr Server.Object) Program)
    (m : Multiset Packet) (q : Packet) (vd : Verdict) : View :=
  { v with
    server := h'
    toServer := m
    toClient := q ::ₘ v.toClient
    fromServer := v.fromServer ++ [(c.reverse, q)]
    verdicts := v.verdicts ++ [vd] }

variable {h' : Held ConnectionID (Ptr Server.Object) Program} {st : State (Ptr Server.Object)}
  {a : Answer (Ptr Server.Object) Packet Program}

theorem spot_afterServer (hq : IPv4_5TupleL2Ident.identify q.data = some c)
    (hvd : vd.completed c = none) : (v.afterServer c h' m q vd).spot c = { v.spot c with
      server := h'.table.lookup c.reverse
      serverPool := h'.pool.lookup c.reverse
      toServer := messages c.reverse m
      toClient := q ::ₘ (v.spot c).toClient
      fromServer := (v.spot c).fromServer ++ [q]
      accepted := (v.spot c).accepted ++ (vd.accepted c.reverse).toList } := by
  unfold spot afterServer
  dsimp only
  rw [filterMap_append_singleton, filterMap_append_singleton, hvd, Option.toList_none, List.append_nil,
    messages_cons hq, logged_append_self]

/-- The other connections. -/
theorem spot_afterServer_of_ne (hflight : v.toServer = p ::ₘ m)
    (hp : IPv4_5TupleL2Ident.identify p.data = some c.reverse)
    (hserves : Server.service.Serves v.server p c.reverse st a h')
    (hq : IPv4_5TupleL2Ident.identify q.data = some c) {c' : ConnectionID} (hc : c' ≠ c)
    (hcompleted : vd.completed c' = none) (haccepted : vd.accepted c'.reverse = none) :
    (v.afterServer c h' m q vd).spot c' = v.spot c' := by
  have hrev : c'.reverse ≠ c.reverse := fun h => hc (ConnectionID.reverse_inj.mp h)
  have hpne : IPv4_5TupleL2Ident.identify p.data ≠ some c'.reverse := fun h =>
    hrev (Option.some.inj (h.symm.trans hp))
  have hqne : IPv4_5TupleL2Ident.identify q.data ≠ some c' := fun h =>
    hc (Option.some.inj (h.symm.trans hq))
  unfold spot afterServer
  dsimp only
  rw [hserves.table, if_neg hrev, hserves.pool, if_neg fun h => hrev h.1, hflight,
    messages_cons_of_ne hpne, messages_cons_of_ne hqne, logged_append_of_ne hrev.symm,
    filterMap_append_singleton, filterMap_append_singleton, haccepted, hcompleted, Option.toList_none,
    Option.toList_none, List.append_nil, List.append_nil]

/-- The server has answered, and its connection is at the next stage. -/
theorem Staged.afterServer (h : v.Staged) (hflight : v.toServer = p ::ₘ m)
    (hp : IPv4_5TupleL2Ident.identify p.data = some c.reverse)
    (hserves : Server.service.Serves v.server p c.reverse st a h')
    (hq : IPv4_5TupleL2Ident.identify q.data = some c)
    (hvd : vd = .greets c.reverse ∨ ∃ k d, vd = .accepts c.reverse k d) (x : Stage c)
    (hself : (v.afterServer c h' m q vd).spot c = x.spot) : (v.afterServer c h' m q vd).Staged := by
  have hcompleted : ∀ c', vd.completed c' = none := by
    intro c'
    obtain rfl | ⟨k, d, rfl⟩ := hvd
    · rfl
    · rfl
  have haccepted : ∀ c', c' ≠ c → vd.accepted c'.reverse = none := by
    intro c' hc
    obtain rfl | ⟨k, d, rfl⟩ := hvd
    · rfl
    · exact if_neg fun h => hc (ConnectionID.reverse_inj.mp h).symm
  refine h.advance x hself (fun c' hc => spot_afterServer_of_ne hflight hp hserves hq hc
    (hcompleted c') (haccepted c' hc)) (fun r hr => Or.inl ?_) (fun r hr => ?_) fun i hi => ?_
  · rw [hflight]
    exact Multiset.mem_cons_of_mem hr
  · rcases Multiset.mem_cons.mp hr with rfl | hr
    · exact Or.inr hq
    · exact Or.inl hr
  · rcases List.mem_append.mp hi with hi | hi
    · exact hi
    · rw [← List.mem_singleton.mp hi] at hvd
      simp at hvd

/-- **A message gets to the server.** -/
theorem Staged.server_move (h : v.Staged) (hflight : v.toServer = p ::ₘ m) :
    ∃ c st a h', IPv4_5TupleL2Ident.identify p.data = some (ConnectionID.reverse c) ∧
      Server.service.Serves v.server p c.reverse st a h' ∧ a.free = false ∧
      (v.afterServer c h' m a.pkt (Server.verdict c.reverse st.woken p)).Staged := by
  obtain ⟨i, hi⟩ := h.toServer p (hflight ▸ Multiset.mem_cons_self p m)
  obtain ⟨c, rfl⟩ : ∃ c : ConnectionID, i = c.reverse := ⟨i.reverse, rfl⟩
  obtain ⟨x, hx⟩ := h.stage c
  have htable := congrArg Spot.server hx
  have hpool := congrArg Spot.serverPool hx
  have hflight' := congrArg Spot.toServer hx
  dsimp only [spot] at htable hpool hflight'
  rw [hflight] at hflight'
  cases x with
  | hello k ip port x =>
      obtain ⟨rfl, hm⟩ := only_message hi hflight'
      obtain ⟨d, w', hw, -⟩ := v.server.rest.cookie_eq
      obtain ⟨y, hy⟩ := Server.runHello_greets (d := d) (w := w') x
      have hnew : Server.service.newData c.reverse v.server.rest
          = some (.to (.hello ⟨none, d.val⟩), w') := by
        show some (Ptr.to (Server.Object.hello ⟨none, v.server.rest.cookie.1⟩),
          v.server.rest.cookie.2) = _
        rw [hw]
      obtain ⟨h', hserves⟩ := Service.serves_of_new hi htable hpool rfl hnew hy
      have hvd : Server.verdict c.reverse (State.new Server.service.startStateID
          (.to (.hello ⟨none, d.val⟩))).woken x.pkt = .greets c.reverse := if_pos x.prints.told
      refine ⟨c, _, _, h', hi, hserves, rfl, ?_⟩
      rw [hvd]
      refine h.afterServer hflight hi hserves y.ident (Or.inl rfl) (.answered k d ip port x y) ?_
      rw [spot_afterServer y.ident rfl, hx, hserves.table, if_pos rfl,
        hserves.pool_self (Or.inr hpool), hm]
      rfl
  | parting k d port x y x' =>
      obtain ⟨rfl, hm⟩ := only_message hi hflight'
      obtain ⟨y', hy'⟩ := Server.runBye_accepts (k := k) (w := v.server.rest) x'
      obtain ⟨h', hserves⟩ := Service.serves_of_table (u := Server.service) hi htable hy'
      have hvd : Server.verdict c.reverse (Server.session k d).woken x'.pkt
          = .accepts c.reverse k.val d.val := if_pos ⟨x'.prints.told, x'.prints.cookieAfter⟩
      refine ⟨c, _, _, h', hi, hserves, rfl, ?_⟩
      rw [hvd]
      refine h.afterServer hflight hi hserves y'.ident (Or.inr ⟨_, _, rfl⟩)
        (.parted k d port x y x' y') ?_
      have haccepted : (Verdict.accepts c.reverse k.val d.val).accepted c.reverse
          = some ((k.val : Int), (d.val : Int)) := if_pos rfl
      rw [spot_afterServer y'.ident rfl, hx, hserves.table, if_pos rfl,
        hserves.pool_self (Or.inr hpool), hm, haccepted]
      rfl
  | unopened => exact (no_message hi hflight').elim
  | answered k d ip port x y => exact (no_message hi hflight').elim
  | parted k d port x y x' y' => exact (no_message hi hflight').elim
  | done k d x y x' y' => exact (no_message hi hflight').elim

/-! ### A message for the client -/

theorem Client.verdict_greeting {k d : Fin 10} {ip : UInt32} {port : UInt16} {sent : Bool}
    (y : Message c "SERVER HELLO:" d) :
    Client.verdict c (Client.greeting k ip port).woken y.pkt sent = .greets c := by
  have hdata : (Client.greeting k ip port).woken.stateData = .to ⟨ofInt k.val, ip, port⟩ := rfl
  have hstate : (Client.greeting k ip port).woken.state = HelloByeClient.Bye := rfl
  unfold Client.verdict
  rw [hdata]
  dsimp only
  rw [if_pos hstate, if_pos y.prints.told]

theorem Client.verdict_parting {k d : Fin 10} {port : UInt16} {sent : Bool}
    (y : Message c "SERVER BYE:" k) :
    Client.verdict c (Client.parting k d port).woken y.pkt sent = .completes c k.val d.val sent := by
  have hblock : Block.asRecvBye ⟨ofInt k.val, ofInt d.val, port⟩ = ⟨k.val, d.val⟩ :=
    congrArg₂ HelloByeClientRecvBye.mk (asInt_ofInt k) (asInt_ofInt d)
  have hdata : (Client.parting k d port).woken.stateData
      = .to ⟨ofInt k.val, ofInt d.val, port⟩ := rfl
  have hstate : (Client.parting k d port).woken.state = HelloByeClient.RecvBye := rfl
  have hne : (Client.parting k d port).woken.state ≠ HelloByeClient.Bye := by
    rw [hstate]
    decide
  unfold Client.verdict
  rw [hdata]
  dsimp only
  rw [if_neg hne, if_pos hstate, hblock, if_pos ⟨y.prints.told, y.prints.cookieAfter⟩]

/-- The client has taken a message of connection `c`, and sent `q` or not. -/
def afterClient (v : View) (c : ConnectionID) (h' : Held ConnectionID (Ptr Block) Program)
    (m : Multiset Packet) (q : Packet) (sent : Bool) (vd : Verdict) : View :=
  { v with
    client := h'
    toClient := m
    toServer := if sent then q ::ₘ v.toServer else v.toServer
    fromClient := if sent then v.fromClient ++ [(c, q)] else v.fromClient
    verdicts := v.verdicts ++ [vd] }

variable {g' : Held ConnectionID (Ptr Block) Program} {ct : State (Ptr Block)}
  {b : Answer (Ptr Block) Packet Program} {sent : Bool}

theorem spot_afterClient
    (hq : sent = true → IPv4_5TupleL2Ident.identify q.data = some c.reverse)
    (hvd : vd.accepted c.reverse = none) : (v.afterClient c g' m q sent vd).spot c = { v.spot c with
      pool := g'.pool.lookup c
      table := g'.table.lookup c
      toServer := if sent then q ::ₘ (v.spot c).toServer else (v.spot c).toServer
      toClient := messages c m
      fromClient := if sent then (v.spot c).fromClient ++ [q] else (v.spot c).fromClient
      completed := (v.spot c).completed ++ (vd.completed c).toList } := by
  unfold spot afterClient
  dsimp only
  rw [filterMap_append_singleton, filterMap_append_singleton, hvd, Option.toList_none, List.append_nil]
  cases sent with
  | true => rw [if_pos rfl, if_pos rfl, messages_cons (hq rfl), logged_append_self]; rfl
  | false => rfl

theorem spot_afterClient_of_ne (hflight : v.toClient = p ::ₘ m)
    (hp : IPv4_5TupleL2Ident.identify p.data = some c)
    (hserves : Client.service.Serves v.client p c ct b g')
    (hq : sent = true → IPv4_5TupleL2Ident.identify q.data = some c.reverse) {c' : ConnectionID}
    (hc : c' ≠ c)
    (hcompleted : vd.completed c' = none) (haccepted : vd.accepted c'.reverse = none) :
    (v.afterClient c g' m q sent vd).spot c' = v.spot c' := by
  have hpne : IPv4_5TupleL2Ident.identify p.data ≠ some c' := fun h =>
    hc (Option.some.inj (h.symm.trans hp))
  have hqne : sent = true → IPv4_5TupleL2Ident.identify q.data ≠ some c'.reverse := fun hsent h =>
    hc (ConnectionID.reverse_inj.mp (Option.some.inj (h.symm.trans (hq hsent))))
  have hpool : ¬ (c' = c ∧ v.client.table.lookup c = none) := fun h => hc h.1
  unfold spot afterClient
  dsimp only
  rw [hserves.table, if_neg hc, hserves.pool, if_neg hpool, hflight,
    messages_cons_of_ne hpne, filterMap_append_singleton, filterMap_append_singleton, haccepted,
    hcompleted, Option.toList_none, Option.toList_none, List.append_nil, List.append_nil]
  cases sent with
  | true => rw [if_pos rfl, if_pos rfl, messages_cons_of_ne (hqne rfl), logged_append_of_ne hc.symm]
  | false => rfl

/-- The client has its message, and its connection is at the next stage. -/
theorem Staged.afterClient (h : v.Staged) (hflight : v.toClient = p ::ₘ m)
    (hp : IPv4_5TupleL2Ident.identify p.data = some c)
    (hserves : Client.service.Serves v.client p c ct b g')
    (hq : sent = true → IPv4_5TupleL2Ident.identify q.data = some c.reverse)
    (hvd : vd = .greets c ∨ ∃ k d, vd = .completes c k d false) (x : Stage c)
    (hself : (v.afterClient c g' m q sent vd).spot c = x.spot) :
    (v.afterClient c g' m q sent vd).Staged := by
  have haccepted : ∀ c', vd.accepted c' = none := by
    intro c'
    obtain rfl | ⟨k, d, rfl⟩ := hvd
    · rfl
    · rfl
  have hcompleted : ∀ c', c' ≠ c → vd.completed c' = none := by
    intro c' hc
    obtain rfl | ⟨k, d, rfl⟩ := hvd
    · rfl
    · exact if_neg hc.symm
  refine h.advance x hself (fun c' hc => spot_afterClient_of_ne hflight hp hserves hq hc
    (hcompleted c' hc) (haccepted _)) (fun r hr => ?_) (fun r hr => Or.inl ?_) fun i hi => ?_
  · cases sent with
    | true =>
        rcases Multiset.mem_cons.mp hr with rfl | hr
        · exact Or.inr (hq rfl)
        · exact Or.inl hr
    | false => exact Or.inl hr
  · rw [hflight]
    exact Multiset.mem_cons_of_mem hr
  · rcases List.mem_append.mp hi with hi | hi
    · exact hi
    · rw [← List.mem_singleton.mp hi] at hvd
      simp at hvd

/-- **A message gets to the client.** -/
theorem Staged.client_move (h : v.Staged) (hflight : v.toClient = p ::ₘ m) :
    ∃ c ct b g', IPv4_5TupleL2Ident.identify p.data = some c ∧
      Client.service.Serves v.client p c ct b g' ∧
      (v.afterClient c g' m b.pkt (!b.free) (Client.verdict c ct.woken p !b.free)).Staged := by
  obtain ⟨c, hi⟩ := h.toClient p (hflight ▸ Multiset.mem_cons_self p m)
  obtain ⟨x, hx⟩ := h.stage c
  have htable := congrArg Spot.table hx
  have hpool := congrArg Spot.pool hx
  have hflight' := congrArg Spot.toClient hx
  dsimp only [spot] at htable hpool hflight'
  rw [hflight] at hflight'
  cases x with
  | answered k d ip port x y =>
      obtain ⟨rfl, hm⟩ := only_message hi hflight'
      obtain ⟨x', hx'⟩ := Client.runBye_greets (k := k) (w := v.client.rest) ip port y
      obtain ⟨g', hserves⟩ := Service.serves_of_pool (u := Client.service) hi htable hpool hx'
      refine ⟨c, _, _, g', hi, hserves, ?_⟩
      rw [Client.verdict_greeting y]
      refine h.afterClient hflight hi hserves (fun _ => x'.ident) (Or.inl rfl)
        (.parting k d port x y x') ?_
      rw [spot_afterClient (fun _ => x'.ident) rfl, hx, hserves.table, if_pos rfl,
        hserves.pool_self (Or.inl htable), hm]
      rfl
  | parted k d port x y x' y' =>
      obtain ⟨rfl, hm⟩ := only_message hi hflight'
      have ha := Client.runRecvBye_completes (d := d) (w := v.client.rest) port y'
      obtain ⟨g', hserves⟩ := Service.serves_of_table (u := Client.service) hi htable ha
      have hcompleted : (Verdict.completes c k.val d.val false).completed c
          = some ((k.val : Int), (d.val : Int), false) := if_pos rfl
      refine ⟨c, _, _, g', hi, hserves, ?_⟩
      rw [Client.verdict_parting y']
      show (v.afterClient c g' m y'.pkt false (.completes c k.val d.val false)).Staged
      have hfreed : false = true → IPv4_5TupleL2Ident.identify y'.pkt.data = some c.reverse :=
        fun hsent => absurd hsent Bool.false_ne_true
      refine h.afterClient hflight hi hserves hfreed (Or.inr ⟨_, _, rfl⟩) (.done k d x y x' y') ?_
      refine (spot_afterClient hfreed rfl).trans ?_
      rw [hx, hserves.table, if_pos rfl, hserves.pool_self (Or.inr hpool), hm, hcompleted]
      rfl
  | unopened => exact (no_message hi hflight').elim
  | hello k ip port x => exact (no_message hi hflight').elim
  | parting k d port x y x' => exact (no_message hi hflight').elim
  | done k d x y x' y' => exact (no_message hi hflight').elim

/-! ### A new connection -/

/-- The client has opened connection `c`, and sent `q`. -/
def afterConnect (v : View) (c : ConnectionID) (g' : Held ConnectionID (Ptr Block) Program)
    (q : Packet) : View :=
  { v with
    client := g'
    toServer := q ::ₘ v.toServer
    opened := c :: v.opened
    fromClient := v.fromClient ++ [(c, q)] }

/-- **A connection is opened** that nobody opened before. -/
theorem Staged.connect (h : v.Staged) (hnew : c ∉ v.opened) {k : Fin 10} (ip : UInt32)
    (port : UInt16) (x : Message c.reverse "CLIENT HELLO:" k) (htable : g'.table = v.client.table)
    (hpool : g'.pool = FMap.insertNew c (Client.greeting k ip port) v.client.pool) :
    (v.afterConnect c g' x.pkt).Staged := by
  have hspot : v.spot c = Stage.unopened.spot (c := c) := by
    obtain ⟨y, hy⟩ := h.stage c
    have hopened : y.spot.opened = false := by
      rw [← hy]
      exact decide_eq_false hnew
    cases y with
    | unopened => exact hy
    | _ => simp [Stage.spot] at hopened
  refine h.advance (.hello k ip port x) ?_ (fun c' hc => ?_) (fun r hr => ?_) (fun r hr => Or.inl hr)
    fun i hi => hi
  · have hself : (v.afterConnect c g' x.pkt).spot c = { v.spot c with
        opened := true
        pool := some (((v.spot c).pool).getD (Client.greeting k ip port))
        toServer := x.pkt ::ₘ (v.spot c).toServer
        fromClient := (v.spot c).fromClient ++ [x.pkt] } := by
      unfold spot afterConnect
      dsimp only
      rw [hpool, htable, FMap.lookup_insertNew_self, messages_cons x.ident, logged_append_self,
        decide_eq_true (List.mem_cons_self ..)]
    rw [hself, hspot]
    rfl
  · have hne : IPv4_5TupleL2Ident.identify x.pkt.data ≠ some c'.reverse := fun h =>
      hc (ConnectionID.reverse_inj.mp (Option.some.inj (h.symm.trans x.ident)))
    have hopened : c' ∈ c :: v.opened ↔ c' ∈ v.opened := by simp [hc]
    unfold spot afterConnect
    dsimp only
    rw [hpool, htable, FMap.lookup_insertNew_ne _ _ hc, messages_cons_of_ne hne,
      logged_append_of_ne hc.symm, decide_eq_decide.mpr hopened]
  · rcases Multiset.mem_cons.mp hr with rfl | hr
    · exact Or.inr x.ident
    · exact Or.inl hr

end View

end MoonState.HelloBye
