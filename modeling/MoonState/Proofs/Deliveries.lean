/-
Exchanges of HelloBye come to an end.

A message ranks by what it says: a client's hello, a server's hello, a client's
goodbye, anything else.  What a machine sends in answer ranks lower than what it got
(`Service.Ranked`), so the ranks of the messages in flight are a potential from which
every delivery takes at least one.  A message that is put on the network brings in
four at most; forged ones are no exception.
-/
import MoonState.Proofs.HelloNet
import MoonState.Proofs.Interop

namespace MoonState

open HelloBye2 (pick sent)

/-! ### Answers that rank lower -/

section ranked

variable {K D R : Type} [DecidableEq K]

/-- Every connection of the table and the pool satisfies `ok`. -/
structure Held.All (ok : State D → Prop) (h : Held K D R) : Prop where
  table : ∀ id st, h.table.lookup id = some st → ok st
  pool : ∀ id st, h.pool.lookup id = some st → ok st

/-- What a connection sends in answer to a clear message is clear and ranks lower; `ok` is kept. -/
structure Service.Ranked [Inhabited D] (u : Service K D Packet R) (ok : State D → Prop)
    (clear : Packet → Prop) (rank : Packet → Nat) : Prop where
  new : u.listenToConnections = true → ∀ id r d r', u.newData id r = some (d, r') →
    ok (State.new u.startStateID d)
  keeps : ∀ st b r a, ok st → u.answer st b r = some a → (after st a).state ≠ u.endStateID →
    ok (after st a)
  lower : ∀ st b r a, ok st → clear b → u.answer st b r = some a → a.free = false →
    clear a.pkt ∧ rank a.pkt < rank b
  pos : ∀ b, 0 < rank b

/-- The ranks of these messages. -/
def load (rank : Packet → Nat) (ps : List Packet) : Nat := (ps.map rank).sum

namespace Service.Ranked

variable [Inhabited D] {u : Service K D Packet R} {ok : State D → Prop} {clear : Packet → Prop}
  {rank : Packet → Nat} {h h' : Held K D R}

theorem find (hu : u.Ranked ok clear rank) (hh : h.All ok) {id : K} {o : Option (State D)}
    (hfind : u.find id h = some (h', o)) : h'.All ok ∧ ∀ st, o = some st → ok st := by
  have hnew : ∀ {st : State D} {pool : FMap K (State D)} {r : R}, ok st →
      (∀ id st, pool.lookup id = some st → ok st) →
      Held.All ok ⟨FMap.insertNew id st h.table, pool, r⟩ := by
    intro st pool r hst hpool
    refine ⟨fun j st' hj => ?_, hpool⟩
    rcases FMap.lookup_insertNew_cases hj with hj | ⟨rfl, -, rfl⟩
    · exact hh.table j st' hj
    · exact hst
  unfold Service.find at hfind
  cases ht : h.table.lookup id with
  | some st =>
      rw [ht] at hfind
      obtain ⟨rfl, rfl⟩ := Prod.mk.inj (Option.some.inj hfind)
      exact ⟨hh, fun st' hst' => Option.some.inj hst' ▸ hh.table id st ht⟩
  | none =>
      rw [ht] at hfind
      cases hp : h.pool.lookup id with
      | some st =>
          rw [hp] at hfind
          obtain ⟨rfl, rfl⟩ := Prod.mk.inj (Option.some.inj hfind)
          have hst := hh.pool id st hp
          refine ⟨hnew hst fun j st' hj => ?_, fun st' hst' => Option.some.inj hst' ▸ hst⟩
          by_cases hji : j = id
          · rw [hji, Finmap.lookup_erase] at hj
            cases hj
          · rw [Finmap.lookup_erase_ne hji] at hj
            exact hh.pool j st' hj
      | none =>
          rw [hp] at hfind
          dsimp only at hfind
          by_cases hlisten : u.listenToConnections = true
          · rw [if_pos hlisten] at hfind
            cases hd : u.newData id h.rest with
            | none => simp [hd] at hfind
            | some dr =>
                rw [hd] at hfind
                obtain ⟨rfl, rfl⟩ := Prod.mk.inj (Option.some.inj hfind)
                have hst := hu.new hlisten id h.rest dr.1 dr.2 hd
                exact ⟨hnew hst hh.pool, fun st' hst' => Option.some.inj hst' ▸ hst⟩
          · rw [if_neg hlisten] at hfind
            obtain ⟨rfl, rfl⟩ := Prod.mk.inj (Option.some.inj hfind)
            exact ⟨hh, fun st' hst' => by cases hst'⟩

/-- **One packet.** -/
theorem receive (hu : u.Ranked ok clear rank) (hh : h.All ok) {b b' : Packet} {isSent : Bool}
    (hb : clear b) (hrec : u.receive h b = some (h', b', isSent)) :
    h'.All ok ∧ (isSent = true → clear b' ∧ rank b' < rank b) := by
  unfold Service.receive at hrec
  cases hi : u.ident b with
  | none =>
      rw [hi] at hrec
      obtain ⟨rfl, hout⟩ := Prod.mk.inj (Option.some.inj hrec)
      exact ⟨hh, fun hs => by simp [hs] at hout⟩
  | some id =>
      rw [hi] at hrec
      dsimp only at hrec
      cases hfind : u.find id h with
      | none => simp [hfind] at hrec
      | some ho =>
          obtain ⟨k, o⟩ := ho
          obtain ⟨hk, hst⟩ := hu.find hh hfind
          rw [hfind] at hrec
          cases o with
          | none =>
              obtain ⟨rfl, hout⟩ := Prod.mk.inj (Option.some.inj hrec)
              exact ⟨hk, fun hs => by simp [hs] at hout⟩
          | some st =>
              have hok := hst st rfl
              dsimp only at hrec
              unfold serve at hrec
              cases ha : u.answer st b k.rest with
              | none => simp [ha] at hrec
              | some a =>
                  rw [ha, Option.map_some] at hrec
                  obtain ⟨rfl, hout⟩ := Prod.mk.inj (Option.some.inj hrec)
                  obtain ⟨rfl, rfl⟩ := Prod.mk.inj hout
                  refine ⟨⟨fun j st' hj => ?_, hk.pool⟩, fun hs => ?_⟩
                  · dsimp only at hj
                    split at hj
                    · by_cases hji : j = id
                      · rw [hji, Finmap.lookup_erase] at hj
                        cases hj
                      · rw [Finmap.lookup_erase_ne hji, Finmap.lookup_insert_of_ne _ hji] at hj
                        exact hk.table j st' hj
                    · rename_i hne
                      rcases FMap.lookup_insert_cases hj with ⟨-, rfl⟩ | hj
                      · exact hu.keeps st b k.rest a hok ha hne
                      · exact hk.table j st' hj
                  · exact hu.lower st b k.rest a hok hb ha (by simpa using hs)

/-- **A batch**: every packet takes one from the ranks at least. -/
theorem receiveAll (hu : u.Ranked ok clear rank) (bs : List Packet) (hbs : ∀ b ∈ bs, clear b)
    {h h' : Held K D R} (hh : h.All ok) {outs : List (Packet × Bool)}
    (hall : u.receiveAll bs h = some (h', outs)) :
    h'.All ok ∧ (∀ b ∈ sent outs, clear b) ∧ bs.length + load rank (sent outs) ≤ load rank bs := by
  induction bs generalizing h outs with
  | nil =>
      obtain ⟨rfl, rfl⟩ := Prod.mk.inj (Option.some.inj hall)
      exact ⟨hh, by simp [sent], Nat.le_refl _⟩
  | cons b bs ih =>
      rw [Service.receiveAll] at hall
      cases hrec : u.receive h b with
      | none => simp [hrec] at hall
      | some ho =>
          obtain ⟨h₁, b', isSent⟩ := ho
          obtain ⟨hh₁, hlower⟩ := hu.receive hh (hbs b List.mem_cons_self) hrec
          rw [hrec] at hall
          dsimp only at hall
          cases hrest : u.receiveAll bs h₁ with
          | none => simp [hrest] at hall
          | some ho =>
              obtain ⟨h₂, outs'⟩ := ho
              rw [hrest, Option.map_some] at hall
              obtain ⟨rfl, rfl⟩ := Prod.mk.inj (Option.some.inj hall)
              obtain ⟨hh', hclear, hle⟩ := ih (fun c hc => hbs c (List.mem_cons_of_mem _ hc)) hh₁ hrest
              have hpos := hu.pos b
              cases hs : isSent with
              | false =>
                  refine ⟨hh', by simpa [sent] using hclear, ?_⟩
                  simp only [sent, load, List.length_cons, List.map_cons, List.sum_cons,
                    List.filter_cons, Bool.false_eq_true, if_false] at hle ⊢
                  omega
              | true =>
                  obtain ⟨hc, hlt⟩ := hlower hs
                  refine ⟨hh', ?_, ?_⟩
                  · simpa [sent] using ⟨hc, by simpa [sent] using hclear⟩
                  · simp only [sent, load, List.length_cons, List.map_cons, List.sum_cons,
                      List.filter_cons, if_true] at hle ⊢
                    omega

end Service.Ranked

end ranked

/-! ### HelloBye2 -/

namespace HelloBye2

/-- How many messages may still come of one that says this: itself, and the answers. -/
def rankOf (role msg : UInt8) : Nat :=
  if role = Msg.ROLE_CLIENT ∧ msg = Msg.MSG_HELLO then 4
  else if role = Msg.ROLE_SERVER ∧ msg = Msg.MSG_HELLO then 3
  else if role = Msg.ROLE_CLIENT ∧ msg = Msg.MSG_BYE then 2
  else 1

def rank (p : Packet) : Nat := rankOf (Msg.role p.data p.msg) (Msg.msg p.data p.msg)

theorem rank_le (p : Packet) : rank p ≤ 4 := by
  unfold rank rankOf
  repeat' split
  all_goals omega

theorem rank_pos (p : Packet) : 0 < rank p := by
  unfold rank rankOf
  repeat' split
  all_goals omega

theorem rank_eq {p : Packet} {role msg : UInt8} (h : p.Says role msg) :
    rank p = rankOf role msg := by
  unfold rank
  rw [h.1, h.2]

/-- The object a server's connection has in its state. -/
inductive Server.Live : State (Ptr Server.Object) → Prop
  | hello (t : Server.Hello) (tid : UInt32) :
    Live ⟨.to (.hello t), MoonState.Server.States.Hello, tid⟩
  | bye (t : Server.Bye) (tid : UInt32) :
    Live ⟨.to (.bye t), MoonState.Server.States.Bye, tid⟩

theorem Server.ranked : Server.service.Ranked Server.Live Packet.Clear rank where
  new := by
    rintro - id r d r' hd
    obtain ⟨rfl, -⟩ := Prod.mk.inj (Option.some.inj hd)
    exact .hello _ _
  keeps := by
    intro st b r a hst ha hne
    cases hst with
    | hello t tid =>
        obtain rfl := Option.some.inj ((Server.Hello.run_eq b r t).symm.trans ha)
        by_cases h : b.Says Msg.ROLE_CLIENT Msg.MSG_HELLO
        · rw [if_pos h]
          exact .bye _ _
        · rw [if_neg h] at hne
          exact absurd rfl hne
    | bye t tid =>
        obtain rfl := Option.some.inj ((Server.Bye.run_eq b r t).symm.trans ha)
        split at hne <;> exact absurd rfl hne
  lower := by
    intro st b r a hst hb ha hfree
    cases hst with
    | hello t tid =>
        obtain rfl := Option.some.inj ((Server.Hello.run_eq b r t).symm.trans ha)
        by_cases h : b.Says Msg.ROLE_CLIENT Msg.MSG_HELLO
        · rw [if_pos h]
          refine ⟨hb.reply _ _ _, ?_⟩
          rw [rank_eq h, rank_eq (Packet.says_reply _ _ _ hb)]
          decide
        · rw [if_neg h] at hfree
          cases hfree
    | bye t tid =>
        obtain rfl := Option.some.inj ((Server.Bye.run_eq b r t).symm.trans ha)
        by_cases h : b.Says Msg.ROLE_CLIENT Msg.MSG_BYE ∧ (b.cookie.toNat : Int) = t.serverCookie
        · rw [if_pos h]
          refine ⟨hb.reply _ _ _, ?_⟩
          rw [rank_eq h.1, rank_eq (Packet.says_reply _ _ _ hb)]
          decide
        · rw [if_neg h] at hfree
          cases hfree
  pos := rank_pos

/-- The object a client's connection has in its state, once `connect` has returned. -/
inductive Client.Live : State (Ptr Client.Object) → Prop
  | bye (t : Client.Bye) (tid : UInt32) :
    Live ⟨.to (.bye t), MoonState.Client.States.Bye, tid⟩
  | recvBye (t : Client.RecvBye) (tid : UInt32) :
    Live ⟨.to (.recvBye t), MoonState.Client.States.RecvBye, tid⟩

theorem Client.ranked (config : HelloBye2ClientConfig) :
    (Client.service config).Ranked Client.Live Packet.Clear rank where
  new := fun h => absurd h Bool.false_ne_true
  keeps := by
    intro st b r a hst ha hne
    cases hst with
    | bye t tid =>
        obtain rfl := Option.some.inj ((Client.Bye.run_eq b r t).symm.trans ha)
        by_cases h : b.Says Msg.ROLE_SERVER Msg.MSG_HELLO
        · rw [if_pos h]
          exact .recvBye _ _
        · rw [if_neg h] at hne
          exact absurd rfl hne
    | recvBye t tid =>
        obtain rfl := Option.some.inj ((Client.RecvBye.run_eq b r t).symm.trans ha)
        exact absurd rfl hne
  lower := by
    intro st b r a hst hb ha hfree
    cases hst with
    | bye t tid =>
        obtain rfl := Option.some.inj ((Client.Bye.run_eq b r t).symm.trans ha)
        by_cases h : b.Says Msg.ROLE_SERVER Msg.MSG_HELLO
        · rw [if_pos h]
          refine ⟨hb.reply _ _ _, ?_⟩
          rw [rank_eq h, rank_eq (Packet.says_reply _ _ _ hb)]
          decide
        · rw [if_neg h] at hfree
          cases hfree
    | recvBye t tid =>
        obtain rfl := Option.some.inj ((Client.RecvBye.run_eq b r t).symm.trans ha)
        cases hfree
  pos := rank_pos

/-- What `connect` leaves in the pool, and what it sends. -/
theorem Client.connected (config : HelloBye2ClientConfig) {dstIP : UInt32} {srcPort : UInt16}
    {ident : UInt64} {r r' : Rand} {d : Ptr Client.Object} {b : Packet}
    {a : Answer (Ptr Client.Object) Packet Rand}
    (hd : Client.create dstIP srcPort ident r = some (d, r'))
    (ha : (Client.service config).answer (State.new MoonState.Client.States.Hello d) b r' = some a) :
    Client.Live (Service.after (State.new MoonState.Client.States.Hello d) a) ∧ a.pkt.Clear := by
  obtain ⟨rfl, -⟩ := Prod.mk.inj (Option.some.inj hd)
  obtain rfl := Option.some.inj ((Client.Hello.run_eq b _ config _).symm.trans ha)
  exact ⟨.bye _ _, Client.Hello.func_clear config _ b r'⟩

end HelloBye2

/-! ### Cores -/

namespace Cores

variable {ι K D R : Type} [DecidableEq ι] [DecidableEq K] [Inhabited D]

/-- The machines run, and every connection satisfies `ok`. -/
structure Kept (u : Service K D Packet R) (ok : State D → Prop) (x : Cores ι K D Packet R) :
    Prop where
  runs : ∀ i, u.Runs (x.sms i)
  all : ∀ i, (x.core i).held.All ok

variable {u : Service K D Packet R} {ok : State D → Prop} {clear : Packet → Prop}
  {rank : Packet → Nat} {x x' : Cores ι K D Packet R} {pl : Service.Platform}

omit [DecidableEq ι] [Inhabited D] in
theorem start_kept (r : R) : (Cores.start (ι := ι) u r).Kept u ok :=
  ⟨fun _ => Instance.start_runs u r,
    fun _ => ⟨fun _ _ h => absurd h (by simp [start, core, Instance.held, Service.machine, StateMachine.new]), fun _ _ h => absurd h (by simp [start, core, Instance.held])⟩⟩

omit [Inhabited D] in
/-- A core has left its part. -/
theorem Kept.put (h : x.Kept u ok) (i : ι) {y : Instance K D Packet R} (hruns : u.Runs y.sm)
    (hall : y.held.All ok) : (x.put i y).Kept u ok := by
  constructor
  · intro j
    show u.Runs ((x.put i y).core j).sm
    rw [core_put]
    split
    · exact hruns
    · exact h.runs j
  · intro j
    rw [core_put]
    split
    · exact hall
    · exact ⟨(h.all j).table, hall.pool⟩

/-- A core gets a batch. -/
theorem Kept.process (h : x.Kept u ok) (hu : u.Ranked ok clear rank) {i : ι} {inPkts : InPkts Packet}
    (hclear : ∀ b ∈ inPkts.pkts, clear b) {outs : List (Packet × Bool)}
    (hcall : x.call u pl (.process i inPkts) = .ok (x', outs)) :
    x'.Kept u ok ∧ (∀ b ∈ sent outs, clear b) ∧
      inPkts.pkts.length + load rank (sent outs) ≤ load rank inPkts.pkts := by
  have hp := Instance.process_eq pl (x := x.core i) (h.runs i) inPkts.pkts inPkts.nonempty inPkts.fits
  simp only [call] at hcall
  cases hall : u.receiveAll inPkts.pkts (x.core i).held with
  | none =>
      rw [hall] at hp
      obtain ⟨e, he⟩ := hp
      simp [he, Except.map] at hcall
  | some ho =>
      rw [hall] at hp
      obtain ⟨y, hy, hheld, hruns⟩ := hp
      rw [hy] at hcall
      obtain ⟨rfl, rfl⟩ := Prod.mk.inj (Except.ok.inj hcall)
      obtain ⟨hh, hsent, hle⟩ := hu.receiveAll inPkts.pkts hclear (h.all i) hall
      exact ⟨h.put i hruns (hheld ▸ hh), hsent, hle⟩

/-- A core opens a connection. -/
theorem Kept.connect (h : x.Kept u ok) {i : ι} {id : K} {state : StateID} {create : R → Option (D × R)}
    {b : Packet} {hpos : 0 < [b].length} {hlt : [b].length < 2 ^ 32}
    (hnew : ∀ r d r' a, create r = some (d, r') → u.answer (State.new state d) b r' = some a →
      ok (Service.after (State.new state d) a) ∧ clear a.pkt)
    {outs : List (Packet × Bool)}
    (hcall : x.call u pl (.connect i id state create ⟨[b], hpos, hlt⟩) = .ok (x', outs)) :
    x'.Kept u ok ∧ (∀ b ∈ sent outs, clear b) ∧ (sent outs).length ≤ 1 := by
  have hc := Instance.connect_eq pl (x := x.core i) (h.runs i) id state create b [] hlt
  simp only [call] at hcall
  cases hcreate : create (x.core i).rest with
  | none =>
      rw [hcreate] at hc
      obtain ⟨e, he⟩ := hc
      simp [he, Except.map] at hcall
  | some dr =>
      obtain ⟨d, r⟩ := dr
      rw [hcreate, Option.bind_some] at hc
      unfold Service.openWith at hc
      cases ha : u.answer (State.new state d) b r with
      | none =>
          rw [show u.answer (State.new state d) b _ = none from ha] at hc
          obtain ⟨e, he⟩ := hc
          simp [he, Except.map] at hcall
      | some a =>
          rw [show u.answer (State.new state d) b _ = some a from ha] at hc
          obtain ⟨y, hy, hheld, hruns⟩ := hc
          rw [hy] at hcall
          obtain ⟨rfl, rfl⟩ := Prod.mk.inj (Except.ok.inj hcall)
          obtain ⟨hok, hclear⟩ := hnew _ d r a hcreate ha
          refine ⟨h.put i hruns ?_, ?_, ?_⟩
          · rw [hheld]
            refine ⟨(h.all i).table, fun j st hj => ?_⟩
            dsimp only at hj
            split at hj
            · exact (h.all i).pool j st hj
            · rcases FMap.lookup_insertNew_cases hj with hj | ⟨-, -, rfl⟩
              · exact (h.all i).pool j st hj
              · exact hok
          · cases hfree : a.free with
            | true => simp [sent]
            | false => simpa [sent] using hclear
          · cases hfree : a.free with
            | true => simp [sent]
            | false => simp [sent]

end Cores

/-! ### Exchanges -/

namespace Exchange

variable {ι κ M : Type} [DecidableEq ι] [DecidableEq κ] (mempool : Mempool M)
  (config : HelloBye2.HelloBye2ClientConfig) (pl : Service.Platform)

/-- The act puts a message on the network. -/
def Act.puts : Act ι κ → Bool
  | .connect .. => true
  | .inject _ => true
  | _ => false

/-- Connections in order, and clear messages. -/
structure Calm (n : Plain ι κ) : Prop where
  server : n.server.Kept HelloBye2.Server.service HelloBye2.Server.Live
  client : n.client.Kept (HelloBye2.Client.service config) HelloBye2.Client.Live
  flight : ∀ p ∈ n.flight, p.Clear

/-- What may still come of the messages in flight. -/
def due (n : Plain ι κ) : Nat := load HelloBye2.rank n.flight

/-- A batch and what is left of the flight. -/
theorem received_perm {picks : List Nat} {flight : List Packet} {inPkts : InPkts Packet}
    (h : received picks flight = some inPkts) :
    (inPkts.pkts ++ (pick picks flight).2).Perm flight := by
  unfold received at h
  dsimp only at h
  split at h
  · obtain rfl := Option.some.inj h
    have hpick := HelloBye2.pick_eq picks flight
    rw [Multiset.coe_add, Multiset.coe_eq_coe] at hpick
    exact hpick.symm
  · cases h

theorem load_append (rank : Packet → Nat) (ps qs : List Packet) :
    load rank (ps ++ qs) = load rank ps + load rank qs := by
  unfold load
  rw [List.map_append, List.sum_append]

theorem load_perm (rank : Packet → Nat) {ps qs : List Packet} (h : ps.Perm qs) :
    load rank ps = load rank qs :=
  (h.map rank).sum_eq

omit [DecidableEq ι] [DecidableEq κ] in
/-- A batch was taken out of the flight, and this is sent. -/
theorem due_delivered {n : Plain ι κ} {picks : List Nat} {inPkts : InPkts Packet}
    (ho : received picks n.flight = some inPkts) {out : List Packet}
    (hle : inPkts.pkts.length + load HelloBye2.rank out ≤ load HelloBye2.rank inPkts.pkts) :
    inPkts.pkts.length + load HelloBye2.rank ((pick picks n.flight).2 ++ out) ≤ n.due := by
  have hload := load_perm HelloBye2.rank (received_perm ho)
  rw [load_append] at hload
  rw [load_append]
  unfold due
  omega

theorem load_le (ps : List Packet) : load HelloBye2.rank ps ≤ 4 * ps.length := by
  induction ps with
  | nil => exact Nat.le_refl 0
  | cons p ps ih =>
      have hle := HelloBye2.rank_le p
      simp only [load, List.map_cons, List.sum_cons, List.length_cons] at ih ⊢
      omega

theorem length_le_load (ps : List Packet) : ps.length ≤ load HelloBye2.rank ps := by
  induction ps with
  | nil => exact Nat.le_refl 0
  | cons p ps ih =>
      have hpos := HelloBye2.rank_pos p
      simp only [load, List.map_cons, List.sum_cons, List.length_cons] at ih ⊢
      omega

theorem load_sublist (rank : Packet → Nat) {ps qs : List Packet} (h : ps.Sublist qs) :
    load rank ps ≤ load rank qs := by
  unfold load
  induction h with
  | slnil => exact Nat.le_refl _
  | cons a h ih =>
      rw [List.map_cons, List.sum_cons]
      exact Nat.le_add_left_of_le ih
  | cons_cons a h ih =>
      rw [List.map_cons, List.map_cons, List.sum_cons, List.sum_cons]
      exact Nat.add_le_add_left ih _

/-- **One act**: a delivery takes from what is due, and a new message brings in four at most. -/
theorem Calm.step {n n' : Plain ι κ} {k : Nat} {a : Act ι κ} (h : n.Calm config)
    (hclear : ∀ pkt, a = .inject pkt → pkt.Clear)
    (hstep : n.go mempool config pl .helloBye2 .helloBye2 a = .ok (n', k)) :
    n'.Calm config ∧ k + n'.due ≤ n.due + 4 * (if a.puts then 1 else 0) := by
  cases a with
  | server i picks =>
      cases ho : received picks n.flight with
      | none =>
          obtain ⟨rfl, rfl⟩ := Prod.mk.inj (Except.ok.inj ((step_server_idle pl _ ho i).symm.trans hstep))
          exact ⟨h, by simp⟩
      | some inPkts =>
          have hall : ∀ p ∈ inPkts.pkts ++ (pick picks n.flight).2, p.Clear :=
            fun p hp => h.flight p ((received_perm ho).subset hp)
          obtain ⟨r, hcall, heq⟩ := HelloBye2.Net.map_eq_ok ((step_server pl _ ho i).symm.trans hstep)
          obtain ⟨rfl, rfl⟩ := Prod.mk.inj heq
          obtain ⟨hkept, hsent, hle⟩ := h.server.process HelloBye2.Server.ranked
            (fun p hp => hall p (List.mem_append_left _ hp)) hcall
          refine ⟨⟨hkept, h.client, fun p hp => ?_⟩, due_delivered ho hle⟩
          rcases List.mem_append.mp hp with hp | hp
          · exact hall p (List.mem_append_right _ hp)
          · exact hsent p hp
  | client j picks =>
      cases ho : received picks n.flight with
      | none =>
          obtain ⟨rfl, rfl⟩ := Prod.mk.inj (Except.ok.inj ((step_client_idle pl _ ho j).symm.trans hstep))
          exact ⟨h, by simp⟩
      | some inPkts =>
          have hall : ∀ p ∈ inPkts.pkts ++ (pick picks n.flight).2, p.Clear :=
            fun p hp => h.flight p ((received_perm ho).subset hp)
          obtain ⟨r, hcall, heq⟩ := HelloBye2.Net.map_eq_ok ((step_client pl _ ho j).symm.trans hstep)
          obtain ⟨rfl, rfl⟩ := Prod.mk.inj heq
          obtain ⟨hkept, hsent, hle⟩ := h.client.process (HelloBye2.Client.ranked config)
            (fun p hp => hall p (List.mem_append_left _ hp)) hcall
          refine ⟨⟨h.server, hkept, fun p hp => ?_⟩, due_delivered ho hle⟩
          rcases List.mem_append.mp hp with hp | hp
          · exact hall p (List.mem_append_right _ hp)
          · exact hsent p hp
  | connect j dstIP srcPort ident pkt =>
      obtain ⟨r, hcall, heq⟩ := HelloBye2.Net.map_eq_ok hstep
      obtain ⟨rfl, rfl⟩ := Prod.mk.inj heq
      obtain ⟨hkept, hsent, hle⟩ := h.client.connect
        (fun _ _ _ _ hd ha => HelloBye2.Client.connected config hd ha) hcall
      refine ⟨⟨h.server, hkept, fun p hp => ?_⟩, ?_⟩
      · rcases List.mem_append.mp hp with hp | hp
        · exact h.flight p hp
        · exact hsent p hp
      · show 0 + load HelloBye2.rank (n.flight ++ sent r.2) ≤ load HelloBye2.rank n.flight + 4
        rw [load_append]
        have hle := load_le (sent r.2)
        omega
  | inject pkt =>
      obtain ⟨rfl, rfl⟩ := Prod.mk.inj (Except.ok.inj hstep)
      refine ⟨⟨h.server, h.client, fun p hp => ?_⟩, ?_⟩
      · rcases List.mem_append.mp hp with hp | hp
        · exact h.flight p hp
        · obtain rfl := List.mem_singleton.mp hp
          exact hclear p rfl
      · show 0 + load HelloBye2.rank (n.flight ++ [pkt]) ≤ load HelloBye2.rank n.flight + 4
        rw [load_append]
        have hle := load_le [pkt]
        simp only [List.length_singleton] at hle
        omega
  | lose k =>
      obtain ⟨rfl, rfl⟩ := Prod.mk.inj (Except.ok.inj hstep)
      refine ⟨⟨h.server, h.client, fun p hp => h.flight p (List.mem_of_mem_eraseIdx hp)⟩, ?_⟩
      show 0 + load HelloBye2.rank (n.flight.eraseIdx k) ≤ load HelloBye2.rank n.flight + 4 * 0
      have hle := load_sublist HelloBye2.rank (List.eraseIdx_sublist n.flight k)
      omega

/-- **All acts.** -/
theorem Calm.feed (acts : List (Act ι κ)) (hclear : ∀ pkt, Act.inject pkt ∈ acts → pkt.Clear)
    {n n' : Plain ι κ} {ks : List Nat} (h : n.Calm config)
    (hrun : MoonState.feed (go mempool config pl .helloBye2 .helloBye2) n acts = .ok (n', ks)) :
    ks.sum + n'.due ≤ n.due + 4 * acts.countP Act.puts := by
  induction acts generalizing n ks with
  | nil =>
      obtain ⟨rfl, rfl⟩ := Prod.mk.inj (Except.ok.inj hrun)
      simp
  | cons a acts ih =>
      rw [MoonState.feed] at hrun
      cases hstep : n.go mempool config pl .helloBye2 .helloBye2 a with
      | error e => simp [hstep] at hrun
      | ok r =>
          obtain ⟨n₁, k⟩ := r
          rw [hstep] at hrun
          dsimp only at hrun
          cases hrest : MoonState.feed (go mempool config pl .helloBye2 .helloBye2) n₁ acts with
          | error e => simp [hrest] at hrun
          | ok r =>
              obtain ⟨n₂, ks'⟩ := r
              rw [hrest] at hrun
              obtain ⟨rfl, rfl⟩ := Prod.mk.inj (Except.ok.inj hrun)
              obtain ⟨h₁, hle⟩ := h.step mempool config pl
                (fun pkt hpkt => hclear pkt (hpkt ▸ List.mem_cons_self)) hstep
              have hle' := ih (fun pkt hpkt => hclear pkt (List.mem_cons_of_mem _ hpkt)) h₁ hrest
              rw [List.sum_cons, List.countP_cons]
              omega

omit [DecidableEq ι] [DecidableEq κ] in
theorem start_calm (r s : Rand) : (Exchange.start (ι := ι) (κ := κ)
    (Parties.of mempool config .helloBye2 .helloBye2) r s).Calm config :=
  ⟨Cores.start_kept r, Cores.start_kept s, fun _ hp => absurd hp List.not_mem_nil⟩

/-- **Nothing goes on for ever.**

However the network delivers, loses and batches the messages of servers and clients of
any version, and whatever anybody else sends: the machines are handed four messages at
most for every connection that was opened and every message from somebody else, and
what is still in flight is counted in.
-/
theorem deliveries_le (sv cv : Version) (r s : Rand) (p q : M) {acts : List (Act ι κ)}
    (hclear : ∀ pkt, Act.inject pkt ∈ acts → pkt.Clear) {m : Mixed ι κ M sv cv} {ks : List Nat}
    (hrun : feed (go mempool config pl sv cv) (Exchange.start (Parties.of mempool config sv cv)
      (sv.rest r p) (cv.rest s q)) acts = .ok (m, ks)) :
    ks.sum + m.flight.length ≤ 4 * acts.countP Act.puts := by
  obtain ⟨n, os, hn, ⟨⟨e, he⟩, -⟩ | ⟨m', hm, h⟩⟩ := feed_mixed mempool config pl sv cv r s p q acts
  · simp [he] at hrun
  · obtain ⟨rfl, rfl⟩ := Prod.mk.inj (Except.ok.inj (hm.symm.trans hrun))
    have hle := (start_calm mempool config r s).feed mempool config pl acts hclear hn
    have hflight := length_le_load n.flight
    rw [h.flight] at hflight
    have hstart : (Exchange.start (ι := ι) (κ := κ)
      (Parties.of mempool config .helloBye2 .helloBye2) r s).due = 0 := rfl
    have hdue : n.due = load HelloBye2.rank m'.flight := congrArg (load HelloBye2.rank) h.flight
    omega

/-- A connection, and a hello somebody forged. -/
theorem deliveries_le_hello : ∃ (m : Mixed Unit Unit Unit .helloBye2 .helloBye2) (ks : List Nat),
    feed (go ⟨fun _ => none, id⟩ ⟨1, 2⟩ HelloBye2.pair.platform .helloBye2 .helloBye2)
      (Exchange.start (Parties.of ⟨fun _ => none, id⟩ ⟨1, 2⟩ .helloBye2 .helloBye2) id id)
      [.connect () 3 4 5 default, .inject (Cores.hello 7), .server () [0, 0], .client () [0]]
        = .ok (m, ks) ∧ ks.sum + m.flight.length ≤ 4 * 2 := by
  obtain ⟨m, ks, hm, -⟩ := feed_mixed (M := Unit) ⟨fun _ => none, id⟩ ⟨1, 2⟩
    HelloBye2.pair.platform .helloBye2 .helloBye2 id id () ()
    [.connect () 3 4 5 default, .inject (Cores.hello 7), .server () [0, 0], .client () [0]]
  refine ⟨m, ks, hm, deliveries_le _ _ _ .helloBye2 .helloBye2 id id () () ?_ hm⟩
  intro pkt hpkt
  obtain rfl : pkt = Cores.hello 7 := by simpa using hpkt
  decide

end Exchange

end MoonState
