/-
The lives of a TCP server.

A machine that keeps a value for each connection, and whose functions look at no other,
does to every connection what its own packets do: `Splits` is what that takes of one
packet.  The TCP server keeps a `Life`, from the SYN on to the end, so whatever is said
of one is said of every connection of a run of the server.

The answers are turned around, which takes them back to where their packets came from.
-/
import MoonState.Lib.Keyed
import MoonState.Proofs.Cores
import MoonState.Proofs.TcpPair

namespace MoonState

/-! ### A value for each connection -/

namespace Service

variable {K D B R C : Type} [DecidableEq K] [Inhabited D]

/-- A packet that has a connection changes the value of that connection, by `step`, and comes out
as `step` says.  The machine shows the values. -/
def Splits (u : Service K D B R) (shows : (K → C) → Held K D R → Prop)
    (step : C → B → C × B × Bool) : Prop :=
  ∀ f x id b, shows f x → u.ident b = some id →
    ∃ x', u.receive x b = some (x', (step (f id) b).2) ∧
      shows (Function.update f id (step (f id) b).1) x'

/-- A packet that has none is dropped. -/
theorem receive_unidentified (u : Service K D B R) (x : Held K D R) {b : B}
    (hb : u.ident b = none) : u.receive x b = some (x, b, false) := by
  unfold receive
  rw [hb]

/-- **All packets.**  Every value is what the packets of its connection make of it. -/
theorem Splits.receiveAll {u : Service K D B R} {shows : (K → C) → Held K D R → Prop}
    {step : C → B → C × B × Bool} (h : u.Splits shows step) (bs : List B) {f : K → C}
    {x : Held K D R} (hs : shows f x) :
    ∃ x' outs f', u.receiveAll bs x = some (x', outs) ∧ outs.length = bs.length ∧ shows f' x' ∧
      (∀ r ∈ bs.zip outs, u.ident r.1 = none → r.2 = (r.1, false)) ∧
      ∀ id, Keyed.runOne (fun c b => some (step c b)) (bs.filter (u.ident · = some id)) (f id)
        = some (f' id, (bs.zip outs).filter (u.ident ·.1 = some id)) := by
  induction bs generalizing f x with
  | nil => exact ⟨x, [], f, rfl, rfl, hs, by simp, fun id => rfl⟩
  | cons b bs ih =>
      rw [Service.receiveAll]
      cases hb : u.ident b with
      | none =>
          obtain ⟨x', outs, f', hall, hlen, hs', hnone, hone⟩ := ih hs
          rw [u.receive_unidentified x hb]
          refine ⟨x', (b, false) :: outs, f', by simp only [hall]; rfl, congrArg Nat.succ hlen, hs',
            ?_, ?_⟩
          · intro r hr hr'
            rcases List.mem_cons.mp hr with rfl | hmem
            · rfl
            · exact hnone r hmem hr'
          · intro id
            rw [List.zip_cons_cons, List.filter_cons_of_neg (by simp [hb]),
              List.filter_cons_of_neg (by simp [hb])]
            exact hone id
      | some i =>
          obtain ⟨x₁, hrec, hs₁⟩ := h f x i b hs hb
          obtain ⟨x', outs, f', hall, hlen, hs', hnone, hone⟩ := ih hs₁
          rw [hrec]
          refine ⟨x', (step (f i) b).2 :: outs, f', by simp only [hall]; rfl, congrArg Nat.succ hlen,
            hs', ?_, ?_⟩
          · intro r hr hr'
            rcases List.mem_cons.mp hr with rfl | hmem
            · simp [hb] at hr'
            · exact hnone r hmem hr'
          · intro id
            have hrest := hone id
            rw [List.zip_cons_cons]
            by_cases hid : i = id
            · subst hid
              rw [Function.update_self] at hrest
              rw [List.filter_cons_of_pos (by simp [hb]), List.filter_cons_of_pos (by simp [hb])]
              exact Keyed.runOne_cons_eq_some.mpr ⟨_, _, _, rfl, hrest, rfl⟩
            · rw [Function.update_of_ne (Ne.symm hid)] at hrest
              rw [List.filter_cons_of_neg (by simp [hb, hid]),
                List.filter_cons_of_neg (by simp [hb, hid])]
              exact hrest

end Service

namespace TCP

open Headers
open IPv4_5TupleL2Ident (ConnectionID)

variable {σ κ : Type} {proto : Proto σ} {conCtl : ConCtl κ} {c : Connection σ κ} {f pkt : Mbuf}

/-! ### Answers are turned around -/

/-- What is written behind the ports is not of the addresses. -/
theorem Turned.congr (h : Turned f pkt) {pkt' : Mbuf}
    (hsame : ∀ j, j = 14 ∨ (20 ≤ j ∧ j < 34) ∨ (f.tcp ≤ j ∧ j < f.tcp + 4) →
      pkt'.data j = pkt.data j) : Turned f pkt' :=
  fun j hj => (hsame j hj).trans (h j hj)

theorem goBackN_turned (h5 : 5 ≤ f.ihl) :
    Turned f (goBackN c f.swapped sizeofEthernet f.tcp).pkt := by
  have hle := Mbuf.tcp_of_whole h5
  obtain ⟨seq, hdata⟩ : ∃ seq, (goBackN c f.swapped sizeofEthernet f.tcp).pkt.data
      = Tcp.setWindow (Tcp.setSeq (IPv4.setPayloadLength (answerHeader c f.swapped f.tcp)
          sizeofEthernet (UInt16.ofNat sizeofTcp)) f.tcp seq) f.tcp (UInt16.ofNat (4 * MSS)) := by
    unfold goBackN
    cases c.dataToSend with
    | nil => exact ⟨_, rfl⟩
    | cons front rest => exact ⟨_, rfl⟩
  refine (acks_answerHeader c h5 0).turned.congr fun j hj => ?_
  rw [hdata]
  unfold Tcp.setWindow Tcp.setSeq IPv4.setPayloadLength sizeofEthernet
  simp (disch := omega) only [Mem.set16_of_ne, Mem.set32_of_ne]

/-- Each frame of the send loop acknowledges like the header it started with. -/
theorem acks_sent {seqRemote : UInt32} (maxSend : UInt32) (h5 : 5 ≤ f.ihl) (queue : List Segment)
    (alreadySent : UInt32) {s : Sending} (h : Acks f seqRemote s.pkt) :
    ∀ x ∈ sent maxSend queue alreadySent s, Acks f seqRemote x.2 := by
  induction queue generalizing alreadySent s with
  | nil =>
      intro x hx
      simp [sent] at hx
  | cons seg rest ih =>
      intro x hx
      rw [sent] at hx
      split at hx
      · dsimp only at hx
        split at hx
        · rcases List.mem_cons.mp hx with rfl | hx
          · exact h.put h5 seg
          · exact ih _ (h.put h5 seg) x hx
        · rw [List.mem_singleton.mp hx]
          exact h.put h5 _
      · simp at hx

theorem transmitted_turned (h5 : 5 ≤ f.ihl) (he : Expected c f) :
    Turned f (transmitted proto conCtl c f).2.pkt := by
  have hacks : Acks f (runEst proto conCtl c f).conn.seqRemote (pktAtSend conCtl c f) :=
    acks_pktAtSend h5 he
  rw [transmitted_pkt]
  cases hlast : (frames proto conCtl c f).getLast? with
  | none => exact hacks.turned
  | some x =>
      exact (acks_sent (s := ⟨_, _, _, pktAtSend conCtl c f, _, _⟩) _ h5 _ 0 hacks x
        (List.mem_of_getLast? hlast)).turned

theorem runEst_turned (h5 : 5 ≤ f.ihl) : Turned f (runEst proto conCtl c f).pkt := by
  obtain hbad | ⟨hflags, hseq⟩ | he := runEst_cases c f
  · rw [runEst_of_bad proto conCtl c hbad]
    exact (abort_resets h5).turned
  · rw [runEst_of_unexpected proto conCtl hflags hseq]
    exact goBackN_turned h5
  · have hturned : Turned f (transmitted proto conCtl c f).2.pkt := transmitted_turned h5 he
    have htcp := (transmitted_flagged (c := c) proto conCtl ⟨h5, he.1⟩).2
    have hle := Mbuf.tcp_of_whole h5
    rw [runEst_eq_finish proto conCtl he]
    unfold finish
    split
    · refine hturned.congr fun j hj => ?_
      rw [htcp]
      exact Mem.set8_of_ne _ (by omega)
    · exact hturned

theorem runSynAck_turned (h5 : 5 ≤ f.ihl) : Turned f (runSynAck c f).pkt := by
  cases h : f.noSyn with
  | true => exact (runSynAck_resets h5 h).turned
  | false => exact (runSynAck_acks h5 h).turned

theorem runAckFin_turned (h5 : 5 ≤ f.ihl) : Turned f (runAckFin c f).pkt := by
  have hle := Mbuf.tcp_of_whole h5
  rw [runAckFin_eq]
  split
  · intro j hj
    dsimp only
    unfold Tcp.setRstFlag Tcp.clearFlags
    rw [Mem.set8_of_ne _ (by omega), Mem.set8_of_ne _ (by omega)]
  · split
    · intro j hj
      dsimp only
      unfold finAnswer Tcp.setOffset Tcp.setAckFlag Tcp.clearFlags Tcp.setAck Tcp.setSeq
      simp (disch := omega) only [Mem.set8_of_ne, Mem.set32_of_ne]
    · exact fun j _ => rfl

/-! ### The state that follows -/

variable (c f) in
theorem runSynAck_state : (runSynAck c f).newState = some States.est ∨
    (runSynAck c f).newState = some States.END := by
  unfold runSynAck
  dsimp only
  split
  · exact Or.inr rfl
  · exact Or.inl rfl

variable (proto conCtl c f) in
theorem runEst_state : (runEst proto conCtl c f).newState = none ∨
    (runEst proto conCtl c f).newState = some States.ack_fin ∨
    (runEst proto conCtl c f).newState = some States.END := by
  obtain hbad | ⟨hflags, hseq⟩ | he := runEst_cases c f
  · rw [runEst_of_bad proto conCtl c hbad]
    exact Or.inr (Or.inr rfl)
  · rw [runEst_of_unexpected proto conCtl hflags hseq]
    exact Or.inl rfl
  · rw [runEst_eq_finish proto conCtl he]
    unfold finish
    split
    · exact Or.inr (Or.inl rfl)
    · exact Or.inl rfl

variable (c f) in
theorem runAckFin_state : (runAckFin c f).newState = none ∨
    (runAckFin c f).newState = some States.END := by
  rw [runAckFin_eq]
  split
  · exact Or.inr rfl
  · split
    · exact Or.inr rfl
    · exact Or.inl rfl

/-! ### One connection -/

namespace Life

/-- The connection goes on. -/
def Open (y : Life σ κ) : Prop := y.session.state = States.est ∨ y.session.state = States.ack_fin

/-- The `State` of the connection. -/
def object (y : Life σ κ) : State (Ptr (Connection σ κ)) :=
  State.new y.session.state (.to y.session.conn)

variable (proto conCtl) in
/-- What becomes of a connection with a packet, of the packet, and whether it is sent.  The packet
of a connection that is not there opens one, and one that has ended is not there. -/
def receive (y : Option (Life σ κ)) (p : Mbuf) : Option (Life σ κ) × Mbuf × Bool :=
  match y with
  | none =>
    let y := accept proto conCtl p
    let o := runSynAck (factory proto conCtl) p
    (if y.session.state = States.END then none else some y, o.pkt, !o.free)
  | some y =>
    let o := y.answer proto conCtl p
    let y := y.packet proto conCtl p
    (if y.session.state = States.END then none else some y, o.pkt, !o.free)

variable {y : Life σ κ}

theorem open_accept (p : Mbuf) (h : (accept proto conCtl p).session.state ≠ States.END) :
    (accept proto conCtl p).Open := by
  have hstate : (accept proto conCtl p).session.state
      = (runSynAck (factory proto conCtl) p).newState.getD States.syn_ack := rfl
  rcases runSynAck_state (factory proto conCtl) p with hnew | hnew
  · exact Or.inl (by rw [hstate, hnew]; rfl)
  · exact absurd (by rw [hstate, hnew]; rfl) h

/-- A connection that has not ended goes on. -/
theorem Open.packet (ho : y.Open) (p : Mbuf)
    (h : (y.packet proto conCtl p).session.state ≠ States.END) :
    (y.packet proto conCtl p).Open := by
  rcases ho with hest | hfin
  · rw [packet_est hest] at h ⊢
    have hstate : (y.session.packet proto conCtl p).state
        = (runEst proto conCtl y.session.conn p).newState.getD y.session.state := rfl
    rcases runEst_state proto conCtl y.session.conn p with hnew | hnew | hnew
    · exact Or.inl (by rw [hstate, hnew]; exact hest)
    · exact Or.inr (by rw [hstate, hnew]; rfl)
    · exact absurd (by rw [hstate, hnew]; rfl) h
  · have hstate := (packet_ackFin proto conCtl p hfin).1
    rcases runAckFin_state y.session.conn p with hnew | hnew
    · exact Or.inr (by rw [hstate, hnew]; rfl)
    · exact absurd (by rw [hstate, hnew]; rfl) h

variable (proto conCtl) in
/-- The function of the state answers. -/
theorem Open.answer_eq (ho : y.Open) (p : Mbuf) : ∃ a,
    (service proto conCtl).answer y.object p () = some a ∧
      Service.after y.object a = (y.packet proto conCtl p).object ∧
      (a.pkt, !a.free) = (receive proto conCtl (some y) p).2 := by
  obtain ⟨⟨conn, state, stream, received, acked, finished⟩, finAcked⟩ := y
  rcases ho with hest | hfin
  · obtain rfl : state = States.est := hest
    let o := runEst proto conCtl conn p
    refine ⟨⟨.to o.conn, o.newState, o.pkt, (), o.free⟩, rfl, ?_, ?_⟩
    · rw [packet_est rfl]
      rfl
    · show _ = ((answer _ _ _ p).pkt, !(answer _ _ _ p).free)
      rw [answer_est rfl]
  · obtain rfl : state = States.ack_fin := hfin
    let o := runAckFin conn p
    refine ⟨⟨.to o.conn, o.newState, o.pkt, (), o.free⟩, rfl, ?_, ?_⟩
    · unfold Life.packet
      rw [if_neg (show States.ack_fin ≠ States.est by decide)]
      rfl
    · show _ = ((answer _ _ _ p).pkt, !(answer _ _ _ p).free)
      rw [answer_ackFin rfl]

/-- One packet, of a connection that goes on if it is there. -/
theorem receive_open {y : Option (Life σ κ)} (ho : ∀ z, y = some z → z.Open) (p : Mbuf) :
    (∀ z, (receive proto conCtl y p).1 = some z → z.Open) ∧
      (5 ≤ p.ihl → Turned p (receive proto conCtl y p).2.1) := by
  cases y with
  | none =>
      refine ⟨fun z hz => ?_, fun h5 => runSynAck_turned h5⟩
      obtain ⟨hend, heq⟩ := Option.ite_none_left_eq_some.mp hz
      rw [← Option.some.inj heq]
      exact open_accept p hend
  | some y =>
      have hy := ho y rfl
      refine ⟨fun z hz => ?_, fun h5 => ?_⟩
      · obtain ⟨hend, heq⟩ := Option.ite_none_left_eq_some.mp hz
        rw [← Option.some.inj heq]
        exact hy.packet p hend
      · show Turned p (y.answer proto conCtl p).pkt
        rcases hy with hest | hfin
        · rw [answer_est hest]
          exact runEst_turned h5
        · rw [answer_ackFin hfin]
          exact runAckFin_turned h5

end Life

/-! ### The server -/

/-- The server has these connections, and nothing in its pool. -/
structure Shows (g : ConnectionID → Option (Life σ κ)) (x : Table σ κ) : Prop where
  table : ∀ id, x.table.lookup id = (g id).map Life.object
  pool : ∀ id, x.pool.lookup id = none
  isOpen : ∀ id y, g id = some y → y.Open

variable (proto conCtl) in
/-- **A packet is of the life of its 5-tuple.** -/
theorem splits : (service proto conCtl).Splits Shows (Life.receive proto conCtl) := by
  intro g x id p hs hp
  have hserves : ∃ st a x', (service proto conCtl).Serves x p id st a x' ∧
      (a.pkt, !a.free) = (Life.receive proto conCtl (g id) p).2 ∧
      (if (Service.after st a).state = States.END then none else some (Service.after st a))
        = (Life.receive proto conCtl (g id) p).1.map Life.object := by
    cases hg : g id with
    | none =>
        have ht := hs.table id
        rw [hg, Option.map_none] at ht
        obtain ⟨x', hx'⟩ := Service.serves_of_new (u := service proto conCtl) hp ht (hs.pool id) rfl
          rfl (a := ⟨.to (runSynAck (factory proto conCtl) p).conn,
            (runSynAck (factory proto conCtl) p).newState,
            (runSynAck (factory proto conCtl) p).pkt, (),
            (runSynAck (factory proto conCtl) p).free⟩) rfl
        refine ⟨_, _, x', hx', rfl, ?_⟩
        show (if _ then none else some (Life.accept proto conCtl p).object)
          = Option.map _ (if (Life.accept proto conCtl p).session.state = States.END then _ else _)
        by_cases hend : (Life.accept proto conCtl p).session.state = States.END
        · rw [if_pos hend]
          exact if_pos hend
        · rw [if_neg hend]
          exact if_neg hend
    | some y =>
        have ht := hs.table id
        rw [hg, Option.map_some] at ht
        obtain ⟨a, ha, hafter, hout⟩ := (hs.isOpen id y hg).answer_eq proto conCtl p
        obtain ⟨x', hx'⟩ := Service.serves_of_table (u := service proto conCtl) hp ht ha
        refine ⟨_, a, x', hx', hout, ?_⟩
        rw [hafter]
        show _ = Option.map _ (if (y.packet proto conCtl p).session.state = States.END then _ else _)
        by_cases hend : (y.packet proto conCtl p).session.state = States.END
        · rw [if_pos hend]
          exact if_pos hend
        · rw [if_neg hend]
          exact if_neg hend
  obtain ⟨st, a, x', hx', hout, hafter⟩ := hserves
  refine ⟨x', by rw [hx'.receive, hout], fun j => ?_, fun j => ?_, fun j y hy => ?_⟩
  · rw [hx'.table]
    by_cases hj : j = id
    · rw [if_pos hj, hj, Function.update_self]
      exact hafter
    · rw [if_neg hj, Function.update_of_ne hj]
      exact hs.table j
  · rw [hx'.pool, hs.pool]
    exact ite_self none
  · by_cases hj : j = id
    · rw [hj, Function.update_self] at hy
      exact (Life.receive_open (hs.isOpen id) p).1 y hy
    · rw [Function.update_of_ne hj] at hy
      exact hs.isOpen j y hy

/-- **A run of the server is a life for each connection.**  However the packets are batched, the
server never stops. -/
theorem run_lives (proto : Proto σ) (conCtl : ConCtl κ) (pl : Service.Platform)
    (bs : List (InPkts Mbuf)) :
    ∃ x outs, ∃ g : ConnectionID → Option (Life σ κ),
      feed (fun x (b : InPkts Mbuf) => x.process (service proto conCtl) pl b.pkts)
        (Instance.start (service proto conCtl) ()) bs = .ok (x, outs) ∧
      outs.flatten.length = (bs.flatMap InPkts.pkts).length ∧
      (∀ id, x.sm.stateTable.lookup id = (g id).map Life.object) ∧
      (∀ id, Keyed.runOne (fun y p => some (Life.receive proto conCtl y p))
          ((bs.flatMap InPkts.pkts).filter fun p =>
            IPv4_5TupleL2Ident.identify p.data = some id) none
        = some (g id, ((bs.flatMap InPkts.pkts).zip outs.flatten).filter fun r =>
          IPv4_5TupleL2Ident.identify r.1.data = some id)) ∧
      ∀ r ∈ (bs.flatMap InPkts.pkts).zip outs.flatten,
        (IPv4_5TupleL2Ident.identify r.1.data = none → r.2 = (r.1, false)) ∧
        (5 ≤ r.1.ihl → IPv4_5TupleL2Ident.identify r.2.1.data
          = (IPv4_5TupleL2Ident.identify r.1.data).map ConnectionID.reverse) := by
  have hstart : Shows (fun _ => none : ConnectionID → Option (Life σ κ))
      (Instance.start (service proto conCtl) ()).held :=
    ⟨fun _ => rfl, fun _ => rfl, fun _ _ hc => absurd hc (by simp)⟩
  obtain ⟨x', outs, g, hall, hlen, hs, hnone, hone⟩ :=
    (splits proto conCtl).receiveAll (bs.flatMap InPkts.pkts) hstart
  obtain ⟨x, os, hfeed, rfl, rfl, -⟩ :=
    Instance.feed_inPkts pl bs (Instance.start_runs (service proto conCtl) ()) hall
  refine ⟨x, os, g, hfeed, hlen, hs.table, hone, fun r hr => ⟨hnone r hr, fun h5 => ?_⟩⟩
  cases hid : IPv4_5TupleL2Ident.identify r.1.data with
  | none =>
      rw [hnone r hr hid, hid]
      rfl
  | some id =>
      have hall : ∀ r ∈ ((bs.flatMap InPkts.pkts).zip os.flatten).filter fun r =>
          IPv4_5TupleL2Ident.identify r.1.data = some id, 5 ≤ r.1.ihl → Turned r.1 r.2.1 := by
        refine (Keyed.runOne_all (P := fun y => ∀ z, y = some z → Life.Open z)
          (Q := fun p out => 5 ≤ p.ihl → Turned p out.1) ?_ ?_ (hone id)).2
        · intro y p ho y' out hout
          obtain ⟨rfl, rfl⟩ := Prod.mk.inj (Option.some.inj hout)
          exact Life.receive_open ho p
        · exact fun _ hc => absurd hc (by simp)
      have hturned := hall r (List.mem_filter.mpr ⟨hr, by simpa using hid⟩) h5
      rw [hturned.identify h5, hid]

end TCP

end MoonState
