/-
What the TCP server does about a RST.

A function that frees its packet goes to no state, and one that goes to END has turned
its packet around to be sent.  So no packet ends a connection unanswered, a RST no more
than any other.  What is answered is a RST again, for the same connection of the peer,
and the connection it was for is forgotten: the RST that comes back opens a new one.

Between two servers that ends in no state.  `Only` says what a server may hold for that:
at most the connection the frame in flight belongs to.
-/
import MoonState.Model.TcpPair
import MoonState.Proofs.HelloBye
import MoonState.Proofs.Responder
import MoonState.Proofs.WellFormed

namespace MoonState

variable {P : Type} [DecidableEq P]

namespace TCP

open Headers IPv4_5TupleL2Ident

variable {σ κ : Type} {proto : Proto σ} {conCtl : ConCtl κ} {c : Connection σ κ} {f g : Mbuf}

/-! ### Freed packets -/

theorem runSynAck_free (c : Connection σ κ) (f : Mbuf) : (runSynAck c f).free = false := by
  unfold runSynAck
  dsimp only
  split
  · rfl
  · rfl

theorem finish_newState {s : Sending} {d : Delivery σ} (h : (finish c s d).free = true) :
    (finish c s d).newState = none := by
  unfold finish at h ⊢
  split at h
  · simp at h
  · rename_i hopen
    rw [if_neg hopen]

/-- Where `runEst` frees its packet, the connection stays. -/
theorem runEst_newState (h : (runEst proto conCtl c f).free = true) :
    (runEst proto conCtl c f).newState = none := by
  obtain hbad | ⟨hflags, hseq⟩ | hexp := runEst_cases c f
  · rw [runEst_of_bad proto conCtl c hbad] at h
    simp [abort] at h
  · rw [runEst_of_unexpected proto conCtl hflags hseq] at h
    simp [goBackN] at h
  · rw [runEst_of_expected proto conCtl hexp] at h ⊢
    exact finish_newState h

theorem runAckFin_newState (h : (runAckFin c f).free = true) :
    (runAckFin c f).newState = none := by
  rw [runAckFin_eq] at h ⊢
  split at h
  · simp at h
  · rename_i hok
    rw [if_neg hok]
    split at h
    · simp at h
    · rename_i hfin
      rw [if_neg hfin]

/-! ### One RST -/

/-- A connection the machine has a function for, and its object. -/
def Serving (st : State (Ptr (Connection σ κ))) : Prop :=
  (∃ c, st.stateData = .to c) ∧
    (st.state = States.syn_ack ∨ st.state = States.est ∨ st.state = States.ack_fin)

theorem Serving.ne_END {st : State (Ptr (Connection σ κ))} (h : Serving st) :
    st.state ≠ States.END := by
  rcases h.2 with h | h | h
  · rw [h]
    decide
  · rw [h]
    decide
  · rw [h]
    decide

/-- **A RST is not answered**, in slot `cur`, of connection `id`: it ends the connection and is
freed. -/
structure Unanswered {D W : Type} (id : ConnectionID) (cur : Nat) (p : P)
    (s' : Sys ConnectionID P D W) : Prop where
  ended : s'.sm.stateTable.lookup id = none
  freed : s'.pktsBA.slots[cur]? = some (p, false)

/-- What the function of a `State` answers. -/
theorem answer_eq (proto : Proto σ) (conCtl : ConCtl κ) (st : State (Ptr (Connection σ κ))) (h : Serving st) (f : Mbuf) :
    ∃ o : Outcome σ κ, (∀ w, (service proto conCtl).answer st f w
      = some ⟨.to o.conn, o.newState, o.pkt, w, o.free⟩) ∧
      (o.free = true → o.newState = none) := by
  obtain ⟨⟨c, hc⟩, hstate⟩ := h
  obtain ⟨d, n, t⟩ := st
  obtain rfl : d = .to c := hc
  rcases hstate with h | h | h
  · obtain rfl : n = States.syn_ack := h
    exact ⟨runSynAck c f, fun _ => rfl, fun hfree => by simp [runSynAck_free] at hfree⟩
  · obtain rfl : n = States.est := h
    exact ⟨runEst proto conCtl c f, fun _ => rfl, runEst_newState⟩
  · obtain rfl : n = States.ack_fin := h
    exact ⟨runAckFin c f, fun _ => rfl, runAckFin_newState⟩

/-- No packet ends a connection and is freed. -/
theorem runPkt_not_unanswered (pl : Service.Platform) {cur : Nat} {p : P} {id : ConnectionID}
    {s : Sys ConnectionID P (Ptr (Connection σ κ)) (World P Mbuf Unit)}
    {st : State (Ptr (Connection σ κ))} (hruns : (service proto conCtl).Runs s.sm)
    (hp : s.pktsBA.get cur = .ok p)
    (hserved : (service proto conCtl).served s.held (s.w.mem p) = some (id, st))
    (hst : Serving st) :
    ∃ s', runPkt ((service proto conCtl).env pl) cur s = .ok s' ∧ ¬ Unanswered id cur p s' := by
  obtain ⟨o, ho, hfree⟩ := answer_eq proto conCtl st hst (s.w.mem p)
  have hident : ∀ q w, ((service proto conCtl).env pl).identify q w
      = (service proto conCtl).ident (w.mem q) := fun (_ : P) _ => rfl
  obtain ⟨s', r, a, hs', ha, -, hslot, htable⟩ :=
    hruns.runPkt_served hident hp hserved fun w => by simp [ho]
  obtain rfl := Option.some.inj ((ho r).symm.trans ha)
  refine ⟨s', hs', fun hun => ?_⟩
  have hmark : o.free = true := by
    have hfreed := hun.freed
    rw [hslot] at hfreed
    simpa using hfreed
  have hstays : (Service.after st ⟨.to o.conn, o.newState, o.pkt, r, o.free⟩).state
      ≠ (service proto conCtl).endStateID := by
    unfold Service.after
    rw [hfree hmark]
    exact hst.ne_END
  have hended := hun.ended
  rw [htable, if_neg hstays] at hended
  simp at hended

/-! ### The connection of an answer -/

/-- The 5-tuple, from the fields of the headers. -/
theorem identify_eq (f : Mbuf) : IPv4_5TupleL2Ident.identify f.data =
    if f.data 23 = IPPROTO_UDP ∨ f.data 23 = IPPROTO_TCP then some
      { dstIP := Bytes.htonl (IPv4.getDstIP f.data sizeofEthernet)
        srcIP := Bytes.htonl (IPv4.getSrcIP f.data sizeofEthernet)
        dstPort := Bytes.htons (Tcp.getDstPort f.data f.tcp)
        srcPort := Bytes.htons (Tcp.getSrcPort f.data f.tcp)
        proto := f.data 23 } else none := by
  unfold IPv4_5TupleL2Ident.identify
  simp only [Mem.load16_eq, Mem.load32_eq]
  by_cases hudp : f.data 23 = IPPROTO_UDP
  · rw [if_pos (Or.inl hudp)]
    exact if_pos hudp
  · by_cases htcp : f.data 23 = IPPROTO_TCP
    · rw [if_pos (Or.inr htcp)]
      exact (if_neg hudp).trans (if_pos htcp)
    · rw [if_neg (not_or_intro hudp htcp)]
      exact (if_neg hudp).trans (if_neg htcp)

/-- A packet that is turned around is of the reversed connection. -/
theorem Turned.identify (ht : Turned f g) (h5 : 5 ≤ f.ihl) :
    IPv4_5TupleL2Ident.identify g.data
      = (IPv4_5TupleL2Ident.identify f.data).map ConnectionID.reverse := by
  have hle := Mbuf.tcp_of_whole h5
  have hlen : sizeofEthernet = 14 := rfl
  obtain ⟨hsrc, hdst, hsport, hdport⟩ := Mbuf.swapped_exchanges h5
  have hproto : g.data 23 = f.data 23 :=
    (ht 23 (by omega)).trans (swapAddresses_of_ne (by omega) (by omega))
  have hsrc' : IPv4.getSrcIP g.data sizeofEthernet = IPv4.getDstIP f.data sizeofEthernet := by
    rw [← hsrc]
    exact Mem.Same.get32 fun j _ _ => ht j (by omega)
  have hdst' : IPv4.getDstIP g.data sizeofEthernet = IPv4.getSrcIP f.data sizeofEthernet := by
    rw [← hdst]
    exact Mem.Same.get32 fun j _ _ => ht j (by omega)
  have hsport' : Tcp.getSrcPort g.data f.tcp = Tcp.getDstPort f.data f.tcp := by
    rw [← hsport]
    exact Mem.Same.get16 fun j _ _ => ht j (by omega)
  have hdport' : Tcp.getDstPort g.data f.tcp = Tcp.getSrcPort f.data f.tcp := by
    rw [← hdport]
    exact Mem.Same.get16 fun j _ _ => ht j (by omega)
  rw [identify_eq, identify_eq, ht.tcp h5, hproto, hsrc', hdst', hsport', hdport']
  split
  · rfl
  · rfl

/-! ### What a server holds in the exchange -/

/-- The state of a server between packets. -/
abbrev Table (σ κ : Type) := Held ConnectionID (Ptr (Connection σ κ)) Unit

/-- There is no connection but `id`, which is established if it is there. -/
structure Only (id : ConnectionID) (x : Table σ κ) : Prop where
  table : ∀ k st, x.table.lookup k = some st →
    k = id ∧ st.state = States.est ∧ ∃ c, st.stateData = .to c
  pool : ∀ k, x.pool.lookup k = none

/-- There is none. -/
def Idle (x : Table σ κ) : Prop := ∀ k, x.table.lookup k = none ∧ x.pool.lookup k = none

theorem Idle.only {x : Table σ κ} (h : Idle x) (id : ConnectionID) : Only id x where
  table := fun k st hst => by simp [(h k).1] at hst
  pool := fun k => (h k).2

/-- The packet is of connection `id`, and its TCP header behind the addresses. -/
structure Of (id : ConnectionID) (f : Mbuf) : Prop where
  ihl : 5 ≤ f.ihl
  id : IPv4_5TupleL2Ident.identify f.data = some id

theorem Of.turned {id : ConnectionID} (h : Of id f) (ht : Turned f g) : Of id.reverse g where
  ihl := by
    rw [ht.ihl h.ihl]
    exact h.ihl
  id := by
    rw [ht.identify h.ihl, h.id]
    rfl

/-- RST is set. -/
def Mbuf.rst (f : Mbuf) : Bool := Tcp.getRstFlag f.data f.tcp

theorem Resets.rst_eq (h : Resets f g) (h5 : 5 ≤ f.ihl) : g.rst = true := by
  unfold Mbuf.rst
  rw [h.turned.tcp h5]
  exact h.rst

/-! ### What a server does in the exchange -/

section receive

variable {x : Table σ κ} {id : ConnectionID}

theorem runSynAck_newState (h5 : 5 ≤ f.ihl) :
    (runSynAck c f).newState = some (if f.noSyn then States.END else States.est) := by
  have hcond := Mbuf.noSyn_sized h5
  cases h : f.noSyn with
  | true =>
      have heq : runSynAck c f = _ := if_pos (hcond.symm.trans h)
      rw [heq]
      rfl
  | false =>
      have heq : runSynAck c f = _ := if_neg (by
        rw [← Bool.not_eq_false, not_not]
        exact hcond.symm.trans h)
      rw [heq]
      rfl

/-- A server without connections makes one for any packet. -/
theorem receive_idle (h : Idle x) (hf : Of id f) :
    (service proto conCtl).receive x f = (service proto conCtl).serve id
      (State.new States.syn_ack (.to (factory proto conCtl)))
      { x with
        table := FMap.insertNew id (State.new States.syn_ack (.to (factory proto conCtl))) x.table }
      f := by
  have hid : (service proto conCtl).ident f = some id := hf.id
  have hfind : (service proto conCtl).find id x = some ({ x with
      table := FMap.insertNew id (State.new States.syn_ack (.to (factory proto conCtl))) x.table },
      some (State.new States.syn_ack (.to (factory proto conCtl)))) := by
    unfold Service.find
    rw [(h id).1, (h id).2]
    rfl
  unfold Service.receive
  rw [hid]
  dsimp only
  rw [hfind]

/-- A function that goes to END: the connection is forgotten. -/
theorem serve_ended (x : Table σ κ) (st : State (Ptr (Connection σ κ))) (o : Outcome σ κ)
    (ho : ∀ w, (service proto conCtl).answer st f w
      = some ⟨.to o.conn, o.newState, o.pkt, w, o.free⟩)
    (hnew : o.newState = some States.END) (hfree : o.free = false)
    (hpool : ∀ k, x.pool.lookup k = none) (htable : ∀ k, k ≠ id → x.table.lookup k = none) :
    ∃ x', (service proto conCtl).serve id st x f = some (x', o.pkt, true) ∧ Idle x' := by
  have hend : (Service.after st ⟨.to o.conn, o.newState, o.pkt, x.rest, o.free⟩).state
      = (service proto conCtl).endStateID := by
    unfold Service.after
    rw [hnew]
    rfl
  have hserve : (service proto conCtl).serve id st x f = some ({ x with
      table := (x.table.insert id
        (Service.after st ⟨.to o.conn, o.newState, o.pkt, x.rest, o.free⟩)).erase id },
      o.pkt, true) := by
    unfold Service.serve
    rw [ho, Option.map_some, if_pos hend]
    dsimp only
    rw [hfree]
    rfl
  refine ⟨_, hserve, fun k => ⟨?_, hpool k⟩⟩
  by_cases hk : k = id
  · rw [hk]
    exact Finmap.lookup_erase _ _
  · exact (Finmap.lookup_erase_ne hk).trans ((Finmap.lookup_insert_of_ne _ hk).trans (htable k hk))

/-- A function that goes to another state: the connection is kept. -/
theorem serve_kept (x : Table σ κ) (st : State (Ptr (Connection σ κ))) (o : Outcome σ κ)
    (ho : ∀ w, (service proto conCtl).answer st f w
      = some ⟨.to o.conn, o.newState, o.pkt, w, o.free⟩) {n : StateID}
    (hnew : o.newState = some n) (hn : n ≠ States.END) (hfree : o.free = false) :
    (service proto conCtl).serve id st x f
      = some ({ x with table := x.table.insert id ⟨.to o.conn, n, timeoutIDInvalid⟩ }, o.pkt, true) := by
  have hafter : Service.after st ⟨.to o.conn, o.newState, o.pkt, x.rest, o.free⟩
      = ⟨.to o.conn, n, timeoutIDInvalid⟩ := by
    unfold Service.after
    rw [hnew]
    rfl
  have hopen : (Service.after st ⟨.to o.conn, o.newState, o.pkt, x.rest, o.free⟩).state
      ≠ (service proto conCtl).endStateID := by
    rw [hafter]
    exact hn
  unfold Service.serve
  rw [ho, Option.map_some, if_neg hopen, hafter]
  dsimp only
  rw [hfree]
  rfl

theorem insertNew_of_idle {st : State (Ptr (Connection σ κ))} (h : Idle x) {k : ConnectionID}
    (hk : k ≠ id) : (FMap.insertNew id st x.table).lookup k = none := by
  rw [FMap.lookup_insertNew_ne _ _ hk]
  exact (h k).1

variable (proto conCtl) in
/-- A server without connections refuses what is no SYN, and forgets it. -/
theorem receive_refused (h : Idle x) (hf : Of id f) (hsyn : f.noSyn = true) :
    ∃ x' g, (service proto conCtl).receive x f = some (x', g, true) ∧ Idle x' ∧ Resets f g := by
  have hnew := runSynAck_newState (c := factory proto conCtl) hf.ihl
  rw [hsyn, if_pos rfl] at hnew
  rw [receive_idle h hf]
  obtain ⟨x', hserve, hidle⟩ := serve_ended { x with
      table := FMap.insertNew id (State.new States.syn_ack (.to (factory proto conCtl))) x.table }
    (State.new States.syn_ack (.to (factory proto conCtl))) (runSynAck (factory proto conCtl) f)
    (fun _ => rfl) hnew (runSynAck_free _ f) (fun k => (h k).2) fun k hk => insertNew_of_idle h hk
  exact ⟨x', _, hserve, hidle, runSynAck_resets hf.ihl hsyn⟩

variable (proto conCtl) in
/-- A server without connections accepts a SYN. -/
theorem receive_syn (h : Idle x) (hf : Of id f) (hsyn : f.noSyn = false) :
    ∃ x' g r, (service proto conCtl).receive x f = some (x', g, true) ∧ Only id x' ∧ Acks f r g := by
  have hnew := runSynAck_newState (c := factory proto conCtl) hf.ihl
  rw [hsyn, if_neg (by simp)] at hnew
  rw [receive_idle h hf]
  refine ⟨_, _, _, serve_kept { x with
      table := FMap.insertNew id (State.new States.syn_ack (.to (factory proto conCtl))) x.table }
    (State.new States.syn_ack (.to (factory proto conCtl))) (runSynAck (factory proto conCtl) f)
    (fun _ => rfl) hnew (by decide) (runSynAck_free _ f), ⟨fun k st hk => ?_, fun k => (h k).2⟩,
    runSynAck_acks hf.ihl hsyn⟩
  by_cases hid : k = id
  · rw [hid] at hk
    obtain rfl := Option.some.inj ((Finmap.lookup_insert _).symm.trans hk)
    exact ⟨hid, rfl, _, rfl⟩
  · have hnone := (Finmap.lookup_insert_of_ne _ hid).symm.trans hk
    rw [insertNew_of_idle h hid] at hnone
    simp at hnone

variable (proto conCtl) in
/-- A RST is answered, and ends the connection it belongs to. -/
theorem receive_rst (h : Only id x) (hf : Of id f) (hrst : f.rst = true) :
    ∃ x' g, (service proto conCtl).receive x f = some (x', g, true) ∧ Idle x' ∧ Resets f g := by
  have hno : f.noSyn = true := by
    unfold Mbuf.noSyn
    rw [show Tcp.getRstFlag f.data f.tcp = true from hrst, Bool.or_true]
  cases hl : x.table.lookup id with
  | none =>
      -- then there is no connection at all
      have hidle : Idle x := by
        intro k
        refine ⟨?_, h.pool k⟩
        cases hk : x.table.lookup k with
        | none => rfl
        | some st =>
            obtain ⟨rfl, -⟩ := h.table k st hk
            simp [hl] at hk
      exact receive_refused proto conCtl hidle hf hno
  | some st =>
      obtain ⟨-, hstate, c, hc⟩ := h.table id st hl
      have hbad : badFlags f.swapped f.tcp = true := by
        rw [badFlags_congr (Mbuf.swapped_of_whole hf.ihl).1]
        unfold badFlags
        rw [show Tcp.getRstFlag f.data f.tcp = true from hrst, Bool.or_true]
      have heq := runEst_of_bad proto conCtl c hbad
      have hans : ∀ w, (service proto conCtl).answer st f w = some ⟨.to (runEst proto conCtl c f).conn,
          (runEst proto conCtl c f).newState, (runEst proto conCtl c f).pkt, w,
          (runEst proto conCtl c f).free⟩ := by
        intro w
        obtain ⟨d, n, t⟩ := st
        obtain rfl : d = .to c := hc
        obtain rfl : n = States.est := hstate
        rfl
      have hrec : (service proto conCtl).receive x f = (service proto conCtl).serve id st x f := by
        have hid : (service proto conCtl).ident f = some id := hf.id
        unfold Service.receive Service.find
        rw [hid]
        dsimp only
        rw [hl]
      rw [heq] at hans
      rw [hrec]
      obtain ⟨x', hserve, hidle⟩ := serve_ended x st (abort c f.swapped sizeofEthernet f.tcp) hans
        rfl rfl h.pool fun k hk => by
          cases hlk : x.table.lookup k with
          | none => rfl
          | some st' => exact absurd (h.table k st' hlk).1 hk
      exact ⟨x', _, hserve, hidle, abort_resets hf.ihl⟩

end receive

/-! ### The exchange -/

namespace Pair

variable {x : Pair σ κ} {id : ConnectionID}

/-- A frame that is answered. -/
theorem step_eq (pl : Service.Platform) (hflight : x.flight = [f])
    (hruns : (service proto conCtl).Runs x.here.sm) {t : Table σ κ}
    (hrec : (service proto conCtl).receive x.here.held f = some (t, g, true)) :
    ∃ y, x.step proto conCtl pl = .ok y ∧ y.here = x.there ∧ y.there.held = t ∧
      (service proto conCtl).Runs y.there.sm ∧ y.flight = [g] := by
  have hprocess := Instance.process_eq pl hruns [f] (by simp) (by simp)
  have hall : (service proto conCtl).receiveAll [f] x.here.held = some (t, [(g, true)]) := by
    unfold Service.receiveAll
    rw [hrec]
    rfl
  rw [hall] at hprocess
  obtain ⟨there, hthere, hheld, hruns'⟩ := hprocess
  refine ⟨⟨x.there, there, [g]⟩, ?_, rfl, hheld, hruns', rfl⟩
  unfold step
  rw [hflight, if_neg (by simp), hthere]
  rfl

/-- Both servers are set up, and `f` is in flight, of connection `id`. -/
structure Facing (proto : Proto σ) (conCtl : ConCtl κ) (x : Pair σ κ) (id : ConnectionID) (f : Mbuf) :
    Prop where
  here : (service proto conCtl).Runs x.here.sm
  there : (service proto conCtl).Runs x.there.sm
  flight : x.flight = [f]
  isOf : Of id f

/-- A RST is in flight. -/
structure Warring (proto : Proto σ) (conCtl : ConCtl κ) (x : Pair σ κ) (id : ConnectionID) (f : Mbuf) :
    Prop extends Facing proto conCtl x id f where
  rst : f.rst = true
  only : Only id x.here.held
  idle : Idle x.there.held

/-- The answer to a SYN is in flight. -/
structure Shaking (proto : Proto σ) (conCtl : ConCtl κ) (x : Pair σ κ) (id : ConnectionID) (f : Mbuf) :
    Prop extends Facing proto conCtl x id f where
  noSyn : f.noSyn = true
  idle : Idle x.here.held
  only : Only id.reverse x.there.held

/-- A frame that was reset is a RST, for the other server. -/
theorem Facing.reset {y : Pair σ κ} (h : Facing proto conCtl x id f) (hr : Resets f g)
    (hhere : y.here = x.there) (hthere : (service proto conCtl).Runs y.there.sm)
    (hflight : y.flight = [g]) (honly : Only id.reverse x.there.held) (hidle : Idle y.there.held) :
    Warring proto conCtl y id.reverse g where
  here := by
    rw [hhere]
    exact h.there
  there := hthere
  flight := hflight
  isOf := h.isOf.turned hr.turned
  rst := hr.rst_eq h.isOf.ihl
  only := by
    rw [hhere]
    exact honly
  idle := hidle

/-- **RST is answered with RST.** -/
theorem Warring.step (pl : Service.Platform) (h : Warring proto conCtl x id f) :
    ∃ y g, x.step proto conCtl pl = .ok y ∧ Warring proto conCtl y id.reverse g := by
  obtain ⟨t, g, hrec, hidle, hresets⟩ := receive_rst proto conCtl h.only h.isOf h.rst
  obtain ⟨y, hy, hhere, hheld, hruns, hflight⟩ := step_eq pl h.flight h.here hrec
  refine ⟨y, g, hy, h.reset hresets hhere hruns hflight (h.idle.only _) ?_⟩
  rw [hheld]
  exact hidle

theorem Shaking.step (pl : Service.Platform) (h : Shaking proto conCtl x id f) :
    ∃ y g, x.step proto conCtl pl = .ok y ∧ Warring proto conCtl y id.reverse g := by
  obtain ⟨t, g, hrec, hidle, hresets⟩ := receive_refused proto conCtl h.idle h.isOf h.noSyn
  obtain ⟨y, hy, hhere, hheld, hruns, hflight⟩ := step_eq pl h.flight h.here hrec
  refine ⟨y, g, hy, h.reset hresets hhere hruns hflight h.only ?_⟩
  rw [hheld]
  exact hidle

/-- The first packet is refused, or is a SYN. -/
theorem start_step (proto : Proto σ) (conCtl : ConCtl κ) (pl : Service.Platform) (h : Of id f) :
    ∃ y g, (start proto conCtl f).step proto conCtl pl = .ok y ∧
      (Warring proto conCtl y id.reverse g ∨ Shaking proto conCtl y id.reverse g) := by
  have hidle : Idle (start proto conCtl f).here.held := fun _ => ⟨rfl, rfl⟩
  have hfacing : Facing proto conCtl (start proto conCtl f) id f :=
    ⟨Instance.start_runs _ _, Instance.start_runs _ _, rfl, h⟩
  cases hsyn : f.noSyn with
  | true =>
      obtain ⟨t, g, hrec, hidle', hresets⟩ := receive_refused proto conCtl hidle h hsyn
      obtain ⟨y, hy, hhere, hheld, hruns, hflight⟩ := step_eq pl rfl hfacing.here hrec
      refine ⟨y, g, hy, Or.inl (hfacing.reset hresets hhere hruns hflight (hidle.only _) ?_)⟩
      rw [hheld]
      exact hidle'
  | false =>
      obtain ⟨t, g, r, hrec, honly, hacks⟩ := receive_syn proto conCtl hidle h hsyn
      obtain ⟨y, hy, hhere, hheld, hruns, hflight⟩ := step_eq pl rfl hfacing.here hrec
      have hack : Tcp.getAckFlag g.data g.tcp = true := by
        rw [hacks.turned.tcp h.ihl]
        exact hacks.ackFlag
      refine ⟨y, g, hy, Or.inr ⟨⟨?_, hruns, hflight, h.turned hacks.turned⟩, ?_, ?_, ?_⟩⟩
      · rw [hhere]
        exact hfacing.there
      · unfold Mbuf.noSyn
        rw [hack]
        simp
      · rw [hhere]
        exact hidle
      · rw [hheld]
        exact honly

/-- The exchange of RSTs does not end. -/
theorem Warring.run (pl : Service.Platform) (n : Nat) (h : Warring proto conCtl x id f) :
    ∃ y id' g, Pair.run proto conCtl pl n x = .ok y ∧ Warring proto conCtl y id' g := by
  induction n generalizing x id f with
  | zero => exact ⟨x, id, f, rfl, h⟩
  | succ n ih =>
      obtain ⟨y, g, hy, hwar⟩ := h.step pl
      obtain ⟨z, id', g', hz, hwar'⟩ := ih hwar
      refine ⟨z, id', g', ?_, hwar'⟩
      unfold Pair.run
      rw [hy]
      exact hz

end Pair

/-- **Who answers a RST.**  In every state of a connection, and for a new one, a packet with RST
does not end the connection unanswered.  Between two servers any packet of a connection starts an
exchange that does not end, of nothing but RSTs from the second answer on. -/
theorem rst_answered (proto : Proto σ) (conCtl : ConCtl κ) (pl : Service.Platform) :
    (∀ (cur : Nat) (p : P) (id : ConnectionID)
        (s : Sys ConnectionID P (Ptr (Connection σ κ)) (World P Mbuf Unit))
        (st : State (Ptr (Connection σ κ))),
      (service proto conCtl).Runs s.sm → s.pktsBA.get cur = .ok p →
      (service proto conCtl).served s.held (s.w.mem p) = some (id, st) → Serving st →
      (s.w.mem p).rst = true →
      ∃ s', runPkt ((service proto conCtl).env pl) cur s = .ok s' ∧ ¬ Unanswered id cur p s') ∧
    ∀ (id : ConnectionID) (f : Mbuf), Of id f → ∀ n, ∃ x g,
      Pair.run proto conCtl pl n (Pair.start proto conCtl f) = .ok x ∧ x.flight = [g] ∧
        (2 ≤ n → g.rst = true) := by
  constructor
  · intro cur p id s st hruns hp hserved hst _
    exact runPkt_not_unanswered pl hruns hp hserved hst
  · intro id f hf n
    cases n with
    | zero => exact ⟨Pair.start proto conCtl f, f, rfl, rfl, by omega⟩
    | succ n =>
        obtain ⟨y, g, hy, hstage⟩ := Pair.start_step proto conCtl pl hf
        unfold Pair.run
        rw [hy]
        rcases hstage with hwar | hshake
        · obtain ⟨z, id', g', hz, hwar'⟩ := hwar.run pl n
          exact ⟨z, g', hz, hwar'.flight, fun _ => hwar'.rst⟩
        · cases n with
          | zero => exact ⟨y, g, rfl, hshake.flight, by omega⟩
          | succ n =>
              obtain ⟨y', g₁, hy', hwar⟩ := hshake.step pl
              obtain ⟨z, id', g', hz, hwar'⟩ := hwar.run pl n
              refine ⟨z, g', ?_, hwar'.flight, fun _ => hwar'.rst⟩
              show Pair.run proto conCtl pl (n + 1) y = _
              unfold Pair.run
              rw [hy']
              exact hz

/-! ### A server that is sent a RST -/

/-- A RST, from port 1234 to port 80. -/
def rstFrame : Mbuf :=
  .ofBytes (List.replicate 14 0 ++ ipv4Bytes 40 ++ tcpBytes 8 0 0x50 0x04 32)

/-- The connection it is of. -/
def client : ConnectionID :=
  { dstIP := Bytes.htonl 0x0a000002, srcIP := Bytes.htonl 0x0a000001, dstPort := Bytes.htons 80
    srcPort := Bytes.htons 1234, proto := 6 }

theorem rstFrame_of : Of client rstFrame := ⟨by decide, by decide +kernel⟩

def joke : Service ConnectionID (Ptr (Connection Unit AckCount)) Mbuf Unit :=
  service TcpProtoJoke TcpConCtlSimple

def still : Service.Platform where
  clock _ := 0
  topRule := Timeout.firstRule
  ndebug := false

/-- The packet gets to the joke server, which has no connection. -/
def listening (f : Mbuf) : Sys ConnectionID Nat (Ptr (Connection Unit AckCount)) (World Nat Mbuf Unit) where
  sm := joke.machine
  connPool := ∅
  pktsBA := (BufArray.new [7]).get BufArray.isSome_new_seven
  w := ⟨fun _ => f, ()⟩
  ticks := 0
  log := []

/-- The connection it makes. -/
def fresh : State (Ptr (Connection Unit AckCount)) :=
  .new States.syn_ack (.to (factory TcpProtoJoke TcpConCtlSimple))

theorem served_listening : joke.served (listening rstFrame).held rstFrame = some (client, fresh) := by
  have hid : joke.ident rstFrame = some client := rstFrame_of.id
  unfold Service.served
  rw [hid]
  rfl

theorem rst_answered_listening :
    (∃ s', runPkt (joke.env still) 0 (listening rstFrame) = .ok s' ∧ ¬ Unanswered client 0 7 s') ∧
    ∃ x g, Pair.run TcpProtoJoke TcpConCtlSimple still 9
      (Pair.start TcpProtoJoke TcpConCtlSimple rstFrame) = .ok x ∧ x.flight = [g] ∧
        g.rst = true := by
  obtain ⟨hone, hpair⟩ := rst_answered (P := Nat) TcpProtoJoke TcpConCtlSimple still
  constructor
  · exact hone 0 7 client (listening rstFrame) fresh ⟨rfl, rfl, rfl, rfl, rfl, rfl⟩
      BufArray.get_new_seven served_listening ⟨⟨_, rfl⟩, Or.inl rfl⟩ (by decide)
  · obtain ⟨x, g, hx, hg, hrst⟩ := hpair client rstFrame rstFrame_of 9
    exact ⟨x, g, hx, hg, hrst (by decide)⟩

/-- A server that is sent a RST sends a RST. -/
theorem rst_not_unanswered :
    rstFrame.rst = true ∧ ∃ s', runPkt (joke.env still) 0 (listening rstFrame) = .ok s' ∧
      s'.pktsBA.slots[0]? = some (7, true) ∧ (s'.w.mem 7).rst = true ∧
      ¬ Unanswered client 0 7 s' := by
  have hident : ∀ q w, (joke.env still).identify q w = joke.ident (w.mem q) :=
    fun (_ : Nat) _ => rfl
  have hruns : joke.Runs (listening rstFrame).sm := ⟨rfl, rfl, rfl, rfl, rfl, rfl⟩
  have hans : ∀ w, joke.answer fresh rstFrame w = some
      ⟨.to (runSynAck (factory TcpProtoJoke TcpConCtlSimple) rstFrame).conn,
        (runSynAck (factory TcpProtoJoke TcpConCtlSimple) rstFrame).newState,
        (runSynAck (factory TcpProtoJoke TcpConCtlSimple) rstFrame).pkt, w,
        (runSynAck (factory TcpProtoJoke TcpConCtlSimple) rstFrame).free⟩ := fun _ => rfl
  obtain ⟨s', r, a, hs', ha, hmem, hslot, -⟩ := hruns.runPkt_served hident BufArray.get_new_seven
    served_listening fun w => by
      rw [show (listening rstFrame).w.mem 7 = rstFrame from rfl, hans]
      simp
  obtain rfl := Option.some.inj ((hans r).symm.trans ha)
  rw [runSynAck_free] at hslot
  refine ⟨by decide, s', hs', hslot, ?_, fun h => ?_⟩
  · rw [hmem]
    have hresets := runSynAck_resets (c := factory TcpProtoJoke TcpConCtlSimple) rstFrame_of.ihl
      (by decide : rstFrame.noSyn = true)
    exact hresets.rst_eq rstFrame_of.ihl
  · have hfreed := h.freed
    simp [hslot] at hfreed

end TCP

end MoonState
