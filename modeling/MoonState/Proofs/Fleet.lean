/-
Objects in the custody of a fleet.

The data of a connection is an object of the program, and the framework only keeps
the pointer.  `Careful` is what a machine must do for the objects to be in custody:
its factory takes one for the connection, each function keeps it as the function of
the next state needs it, or replaces it, and gives it up exactly when the
connection ends.

If all machines are careful, and those that share a pool agree on what the objects
are, then the objects that are live and the connections in the tables and the pools
correspond one to one, in every state the fleet reaches: `Fleet.guarded`.
-/
import MoonState.Lib.Custody
import MoonState.Lib.Steps
import MoonState.Model.Fleet
import MoonState.Proofs.Responder

namespace MoonState

variable {ι κ K P D B R ρ : Type}

/-- Custody of the objects, by the kind of the machine and the state of the connection. -/
abbrev Trust (ρ D R : Type) := Custody ρ (StateID × D) D R

/-- What a function may do to its object, in a machine of kind `r`: give it up where the connection
ends, else keep it or replace it. -/
def Trust.Served (T : Trust ρ D R) (r : ρ) (endStateID : StateID) (d : D) (w : R) (e : StateID × D)
    (w' : R) : Prop :=
  if e.1 = endStateID then T.Trades (some d) none w w'
  else T.Trades (some d) (some e.2) w w' ∧ T.fits r e w'

theorem Trust.Served.ended {T : Trust ρ D R} {r : ρ} {endStateID : StateID} {d : D} {w w' : R}
    {e : StateID × D} (h : T.Served r endStateID d w e w') (he : e.1 = endStateID) :
    T.Trades (some d) none w w' := by
  unfold Trust.Served at h
  rwa [if_pos he] at h

theorem Trust.Served.stays {T : Trust ρ D R} {r : ρ} {endStateID : StateID} {d : D} {w w' : R}
    {e : StateID × D} (h : T.Served r endStateID d w e w') (he : e.1 ≠ endStateID) :
    T.Trades (some d) (some e.2) w w' ∧ T.fits r e w' := by
  unfold Trust.Served at h
  rwa [if_neg he] at h

theorem Trust.served_end {T : Trust ρ D R} {r : ρ} {endStateID : StateID} {d d' : D} {w w' : R}
    (h : T.Trades (some d) none w w') : T.Served r endStateID d w (endStateID, d') w' := by
  unfold Trust.Served
  rwa [if_pos rfl]

theorem Trust.served_stay {T : Trust ρ D R} {r : ρ} {endStateID n : StateID} {d d' : D} {w w' : R}
    (hn : n ≠ endStateID) (h : T.Trades (some d) (some d') w w') (hfits : T.fits r (n, d') w') :
    T.Served r endStateID d w (n, d') w' := by
  unfold Trust.Served
  rw [if_neg hn]
  exact ⟨h, hfits⟩

/-- **What a machine must do**, where its functions are called as the condition says. -/
structure Careful (T : Trust ρ D R) (r : ρ) (ok : When D B R)
    (m : StateMachine K P D (World P B R)) : Prop where
  within : m.Within ⟨True, False, False⟩
  timeoutsQ : m.timeoutsQ = []
  factory : m.listenToConnections = true → ∃ f, m.startStateFun = some f ∧ ∀ id w d w',
    T.sane w.rest → f id w = some (d, w') →
      T.Trades none (some d) w.rest w'.rest ∧ T.fits r (m.startStateID, d) w'.rest
  call : ∀ {env : Env K P (World P B R)} {n f p} {a b : Activation K P D (World P B R)},
    m.dispatch n = .ok f → a.state.state = n → a.sys.sm.getPktCB = m.getPktCB →
    T.sane a.sys.w.rest → a.state.stateData ∈ T.live a.sys.w.rest →
    T.fits r (n, a.state.stateData) a.sys.w.rest →
    ok (n, a.state.stateData) (a.sys.w.mem p) a.sys.w.rest → exec env (f a.state p) a = .ok b →
      T.Served r m.endStateID a.state.stateData a.sys.w.rest b.state.entry b.sys.w.rest

/-- The machine is the one that was set up, some connections and batches later. -/
def StateMachine.Like {W : Type} (sm m : StateMachine K P D W) : Prop :=
  sm = { m with
    stateTable := sm.stateTable
    timeoutFunctions := sm.timeoutFunctions
    stat_statesAdded := sm.stat_statesAdded
    stat_statesClosed := sm.stat_statesClosed }

namespace StateMachine.Like

variable {W : Type} {sm m : StateMachine K P D W}

theorem functions (h : sm.Like m) : sm.functions = m.functions := by
  rw [show sm = _ from h]

theorem endStateID (h : sm.Like m) : sm.endStateID = m.endStateID := by
  rw [show sm = _ from h]

theorem startStateID (h : sm.Like m) : sm.startStateID = m.startStateID := by
  rw [show sm = _ from h]

theorem startStateFun (h : sm.Like m) : sm.startStateFun = m.startStateFun := by
  rw [show sm = _ from h]

theorem listenToConnections (h : sm.Like m) : sm.listenToConnections = m.listenToConnections := by
  rw [show sm = _ from h]

theorem getPktCB (h : sm.Like m) : sm.getPktCB = m.getPktCB := by
  rw [show sm = _ from h]

theorem timeoutsQ (h : sm.Like m) : sm.timeoutsQ = m.timeoutsQ := by
  rw [show sm = _ from h]

theorem dispatch (h : sm.Like m) (n : StateID) : sm.dispatch n = m.dispatch n := by
  unfold StateMachine.dispatch
  rw [h.functions]

theorem within (h : sm.Like m) {pw : Powers} (hw : m.Within pw) : sm.Within pw := by
  intro f hf
  exact hw f (h.functions ▸ hf)

/-- Only what may change did. -/
theorem of_table {sm' : StateMachine K P D W} (h : sm.Like m) (heq : sm' = { sm with
    stateTable := sm'.stateTable
    timeoutFunctions := sm'.timeoutFunctions
    stat_statesAdded := sm'.stat_statesAdded
    stat_statesClosed := sm'.stat_statesClosed }) : sm'.Like m := by
  unfold Like
  rw [heq, show sm = _ from h]

end StateMachine.Like

namespace Fleet

variable [DecidableEq ι] [DecidableEq κ] [DecidableEq K] {x : Fleet ι κ K P D B R} {poolOf : ι → κ}
  {i : ι} {s s' : Sys K P D (World P B R)}

/-! ### Entries -/

theorem entries_inl (id : K) :
    (x.update poolOf i s).entries (.inl i, id) = s.sm.stateTable.lookup id := by
  simp [update, entries]

theorem entries_inr (id : K) :
    (x.update poolOf i s).entries (.inr (poolOf i), id) = s.connPool.lookup id := by
  simp [update, entries]

/-- The entries are told by the table and the pool. -/
theorem entries_congr (htable : s'.sm.stateTable = s.sm.stateTable)
    (hpool : s'.connPool = s.connPool) :
    (x.update poolOf i s').entries = (x.update poolOf i s).entries := by
  funext ⟨p, id⟩
  cases p with
  | inl j =>
      by_cases hj : j = i
      · subst hj
        rw [entries_inl, entries_inl, htable]
      · simp [update, entries, hj]
  | inr k =>
      by_cases hk : k = poolOf i
      · subst hk
        rw [entries_inr, entries_inr, hpool]
      · simp [update, entries, hk]

/-- A connection of the table was written. -/
theorem entries_table {id : K} {o : Option (State D)} (hpool : s'.connPool = s.connPool)
    (hid : s'.sm.stateTable.lookup id = o)
    (hother : ∀ k, k ≠ id → s'.sm.stateTable.lookup k = s.sm.stateTable.lookup k) :
    (x.update poolOf i s').entries
      = Function.update (x.update poolOf i s).entries (.inl i, id) o := by
  funext ⟨p, k⟩
  cases p with
  | inl j =>
      by_cases hj : j = i
      · subst hj
        by_cases hk : k = id
        · subst hk
          rw [Function.update_self, entries_inl, hid]
        · rw [Function.update_of_ne (by simp [hk]), entries_inl, entries_inl, hother k hk]
      · rw [Function.update_of_ne (by simp [hj])]
        simp [update, entries, hj]
  | inr l =>
      rw [Function.update_of_ne (by simp)]
      by_cases hl : l = poolOf i
      · subst hl
        rw [entries_inr, entries_inr, hpool]
      · simp [update, entries, hl]

/-- A connection of the pool was written. -/
theorem entries_pool {id : K} {o : Option (State D)} (htable : s'.sm.stateTable = s.sm.stateTable)
    (hid : s'.connPool.lookup id = o)
    (hother : ∀ k, k ≠ id → s'.connPool.lookup k = s.connPool.lookup k) :
    (x.update poolOf i s').entries
      = Function.update (x.update poolOf i s).entries (.inr (poolOf i), id) o := by
  funext ⟨p, k⟩
  cases p with
  | inl j =>
      rw [Function.update_of_ne (by simp)]
      by_cases hj : j = i
      · subst hj
        rw [entries_inl, entries_inl, htable]
      · simp [update, entries, hj]
  | inr l =>
      by_cases hl : l = poolOf i
      · subst hl
        by_cases hk : k = id
        · subst hk
          rw [Function.update_self, entries_inr, hid]
        · rw [Function.update_of_ne (by simp [hk]), entries_inr, entries_inr, hother k hk]
      · rw [Function.update_of_ne (by simp [hl])]
        simp [update, entries, hl]

theorem entries_accept {id : K} (h : s.sm.stateTable.lookup id = none) (d : D) (w : World P B R) :
    (x.update poolOf i (s.accept id d w)).entries
      = Function.update (x.update poolOf i s).entries (.inl i, id)
        (some (State.new s.sm.startStateID d)) :=
  entries_table rfl (Sys.lookup_accept s id d w h) fun _ hk => FMap.lookup_insertNew_ne _ _ hk

theorem entries_claim {id : K} (h : s.sm.stateTable.lookup id = none) (st : State D) :
    (x.update poolOf i (s.claim id st)).entries
      = Function.update (Function.update (x.update poolOf i s).entries (.inr (poolOf i), id) none)
        (.inl i, id) (some st) := by
  have herase : (x.update poolOf i { s with connPool := s.connPool.erase id }).entries
      = Function.update (x.update poolOf i s).entries (.inr (poolOf i), id) none :=
    entries_pool rfl (Finmap.lookup_erase _ _) fun _ hk => Finmap.lookup_erase_ne hk
  rw [← herase]
  exact entries_table rfl (Sys.lookup_claim s id st h) fun _ hk => FMap.lookup_insertNew_ne _ _ hk

end Fleet

/-! ### One function -/

variable {T : Trust ρ D R} {ok : When D B R}

/-- The object of a connection is in custody. -/
structure Trust.Keeps (T : Trust ρ D R) (r : ρ) (e : StateID × D) (w : R) : Prop where
  sane : T.sane w
  live : e.2 ∈ T.live w
  fits : T.fits r e w

/-- A function that was called has kept to it, and has left the tables alone. -/
theorem Careful.called {r : ρ} {m : StateMachine K P D (World P B R)} (hm : Careful T r ok m)
    {env : Env K P (World P B R)} {a b : Activation K P D (World P B R)} (hlike : a.sys.sm.Like m)
    (hkeeps : T.Keeps r a.state.entry a.sys.w.rest)
    (hok : ∀ p, a.sys.pktsBA.get a.iface.pktIdx = .ok p →
      ok a.state.entry (a.sys.w.mem p) a.sys.w.rest) (h : callFun env a = .ok b) :
    T.Served r m.endStateID a.state.stateData a.sys.w.rest b.state.entry b.sys.w.rest ∧
      b.sys.sm = a.sys.sm ∧ b.sys.connPool = a.sys.connPool ∧ b.iface.cID = a.iface.cID := by
  obtain ⟨f, p, hf, hp, hexec⟩ := callFun_eq_ok h
  have hwithin : (f a.state p).Within ⟨True, False, False⟩ :=
    hlike.within hm.within f (StateMachine.mem_of_dispatch hf) _ _
  obtain ⟨new, hran, hno⟩ := exec_unarmed (fun hc => hc) hwithin hexec
  refine ⟨?_, hran.unarmed hno, hran.connPool, hran.cID⟩
  rw [hlike.dispatch] at hf
  exact hm.call (a := { a with sys := a.sys.emit (.call a.iface.cID a.state) }) hf rfl hlike.getPktCB
    hkeeps.sane hkeeps.live hkeeps.fits (hok p hp) hexec

/-! ### Machines of responders -/

/-- What the functions of such a machine must do: where one answers, it does to its object what it
may. -/
structure Service.Careful (u : Service K D B R) (T : Trust ρ D R) (r : ρ) (ok : When D B R) :
    Prop where
  factory : u.listenToConnections = true → ∃ f, u.factory = some f ∧ ∀ id w d w',
    T.sane w → f id w = some (d, w') →
      T.Trades none (some d) w w' ∧ T.fits r (u.startStateID, d) w'
  answers : ∀ {n d w b a}, T.Keeps r (n, d) w → ok (n, d) b w →
    u.answer (State.new n d) b w = some a →
      T.Served r u.endStateID d w (a.newState.getD n, a.stateData) a.rest

theorem Service.answer_of_entry (u : Service K D B R) {st st' : State D}
    (h : st.entry = st'.entry) (b : B) (w : R) : u.answer st b w = u.answer st' b w := by
  obtain ⟨hstate, hdata⟩ := Prod.mk.inj h
  unfold Service.answer
  rw [hstate, hdata]

/-- A responder that returned had an answer. -/
theorem Responder.exec_code_eq_ok [DecidableEq P] {g : Responder D B R}
    {env : Env K P (World P B R)} {p : P} {a b : Activation K P D (World P B R)}
    (h : exec env (g.code a.state p) a = .ok b) :
    ∃ r, g a.state.stateData (a.sys.w.mem p) a.sys.w.rest = some r ∧
      exec env (.put r.stateData ⟨Function.update a.sys.w.mem p r.pkt, r.rest⟩ r.tail) a = .ok b := by
  unfold Responder.code at h
  simp only [exec] at h
  cases hr : g a.state.stateData (a.sys.w.mem p) a.sys.w.rest with
  | none => simp [hr, exec] at h
  | some r =>
      rw [hr] at h
      exact ⟨r, rfl, h⟩

theorem Service.Careful.machine [DecidableEq P] {u : Service K D B R} {r : ρ}
    (h : u.Careful T r ok) :
    MoonState.Careful T r ok (u.machine : StateMachine K P D (World P B R)) where
  within := Service.Runs.within ⟨rfl, rfl, rfl, rfl, rfl, rfl⟩
  timeoutsQ := rfl
  factory := by
    intro hlisten
    obtain ⟨f, hf, hnew⟩ := h.factory hlisten
    refine ⟨fun id w => (f id w.rest).map fun d => (d.1, { w with rest := d.2 }), ?_, ?_⟩
    · show u.factory.map _ = _
      rw [hf]
      rfl
    · intro id w d w' hsane hd
      obtain ⟨⟨e, rest⟩, he, heq⟩ := Option.map_eq_some_iff.mp hd
      obtain ⟨rfl, rfl⟩ := Prod.mk.inj heq
      exact hnew id w.rest e rest hsane he
  call := by
    intro env n f p a b hf hn _ hsane hlive hfits hok hexec
    obtain ⟨g, hg, rfl⟩ : ∃ g, u.responders[n.toNat]? = some (some g) ∧ g.code = f := by
      have hget : (u.responders.map (Option.map Responder.code))[n.toNat]? = some (some f) :=
        StateMachine.dispatch_eq_ok hf
      rw [List.getElem?_map] at hget
      obtain ⟨o, ho, hmap⟩ := Option.map_eq_some_iff.mp hget
      obtain ⟨g, rfl, hg⟩ := Option.map_eq_some_iff.mp hmap
      exact ⟨g, ho, hg⟩
    obtain ⟨r', hr', hb⟩ := g.exec_code_eq_ok hexec
    have hanswer : u.answer (State.new n a.state.stateData) (a.sys.w.mem p) a.sys.w.rest = some r' := by
      unfold Service.answer
      rw [show (State.new n a.state.stateData).state = n from rfl, hg]
      exact hr'
    have hserved := h.answers ⟨hsane, hlive, hfits⟩ hok hanswer
    obtain ⟨b', hb', hdid⟩ := r'.exec_code env p a
    obtain rfl := Except.ok.inj (hb.symm.trans hb')
    rw [show b.state.entry = (r'.newState.getD n, r'.stateData) by
        rw [State.entry, hdid.state, hn],
      show b.sys.w.rest = r'.rest by rw [hdid.w]]
    exact hserved

namespace Fleet

variable [DecidableEq ι] [DecidableEq κ] [DecidableEq K]

/-- **The invariant of a fleet.** -/
structure Guarded (T : Trust ρ D R) (setup : ι → StateMachine K P D (World P B R)) (kind : ι → ρ)
    (poolKind : κ → ρ) (x : Fleet ι κ K P D B R) : Prop where
  like : ∀ i, (x.sms i).Like (setup i)
  holds : (T.pull (fun q : (ι ⊕ κ) × K => Sum.elim kind poolKind q.1) State.entry).Holds
    x.entries x.w.rest

section guarded

variable {setup : ι → StateMachine K P D (World P B R)} {kind : ι → ρ} {poolKind : κ → ρ}
  {poolOf : ι → κ} {x : Fleet ι κ K P D B R} {i : ι} {s s' : Sys K P D (World P B R)}
  {env : Env K P (World P B R)} {w : World P B R} {st' : State D} {ok : ι → When D B R}

omit [DecidableEq K] in
theorem like_update (h : ∀ j, ((x.update poolOf i s).sms j).Like (setup j))
    (hlike : s'.sm.Like (setup i)) (j : ι) : ((x.update poolOf i s').sms j).Like (setup j) := by
  by_cases hj : j = i
  · subst hj
    simpa [update] using hlike
  · simpa [update, hj] using h j

/-- The machine at work. -/
theorem Guarded.running (h : Guarded T setup kind poolKind (x.update poolOf i s)) :
    s.sm.Like (setup i) := by
  simpa [update] using h.like i

/-- What the machine at work keeps besides the tables and the rest does not matter. -/
theorem Guarded.congr (h : Guarded T setup kind poolKind (x.update poolOf i s))
    (hlike : s'.sm.Like (setup i)) (htable : s'.sm.stateTable = s.sm.stateTable)
    (hpool : s'.connPool = s.connPool) (hrest : s'.w.rest = s.w.rest) :
    Guarded T setup kind poolKind (x.update poolOf i s') := by
  refine ⟨like_update h.like hlike, ?_⟩
  rw [entries_congr htable hpool]
  show Custody.Holds _ _ s'.w.rest
  rw [hrest]
  exact h.holds

/-- The connection of an entry is in custody. -/
theorem Guarded.keeps (h : Guarded T setup kind poolKind (x.update poolOf i s)) {id : K}
    {st : State D} (hst : s.sm.stateTable.lookup id = some st)
    (hT : T.object = Prod.snd) : T.Keeps (kind i) st.entry s.w.rest := by
  have hentry : (x.update poolOf i s).entries (.inl i, id) = some st := by
    rw [entries_inl, hst]
  refine ⟨h.holds.sane, ?_, h.holds.fits hentry⟩
  have hlive : T.object st.entry ∈ T.live s.w.rest := h.holds.mem_live hentry
  rwa [hT] at hlive

/-- One entry was written, and the objects are those of the entries again. -/
theorem Guarded.wrote (h : Guarded T setup kind poolKind (x.update poolOf i s))
    (hT : T.object = Prod.snd) (hlike : s'.sm.Like (setup i)) {q : (ι ⊕ κ) × K}
    {o n : Option (State D)} (ho : (x.update poolOf i s).entries q = o)
    (hentries : (x.update poolOf i s').entries
      = Function.update (x.update poolOf i s).entries q n)
    (ht : T.Trades (o.map State.stateData) (n.map State.stateData) s.w.rest s'.w.rest)
    (hfits : ∀ st, n = some st → T.fits (Sum.elim kind poolKind q.1) st.entry s'.w.rest) :
    Guarded T setup kind poolKind (x.update poolOf i s') := by
  have hobject : (T.pull (fun q : (ι ⊕ κ) × K => Sum.elim kind poolKind q.1) State.entry).object
      = (State.stateData : State D → D) := by
    funext st
    show T.object st.entry = _
    rw [hT]
    rfl
  refine ⟨like_update h.like hlike, ?_⟩
  rw [hentries]
  refine h.holds.step ?_ hfits
  rw [ho, hobject]
  exact ht.pull

/-! ### One packet -/

/-- The lookup. -/
theorem Guarded.findState [Inhabited D] (h : Guarded T setup kind poolKind (x.update poolOf i s))
    (hT : T.object = Prod.snd) (hcare : Careful T (kind i) (ok i) (setup i))
    (hpool : poolKind (poolOf i) = kind i) {id : K} {o : Option (State D)}
    (hf : s.findState id = .ok (s', o)) : Guarded T setup kind poolKind (x.update poolOf i s') := by
  have hlike := h.running
  rcases Sys.findState_cases hf with ⟨st, -, rfl, -⟩ | ⟨st, ht, hp, rfl, -⟩ |
    ⟨d, w', ht, hp, hlisten, hdata, rfl, -⟩ | ⟨-, -, -, rfl, -⟩
  · exact h
  · refine ⟨like_update h.like ?_, ?_⟩
    · exact hlike.of_table rfl
    · rw [entries_claim ht]
      have hentry : (x.update poolOf i s).entries (.inr (poolOf i), id) = some st := by
        rw [entries_inr, hp]
      refine h.holds.move hentry ?_ ?_
      · rw [entries_inl, ht]
      · show T.fits (kind i) st.entry s.w.rest
        rw [← hpool]
        exact h.holds.fits hentry
  · obtain ⟨f, hstart, hfactory⟩ := hcare.factory (by rw [← hlike.listenToConnections, hlisten])
    have hfresh : f id s.w = some (d, w') := by
      unfold Sys.startData at hdata
      rw [hlike.startStateFun, hstart] at hdata
      exact hdata
    obtain ⟨htrades, hfits⟩ := hfactory id s.w d w' h.holds.sane hfresh
    refine h.wrote (o := none) hT (hlike.of_table rfl) (by rw [entries_inl, ht]) (entries_accept ht d w')
      htrades ?_
    intro st hst
    obtain rfl := Option.some.inj hst
    show T.fits (kind i) (s.sm.startStateID, d) w'.rest
    rw [hlike.startStateID]
    exact hfits
  · exact h

/-- A packet of a known connection. -/
theorem Guarded.runState (h : Guarded T setup kind poolKind (x.update poolOf i s))
    (hT : T.object = Prod.snd) (hcare : Careful T (kind i) (ok i) (setup i)) {cur : Nat} {id : K}
    {st : State D} (hst : s.sm.stateTable.lookup id = some st)
    (hok : ∀ p, s.pktsBA.get cur = .ok p → ok i st.entry (s.w.mem p) s.w.rest)
    (hr : runState env cur id st s = .ok s') :
    Guarded T setup kind poolKind (x.update poolOf i s') := by
  have hlike := h.running
  obtain ⟨a, ba, ha, -, rfl⟩ := runState_calm (hlike.within hcare.within) (fun hc => hc) hr
  have hrest : (startPkt cur id st s).sys.w = s.w := by
    show (s.cancelTimeout st).w = s.w
    unfold Sys.cancelTimeout
    split <;> rfl
  obtain ⟨tf, htf⟩ := Service.Runs.startPkt_sys cur id st s
  have hstart : (startPkt cur id st s).sys.sm.Like (setup i) := by
    rw [htf]
    exact hlike.of_table rfl
  have hkeeps : T.Keeps (kind i) (startPkt cur id st s).state.entry
      (startPkt cur id st s).sys.w.rest := by
    rw [hrest]
    have hk := h.keeps hst hT
    exact hk
  have hok' : ∀ p, (startPkt cur id st s).sys.pktsBA.get cur = .ok p →
      ok i (startPkt cur id st s).state.entry ((startPkt cur id st s).sys.w.mem p)
        (startPkt cur id st s).sys.w.rest := by
    rw [hrest]
    intro p hp
    apply hok p
    have hba : (startPkt cur id st s).sys.pktsBA = s.pktsBA := Sys.cancelTimeout_pktsBA s st
    rwa [hba] at hp
  obtain ⟨hserved, hsm, hconn, hid'⟩ := hcare.called hstart hkeeps hok' ha
  have hid : a.iface.cID = id := hid'
  have htable : a.sys.sm.stateTable = s.sm.stateTable := by rw [hsm, htf]
  have hpool : a.sys.connPool = s.connPool := by rw [hconn, htf]
  have hend : a.sys.sm.endStateID = (setup i).endStateID := by rw [hsm, hstart.endStateID]
  have hentry : (x.update poolOf i s).entries (.inl i, id) = some st := by
    rw [entries_inl, hst]
  rw [hrest, ← hend] at hserved
  have hafter : a.sys.sm.Like (setup i) := by
    rw [hsm]
    exact hstart
  by_cases he : a.state.state = a.sys.sm.endStateID
  · rw [if_pos he]
    refine h.wrote (n := none) hT (hafter.of_table rfl) hentry (entries_table hpool ?_ ?_)
      (hserved.ended he) (by simp)
    · exact Finmap.lookup_erase _ _
    · intro k hk
      show Finmap.lookup k ((a.sys.sm.stateTable.insert a.iface.cID a.state).erase id) = _
      rw [Finmap.lookup_erase_ne hk, hid, Finmap.lookup_insert_of_ne _ hk, htable]
  · rw [if_neg he]
    obtain ⟨htrades, hfits⟩ := hserved.stays he
    refine h.wrote (n := some a.state) hT (hafter.of_table rfl) hentry (entries_table hpool ?_ ?_)
      htrades ?_
    · show Finmap.lookup id (a.sys.sm.stateTable.insert a.iface.cID a.state) = _
      rw [hid]
      exact Finmap.lookup_insert _
    · intro k hk
      show Finmap.lookup k (a.sys.sm.stateTable.insert a.iface.cID a.state) = _
      rw [hid, Finmap.lookup_insert_of_ne _ hk, htable]
    · intro st' hst'
      obtain rfl := Option.some.inj hst'
      exact hfits

/-- **A packet.** -/
theorem Guarded.packet [Inhabited D] (h : Guarded T setup kind poolKind (x.update poolOf i s))
    (hT : T.object = Prod.snd) (hcare : Careful T (kind i) (ok i) (setup i))
    (hpool : poolKind (poolOf i) = kind i) {cur : Nat} (hok : s.Meets env (ok i) cur)
    (hr : runPkt env cur s = .ok s') :
    Guarded T setup kind poolKind (x.update poolOf i s') := by
  have hrun : Guarded T setup kind poolKind (x.update poolOf i (s.emit (.run cur))) :=
    h.congr h.running rfl rfl rfl
  obtain ⟨p, hp, ⟨-, hdrop⟩ | ⟨id, s₁, -, hf, hdrop⟩ | ⟨id, s₁, st, hid, hf, hrun'⟩⟩ :=
    runPkt_eq_ok hr
  · obtain ⟨ba, -, rfl⟩ := Sys.markDropPkt_eq_ok hdrop
    exact h.congr h.running rfl rfl rfl
  · obtain ⟨ba, -, rfl⟩ := Sys.markDropPkt_eq_ok hdrop
    have hfound := hrun.findState hT hcare hpool hf
    exact hfound.congr hfound.running rfl rfl rfl
  · refine (hrun.findState hT hcare hpool hf).runState hT hcare (Sys.findState_lookup hf) ?_ hrun'
    intro q hq
    have hba : s₁.pktsBA = s.pktsBA := (Sys.findState_found hf).pktsBA
    rw [hba, hp] at hq
    obtain rfl := Except.ok.inj hq
    simpa only [Sys.Meets, hp, hid, hf] using hok

/-- A batch. -/
theorem Guarded.batch [Inhabited D] (h : Guarded T setup kind poolKind (x.update poolOf i s))
    (hT : T.object = Prod.snd) (hcare : Careful T (kind i) (ok i) (setup i))
    (hpool : poolKind (poolOf i) = kind i) {fuel : Nat}
    (hok : s.MeetsAll env (ok i) (List.range s.pktsBA.getTotalCount))
    (hr : runPktBatch env (fuel + 1) s = .ok s') :
    Guarded T setup kind poolKind (x.update poolOf i s') := by
  unfold runPktBatch at hr
  obtain ⟨s₁, hidle, hloop⟩ := bind_eq_ok.mp hr
  have hqueue : s.sm.timeoutsQ = [] := by rw [h.running.timeoutsQ, hcare.timeoutsQ]
  have hs₁ : s₁ = s := by
    unfold timeoutLoop at hidle
    rw [hqueue, TopRule.top_nil] at hidle
    exact (Except.ok.inj hidle).symm
  rw [hs₁] at hloop
  generalize List.range s.pktsBA.getTotalCount = slots at hloop hok
  clear hidle hs₁ hr hqueue s₁
  induction slots generalizing s with
  | nil =>
      obtain rfl := Except.ok.inj hloop
      exact h
  | cons cur slots ih =>
      obtain ⟨s₂, hs₂, hrest⟩ := foldlM_cons_eq_ok.mp hloop
      obtain ⟨hcur, hslots⟩ := hok
      rw [hs₂] at hslots
      exact ih (h.packet hT hcare hpool hcur hs₂) hrest hslots

/-! ### Opening a connection -/

omit [DecidableEq K] in
theorem update_view (x : Fleet ι κ K P D B R) (i : ι) (ba : BufArray P) :
    x.update poolOf i (x.view poolOf i ba) = x := by
  simp [update, view]

/-- A connection is opened with a new object, and no connection of its ID is in the pool. -/
theorem Guarded.addState (h : Guarded T setup kind poolKind x) (hT : T.object = Prod.snd)
    (hcare : Careful T (kind i) (ok i) (setup i)) (hpool : poolKind (poolOf i) = kind i) {id : K}
    {state : StateID} {d : D} {rest : R} {ba : BufArray P} {st : State D}
    (hfree : (x.connPool (poolOf i)).lookup id = none)
    (hnew : T.Trades none (some d) x.w.rest rest) (hfits : T.fits (kind i) (state, d) rest)
    (hok : ∀ p, ba.get 0 = .ok p → ok i (state, d) (x.w.mem p) rest)
    (hr : MoonState.addState env id (State.new state d) ((x.withRest rest).view poolOf i ba)
      = .ok (s', st)) : Guarded T setup kind poolKind (x.update poolOf i s') := by
  have hself : Guarded T setup kind poolKind (x.update poolOf i (x.view poolOf i ba)) := by
    rw [update_view]
    exact h
  have hkeeps : T.Keeps (kind i) (state, d) rest :=
    ⟨hnew.sane, (hnew.live_iff d).mpr (Or.inl rfl), hfits⟩
  obtain ⟨a, b, ha, hb, rfl, -⟩ := addState_eq_ok hr
  have hlike : (x.sms i).Like (setup i) := h.like i
  have himm : a.iface.immediateTransition = false := by
    have hwithin : (x.sms i).Within ⟨True, False, False⟩ := hlike.within hcare.within
    exact StateMachine.Within.callFun_immediate (by exact hwithin) (fun hc => hc) ha
  obtain ⟨hserved, hsm, hconn, -⟩ := hcare.called (by exact hlike) (by exact hkeeps)
    (by exact hok) ha
  have hsm' : a.sys.sm = x.sms i := hsm
  have hconn' : a.sys.connPool = x.connPool (poolOf i) := hconn
  have hend : a.sys.sm.endStateID = (setup i).endStateID := by rw [hsm', hlike.endStateID]
  have hentry : (x.update poolOf i (x.view poolOf i ba)).entries (.inr (poolOf i), id) = none := by
    rw [entries_inr]
    exact hfree
  have hafter : a.sys.sm.Like (setup i) := by
    rw [hsm']
    exact hlike
  rw [← hend] at hserved
  rw [Activation.destroy_of_not_immediate (by exact himm)] at hb
  obtain ⟨ba', -, rfl⟩ := Activation.mark_eq_ok hb
  by_cases he : a.state.state = a.sys.sm.endStateID
  · rw [if_pos he]
    refine hself.wrote (n := none) hT hafter hentry (entries_pool ?_ ?_ ?_)
      (hnew.trans (hserved.ended he)) (by simp)
    · exact congrArg StateMachine.stateTable hsm'
    · rw [← hfree, ← hconn']
    · intro k _
      exact congrArg (Finmap.lookup k) hconn'
  · rw [if_neg he]
    obtain ⟨htrades, hfits'⟩ := hserved.stays he
    refine hself.wrote (n := some a.state) hT hafter hentry (entries_pool ?_ ?_ ?_)
      (hnew.trans htrades) ?_
    · exact congrArg StateMachine.stateTable hsm'
    · show (FMap.insertNew id a.state a.sys.connPool).lookup id = _
      rw [hconn', FMap.lookup_insertNew_self, hfree]
      rfl
    · intro k hk
      show (FMap.insertNew id a.state a.sys.connPool).lookup k = _
      rw [hconn', FMap.lookup_insertNew_ne _ _ hk]
      rfl
    · intro st' hst'
      obtain rfl := Option.some.inj hst'
      show T.fits (poolKind (poolOf i)) a.state.entry a.sys.w.rest
      rw [hpool]
      exact hfits'

end guarded

/-! ### Runs -/

variable [Inhabited D] {setup : ι → StateMachine K P D (World P B R)} {kind : ι → ρ}
  {poolKind : κ → ρ} {poolOf : ι → κ} {x y : Fleet ι κ K P D B R} {env : Env K P (World P B R)}
  {ok : ι → When D B R}

/-- The object of a new connection is made as the machine needs it, and the ID is not in the
pool.  What the program does of its own does nothing to the objects. -/
def Opens (T : Trust ρ D R) (kind : ι → ρ) (poolOf : ι → κ) (x : Fleet ι κ K P D B R) :
    Act ι K P D B R → Prop
  | .arrive _ => True
  | .process _ _ => True
  | .connect i id state create _ => (x.connPool (poolOf i)).lookup id = none ∧
    ∀ d w', T.sane x.w.rest → create x.w.rest = some (d, w') →
      T.Trades none (some d) x.w.rest w' ∧ T.fits (kind i) (state, d) w'
  | .between f => T.sane x.w.rest → T.Trades none none x.w.rest (f x.w.rest)

omit [DecidableEq ι] [DecidableEq κ] in
/-- No condition. -/
theorem meets_of_forall (hok : ∀ i e b w, ok i e b w) (a : Act ι K P D B R) :
    x.Meets env poolOf ok a := by
  have hone : ∀ (i : ι) (cur : Nat) (s : Sys K P D (World P B R)), s.Meets env (ok i) cur := by
    intro i cur s
    unfold Sys.Meets
    split
    · trivial
    · split
      · trivial
      · split
        · exact hok i _ _ _
        · trivial
  have hall : ∀ (i : ι) (slots : List Nat) (s : Sys K P D (World P B R)),
      s.MeetsAll env (ok i) slots := by
    intro i slots
    induction slots with
    | nil =>
        intro s
        trivial
    | cons cur slots ih =>
        intro s
        refine ⟨hone i cur s, ?_⟩
        split
        · trivial
        · exact ih _
  cases a with
  | arrive mem => trivial
  | between f => trivial
  | process i ba => exact hall i _ _
  | connect i id state create ba =>
      simp only [Meets]
      split
      · exact hok i _ _ _
      · trivial

/-- **A step of the fleet.** -/
theorem Guarded.step (h : Guarded T setup kind poolKind x) (hT : T.object = Prod.snd)
    (hcare : ∀ i, Careful T (kind i) (ok i) (setup i)) (hpool : ∀ i, poolKind (poolOf i) = kind i)
    {a : Act ι K P D B R} (ha : Opens T kind poolOf x a) (hok : x.Meets env poolOf ok a) (hstep : x.step env poolOf a = .ok y) :
    Guarded T setup kind poolKind y := by
  cases a with
  | arrive mem =>
      obtain rfl := Except.ok.inj hstep
      exact ⟨h.like, h.holds⟩
  | between f =>
      obtain rfl := Except.ok.inj hstep
      have hstill := ha h.holds.sane
      exact ⟨h.like, h.holds.still hstill.pull⟩
  | process i ba =>
      have hself : Guarded T setup kind poolKind (x.update poolOf i (x.view poolOf i ba)) := by
        rw [update_view]
        exact h
      cases hbatch : runPktBatch env 1 (x.view poolOf i ba) with
      | error e => simp [Fleet.step, hbatch, Except.map] at hstep
      | ok s =>
          simp only [Fleet.step, hbatch, Except.map, Except.ok.injEq] at hstep
          subst hstep
          exact hself.batch hT (hcare i) (hpool i) hok hbatch
  | connect i id state create ba =>
      obtain ⟨hfree, hcreate⟩ := ha
      cases hd : create x.w.rest with
      | none => simp [Fleet.step, hd] at hstep
      | some dr =>
          obtain ⟨d, rest⟩ := dr
          obtain ⟨hnew, hfits⟩ := hcreate d rest h.holds.sane hd
          cases hadd : MoonState.addState env id (State.new state d)
              ((x.withRest rest).view poolOf i ba) with
          | error e => simp [Fleet.step, hd, hadd, Except.map] at hstep
          | ok r =>
              obtain ⟨s, st⟩ := r
              simp only [Fleet.step, hd, hadd, Except.map, Except.ok.injEq] at hstep
              subst hstep
              refine h.addState hT (hcare i) (hpool i) hfree hnew hfits ?_ hadd
              intro p hp
              simpa only [Meets, hd, hp] using hok

omit [DecidableEq ι] [DecidableEq κ] [Inhabited D] in
/-- A fleet that was set up. -/
theorem start_guarded {w : World P B R} (hsane : T.sane w.rest) (hlive : ∀ d, d ∉ T.live w.rest)
    (htable : ∀ i, (setup i).stateTable = ∅) :
    Guarded T setup kind poolKind (start setup w : Fleet ι κ K P D B R) := by
  refine ⟨fun _ => rfl, ?_⟩
  have hempty : ∀ q, (start setup w : Fleet ι κ K P D B R).entries q = none := by
    rintro ⟨p, id⟩
    cases p with
    | inl i =>
        show (setup i).stateTable.lookup id = none
        rw [htable i]
        exact Finmap.lookup_empty id
    | inr k => exact Finmap.lookup_empty id
  apply Custody.Holds.congr _ hempty
  exact Custody.holds_nothing hsane hlive

/-- **Every state a fleet of careful machines reaches**, while the condition holds. -/
theorem guarded (ok : ι → When D B R) {w : World P B R} (hT : T.object = Prod.snd)
    (hcare : ∀ i, Careful T (kind i) (ok i) (setup i)) (hpool : ∀ i, poolKind (poolOf i) = kind i)
    (hsane : T.sane w.rest) (hlive : ∀ d, d ∉ T.live w.rest)
    (htable : ∀ i, (setup i).stateTable = ∅) {Can : Fleet ι κ K P D B R → Act ι K P D B R → Prop}
    (hcan : ∀ x a, Can x a → Opens T kind poolOf x a ∧ x.Meets env poolOf ok a)
    (hrun : Steps (Does env poolOf Can) (start setup w) x) :
    Guarded T setup kind poolKind x := by
  apply Steps.invariant (start_guarded hsane hlive htable) _ hrun
  intro y a z hy hdoes
  obtain ⟨hopens, hok⟩ := hcan y a hdoes.1
  exact hy.step hT hcare hpool hopens hok hdoes.2

end Fleet

/-! ### Servers and clients -/

namespace Deployment

variable {S : Deployment ι κ}

/-- A pool is for servers or for clients. -/
theorem Apart.poolRole (h : S.Apart) : ∃ f : κ → Role, ∀ i, f (S.poolOf i) = S.role i := by
  classical
  refine ⟨fun k => if hk : ∃ i, S.poolOf i = k then S.role hk.choose else .server, ?_⟩
  intro i
  have hi : ∃ j, S.poolOf j = S.poolOf i := ⟨i, rfl⟩
  dsimp only
  rw [dif_pos hi]
  exact h _ _ hi.choose_spec

variable [DecidableEq ι] [DecidableEq κ] [DecidableEq K] [DecidableEq P] [Inhabited D]
  {T : Trust Role D R} {service : Role → Service K D B R} {x : Fleet ι κ K P D B R}

/-- **Every state a program of careful servers and clients reaches.** -/
theorem Apart.guarded (h : S.Apart) (ok : Role → When D B R) (hT : T.object = Prod.snd)
    (hcare : ∀ role, (service role).Careful T role (ok role)) {w : World P B R}
    (hsane : T.sane w.rest) (hlive : ∀ d, d ∉ T.live w.rest) {ident : B → Option K}
    {Can : Fleet ι κ K P D B R → Fleet.Act ι K P D B R → Prop}
    (hcan : ∀ x a, Can x a → Fleet.Opens T S.role S.poolOf x a ∧
      x.Meets (S.env ident) S.poolOf (fun i => ok (S.role i)) a)
    (hrun : Steps (Fleet.Does (S.env ident) S.poolOf Can) (S.start service w) x) :
    ∃ poolRole : κ → Role, (∀ i, poolRole (S.poolOf i) = S.role i) ∧
      Fleet.Guarded T (fun i => (service (S.role i)).machine) S.role poolRole x := by
  obtain ⟨poolRole, hpool⟩ := h.poolRole
  refine ⟨poolRole, hpool, ?_⟩
  refine Fleet.guarded (fun i => ok (S.role i)) hT ?_ hpool hsane hlive ?_ hcan hrun
  · intro i
    exact (hcare (S.role i)).machine
  · intro i
    rfl

end Deployment

end MoonState
