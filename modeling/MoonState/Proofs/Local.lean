/-
State functions that look at the packets they get.

A `Handler` never stops the program, and fills the packets it asks for without a look
at what they hold.  `Local` is a machine of functions that may do both: `reply` is what
the function of a `State` does with its packet and with the next packets of the supply.

What a batch leaves in what the connections share does not depend on the functions, so
`Setup.Batch` says it here too, of the machine without them: `plain`.
-/
import MoonState.Proofs.Isolation
import MoonState.Proofs.Slots

namespace MoonState

variable {K P D B : Type} [DecidableEq K] [DecidableEq P]

/-- What the next packets of the supply hold. -/
def Heap.next (supply : Nat → P) (w : Heap P B) (n : Nat) : B := w.mem (supply (w.given + n))

/-- A machine whose functions depend on their own connection and on their packets only. -/
structure Local (K P D B : Type) where
  /-- what the function of a `State` replies, or `none` where it stops the program -/
  reply : State D → B → (Nat → B) → Option (Reply D B)
  startStateID : StateID
  endStateID : StateID
  factory : Option (K → D)
  listenToConnections : Bool
  supply : Nat → P
  ident : B → Option K

/-- From now on the supply returns no packet twice, and never this one. -/
structure Spares (supply : Nat → P) (p : P) (n : Nat) : Prop where
  apart : ∀ i, n ≤ i → supply i ≠ p
  fresh : Heap.Fresh supply n

omit [DecidableEq P] in
/-- A packet sets no timeout where no function does. -/
theorem runPkt_timeoutsQ {W : Type} [Inhabited D] {env : Env K P W} {pw : Powers} {cur : Nat}
    {s s' : Sys K P D W} (hw : s.sm.Within pw) (hnow : ¬ pw.now) (htimeout : ¬ pw.timeout)
    (h : runPkt env cur s = .ok s') : s'.sm.timeoutsQ = s.sm.timeoutsQ := by
  have hfound : ∀ {id : K} {s₁ : Sys K P D W} {o : Option (State D)},
      (s.emit (.run cur)).findState id = .ok (s₁, o) → s₁.sm.timeoutsQ = s.sm.timeoutsQ := by
    intro id s₁ o hf
    rw [(Sys.findState_found hf).sm]
    rfl
  obtain ⟨p, -, hcase⟩ := runPkt_eq_ok h
  rcases hcase with ⟨-, hdrop⟩ | ⟨id, s₁, -, hf, hdrop⟩ | ⟨id, s₁, st, -, hf, hst⟩
  · obtain ⟨ba, rfl⟩ := Sys.markDropPkt_eq hdrop
    rfl
  · obtain ⟨ba, rfl⟩ := Sys.markDropPkt_eq hdrop
    have hq := hfound hf
    exact hq
  · have hq := hfound hf
    have hw₁ : s₁.sm.Within pw := (Sys.findState_found hf).within hw
    obtain ⟨a, ba, ha, -, rfl⟩ := runState_calm hw₁ hnow hst
    obtain ⟨f, p', hdispatch, -, hexec⟩ := MoonState.callFun_eq_ok ha
    have hmem : some f ∈ s₁.sm.functions := by
      have hmem' := StateMachine.mem_of_dispatch hdispatch
      rwa [show (startPkt cur id st s₁).sys.sm.functions = s₁.sm.functions from
        Sys.cancelTimeout_functions s₁ st] at hmem'
    obtain ⟨new, hran, hno⟩ := exec_unarmed htimeout (hw₁ f hmem _ _) hexec
    have hsm : a.sys.sm = (s₁.cancelTimeout st).sm := hran.unarmed hno
    have hcancel : (s₁.cancelTimeout st).sm.timeoutsQ = s₁.sm.timeoutsQ := by
      unfold Sys.cancelTimeout
      split <;> rfl
    rw [← hq, ← hcancel, ← hsm]
    show (if _ then _ else _ : Sys K P D W).sm.timeoutsQ = _
    split <;> rfl

/-- The machine without its functions. -/
def Sys.plain {W : Type} (s : Sys K P D W) : Sys K P D W :=
  { s with sm := { s.sm with functions := [] } }

namespace Local

variable (u : Local K P D B)

/-- What is left of the machine without its functions. -/
def plain : Setup K P D B where
  handlers := []
  small := Nat.zero_le _
  startStateID := u.startStateID
  endStateID := u.endStateID
  factory := u.factory
  listenToConnections := u.listenToConnections
  registered := true
  supply := u.supply
  ident := u.ident

/-- The machine is set up like that. -/
structure Runs (sm : StateMachine K P D (Heap P B)) : Prop where
  startStateID : sm.startStateID = u.startStateID
  endStateID : sm.endStateID = u.endStateID
  startStateFun : sm.startStateFun = u.factory.map fun f id w => some (f id, w)
  listenToConnections : sm.listenToConnections = u.listenToConnections
  getPktCB : sm.getPktCB = some (Heap.take u.supply)
  timeoutsQ : sm.timeoutsQ = []
  within : sm.Within ⟨True, False, False⟩
  /-- a function that returns has replied -/
  replied : ∀ (env : Env K P (Heap P B)) f (a a' : Activation K P D (Heap P B)) p,
    sm.dispatch a.state.state = .ok f → a.sys.sm.getPktCB = some (Heap.take u.supply) →
    Spares u.supply p a.sys.w.given → exec env (f a.state p) a = .ok a' →
    ∃ r, u.reply a.state (a.sys.w.mem p) (a.sys.w.next u.supply) = some r ∧
      Replied u.supply r p r.extra a a'
  /-- a function that has a reply, and room for its packets, returns -/
  returns : ∀ (env : Env K P (Heap P B)) (a : Activation K P D (Heap P B)) p r,
    a.sys.sm.getPktCB = some (Heap.take u.supply) → Spares u.supply p a.sys.w.given →
    u.reply a.state (a.sys.w.mem p) (a.sys.w.next u.supply) = some r →
    a.sys.pktsBA.numBufs + r.extra.length ≤ BufArray.capacity a.sys.pktsBA.numSlots →
    ∃ f a', sm.dispatch a.state.state = .ok f ∧ exec env (f a.state p) a = .ok a'

/-- A packet that has a `State`. -/
def answer (fresh : Nat → B) (p : Option (State D)) (st : State D) (b : B) :
    Option (Conn D × Out B) :=
  (u.reply st.woken b fresh).map fun r =>
    ((if (Setup.after st r).state = u.endStateID then none else some (Setup.after st r), p),
      ⟨r.pkt, r.free, r.extra⟩)

/-- **What a packet that holds `b` does**, to the connection it belongs to. -/
def step [Inhabited D] (fresh : Nat → B) (c : Conn D) (b : B) : Option (Conn D × Out B) :=
  match u.ident b with
  | none => some (c, ⟨b, true, []⟩)
  | some id =>
    match u.plain.find id c with
    | none => some (c, ⟨b, true, []⟩)
    | some (st, p) => u.answer fresh p st b

/-- Packets one after another; `given` packets are taken from the supply. -/
def run [Inhabited D] (mem : P → B) :
    List P → Nat → (Option K → Conn D) → Option ((Option K → Conn D) × List (P × Out B))
  | [], _, σ => some (σ, [])
  | p :: l, given, σ =>
    match u.step (Heap.next u.supply ⟨mem, given⟩) (σ (u.ident (mem p))) (mem p) with
    | none => none
    | some (c, o) =>
      match run mem l (given + o.extra.length) (Function.update σ (u.ident (mem p)) c) with
      | none => none
      | some (σ', res) => some (σ', (p, o) :: res)

variable {u}

omit [DecidableEq P] in
/-- A packet, and then the others. -/
theorem run_cons [Inhabited D] {mem : P → B} {p : P} {l : List P} {given : Nat}
    {σ : Option K → Conn D} : u.run mem (p :: l) given σ
      = (u.step (Heap.next u.supply ⟨mem, given⟩) (σ (u.ident (mem p))) (mem p)).bind fun a =>
        (u.run mem l (given + a.2.extra.length) (Function.update σ (u.ident (mem p)) a.1)).map
          fun r => (r.1, (p, a.2) :: r.2) := by
  rw [run]
  cases u.step (Heap.next u.supply ⟨mem, given⟩) (σ (u.ident (mem p))) (mem p) with
  | none => rfl
  | some a =>
      dsimp only [Option.bind_some]
      cases u.run mem l (given + a.2.extra.length) (Function.update σ (u.ident (mem p)) a.1) with
      | none => rfl
      | some r => rfl

omit [DecidableEq P] in
theorem run_cons_eq_some [Inhabited D] {mem : P → B} {p : P} {l : List P} {given : Nat}
    {σ σ' : Option K → Conn D} {res : List (P × Out B)} :
    u.run mem (p :: l) given σ = some (σ', res) ↔
      ∃ c o res', u.step (Heap.next u.supply ⟨mem, given⟩) (σ (u.ident (mem p))) (mem p)
          = some (c, o) ∧
        u.run mem l (given + o.extra.length) (Function.update σ (u.ident (mem p)) c)
          = some (σ', res') ∧
        res = (p, o) :: res' := by
  rw [run_cons]
  constructor
  · intro h
    obtain ⟨⟨c, o⟩, hstep, hrest⟩ := Option.bind_eq_some_iff.mp h
    obtain ⟨⟨τ, res'⟩, hrun, heq⟩ := Option.map_eq_some_iff.mp hrest
    obtain ⟨rfl, rfl⟩ := Prod.mk.inj heq
    exact ⟨c, o, res', hstep, hrun, rfl⟩
  · rintro ⟨c, o, res', hstep, hrun, rfl⟩
    rw [hstep, Option.bind_some, hrun]
    rfl

/-! ### The machine without its functions -/

omit [DecidableEq P] in
/-- Looking a connection up calls none of them. -/
theorem findState_plain {W : Type} [Inhabited D] (s : Sys K P D W) (id : K) :
    s.plain.findState id = (s.findState id).map fun r => (r.1.plain, r.2) := by
  have htable : s.plain.sm.stateTable = s.sm.stateTable := rfl
  have hpool : s.plain.connPool = s.connPool := rfl
  have hlisten : s.plain.sm.listenToConnections = s.sm.listenToConnections := rfl
  have hdata : s.plain.startData id = s.startData id := rfl
  rw [Sys.findState_eq, Sys.findState_eq, htable, hpool, hlisten, hdata]
  cases s.sm.stateTable.lookup id with
  | some st => rfl
  | none =>
      cases s.connPool.lookup id with
      | some st => rfl
      | none =>
          cases s.sm.listenToConnections with
          | false => rfl
          | true =>
              cases s.startData id with
              | none => rfl
              | some dw => rfl

namespace Runs

variable {sm : StateMachine K P D (Heap P B)}

omit [DecidableEq K] in
theorem plain {s : Sys K P D (Heap P B)} (h : u.Runs s.sm) : u.plain.Runs s.plain.sm where
  functions := rfl
  startStateID := h.startStateID
  endStateID := h.endStateID
  startStateFun := h.startStateFun
  listenToConnections := h.listenToConnections
  getPktCB := h.getPktCB

omit [DecidableEq K] in
/-- Of a machine only what is set up counts. -/
theorem congr {sm' : StateMachine K P D (Heap P B)} (h : u.Runs sm)
    (hfunctions : sm'.functions = sm.functions) (hstart : sm'.startStateID = sm.startStateID)
    (hend : sm'.endStateID = sm.endStateID) (hfun : sm'.startStateFun = sm.startStateFun)
    (hlisten : sm'.listenToConnections = sm.listenToConnections)
    (hcb : sm'.getPktCB = sm.getPktCB) (htimeouts : sm'.timeoutsQ = sm.timeoutsQ) :
    u.Runs sm' := by
  have hdispatch : sm'.dispatch = sm.dispatch := by
    unfold StateMachine.dispatch
    rw [hfunctions]
  exact {
    startStateID := hstart.trans h.startStateID
    endStateID := hend.trans h.endStateID
    startStateFun := hfun.trans h.startStateFun
    listenToConnections := hlisten.trans h.listenToConnections
    getPktCB := hcb.trans h.getPktCB
    timeoutsQ := htimeouts.trans h.timeoutsQ
    within := fun f hf => h.within f (hfunctions ▸ hf)
    replied := by
      rw [hdispatch]
      exact h.replied
    returns := by
      rw [hdispatch]
      exact h.returns }

/-- The setup of the machine stays what it is. -/
theorem of_frame {s s' : Sys K P D (Heap P B)} {id : K} (h : u.Runs s.sm)
    (hf : Sys.Frame id s s') (htimeouts : s'.sm.timeoutsQ = s.sm.timeoutsQ) : u.Runs s'.sm := by
  rw [hf.sm]
  exact h.congr rfl rfl rfl rfl rfl rfl htimeouts

end Runs

/-! ### One packet -/

omit [DecidableEq K] in
/-- Cancelling a timeout changes the timeouts. -/
theorem cancelTimeout_runs (s : Sys K P D (Heap P B)) (st : State D) :
    (s.cancelTimeout st).w = s.w ∧ (s.cancelTimeout st).connPool = s.connPool ∧
      (u.Runs s.sm → u.Runs (s.cancelTimeout st).sm) := by
  unfold Sys.cancelTimeout
  split
  · exact ⟨rfl, rfl, fun h => h.congr rfl rfl rfl rfl rfl rfl rfl⟩
  · exact ⟨rfl, rfl, id⟩

namespace Runs

variable {env : Env K P (Heap P B)}

omit [DecidableEq K] in
/-- What the function of a packet did. -/
theorem callFun_eq_ok {s : Sys K P D (Heap P B)} (h : u.Runs s.sm) {cur : Nat} {id : K}
    {st : State D} {p : P} {a : Activation K P D (Heap P B)} (hp : s.pktsBA.get cur = .ok p)
    (hsp : Spares u.supply p s.w.given) (ha : callFun env (startPkt cur id st s) = .ok a) :
    ∃ r, u.reply st.woken (s.w.mem p) (s.w.next u.supply) = some r ∧
      a.state = Setup.after st r ∧ a.sys.w = (s.w.fill u.supply r.extra).write p r.pkt ∧
      a.sys.pktsBA.pkts
        = s.pktsBA.pkts ++ (List.range' s.w.given r.extra.length).map u.supply ∧
      a.iface.sendPkt = !r.free := by
  obtain ⟨f, p', hf, hp', hexec⟩ := MoonState.callFun_eq_ok ha
  obtain ⟨hw, -, hruns⟩ := cancelTimeout_runs (u := u) s st
  have hba : (s.cancelTimeout st).pktsBA = s.pktsBA := Sys.cancelTimeout_pktsBA s st
  obtain rfl : p' = p := by
    have hp'' : (s.cancelTimeout st).pktsBA.get cur = .ok p' := hp'
    rw [hba, hp] at hp''
    exact (Except.ok.inj hp'').symm
  obtain ⟨r, hr, hrep⟩ := (hruns h).replied env f
    { startPkt cur id st s with
      sys := (startPkt cur id st s).sys.emit (.call id st.woken) } a p' hf (hruns h).getPktCB
    (by show Spares u.supply p' (s.cancelTimeout st).w.given; rw [hw]; exact hsp) hexec
  have hr' : u.reply st.woken ((s.cancelTimeout st).w.mem p')
      ((s.cancelTimeout st).w.next u.supply) = some r := hr
  rw [hw] at hr'
  refine ⟨r, hr', hrep.state, ?_, ?_, hrep.sendPkt⟩
  · rw [hrep.w]
    show ((s.cancelTimeout st).w.fill _ _).write _ _ = _
    rw [hw]
  · rw [hrep.pkts]
    show (s.cancelTimeout st).pktsBA.pkts ++ (List.range' (s.cancelTimeout st).w.given _).map _ = _
    rw [hba, hw]

omit [DecidableEq K] in
/-- When the function of a packet returns. -/
theorem callFun_of_room (env : Env K P (Heap P B)) {s : Sys K P D (Heap P B)} (h : u.Runs s.sm)
    (cur : Nat) (id : K) {st : State D} {p : P} {r : Reply D B} (hp : s.pktsBA.get cur = .ok p)
    (hsp : Spares u.supply p s.w.given)
    (hr : u.reply st.woken (s.w.mem p) (s.w.next u.supply) = some r)
    (hroom : s.pktsBA.numBufs + r.extra.length ≤ BufArray.capacity s.pktsBA.numSlots) :
    ∃ a, callFun env (startPkt cur id st s) = .ok a := by
  obtain ⟨hw, -, hruns⟩ := cancelTimeout_runs (u := u) s st
  have hba : (s.cancelTimeout st).pktsBA = s.pktsBA := Sys.cancelTimeout_pktsBA s st
  obtain ⟨f, a, hf, ha⟩ := (hruns h).returns env
    { startPkt cur id st s with
      sys := (startPkt cur id st s).sys.emit (.call id st.woken) } p r (hruns h).getPktCB
    (by show Spares u.supply p (s.cancelTimeout st).w.given; rw [hw]; exact hsp)
    (by
      show u.reply st.woken ((s.cancelTimeout st).w.mem p)
        ((s.cancelTimeout st).w.next u.supply) = some r
      rw [hw]
      exact hr)
    (by
      show (s.cancelTimeout st).pktsBA.numBufs + _
        ≤ BufArray.capacity (s.cancelTimeout st).pktsBA.numSlots
      rw [hba]
      exact hroom)
  refine ⟨a, ?_⟩
  have hp' : (startPkt cur id st s).sys.pktsBA.get (startPkt cur id st s).iface.pktIdx = .ok p := by
    show (s.cancelTimeout st).pktsBA.get cur = _
    rw [hba, hp]
  rw [callFun_of_ok (a := startPkt cur id st s) hf hp']
  exact ha

/-- What a packet with a `State` did. -/
theorem runState_eq_ok {s s' : Sys K P D (Heap P B)} (h : u.Runs s.sm) {cur : Nat} {id : K}
    {st : State D} {p : P} (hp : s.pktsBA.get cur = .ok p) (hsp : Spares u.supply p s.w.given)
    (hrun : runState env cur id st s = .ok s') :
    ∃ o, u.answer (s.w.next u.supply) (s.connPool.lookup id) st (s.w.mem p)
        = some (s'.conns (some id), o) ∧
      s'.w = (s.w.fill u.supply o.extra).write p o.pkt ∧
      s'.pktsBA.pkts
        = s.pktsBA.pkts ++ (List.range' s.w.given o.extra.length).map u.supply ∧
      s'.pktsBA.sends cur = !o.free ∧
      BufArray.capacity s'.pktsBA.numSlots = BufArray.capacity s.pktsBA.numSlots := by
  obtain ⟨a, ba, ha, hmark, rfl⟩ := runState_calm h.within (fun hc => hc) hrun
  obtain ⟨r, hr, hstate, hw, hpkts, hsend⟩ := h.callFun_eq_ok hp hsp ha
  obtain ⟨new, hnew⟩ := callFun_ran ha
  obtain ⟨hba, hslots, hsends⟩ := BufArray.mark_eq_ok hmark
  obtain ⟨-, hcpool, hcruns⟩ := cancelTimeout_runs (u := u) s st
  have hidx : a.iface.pktIdx = cur := hnew.pktIdx
  have hcid : a.iface.cID = id := hnew.cID
  have hlt : cur < a.sys.pktsBA.numBufs := by
    have hcur := (List.getElem?_eq_some_iff.mp (BufArray.get_eq_ok hp)).1
    have hnum := hnew.numBufs_eq
    have hstart : (startPkt cur id st s).sys.pktsBA.numBufs = s.pktsBA.pkts.length :=
      congrArg BufArray.numBufs (Sys.cancelTimeout_pktsBA s st)
    omega
  have hpool : a.sys.connPool = s.connPool := hnew.connPool.trans hcpool
  have hend : a.sys.sm.endStateID = u.endStateID := by
    rw [hnew.sm]
    exact (hcruns h).endStateID
  refine ⟨⟨r.pkt, r.free, r.extra⟩, ?_, ?_, hba.trans hpkts, ?_, ?_⟩
  · unfold Local.answer
    rw [hr, Option.map_some, ← hstate]
    congr 2
    by_cases he : a.state.state = u.endStateID
    · rw [if_pos he, if_pos (he.trans hend.symm)]
      show _ = ((a.commit.sm.stateTable.erase id).lookup id, a.sys.connPool.lookup id)
      rw [Finmap.lookup_erase, hpool]
    · rw [if_neg he, if_neg (fun hc => he (hc.trans hend))]
      show _ = ((a.sys.sm.stateTable.insert a.iface.cID a.state).lookup id,
        a.sys.connPool.lookup id)
      rw [hcid, Finmap.lookup_insert, hpool]
  · refine Eq.trans ?_ hw
    split <;> rfl
  · refine (hsends cur).trans ?_
    rw [hidx, if_pos ⟨rfl, hlt⟩, hsend]
  · rw [hslots, hnew.capacity]
    exact congrArg (fun b => BufArray.capacity b.numSlots) (Sys.cancelTimeout_pktsBA s st)

variable [Inhabited D]

/-- What is looked up is what `find` says. -/
theorem findState_eq {s : Sys K P D (Heap P B)} (h : u.Runs s.sm) (id : K) :
    ∃ s' o, s.findState id = .ok (s', o) ∧ s'.w = s.w ∧
      ((o = none ∧ u.plain.find id (s.conns (some id)) = none ∧ s' = s) ∨
        ∃ st, o = some st ∧
          u.plain.find id (s.conns (some id)) = some (st, s'.connPool.lookup id)) := by
  obtain ⟨t, o, hf, hw, ho⟩ := h.plain.findState_eq id
  rw [findState_plain] at hf
  cases hs' : s.findState id with
  | error e => simp [hs', Except.map] at hf
  | ok r =>
      obtain ⟨s', o'⟩ := r
      rw [hs'] at hf
      obtain ⟨rfl, rfl⟩ := Prod.mk.inj (Except.ok.inj hf)
      refine ⟨s', o', rfl, hw, ?_⟩
      rcases ho with ⟨hnone, hfind, -⟩ | hsome
      · obtain rfl : o' = none := hnone
        exact Or.inl ⟨rfl, hfind, (Sys.findState_none hs').2.2⟩
      · exact Or.inr hsome

/-- The machine is set up afterwards as before. -/
theorem runPkt_runs {s s' : Sys K P D (Heap P B)} (h : u.Runs s.sm) {cur : Nat}
    (hrun : runPkt env cur s = .ok s') : u.Runs s'.sm := by
  obtain ⟨q, hq, hcase⟩ := runPkt_cases hrun
  rcases hcase with ⟨-, ba, rfl⟩ | ⟨id, -, hframe⟩
  · exact h
  · exact h.of_frame hframe (runPkt_timeoutsQ h.within (fun hc => hc) (fun hc => hc) hrun)

/-- A packet was answered if it, its packets and its mark are as in the answer. -/
theorem answered_of_runPkt (hident : ∀ q w, env.identify q w = u.ident (w.mem q))
    {s s' : Sys K P D (Heap P B)} (h : u.Runs s.sm) {cur : Nat} {p : P}
    (hp : s.pktsBA.get cur = .ok p) (hrun : runPkt env cur s = .ok s') {o : Out B}
    (hw : s'.w = (s.w.fill u.supply o.extra).write p o.pkt)
    (hpkts : s'.pktsBA.pkts
      = s.pktsBA.pkts ++ (List.range' s.w.given o.extra.length).map u.supply)
    (hown : s'.pktsBA.sends cur = !o.free)
    (hcap : BufArray.capacity s'.pktsBA.numSlots = BufArray.capacity s.pktsBA.numSlots) :
    u.plain.Answered cur p o s.plain s'.plain := by
  obtain ⟨new, hserved⟩ := runPkt_served h.within (fun hc => hc) hrun
  refine ⟨fun k hk => ?_, hw, hpkts, hown, hserved.others, hserved.fresh, hcap,
    (h.runPkt_runs hrun).plain⟩
  have hk' : k ≠ u.ident (s.w.mem p) := hk
  exact runPkt_conns hp hrun (by rwa [hident])

/-- A packet that is dropped. -/
theorem dropped_answered (hident : ∀ q w, env.identify q w = u.ident (w.mem q))
    {s s' : Sys K P D (Heap P B)} (h : u.Runs s.sm) {cur : Nat} {p : P}
    (hp : s.pktsBA.get cur = .ok p) (hrun : runPkt env cur s = .ok s')
    {e : Event K D P} (hdrop : ((s.emit (.run cur)).emit e).markDropPkt env cur = .ok s') :
    s'.conns = s.conns ∧ u.plain.Answered cur p ⟨s.w.mem p, true, []⟩ s.plain s'.plain := by
  obtain ⟨hsm, hpool, hw, hpkts, hown, hcap⟩ :=
    Setup.Runs.markDropPkt_eq_ok (u := u.plain) (s := (s.emit (.run cur)).emit e) hp hdrop
  refine ⟨?_, answered_of_runPkt hident h hp hrun hw hpkts hown hcap⟩
  funext k
  cases k with
  | none => rfl
  | some id =>
      unfold Sys.conns
      rw [hsm, hpool]
      rfl

/-- A packet of a connection that was found. -/
theorem found_answered (hident : ∀ q w, env.identify q w = u.ident (w.mem q))
    {s s₁ s' : Sys K P D (Heap P B)} (h : u.Runs s.sm) {cur : Nat} {p : P} {id : K} {st : State D}
    (hp : s.pktsBA.get cur = .ok p) (hsp : Spares u.supply p s.w.given)
    (hrun : runPkt env cur s = .ok s') (hf : (s.emit (.run cur)).findState id = .ok (s₁, some st))
    (hw₁ : s₁.w = s.w) (hst : runState env cur id st s₁ = .ok s') :
    ∃ o, u.answer (s.w.next u.supply) (s₁.connPool.lookup id) st (s.w.mem p)
        = some (s'.conns (some id), o) ∧
      u.plain.Answered cur p o s.plain s'.plain := by
  have hF := Sys.findState_found hf
  have hruns₁ : u.Runs s₁.sm :=
    h.of_frame ((Sys.Frame.emit s _ (by simp)).trans (Sys.findState_frame hf))
      (by rw [hF.sm]; rfl)
  have hba : s₁.pktsBA = s.pktsBA := hF.pktsBA
  obtain ⟨o, hans, hw, hpkts, hown, hcap⟩ :=
    hruns₁.runState_eq_ok (by rw [hba]; exact hp) (by rw [hw₁]; exact hsp) hst
  rw [hw₁] at hans hw hpkts
  rw [hba] at hpkts hcap
  exact ⟨o, hans, answered_of_runPkt hident h hp hrun hw hpkts hown hcap⟩

/-- **What a packet did.** -/
theorem runPkt_eq_ok (hident : ∀ q w, env.identify q w = u.ident (w.mem q))
    {s s' : Sys K P D (Heap P B)} (h : u.Runs s.sm) {cur : Nat} {p : P}
    (hp : s.pktsBA.get cur = .ok p) (hsp : Spares u.supply p s.w.given)
    (hrun : runPkt env cur s = .ok s') :
    u.Runs s'.sm ∧ ∃ o,
      u.step (s.w.next u.supply) (s.conns (u.ident (s.w.mem p))) (s.w.mem p)
        = some (s'.conns (u.ident (s.w.mem p)), o) ∧
      u.plain.Answered cur p o s.plain s'.plain := by
  refine ⟨h.runPkt_runs hrun, ?_⟩
  obtain ⟨p', hp', hcase⟩ := MoonState.runPkt_eq_ok hrun
  obtain rfl : p = p' := Except.ok.inj (hp.symm.trans hp')
  unfold Local.step
  rcases hcase with ⟨hi, hdrop⟩ | ⟨id, s₁, hi, hf, hdrop⟩ | ⟨id, s₁, st, hi, hf, hst⟩
  · rw [hident] at hi
    obtain ⟨hkeep, ha⟩ := dropped_answered hident h hp hrun hdrop
    refine ⟨_, ?_, ha⟩
    rw [hi, hkeep]
  · rw [hident] at hi
    obtain ⟨s₂, o, hf', -, ho⟩ := (show u.Runs (s.emit (.run cur)).sm from h).findState_eq id
    obtain ⟨rfl, rfl⟩ := Prod.mk.inj (Except.ok.inj (hf.symm.trans hf'))
    rcases ho with ⟨-, hfind, rfl⟩ | ⟨st, hc, -⟩
    · obtain ⟨hkeep, ha⟩ := dropped_answered hident h hp hrun hdrop
      refine ⟨_, ?_, ha⟩
      rw [hi, hkeep]
      dsimp only
      rw [show u.plain.find id (s.conns (some id)) = none from hfind]
    · simp at hc
  · rw [hident] at hi
    obtain ⟨s₂, o, hf', hw₁, ho⟩ := (show u.Runs (s.emit (.run cur)).sm from h).findState_eq id
    obtain ⟨rfl, rfl⟩ := Prod.mk.inj (Except.ok.inj (hf.symm.trans hf'))
    rcases ho with ⟨hc, -⟩ | ⟨st', hc, hfind⟩
    · simp at hc
    · obtain rfl := Option.some.inj hc
      obtain ⟨o, hans, ha⟩ := found_answered hident h hp hsp hrun hf hw₁ hst
      refine ⟨o, ?_, ha⟩
      rw [hi]
      dsimp only
      rw [show u.plain.find id (s.conns (some id)) = _ from hfind]
      exact hans

/-- **When a packet does not stop the program.** -/
theorem runPkt_of_room (hident : ∀ q w, env.identify q w = u.ident (w.mem q))
    {s : Sys K P D (Heap P B)} (h : u.Runs s.sm) {cur : Nat} {p : P}
    (hp : s.pktsBA.get cur = .ok p) (hsp : Spares u.supply p s.w.given) {c : Conn D} {o : Out B}
    (hstep : u.step (s.w.next u.supply) (s.conns (u.ident (s.w.mem p))) (s.w.mem p) = some (c, o))
    (hroom : s.pktsBA.numBufs + o.extra.length ≤ BufArray.capacity s.pktsBA.numSlots) :
    ∃ s', runPkt env cur s = .ok s' := by
  have hlt : cur < s.pktsBA.numBufs := (List.getElem?_eq_some_iff.mp (BufArray.get_eq_ok hp)).1
  cases hi : u.ident (s.w.mem p) with
  | none =>
      obtain ⟨s', hs'⟩ := Sys.markDropPkt_of_lt env
        (s := (s.emit (.run cur)).emit (.unidentified cur)) hlt
      exact ⟨s', (runPkt_of_unidentified hp ((hident p s.w).trans hi)).trans hs'⟩
  | some id =>
      rw [runPkt_of_identified hp ((hident p s.w).trans hi)]
      obtain ⟨s₁, o₁, hf, hw₁, ho⟩ := (show u.Runs (s.emit (.run cur)).sm from h).findState_eq id
      have hF := Sys.findState_found hf
      have hba : s₁.pktsBA = s.pktsBA := hF.pktsBA
      have hw₁' : s₁.w = s.w := hw₁
      rw [hf]
      rcases ho with ⟨rfl, -, -⟩ | ⟨st, rfl, hfind⟩
      · exact Sys.markDropPkt_of_lt env (s := s₁.emit (.discarded cur id)) (hba ▸ hlt)
      · have hruns₁ : u.Runs s₁.sm :=
          h.of_frame ((Sys.Frame.emit s _ (by simp)).trans (Sys.findState_frame hf))
          (by rw [hF.sm]; rfl)
        unfold Local.step at hstep
        rw [hi] at hstep
        dsimp only at hstep
        rw [show u.plain.find id (s.conns (some id)) = _ from hfind] at hstep
        obtain ⟨r, hr, heq⟩ := Option.map_eq_some_iff.mp hstep
        obtain ⟨-, rfl⟩ := Prod.mk.inj heq
        obtain ⟨a, ha⟩ := hruns₁.callFun_of_room env cur id (by rw [hba]; exact hp)
          (by rw [hw₁']; exact hsp) (by rw [hw₁']; exact hr) (by rw [hba]; exact hroom)
        exact runState_of_callFun hruns₁.within (fun hc => hc) (by rw [hba]; exact hlt) ha

end Runs

/-! ### A batch -/

/-- Filling packets of the supply writes those alone. -/
theorem fill_mem_of_notMem {supply : Nat → P} {q : P} (bs : List B) {w : Heap P B}
    (h : ∀ i, w.given ≤ i → i < w.given + bs.length → supply i ≠ q) :
    (w.fill supply bs).mem q = w.mem q := by
  induction bs generalizing w with
  | nil => rfl
  | cons b bs ih =>
      rw [List.length_cons] at h
      have hrest : ∀ i, w.given + 1 ≤ i → i < w.given + 1 + bs.length → supply i ≠ q :=
        fun i hi hlt => h i (by omega) (by omega)
      rw [Heap.fill, ih hrest]
      exact Function.update_of_ne (h w.given (Nat.le_refl _) (by omega)).symm _ _

variable (u) in
/-- The packets `l` are still to be served, in the slots from `k` on; they and the supply hold
what `mem` says. -/
structure Ready (mem : P → B) (k : Nat) (l : List P) (s : Sys K P D (Heap P B)) : Prop where
  plain : u.plain.Ready mem k l s.plain
  runs : u.Runs s.sm
  supplied : ∀ n, s.w.given ≤ n → s.w.mem (u.supply n) = mem (u.supply n)

namespace Ready

variable {mem : P → B} {k : Nat} {p : P} {l : List P} {s s' : Sys K P D (Heap P B)}

omit [DecidableEq K] in
theorem spares (h : u.Ready mem k (p :: l) s) : Spares u.supply p s.w.given where
  apart := h.plain.apart p List.mem_cons_self
  fresh := h.plain.fresh

omit [DecidableEq K] in
theorem next_eq (h : u.Ready mem k l s) :
    s.w.next u.supply = Heap.next u.supply ⟨mem, s.w.given⟩ :=
  funext fun n => h.supplied _ (Nat.le_add_right _ n)

/-- One answer more is still to be given. -/
theorem step {o : Out B} (h : u.Ready mem k (p :: l) s) (hruns : u.Runs s'.sm)
    (ha : u.plain.Answered k p o s.plain s'.plain) : u.Ready mem (k + 1) l s' := by
  refine ⟨h.plain.step ha, hruns, fun n hn => ?_⟩
  have hw : s'.w = (s.w.fill u.supply o.extra).write p o.pkt := ha.w
  have hgiven : s'.w.given = s.w.given + o.extra.length := by
    rw [hw]
    exact Heap.fill_given _ _ _
  have hne : u.supply n ≠ p := h.spares.apart n (by omega)
  rw [hw]
  refine (Function.update_of_ne hne _ _).trans ?_
  rw [fill_mem_of_notMem, h.supplied n (by omega)]
  intro i hi hlt hc
  have := h.spares.fresh i n hi (by omega) hc
  omega

variable [Inhabited D] {env : Env K P (Heap P B)}

/-- **What the loop did.** -/
theorem run_eq_ok (hident : ∀ q w, env.identify q w = u.ident (w.mem q)) :
    ∀ (l : List P) (k : Nat) {s s' : Sys K P D (Heap P B)}, u.Ready mem k l s →
      (List.range' k l.length).foldlM (fun s i => runPkt env i s) s = .ok s' →
      u.Runs s'.sm ∧ ∃ res, u.run mem l s.w.given s.conns = some (s'.conns, res) ∧
        res.map Prod.fst = l ∧ u.plain.Batch k res s.plain s'.plain := by
  intro l
  induction l with
  | nil =>
      intro k s s' hready h
      obtain rfl := Except.ok.inj h
      exact ⟨hready.runs, [], rfl, rfl, .nil k s.plain⟩
  | cons p l ih =>
      intro k s s' hready h
      rw [List.length_cons, List.range'_succ] at h
      obtain ⟨s₁, hp, hrest⟩ := foldlM_cons_eq_ok.mp h
      have hbytes : s.w.mem p = mem p := hready.plain.bytes p List.mem_cons_self
      obtain ⟨hruns₁, o, hstep, ha⟩ := hready.runs.runPkt_eq_ok hident
        (hready.plain.slots 0 p rfl) hready.spares hp
      obtain ⟨hruns', res, hres, hfst, hb⟩ := ih (k + 1) (hready.step hruns₁ ha) hrest
      have hconns : s₁.conns = Function.update s.conns (u.ident (s.w.mem p))
          (s₁.conns (u.ident (s.w.mem p))) := ha.conns_eq
      have hgiven : s₁.w.given = s.w.given + o.extra.length := by
        rw [show s₁.w = (s.w.fill u.supply o.extra).write p o.pkt from ha.w]
        exact Heap.fill_given _ _ _
      rw [hconns, hgiven, hbytes] at hres
      rw [hready.next_eq, hbytes] at hstep
      exact ⟨hruns', (p, o) :: res, run_cons_eq_some.mpr ⟨_, o, res, hstep, hres, rfl⟩,
        by rw [List.map_cons, hfst], .cons hready.plain hfst ha hb⟩

/-- **When the loop does not stop the program.** -/
theorem run_of_room (hident : ∀ q w, env.identify q w = u.ident (w.mem q)) :
    ∀ (l : List P) (k : Nat) {s : Sys K P D (Heap P B)} {σ : Option K → Conn D}
      {res : List (P × Out B)}, u.Ready mem k l s →
      u.run mem l s.w.given s.conns = some (σ, res) →
      s.pktsBA.numBufs + (extras res).length ≤ BufArray.capacity s.pktsBA.numSlots →
      ∃ s', (List.range' k l.length).foldlM (fun s i => runPkt env i s) s = .ok s' := by
  intro l
  induction l with
  | nil => exact fun k s _ _ _ _ _ => ⟨s, rfl⟩
  | cons p l ih =>
      intro k s σ res hready hrun hroom
      obtain ⟨c, o, res', hstep, hrest, rfl⟩ := run_cons_eq_some.mp hrun
      have hbytes : s.w.mem p = mem p := hready.plain.bytes p List.mem_cons_self
      have hext : (extras ((p, o) :: res')).length = o.extra.length + (extras res').length :=
        List.length_append
      have hslot : s.pktsBA.get k = .ok p := hready.plain.slots 0 p rfl
      have hstep₀ : u.step (s.w.next u.supply) (s.conns (u.ident (s.w.mem p))) (s.w.mem p)
          = some (c, o) := by
        rw [hready.next_eq, hbytes]
        exact hstep
      obtain ⟨s₁, hs₁⟩ := hready.runs.runPkt_of_room hident hslot hready.spares hstep₀ (by omega)
      obtain ⟨hruns₁, o', hstep', ha⟩ := hready.runs.runPkt_eq_ok hident hslot hready.spares hs₁
      obtain ⟨hc, rfl⟩ := Prod.mk.inj (Option.some.inj (hstep₀.symm.trans hstep'))
      have hpkts : s₁.pktsBA.pkts
          = s.pktsBA.pkts ++ (List.range' s.w.given o.extra.length).map u.supply := ha.pkts
      have hnum : s₁.pktsBA.numBufs = s.pktsBA.numBufs + o.extra.length := by
        unfold BufArray.numBufs
        rw [hpkts]
        simp
      have hcap : BufArray.capacity s₁.pktsBA.numSlots = BufArray.capacity s.pktsBA.numSlots :=
        ha.capacity
      have hconns : s₁.conns = Function.update s.conns (u.ident (s.w.mem p))
          (s₁.conns (u.ident (s.w.mem p))) := ha.conns_eq
      have hgiven : s₁.w.given = s.w.given + o.extra.length := by
        rw [show s₁.w = (s.w.fill u.supply o.extra).write p o.pkt from ha.w]
        exact Heap.fill_given _ _ _
      rw [← hc, hbytes] at hconns
      obtain ⟨s', hs'⟩ := ih (k + 1) (hready.step hruns₁ ha)
        (by rw [hconns, hgiven]; exact hrest) (by rw [hnum, hcap]; omega)
      refine ⟨s', ?_⟩
      rw [List.length_cons, List.range'_succ]
      exact foldlM_cons_eq_ok.mpr ⟨s₁, hs₁, hs'⟩

end Ready

end Local

/-! ### What the caller gets -/

/-- A batch: the packets that were received, in an array, and what is in memory then. -/
structure Rx (supply : Nat → P) (B : Type) where
  pkts : List P
  array : BufArray P
  isNew : BufArray.new pkts = some array
  w : Heap P B
  nodup : pkts.Nodup
  spares : ∀ p ∈ pkts, Spares supply p w.given

/-- The batch is handed to the machine. -/
def Sys.rx {supply : Nat → P} (s : Sys K P D (Heap P B)) (x : Rx supply B) :
    Sys K P D (Heap P B) :=
  { s with pktsBA := x.array, w := x.w }

/-- The caller reads these answers back: what was answered in place and then the packets that
were asked for are sent, the other packets of the batch are freed. -/
structure Told (supply : Nat → P) (given : Nat) (res : List (P × Out B))
    (t : Sys K P D (Heap P B)) : Prop where
  send : t.pktsBA.getSendBufs = some ((res.filter fun r => !r.2.free).map Prod.fst
    ++ (List.range' given (extras res).length).map supply)
  free : t.pktsBA.getFreeBufs = some ((res.filter fun r => r.2.free).map Prod.fst)
  bytes : ((res.filter fun r => !r.2.free).map Prod.fst
    ++ (List.range' given (extras res).length).map supply).map t.w.mem
    = (res.filter fun r => !r.2.free).map (fun r => r.2.pkt) ++ extras res

omit [DecidableEq K] [DecidableEq P] in
/-- What is in the array after a batch. -/
theorem Setup.Batch.slots_eq {u : Setup K P D B} {res : List (P × Out B)}
    {s s' : Sys K P D (Heap P B)} (h : u.Batch 0 res s s')
    (hpkts : s.pktsBA.pkts = res.map Prod.fst) :
    s'.pktsBA.slots = (res.map fun r => (r.1, !r.2.free))
      ++ ((List.range' s.w.given (extras res).length).map u.supply).map fun p => (p, true) := by
  apply BufArray.slots_ext
  intro i
  have hall := h.pkts
  rw [hpkts] at hall
  by_cases hi : i < res.length
  · have hres : res[i]? = some (res.get ⟨i, hi⟩) := List.getElem?_eq_getElem hi
    have hmark := h.marks i _ hres
    rw [Nat.zero_add] at hmark
    rw [hall, List.getElem?_append_left (by simpa using hi), List.getElem?_append_left
      (by simpa using hi), List.getElem?_map, List.getElem?_map, hres, hmark]
    rfl
  · have hle : res.length ≤ i := Nat.not_lt.mp hi
    rw [hall, List.getElem?_append_right (by simpa using hle), List.getElem?_append_right
      (by simpa using hle), List.length_map, List.length_map,
      List.getElem?_map (f := fun p => (p, true))]
    refine Option.map_congr fun p hp => ?_
    have hlt : i < s'.pktsBA.numBufs := by
      have hget := (List.getElem?_eq_some_iff.mp hp).1
      unfold BufArray.numBufs
      rw [hall, List.length_append, List.length_map]
      omega
    rw [h.fresh i (by unfold BufArray.numBufs; rw [hpkts, List.length_map]; exact hle),
      decide_eq_true hlt]

omit [DecidableEq K] [DecidableEq P] in
/-- What the caller is told after a batch. -/
theorem Setup.Batch.told {u : Setup K P D B} {res : List (P × Out B)}
    {s s' : Sys K P D (Heap P B)} (h : u.Batch 0 res s s')
    (hpkts : s.pktsBA.pkts = res.map Prod.fst) : Told u.supply s.w.given res s' := by
  have hslots := h.slots_eq hpkts
  have hmarked : ∀ want, BufArray.withMark want s'.pktsBA.slots
      = (res.filter fun r => (!r.2.free) == want).map Prod.fst ++ BufArray.withMark want
        (((List.range' s.w.given (extras res).length).map u.supply).map fun p => (p, true)) := by
    intro want
    rw [hslots]
    unfold BufArray.withMark
    rw [List.filter_append, List.map_append, List.filter_map, List.map_map]
    rfl
  refine ⟨?_, ?_, ?_⟩
  · rw [(BufArray.represents s'.pktsBA).sent, hmarked true]
    simp [BufArray.withMark, List.filter_map, Function.comp_def]
  · rw [(BufArray.represents s'.pktsBA).freed, hmarked false]
    simp [BufArray.withMark, List.filter_map, Function.comp_def]
  · have hextra : ((List.range' s.w.given (extras res).length).map u.supply).map s'.w.mem
        = extras res := by
      rw [List.map_map]
      exact h.extra
    rw [List.map_append, hextra, List.map_map]
    congr 1
    refine List.map_congr_left fun r hr => ?_
    exact h.own r (List.mem_of_mem_filter hr)

namespace Local.Runs

variable [Inhabited D] {u : Local K P D B} {env : Env K P (Heap P B)}
  {s : Sys K P D (Heap P B)}

/-- With no timeout set a batch is its packets. -/
theorem runPktBatch_rx (h : u.Runs s.sm) (env : Env K P (Heap P B)) (fuel : Nat)
    (x : Rx u.supply B) : runPktBatch env (fuel + 1) (s.rx x)
      = (List.range' 0 x.pkts.length).foldlM (fun s i => runPkt env i s) (s.rx x) := by
  have hloop : timeoutLoop env (fuel + 1) (s.rx x) = .ok (s.rx x) := by
    rw [timeoutLoop]
    rw [show (s.rx x).sm.timeoutsQ = [] from h.timeoutsQ, TopRule.top_nil]
  have hcount : (s.rx x).pktsBA.getTotalCount = x.pkts.length :=
    congrArg List.length (BufArray.new_eq_some x.isNew).2.2.1
  unfold runPktBatch
  rw [hloop, hcount, ← List.range_eq_range']
  rfl

omit [DecidableEq K] [Inhabited D] in
theorem ready_rx (h : u.Runs s.sm) (x : Rx u.supply B) :
    u.Ready x.w.mem 0 x.pkts (s.rx x) where
  plain := by
    have hpkts : x.array.pkts = x.pkts := (BufArray.new_eq_some x.isNew).2.2.1
    have hruns : u.Runs (s.rx x).sm := h
    refine ⟨fun i p hp => ?_, fun _ _ => rfl, x.nodup, fun p hp => (x.spares p hp).apart, ?_,
      hruns.plain⟩
    · show x.array.get (0 + i) = .ok p
      unfold BufArray.get
      rw [Nat.zero_add, hpkts, hp]
    · obtain ⟨p, hp⟩ := List.exists_mem_of_length_pos (BufArray.new_eq_some x.isNew).1
      exact (x.spares p hp).fresh
  runs := h
  supplied _ _ := rfl

/-- **What a batch did.** -/
theorem rx_eq_ok (hident : ∀ q w, env.identify q w = u.ident (w.mem q)) (h : u.Runs s.sm)
    (fuel : Nat) (x : Rx u.supply B) {t : Sys K P D (Heap P B)}
    (ht : runPktBatch env (fuel + 1) (s.rx x) = .ok t) :
    u.Runs t.sm ∧ ∃ res, u.run x.w.mem x.pkts x.w.given s.conns = some (t.conns, res) ∧
      res.map Prod.fst = x.pkts ∧ Told u.supply x.w.given res t := by
  rw [h.runPktBatch_rx] at ht
  obtain ⟨hruns, res, hrun, hfst, hb⟩ := (h.ready_rx x).run_eq_ok hident x.pkts 0 ht
  have hpkts : (s.rx x).plain.pktsBA.pkts = res.map Prod.fst :=
    (BufArray.new_eq_some x.isNew).2.2.1.trans hfst.symm
  have htold := hb.told hpkts
  exact ⟨hruns, res, hrun, hfst, htold.send, htold.free, htold.bytes⟩

/-- **When a batch does not stop the program.** -/
theorem rx_of_room (hident : ∀ q w, env.identify q w = u.ident (w.mem q)) (h : u.Runs s.sm)
    (fuel : Nat) (x : Rx u.supply B) {σ : Option K → Conn D} {res : List (P × Out B)}
    (hrun : u.run x.w.mem x.pkts x.w.given s.conns = some (σ, res))
    (hroom : x.pkts.length + (extras res).length < 2 ^ 31) :
    ∃ t, runPktBatch env (fuel + 1) (s.rx x) = .ok t := by
  obtain ⟨hpos, -, hpkts, hmask⟩ := BufArray.new_eq_some x.isNew
  rw [h.runPktBatch_rx]
  refine (h.ready_rx x).run_of_room hident x.pkts 0 hrun ?_
  have hcap := BufArray.capacity_ge x.array.nonempty
  show x.array.pkts.length + _ ≤ BufArray.capacity x.array.sendMask.length
  rw [hpkts]
  omega

end Local.Runs

end MoonState
