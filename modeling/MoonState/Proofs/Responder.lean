/-
What a machine of responders does.

For functions that answer in the packet they got, a packet is a step of a small
state: the table, the pool and the rest of the program.  `Service.receive` is that
step; it knows no memory, no array and no timeouts.  `process_eq` and `connect_eq`
say that a batch is the fold of it and the opening of a connection one
application, with the packets rewritten and marked as it says.
-/
import MoonState.Model.Responder
import MoonState.Proofs.Chain
import MoonState.Proofs.Slots

namespace MoonState

variable {K P D B R : Type} [DecidableEq K]

/-! ### The small state -/

/-- What the program holds besides the machine's setup. -/
structure Held (K D R : Type) where
  table : FMap K (State D)
  pool : FMap K (State D)
  rest : R

namespace Service

variable (u : Service K D B R)

/-- The object of a new connection; `none` where the factory throws. -/
def newData [Inhabited D] (id : K) (r : R) : Option (D × R) :=
  match u.factory with
  | none => some (default, r)
  | some f => f id r

/-- The connection a packet is served for, if there is one; `none` where there is no new object. -/
def find [Inhabited D] (id : K) (h : Held K D R) : Option (Held K D R × Option (State D)) :=
  match h.table.lookup id with
  | some st => some (h, some st)
  | none =>
    match h.pool.lookup id with
    | some st =>
      some ({ h with table := FMap.insertNew id st h.table, pool := h.pool.erase id }, some st)
    | none =>
      if u.listenToConnections then
        match u.newData id h.rest with
        | none => none
        | some (d, r) =>
          some ({ h with
            table := FMap.insertNew id (State.new u.startStateID d) h.table, rest := r },
            some (State.new u.startStateID d))
      else some (h, none)

/-- The function of a `State` answers. -/
def answer (st : State D) (b : B) (r : R) : Option (Answer D B R) :=
  match u.responders[st.state.toNat]? with
  | some (some f) => f st.stateData b r
  | _ => none

/-- The `State` after an answer. -/
def after (st : State D) (a : Answer D B R) : State D :=
  { stateData := a.stateData, state := a.newState.getD st.state, timeoutID := timeoutIDInvalid }

/-- The function of a connection runs on a packet: what is held then, the packet, and whether it
is sent. -/
def serve (id : K) (st : State D) (h : Held K D R) (b : B) : Option (Held K D R × B × Bool) :=
  (u.answer st b h.rest).map fun a =>
    ({ h with
      table := if (after st a).state = u.endStateID then
        (h.table.insert id (after st a)).erase id else h.table.insert id (after st a)
      rest := a.rest }, a.pkt, !a.free)

/-- **What a packet does**, or `none` where it stops the program. -/
def receive [Inhabited D] (h : Held K D R) (b : B) : Option (Held K D R × B × Bool) :=
  match u.ident b with
  | none => some (h, b, false)
  | some id =>
    match u.find id h with
    | none => none
    | some (h', none) => some (h', b, false)
    | some (h', some st) => u.serve id st h' b

/-- The connection whose function gets the packet, and its `State` then. -/
def served [Inhabited D] (h : Held K D R) (b : B) : Option (K × State D) :=
  match u.ident b with
  | none => none
  | some id =>
    match u.find id h with
    | some (_, some st) => some (id, st.woken)
    | _ => none

/-- What a batch does. -/
def receiveAll [Inhabited D] : List B → Held K D R → Option (Held K D R × List (B × Bool))
  | [], h => some (h, [])
  | b :: bs, h =>
    match u.receive h b with
    | none => none
    | some (h', out) => (receiveAll bs h').map fun r => (r.1, out :: r.2)

/-- The functions that get the packets of a batch. -/
def callsAll [Inhabited D] : List B → Held K D R → List (K × State D × B × Bool)
  | [], _ => []
  | b :: bs, h =>
    match u.receive h b with
    | none => []
    | some (h', _, sent) =>
      ((u.served h b).map fun c => (c.1, c.2, b, sent)).toList ++ callsAll bs h'

/-- What opening a connection does. -/
def openWith (id : K) (st : State D) (h : Held K D R) (b : B) : Option (Held K D R × B × Bool) :=
  (u.answer st b h.rest).map fun a =>
    ({ h with
      pool := if (after st a).state = u.endStateID then h.pool
        else FMap.insertNew id (after st a) h.pool
      rest := a.rest }, a.pkt, !a.free)

/-- Two batches are one. -/
theorem receiveAll_append [Inhabited D] (as bs : List B) (h : Held K D R) :
    u.receiveAll (as ++ bs) h = (u.receiveAll as h).bind fun r =>
      (u.receiveAll bs r.1).map fun r' => (r'.1, r.2 ++ r'.2) := by
  induction as generalizing h with
  | nil =>
      show u.receiveAll bs h = (u.receiveAll bs h).map fun r' => (r'.1, [] ++ r'.2)
      cases u.receiveAll bs h <;> rfl
  | cons a as ih =>
      rw [List.cons_append, receiveAll, receiveAll]
      cases u.receive h a with
      | none => rfl
      | some ho =>
          dsimp only
          rw [ih]
          cases u.receiveAll as ho.1 with
          | none => rfl
          | some r =>
              dsimp only [Option.bind_some, Option.map_some]
              cases u.receiveAll bs r.1 <;> rfl

/-- The machine is set up like that, and no timeout was ever set. -/
structure Runs (sm : StateMachine K P D (World P B R)) [DecidableEq P] : Prop where
  functions : sm.functions = u.responders.map (Option.map Responder.code)
  startStateID : sm.startStateID = u.startStateID
  startStateFun : sm.startStateFun = u.factory.map fun f id w =>
    (f id w.rest).map fun d => (d.1, { w with rest := d.2 })
  endStateID : sm.endStateID = u.endStateID
  listenToConnections : sm.listenToConnections = u.listenToConnections
  timeoutsQ : sm.timeoutsQ = []

end Service

/-- What a program holds while it runs a machine. -/
def Sys.held (s : Sys K P D (World P B R)) : Held K D R :=
  ⟨s.sm.stateTable, s.connPool, s.w.rest⟩

/-! ### One function -/

variable [DecidableEq P]

/-- What a function that answered `r` leaves in the log. -/
def Answer.log (r : Answer D B R) (idx : Nat) : List (Event K D P) :=
  if r.free then [.freePkt idx] else []

/-- `b` is `a` after a function that answered `r` on packet `p`. -/
structure Answer.Did (r : Answer D B R) (p : P) (es : List (Event K D P))
    (a b : Activation K P D (World P B R)) : Prop where
  sm : b.sys.sm = a.sys.sm
  connPool : b.sys.connPool = a.sys.connPool
  pktsBA : b.sys.pktsBA = a.sys.pktsBA
  w : b.sys.w = ⟨Function.update a.sys.w.mem p r.pkt, r.rest⟩
  state : b.state = ⟨r.stateData, r.newState.getD a.state.state, a.state.timeoutID⟩
  pktIdx : b.iface.pktIdx = a.iface.pktIdx
  cID : b.iface.cID = a.iface.cID
  sendPkt : b.iface.sendPkt = (a.iface.sendPkt && !r.free)
  log : b.sys.log = a.sys.log ++ es

omit [DecidableEq K] in
/-- The code of an answer always returns. -/
theorem Answer.exec_code (env : Env K P (World P B R)) (r : Answer D B R) (p : P)
    (a : Activation K P D (World P B R)) :
    ∃ b, exec env (.put r.stateData ⟨Function.update a.sys.w.mem p r.pkt, r.rest⟩ r.tail) a = .ok b ∧
      r.Did p (r.log a.iface.pktIdx) a b := by
  show ∃ b, exec env r.tail _ = .ok b ∧ _
  unfold tail Answer.log
  cases hf : r.free with
  | true =>
      cases hn : r.newState with
      | none =>
          exact ⟨_, rfl, rfl, rfl, rfl, rfl, by rw [hn]; rfl, rfl, rfl, by rw [hf]; simp; rfl, rfl⟩
      | some n =>
          exact ⟨_, rfl, rfl, rfl, rfl, rfl, by rw [hn]; rfl, rfl, rfl, by rw [hf]; simp; rfl, rfl⟩
  | false =>
      have hlog : a.sys.log = a.sys.log ++ [] := (List.append_nil _).symm
      cases hn : r.newState with
      | none =>
          exact ⟨_, rfl, rfl, rfl, rfl, rfl, by rw [hn]; rfl, rfl, rfl, by rw [hf]; simp; rfl, hlog⟩
      | some n =>
          exact ⟨_, rfl, rfl, rfl, rfl, rfl, by rw [hn]; rfl, rfl, rfl, by rw [hf]; simp; rfl, hlog⟩

namespace Service.Runs

variable {u : Service K D B R} {sm : StateMachine K P D (World P B R)}

omit [DecidableEq K] in
/-- The function a state has is the code of its responder. -/
theorem dispatch_eq (h : u.Runs sm) (n : StateID) :
    sm.dispatch n = match u.responders[n.toNat]? with
      | some (some f) => .ok f.code
      | _ => .error .noFunction := by
  have hget : sm.functions[n.toNat]? = u.responders[n.toNat]?.map (Option.map Responder.code) := by
    rw [h.functions, List.getElem?_map]
  have hlen : sm.functions.length = u.responders.length := by
    rw [h.functions, List.length_map]
  have hsmall := u.small
  unfold StateMachine.dispatch
  rw [hget]
  cases hr : u.responders[n.toNat]? with
  | none => simp
  | some o =>
      have hlt := (List.getElem?_eq_some_iff.mp hr).1
      rw [if_pos (by omega)]
      cases o <;> rfl

omit [DecidableEq K] in
theorem within (h : u.Runs sm) : sm.Within ⟨True, False, False⟩ := by
  intro f hf st p
  rw [h.functions, List.mem_map] at hf
  obtain ⟨o, -, ho⟩ := hf
  cases o with
  | none => simp at ho
  | some g =>
      obtain rfl := Option.some.inj ho
      intro st' w
      dsimp only
      split
      · trivial
      · rename_i a _
        show a.tail.Within _
        unfold Answer.tail
        cases a.free <;> cases a.newState <;> trivial

variable {env : Env K P (World P B R)}

variable (env) in
omit [DecidableEq K] in
/-- What the function of a `State` does on the packet of its slot. -/
theorem callFun_of_some {a : Activation K P D (World P B R)} {p : P} {r : Answer D B R}
    (h : u.Runs a.sys.sm) (hp : a.sys.pktsBA.get a.iface.pktIdx = .ok p)
    (hr : u.answer a.state (a.sys.w.mem p) a.sys.w.rest = some r) :
    ∃ b, callFun env a = .ok b ∧
      r.Did p (.call a.iface.cID a.state :: r.log a.iface.pktIdx) a b := by
  have hf := h.dispatch_eq a.state.state
  unfold answer at hr
  split at hf
  · rename_i f hf'
    rw [hf'] at hr
    rw [callFun_of_ok hf hp]
    obtain ⟨b, hb, hdid⟩ := r.exec_code env p { a with sys := a.sys.emit (.call _ _) }
    refine ⟨b, ?_, hdid.sm, hdid.connPool, hdid.pktsBA, hdid.w, hdid.state, hdid.pktIdx, hdid.cID,
      hdid.sendPkt, ?_⟩
    swap
    · rw [hdid.log]
      exact (List.append_assoc _ _ _)
    rw [← hb]
    unfold Responder.code
    dsimp only [exec, Sys.emit]
    rw [show f a.state.stateData (a.sys.w.mem p) a.sys.w.rest = some r from hr]
    rfl
  · rename_i hno
    split at hr
    · rename_i f hf'
      exact absurd hf' (hno f)
    · simp at hr

variable (env) in
omit [DecidableEq K] in
theorem callFun_of_none {a : Activation K P D (World P B R)} {p : P} (h : u.Runs a.sys.sm)
    (hp : a.sys.pktsBA.get a.iface.pktIdx = .ok p)
    (hr : u.answer a.state (a.sys.w.mem p) a.sys.w.rest = none) :
    ∃ e, callFun env a = .error e := by
  have hf := h.dispatch_eq a.state.state
  unfold answer at hr
  split at hf
  · rename_i f hf'
    rw [hf'] at hr
    rw [callFun_of_ok hf hp]
    refine ⟨.exception, ?_⟩
    unfold Responder.code
    dsimp only [exec, Sys.emit]
    rw [show f a.state.stateData (a.sys.w.mem p) a.sys.w.rest = none from hr]
    rfl
  · refine ⟨.noFunction, ?_⟩
    unfold callFun
    rw [hf]
    rfl

end Service.Runs

/-! ### One packet -/

omit [DecidableEq K] [DecidableEq P] in
theorem Event.calls_append_run (es es' : List (Event K D P)) (k cur : Nat) :
    Event.calls k (es ++ .run cur :: es') = Event.calls k es ++ Event.calls cur es' := by
  induction es generalizing k with
  | nil => rfl
  | cons e es ih =>
      cases e with
      | run idx => exact ih idx
      | call id st =>
          show (k, id, st) :: Event.calls k (es ++ .run cur :: es') = _
          rw [ih k]
          rfl
      | _ => exact ih k

/-- `s'` is `s` after a packet, in slot `cur`: `h` is held then, the packet holds `b`, and is sent
or not; `o` is the connection it was for. -/
structure Service.Responded (u : Service K D B R) (cur : Nat) (p : P) (h : Held K D R) (b : B)
    (sent : Bool) (o : Option (K × State D)) (s s' : Sys K P D (World P B R)) : Prop where
  held : s'.held = h
  mem : s'.w.mem = Function.update s.w.mem p b
  pkts : s'.pktsBA.pkts = s.pktsBA.pkts
  sends : ∀ i, s'.pktsBA.sends i = if i = cur then sent else s.pktsBA.sends i
  runs : u.Runs s'.sm
  log : ∃ es, s'.log = s.log ++ es ∧ Event.calls cur es = (o.map fun c => (cur, c)).toList

/-- `a` is the function of connection `id`, after it answered `r` in slot `cur`. -/
structure Service.Answering (u : Service K D B R) (cur : Nat) (p : P) (id : K) (st : State D)
    (r : Answer D B R) (s : Sys K P D (World P B R)) (a : Activation K P D (World P B R)) :
    Prop where
  runs : u.Runs a.sys.sm
  table : a.sys.sm.stateTable = s.sm.stateTable
  connPool : a.sys.connPool = s.connPool
  pktsBA : a.sys.pktsBA = s.pktsBA
  w : a.sys.w = ⟨Function.update s.w.mem p r.pkt, r.rest⟩
  state : a.state = after st r
  pktIdx : a.iface.pktIdx = cur
  cID : a.iface.cID = id
  sendPkt : a.iface.sendPkt = !r.free
  log : a.sys.log = s.log ++ .call id st.woken :: r.log cur

/-- `s₁` is `s` before a function is called: `h` is held then, and nothing else was done. -/
structure Service.Looked (u : Service K D B R) (h : Held K D R)
    (s s₁ : Sys K P D (World P B R)) : Prop where
  held : s₁.held = h
  mem : s₁.w.mem = s.w.mem
  pktsBA : s₁.pktsBA = s.pktsBA
  runs : u.Runs s₁.sm
  log : ∃ es, s₁.log = s.log ++ es ∧
    ∀ cur (es' : List (Event K D P)), Event.calls cur (es ++ es') = Event.calls cur es'

namespace Service.Runs

variable {u : Service K D B R} {env : Env K P (World P B R)} {s : Sys K P D (World P B R)}
  {cur : Nat} {p : P}

variable (env) in
omit [DecidableEq K] in
theorem markDropPkt_eq (h : u.Runs s.sm) (hp : s.pktsBA.get cur = .ok p) :
    ∃ s', s.markDropPkt env cur = .ok s' ∧
      u.Responded cur p s.held (s.w.mem p) false none s s' := by
  have hlt := (List.getElem?_eq_some_iff.mp (BufArray.get_eq_ok hp)).1
  obtain ⟨s', hs'⟩ := Sys.markDropPkt_of_lt env hlt
  obtain ⟨ba, hba, rfl⟩ := Sys.markDropPkt_eq_ok hs'
  exact ⟨_, hs', rfl, (Function.update_eq_self _ _).symm, (BufArray.mark_eq_ok hba).1,
    BufArray.sends_of_mark hlt hba, h, [], (List.append_nil _).symm, rfl⟩

omit [DecidableEq K] in
/-- The setup does not say which timeouts are valid. -/
theorem of_timeouts {sm : StateMachine K P D (World P B R)} (h : u.Runs sm)
    (tf : FMap TimeoutID (TimeoutData K P D (World P B R))) :
    u.Runs { sm with timeoutFunctions := tf } :=
  ⟨h.functions, h.startStateID, h.startStateFun, h.endStateID, h.listenToConnections, h.timeoutsQ⟩

omit [DecidableEq K] [DecidableEq P] in
/-- Where a function starts, only the timeouts may differ. -/
theorem startPkt_sys {W : Type} (cur : Nat) (id : K) (st : State D) (s : Sys K P D W) :
    ∃ tf, (startPkt cur id st s).sys = { s with sm := { s.sm with timeoutFunctions := tf } } := by
  show ∃ tf, s.cancelTimeout st = _
  unfold Sys.cancelTimeout
  split
  · exact ⟨_, rfl⟩
  · exact ⟨_, rfl⟩

/-! ### The function of a connection -/

omit [DecidableEq K] in
/-- Where the function of a packet starts, it finds the packet. -/
theorem startPkt_runs (h : u.Runs s.sm) (id : K) (st : State D) (hp : s.pktsBA.get cur = .ok p) :
    u.Runs (startPkt cur id st s).sys.sm ∧
      (startPkt cur id st s).sys.w = s.w ∧
      (startPkt cur id st s).sys.pktsBA.get cur = .ok p := by
  obtain ⟨tf, htf⟩ := startPkt_sys cur id st s
  rw [htf]
  exact ⟨h.of_timeouts tf, rfl, hp⟩

omit [DecidableEq K] in
variable (env) in
/-- The function of a packet's connection answers. -/
theorem startPkt_answers (h : u.Runs s.sm) (id : K) (st : State D) {r : Answer D B R}
    (hp : s.pktsBA.get cur = .ok p) (hr : u.answer st (s.w.mem p) s.w.rest = some r) :
    ∃ a, callFun env (startPkt cur id st s) = .ok a ∧ u.Answering cur p id st r s a := by
  obtain ⟨hruns, hw, hp'⟩ := h.startPkt_runs id st hp
  obtain ⟨a, ha, hdid⟩ := hruns.callFun_of_some env hp' (by rw [hw]; exact hr)
  obtain ⟨tf, htf⟩ := startPkt_sys cur id st s
  refine ⟨a, ha, ?_⟩
  constructor
  case runs =>
    rw [hdid.sm]
    exact hruns
  case table => rw [hdid.sm, htf]
  case connPool => rw [hdid.connPool, htf]
  case pktsBA => rw [hdid.pktsBA, htf]
  case w => rw [hdid.w, hw]
  case state => exact hdid.state
  case pktIdx => exact hdid.pktIdx
  case cID => exact hdid.cID
  case sendPkt => exact hdid.sendPkt.trans (Bool.true_and _)
  case log =>
    rw [← Sys.cancelTimeout_log s st]
    exact hdid.log

omit [DecidableEq K] in
variable (env) in
theorem startPkt_refuses (h : u.Runs s.sm) (id : K) (st : State D)
    (hp : s.pktsBA.get cur = .ok p) (hr : u.answer st (s.w.mem p) s.w.rest = none) :
    ∃ e, callFun env (startPkt cur id st s) = .error e := by
  obtain ⟨hruns, hw, hp'⟩ := h.startPkt_runs id st hp
  exact hruns.callFun_of_none env hp' (by rw [hw]; exact hr)

omit [DecidableEq K] in
variable (env) in
/-- So does the function of a connection that is opened. -/
theorem param_answers (h : u.Runs s.sm) (id : K) (st : State D) {r : Answer D B R}
    (hp : s.pktsBA.get 0 = .ok p) (hst : st.timeoutID = timeoutIDInvalid)
    (hr : u.answer st (s.w.mem p) s.w.rest = some r) :
    ∃ a, callFun env { sys := s, state := st, iface := FunIface.new 0 id } = .ok a ∧
      u.Answering 0 p id st r s a := by
  obtain ⟨a, ha, hdid⟩ := h.callFun_of_some env
    (a := { sys := s, state := st, iface := FunIface.new 0 id }) hp hr
  refine ⟨a, ha, ?_⟩
  constructor
  case runs =>
    rw [hdid.sm]
    exact h
  case table => rw [hdid.sm]
  case connPool => exact hdid.connPool
  case pktsBA => exact hdid.pktsBA
  case w => exact hdid.w
  case state =>
    rw [hdid.state, hst]
    rfl
  case pktIdx => exact hdid.pktIdx
  case cID => exact hdid.cID
  case sendPkt => exact hdid.sendPkt.trans (Bool.true_and _)
  case log =>
    rw [st.woken_eq hst]
    exact hdid.log

end Service.Runs

namespace Service.Answering

variable {u : Service K D B R} {s : Sys K P D (World P B R)} {cur : Nat} {p : P} {id : K}
  {st : State D} {r : Answer D B R} {a : Activation K P D (World P B R)}

omit [DecidableEq K] in
theorem ended_iff (h : u.Answering cur p id st r s a) :
    a.state.state = a.sys.sm.endStateID ↔ (after st r).state = u.endStateID := by
  rw [h.state, h.runs.endStateID]

omit [DecidableEq K] [DecidableEq P] in
/-- It is one call, whatever is logged about the end of it. -/
theorem calls_eq (cur : Nat) (id : K) (st : State D) (r : Answer D B R)
    (fin : List (Event K D P)) (hfin : Event.calls cur fin = []) :
    Event.calls cur (.call id st.woken :: r.log cur ++ fin) = [(cur, id, st.woken)] := by
  unfold Answer.log
  split
  · exact congrArg (List.cons _) hfin
  · exact congrArg (List.cons _) hfin

/-- What is held once the connection of a packet is in the table, or ended. -/
theorem commit_responded (h : u.Answering cur p id st r s a) {ndebug : Bool} {ba : BufArray P}
    (hlt : cur < s.pktsBA.numBufs) (hmark : s.pktsBA.mark ndebug cur (!r.free) = .ok ba) :
    u.Responded cur p
      { s.held with
        table := if (after st r).state = u.endStateID then
          (s.held.table.insert id (after st r)).erase id else s.held.table.insert id (after st r)
        rest := r.rest } r.pkt (!r.free) (some (id, st.woken)) s
      { (if a.state.state = a.sys.sm.endStateID then closeState id a.commit
        else a.commit) with pktsBA := ba } := by
  have hpkts : ba.pkts = s.pktsBA.pkts := (BufArray.mark_eq_ok hmark).1
  have hsends := BufArray.sends_of_mark hlt hmark
  have hmem : a.sys.w.mem = Function.update s.w.mem p r.pkt := by rw [h.w]
  have hrest : a.sys.w.rest = r.rest := by rw [h.w]
  by_cases he : (after st r).state = u.endStateID
  · rw [if_pos he, if_pos (h.ended_iff.mpr he)]
    obtain ⟨fin, hfin, hor⟩ := Sys.removeState_log a.commit id
    refine ⟨?_, hmem, hpkts, hsends, ⟨h.runs.functions, h.runs.startStateID, h.runs.startStateFun,
      h.runs.endStateID, h.runs.listenToConnections, h.runs.timeoutsQ⟩,
      .call id st.woken :: r.log cur ++ fin, ?_, calls_eq cur id st r fin ?_⟩
    · show Held.mk ((a.sys.sm.stateTable.insert a.iface.cID a.state).erase id) a.sys.connPool
        a.sys.w.rest = _
      rw [h.table, h.cID, h.state, h.connPool, hrest]
      rfl
    · show (a.commit.removeState id).log = _
      rw [hfin, show a.commit.log = a.sys.log from rfl, h.log, List.append_assoc]
    · rcases hor with rfl | rfl <;> rfl
  · rw [if_neg he, if_neg fun hc => he (h.ended_iff.mp hc)]
    refine ⟨?_, hmem, hpkts, hsends, ⟨h.runs.functions, h.runs.startStateID, h.runs.startStateFun,
      h.runs.endStateID, h.runs.listenToConnections, h.runs.timeoutsQ⟩,
      .call id st.woken :: r.log cur, h.log, ?_⟩
    · show Held.mk (a.sys.sm.stateTable.insert a.iface.cID a.state) a.sys.connPool
        a.sys.w.rest = _
      rw [h.table, h.cID, h.state, h.connPool, hrest]
      rfl
    · simpa using calls_eq cur id st r ([] : List (Event K D P)) rfl

/-- What is held once a connection that is opened is in the pool, or ended. -/
theorem pooled_responded (h : u.Answering 0 p id st r s a) {ndebug : Bool} {ba : BufArray P}
    (hlt : 0 < s.pktsBA.numBufs) (hmark : s.pktsBA.mark ndebug 0 (!r.free) = .ok ba) :
    u.Responded 0 p
      { s.held with
        pool := if (after st r).state = u.endStateID then s.held.pool
          else FMap.insertNew id (after st r) s.held.pool
        rest := r.rest } r.pkt (!r.free) (some (id, st.woken)) s
      { (if a.state.state = a.sys.sm.endStateID then a.sys else a.sys.poolAdd id a.state) with
        pktsBA := ba } := by
  have hpkts : ba.pkts = s.pktsBA.pkts := (BufArray.mark_eq_ok hmark).1
  have hsends := BufArray.sends_of_mark hlt hmark
  have hmem : a.sys.w.mem = Function.update s.w.mem p r.pkt := by rw [h.w]
  have hrest : a.sys.w.rest = r.rest := by rw [h.w]
  by_cases he : (after st r).state = u.endStateID
  · rw [if_pos he, if_pos (h.ended_iff.mpr he)]
    refine ⟨?_, hmem, hpkts, hsends, h.runs, .call id st.woken :: r.log 0, h.log, ?_⟩
    · show Held.mk a.sys.sm.stateTable a.sys.connPool a.sys.w.rest = _
      rw [h.table, h.connPool, hrest]
      rfl
    · simpa using calls_eq 0 id st r ([] : List (Event K D P)) rfl
  · rw [if_neg he, if_neg fun hc => he (h.ended_iff.mp hc)]
    refine ⟨?_, hmem, hpkts, hsends, h.runs, .call id st.woken :: r.log 0 ++ [.opened id a.state],
      ?_, calls_eq 0 id st r [.opened id a.state] rfl⟩
    · show Held.mk a.sys.sm.stateTable (FMap.insertNew id a.state a.sys.connPool) a.sys.w.rest = _
      rw [h.table, h.state, h.connPool, hrest]
      rfl
    · show a.sys.log ++ [.opened id a.state] = _
      rw [h.log, List.append_assoc]

end Service.Answering

namespace Service.Runs

variable {u : Service K D B R} {env : Env K P (World P B R)} {s : Sys K P D (World P B R)}
  {cur : Nat} {p : P}

variable (env) in
/-- **A packet of a known connection.** -/
theorem runState_eq (h : u.Runs s.sm) (id : K) (st : State D) (hp : s.pktsBA.get cur = .ok p) :
    match u.serve id st s.held (s.w.mem p) with
    | none => ∃ e, runState env cur id st s = .error e
    | some (h', b, sent) => ∃ s', runState env cur id st s = .ok s' ∧
        u.Responded cur p h' b sent (some (id, st.woken)) s s' := by
  have hlt := (List.getElem?_eq_some_iff.mp (BufArray.get_eq_ok hp)).1
  unfold serve
  cases hr : u.answer st (s.w.mem p) s.held.rest with
  | none =>
      obtain ⟨e, he⟩ := h.startPkt_refuses env id st hp hr
      exact ⟨e, runState_of_error he⟩
  | some r =>
      obtain ⟨a, ha, hans⟩ := h.startPkt_answers env id st hp hr
      obtain ⟨s', hs'⟩ := runState_of_callFun h.within (fun hc => hc) hlt ha
      obtain ⟨a', ba, ha', hmark, rfl⟩ := runState_calm h.within (fun hc => hc) hs'
      obtain rfl := Except.ok.inj (ha.symm.trans ha')
      rw [hans.pktsBA, hans.pktIdx, hans.sendPkt] at hmark
      exact ⟨_, hs', hans.commit_responded hlt hmark⟩

variable (env) in
/-- **A connection that is opened.** -/
theorem addState_eq (h : u.Runs s.sm) (id : K) (st : State D) (hp : s.pktsBA.get 0 = .ok p)
    (hst : st.timeoutID = timeoutIDInvalid) :
    match u.openWith id st s.held (s.w.mem p) with
    | none => ∃ e, addState env id st s = .error e
    | some (h', b, sent) => ∃ s' st', addState env id st s = .ok (s', st') ∧
        u.Responded 0 p h' b sent (some (id, st)) s s' := by
  have hlt := (List.getElem?_eq_some_iff.mp (BufArray.get_eq_ok hp)).1
  unfold openWith
  cases hr : u.answer st (s.w.mem p) s.held.rest with
  | none =>
      obtain ⟨e, he⟩ := h.callFun_of_none env
        (a := { sys := s, state := st, iface := FunIface.new 0 id }) hp hr
      refine ⟨e, ?_⟩
      unfold addState
      rw [he]
      rfl
  | some r =>
      obtain ⟨a, ha, hans⟩ := h.param_answers env id st hp hst hr
      obtain ⟨ba, hmark, hadd⟩ := addState_of_callFun h.within (fun hc => hc) hlt ha
      rw [hans.pktsBA, hans.pktIdx, hans.sendPkt] at hmark
      have hresponded := hans.pooled_responded hlt hmark
      rw [st.woken_eq hst] at hresponded
      exact ⟨_, _, hadd, hresponded⟩

end Service.Runs

namespace Service.Looked

variable {u : Service K D B R} {h : Held K D R} {s s₁ s' : Sys K P D (World P B R)}
  {cur : Nat} {p : P}

omit [DecidableEq K] in
/-- An entry in the log that is no call. -/
theorem emit (hl : u.Looked h s s₁) (e : Event K D P)
    (he : ∀ cur (es : List (Event K D P)), Event.calls cur (e :: es) = Event.calls cur es) :
    u.Looked h s (s₁.emit e) := by
  obtain ⟨es, hlog, hcalls⟩ := hl.log
  refine ⟨hl.held, hl.mem, hl.pktsBA, hl.runs, es ++ [e], ?_, ?_⟩
  · rw [← List.append_assoc, ← hlog]
    rfl
  · intro cur es'
    rw [List.append_assoc, hcalls]
    exact he cur es'

omit [DecidableEq K] in
theorem refl (h : u.Runs s.sm) : u.Looked s.held s s :=
  ⟨rfl, rfl, rfl, h, [], (List.append_nil _).symm, fun _ _ => rfl⟩

omit [DecidableEq K] in
/-- The packet afterwards. -/
theorem responded (hl : u.Looked h s s₁) {h' : Held K D R} {b : B} {sent : Bool}
    {o : Option (K × State D)} (hr : u.Responded cur p h' b sent o s₁ s') :
    u.Responded cur p h' b sent o s s' := by
  obtain ⟨es, hlog, hcalls⟩ := hl.log
  obtain ⟨es', hlog', hcalls'⟩ := hr.log
  refine ⟨hr.held, ?_, ?_, ?_, hr.runs, es ++ es', ?_, ?_⟩
  · rw [hr.mem, hl.mem]
  · rw [hr.pkts, hl.pktsBA]
  · intro i
    rw [hr.sends, hl.pktsBA]
  · rw [hlog', hlog, List.append_assoc]
  · rw [hcalls, hcalls']

omit [DecidableEq K] in
/-- It is dropped. -/
theorem dropped (hl : u.Looked h s s₁) (env : Env K P (World P B R))
    (hp : s.pktsBA.get cur = .ok p) : ∃ s', s₁.markDropPkt env cur = .ok s' ∧
      u.Responded cur p h (s.w.mem p) false none s s' := by
  obtain ⟨s', hs', hr⟩ := Runs.markDropPkt_eq env hl.runs (by rw [hl.pktsBA]; exact hp)
  rw [hl.held, hl.mem] at hr
  exact ⟨s', hs', hl.responded hr⟩

/-- Its function runs. -/
theorem served (hl : u.Looked h s s₁) (env : Env K P (World P B R)) (id : K) (st : State D)
    (hp : s.pktsBA.get cur = .ok p) :
    match u.serve id st h (s.w.mem p) with
    | none => ∃ e, runState env cur id st s₁ = .error e
    | some (h', b, sent) => ∃ s', runState env cur id st s₁ = .ok s' ∧
        u.Responded cur p h' b sent (some (id, st.woken)) s s' := by
  have hst := Runs.runState_eq env hl.runs id st (by rw [hl.pktsBA]; exact hp)
  rw [hl.held, hl.mem] at hst
  cases hserve : u.serve id st h (s.w.mem p) with
  | none =>
      rw [hserve] at hst
      exact hst
  | some out =>
      rw [hserve] at hst
      obtain ⟨s', hs', hr⟩ := hst
      exact ⟨s', hs', hl.responded hr⟩

end Service.Looked

namespace Service.Runs

variable [Inhabited D] {u : Service K D B R} {env : Env K P (World P B R)}
  {s : Sys K P D (World P B R)} {cur : Nat} {p : P}

/-- **The lookup.** -/
theorem findState_eq (h : u.Runs s.sm) (id : K) :
    match u.find id s.held with
    | none => ∃ e, s.findState id = .error e
    | some (h', o) => ∃ s', s.findState id = .ok (s', o) ∧ u.Looked h' s s' := by
  rw [Sys.findState_eq]
  unfold find
  rw [show s.held.table = s.sm.stateTable from rfl, show s.held.pool = s.connPool from rfl]
  cases ht : s.sm.stateTable.lookup id with
  | some st => exact ⟨s, rfl, .refl h⟩
  | none =>
      cases hp : s.connPool.lookup id with
      | some st =>
          exact ⟨_, rfl, rfl, rfl, rfl, ⟨h.functions, h.startStateID, h.startStateFun,
            h.endStateID, h.listenToConnections, h.timeoutsQ⟩, [], (List.append_nil _).symm,
            fun _ _ => rfl⟩
      | none =>
          have hdata : s.startData id
              = (u.newData id s.w.rest).map fun d => (d.1, { s.w with rest := d.2 }) := by
            unfold Sys.startData newData
            rw [h.startStateFun]
            cases u.factory with
            | none => rfl
            | some f => rfl
          dsimp only
          rw [h.listenToConnections, hdata, show s.held.rest = s.w.rest from rfl]
          by_cases hl : u.listenToConnections = true
          · rw [if_pos hl, if_pos hl]
            cases u.newData id s.w.rest with
            | none => exact ⟨_, rfl⟩
            | some dr =>
                rw [← h.startStateID]
                exact ⟨_, rfl, rfl, rfl, rfl, ⟨h.functions, h.startStateID, h.startStateFun,
                  h.endStateID, h.listenToConnections, h.timeoutsQ⟩, _, rfl, fun _ _ => rfl⟩
          · rw [if_neg hl, if_neg hl]
            exact ⟨s, rfl, .refl h⟩

/-- **One packet.** -/
theorem runPkt_eq (hident : ∀ q w, env.identify q w = u.ident (w.mem q)) (h : u.Runs s.sm)
    (hp : s.pktsBA.get cur = .ok p) :
    match u.receive s.held (s.w.mem p) with
    | none => ∃ e, runPkt env cur s = .error e
    | some (h', b, sent) => ∃ s', runPkt env cur s = .ok s' ∧
        u.Responded cur p h' b sent (u.served s.held (s.w.mem p)) (s.emit (.run cur)) s' := by
  unfold receive served
  cases hi : u.ident (s.w.mem p) with
  | none =>
      rw [runPkt_of_unidentified hp ((hident p s.w).trans hi)]
      exact ((Looked.refl (s := s.emit (.run cur)) h).emit (.unidentified cur)
        fun _ _ => rfl).dropped env hp
  | some id =>
      rw [runPkt_of_identified hp ((hident p s.w).trans hi)]
      have hf := findState_eq (s := s.emit (.run cur)) h id
      rw [show (s.emit (.run cur)).held = s.held from rfl] at hf
      dsimp only
      cases hfind : u.find id s.held with
      | none =>
          rw [hfind] at hf
          obtain ⟨e, he⟩ := hf
          exact ⟨e, by rw [he]; rfl⟩
      | some ho =>
          obtain ⟨h₁, o⟩ := ho
          rw [hfind] at hf
          obtain ⟨s₁, hs₁, hl⟩ := hf
          rw [hs₁]
          cases o with
          | none => exact (hl.emit (.discarded cur id) fun _ _ => rfl).dropped env hp
          | some st => exact hl.served env id st hp

end Service.Runs

/-! ### The packet a function got -/

namespace Service

variable [Inhabited D] {u : Service K D B R}

omit [DecidableEq P] in
/-- The packet is received by the function it is served to. -/
theorem receive_of_served {x : Held K D R} {b : B} {id : K} {st : State D}
    (h : u.served x b = some (id, st)) : ∃ x', u.receive x b = u.serve id st x' b := by
  unfold served at h
  unfold receive
  cases hi : u.ident b with
  | none => simp [hi] at h
  | some i =>
      rw [hi] at h
      dsimp only at h ⊢
      cases hf : u.find i x with
      | none => simp [hf] at h
      | some r =>
          obtain ⟨x', o⟩ := r
          cases o with
          | none => simp [hf] at h
          | some st' =>
              simp only [hf, Option.some.injEq, Prod.mk.injEq] at h
              obtain ⟨rfl, rfl⟩ := h
              exact ⟨x', rfl⟩

omit [DecidableEq P] in
/-- A packet that is served was identified. -/
theorem ident_of_served {x : Held K D R} {b : B} {c : K × State D} (h : u.served x b = some c) :
    u.ident b ≠ none := by
  unfold served at h
  intro hnone
  simp [hnone] at h

variable (u) in
/-- The function of connection `id` answers `a` to the packet; no other connection is touched. -/
structure Serves (x : Held K D R) (b : B) (id : K) (st : State D) (a : Answer D B R)
    (x' : Held K D R) : Prop where
  receive : u.receive x b = some (x', a.pkt, !a.free)
  served : u.served x b = some (id, st.woken)
  table : ∀ j, x'.table.lookup j = if j = id then
    (if (after st a).state = u.endStateID then none else some (after st a)) else x.table.lookup j
  pool : ∀ j, x'.pool.lookup j
    = if j = id ∧ x.table.lookup id = none then none else x.pool.lookup j
  rest : x'.rest = a.rest

omit [DecidableEq P] in
/-- A connection is not in the table and in the pool. -/
theorem Serves.pool_self {x x' : Held K D R} {b : B} {id : K} {st : State D} {a : Answer D B R}
    (h : u.Serves x b id st a x') (hfree : x.table.lookup id = none ∨ x.pool.lookup id = none) :
    x'.pool.lookup id = none := by
  rw [h.pool]
  rcases hfree with ht | hp
  · exact if_pos ⟨rfl, ht⟩
  · rw [hp]
    exact ite_self none

omit [DecidableEq P] in
/-- The connection is found, and its function answers. -/
theorem serves_of_find {x y : Held K D R} {b : B} {id : K} {st : State D} {a : Answer D B R}
    (hi : u.ident b = some id) (hf : u.find id x = some (y, some st))
    (ha : u.answer st b y.rest = some a) (htable : ∀ j, j ≠ id → y.table.lookup j = x.table.lookup j)
    (hpool : ∀ j, y.pool.lookup j
      = if j = id ∧ x.table.lookup id = none then none else x.pool.lookup j) :
    ∃ x', u.Serves x b id st a x' := by
  have hrec : u.receive x b = u.serve id st y b := by
    unfold receive
    rw [hi]
    dsimp only
    rw [hf]
  have hserved : u.served x b = some (id, st.woken) := by
    unfold served
    rw [hi]
    dsimp only
    rw [hf]
  rw [serve, ha, Option.map_some] at hrec
  refine ⟨_, hrec, hserved, fun j => ?_, hpool, rfl⟩
  dsimp only
  by_cases hj : j = id
  · rw [if_pos hj, hj]
    split
    · exact Finmap.lookup_erase _ _
    · exact Finmap.lookup_insert _
  · rw [if_neg hj, ← htable j hj]
    split
    · exact (Finmap.lookup_erase_ne hj).trans (Finmap.lookup_insert_of_ne _ hj)
    · exact Finmap.lookup_insert_of_ne _ hj

omit [DecidableEq P] in
/-- A packet of a connection in the table. -/
theorem serves_of_table {x : Held K D R} {b : B} {id : K} {st : State D} {a : Answer D B R}
    (hi : u.ident b = some id) (ht : x.table.lookup id = some st)
    (ha : u.answer st b x.rest = some a) : ∃ x', u.Serves x b id st a x' := by
  refine serves_of_find hi (y := x) ?_ ha (fun _ _ => rfl) fun j => ?_
  · unfold find
    rw [ht]
  · rw [ht, if_neg (by simp)]

omit [DecidableEq P] in
/-- A packet of a connection in the pool. -/
theorem serves_of_pool {x : Held K D R} {b : B} {id : K} {st : State D} {a : Answer D B R}
    (hi : u.ident b = some id) (ht : x.table.lookup id = none) (hp : x.pool.lookup id = some st)
    (ha : u.answer st b x.rest = some a) : ∃ x', u.Serves x b id st a x' := by
  refine serves_of_find hi (y := { x with
    table := FMap.insertNew id st x.table, pool := x.pool.erase id }) ?_ ha
    (fun j hj => FMap.lookup_insertNew_ne _ _ hj) fun j => ?_
  · unfold find
    rw [ht]
    dsimp only
    rw [hp]
  · dsimp only
    by_cases hj : j = id
    · rw [if_pos ⟨hj, ht⟩, hj, Finmap.lookup_erase]
    · rw [if_neg fun h => hj h.1, Finmap.lookup_erase_ne hj]

omit [DecidableEq P] in
/-- A packet of a new connection. -/
theorem serves_of_new {x : Held K D R} {b : B} {id : K} {d : D} {r : R} {a : Answer D B R}
    (hi : u.ident b = some id) (ht : x.table.lookup id = none) (hp : x.pool.lookup id = none)
    (hlisten : u.listenToConnections = true) (hd : u.newData id x.rest = some (d, r))
    (ha : u.answer (State.new u.startStateID d) b r = some a) :
    ∃ x', u.Serves x b id (State.new u.startStateID d) a x' := by
  refine serves_of_find hi (y := { x with
    table := FMap.insertNew id (State.new u.startStateID d) x.table, rest := r }) ?_ ha
    (fun j hj => FMap.lookup_insertNew_ne _ _ hj) fun j => ?_
  · unfold find
    rw [ht]
    dsimp only
    rw [hp]
    dsimp only
    rw [if_pos hlisten, hd]
  · by_cases hj : j = id
    · rw [if_pos ⟨hj, ht⟩, hj, hp]
    · rw [if_neg fun h => hj h.1]

/-- **A packet whose function answers**: what is in it then, its mark, and its connection. -/
theorem Runs.runPkt_served {env : Env K P (World P B R)} {s : Sys K P D (World P B R)} {cur : Nat}
    {p : P} {id : K} {st : State D} (hident : ∀ q w, env.identify q w = u.ident (w.mem q))
    (h : u.Runs s.sm) (hp : s.pktsBA.get cur = .ok p)
    (hserved : u.served s.held (s.w.mem p) = some (id, st))
    (ha : ∀ r, u.answer st (s.w.mem p) r ≠ none) :
    ∃ s' r a, runPkt env cur s = .ok s' ∧ u.answer st (s.w.mem p) r = some a ∧
      s'.w.mem p = a.pkt ∧ s'.pktsBA.slots[cur]? = some (p, !a.free) ∧
      s'.sm.stateTable.lookup id
        = if (after st a).state = u.endStateID then none else some (after st a) := by
  have hrun := h.runPkt_eq hident hp
  obtain ⟨x', hrec⟩ := receive_of_served hserved
  obtain ⟨a, ha⟩ := Option.ne_none_iff_exists'.mp (ha x'.rest)
  rw [hrec, serve, ha, Option.map_some] at hrun
  obtain ⟨s', hs', hr⟩ := hrun
  refine ⟨s', x'.rest, a, hs', ha, ?_, ?_, ?_⟩
  · rw [hr.mem, Function.update_self]
  · rw [BufArray.getElem?_slots, hr.pkts, hr.sends, if_pos rfl]
    show (s.pktsBA.pkts[cur]?).map _ = _
    rw [BufArray.get_eq_ok hp]
    rfl
  · have htable : s'.sm.stateTable = _ := congrArg Held.table hr.held
    rw [htable]
    dsimp only
    split
    · exact Finmap.lookup_erase _ _
    · exact Finmap.lookup_insert _

end Service

/-! ### A batch -/

variable {u : Service K D B R} [Inhabited D]

/-- `s'` is `s` after the packets in the slots from `k` on, each numbered like its slot: `h` is held
then, and `outs` is in the packets. -/
structure Service.Looped (u : Service K D B R) (k n : Nat) (h : Held K D R) (outs : List (B × Bool))
    (s s' : Sys K Nat D (World Nat B R)) : Prop where
  held : s'.held = h
  runs : u.Runs s'.sm
  before : ∀ i, i < k → s'.w.mem i = s.w.mem i ∧ s'.pktsBA.sends i = s.pktsBA.sends i
  outs : (List.range' k n).map (fun i => (s'.w.mem i, s'.pktsBA.sends i)) = outs
  calls : ∃ l, (∀ cur, Event.calls cur s'.log = Event.calls cur s.log ++ l) ∧ (∀ c ∈ l, k ≤ c.1) ∧
    l.map (fun c => (c.2.1, c.2.2, s.w.mem c.1, s'.pktsBA.sends c.1))
      = u.callsAll ((List.range' k n).map s.w.mem) s.held

section loop

variable {k n : Nat} {h₁ h' : Held K D R} {b : B} {sent : Bool} {outs : List (B × Bool)}
  {s s₁ s' : Sys K Nat D (World Nat B R)}

theorem Service.Looped.nil (h : u.Runs s.sm) (k : Nat) : u.Looped k 0 s.held [] s s :=
  ⟨rfl, h, fun _ _ => ⟨rfl, rfl⟩, rfl, [], fun _ => (List.append_nil _).symm, by simp, rfl⟩

omit [DecidableEq K] [Inhabited D] in
/-- The packets behind the one that was run hold what they held. -/
theorem Service.Responded.rest {o : Option (K × State D)}
    (hr : u.Responded k k h₁ b sent o (s.emit (.run k)) s₁) {i : Nat} (hi : i ≠ k) :
    s₁.w.mem i = s.w.mem i := by
  rw [hr.mem, Function.update_of_ne hi]
  rfl

omit [DecidableEq K] [Inhabited D] in
theorem Service.Responded.map_rest {o : Option (K × State D)}
    (hr : u.Responded k k h₁ b sent o (s.emit (.run k)) s₁) (n : Nat) :
    (List.range' (k + 1) n).map s₁.w.mem = (List.range' (k + 1) n).map s.w.mem := by
  refine List.map_congr_left fun i hi => ?_
  rw [List.mem_range'_1] at hi
  exact hr.rest (by omega)

/-- The calls of one packet more. -/
theorem Service.Looped.calls_cons (hrec : u.receive s.held (s.w.mem k) = some (h₁, b, sent))
    (hr : u.Responded k k h₁ b sent (u.served s.held (s.w.mem k)) (s.emit (.run k)) s₁)
    (hrest : u.Looped (k + 1) n h' outs s₁ s') :
    ∃ l, (∀ cur, Event.calls cur s'.log = Event.calls cur s.log ++ l) ∧ (∀ c ∈ l, k ≤ c.1) ∧
      l.map (fun c => (c.2.1, c.2.2, s.w.mem c.1, s'.pktsBA.sends c.1))
        = u.callsAll ((List.range' k (n + 1)).map s.w.mem) s.held := by
  obtain ⟨es, hes, hnew⟩ := hr.log
  obtain ⟨l, hl, hle, hcalls⟩ := hrest.calls
  rw [hr.map_rest, hr.held] at hcalls
  refine ⟨((u.served s.held (s.w.mem k)).map fun c => (k, c)).toList ++ l, ?_, ?_, ?_⟩
  · intro cur
    rw [hl, hes, show (s.emit (.run k)).log = s.log ++ [.run k] from rfl, List.append_assoc,
      List.singleton_append, Event.calls_append_run, hnew, List.append_assoc]
  · intro c hc
    rcases List.mem_append.mp hc with hc | hc
    · obtain ⟨d, -, rfl⟩ := Option.map_eq_some_iff.mp (Option.mem_toList.mp hc)
      exact Nat.le_refl k
    · exact Nat.le_of_succ_le (hle c hc)
  · rw [List.range'_succ, List.map_cons, callsAll, hrec, List.map_append]
    refine congrArg₂ (· ++ ·) ?_ ?_
    · have hsent : s'.pktsBA.sends k = sent := by
        rw [(hrest.before k (Nat.lt_succ_self k)).2, hr.sends, if_pos rfl]
      cases u.served s.held (s.w.mem k) with
      | none => rfl
      | some c =>
          show [(c.1, c.2, s.w.mem k, s'.pktsBA.sends k)] = _
          rw [hsent]
          rfl
    · rw [← hcalls]
      refine List.map_congr_left fun c hc => ?_
      have hlt : k < c.1 := hle c hc
      rw [hr.rest (Nat.ne_of_gt hlt)]

/-- One packet more. -/
theorem Service.Looped.cons (hrec : u.receive s.held (s.w.mem k) = some (h₁, b, sent))
    (hr : u.Responded k k h₁ b sent (u.served s.held (s.w.mem k)) (s.emit (.run k)) s₁)
    (hrest : u.Looped (k + 1) n h' outs s₁ s') : u.Looped k (n + 1) h' ((b, sent) :: outs) s s' := by
  refine ⟨hrest.held, hrest.runs, ?_, ?_, calls_cons hrec hr hrest⟩
  · intro i hi
    obtain ⟨hm, hs⟩ := hrest.before i (Nat.lt_succ_of_lt hi)
    rw [hm, hs, hr.rest (Nat.ne_of_lt hi), hr.sends, if_neg (Nat.ne_of_lt hi)]
    exact ⟨rfl, rfl⟩
  · obtain ⟨hm, hs⟩ := hrest.before k (Nat.lt_succ_self k)
    rw [List.range'_succ, List.map_cons, hrest.outs, hm, hs, hr.mem, hr.sends,
      Function.update_self, if_pos rfl]

end loop

/-- **The loop over the packets.** -/
theorem Service.Runs.loop_eq (env : Env K Nat (World Nat B R))
    (hident : ∀ q w, env.identify q w = u.ident (w.mem q)) :
    ∀ (n k : Nat) {s : Sys K Nat D (World Nat B R)}, u.Runs s.sm →
      (∀ i, k ≤ i → i < k + n → s.pktsBA.get i = .ok i) →
      match u.receiveAll ((List.range' k n).map s.w.mem) s.held with
      | none => ∃ e, (List.range' k n).foldlM (fun s i => runPkt env i s) s = .error e
      | some (h', outs) =>
        ∃ s', (List.range' k n).foldlM (fun s i => runPkt env i s) s = .ok s' ∧
          u.Looped k n h' outs s s' := by
  intro n
  induction n with
  | zero => exact fun k s h _ => ⟨s, rfl, .nil h k⟩
  | succ n ih =>
      intro k s h hslots
      have hpkt := runPkt_eq hident h (hslots k (Nat.le_refl k) (by omega))
      rw [List.range'_succ, List.map_cons, receiveAll, List.foldlM_cons]
      cases hrec : u.receive s.held (s.w.mem k) with
      | none =>
          rw [hrec] at hpkt
          obtain ⟨e, he⟩ := hpkt
          exact ⟨e, by rw [he]; rfl⟩
      | some out =>
          obtain ⟨h₁, b, sent⟩ := out
          rw [hrec] at hpkt
          obtain ⟨s₁, hs₁, hr⟩ := hpkt
          have hrest := ih (k + 1) hr.runs (by
            intro i hi hi'
            unfold BufArray.get
            rw [hr.pkts]
            exact hslots i (by omega) (by omega))
          rw [hr.map_rest, hr.held] at hrest
          rw [hs₁]
          dsimp only
          cases hall : u.receiveAll ((List.range' (k + 1) n).map s.w.mem) h₁ with
          | none =>
              rw [hall] at hrest
              exact hrest
          | some ho =>
              rw [hall] at hrest
              obtain ⟨s', hs', hlooped⟩ := hrest
              exact ⟨s', hs', .cons hrec hr hlooped⟩

/-! ### A program with one machine -/

namespace Instance

variable [Inhabited B] (pl : Service.Platform)

/-- What the instance holds. -/
def held (x : Instance K D B R) : Held K D R := ⟨x.sm.stateTable, x.connPool, x.rest⟩

omit [DecidableEq K] [Inhabited D] [Inhabited B] in
/-- A machine that was set up and has done nothing yet. -/
theorem start_runs (u : Service K D B R) (rest : R) : u.Runs (start u rest).sm :=
  ⟨rfl, rfl, rfl, rfl, rfl, rfl⟩

omit [DecidableEq K] [Inhabited D] in
theorem map_view_mem {x : Instance K D B R} {ba : BufArray Nat} (bs : List B) :
    (List.range' 0 bs.length).map (x.view ba bs).w.mem = bs := by
  refine List.ext_getElem (by simp) fun i h h' => ?_
  simp [view, h']

omit [Inhabited D] in
/-- The array of a batch. -/
theorem new_range {n : Nat} (hpos : 0 < n) (hlt : n < 2 ^ 32) :
    ∃ ba, BufArray.new (List.range n) = some ba ∧ ba.pkts = List.range n ∧
      ∀ i, i < n → ba.sends i = true := by
  obtain ⟨ba, hba⟩ : ∃ ba, BufArray.new (List.range n) = some ba :=
    ⟨_, dif_pos (by simpa using ⟨hpos, hlt⟩)⟩
  obtain ⟨-, -, hpkts, hmask⟩ := BufArray.new_eq_some hba
  refine ⟨ba, hba, hpkts, fun i hi => ?_⟩
  rw [BufArray.sends_eq, hmask, List.length_range, List.getElem?_replicate, if_pos hi]
  rfl

omit [Inhabited D] [Inhabited B] in
/-- The packet in a slot. -/
theorem get_range {n i : Nat} {ba : BufArray Nat} (hpkts : ba.pkts = List.range n) (hi : i < n) :
    ba.get i = .ok i := by
  unfold BufArray.get
  rw [hpkts, List.getElem?_range hi]

/-- What the machine does with the array of a batch. -/
theorem batch_eq {x : Instance K D B R} (h : u.Runs x.sm) (bs : List B) (hpos : 0 < bs.length)
    (hlt : bs.length < 2 ^ 32) :
    ∃ ba, BufArray.new (List.range bs.length) = some ba ∧
      match u.receiveAll bs x.held with
      | none => ∃ e, runPktBatch (u.env pl) 1 (x.view ba bs) = .error e
      | some (h', outs) => ∃ s, runPktBatch (u.env pl) 1 (x.view ba bs) = .ok s ∧ s.held = h' ∧
          u.Runs s.sm ∧ (leave s bs.length).2 = outs ∧
          (Event.calls 0 s.log).map (fun c =>
            (c.2.1, c.2.2, (bs[c.1]?).getD default, s.pktsBA.sendMask.getD c.1 false))
            = u.callsAll bs x.held := by
  obtain ⟨ba, hba, hpkts, -⟩ := new_range hpos hlt
  refine ⟨ba, hba, ?_⟩
  have hloop := Service.Runs.loop_eq (u.env pl) (fun _ _ => rfl) bs.length 0
    (s := x.view ba bs) h fun i _ hi => get_range hpkts (by omega)
  have hbatch : runPktBatch (u.env pl) 1 (x.view ba bs)
      = (List.range' 0 bs.length).foldlM (fun s i => runPkt (u.env pl) i s) (x.view ba bs) := by
    have hidle : timeoutLoop (u.env pl) 1 (x.view ba bs) = .ok (x.view ba bs) := by
      unfold timeoutLoop
      rw [show (x.view ba bs).sm.timeoutsQ = [] from h.timeoutsQ, TopRule.top_nil]
    have hcount : (x.view ba bs).pktsBA.getTotalCount = bs.length := by
      show ba.pkts.length = _
      rw [hpkts, List.length_range]
    unfold runPktBatch
    rw [hidle, hcount, ← List.range_eq_range']
    rfl
  rw [map_view_mem, show (x.view ba bs).held = x.held from rfl] at hloop
  rw [hbatch]
  cases hall : u.receiveAll bs x.held with
  | none =>
      rw [hall] at hloop
      exact hloop
  | some ho =>
      obtain ⟨h', outs⟩ := ho
      rw [hall] at hloop
      obtain ⟨s', hs', hlooped⟩ := hloop
      obtain ⟨l, hl, -, hcalls⟩ := hlooped.calls
      rw [map_view_mem, show (x.view ba bs).held = x.held from rfl] at hcalls
      refine ⟨s', hs', hlooped.held, hlooped.runs, ?_, ?_⟩
      · rw [← hlooped.outs, ← List.range_eq_range']
        rfl
      · rw [hl 0, ← hcalls]
        rfl

/-- **A batch is a fold.** -/
theorem process_eq {x : Instance K D B R} (h : u.Runs x.sm) (bs : List B) (hpos : 0 < bs.length)
    (hlt : bs.length < 2 ^ 32) :
    match u.receiveAll bs x.held with
    | none => ∃ e, x.process u pl bs = .error e
    | some (h', outs) => ∃ x', x.process u pl bs = .ok (x', outs) ∧ x'.held = h' ∧ u.Runs x'.sm := by
  obtain ⟨ba, hba, hbatch⟩ := batch_eq pl h bs hpos hlt
  unfold process
  rw [hba]
  dsimp only
  cases hall : u.receiveAll bs x.held with
  | none =>
      rw [hall] at hbatch
      obtain ⟨e, he⟩ := hbatch
      exact ⟨e, by rw [he]⟩
  | some ho =>
      obtain ⟨h', outs⟩ := ho
      rw [hall] at hbatch
      obtain ⟨s, hs, hheld, hruns, houts, -⟩ := hbatch
      refine ⟨(leave s bs.length).1, ?_, hheld, hruns⟩
      rw [hs]
      dsimp only
      rw [← houts]

/-- The functions the packets of a batch get to. -/
theorem calls_eq {x : Instance K D B R} (h : u.Runs x.sm) (bs : List B) (hpos : 0 < bs.length)
    (hlt : bs.length < 2 ^ 32) (hok : u.receiveAll bs x.held ≠ none) :
    x.calls u pl bs = u.callsAll bs x.held := by
  obtain ⟨ba, hba, hbatch⟩ := batch_eq pl h bs hpos hlt
  obtain ⟨⟨h', outs⟩, hall⟩ := Option.ne_none_iff_exists'.mp hok
  rw [hall] at hbatch
  obtain ⟨s, hs, -, -, -, hcalls⟩ := hbatch
  unfold calls
  rw [hba]
  dsimp only
  rw [hs]
  exact hcalls

/-- A batch that is taken is not empty, and can be counted. -/
theorem process_fits {x : Instance K D B R} {bs : List B} {r : Instance K D B R × List (B × Bool)}
    (h : x.process u pl bs = .ok r) : 0 < bs.length ∧ bs.length < 2 ^ 32 := by
  unfold process at h
  cases hnew : BufArray.new (List.range bs.length) with
  | none =>
      rw [hnew] at h
      simp at h
  | some ba =>
      obtain ⟨hpos, hlt, -⟩ := BufArray.new_eq_some hnew
      rw [List.length_range] at hpos hlt
      exact ⟨hpos, hlt⟩

omit [Inhabited D] in
/-- **Opening a connection.** -/
theorem connect_eq {x : Instance K D B R} (h : u.Runs x.sm) (id : K) (state : StateID)
    (create : R → Option (D × R)) (b : B) (bs : List B) (hlt : bs.length + 1 < 2 ^ 32) :
    match (create x.rest).bind fun d => u.openWith id (State.new state d.1)
      { x.held with rest := d.2 } b with
    | none => ∃ e, x.connect u pl id state create (b :: bs) = .error e
    | some (h', out) =>
      ∃ x', x.connect u pl id state create (b :: bs)
          = .ok (x', out :: bs.map fun b => (b, true)) ∧
        x'.held = h' ∧ u.Runs x'.sm := by
  obtain ⟨ba, hba, hpkts, hsends⟩ := new_range (Nat.succ_pos bs.length) hlt
  unfold connect
  rw [List.length_cons, hba]
  dsimp only
  cases hc : create x.rest with
  | none => exact ⟨_, rfl⟩
  | some dr =>
      obtain ⟨d, r⟩ := dr
      have hadd := Service.Runs.addState_eq (u.env pl)
        (s := ({ x with rest := r } : Instance K D B R).view ba (b :: bs)) (p := 0) h id
        (State.new state d) (get_range hpkts (Nat.succ_pos _)) rfl
      rw [show (({ x with rest := r } : Instance K D B R).view ba (b :: bs)).held
          = { x.held with rest := r } from rfl,
        show (({ x with rest := r } : Instance K D B R).view ba (b :: bs)).w.mem 0 = b from rfl] at hadd
      rw [Option.bind_some]
      cases ho : u.openWith id (State.new state d) { x.held with rest := r } b with
      | none =>
          rw [ho] at hadd
          obtain ⟨e, he⟩ := hadd
          exact ⟨e, by dsimp only; rw [he]⟩
      | some out =>
          obtain ⟨h', b', sent⟩ := out
          rw [ho] at hadd
          obtain ⟨s', st', hs', hr⟩ := hadd
          refine ⟨(leave s' (bs.length + 1)).1, ?_, hr.held, hr.runs⟩
          dsimp only
          rw [hs']
          show Except.ok ((leave s' (bs.length + 1)).1, (leave s' (bs.length + 1)).2) = _
          refine congrArg (fun l => Except.ok ((leave s' (bs.length + 1)).1, l)) ?_
          show (List.range (bs.length + 1)).map (fun p => (s'.w.mem p, s'.pktsBA.sends p)) = _
          rw [List.range_succ_eq_map, List.map_cons, List.map_map]
          refine congrArg₂ List.cons ?_ ?_
          · rw [hr.mem, hr.sends, Function.update_self, if_pos rfl]
          · refine List.ext_getElem (by simp) fun i h₁ h₂ => ?_
            have hi : i < bs.length := by simpa using h₂
            simp only [List.getElem_map, List.getElem_range, Function.comp_apply]
            rw [hr.mem, hr.sends, Function.update_of_ne (Nat.succ_ne_zero i),
              if_neg (Nat.succ_ne_zero i)]
            refine Prod.ext ?_ (hsends (i + 1) (by omega))
            simp [view, hi]

end Instance

end MoonState
