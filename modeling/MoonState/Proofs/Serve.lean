/-
One packet, for functions that see only their own connection.

For such functions what a packet does is decided by its bytes and by what the
table and the pool hold for its connection.  `Setup.step` is that function; it
knows no table, no pool, no memory and no array.  `runPkt_eq_ok` and
`runPkt_of_room` tie the machine to it, in both directions: what `runPkt` did is
what `step` says, and where `step` has an answer and the array has room, `runPkt`
returns.
-/
import MoonState.Model.Handler
import MoonState.Proofs.Conservation
import MoonState.Proofs.Frame

namespace MoonState

variable {K P D B : Type} [DecidableEq K] [DecidableEq P]

/-! ### One function -/

/-- The memory after packets were taken from the supply and filled. -/
def Heap.fill (supply : Nat → P) : List B → Heap P B → Heap P B
  | [], w => w
  | b :: bs, w => fill supply bs ((w.take supply).2.write (supply w.given) b)

/-- No packet is taken from the supply twice. -/
def Heap.Fresh (supply : Nat → P) (n : Nat) : Prop :=
  ∀ i j, n ≤ i → n ≤ j → supply i = supply j → i = j

theorem Heap.fill_given (supply : Nat → P) (bs : List B) (w : Heap P B) :
    (w.fill supply bs).given = w.given + bs.length := by
  induction bs generalizing w with
  | nil => rfl
  | cons b bs ih =>
      rw [fill, ih, List.length_cons]
      show w.given + 1 + bs.length = _
      omega

/-- What was not in the supply is not written. -/
theorem Heap.fill_mem_of_ne {supply : Nat → P} {q : P} {w : Heap P B} (bs : List B)
    (h : ∀ n, w.given ≤ n → supply n ≠ q) : (w.fill supply bs).mem q = w.mem q := by
  induction bs generalizing w with
  | nil => rfl
  | cons b bs ih =>
      rw [fill, ih (fun n hn => h n (Nat.le_of_succ_le hn))]
      exact Function.update_of_ne (fun hc => h w.given (Nat.le_refl _) hc.symm) _ _

/-- Each packet that was taken holds what it was filled with. -/
theorem Heap.fill_mem {supply : Nat → P} {w : Heap P B} (bs : List B)
    (hfresh : Heap.Fresh supply w.given) :
    (List.range' w.given bs.length).map (fun n => (w.fill supply bs).mem (supply n)) = bs := by
  induction bs generalizing w with
  | nil => rfl
  | cons b bs ih =>
      have hfresh' : Heap.Fresh supply (w.given + 1) :=
        fun i j hi hj => hfresh i j (Nat.le_of_succ_le hi) (Nat.le_of_succ_le hj)
      rw [List.length_cons, List.range'_succ, List.map_cons, fill]
      congr 1
      · rw [fill_mem_of_ne]
        · exact Function.update_self _ _ _
        · intro n hn hc
          have hn' : w.given + 1 ≤ n := hn
          have := hfresh n w.given (by omega) (Nat.le_refl _) hc
          omega
      · exact ih (w := (w.take supply).2.write (supply w.given) b) hfresh'

/-- `a'` is `a` after a function that replied `r` on packet `p`, and asked for the packets
`bs`. -/
structure Replied (supply : Nat → P) (r : Reply D B) (p : P) (bs : List B)
    (a a' : Activation K P D (Heap P B)) : Prop where
  state : a'.state = ⟨r.stateData, r.newState.getD a.state.state, a.state.timeoutID⟩
  w : a'.sys.w = (a.sys.w.fill supply bs).write p r.pkt
  pkts : a'.sys.pktsBA.pkts
    = a.sys.pktsBA.pkts ++ (List.range' a.sys.w.given bs.length).map supply
  sendPkt : a'.iface.sendPkt = (a.iface.sendPkt && !r.free)

omit [DecidableEq K] [DecidableEq P] in
/-- The end of a function always returns. -/
theorem Reply.exec_tail (env : Env K P (Heap P B)) (r : Reply D B)
    (a : Activation K P D (Heap P B)) :
    ∃ a', exec env r.tail a = .ok a' ∧
      a'.state = ⟨a.state.stateData, r.newState.getD a.state.state, a.state.timeoutID⟩ ∧
      a'.sys.w = a.sys.w ∧ a'.sys.pktsBA = a.sys.pktsBA ∧
      a'.iface.sendPkt = (a.iface.sendPkt && !r.free) := by
  unfold tail
  cases hf : r.free with
  | false =>
      cases hn : r.newState with
      | none => exact ⟨a, rfl, rfl, rfl, rfl, by simp⟩
      | some n => exact ⟨a.transition n, rfl, rfl, rfl, rfl, by simp [Activation.transition]⟩
  | true =>
      cases hn : r.newState with
      | none => exact ⟨a.freePkt, rfl, rfl, rfl, rfl, by simp [Activation.freePkt]⟩
      | some n =>
          exact ⟨a.freePkt.transition n, rfl, rfl, rfl, rfl,
            by simp [Activation.freePkt, Activation.transition]⟩

omit [DecidableEq K] in
/-- What the code of a reply does when it returns. -/
theorem Reply.exec_code_eq_ok {env : Env K P (Heap P B)} {r : Reply D B} {p : P}
    {registered : Bool} {supply : Nat → P} :
    ∀ (bs : List B) {a a' : Activation K P D (Heap P B)},
      a.sys.sm.getPktCB = (if registered then some (Heap.take supply) else none) →
      exec env (r.code p bs) a = .ok a' →
      (bs = [] ∨ registered = true) ∧ Replied supply r p bs a a' := by
  intro bs
  induction bs with
  | nil =>
      intro a a' _ h
      obtain ⟨b, hb, hstate, hw, hba, hsend⟩ :=
        exec_tail env r (a.put r.stateData (a.sys.w.write p r.pkt))
      obtain rfl : b = a' := Except.ok.inj (hb.symm.trans h)
      exact ⟨Or.inl rfl, hstate, hw, by rw [hba]; exact (List.append_nil _).symm, hsend⟩
  | cons b bs ih =>
      intro a a' hcb h
      rw [Reply.code] at h
      simp only [exec] at h
      split at h
      · simp at h
      · rename_i q a₁ hget
        obtain ⟨cb, ba, hcb', rfl, hadd, rfl⟩ := Activation.getPkt_eq_ok hget
        have hreg : registered = true ∧ cb = Heap.take supply := by
          rw [hcb] at hcb'
          cases registered with
          | false => simp at hcb'
          | true => exact ⟨rfl, (Option.some.inj hcb').symm⟩
        obtain ⟨hreg, rfl⟩ := hreg
        obtain ⟨-, hrec⟩ := ih (by exact hcb) h
        refine ⟨Or.inr hreg, hrec.state, hrec.w, ?_, hrec.sendPkt⟩
        rw [hrec.pkts]
        show ba.pkts ++ (List.range' (a.sys.w.given + 1) bs.length).map supply = _
        rw [(BufArray.addPkt_eq_ok hadd).1, List.length_cons, List.range'_succ, List.map_cons,
          List.append_assoc]
        rfl

omit [DecidableEq K] [DecidableEq P] in
/-- With a callback and room `getPkt` returns the next packet of the supply. -/
theorem Activation.getPkt_of_room {a : Activation K P D (Heap P B)} {supply : Nat → P}
    (hcb : a.sys.sm.getPktCB = some (Heap.take supply))
    (hroom : a.sys.pktsBA.numBufs < BufArray.capacity a.sys.pktsBA.numSlots) :
    ∃ ba, ba.pkts = a.sys.pktsBA.pkts ++ [supply a.sys.w.given] ∧
      BufArray.capacity ba.numSlots = BufArray.capacity a.sys.pktsBA.numSlots ∧
      a.getPkt = .ok (supply a.sys.w.given, { a with
        sys := { a.sys with
          pktsBA := ba
          w := (a.sys.w.take supply).2
          log := a.sys.log ++ [.getPkt (supply a.sys.w.given)] } }) := by
  obtain ⟨ba, hadd, hcap⟩ := BufArray.addPkt_of_lt (supply a.sys.w.given) hroom
  refine ⟨ba, (BufArray.addPkt_eq_ok hadd).1, hcap, ?_⟩
  unfold getPkt
  rw [hcb]
  dsimp only
  rw [show a.sys.pktsBA.addPkt (Heap.take supply a.sys.w).1 = .ok ba from hadd]
  rfl

omit [DecidableEq K] in
/-- When the code of a reply returns: there is a callback, and there is room. -/
theorem Reply.exec_code_of_room {env : Env K P (Heap P B)} {r : Reply D B} {p : P}
    {registered : Bool} {supply : Nat → P} :
    ∀ (bs : List B) {a : Activation K P D (Heap P B)},
      a.sys.sm.getPktCB = (if registered then some (Heap.take supply) else none) →
      (bs = [] ∨ registered = true) →
      a.sys.pktsBA.numBufs + bs.length ≤ BufArray.capacity a.sys.pktsBA.numSlots →
      ∃ a', exec env (r.code p bs) a = .ok a' := by
  intro bs
  induction bs with
  | nil =>
      intro a _ _ _
      obtain ⟨b, hb, -⟩ := exec_tail env r (a.put r.stateData (a.sys.w.write p r.pkt))
      exact ⟨b, hb⟩
  | cons b bs ih =>
      intro a hcb hreg hroom
      have hreg' : registered = true := hreg.resolve_left (by simp)
      rw [hreg', if_pos rfl] at hcb
      rw [List.length_cons] at hroom
      obtain ⟨ba, hpkts, hcap, hget⟩ := Activation.getPkt_of_room hcb (by omega)
      rw [Reply.code]
      simp only [exec, hget]
      refine ih ?_ (Or.inr hreg') ?_
      · rw [hreg', if_pos rfl]
        exact hcb
      · show ba.pkts.length + bs.length ≤ BufArray.capacity ba.numSlots
        rw [hcap, hpkts, List.length_append, List.length_singleton]
        unfold BufArray.numBufs at hroom
        omega

/-! ### One connection -/

/-- A machine whose functions depend on their own connection only. -/
structure Setup (K P D B : Type) where
  handlers : List (Option (Handler D B))
  /-- there is a function for a `StateID` at most -/
  small : handlers.length ≤ 2 ^ 16
  startStateID : StateID
  endStateID : StateID
  /-- the factory of the start state, a function of the ID alone -/
  factory : Option (K → D)
  listenToConnections : Bool
  /-- whether there is a callback for `getPkt`, and where it takes the packets from -/
  registered : Bool
  supply : Nat → P
  /-- what the identifier reads from a packet -/
  ident : B → Option K

/-- The machine is set up like that. -/
structure Setup.Runs (u : Setup K P D B) (sm : StateMachine K P D (Heap P B)) : Prop where
  functions : sm.functions = u.handlers.map (Option.map Handler.code)
  startStateID : sm.startStateID = u.startStateID
  endStateID : sm.endStateID = u.endStateID
  startStateFun : sm.startStateFun = u.factory.map fun f id w => some (f id, w)
  listenToConnections : sm.listenToConnections = u.listenToConnections
  getPktCB : sm.getPktCB = if u.registered then some (Heap.take u.supply) else none

/-- What the table and the pool hold for a connection. -/
abbrev Conn (D : Type) := Option (State D) × Option (State D)

/-- What becomes of a packet, and what the packets hold that were asked for. -/
structure Out (B : Type) where
  pkt : B
  free : Bool
  extra : List B

namespace Setup

variable (u : Setup K P D B)

/-- The `State` a packet is served with, and what is then left in the pool. -/
def find [Inhabited D] (id : K) : Conn D → Option (State D × Option (State D))
  | (some st, p) => some (st, p)
  | (none, some st) => some (st, none)
  | (none, none) =>
    if u.listenToConnections then
      some (State.new u.startStateID (match u.factory with
        | none => default
        | some f => f id), none)
    else none

/-- The `State` after a reply. -/
def after (st : State D) (r : Reply D B) : State D :=
  { stateData := r.stateData, state := r.newState.getD st.state, timeoutID := timeoutIDInvalid }

/-- A packet that has a `State`. -/
def answer (p : Option (State D)) (st : State D) (b : B) : Option (Conn D × Out B) :=
  match u.handlers[st.state.toNat]? with
  | some (some h) =>
    let r := h st.woken b
    if u.registered = false ∧ r.extra ≠ [] then none
    else
      some ((if (after st r).state = u.endStateID then none else some (after st r), p),
        ⟨r.pkt, r.free, r.extra⟩)
  | _ => none

/-- **What a packet of connection `id` does**, or `none` where it stops the program. -/
def serve [Inhabited D] (id : K) (c : Conn D) (b : B) : Option (Conn D × Out B) :=
  match u.find id c with
  | none => some (c, ⟨b, true, []⟩)
  | some (st, p) => u.answer p st b

/-- **What a packet that holds `b` does**, to the connection it belongs to. -/
def step [Inhabited D] (c : Conn D) (b : B) : Option (Conn D × Out B) :=
  match u.ident b with
  | none => some (c, ⟨b, true, []⟩)
  | some id => u.serve id c b

end Setup

/-- What the table and the pool hold; for packets that belong to nobody, nothing. -/
def Sys.conns {W : Type} (s : Sys K P D W) : Option K → Conn D
  | none => (none, none)
  | some id => (s.sm.stateTable.lookup id, s.connPool.lookup id)

omit [DecidableEq P] in
/-- A packet leaves what is held for others alone. -/
theorem runPkt_conns [Inhabited D] {W : Type} {env : Env K P W} {cur : Nat} {s s' : Sys K P D W}
    {p : P} (hp : s.pktsBA.get cur = .ok p) (hrun : runPkt env cur s = .ok s') {k : Option K}
    (hk : k ≠ env.identify p s.w) : s'.conns k = s.conns k := by
  cases k with
  | none => rfl
  | some id =>
      obtain ⟨ht, hpool⟩ := runPkt_other hp (fun hc => hk hc.symm) hrun
      exact Prod.ext ht hpool

/-! ### The machine does the same -/

omit [DecidableEq P] in
theorem Reply.within_tail {r : Reply D B} {pw : Powers} :
    (r.tail : Code P D (Heap P B)).Within pw := by
  unfold tail
  cases r.free with
  | false => cases r.newState <;> trivial
  | true => cases r.newState <;> trivial

theorem Reply.within {r : Reply D B} {p : P} (bs : List B) :
    (r.code p bs).Within ⟨False, False, False⟩ := by
  induction bs with
  | nil => exact fun st w => within_tail
  | cons b bs ih => exact fun q st w => ih

namespace Setup.Runs

variable {u : Setup K P D B} {sm : StateMachine K P D (Heap P B)} {env : Env K P (Heap P B)}

omit [DecidableEq K] in
theorem within (h : u.Runs sm) : sm.Within ⟨False, False, False⟩ := by
  intro f hf st p
  rw [h.functions, List.mem_map] at hf
  obtain ⟨o, -, ho⟩ := hf
  cases o with
  | none => simp at ho
  | some g =>
      obtain rfl := Option.some.inj ho
      exact fun _ w => Reply.within _

omit [DecidableEq K] in
theorem dispatch_eq_ok (h : u.Runs sm) {n : StateID} {f : StateFun P D (Heap P B)} :
    sm.dispatch n = .ok f ↔ ∃ g, u.handlers[n.toNat]? = some (some g) ∧ f = g.code := by
  constructor
  · intro hf
    have hget := StateMachine.dispatch_eq_ok hf
    rw [h.functions, List.getElem?_map] at hget
    cases hg : u.handlers[n.toNat]? with
    | none => simp [hg] at hget
    | some o =>
        cases o with
        | none => simp [hg] at hget
        | some g => exact ⟨g, rfl, by simpa [hg] using hget.symm⟩
  · rintro ⟨g, hg, rfl⟩
    have hlt : n.toNat < u.handlers.length := (List.getElem?_eq_some_iff.mp hg).1
    have hget : sm.functions[n.toNat]? = some (some g.code) := by
      rw [h.functions, List.getElem?_map, hg]
      rfl
    have hlen : sm.functions.length = u.handlers.length := by
      rw [h.functions, List.length_map]
    have hsmall := u.small
    unfold StateMachine.dispatch
    rw [if_pos (by omega), hget]

omit [DecidableEq K] in
/-- What the function of a packet did. -/
theorem callFun_eq_ok {s : Sys K P D (Heap P B)} (h : u.Runs s.sm) {cur : Nat} {id : K}
    {st : State D} {p : P} {a : Activation K P D (Heap P B)} (hp : s.pktsBA.get cur = .ok p)
    (ha : callFun env (startPkt cur id st s) = .ok a) :
    ∃ g, u.handlers[st.state.toNat]? = some (some g) ∧
      ((g st.woken (s.w.mem p)).extra = [] ∨ u.registered = true) ∧
      a.state = after st (g st.woken (s.w.mem p)) ∧
      a.sys.w = (s.w.fill u.supply (g st.woken (s.w.mem p)).extra).write p
        (g st.woken (s.w.mem p)).pkt ∧
      a.sys.pktsBA.pkts = s.pktsBA.pkts ++
        (List.range' s.w.given (g st.woken (s.w.mem p)).extra.length).map u.supply ∧
      a.iface.sendPkt = !(g st.woken (s.w.mem p)).free := by
  obtain ⟨f, p', hf, hp', hexec⟩ := MoonState.callFun_eq_ok ha
  have hsm : (s.cancelTimeout st).sm.dispatch st.state = s.sm.dispatch st.state := by
    unfold StateMachine.dispatch
    rw [Sys.cancelTimeout_functions]
  obtain ⟨g, hg, rfl⟩ := h.dispatch_eq_ok.mp (hsm.symm.trans hf)
  have hba : (s.cancelTimeout st).pktsBA = s.pktsBA := Sys.cancelTimeout_pktsBA s st
  have hw : (s.cancelTimeout st).w = s.w := by
    unfold Sys.cancelTimeout
    split <;> rfl
  obtain rfl : p' = p := by
    have hp'' : (s.cancelTimeout st).pktsBA.get cur = .ok p' := hp'
    rw [hba, hp] at hp''
    exact (Except.ok.inj hp'').symm
  have hcode : exec env ((g st.woken (s.w.mem p')).code p' (g st.woken (s.w.mem p')).extra)
      { startPkt cur id st s with
        sys := (startPkt cur id st s).sys.emit (.call id st.woken) } = .ok a := by
    rw [← hw]
    exact hexec
  have hcb : ((startPkt cur id st s).sys.emit (.call id st.woken)).sm.getPktCB
      = if u.registered then some (Heap.take u.supply) else none := by
    show (s.cancelTimeout st).sm.getPktCB = _
    rw [← h.getPktCB]
    unfold Sys.cancelTimeout
    split <;> rfl
  obtain ⟨hreg, hrep⟩ := Reply.exec_code_eq_ok _ (by exact hcb) hcode
  refine ⟨g, hg, hreg, hrep.state, ?_, ?_, hrep.sendPkt⟩
  · rw [hrep.w]
    show ((s.cancelTimeout st).w.fill _ _).write _ _ = _
    rw [hw]
  · rw [hrep.pkts]
    show (s.cancelTimeout st).pktsBA.pkts ++ (List.range' (s.cancelTimeout st).w.given _).map _ = _
    rw [hba, hw]

omit [DecidableEq K] in
/-- When the function of a packet returns. -/
theorem callFun_of_room (env : Env K P (Heap P B)) {s : Sys K P D (Heap P B)} (h : u.Runs s.sm)
    (cur : Nat) (id : K)
    {st : State D} {p : P} {g : Handler D B} (hp : s.pktsBA.get cur = .ok p)
    (hg : u.handlers[st.state.toNat]? = some (some g))
    (hreg : (g st.woken (s.w.mem p)).extra = [] ∨ u.registered = true)
    (hroom : s.pktsBA.numBufs + (g st.woken (s.w.mem p)).extra.length
      ≤ BufArray.capacity s.pktsBA.numSlots) :
    ∃ a, callFun env (startPkt cur id st s) = .ok a := by
  have hsm : (s.cancelTimeout st).sm.dispatch st.state = s.sm.dispatch st.state := by
    unfold StateMachine.dispatch
    rw [Sys.cancelTimeout_functions]
  have hf : (startPkt cur id st s).sys.sm.dispatch (startPkt cur id st s).state.state
      = .ok g.code := hsm.trans (h.dispatch_eq_ok.mpr ⟨g, hg, rfl⟩)
  have hba : (s.cancelTimeout st).pktsBA = s.pktsBA := Sys.cancelTimeout_pktsBA s st
  have hw : (s.cancelTimeout st).w = s.w := by
    unfold Sys.cancelTimeout
    split <;> rfl
  have hp' : (startPkt cur id st s).sys.pktsBA.get (startPkt cur id st s).iface.pktIdx = .ok p := by
    show (s.cancelTimeout st).pktsBA.get cur = _
    rw [hba, hp]
  rw [callFun_of_ok hf hp']
  show ∃ a, exec env ((g st.woken ((s.cancelTimeout st).w.mem p)).code p
    (g st.woken ((s.cancelTimeout st).w.mem p)).extra) _ = .ok a
  rw [hw]
  have hcb : (s.cancelTimeout st).sm.getPktCB
      = if u.registered then some (Heap.take u.supply) else none := by
    rw [← h.getPktCB]
    unfold Sys.cancelTimeout
    split <;> rfl
  refine Reply.exec_code_of_room _ (by exact hcb) hreg ?_
  · show (s.cancelTimeout st).pktsBA.numBufs + _
      ≤ BufArray.capacity (s.cancelTimeout st).pktsBA.numSlots
    rw [hba]
    exact hroom

/-- The setup of the machine stays what it is. -/
theorem of_frame {s s' : Sys K P D (Heap P B)} (id : K) (h : u.Runs s.sm) (hf : Sys.Frame id s s') :
    u.Runs s'.sm := by
  rw [hf.sm]
  exact ⟨h.functions, h.startStateID, h.endStateID, h.startStateFun, h.listenToConnections,
    h.getPktCB⟩

/-- What is looked up is what `find` says, and the other part of the connection is what `find`
leaves. -/
theorem findState_eq [Inhabited D] {s : Sys K P D (Heap P B)} (h : u.Runs s.sm) (id : K) :
    ∃ s' o, s.findState id = .ok (s', o) ∧ s'.w = s.w ∧
      ((o = none ∧ u.find id (s.conns (some id)) = none ∧ s' = s) ∨
        ∃ st, o = some st ∧ u.find id (s.conns (some id)) = some (st, s'.connPool.lookup id)) := by
  rw [Sys.findState_eq]
  show ∃ s' o, _ ∧ _ ∧ ((_ ∧ u.find id (s.sm.stateTable.lookup id, s.connPool.lookup id) = _ ∧ _) ∨
    ∃ st, _ ∧ u.find id (s.sm.stateTable.lookup id, s.connPool.lookup id) = _)
  cases ht : s.sm.stateTable.lookup id with
  | some st => exact ⟨s, some st, rfl, rfl, Or.inr ⟨st, rfl, rfl⟩⟩
  | none =>
      cases hp : s.connPool.lookup id with
      | some st =>
          refine ⟨_, _, rfl, rfl, Or.inr ⟨st, rfl, ?_⟩⟩
          show some (st, none) = some (st, (s.connPool.erase id).lookup id)
          rw [Finmap.lookup_erase]
      | none =>
          have hfind : u.find id (none, none) = if u.listenToConnections then
              some (State.new u.startStateID (match u.factory with
                | none => default
                | some f => f id), none)
            else none := rfl
          dsimp only
          rw [hfind, h.listenToConnections]
          by_cases hl : u.listenToConnections = true
          · rw [if_pos hl, if_pos hl]
            have hd : s.startData id = some ((match u.factory with
                | none => default
                | some f => f id), s.w) := by
              unfold Sys.startData
              rw [h.startStateFun]
              cases u.factory <;> rfl
            rw [hd]
            refine ⟨_, _, rfl, rfl, Or.inr ⟨_, rfl, ?_⟩⟩
            show some _ = some (_, s.connPool.lookup id)
            rw [hp, h.startStateID]
          · rw [if_neg hl, if_neg hl]
            exact ⟨s, none, rfl, rfl, Or.inl ⟨rfl, rfl, rfl⟩⟩

end Setup.Runs

/-! ### One packet -/

/-- `s'` is `s` after a packet, in slot `cur`, to which the answer was `o`. -/
structure Setup.Answered (u : Setup K P D B) (cur : Nat) (p : P) (o : Out B)
    (s s' : Sys K P D (Heap P B)) : Prop where
  conns : ∀ k, k ≠ u.ident (s.w.mem p) → s'.conns k = s.conns k
  w : s'.w = (s.w.fill u.supply o.extra).write p o.pkt
  pkts : s'.pktsBA.pkts
    = s.pktsBA.pkts ++ (List.range' s.w.given o.extra.length).map u.supply
  own : s'.pktsBA.sends cur = !o.free
  others : ∀ i, i ≠ cur → i < s.pktsBA.numBufs → s'.pktsBA.sends i = s.pktsBA.sends i
  fresh : ∀ i, s.pktsBA.numBufs ≤ i → s'.pktsBA.sends i = decide (i < s'.pktsBA.numBufs)
  capacity : BufArray.capacity s'.pktsBA.numSlots = BufArray.capacity s.pktsBA.numSlots
  runs : u.Runs s'.sm

namespace Setup.Runs

variable [Inhabited D] {u : Setup K P D B} {env : Env K P (Heap P B)}

omit [Inhabited D] in
/-- What a packet with a `State` did. -/
theorem runState_eq_ok {s s' : Sys K P D (Heap P B)} (h : u.Runs s.sm) {cur : Nat} {id : K}
    {st : State D} {p : P} (hp : s.pktsBA.get cur = .ok p)
    (hrun : runState env cur id st s = .ok s') :
    ∃ o, u.answer (s.connPool.lookup id) st (s.w.mem p) = some (s'.conns (some id), o) ∧
      s'.w = (s.w.fill u.supply o.extra).write p o.pkt ∧
      s'.pktsBA.pkts
        = s.pktsBA.pkts ++ (List.range' s.w.given o.extra.length).map u.supply ∧
      s'.pktsBA.sends cur = !o.free ∧
      BufArray.capacity s'.pktsBA.numSlots = BufArray.capacity s.pktsBA.numSlots := by
  obtain ⟨a, ba, ha, hmark, rfl⟩ := runState_calm h.within (fun hc => hc) hrun
  obtain ⟨g, hg, hreg, hstate, hw, hpkts, hsend⟩ := h.callFun_eq_ok hp ha
  obtain ⟨new, hnew⟩ := callFun_ran ha
  obtain ⟨hba, hslots, hsends⟩ := BufArray.mark_eq_ok hmark
  have hidx : a.iface.pktIdx = cur := hnew.pktIdx
  have hlt : cur < a.sys.pktsBA.numBufs := by
    have hcur := (List.getElem?_eq_some_iff.mp (BufArray.get_eq_ok hp)).1
    have hnum := hnew.numBufs_eq
    have hstart : (startPkt cur id st s).sys.pktsBA.numBufs = s.pktsBA.pkts.length :=
      congrArg BufArray.numBufs (Sys.cancelTimeout_pktsBA s st)
    omega
  have hpool : a.sys.connPool = s.connPool := by
    rw [hnew.connPool]
    show (s.cancelTimeout st).connPool = _
    unfold Sys.cancelTimeout
    split <;> rfl
  have hend : a.sys.sm.endStateID = u.endStateID := by
    rw [hnew.sm, ← h.endStateID]
    show (s.cancelTimeout st).sm.endStateID = _
    unfold Sys.cancelTimeout
    split <;> rfl
  have hcap : BufArray.capacity ba.numSlots = BufArray.capacity s.pktsBA.numSlots := by
    rw [hslots, hnew.capacity]
    exact congrArg (fun b => BufArray.capacity b.numSlots) (Sys.cancelTimeout_pktsBA s st)
  have hcid : a.iface.cID = id := hnew.cID
  refine ⟨⟨(g st.woken (s.w.mem p)).pkt, (g st.woken (s.w.mem p)).free,
    (g st.woken (s.w.mem p)).extra⟩, ?_, ?_, hba.trans hpkts, ?_, hcap⟩
  · unfold Setup.answer
    rw [hg]
    have hno : ¬ (u.registered = false ∧ (g st.woken (s.w.mem p)).extra ≠ []) := by
      rintro ⟨hf, hne⟩
      rcases hreg with hr | hr
      · exact hne hr
      · rw [hf] at hr
        simp at hr
    dsimp only
    rw [if_neg hno, ← hstate]
    congr 2
    by_cases he : a.state.state = u.endStateID
    · rw [if_pos he, if_pos (he.trans hend.symm)]
      show _ = ((a.commit.sm.stateTable.erase id).lookup id, a.sys.connPool.lookup id)
      rw [Finmap.lookup_erase, hpool]
    · rw [if_neg he, if_neg (fun hc => he (hc.trans hend))]
      show _ = ((a.sys.sm.stateTable.insert a.iface.cID a.state).lookup id,
        a.sys.connPool.lookup id)
      rw [hcid, Finmap.lookup_insert, hpool]
  · refine Eq.trans ?_ hw
    split <;> rfl
  · refine (hsends cur).trans ?_
    rw [hidx, if_pos ⟨rfl, hlt⟩, hsend]

omit [DecidableEq K] [Inhabited D] in
/-- What a packet that is dropped leaves: itself, marked. -/
theorem markDropPkt_eq_ok {s s' : Sys K P D (Heap P B)} {cur : Nat} {p : P}
    (hp : s.pktsBA.get cur = .ok p) (h : s.markDropPkt env cur = .ok s') :
    s'.sm = s.sm ∧ s'.connPool = s.connPool ∧
      s'.w = (s.w.fill u.supply []).write p (s.w.mem p) ∧
      s'.pktsBA.pkts = s.pktsBA.pkts ++ (List.range' s.w.given 0).map u.supply ∧
      s'.pktsBA.sends cur = false ∧
      BufArray.capacity s'.pktsBA.numSlots = BufArray.capacity s.pktsBA.numSlots := by
  obtain ⟨ba, hmark, rfl⟩ := Sys.markDropPkt_eq_ok h
  obtain ⟨hpkts, hslots, hsends⟩ := BufArray.mark_eq_ok hmark
  have hlt : cur < s.pktsBA.numBufs := (List.getElem?_eq_some_iff.mp (BufArray.get_eq_ok hp)).1
  refine ⟨rfl, rfl, ?_, hpkts.trans (List.append_nil _).symm, ?_, ?_⟩
  · show s.w = { s.w with mem := Function.update s.w.mem p (s.w.mem p) }
    rw [Function.update_eq_self]
  · exact (hsends cur).trans (if_pos ⟨rfl, hlt⟩)
  · show BufArray.capacity ba.numSlots = _
    rw [hslots]

/-- **What a packet did.** -/
theorem runPkt_eq_ok (hident : ∀ q w, env.identify q w = u.ident (w.mem q))
    {s s' : Sys K P D (Heap P B)} (h : u.Runs s.sm) {cur : Nat} {p : P}
    (hp : s.pktsBA.get cur = .ok p) (hrun : runPkt env cur s = .ok s') :
    ∃ o, u.step (s.conns (u.ident (s.w.mem p))) (s.w.mem p)
        = some (s'.conns (u.ident (s.w.mem p)), o) ∧
      u.Answered cur p o s s' := by
  obtain ⟨new, hserved⟩ := runPkt_served h.within (fun hc => hc) hrun
  have hconns : ∀ k, k ≠ u.ident (s.w.mem p) → s'.conns k = s.conns k :=
    fun k hk => runPkt_conns hp hrun (by rwa [hident])
  have hruns : ∀ id, u.ident (s.w.mem p) = some id → u.Runs s'.sm := by
    intro id hi
    refine of_frame id h (runPkt_frame hp (fun k hk => ?_) hrun)
    rw [hident, hi] at hk
    exact (Option.some.inj hk).symm
  obtain ⟨p', hp', hcase⟩ := MoonState.runPkt_eq_ok hrun
  obtain rfl : p = p' := Except.ok.inj (hp.symm.trans hp')
  rcases hcase with ⟨hi, hdrop⟩ | ⟨id, s₁, hi, hf, hdrop⟩ | ⟨id, s₁, st, hi, hf, hst⟩
  · rw [hident] at hi
    obtain ⟨hsm, hpool, hw, hpkts, hown, hcap⟩ := markDropPkt_eq_ok (u := u) (by exact hp) hdrop
    refine ⟨⟨s.w.mem p, true, []⟩, ?_, hconns, hw, hpkts, hown, hserved.others, hserved.fresh,
      hcap, by rw [hsm]; exact h⟩
    unfold Setup.step
    rw [hi]
    rfl
  · rw [hident] at hi
    obtain ⟨s₂, o, hf', hw₂, ho⟩ := (show u.Runs (s.emit (.run cur)).sm from h).findState_eq id
    obtain ⟨rfl, rfl⟩ := Prod.mk.inj (Except.ok.inj (hf.symm.trans hf'))
    rcases ho with ⟨-, hfind, rfl⟩ | ⟨st, hc, -⟩
    · obtain ⟨hsm, hpool, hw, hpkts, hown, hcap⟩ := markDropPkt_eq_ok (u := u) (by exact hp) hdrop
      refine ⟨⟨s.w.mem p, true, []⟩, ?_, hconns, hw, hpkts, hown, hserved.others, hserved.fresh,
        hcap, hruns id hi⟩
      have hkeep : s'.conns (some id) = s.conns (some id) := by
        unfold Sys.conns
        rw [hsm, hpool]
        rfl
      unfold Setup.step
      rw [hi]
      dsimp only
      rw [hkeep]
      unfold Setup.serve
      rw [show u.find id (s.conns (some id)) = none from hfind]
    · simp at hc
  · rw [hident] at hi
    obtain ⟨s₂, o, hf', hw₂, ho⟩ := (show u.Runs (s.emit (.run cur)).sm from h).findState_eq id
    obtain ⟨rfl, rfl⟩ := Prod.mk.inj (Except.ok.inj (hf.symm.trans hf'))
    rcases ho with ⟨hc, -⟩ | ⟨st', hc, hfind⟩
    · simp at hc
    · obtain rfl := Option.some.inj hc
      have hF := Sys.findState_found hf
      have hruns₁ : u.Runs s₁.sm :=
        of_frame id h ((Sys.Frame.emit s _ (by simp)).trans (Sys.findState_frame hf))
      have hba : s₁.pktsBA = s.pktsBA := hF.pktsBA
      have hw₁ : s₁.w = s.w := hw₂
      obtain ⟨o, hans, hw, hpkts, hown, hcap⟩ := hruns₁.runState_eq_ok (by rw [hba]; exact hp) hst
      rw [hw₁] at hans hw hpkts
      rw [hba] at hpkts hcap
      refine ⟨o, ?_, hconns, hw, hpkts, hown, hserved.others, hserved.fresh, hcap, hruns id hi⟩
      unfold Setup.step
      rw [hi]
      dsimp only
      unfold Setup.serve
      rw [show u.find id (s.conns (some id)) = _ from hfind]
      exact hans

/-- **When a packet does not stop the program.** -/
theorem runPkt_of_room (hident : ∀ q w, env.identify q w = u.ident (w.mem q))
    {s : Sys K P D (Heap P B)} (h : u.Runs s.sm) {cur : Nat} {p : P}
    (hp : s.pktsBA.get cur = .ok p) {c : Conn D} {o : Out B}
    (hstep : u.step (s.conns (u.ident (s.w.mem p))) (s.w.mem p) = some (c, o))
    (hroom : s.pktsBA.numBufs + o.extra.length ≤ BufArray.capacity s.pktsBA.numSlots) :
    ∃ s', runPkt env cur s = .ok s' := by
  have hlt : cur < s.pktsBA.numBufs := (List.getElem?_eq_some_iff.mp (BufArray.get_eq_ok hp)).1
  cases hi : u.ident (s.w.mem p) with
  | none =>
      obtain ⟨s', hs'⟩ := Sys.markDropPkt_of_lt env
        (s := (s.emit (.run cur)).emit (.unidentified cur)) hlt
      exact ⟨s', (runPkt_of_unidentified hp ((hident p s.w).trans hi)).trans hs'⟩
  | some id =>
      rw [runPkt_of_identified hp ((hident p s.w).trans hi)]
      obtain ⟨s₁, o₁, hf, hw₁, ho⟩ := (show u.Runs (s.emit (.run cur)).sm from h).findState_eq id
      have hF := Sys.findState_found hf
      have hba : s₁.pktsBA = s.pktsBA := hF.pktsBA
      rw [hf]
      rcases ho with ⟨rfl, -, -⟩ | ⟨st, rfl, hfind⟩
      · exact Sys.markDropPkt_of_lt env (s := s₁.emit (.discarded cur id)) (by rw [← hba] at hlt; exact hlt)
      · have hruns₁ : u.Runs s₁.sm :=
          of_frame id h ((Sys.Frame.emit s _ (by simp)).trans (Sys.findState_frame hf))
        unfold Setup.step at hstep
        rw [hi] at hstep
        dsimp only at hstep
        unfold Setup.serve at hstep
        rw [show u.find id (s.conns (some id)) = _ from hfind] at hstep
        dsimp only [Setup.answer] at hstep
        split at hstep
        · rename_i g hg
          split at hstep
          · simp at hstep
          · rename_i hreg
            obtain ⟨-, rfl⟩ := Prod.mk.inj (Option.some.inj hstep)
            have hw₁' : s₁.w = s.w := hw₁
            obtain ⟨a, ha⟩ := hruns₁.callFun_of_room env cur id
              (by rw [hba]; exact hp) hg
              (by
                rw [hw₁']
                by_cases hr : u.registered = true
                · exact Or.inr hr
                · exact Or.inl (by simpa [hr] using hreg))
              (by rw [hw₁', hba]; exact hroom)
            exact runState_of_callFun hruns₁.within (fun hc => hc) (by rw [hba]; exact hlt) ha
        · simp at hstep

end Setup.Runs

end MoonState
