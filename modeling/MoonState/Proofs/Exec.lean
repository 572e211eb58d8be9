/-
What running a function can do.

`exec_rule` is the one induction over `Code`: a reflexive and transitive relation
that holds across every call a function may make holds across the function.  `Ran`
is the relation everything else uses.  It says that a function touches its own
`State`, the world, the timeouts and the end of the packet array, and nothing
else — no other connection, no other mark — and that the log tells which of these
it did.
-/
import MoonState.Proofs.BufArray
import MoonState.Model.StateMachine

namespace MoonState

variable {K P D W : Type}

/-! ### Peeling a computation apart -/

theorem bind_eq_ok {α β : Type} {x : Except Fault α} {f : α → Except Fault β} {b : β} :
    (x >>= f) = .ok b ↔ ∃ a, x = .ok a ∧ f a = .ok b := by
  cases x with
  | error e => simp [bind, Except.bind]
  | ok a => simp [bind, Except.bind]

theorem bind_eq_error {α β : Type} {x : Except Fault α} {f : α → Except Fault β} {e : Fault} :
    (x >>= f) = .error e ↔ x = .error e ∨ ∃ a, x = .ok a ∧ f a = .error e := by
  cases x with
  | error e => simp [bind, Except.bind]
  | ok a => simp [bind, Except.bind]

/-! ### What a function is allowed to do -/

/-- Permissions for the calls that not every function makes. -/
structure Powers where
  throws : Prop
  now : Prop
  timeout : Prop

/-- The function never uses a permission it does not have. -/
def Code.Within (pw : Powers) : Code P D W → Prop
  | .done => True
  | .throw => pw.throws
  | .get k => ∀ st w, (k st w).Within pw
  | .put _ _ k => k.Within pw
  | .freePkt k => k.Within pw
  | .getPkt k => ∀ p, (k p).Within pw
  | .transition _ k => k.Within pw
  | .transitionNow _ k => pw.now ∧ k.Within pw
  | .setTimeout _ _ k => pw.timeout ∧ k.Within pw

/-- Everything is permitted. -/
def Powers.all : Powers := ⟨True, True, True⟩

theorem Code.within_all (c : Code P D W) : c.Within Powers.all := by
  induction c with
  | done => trivial
  | throw => trivial
  | get k ih => exact fun st w => ih st w
  | put d w k ih => exact ih
  | freePkt k ih => exact ih
  | getPkt k ih => exact fun p => ih p
  | transition n k ih => exact ih
  | transitionNow n k ih => exact ⟨trivial, ih⟩
  | setTimeout t f k _ ih => exact ⟨trivial, ih⟩

/-- `getPkt` appends what the callback returned. -/
theorem Activation.getPkt_eq_ok {a a' : Activation K P D W} {p : P} (h : a.getPkt = .ok (p, a')) :
    ∃ cb ba, a.sys.sm.getPktCB = some cb ∧ p = (cb a.sys.w).1 ∧ a.sys.pktsBA.addPkt p = .ok ba ∧
      a' = { a with
        sys := { a.sys with
          pktsBA := ba, w := (cb a.sys.w).2, log := a.sys.log ++ [.getPkt p] } } := by
  unfold Activation.getPkt at h
  split at h
  · simp at h
  · rename_i cb hcb
    dsimp only at h
    split at h
    · simp at h
    · rename_i ba hba
      simp only [Except.ok.injEq, Prod.mk.injEq] at h
      obtain ⟨rfl, rfl⟩ := h
      exact ⟨cb, ba, hcb, rfl, hba, rfl⟩

/-- The ways `getPkt` fails. -/
theorem Activation.getPkt_eq_error {a : Activation K P D W} {e : Fault}
    (h : a.getPkt = .error e) : e = .noGetPktCB ∨ e = .bufOverflow := by
  unfold Activation.getPkt at h
  split at h
  · exact Or.inl (Except.error.inj h).symm
  · dsimp only at h
    split at h
    · rename_i hadd
      obtain rfl := Except.error.inj h
      exact Or.inr (BufArray.addPkt_error hadd)
    · simp at h

/-- **The rule for functions.**  What holds across each call holds across the function. -/
theorem exec_rule (env : Env K P W) (pw : Powers)
    {R : Activation K P D W → Activation K P D W → Prop} (hrefl : ∀ a, R a a)
    (htrans : ∀ {a b c}, R a b → R b c → R a c)
    (hput : ∀ a d w, R a (a.put d w)) (hfree : ∀ a, R a a.freePkt)
    (hget : ∀ a p a', a.getPkt = .ok (p, a') → R a a')
    (htransition : ∀ a n, R a (a.transition n))
    (hnow : pw.now → ∀ a n, R a (a.transitionNow n))
    (htimeout : pw.timeout → ∀ a t f, R a (a.setTimeout env t f)) :
    ∀ (c : Code P D W), c.Within pw → ∀ {a a' : Activation K P D W},
      exec env c a = .ok a' → R a a' := by
  intro c
  induction c with
  | done =>
      intro _ a a' h
      obtain rfl := Except.ok.inj h
      exact hrefl a
  | throw =>
      intro _ a a' h
      simp [exec] at h
  | get k ih => exact fun hw a a' h => ih _ _ (hw _ _) h
  | put d w k ih => exact fun hw a a' h => htrans (hput a d w) (ih hw h)
  | freePkt k ih => exact fun hw a a' h => htrans (hfree a) (ih hw h)
  | getPkt k ih =>
      intro hw a a' h
      simp only [exec] at h
      split at h
      · simp at h
      · rename_i p b hp
        exact htrans (hget a p b hp) (ih p (hw p) h)
  | transition n k ih => exact fun hw a a' h => htrans (htransition a n) (ih hw h)
  | transitionNow n k ih => exact fun hw a a' h => htrans (hnow hw.1 a n) (ih hw.2 h)
  | setTimeout t f k _ ih => exact fun hw a a' h => htrans (htimeout hw.1 a t f) (ih hw.2 h)

/-! ### Reading a log -/

/-- The packet an event says `getPkt` returned. -/
def Event.got : Event K D P → Option P
  | .getPkt p => some p
  | _ => none

/-- The packets `getPkt` returned, in order. -/
def got (log : List (Event K D P)) : List P := log.filterMap Event.got

/-- The slot an event says is run. -/
def Event.ran : Event K D P → Option Nat
  | .run i => some i
  | _ => none

/-- The slots run, in order. -/
def ran (log : List (Event K D P)) : List Nat := log.filterMap Event.ran

/-- The event is a reason to free the packet of slot `i`: it could not be identified, it had no
state and was not accepted, or its state function called `freePkt`. -/
def Event.drops (i : Nat) : Event K D P → Bool
  | .unidentified j => j == i
  | .discarded j _ => j == i
  | .freePkt j => j == i
  | _ => false

/-- The log holds a reason to free the packet of slot `i`. -/
def dropped (log : List (Event K D P)) (i : Nat) : Bool := log.any (Event.drops i)

/-- The event is about the slot and the connection of one `FunIface`. -/
def Event.Own (idx : Nat) (id : K) : Event K D P → Prop
  | .freePkt j => j = idx
  | .getPkt _ => True
  | .arm _ k => k = id
  | .call k _ => k = id
  | _ => False

@[simp] theorem got_append (l l' : List (Event K D P)) : got (l ++ l') = got l ++ got l' :=
  List.filterMap_append

@[simp] theorem ran_append (l l' : List (Event K D P)) : ran (l ++ l') = ran l ++ ran l' :=
  List.filterMap_append

@[simp] theorem dropped_append (l l' : List (Event K D P)) (i : Nat) :
    dropped (l ++ l') i = (dropped l i || dropped l' i) :=
  List.any_append

/-- A function's events free no other slot than its own. -/
theorem dropped_own {log : List (Event K D P)} {idx i : Nat} {id : K}
    (h : ∀ e ∈ log, e.Own idx id) (hi : i ≠ idx) : dropped log i = false := by
  rw [dropped, List.any_eq_false]
  intro e he
  have hown := h e he
  cases e <;> simp_all [Event.Own, Event.drops]
  exact fun hc => hi hc.symm

/-- A function's events run no slot. -/
theorem ran_own {log : List (Event K D P)} {idx : Nat} {id : K}
    (h : ∀ e ∈ log, e.Own idx id) : ran log = [] := by
  rw [ran, List.filterMap_eq_nil_iff]
  intro e he
  have hown := h e he
  cases e <;> simp_all [Event.Own, Event.ran]

/-! ### What a function did -/

/-- `a'` is `a` after a function that logged `new`. -/
structure Ran (a a' : Activation K P D W) (new : List (Event K D P)) : Prop where
  log : a'.sys.log = a.sys.log ++ new
  own : ∀ e ∈ new, e.Own a.iface.pktIdx a.iface.cID
  /-- Packets are only appended. -/
  pkts : a'.sys.pktsBA.pkts = a.sys.pktsBA.pkts ++ got new
  /-- Old slots keep their mark, new ones are marked to be sent. -/
  sends : ∀ i, a'.sys.pktsBA.sends i
    = if i < a.sys.pktsBA.numBufs then a.sys.pktsBA.sends i
      else decide (i < a'.sys.pktsBA.numBufs)
  capacity : BufArray.capacity a'.sys.pktsBA.numSlots = BufArray.capacity a.sys.pktsBA.numSlots
  pktIdx : a'.iface.pktIdx = a.iface.pktIdx
  cID : a'.iface.cID = a.iface.cID
  sendPkt : a'.iface.sendPkt = (a.iface.sendPkt && !dropped new a.iface.pktIdx)
  /-- Of the machine only the timeouts change. -/
  sm : a'.sys.sm = { a.sys.sm with
    curTimeoutID := a'.sys.sm.curTimeoutID
    timeoutsQ := a'.sys.sm.timeoutsQ
    timeoutFunctions := a'.sys.sm.timeoutFunctions }
  connPool : a'.sys.connPool = a.sys.connPool
  /-- A timeout that became valid was set for this connection. -/
  armed : ∀ tid td, a'.sys.sm.timeoutFunctions.lookup tid = some td →
    a.sys.sm.timeoutFunctions.lookup tid = some td ∨
      (td.id = a.iface.cID ∧ .arm tid a.iface.cID ∈ new)
  /-- Without a call of `setTimeout` the timeouts do not change either. -/
  unarmed : (∀ tid id, .arm tid id ∉ new) → a'.sys.sm = a.sys.sm

namespace Ran

theorem refl (a : Activation K P D W) : Ran a a [] where
  log := by simp
  own := by simp
  pkts := by simp [got]
  sends := by
    intro i
    split
    · rfl
    · rename_i h
      rw [BufArray.sends_slack _ (Nat.not_lt.mp h)]
      simp [h]
  capacity := rfl
  pktIdx := rfl
  cID := rfl
  sendPkt := by simp [dropped]
  sm := rfl
  connPool := rfl
  armed := fun _ _ h => Or.inl h
  unarmed := fun _ => rfl

theorem numBufs_eq {a a' : Activation K P D W} {new : List (Event K D P)} (h : Ran a a' new) :
    a'.sys.pktsBA.numBufs = a.sys.pktsBA.numBufs + (got new).length := by
  unfold BufArray.numBufs
  rw [h.pkts, List.length_append]

theorem trans {a b c : Activation K P D W} {l l' : List (Event K D P)} (h : Ran a b l)
    (h' : Ran b c l') : Ran a c (l ++ l') where
  log := by rw [h'.log, h.log, List.append_assoc]
  own := by
    intro e he
    rcases List.mem_append.mp he with he | he
    · exact h.own e he
    · have := h'.own e he
      rwa [h.pktIdx, h.cID] at this
  pkts := by rw [h'.pkts, h.pkts, got_append, List.append_assoc]
  sends := by
    intro i
    have hb := h.numBufs_eq
    have hc := h'.numBufs_eq
    rw [h'.sends, h.sends]
    split
    · split
      · rfl
      · rename_i hib hia
        simp [hib, show i < c.sys.pktsBA.numBufs by omega]
    · rename_i hib
      rw [if_neg (by omega)]
  capacity := h'.capacity.trans h.capacity
  pktIdx := h'.pktIdx.trans h.pktIdx
  cID := h'.cID.trans h.cID
  sendPkt := by
    rw [h'.sendPkt, h.sendPkt, h.pktIdx, dropped_append, Bool.not_or, Bool.and_assoc]
  sm := by rw [h'.sm, h.sm]
  connPool := h'.connPool.trans h.connPool
  armed := by
    intro tid td hl
    rcases h'.armed tid td hl with hl | ⟨hid, hin⟩
    · rcases h.armed tid td hl with hl | ⟨hid, hin⟩
      · exact Or.inl hl
      · exact Or.inr ⟨hid, List.mem_append_left _ hin⟩
    · rw [h.cID] at hid hin
      exact Or.inr ⟨hid, List.mem_append_right _ hin⟩
  unarmed := by
    intro hno
    rw [h'.unarmed (fun tid id hin => hno tid id (List.mem_append_right _ hin)),
      h.unarmed (fun tid id hin => hno tid id (List.mem_append_left _ hin))]

/-- A change of the function's own `State`, of the world or of the immediate-transition flag
is none of what `Ran` watches. -/
theorem local_change (a : Activation K P D W) (st : State D) (w : W) (imm : Bool) :
    Ran a { a with
      sys := { a.sys with w := w }
      state := st
      iface := { a.iface with immediateTransition := imm } } [] where
  log := (refl a).log
  own := (refl a).own
  pkts := (refl a).pkts
  sends := (refl a).sends
  capacity := rfl
  pktIdx := rfl
  cID := rfl
  sendPkt := (refl a).sendPkt
  sm := rfl
  connPool := rfl
  armed := (refl a).armed
  unarmed := fun _ => rfl

theorem freePkt (a : Activation K P D W) : Ran a a.freePkt [.freePkt a.iface.pktIdx] where
  log := rfl
  own := by simp [Event.Own]
  pkts := by simp [got, Event.got, Activation.freePkt, Sys.emit]
  sends := (refl a).sends
  capacity := rfl
  pktIdx := rfl
  cID := rfl
  sendPkt := by simp [dropped, Event.drops, Activation.freePkt]
  sm := rfl
  connPool := rfl
  armed := fun _ _ h => Or.inl h
  unarmed := fun _ => rfl

theorem getPkt {a a' : Activation K P D W} {p : P} (h : a.getPkt = .ok (p, a')) :
    Ran a a' [.getPkt p] := by
  obtain ⟨cb, ba, -, -, hba, rfl⟩ := Activation.getPkt_eq_ok h
  obtain ⟨hpkts, hsends⟩ := BufArray.addPkt_eq_ok hba
  have hlen : ba.numBufs = a.sys.pktsBA.numBufs + 1 := by
    unfold BufArray.numBufs
    rw [hpkts, List.length_append]
    rfl
  refine ⟨rfl, by simp [Event.Own], by simpa [got, Event.got] using hpkts, ?_,
    (BufArray.addPkt_capacity hba).2, rfl, rfl, by simp [dropped, Event.drops], rfl, rfl,
    fun _ _ hl => Or.inl hl, fun _ => rfl⟩
  intro i
  show ba.sends i = if i < a.sys.pktsBA.numBufs then a.sys.pktsBA.sends i
    else decide (i < ba.numBufs)
  rw [hsends, hlen]
  by_cases hlt : i < a.sys.pktsBA.numBufs
  · rw [if_neg (Nat.ne_of_lt hlt), if_pos hlt]
  · rw [if_neg hlt]
    by_cases heq : i = a.sys.pktsBA.numBufs
    · simp [heq]
    · rw [if_neg heq, BufArray.sends_slack _ (Nat.not_lt.mp hlt)]
      simp only [Bool.false_eq, decide_eq_false_iff_not]
      omega

theorem setTimeout (env : Env K P W) (a : Activation K P D W) (t : Int) (f : TimeoutFun P D W) :
    Ran a (a.setTimeout env t f) [.arm a.sys.sm.curTimeoutID a.iface.cID] where
  log := rfl
  own := by simp [Event.Own]
  pkts := by simp [got, Event.got, Activation.setTimeout]
  sends := (refl a).sends
  capacity := rfl
  pktIdx := rfl
  cID := rfl
  sendPkt := by simp [dropped, Event.drops, Activation.setTimeout]
  sm := rfl
  connPool := rfl
  armed := by
    intro tid td hl
    rcases FMap.lookup_insertNew_cases hl with hl | ⟨rfl, -, rfl⟩
    · exact Or.inl hl
    · exact Or.inr ⟨rfl, by simp⟩
  unarmed := fun hno => absurd (List.mem_singleton.mpr rfl) (hno _ _)

end Ran

/-- **What a function did**, for every function. -/
theorem exec_ran {env : Env K P W} {c : Code P D W} {a a' : Activation K P D W}
    (h : exec env c a = .ok a') : ∃ new, Ran a a' new := by
  refine exec_rule env Powers.all (R := fun a a' => ∃ new, Ran a a' new)
    (fun a => ⟨_, Ran.refl a⟩) ?_ (fun a d w => ⟨_, Ran.local_change a _ w _⟩)
    (fun a => ⟨_, Ran.freePkt a⟩) (fun a p a' hp => ⟨_, Ran.getPkt hp⟩)
    (fun a n => ⟨_, Ran.local_change a _ _ _⟩) (fun _ a n => ⟨_, Ran.local_change a _ _ _⟩)
    (fun _ a t f => ⟨_, Ran.setTimeout env a t f⟩) c c.within_all h
  rintro a b c ⟨l, hl⟩ ⟨l', hl'⟩
  exact ⟨_, hl.trans hl'⟩

/-- A function that may not call `transitionNow` leaves the flag alone. -/
theorem exec_immediate {env : Env K P W} {pw : Powers} (hpw : ¬ pw.now) {c : Code P D W}
    (hc : c.Within pw) {a a' : Activation K P D W} (h : exec env c a = .ok a') :
    a'.iface.immediateTransition = a.iface.immediateTransition := by
  refine exec_rule env pw
    (R := fun a a' => a'.iface.immediateTransition = a.iface.immediateTransition)
    (fun _ => rfl) (fun h1 h2 => h2.trans h1) (fun _ _ _ => rfl) (fun _ => rfl) ?_
    (fun _ _ => rfl) (fun hn => absurd hn hpw) (fun _ _ _ _ => rfl) c hc h
  intro a p a' hp
  obtain ⟨cb, ba, -, -, -, rfl⟩ := Activation.getPkt_eq_ok hp
  rfl

/-- A function that may not set timeouts logs none. -/
theorem exec_unarmed {env : Env K P W} {pw : Powers} (hpw : ¬ pw.timeout) {c : Code P D W}
    (hc : c.Within pw) {a a' : Activation K P D W} (h : exec env c a = .ok a') :
    ∃ new, Ran a a' new ∧ ∀ tid id, .arm tid id ∉ new := by
  refine exec_rule env pw
    (R := fun a a' => ∃ new, Ran a a' new ∧ ∀ tid id, .arm tid id ∉ new)
    (fun a => ⟨_, Ran.refl a, by simp⟩) ?_ (fun a d w => ⟨_, Ran.local_change a _ w _, by simp⟩)
    (fun a => ⟨_, Ran.freePkt a, by simp⟩) (fun a p a' hp => ⟨_, Ran.getPkt hp, by simp⟩)
    (fun a n => ⟨_, Ran.local_change a _ _ _, by simp⟩)
    (fun _ a n => ⟨_, Ran.local_change a _ _ _, by simp⟩)
    (fun ht => absurd ht hpw) c hc h
  rintro a b c ⟨l, hl, hno⟩ ⟨l', hl', hno'⟩
  refine ⟨_, hl.trans hl', fun tid id hin => ?_⟩
  rcases List.mem_append.mp hin with hin | hin
  · exact hno tid id hin
  · exact hno' tid id hin

/-- The ways a function fails: it asks for a packet nobody provides, or for more than the array
holds, or it throws. -/
theorem exec_error {env : Env K P W} {pw : Powers} :
    ∀ {c : Code P D W}, c.Within pw → ∀ {a : Activation K P D W} {e : Fault},
      exec env c a = .error e →
      e = .noGetPktCB ∨ e = .bufOverflow ∨ (pw.throws ∧ e = .exception) := by
  intro c
  induction c with
  | done => intro _ a e h; simp [exec] at h
  | throw =>
      intro hw a e h
      exact Or.inr (Or.inr ⟨hw, (Except.error.inj h).symm⟩)
  | get k ih => exact fun hw a e h => ih _ _ (hw _ _) h
  | put d w k ih => exact fun hw a e h => ih hw h
  | freePkt k ih => exact fun hw a e h => ih hw h
  | getPkt k ih =>
      intro hw a e h
      simp only [exec] at h
      split at h
      · rename_i e' he
        obtain rfl := Except.error.inj h
        rcases Activation.getPkt_eq_error he with h | h
        · exact Or.inl h
        · exact Or.inr (Or.inl h)
      · exact ih _ (hw _) h
  | transition n k ih => exact fun hw a e h => ih hw h
  | transitionNow n k ih => exact fun hw a e h => ih hw.2 h
  | setTimeout t f k _ ih => exact fun hw a e h => ih hw.2 h

end MoonState
