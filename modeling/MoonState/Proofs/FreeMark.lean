/-
What `freePkt` does in a function that is entered immediately.

The destructor marks the packet first and runs the function of the state an immediate
transition asked for after that, with the same `FunIface`.  So the mark is the first
function's, and a function that is entered immediately can free the packet only if the
first one has done so already.
-/
import MoonState.Proofs.Chain

namespace MoonState

variable {K P D W : Type}

/-! ### The mark of one function -/

/-- A function that is given a packet to be sent leaves it to be freed exactly if it called
`freePkt`. -/
theorem Ran.sendPkt_eq_false {a a' : Activation K P D W} {new : List (Event K D P)}
    (h : Ran a a' new) (ha : a.iface.sendPkt = true) :
    a'.iface.sendPkt = false ↔ .freePkt a.iface.pktIdx ∈ new := by
  rw [h.sendPkt, ha, Bool.true_and, Bool.not_eq_false', dropped, List.any_eq_true]
  constructor
  · intro h'
    obtain ⟨e, he, hdrops⟩ := h'
    have hown := h.own e he
    cases e with
    | freePkt j =>
        obtain rfl : j = a.iface.pktIdx := hown
        exact he
    | unidentified j => exact absurd hown id
    | discarded j id' => exact absurd hown id
    | _ => simp [Event.drops] at hdrops
  · intro he
    exact ⟨_, he, by simp [Event.drops]⟩

variable [DecidableEq K]

/-- No function that is entered immediately frees a packet the first one has not. -/
def Activation.FreesFirst (env : Env K P W) (a : Activation K P D W) : Prop :=
  ∀ b, callFun env a = .ok b → b.iface.immediateTransition = true → b.iface.sendPkt = true →
    ∀ b' c, b.relink env = .ok b' → callFun env b' = .ok c → c.iface.sendPkt = true

/-- **`freePkt` is honoured**: the packet is marked drop if a function freed it, and send
otherwise. -/
def FreesHonoured (cur : Nat) (s s' : Sys K P D W) : Prop :=
  ∀ new, s'.log = s.log ++ new → (s'.pktsBA.sends cur = false ↔ .freePkt cur ∈ new)

/-- Taking the connection out is no call of `freePkt`. -/
theorem Activation.log_settle (a : Activation K P D W) :
    ∃ fin, a.settle.log = a.sys.log ++ fin ∧ ∀ i, .freePkt i ∉ fin := by
  unfold settle
  split
  · refine ⟨_, a.removeState_commit_log, fun i => ?_⟩
    simp
  · exact ⟨[], (List.append_nil _).symm, fun i => by simp⟩

theorem Activation.pktsBA_settle (a : Activation K P D W) : a.settle.pktsBA = a.sys.pktsBA := by
  unfold settle
  split <;> rfl

section runState

variable {env : Env K P W} {cur : Nat} {identity : K} {st : State D} {s s' : Sys K P D W}

omit [DecidableEq K] in
/-- The `FunIface` of a packet's first function. -/
theorem callFun_startPkt_frees {b : Activation K P D W}
    (h : callFun env (startPkt cur identity st s) = .ok b) :
    ∃ new, b.sys.log = s.log ++ new ∧ b.iface.pktIdx = cur ∧
      (b.iface.sendPkt = false ↔ .freePkt cur ∈ new) := by
  obtain ⟨new, hran⟩ := callFun_ran h
  refine ⟨_, ?_, hran.pktIdx, hran.sendPkt_eq_false rfl⟩
  rw [hran.log]
  show (s.cancelTimeout st).log ++ _ = _
  rw [Sys.cancelTimeout_log]

/-- The `FunIface` of the function that is entered immediately. -/
theorem callFun_relink_frees {b b' c : Activation K P D W} (hlink : b.relink env = .ok b')
    (hc : callFun env b' = .ok c) (hlt : b.iface.pktIdx < b.sys.pktsBA.numBufs) :
    ∃ new, c.sys.log = b.sys.log ++ new ∧
      c.sys.pktsBA.sends b.iface.pktIdx = b.iface.sendPkt ∧
      (b.iface.sendPkt = true → (c.iface.sendPkt = false ↔ .freePkt b.iface.pktIdx ∈ new)) := by
  obtain ⟨ba, hba, rfl⟩ := Activation.relink_eq_ok hlink
  obtain ⟨new, hran⟩ := callFun_ran hc
  obtain ⟨hpkts, -, hsends⟩ := BufArray.mark_eq_ok hba
  refine ⟨_, hran.log, ?_, fun hsend => hran.sendPkt_eq_false hsend⟩
  have hslot : b.iface.pktIdx < ba.numBufs := by
    rw [BufArray.numBufs, hpkts]
    exact hlt
  rw [hran.sends, if_pos hslot]
  show ba.sends b.iface.pktIdx = _
  rw [hsends, if_pos ⟨rfl, hlt⟩]

/-- A packet with one function is marked as that function says. -/
theorem runState_last_frees {b : Activation K P D W} (hidx : cur < s.pktsBA.numBufs)
    (h : callFun env (startPkt cur identity st s) = .ok b)
    (hnow : b.iface.immediateTransition = false) (hrun : runState env cur identity st s = .ok s') :
    FreesHonoured cur s s' := by
  obtain ⟨new, hlog, hcur, hfree⟩ := callFun_startPkt_frees h
  obtain ⟨hlt, rfl⟩ := callFun_startPkt hidx h
  obtain ⟨b', c, hb', rfl, hc⟩ := runState_eq_ok hrun
  obtain rfl := Except.ok.inj (h.symm.trans hb')
  have hdone : c.sys.pktsBA.sends cur = b.iface.sendPkt ∧
      ∃ fin, c.sys.log = b.sys.log ++ fin ∧ .freePkt cur ∉ fin := by
    rcases hc with ⟨-, hc⟩ | ⟨-, hc⟩
    · rw [Activation.destroy_of_not_immediate (by exact hnow)] at hc
      obtain ⟨ba, hba, rfl⟩ := Activation.mark_eq_ok hc
      refine ⟨?_, _, b.removeState_commit_log, by simp⟩
      exact ((BufArray.mark_eq_ok hba).2.2 cur).trans (if_pos ⟨hcur.symm, hlt⟩)
    · rw [Activation.destroy_of_not_immediate (by exact hnow)] at hc
      obtain ⟨ba, hba, rfl⟩ := Activation.mark_eq_ok hc
      refine ⟨?_, [], (List.append_nil _).symm, by simp⟩
      exact ((BufArray.mark_eq_ok hba).2.2 cur).trans (if_pos ⟨hcur.symm, hlt⟩)
  obtain ⟨hsends, fin, hfin, hnone⟩ := hdone
  intro all hall
  obtain rfl : all = new ++ fin := by
    rw [hfin, hlog, List.append_assoc] at hall
    exact (List.append_cancel_left hall).symm
  rw [hsends, hfree, List.mem_append]
  exact (or_iff_left hnone).symm

/-- A packet with two functions is marked as the first one says. -/
theorem runState_jump_frees {b b' c : Activation K P D W} (hidx : cur < s.pktsBA.numBufs)
    (h : callFun env (startPkt cur identity st s) = .ok b) (hlink : b.relink env = .ok b')
    (hc : callFun env b' = .ok c) :
    FreesHonoured cur s c.settle ↔ (b.iface.sendPkt = true → c.iface.sendPkt = true) := by
  obtain ⟨new, hlog, hcur, hfree⟩ := callFun_startPkt_frees h
  obtain ⟨hlt, -⟩ := callFun_startPkt hidx h
  obtain ⟨new', hlog', hsends, hfree'⟩ := callFun_relink_frees hlink hc hlt
  obtain ⟨fin, hfin, hnone⟩ := c.log_settle
  rw [hcur] at hsends hfree'
  have hall : c.settle.log = s.log ++ (new ++ new' ++ fin) := by
    rw [hfin, hlog', hlog]
    simp
  have hmem : .freePkt cur ∈ new ++ new' ++ fin ↔ .freePkt cur ∈ new ∨ .freePkt cur ∈ new' := by
    rw [List.mem_append, List.mem_append]
    exact or_iff_left (hnone cur)
  have hhonoured : FreesHonoured cur s c.settle ↔
      (b.iface.sendPkt = false ↔ .freePkt cur ∈ new ∨ .freePkt cur ∈ new') := by
    rw [← hmem, ← hsends, ← c.pktsBA_settle]
    constructor
    · exact fun hall' => hall' _ hall
    · intro hiff all hall'
      obtain rfl := List.append_cancel_left (hall.symm.trans hall')
      exact hiff
  rw [hhonoured, ← hfree]
  cases hsend : b.iface.sendPkt with
  | false => simp
  | true => simp [← hfree' hsend]

/-- The packet of a connection that is known. -/
theorem runState_frees_iff (hidx : cur < s.pktsBA.numBufs)
    (hrun : runState env cur identity st s = .ok s') :
    FreesHonoured cur s s' ↔ (startPkt cur identity st s).FreesFirst env := by
  obtain ⟨b, -, hb, -⟩ := runState_eq_ok hrun
  have honly : ∀ {x}, callFun env (startPkt cur identity st s) = .ok x → x = b :=
    fun hx => Except.ok.inj (hx.symm.trans hb)
  cases hnow : b.iface.immediateTransition with
  | false =>
      refine iff_of_true (runState_last_frees hidx hb hnow hrun) fun x hx hnow' => ?_
      rw [honly hx, hnow] at hnow'
      simp at hnow'
  | true =>
      by_cases hend : b.state.state = b.sys.sm.endStateID
      · rw [runState_of_jump_end hidx hb hnow hend] at hrun
        simp at hrun
      · obtain ⟨b', hlink⟩ := relink_of_lt env (callFun_startPkt hidx hb).1
        rw [runState_of_jump hb hnow hend hlink] at hrun
        cases hc : callFun env b' with
        | error e =>
            rw [hc] at hrun
            simp [Except.map] at hrun
        | ok c =>
            rw [hc] at hrun
            obtain rfl := Except.ok.inj hrun
            rw [runState_jump_frees hidx hb hlink hc]
            constructor
            · intro hsend x hx _ hx' y' y hy' hy
              obtain rfl := honly hx
              obtain rfl := Except.ok.inj (hlink.symm.trans hy')
              obtain rfl := Except.ok.inj (hc.symm.trans hy)
              exact hsend hx'
            · exact fun hfirst hsend => hfirst b hb hnow hsend b' c hlink hc

end runState

/--
**When `freePkt` is honoured.**

For every packet of a connection that is known or accepted, and all functions: the mark
is as the functions of the packet ask for, whichever of them asks, exactly if none that
is entered immediately frees a packet the first one has not.
-/
theorem runPkt_frees_iff [Inhabited D] {env : Env K P W} {cur : Nat} {s s₁ s' : Sys K P D W}
    {pkt : P} {identity : K} {st : State D} (hpkt : s.pktsBA.get cur = .ok pkt)
    (hid : env.identify pkt s.w = some identity)
    (hfound : (s.emit (.run cur)).findState identity = .ok (s₁, some st))
    (hrun : runPkt env cur s = .ok s') :
    FreesHonoured cur s s' ↔ (startPkt cur identity st s₁).FreesFirst env := by
  have hfound' := Sys.findState_found hfound
  have hidx : cur < s₁.pktsBA.numBufs := by
    rw [hfound'.pktsBA]
    exact (List.getElem?_eq_some_iff.mp (BufArray.get_eq_ok hpkt)).1
  have hstate : runState env cur identity st s₁ = .ok s' := by
    rw [runPkt_of_identified hpkt hid, hfound] at hrun
    exact hrun
  obtain ⟨pre, hpre, hnone⟩ : ∃ pre, s₁.log = s.log ++ pre ∧ .freePkt cur ∉ pre := by
    rcases hfound'.log with hlog | hlog
    · exact ⟨_, hlog, by simp⟩
    · exact ⟨[.run cur, .create identity], by simp [hlog, Sys.emit], by simp⟩
  rw [← runState_frees_iff hidx hstate]
  obtain ⟨new, hnew⟩ := runState_log hstate
  constructor
  · intro h all hall
    rw [h (pre ++ all) (by rw [hall, hpre, List.append_assoc]), List.mem_append]
    exact or_iff_right hnone
  · intro h all hall
    rw [h _ hnew]
    obtain rfl := List.append_cancel_left
      (hall.symm.trans (hnew.trans (by rw [hpre, List.append_assoc])))
    rw [List.mem_append]
    exact (or_iff_right hnone).symm

/-! ### A function that is entered immediately and frees the packet -/

/-- The first function goes on to the second one at once, which frees the packet; if `early`, the
first one has freed it. -/
def freeFun (early : Bool) (state : StateID) : StateFun Nat Nat Unit := fun _ _ =>
  if state = 1 then .freePkt .done
  else if early then .freePkt (.transitionNow 1 .done)
  else .transitionNow 1 .done

/-- Connection 7 is in the first of two states, and a packet for it is there. -/
def frees (early : Bool) : Sys Nat Nat Nat Unit :=
  { hops 2 with sm := { (StateMachine.new.registerFunction 0 (freeFun early 0)).registerFunction 1
      (freeFun early 1) with stateTable := Finmap.singleton 7 (State.new 0 0) } }

/-- The second function's `freePkt` is lost: the packet is sent. -/
theorem frees_not_honoured : ∃ s' : Sys Nat Nat Nat Unit, runPkt hopEnv 0 (frees false) = .ok s' ∧
    .freePkt 0 ∈ s'.log ∧ s'.pktsBA.sends 0 = true ∧ ¬ FreesHonoured 0 (frees false) s' := by
  obtain ⟨s', hs'⟩ : ∃ s', runPkt hopEnv 0 (frees false) = .ok s' := ⟨_, rfl⟩
  obtain rfl := (Except.ok.inj hs').symm
  refine ⟨_, hs', by decide, by decide, fun h => ?_⟩
  exact absurd ((h _ (List.nil_append _).symm).mpr (by decide)) (by decide)

/-- Where the first one has freed the packet, it is freed. -/
theorem runPkt_frees_iff_early : ∃ s' : Sys Nat Nat Nat Unit,
    runPkt hopEnv 0 (frees true) = .ok s' ∧ FreesHonoured 0 (frees true) s' := by
  obtain ⟨s', hs'⟩ : ∃ s', runPkt hopEnv 0 (frees true) = .ok s' := ⟨_, rfl⟩
  have hpkt : (frees true).pktsBA.get 0 = .ok 7 := rfl
  have hid : hopEnv.identify 7 (frees true).w = some 7 := rfl
  have hfound : ((frees true).emit (.run 0)).findState 7
      = .ok ((frees true).emit (.run 0), some (State.new 0 0)) := rfl
  refine ⟨s', hs', (runPkt_frees_iff hpkt hid hfound hs').mpr ?_⟩
  intro b hb _ hsend
  obtain rfl := (Except.ok.inj hb).symm
  exact absurd hsend (by decide)

end MoonState
