/-
What a function does, by itself.

`exec` runs the code of a function inside the machine.  `Code.play` runs it on
nothing but the `State`, the world and the next timeout ID: what the function makes
of the two, which packets it is given, and whether it frees its own.  It is `none`
where the function throws, or asks for packets and nobody provides them.

`exec` does what the play says, and does it exactly if the array has room for the
packets.  `Sys.fate` says on these terms what becomes of a packet, from the
identifier, the table, the pool and the function.
-/
import MoonState.Proofs.StateMachine

namespace MoonState

variable {K P D W : Type}

/-! ### The code of a function -/

/-- What a function leaves: its `State` and the world, the packets it was given, and whether it
has freed its own. -/
structure Played (P D W : Type) where
  state : State D
  w : W
  got : List P
  freed : Bool

def Code.play (getPktCB : Option (W → P × W)) :
    Code P D W → State D → W → TimeoutID → Option (Played P D W)
  | .done, st, w, _ => some { state := st, w := w, got := [], freed := false }
  | .throw, _, _, _ => none
  | .get k, st, w, tid => (k st w).play getPktCB st w tid
  | .put d w k, st, _, tid => k.play getPktCB { st with stateData := d } w tid
  | .freePkt k, st, w, tid =>
    (k.play getPktCB st w tid).map fun r => { r with freed := true }
  | .getPkt k, st, w, tid =>
    match getPktCB with
    | none => none
    | some cb =>
      ((k (cb w).1).play getPktCB st (cb w).2 tid).map fun r => { r with got := (cb w).1 :: r.got }
  | .transition n k, st, w, tid => k.play getPktCB { st with state := n } w tid
  | .transitionNow n k, st, w, tid => k.play getPktCB { st with state := n } w tid
  | .setTimeout _ _ k, st, w, tid => k.play getPktCB { st with timeoutID := tid } w (tid + 1)

/-- `a'` is `a` after a function that played `r`. -/
structure Plays (a : Activation K P D W) (r : Played P D W) (a' : Activation K P D W) : Prop where
  state : a'.state = r.state
  w : a'.sys.w = r.w
  pkts : a'.sys.pktsBA.pkts = a.sys.pktsBA.pkts ++ r.got
  sendPkt : a'.iface.sendPkt = (a.iface.sendPkt && !r.freed)

/-- The play of a function in the activation it starts in. -/
def Activation.play (a : Activation K P D W) (c : Code P D W) : Option (Played P D W) :=
  c.play a.sys.sm.getPktCB a.state a.sys.w a.sys.sm.curTimeoutID

/-- **What a function does is its play.** -/
theorem exec_plays {env : Env K P W} {c : Code P D W} :
    ∀ {a a' : Activation K P D W}, exec env c a = .ok a' →
      ∃ r, a.play c = some r ∧ Plays a r a' := by
  induction c with
  | done =>
      intro a a' h
      obtain rfl := Except.ok.inj h
      exact ⟨_, rfl, rfl, rfl, by simp, by simp⟩
  | throw =>
      intro a a' h
      simp [exec] at h
  | get k ih => exact fun h => ih _ _ h
  | put d w k ih =>
      intro a a' h
      obtain ⟨r, hr, hp⟩ := ih h
      exact ⟨r, hr, hp.state, hp.w, hp.pkts, hp.sendPkt⟩
  | freePkt k ih =>
      intro a a' h
      obtain ⟨r, hr, hp⟩ := ih h
      refine ⟨{ r with freed := true }, congrArg (Option.map _) hr, hp.state, hp.w, hp.pkts, ?_⟩
      rw [hp.sendPkt]
      simp [Activation.freePkt]
  | getPkt k ih =>
      intro a a' h
      simp only [exec] at h
      split at h
      · simp at h
      · rename_i p b hb
        obtain ⟨cb, ba, hcb, rfl, hba, rfl⟩ := Activation.getPkt_eq_ok hb
        obtain ⟨r, hr, hp⟩ := ih _ h
        refine ⟨{ r with got := (cb a.sys.w).1 :: r.got }, ?_, hp.state, hp.w, ?_, hp.sendPkt⟩
        · have hr' : (k (cb a.sys.w).1).play a.sys.sm.getPktCB a.state (cb a.sys.w).2
              a.sys.sm.curTimeoutID = some r := hr
          unfold Activation.play
          rw [hcb] at hr' ⊢
          exact congrArg (Option.map _) hr'
        · have hpkts : a'.sys.pktsBA.pkts = ba.pkts ++ r.got := hp.pkts
          rw [hpkts, (BufArray.addPkt_eq_ok hba).1, List.append_assoc]
          rfl
  | transition n k ih =>
      intro a a' h
      obtain ⟨r, hr, hp⟩ := ih h
      exact ⟨r, hr, hp.state, hp.w, hp.pkts, hp.sendPkt⟩
  | transitionNow n k ih =>
      intro a a' h
      obtain ⟨r, hr, hp⟩ := ih h
      exact ⟨r, hr, hp.state, hp.w, hp.pkts, hp.sendPkt⟩
  | setTimeout t f k _ ih =>
      intro a a' h
      obtain ⟨r, hr, hp⟩ := ih h
      exact ⟨r, hr, hp.state, hp.w, hp.pkts, hp.sendPkt⟩

/-- The array has room for the packets of a play. -/
def BufArray.Room (ba : BufArray P) (got : List P) : Prop :=
  ba.numBufs + got.length ≤ capacity ba.numSlots

/-- **A play that has room is done.** -/
theorem exec_of_play {env : Env K P W} {c : Code P D W} :
    ∀ {a : Activation K P D W} {r : Played P D W}, a.play c = some r →
      a.sys.pktsBA.Room r.got → ∃ a', exec env c a = .ok a' := by
  induction c with
  | done => exact fun _ _ => ⟨_, rfl⟩
  | throw =>
      intro a r h
      simp [Activation.play, Code.play] at h
  | get k ih => exact fun h hroom => ih _ _ h hroom
  | put d w k ih => exact fun h hroom => ih (a := Activation.put _ d w) h hroom
  | freePkt k ih =>
      intro a r h hroom
      obtain ⟨r', hr', rfl⟩ := Option.map_eq_some_iff.mp h
      exact ih (a := a.freePkt) hr' hroom
  | getPkt k ih =>
      intro a r h hroom
      unfold Activation.play at h
      cases hcb : a.sys.sm.getPktCB with
      | none =>
          rw [hcb] at h
          simp [Code.play] at h
      | some cb =>
          rw [hcb] at h
          obtain ⟨r', hr', rfl⟩ := Option.map_eq_some_iff.mp h
          have hlen : a.sys.pktsBA.numBufs + (r'.got.length + 1)
              ≤ BufArray.capacity a.sys.pktsBA.numSlots := hroom
          obtain ⟨ba, hba, hcap⟩ := BufArray.addPkt_of_lt (cb a.sys.w).1
            (show a.sys.pktsBA.numBufs < _ by omega)
          have hnum : ba.numBufs = a.sys.pktsBA.numBufs + 1 := by
            unfold BufArray.numBufs
            rw [(BufArray.addPkt_eq_ok hba).1, List.length_append]
            rfl
          have hget : a.getPkt = .ok ((cb a.sys.w).1, { a with
              sys := { a.sys with
                pktsBA := ba
                w := (cb a.sys.w).2
                log := a.sys.log ++ [.getPkt (cb a.sys.w).1] } }) := by
            unfold Activation.getPkt
            rw [hcb]
            dsimp only
            rw [hba]
          rw [exec, hget]
          refine ih _ (r := r') ?_ ?_
          · show (k (cb a.sys.w).1).play a.sys.sm.getPktCB a.state (cb a.sys.w).2
              a.sys.sm.curTimeoutID = some r'
            rw [hcb]
            exact hr'
          · show ba.numBufs + r'.got.length ≤ BufArray.capacity ba.numSlots
            rw [hnum, hcap]
            omega
  | transition n k ih => exact fun h hroom => ih (a := Activation.transition _ n) h hroom
  | transitionNow n k ih => exact fun h hroom => ih (a := Activation.transitionNow _ n) h hroom
  | setTimeout t f k _ ih =>
      exact fun h hroom => ih (a := Activation.setTimeout env _ t f) h hroom

/-- What an array holds, it had room for. -/
theorem Ran.room {a a' : Activation K P D W} {new : List (Event K D P)} (h : Ran a a' new) :
    a.sys.pktsBA.Room (got new) := by
  have hfits : a'.sys.pktsBA.numBufs ≤ a'.sys.pktsBA.numSlots := a'.sys.pktsBA.fits
  have hcap := BufArray.le_capacity a'.sys.pktsBA.numSlots
  unfold BufArray.Room
  rw [← h.numBufs_eq, ← h.capacity]
  omega

/-! ### The function of a `State` -/

/-- The play of the function registered for the `State`. -/
def StateMachine.played (sm : StateMachine K P D W) (st : State D) (pkt : P) (w : W) :
    Option (Played P D W) :=
  match sm.dispatch st.state with
  | .error _ => none
  | .ok f => (f st pkt).play sm.getPktCB st w sm.curTimeoutID

theorem callFun_plays {env : Env K P W} {a a' : Activation K P D W} (h : callFun env a = .ok a') :
    ∃ pkt r, a.sys.pktsBA.get a.iface.pktIdx = .ok pkt ∧
      a.sys.sm.played a.state pkt a.sys.w = some r ∧ Plays a r a' ∧ a.sys.pktsBA.Room r.got := by
  obtain ⟨f, pkt, hf, hpkt, hexec⟩ := callFun_eq_ok h
  obtain ⟨r, hr, hplays⟩ := exec_plays hexec
  obtain ⟨new, hran⟩ := exec_ran hexec
  refine ⟨pkt, r, hpkt, ?_, ⟨hplays.state, hplays.w, hplays.pkts, hplays.sendPkt⟩, ?_⟩
  · unfold StateMachine.played
    rw [hf]
    exact hr
  · have hgot : got new = r.got := List.append_cancel_left (hran.pkts.symm.trans hplays.pkts)
    have hroom := hran.room
    rw [hgot] at hroom
    exact hroom

theorem callFun_of_played {env : Env K P W} {a : Activation K P D W} {pkt : P} {r : Played P D W}
    (hpkt : a.sys.pktsBA.get a.iface.pktIdx = .ok pkt)
    (hr : a.sys.sm.played a.state pkt a.sys.w = some r) (hroom : a.sys.pktsBA.Room r.got) :
    ∃ a', callFun env a = .ok a' := by
  unfold StateMachine.played at hr
  split at hr
  · simp at hr
  · rename_i f hf
    have hstart : ∃ a', exec env (f a.state pkt)
        { a with sys := a.sys.emit (.call a.iface.cID a.state) } = .ok a' :=
      exec_of_play hr hroom
    obtain ⟨a', ha'⟩ := hstart
    exact ⟨a', bind_eq_ok.mpr ⟨f, hf, bind_eq_ok.mpr ⟨pkt, hpkt, ha'⟩⟩⟩

/-- The activation of a packet has the play of its function. -/
theorem startPkt_played (cur : Nat) (id : K) (st : State D) (s : Sys K P D W) (pkt : P) (w : W) :
    (startPkt cur id st s).sys.sm.played st.woken pkt w = s.sm.played st.woken pkt w ∧
      (startPkt cur id st s).sys.w = s.w := by
  unfold startPkt Sys.cancelTimeout
  dsimp only
  split <;> exact ⟨rfl, rfl⟩

theorem callFun_startPkt_of_played [DecidableEq K] {env : Env K P W} {cur : Nat} {id : K}
    {st : State D} {s : Sys K P D W} {pkt : P} {r : Played P D W} (hpkt : s.pktsBA.get cur = .ok pkt)
    (hr : s.sm.played st.woken pkt s.w = some r) (hroom : s.pktsBA.Room r.got) :
    ∃ a, callFun env (startPkt cur id st s) = .ok a := by
  have hba : (startPkt cur id st s).sys.pktsBA = s.pktsBA := s.cancelTimeout_pktsBA st
  obtain ⟨hplayed, hw⟩ := startPkt_played cur id st s pkt s.w
  have hget : (startPkt cur id st s).sys.pktsBA.get cur = .ok pkt := by rwa [hba]
  refine callFun_of_played hget (r := r) ?_ ?_
  · rw [hw]
    exact hplayed.trans hr
  · rwa [hba]

/-! ### What becomes of a packet -/

/-- What becomes of a packet. -/
inductive Fate (K P D W : Type)
  /-- it could not be identified -/
  | unidentified
  /-- it has no state and is not accepted -/
  | refused (id : K)
  /-- its function is called -/
  | served (id : K) (r : Played P D W)

namespace Fate

/-- Dropped, or freed by its function. -/
def freed : Fate K P D W → Bool
  | unidentified => true
  | refused _ => true
  | served _ r => r.freed

/-- The packets its function was given. -/
def got : Fate K P D W → List P
  | unidentified => []
  | refused _ => []
  | served _ r => r.got

end Fate

section packet

variable [DecidableEq K] [Inhabited D] {env : Env K P W}

/-- The `State` is tracked, is in the pool, or is made if the machine listens.  `none` where the
program stops: the factory throws, or the function has no play. -/
def Sys.fate (env : Env K P W) (s : Sys K P D W) (pkt : P) : Option (Fate K P D W) :=
  match env.identify pkt s.w with
  | none => some .unidentified
  | some id =>
    match s.sm.stateTable.lookup id with
    | some st => (s.sm.played st.woken pkt s.w).map (.served id)
    | none =>
      match s.connPool.lookup id with
      | some st => (s.sm.played st.woken pkt s.w).map (.served id)
      | none =>
        if s.sm.listenToConnections then
          match s.startData id with
          | none => none
          | some (d, w) =>
            (s.sm.played (State.new s.sm.startStateID d).woken pkt w).map (.served id)
        else some (.refused id)

omit [Inhabited D] in
/-- A function plays the same after the lookup. -/
theorem Sys.Found.played {s s₁ : Sys K P D W} {id : K} (h : Sys.Found id s s₁) (st : State D)
    (pkt : P) (w : W) : s₁.sm.played st pkt w = s.sm.played st pkt w := by
  rw [h.sm]
  rfl

/-- The `State` that is found is the one the fate is about. -/
theorem Sys.fate_of_found {s s₁ : Sys K P D W} {pkt : P} {id : K} {st : State D} {e : Event K D P}
    (hid : env.identify pkt s.w = some id) (h : (s.emit e).findState id = .ok (s₁, some st)) :
    s.fate env pkt = (s₁.sm.played st.woken pkt s₁.w).map (.served id) := by
  rw [(Sys.findState_found h).played]
  show _ = (s.sm.played st.woken pkt s₁.w).map (Fate.served id)
  unfold fate
  rw [hid]
  dsimp only
  rcases Sys.findState_cases h with ⟨st', ht, rfl, ho⟩ | ⟨st', ht, hp, rfl, ho⟩ |
    ⟨d, w, ht, hp, hl, hd, rfl, ho⟩ | ⟨-, -, -, -, ho⟩
  · obtain rfl := Option.some.inj ho
    rw [show s.sm.stateTable.lookup id = some st from ht]
    rfl
  · obtain rfl := Option.some.inj ho
    rw [show s.sm.stateTable.lookup id = none from ht, show s.connPool.lookup id = some st from hp]
    rfl
  · obtain rfl := Option.some.inj ho
    rw [show s.sm.stateTable.lookup id = none from ht, show s.connPool.lookup id = none from hp,
      show s.sm.listenToConnections = true from hl, show s.startData id = some (d, w) from hd]
    rfl
  · simp at ho

theorem Sys.fate_of_none {s s₁ : Sys K P D W} {pkt : P} {id : K} {e : Event K D P}
    (hid : env.identify pkt s.w = some id) (h : (s.emit e).findState id = .ok (s₁, none)) :
    s.fate env pkt = some (.refused id) := by
  rcases Sys.findState_cases h with ⟨_, -, -, ho⟩ | ⟨_, -, -, -, ho⟩ | ⟨_, _, -, -, -, -, -, ho⟩ |
    ⟨ht, hp, hl, -, -⟩
  · simp at ho
  · simp at ho
  · simp at ho
  · unfold fate
    rw [hid]
    dsimp only
    rw [show s.sm.stateTable.lookup id = none from ht, show s.connPool.lookup id = none from hp,
      show s.sm.listenToConnections = false from hl]
    rfl

/-- Where the lookup fails there is no fate. -/
theorem Sys.fate_of_error {s : Sys K P D W} {pkt : P} {id : K} {e : Event K D P} {err : Fault}
    (hid : env.identify pkt s.w = some id) (h : (s.emit e).findState id = .error err) :
    s.fate env pkt = none := by
  unfold fate
  rw [hid]
  dsimp only
  rw [findState_eq] at h
  cases ht : s.sm.stateTable.lookup id with
  | some st => simp [Sys.emit, ht] at h
  | none =>
      cases hp : s.connPool.lookup id with
      | some st => simp [Sys.emit, ht, hp] at h
      | none =>
          cases hl : s.sm.listenToConnections with
          | false => simp [Sys.emit, ht, hp, hl] at h
          | true =>
              cases hd : s.startData id with
              | none => rfl
              | some x =>
                  have hd' : (s.emit e).startData id = some x := hd
                  rw [hd'] at h
                  simp [Sys.emit, ht, hp, hl] at h

variable {pw : Powers} {cur : Nat} {s s' : Sys K P D W}

/-- Everything that is looked at of the array before and after a packet. -/
structure Fate.Marks (cur : Nat) (r : Fate K P D W) (ba ba' : BufArray P) : Prop where
  room : ba.Room r.got
  pkts : ba'.pkts = ba.pkts ++ r.got
  own : ba'.sends cur = !r.freed

omit [DecidableEq K] [Inhabited D] in
theorem Fate.Marks.of_dropped {r : Fate K P D W} {ba ba' : BufArray P} {ndebug : Bool}
    (hlt : cur < ba.numBufs) (hgot : r.got = []) (hfreed : r.freed = true)
    (h : ba.mark ndebug cur false = .ok ba') : r.Marks cur ba ba' := by
  obtain ⟨hpkts, -, hsends⟩ := BufArray.mark_eq_ok h
  refine ⟨?_, ?_, ?_⟩
  · rw [hgot]
    exact Nat.le_trans ba.fits (BufArray.le_capacity _)
  · rw [hgot, List.append_nil, hpkts]
  · rw [hsends, if_pos ⟨rfl, hlt⟩, hfreed]
    rfl

omit [Inhabited D] in
theorem runState_marks {id : K} {st : State D} {pkt : P} (hw : s.sm.Within pw) (hnow : ¬ pw.now)
    (hpkt : s.pktsBA.get cur = .ok pkt) (h : runState env cur id st s = .ok s') :
    ∃ r, s.sm.played st.woken pkt s.w = some r ∧
      (Fate.served id r).Marks cur s.pktsBA s'.pktsBA := by
  obtain ⟨a, ba, ha, hmark, rfl⟩ := runState_calm hw hnow h
  obtain ⟨new, hran⟩ := callFun_ran ha
  obtain ⟨pkt', r, hpkt', hr, hplays, hroom⟩ := callFun_plays ha
  have hstart : (startPkt cur id st s).sys.pktsBA = s.pktsBA := s.cancelTimeout_pktsBA st
  have hidx : a.iface.pktIdx = cur := hran.pktIdx
  rw [hstart] at hpkt' hroom
  obtain rfl := Except.ok.inj (hpkt.symm.trans hpkt')
  rw [hidx] at hmark
  obtain ⟨hpkts, -, hsends⟩ := BufArray.mark_eq_ok hmark
  have hpkts' : a.sys.pktsBA.pkts = s.pktsBA.pkts ++ r.got := by
    rw [hplays.pkts, hstart]
  refine ⟨r, ?_, hroom, hpkts.trans hpkts', ?_⟩
  · obtain ⟨hsame, hw'⟩ := startPkt_played cur id st s pkt s.w
    rw [hw'] at hr
    exact hsame.symm.trans hr
  · have hlt : cur < a.sys.pktsBA.numBufs := by
      have hcur : cur < s.pktsBA.pkts.length :=
        (List.getElem?_eq_some_iff.mp (BufArray.get_eq_ok hpkt)).1
      unfold BufArray.numBufs
      rw [hpkts', List.length_append]
      omega
    show ba.sends cur = !r.freed
    rw [hsends, if_pos ⟨rfl, hlt⟩, hplays.sendPkt]
    rfl

/-- **What becomes of a packet is its fate.** -/
theorem runPkt_fate (hw : s.sm.Within pw) (hnow : ¬ pw.now) (h : runPkt env cur s = .ok s') :
    ∃ pkt r, s.pktsBA.get cur = .ok pkt ∧ s.fate env pkt = some r ∧
      r.Marks cur s.pktsBA s'.pktsBA := by
  obtain ⟨pkt, hpkt, hcase⟩ := runPkt_eq_ok h
  have hlt : cur < s.pktsBA.numBufs :=
    (List.getElem?_eq_some_iff.mp (BufArray.get_eq_ok hpkt)).1
  refine ⟨pkt, ?_⟩
  rcases hcase with ⟨hid, hdrop⟩ | ⟨id, s₁, hid, hf, hdrop⟩ | ⟨id, s₁, st, hid, hf, hrun⟩
  · obtain ⟨ba, hmark, rfl⟩ := Sys.markDropPkt_eq_ok hdrop
    refine ⟨.unidentified, hpkt, ?_, .of_dropped hlt rfl rfl hmark⟩
    unfold Sys.fate
    rw [hid]
  · obtain ⟨ba, hmark, rfl⟩ := Sys.markDropPkt_eq_ok hdrop
    have hba : s₁.pktsBA = s.pktsBA := (Sys.findState_found hf).pktsBA
    have hmark' : s₁.pktsBA.mark env.ndebug cur false = .ok ba := hmark
    rw [hba] at hmark'
    exact ⟨.refused id, hpkt, Sys.fate_of_none hid hf, .of_dropped hlt rfl rfl hmark'⟩
  · have hfound := Sys.findState_found hf
    have hba : s₁.pktsBA = s.pktsBA := hfound.pktsBA
    have hw₁ : s₁.sm.Within pw := hfound.within hw
    obtain ⟨r, hr, hmarks⟩ := runState_marks hw₁ hnow (hba.symm ▸ hpkt) hrun
    rw [hba] at hmarks
    refine ⟨.served id r, hpkt, ?_, hmarks⟩
    rw [Sys.fate_of_found hid hf, hr]
    rfl

end packet

end MoonState
