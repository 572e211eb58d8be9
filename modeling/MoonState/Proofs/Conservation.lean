/-
Packet conservation of a batch.

After `runPktBatch` every packet of the batch, and every packet the state functions
asked for, is in exactly one of the two lists the caller reads back.  The mask is
written from three places — the constructor's default, the drop paths of `runPkt`,
the destructor of a `FunIface` — while the array may grow under the batch.

`Served` is what one `runPkt` does to the array, told by what it logs, and its fate
is what becomes of its packet, told by what it finds.  `InBatch` is the invariant of
the loop, and says that the marks and the fates agree on the slots served so far.
-/
import MoonState.Proofs.Played

namespace MoonState

variable {K P D W : Type}

/-! ### One packet -/

/-- `s'` is `s` after `runPkt` on slot `cur`, which logged `new`. -/
structure Served (cur : Nat) (s s' : Sys K P D W) (new : List (Event K D P)) : Prop where
  log : s'.log = s.log ++ new
  ran : ran new = [cur]
  pkts : s'.pktsBA.pkts = s.pktsBA.pkts ++ got new
  own : s'.pktsBA.sends cur = !dropped new cur
  others : ∀ i, i ≠ cur → i < s.pktsBA.numBufs → s'.pktsBA.sends i = s.pktsBA.sends i
  fresh : ∀ i, s.pktsBA.numBufs ≤ i → s'.pktsBA.sends i = decide (i < s'.pktsBA.numBufs)
  elsewhere : ∀ i, i ≠ cur → dropped new i = false
  functions : s'.sm.functions = s.sm.functions

/-- What is logged before the function runs: the slot, and the connection if it is new. -/
def Prelude (cur : Nat) (pre : List (Event K D P)) : Prop :=
  pre = [.run cur] ∨ ∃ id, pre = [.run cur, .create id]

theorem Prelude.facts {cur : Nat} {pre : List (Event K D P)} (h : Prelude cur pre) :
    MoonState.ran pre = [cur] ∧ got pre = [] ∧ ∀ i, dropped pre i = false := by
  rcases h with rfl | ⟨id, rfl⟩ <;> exact ⟨rfl, rfl, fun _ => rfl⟩

/-- A packet that is dropped before any function runs. -/
theorem served_of_markDropPkt {env : Env K P W} {cur : Nat} {s s₁ s' : Sys K P D W}
    {pre : List (Event K D P)} {e : Event K D P} (hlt : cur < s.pktsBA.numBufs)
    (hba : s₁.pktsBA = s.pktsBA) (hlog : s₁.log = s.log ++ pre) (hpre : Prelude cur pre)
    (hfun : s₁.sm.functions = s.sm.functions)
    (he : e = .unidentified cur ∨ ∃ id, e = .discarded cur id)
    (h : (s₁.emit e).markDropPkt env cur = .ok s') : Served cur s s' (pre ++ [e]) := by
  obtain ⟨hran, hgot, hdrop⟩ := hpre.facts
  obtain ⟨ba, hmark, rfl⟩ := Sys.markDropPkt_eq_ok h
  have hmark' : s.pktsBA.mark env.ndebug cur false = .ok ba := by rw [← hba]; exact hmark
  obtain ⟨hpkts, -, hsends⟩ := BufArray.mark_eq_ok hmark'
  have hnum : ba.numBufs = s.pktsBA.numBufs := congrArg List.length hpkts
  have heRan : MoonState.ran [e] = [] := by rcases he with rfl | ⟨id, rfl⟩ <;> rfl
  have heGot : got [e] = [] := by rcases he with rfl | ⟨id, rfl⟩ <;> rfl
  have heDrop : ∀ i, dropped [e] i = (cur == i) := by
    intro i
    rcases he with rfl | ⟨id, rfl⟩ <;> simp [dropped, Event.drops]
  refine ⟨?_, ?_, ?_, ?_, ?_, ?_, ?_, hfun⟩
  · show s₁.log ++ [e] = _
    rw [hlog, List.append_assoc]
  · rw [ran_append, hran, heRan]
    rfl
  · rw [got_append, hgot, heGot]
    simpa using hpkts
  · rw [dropped_append, hdrop, heDrop]
    show ba.sends cur = _
    rw [hsends]
    simp [hlt]
  · intro i hi _
    show ba.sends i = _
    rw [hsends]
    simp [hi]
  · intro i hi
    show ba.sends i = decide (i < ba.numBufs)
    rw [hsends, hnum, if_neg (by omega), BufArray.sends_slack _ hi]
    simp [hi]
  · intro i hi
    rw [dropped_append, hdrop, heDrop]
    simpa using fun hc => hi hc.symm

variable [DecidableEq K]

/-- A packet whose state function runs. -/
theorem served_of_runState {env : Env K P W} {pw : Powers} {cur : Nat} {identity : K}
    {st : State D} {s s₁ s' : Sys K P D W} {pre : List (Event K D P)}
    (hlt : cur < s.pktsBA.numBufs) (hba : s₁.pktsBA = s.pktsBA) (hlog : s₁.log = s.log ++ pre)
    (hpre : Prelude cur pre) (hfun : s₁.sm.functions = s.sm.functions)
    (hw : s.sm.Within pw) (hpw : ¬ pw.now)
    (h : runState env cur identity st s₁ = .ok s') : ∃ new, Served cur s s' new := by
  obtain ⟨hran, hgot, hdrop⟩ := hpre.facts
  have hw₁ : s₁.sm.Within pw := fun f hf => hw f (by rwa [hfun] at hf)
  obtain ⟨a, ba, ha, hmark, rfl⟩ := runState_calm hw₁ hpw h
  obtain ⟨new, hnew⟩ := callFun_ran ha
  have hsm : a.sys.sm.functions = s.sm.functions := by
    rw [hnew.sm]
    show (s₁.cancelTimeout st).sm.functions = _
    rw [Sys.cancelTimeout_functions, hfun]
  have hstart : (startPkt cur identity st s₁).sys.pktsBA = s.pktsBA := by
    rw [← hba]
    exact Sys.cancelTimeout_pktsBA s₁ st
  generalize (.call _ _ :: new : List (Event K D P)) = new' at hnew
  have hidx : a.iface.pktIdx = cur := hnew.pktIdx
  have hsend : a.iface.sendPkt = !dropped new' cur := by
    rw [hnew.sendPkt]
    rfl
  have hnum := hnew.numBufs_eq
  rw [hstart] at hnum
  rw [hidx, hsend] at hmark
  obtain ⟨hpkts, -, hsends⟩ := BufArray.mark_eq_ok hmark
  have hnum' : ba.numBufs = a.sys.pktsBA.numBufs := congrArg List.length hpkts
  -- The end of the log: the connection is taken out if its function ended it.
  obtain ⟨fin, hfin, hfinRan, hfinGot, hfinDrop, hfinLog, hfinFun⟩ :
      ∃ fin : List (Event K D P), (fin = [] ∨ fin = [.removed identity]) ∧
        MoonState.ran fin = [] ∧ got fin = [] ∧ (∀ i, dropped fin i = false) ∧
        (if a.state.state = a.sys.sm.endStateID then closeState identity a.commit
          else a.commit).log = a.sys.log ++ fin ∧
        (if a.state.state = a.sys.sm.endStateID then closeState identity a.commit
          else a.commit).sm.functions = a.sys.sm.functions := by
    split
    · obtain ⟨fin, hlog, hfin⟩ := Sys.removeState_log a.commit identity
      refine ⟨fin, hfin, ?_, ?_, ?_, hlog, rfl⟩
      · rcases hfin with rfl | rfl <;> rfl
      · rcases hfin with rfl | rfl <;> rfl
      · rcases hfin with rfl | rfl <;> exact fun _ => rfl
    · exact ⟨[], Or.inl rfl, rfl, rfl, fun _ => rfl, (List.append_nil _).symm, rfl⟩
  have hrun : MoonState.ran new' = [] := ran_own hnew.own
  have helse : ∀ i, i ≠ cur → dropped new' i = false := fun i hi => dropped_own hnew.own hi
  refine ⟨pre ++ new' ++ fin, ?_, ?_, ?_, ?_, ?_, ?_, ?_, hfinFun.trans hsm⟩
  · show (if a.state.state = a.sys.sm.endStateID then closeState identity a.commit
      else a.commit).log = _
    rw [hfinLog, hnew.log]
    show (s₁.cancelTimeout st).log ++ new' ++ fin = _
    rw [Sys.cancelTimeout_log, hlog]
    simp only [List.append_assoc]
  · rw [ran_append, ran_append, hran, hrun, hfinRan]
    rfl
  · rw [got_append, got_append, hgot, hfinGot, List.nil_append, List.append_nil]
    show ba.pkts = _
    rw [hpkts, hnew.pkts, hstart]
  · rw [dropped_append, dropped_append, hdrop, hfinDrop]
    show ba.sends cur = _
    rw [hsends, if_pos ⟨rfl, by omega⟩]
    simp
  · intro i hi hib
    show ba.sends i = _
    rw [hsends, if_neg (fun hc => hi hc.1), hnew.sends, hstart, if_pos hib]
  · intro i hi
    show ba.sends i = decide (i < ba.numBufs)
    rw [hsends, if_neg (by omega), hnew.sends, hstart, if_neg (by omega), hnum']
  · intro i hi
    rw [dropped_append, dropped_append, hdrop, hfinDrop, helse i hi]
    rfl

variable [Inhabited D]

/-- **One packet**, for functions that do not transition immediately. -/
theorem runPkt_served {env : Env K P W} {pw : Powers} {cur : Nat} {s s' : Sys K P D W}
    (hw : s.sm.Within pw) (hpw : ¬ pw.now) (h : runPkt env cur s = .ok s') :
    ∃ new, Served cur s s' new := by
  obtain ⟨pktIn, hget, hcase⟩ := runPkt_eq_ok h
  have hlt : cur < s.pktsBA.numBufs := by
    have := BufArray.get_eq_ok hget
    exact (List.getElem?_eq_some_iff.mp this).1
  have hfound : ∀ {identity : K} {s₁ : Sys K P D W} {o : Option (State D)},
      (s.emit (.run cur)).findState identity = .ok (s₁, o) →
      ∃ pre, s₁.pktsBA = s.pktsBA ∧ s₁.log = s.log ++ pre ∧ Prelude cur pre ∧
        s₁.sm.functions = s.sm.functions := by
    intro identity s₁ o hf
    have hF := Sys.findState_found hf
    have hfun : s₁.sm.functions = s.sm.functions := by rw [hF.sm]; rfl
    rcases hF.log with hl | hl
    · exact ⟨[.run cur], hF.pktsBA, hl, Or.inl rfl, hfun⟩
    · refine ⟨[.run cur, .create identity], hF.pktsBA, ?_, Or.inr ⟨_, rfl⟩, hfun⟩
      rw [hl]
      simp [Sys.emit]
  rcases hcase with ⟨-, hdrop⟩ | ⟨identity, s₁, -, hf, hdrop⟩ | ⟨identity, s₁, st, -, hf, hrun⟩
  · exact ⟨_, served_of_markDropPkt hlt (show (s.emit (.run cur)).pktsBA = s.pktsBA from rfl) rfl
      (Or.inl rfl) rfl (Or.inl rfl) hdrop⟩
  · obtain ⟨pre, hba, hlog, hpre, hfun⟩ := hfound hf
    exact ⟨_, served_of_markDropPkt hlt hba hlog hpre hfun (Or.inr ⟨_, rfl⟩) hdrop⟩
  · obtain ⟨pre, hba, hlog, hpre, hfun⟩ := hfound hf
    exact served_of_runState hlt hba hlog hpre hfun hw hpw hrun

/-! ### A packet that is run -/

omit [DecidableEq K] [Inhabited D] in
theorem Activation.mark_of_lt {env : Env K P W} {a : Activation K P D W}
    (h : a.iface.pktIdx < a.sys.pktsBA.numBufs) : ∃ a', a.mark env = .ok a' := by
  unfold mark
  rw [BufArray.mark_of_lt _ _ _ h]
  exact ⟨_, rfl⟩

omit [DecidableEq K] [Inhabited D] in
theorem Sys.markDropPkt_of_lt (env : Env K P W) {s : Sys K P D W} {idx : Nat}
    (h : idx < s.pktsBA.numBufs) : ∃ s', s.markDropPkt env idx = .ok s' := by
  unfold markDropPkt BufArray.markDropPkt
  rw [BufArray.mark_of_lt _ _ _ h]
  exact ⟨_, rfl⟩

omit [Inhabited D] in
/-- Once its function has returned, nothing about a packet can fail. -/
theorem runState_of_callFun {env : Env K P W} {pw : Powers} {cur : Nat} {identity : K}
    {st : State D} {s : Sys K P D W} {a : Activation K P D W} (hw : s.sm.Within pw)
    (hnow : ¬ pw.now) (hlt : cur < s.pktsBA.numBufs)
    (ha : callFun env (startPkt cur identity st s) = .ok a) :
    ∃ s', runState env cur identity st s = .ok s' := by
  have hw' : (startPkt cur identity st s).sys.sm.Within pw :=
    hw.congr (Sys.cancelTimeout_functions s st)
  obtain ⟨new, hnew⟩ := callFun_ran ha
  have himm : a.iface.immediateTransition = false := hw'.callFun_immediate hnow ha
  have hidx : a.iface.pktIdx = cur := hnew.pktIdx
  have hnum := hnew.numBufs_eq
  have hstart : (startPkt cur identity st s).sys.pktsBA.numBufs = s.pktsBA.numBufs :=
    congrArg BufArray.numBufs (Sys.cancelTimeout_pktsBA s st)
  have hmark : ∀ (t : Sys K P D W) (home : Home), t.pktsBA = a.sys.pktsBA →
      ∃ a', ({ a with sys := t } : Activation K P D W).destroy env home = .ok a' := by
    intro t home ht
    rw [Activation.destroy_of_not_immediate (by exact himm)]
    refine Activation.mark_of_lt ?_
    show a.iface.pktIdx < t.pktsBA.numBufs
    rw [ht, hidx]
    omega
  unfold runState
  by_cases hend : a.state.state = a.sys.sm.endStateID
  · obtain ⟨a', ha'⟩ := hmark (closeState identity a.commit) .erased rfl
    refine ⟨a'.sys, bind_eq_ok.mpr ⟨a, ha, ?_⟩⟩
    dsimp only
    rw [if_pos (by exact hend)]
    exact bind_eq_ok.mpr ⟨a', ha', rfl⟩
  · obtain ⟨a', ha'⟩ := hmark a.commit .table rfl
    refine ⟨a'.sys, bind_eq_ok.mpr ⟨a, ha, ?_⟩⟩
    dsimp only
    rw [if_neg (by exact hend)]
    exact bind_eq_ok.mpr ⟨a', ha', rfl⟩

omit [Inhabited D] in
/-- Nor about opening a connection. -/
theorem addState_of_callFun {env : Env K P W} {pw : Powers} {id : K} {st : State D}
    {s : Sys K P D W} {a : Activation K P D W} (hw : s.sm.Within pw) (hnow : ¬ pw.now)
    (hlt : 0 < s.pktsBA.numBufs)
    (ha : callFun env { sys := s, state := st, iface := FunIface.new 0 id } = .ok a) :
    ∃ ba, a.sys.pktsBA.mark env.ndebug a.iface.pktIdx a.iface.sendPkt = .ok ba ∧
      addState env id st s
        = .ok ({ (if a.state.state = a.sys.sm.endStateID then a.sys else a.sys.poolAdd id a.state)
          with pktsBA := ba }, a.state) := by
  obtain ⟨new, hnew⟩ := callFun_ran ha
  have himm : a.iface.immediateTransition = false :=
    StateMachine.Within.callFun_immediate (by exact hw) hnow ha
  have hidx : a.iface.pktIdx = 0 := hnew.pktIdx
  have hnum : s.pktsBA.numBufs ≤ a.sys.pktsBA.numBufs := by
    rw [hnew.numBufs_eq]
    exact Nat.le_add_right _ _
  obtain ⟨t, ht⟩ : ∃ t, t = if a.state.state = a.sys.sm.endStateID then a.sys
      else a.sys.poolAdd id a.state := ⟨_, rfl⟩
  have hba : t.pktsBA = a.sys.pktsBA := by
    rw [ht]
    split <;> rfl
  obtain ⟨b, hb⟩ : ∃ b, ({ a with sys := t } : Activation K P D W).mark env = .ok b := by
    refine Activation.mark_of_lt ?_
    show a.iface.pktIdx < t.pktsBA.numBufs
    rw [hba, hidx]
    omega
  obtain ⟨ba, hmark, rfl⟩ := Activation.mark_eq_ok hb
  refine ⟨ba, hba ▸ hmark, bind_eq_ok.mpr ⟨a, ha, ?_⟩⟩
  dsimp only
  rw [← ht, Activation.destroy_of_not_immediate (by exact himm)]
  exact bind_eq_ok.mpr ⟨_, hb, rfl⟩

/-- **A packet is run to its end**, if it has a fate and the array has room for what it asks for. -/
theorem runPkt_of_fate {env : Env K P W} {pw : Powers} {cur : Nat} {s : Sys K P D W} {pkt : P}
    {r : Fate K P D W} (hw : s.sm.Within pw) (hnow : ¬ pw.now) (hpkt : s.pktsBA.get cur = .ok pkt)
    (hr : s.fate env pkt = some r) (hroom : s.pktsBA.Room r.got) :
    ∃ s', runPkt env cur s = .ok s' := by
  have hlt : cur < s.pktsBA.numBufs :=
    (List.getElem?_eq_some_iff.mp (BufArray.get_eq_ok hpkt)).1
  cases hid : env.identify pkt s.w with
  | none =>
      rw [runPkt_of_unidentified hpkt hid]
      exact Sys.markDropPkt_of_lt env hlt
  | some id =>
      rw [runPkt_of_identified hpkt hid]
      cases hf : (s.emit (.run cur)).findState id with
      | error e =>
          rw [Sys.fate_of_error hid hf] at hr
          simp at hr
      | ok found =>
          obtain ⟨s₁, o⟩ := found
          have hfound := Sys.findState_found hf
          have hba : s₁.pktsBA = s.pktsBA := hfound.pktsBA
          have hlt₁ : cur < s₁.pktsBA.numBufs := by rwa [hba]
          cases o with
          | none => exact Sys.markDropPkt_of_lt env hlt₁
          | some st =>
              rw [Sys.fate_of_found hid hf] at hr
              obtain ⟨r', hr', rfl⟩ := Option.map_eq_some_iff.mp hr
              have hw₁ : s₁.sm.Within pw := hfound.within hw
              have hroom' : s₁.pktsBA.Room r'.got := by rwa [hba]
              obtain ⟨a, ha⟩ := callFun_startPkt_of_played (hba.symm ▸ hpkt) hr' hroom'
              exact runState_of_callFun hw₁ hnow hlt₁ ha

/-! ### The loop over the batch -/

/-- The packets that the first `m` of these were given. -/
def gotBy (r : Nat → Fate K P D W) (m : Nat) : List P := (List.range m).flatMap fun i => (r i).got

omit [DecidableEq K] [Inhabited D] in
theorem gotBy_congr {r r' : Nat → Fate K P D W} {m : Nat} (h : ∀ i < m, r i = r' i) :
    gotBy r m = gotBy r' m := by
  unfold gotBy
  rw [List.flatMap_def, List.flatMap_def]
  congr 1
  refine List.map_congr_left fun i hi => ?_
  rw [h i (List.mem_range.mp hi)]

/-- The loop has served the first `m` slots of a batch that held `inputs`, with these fates, and
logged `new` since. -/
structure InBatch (inputs : List P) (s₀ s : Sys K P D W) (m : Nat) (new : List (Event K D P))
    (r : Nat → Fate K P D W) : Prop where
  log : s.log = s₀.log ++ new
  ran : ran new = List.range m
  given : got new = gotBy r m
  pkts : s.pktsBA.pkts = inputs ++ got new
  marks : ∀ i, i < inputs.length → s.pktsBA.sends i = !(decide (i < m) && (r i).freed)
  extra : ∀ i, inputs.length ≤ i → s.pktsBA.sends i = decide (i < s.pktsBA.numBufs)
  functions : s.sm.functions = s₀.sm.functions

omit [DecidableEq K] [Inhabited D] in
theorem InBatch.le_numBufs {inputs : List P} {s₀ s : Sys K P D W} {m : Nat}
    {new : List (Event K D P)} {r : Nat → Fate K P D W} (h : InBatch inputs s₀ s m new r) :
    inputs.length ≤ s.pktsBA.numBufs := by
  unfold BufArray.numBufs
  rw [h.pkts, List.length_append]
  omega

omit [DecidableEq K] [Inhabited D] in
/-- A slot of the batch still holds its packet. -/
theorem InBatch.get {inputs : List P} {s₀ s : Sys K P D W} {m : Nat} {new : List (Event K D P)}
    {r : Nat → Fate K P D W} (h : InBatch inputs s₀ s m new r) {i : Nat} {pkt : P}
    (hpkt : inputs[i]? = some pkt) : s.pktsBA.get i = .ok pkt := by
  have hlt : i < inputs.length := (List.getElem?_eq_some_iff.mp hpkt).1
  unfold BufArray.get
  rw [h.pkts, List.getElem?_append_left hlt, hpkt]

omit [DecidableEq K] [Inhabited D] in
/-- One packet keeps the invariant. -/
theorem InBatch.step {inputs : List P} {s₀ s s' : Sys K P D W} {m : Nat}
    {old new : List (Event K D P)} {r : Nat → Fate K P D W} {x : Fate K P D W}
    (h : InBatch inputs s₀ s m old r) (hm : m < inputs.length) (hs : Served m s s' new)
    (hx : x.Marks m s.pktsBA s'.pktsBA) :
    InBatch inputs s₀ s' (m + 1) (old ++ new) (Function.update r m x) := by
  have hle := h.le_numBufs
  have hnew : got new = x.got := List.append_cancel_left (hs.pkts.symm.trans hx.pkts)
  have hgot : got (old ++ new) = gotBy (Function.update r m x) (m + 1) := by
    have hold : gotBy r m = gotBy (Function.update r m x) m :=
      gotBy_congr fun i hi => (Function.update_of_ne (Nat.ne_of_lt hi) _ _).symm
    rw [got_append, h.given, hnew, hold]
    unfold gotBy
    rw [List.range_succ, List.flatMap_append, List.flatMap_singleton, Function.update_self]
  refine ⟨?_, ?_, hgot, ?_, ?_, ?_, hs.functions.trans h.functions⟩
  · rw [hs.log, h.log, List.append_assoc]
  · rw [ran_append, h.ran, hs.ran, List.range_succ]
  · rw [hs.pkts, h.pkts, got_append, List.append_assoc]
  · intro i hi
    by_cases him : i = m
    · subst him
      rw [hx.own, Function.update_self, decide_eq_true (Nat.lt_succ_self i), Bool.true_and]
    · rw [hs.others i him (by omega), h.marks i hi, Function.update_of_ne him]
      congr 2
      exact decide_eq_decide.mpr (by omega)
  · intro i hi
    by_cases hib : i < s.pktsBA.numBufs
    · have hnum : s.pktsBA.numBufs ≤ s'.pktsBA.numBufs := by
        unfold BufArray.numBufs
        rw [hs.pkts, List.length_append]
        omega
      rw [hs.others i (by omega) hib, h.extra i hi]
      simp [hib, show i < s'.pktsBA.numBufs by omega]
    · exact hs.fresh i (Nat.not_lt.mp hib)

/-- Each of the first `m` slots had its turn, and found its fate there. -/
def Fated (env : Env K P W) (inputs : List P) (s₀ : Sys K P D W) (m : Nat)
    (r : Nat → Fate K P D W) : Prop :=
  ∀ i < m, ∃ t pkt, (List.range i).foldlM (fun s i => runPkt env i s) s₀ = .ok t ∧
    inputs[i]? = some pkt ∧ t.fate env pkt = some (r i) ∧ t.pktsBA.Room (r i).got

/-- **The loop runs the slots it is given**, one by one and in order. -/
theorem InBatch.loop {env : Env K P W} {pw : Powers} {inputs : List P} {s₀ s₁ : Sys K P D W}
    {r₀ : Nat → Fate K P D W} (hw : s₀.sm.Within pw) (hnow : ¬ pw.now)
    (hstart : InBatch inputs s₀ s₁ 0 [] r₀) :
    ∀ (m : Nat) {s : Sys K P D W}, m ≤ inputs.length →
      (List.range m).foldlM (fun s i => runPkt env i s) s₁ = .ok s →
      ∃ new r, InBatch inputs s₀ s m new r ∧ Fated env inputs s₁ m r := by
  intro m
  induction m with
  | zero =>
      intro s _ h
      obtain rfl := Except.ok.inj h
      exact ⟨[], r₀, hstart, fun i hi => absurd hi (Nat.not_lt_zero i)⟩
  | succ m ih =>
      intro s' hm h
      obtain ⟨s, hs, hrun⟩ := foldlM_range_succ_eq_ok.mp h
      obtain ⟨old, r, hin, hfated⟩ := ih (by omega) hs
      have hw' : s.sm.Within pw := fun f hf => hw f (by rwa [hin.functions] at hf)
      obtain ⟨new, hserved⟩ := runPkt_served hw' hnow hrun
      obtain ⟨pkt, x, hpkt, hx, hmarks⟩ := runPkt_fate hw' hnow hrun
      have hlt : m < inputs.length := hm
      have hinput : inputs[m]? = some inputs[m] := List.getElem?_eq_getElem hlt
      obtain rfl := Except.ok.inj (hpkt.symm.trans (hin.get hinput))
      refine ⟨old ++ new, Function.update r m x, hin.step hlt hserved hmarks, ?_⟩
      intro i hi
      by_cases him : i = m
      · subst him
        rw [Function.update_self]
        exact ⟨s, inputs[i], hs, hinput, hx, hmarks.room⟩
      · rw [Function.update_of_ne him]
        exact hfated i (by omega)

/-- **The loop gets through**, if each slot whose turn comes has a fate, and room for it. -/
theorem InBatch.loop_of_fate {env : Env K P W} {pw : Powers} {inputs : List P}
    {s₀ s₁ : Sys K P D W} {r₀ : Nat → Fate K P D W} (hw : s₀.sm.Within pw) (hnow : ¬ pw.now)
    (hstart : InBatch inputs s₀ s₁ 0 [] r₀)
    (hgoes : ∀ i t pkt, (List.range i).foldlM (fun s i => runPkt env i s) s₁ = .ok t →
      inputs[i]? = some pkt → ∃ r, t.fate env pkt = some r ∧ t.pktsBA.Room r.got) :
    ∀ m ≤ inputs.length, ∃ s, (List.range m).foldlM (fun s i => runPkt env i s) s₁ = .ok s := by
  intro m
  induction m with
  | zero => exact fun _ => ⟨s₁, rfl⟩
  | succ m ih =>
      intro hm
      obtain ⟨s, hs⟩ := ih (by omega)
      obtain ⟨old, r, hin, -⟩ := InBatch.loop hw hnow hstart m (by omega) hs
      have hlt : m < inputs.length := hm
      have hinput : inputs[m]? = some inputs[m] := List.getElem?_eq_getElem hlt
      have hw' : s.sm.Within pw := fun f hf => hw f (by rwa [hin.functions] at hf)
      obtain ⟨x, hx, hroom⟩ := hgoes m s _ hs hinput
      obtain ⟨s', hs'⟩ := runPkt_of_fate hw' hnow (hin.get hinput) hx hroom
      exact ⟨s', foldlM_range_succ_eq_ok.mpr ⟨s, hs, hs'⟩⟩

/-! ### The timeouts ahead of the batch -/

omit [Inhabited D] [DecidableEq K] in
/-- No valid timeout of the machine is due at any reading of the clock from now on. -/
def Sys.NoneDue (env : Env K P W) (s : Sys K P D W) : Prop :=
  ∀ t ∈ s.sm.timeoutsQ, t.timeoutID ∈ s.sm.timeoutFunctions → ∀ n, s.ticks ≤ n →
    env.clock n < t.time

/-- With nothing due the timeout loop fires nothing: it reads the clock and forgets entries that
were cancelled. -/
theorem timeoutLoop_idle {env : Env K P W} :
    ∀ (fuel : Nat) {s : Sys K P D W}, s.NoneDue env → s.sm.timeoutsQ.length < fuel →
      ∃ q n, timeoutLoop env fuel s
        = .ok { s with sm := { s.sm with timeoutsQ := q }, ticks := n } := by
  intro fuel
  induction fuel with
  | zero => intro s _ h; omega
  | succ fuel ih =>
      intro s hnone hlen
      rw [timeoutLoop]
      cases htop : env.topRule.top s.sm.timeoutsQ with
      | none => exact ⟨s.sm.timeoutsQ, s.ticks, rfl⟩
      | some t =>
          dsimp only
          split
          · exact ⟨s.sm.timeoutsQ, s.ticks + 1, rfl⟩
          · rename_i hdue
            have hmem := env.topRule.top_mem _ _ htop
            cases hl : s.sm.timeoutFunctions.lookup t.timeoutID with
            | some td =>
                have := hnone t hmem (Finmap.mem_of_lookup_eq_some hl) s.ticks (Nat.le_refl _)
                omega
            | none =>
                have hpop := env.topRule.length_pop htop
                obtain ⟨q, n, hrec⟩ := ih
                  (s := { s with
                    sm := { s.sm with timeoutsQ := env.topRule.pop s.sm.timeoutsQ }
                    ticks := s.ticks + 1 })
                  (fun u hu hv n hn => hnone u (env.topRule.mem_of_mem_pop hu) hv n (by
                    have : s.ticks + 1 ≤ n := hn
                    omega))
                  (by show (env.topRule.pop s.sm.timeoutsQ).length < fuel; omega)
                exact ⟨q, n, hrec⟩

/-! ### The whole batch -/

omit [DecidableEq K] [Inhabited D] in
/-- What the caller reads back, once the loop has served every slot. -/
theorem InBatch.result {inputs : List P} {s₀ s : Sys K P D W} {new : List (Event K D P)}
    {r : Nat → Fate K P D W} (h : InBatch inputs s₀ s inputs.length new r) :
    s.pktsBA.getSendBufs
        = some (BufArray.select (fun i => !(r i).freed) inputs ++ gotBy r inputs.length) ∧
      s.pktsBA.getFreeBufs = some (BufArray.select (fun i => (r i).freed) inputs) := by
  have hmarks : ∀ i, i < inputs.length → s.pktsBA.sends i = !(r i).freed := by
    intro i hi
    rw [h.marks i hi, decide_eq_true hi, Bool.true_and]
  obtain ⟨hsend, hfree⟩ := BufArray.result h.pkts hmarks h.extra
  rw [h.given] at hsend
  refine ⟨hsend, hfree.trans ?_⟩
  simp only [Bool.not_not]

/-- With nothing due a batch is its packets, one by one. -/
theorem runPktBatch_idle {env : Env K P W} {inputs : List P} {s : Sys K P D W} {fuel : Nat}
    (hba : BufArray.new inputs = some s.pktsBA) (hdue : s.NoneDue env)
    (hfuel : s.sm.timeoutsQ.length < fuel) :
    ∃ q n, runPktBatch env fuel s = (List.range' 0 inputs.length).foldlM
      (fun s i => runPkt env i s)
      { s with sm := { s.sm with timeoutsQ := q }, ticks := n } := by
  obtain ⟨-, -, hpkts, -⟩ := BufArray.new_eq_some hba
  obtain ⟨q, n, hidle⟩ := timeoutLoop_idle fuel hdue hfuel
  have hcount : s.pktsBA.getTotalCount = inputs.length := congrArg List.length hpkts
  refine ⟨q, n, ?_⟩
  unfold runPktBatch
  rw [hidle, hcount, ← List.range_eq_range']
  rfl

omit [Inhabited D] [DecidableEq K] in
/-- A batch, before any of its packets. -/
theorem InBatch.start {inputs : List P} {s s₁ : Sys K P D W}
    (hba : BufArray.new inputs = some s.pktsBA) (hsame : s₁.pktsBA = s.pktsBA)
    (hlog : s₁.log = s.log) (hfunctions : s₁.sm.functions = s.sm.functions) :
    InBatch inputs s s₁ 0 [] fun _ => .unidentified := by
  obtain ⟨-, -, hpkts, -⟩ := BufArray.new_eq_some hba
  refine ⟨?_, rfl, rfl, ?_, ?_, ?_, hfunctions⟩
  · rw [hlog, List.append_nil]
  · rw [hsame, hpkts]
    exact (List.append_nil inputs).symm
  · intro i hi
    rw [hsame, BufArray.sends_new hba hi]
    rfl
  · intro i hi
    have hge : s.pktsBA.numBufs ≤ i := by
      unfold BufArray.numBufs
      rw [hpkts]
      exact hi
    rw [hsame, BufArray.sends_slack _ hge]
    simp [hge]

/-- What the caller of `runPktBatch` gets back: each slot had its turn and found its fate, and was
run once and in order.  Every packet of the batch and every packet of `getPkt` comes back exactly
once: freed are the packets of the batch whose fate it is, and everything else is sent. -/
structure Conserved (env : Env K P W) (fuel : Nat) (inputs : List P) (s s' : Sys K P D W)
    (r : Nat → Fate K P D W) (new : List (Event K D P)) (send free : List P) : Prop where
  fates : ∀ i pkt, inputs[i]? = some pkt → ∃ t, s.Turn env fuel i t ∧ t.fate env pkt = some (r i)
  log : s'.log = s.log ++ new
  ran : ran new = List.range inputs.length
  got : got new = gotBy r inputs.length
  sendBufs : s'.pktsBA.getSendBufs = some send
  freeBufs : s'.pktsBA.getFreeBufs = some free
  once : (send ++ free).Perm (inputs ++ gotBy r inputs.length)
  free_eq : free = BufArray.select (fun i => (r i).freed) inputs
  send_eq : send = BufArray.select (fun i => !(r i).freed) inputs ++ gotBy r inputs.length

/--
**A batch conserves its packets.**

For every machine, every batch and all functions that do not transition immediately, with
no timeout due: `runPktBatch` returns exactly if each packet whose turn comes has a fate -
its factory, if it needs one, does not throw, a function is registered for its `State`, it
does not throw and asks for packets only if they are provided - and the array has room for
the packets it asks for.  Then every packet is conserved.
-/
theorem runPktBatch_conserves (env : Env K P W) (inputs : List P) {s : Sys K P D W} {fuel : Nat}
    (hba : BufArray.new inputs = some s.pktsBA) (hw : s.sm.Within ⟨True, False, True⟩)
    (hdue : s.NoneDue env) (hfuel : s.sm.timeoutsQ.length < fuel) :
    ((∃ s', runPktBatch env fuel s = .ok s') ↔
      ∀ i t pkt, s.Turn env fuel i t → inputs[i]? = some pkt →
        ∃ r, t.fate env pkt = some r ∧ t.pktsBA.Room r.got) ∧
    ∀ s', runPktBatch env fuel s = .ok s' →
      ∃ r new send free, Conserved env fuel inputs s s' r new send free := by
  obtain ⟨-, -, hpkts, -⟩ := BufArray.new_eq_some hba
  have hcount : s.pktsBA.getTotalCount = inputs.length := congrArg List.length hpkts
  obtain ⟨q, n, hidle⟩ := timeoutLoop_idle fuel hdue hfuel
  have hstart : InBatch inputs s { s with sm := { s.sm with timeoutsQ := q }, ticks := n } 0 []
      fun _ => .unidentified := .start hba rfl rfl rfl
  have hrun : ∀ s', runPktBatch env fuel s = .ok s' ↔
      (List.range inputs.length).foldlM (fun s i => runPkt env i s)
        { s with sm := { s.sm with timeoutsQ := q }, ticks := n } = .ok s' := by
    intro s'
    unfold runPktBatch
    rw [hidle, hcount]
    exact Iff.rfl
  have hturn : ∀ {i t}, i < inputs.length →
      (List.range i).foldlM (fun s i => runPkt env i s)
        { s with sm := { s.sm with timeoutsQ := q }, ticks := n } = .ok t → s.Turn env fuel i t :=
    fun hi ht => ⟨hcount ▸ hi, _, hidle, ht⟩
  refine ⟨⟨?_, ?_⟩, ?_⟩
  · rintro ⟨s', hs'⟩ i t pkt ⟨hi, s₁, hs₁, ht⟩ hpkt
    obtain rfl := Except.ok.inj (hs₁.symm.trans hidle)
    obtain ⟨-, r, -, hfated⟩ := InBatch.loop hw (fun h => h) hstart _ (Nat.le_refl _)
      ((hrun s').mp hs')
    obtain ⟨t', pkt', ht', hpkt', hr, hroom⟩ := hfated i (hcount ▸ hi)
    obtain rfl := Except.ok.inj (ht.symm.trans ht')
    obtain rfl := Option.some.inj (hpkt.symm.trans hpkt')
    exact ⟨r i, hr, hroom⟩
  · intro hgoes
    obtain ⟨s', hs'⟩ := InBatch.loop_of_fate hw (fun h => h) hstart
      (fun i t pkt ht hpkt =>
        hgoes i t pkt (hturn (List.getElem?_eq_some_iff.mp hpkt).1 ht) hpkt) _ (Nat.le_refl _)
    exact ⟨s', (hrun s').mpr hs'⟩
  · intro s' hs'
    obtain ⟨new, r, hin, hfated⟩ := InBatch.loop hw (fun h => h) hstart _ (Nat.le_refl _)
      ((hrun s').mp hs')
    obtain ⟨hsend, hfree⟩ := hin.result
    refine ⟨r, new, _, _, ?_, hin.log, hin.ran, hin.given, hsend, hfree, ?_, rfl, rfl⟩
    · intro i pkt hpkt
      have hi : i < inputs.length := (List.getElem?_eq_some_iff.mp hpkt).1
      obtain ⟨t, pkt', ht, hpkt', hr, -⟩ := hfated i hi
      obtain rfl := Option.some.inj (hpkt.symm.trans hpkt')
      exact ⟨t, hturn hi ht, hr⟩
    · have hall : s'.pktsBA.pkts = inputs ++ gotBy r inputs.length := by
        rw [hin.pkts, hin.given]
      rw [BufArray.getSendBufs_eq, Option.some.injEq] at hsend
      rw [BufArray.getFreeBufs_eq, Option.some.injEq] at hfree
      rw [← hall, ← hsend, ← hfree]
      exact s'.pktsBA.marked_perm

/-! ### The hypotheses can be met -/

/-- Packets are their connection's number; number 9 belongs to nobody. -/
def relayEnv : Env Nat Nat Nat where
  identify := fun p _ => if p = 9 then none else some p
  clock := fun n => (n : Int)
  topRule := Timeout.firstRule
  ndebug := false

/-- Frees its packet on connection 7, asks for another one on every other connection. -/
def relayFun : StateFun Nat Unit Nat := fun _ p =>
  if p = 7 then .freePkt .done else .getPkt fun _ => .transition StateIDInvalid .done

/-- A server with one state that was handed three packets. -/
def relay : Sys Nat Nat Unit Nat where
  sm := (StateMachine.new.registerFunction 0 relayFun |>.registerStartStateID 0 none)
    |>.registerGetPktCB fun w => (w, w + 1)
  connPool := ∅
  pktsBA := (BufArray.new [7, 8, 9]).get rfl
  w := 100
  ticks := 0
  log := []

theorem relay_within : relay.sm.Within ⟨True, False, True⟩ := by
  intro f hf st p
  have hfun : relay.sm.functions = [some relayFun] := rfl
  rw [hfun, List.mem_singleton, Option.some.injEq] at hf
  subst hf
  unfold relayFun
  split
  · trivial
  · exact fun _ => trivial

/-- One packet is dropped, one is freed, one is sent along with the packet it asked for. -/
theorem runPktBatch_conserves_relay : ∃ s' r new,
    runPktBatch relayEnv 1 relay = .ok s' ∧
      Conserved relayEnv 1 [7, 8, 9] relay s' r new [8, 100] [7, 9] := by
  obtain ⟨s', hs'⟩ : ∃ s', runPktBatch relayEnv 1 relay = .ok s' := ⟨_, rfl⟩
  obtain ⟨r, new, send, free, h⟩ := (runPktBatch_conserves relayEnv [7, 8, 9] rfl relay_within
    (fun t ht => absurd ht List.not_mem_nil) (by decide)).2 s' hs'
  have hsend : s'.pktsBA.getSendBufs = some [8, 100] := by
    obtain rfl := (Except.ok.inj hs').symm
    rfl
  have hfree : s'.pktsBA.getFreeBufs = some [7, 9] := by
    obtain rfl := (Except.ok.inj hs').symm
    rfl
  obtain rfl := Option.some.inj (hsend.symm.trans h.sendBufs)
  obtain rfl := Option.some.inj (hfree.symm.trans h.freeBufs)
  exact ⟨s', r, new, hs', h⟩

end MoonState
