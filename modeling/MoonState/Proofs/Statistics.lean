/-
What the statistics account for.

`stat_statesAdded` counts the entries `findState` makes and `stat_statesClosed` those
`runPkt` takes out at its end.  A connection leaves the table in three more places, and
none of them counts it: the public `removeState`, a timeout function that ends its
connection, and the destructor after an immediate transition.  `uncounted` is how many
have left that way.  The counters have 64 bits and wrap, and so does `size()`: 2^64
entries that left uncounted look like none.  A run is therefore looked at in all of its
states, not only in the last one.
-/
import MoonState.Lib.Steps
import MoonState.Proofs.Publish
import MoonState.Proofs.Rearm

namespace MoonState

variable {K P D W : Type}

/-- `stateTable.size()`. -/
def Sys.tableSize (s : Sys K P D W) : UInt64 := UInt64.ofNat s.sm.stateTable.keys.card

/-- The table has as many entries as were added and not closed. -/
def Sys.Balanced (s : Sys K P D W) : Prop :=
  s.tableSize = s.sm.stat_statesAdded - s.sm.stat_statesClosed

instance (s : Sys K P D W) : Decidable s.Balanced := inferInstanceAs (Decidable (_ = _))

/-- The entries that have left the table without being counted. -/
def Sys.uncounted (s : Sys K P D W) : UInt64 :=
  s.sm.stat_statesAdded - s.sm.stat_statesClosed - s.tableSize

theorem Sys.balanced_iff {s : Sys K P D W} : s.Balanced ↔ s.uncounted = 0 := by
  unfold Balanced uncounted
  grind

/-! ### What counts -/

theorem Sys.uncounted_of_eq {s s' : Sys K P D W} (htable : s'.sm.stateTable = s.sm.stateTable)
    (hadded : s'.sm.stat_statesAdded = s.sm.stat_statesAdded)
    (hclosed : s'.sm.stat_statesClosed = s.sm.stat_statesClosed) : s'.uncounted = s.uncounted := by
  unfold uncounted tableSize
  rw [htable, hadded, hclosed]

theorem Ran.uncounted {a a' : Activation K P D W} {new : List (Event K D P)} (h : Ran a a' new) :
    a'.sys.uncounted = a.sys.uncounted :=
  Sys.uncounted_of_eq (by rw [h.sm]) (by rw [h.sm]) (by rw [h.sm])

theorem Sys.uncounted_cancelTimeout (s : Sys K P D W) (st : State D) :
    (s.cancelTimeout st).uncounted = s.uncounted := by
  unfold cancelTimeout
  split <;> rfl

variable [DecidableEq K]

/-- A new entry is counted. -/
theorem Sys.uncounted_findState [Inhabited D] {id : K} {s s' : Sys K P D W} {o : Option (State D)}
    (h : s.findState id = .ok (s', o)) : s'.uncounted = s.uncounted := by
  have hadd : ∀ {st : State D} {n m : UInt64}, s.sm.stateTable.lookup id = none →
      n + 1 - m - UInt64.ofNat (FMap.insertNew id st s.sm.stateTable).keys.card
        = n - m - UInt64.ofNat s.sm.stateTable.keys.card := by
    intro st n m hnone
    rw [FMap.card_insertNew_of_notMem (Finmap.lookup_eq_none.mp hnone), UInt64.ofNat_add]
    grind
  rcases findState_cases h with ⟨st, -, rfl, -⟩ | ⟨st, hnone, -, rfl, -⟩ |
    ⟨d, w, hnone, -, -, -, rfl, -⟩ | ⟨-, -, -, rfl, -⟩
  · rfl
  · exact hadd hnone
  · exact hadd hnone
  · rfl

/-- What a function worked on is written back to its entry. -/
theorem Activation.uncounted_commit {a : Activation K P D W}
    (hid : a.iface.cID ∈ a.sys.sm.stateTable) : a.commit.uncounted = a.sys.uncounted := by
  unfold commit Sys.setState Sys.uncounted Sys.tableSize
  dsimp only
  rw [FMap.card_insert_of_mem hid]

theorem Activation.mem_commit (a : Activation K P D W) :
    a.iface.cID ∈ a.commit.sm.stateTable :=
  Finmap.mem_insert.mpr (Or.inl rfl)

theorem Sys.tableSize_removeState_of_mem {s : Sys K P D W} {id : K} (h : id ∈ s.sm.stateTable) :
    (s.removeState id).tableSize = s.tableSize - 1 := by
  have hcard := congrArg UInt64.ofNat (FMap.card_erase_of_mem h)
  rw [UInt64.ofNat_add] at hcard
  show UInt64.ofNat (s.sm.stateTable.erase id).keys.card
    = UInt64.ofNat s.sm.stateTable.keys.card - 1
  grind

/-- Nothing counts an entry that is taken out. -/
theorem Sys.uncounted_removeState_of_mem {s : Sys K P D W} {id : K} (h : id ∈ s.sm.stateTable) :
    (s.removeState id).uncounted = s.uncounted + 1 := by
  have hcard := s.tableSize_removeState_of_mem h
  unfold uncounted
  rw [hcard]
  show s.sm.stat_statesAdded - s.sm.stat_statesClosed - (s.tableSize - 1) = _
  grind

theorem Sys.uncounted_removeState_of_notMem {s : Sys K P D W} {id : K}
    (h : id ∉ s.sm.stateTable) : (s.removeState id).uncounted = s.uncounted :=
  uncounted_of_eq (FMap.erase_of_notMem h) rfl rfl

/-- `runPkt` counts what it takes out. -/
theorem Sys.uncounted_closeState {s : Sys K P D W} {id : K} (h : id ∈ s.sm.stateTable) :
    (closeState id s).uncounted = s.uncounted := by
  have hcard := s.tableSize_removeState_of_mem h
  show s.sm.stat_statesAdded - (s.sm.stat_statesClosed + 1) - (s.removeState id).tableSize
    = s.sm.stat_statesAdded - s.sm.stat_statesClosed - s.tableSize
  rw [hcard]
  grind

/-! ### The destructor -/

/-- The function that the destructor enters ends the connection. -/
def Activation.EndsNow (env : Env K P W) (a : Activation K P D W) : Prop :=
  a.iface.immediateTransition = true ∧
    ∃ a' c, a.mark env = .ok a' ∧ callFun env a' = .ok c ∧ c.Ended

/-- The destructor takes the connection out uncounted exactly if the function it enters ends it. -/
theorem Activation.uncounted_destroy {env : Env K P W} {home : Home} {a b : Activation K P D W}
    (hhome : home = .table → a.iface.cID ∈ a.sys.sm.stateTable)
    (h : a.destroy env home = .ok b) :
    (a.EndsNow env ∧ a.iface.cID ∈ a.sys.sm.stateTable ∧ b.sys.uncounted = a.sys.uncounted + 1) ∨
      (¬ (a.EndsNow env ∧ a.iface.cID ∈ a.sys.sm.stateTable) ∧
        b.sys.uncounted = a.sys.uncounted) := by
  obtain ⟨ba, hba, ⟨hnow, rfl⟩ | ⟨hnow, -, c, s, hc, hs, rfl⟩⟩ := destroy_eq_ok h
  · refine Or.inr ⟨fun ⟨hends, _⟩ => ?_, Sys.uncounted_of_eq rfl rfl rfl⟩
    rw [hends.1] at hnow
    simp at hnow
  · obtain ⟨new, hran⟩ := callFun_ran hc
    have hmark : a.mark env = .ok { a with sys := { a.sys with pktsBA := ba } } := by
      unfold mark
      rw [hba]
    have hid : c.iface.cID = a.iface.cID := hran.cID
    have htable : c.sys.sm.stateTable = a.sys.sm.stateTable := by rw [hran.sm]
    have hsame : c.sys.uncounted = a.sys.uncounted := by
      rw [hran.uncounted]
      exact Sys.uncounted_of_eq rfl rfl rfl
    -- the entry is there before the removal if it was there before the function
    have hs' : s.uncounted = a.sys.uncounted ∧ s.sm.endStateID = c.sys.sm.endStateID ∧
        (c.iface.cID ∈ s.sm.stateTable ↔ a.iface.cID ∈ a.sys.sm.stateTable) := by
      rw [hs]
      split
      · rename_i hhome'
        have hmem := hhome hhome'
        have hmem' : c.iface.cID ∈ c.sys.sm.stateTable := by rwa [hid, htable]
        exact ⟨(uncounted_commit hmem').trans hsame, rfl, iff_of_true c.mem_commit hmem⟩
      · exact ⟨hsame, rfl, by rw [hid, htable]⟩
    obtain ⟨hcount, hend, hmem⟩ := hs'
    have hends : a.EndsNow env ↔ c.Ended := by
      constructor
      · intro ⟨_, a', c', hmark', hc', hended⟩
        obtain rfl := Except.ok.inj (hmark.symm.trans hmark')
        obtain rfl := Except.ok.inj (hc.symm.trans hc')
        exact hended
      · exact fun hended => ⟨hnow, _, c, hmark, hc, hended⟩
    rw [hends]
    dsimp only
    by_cases hended : c.Ended
    · rw [if_pos (hended.trans hend.symm)]
      by_cases hin : a.iface.cID ∈ a.sys.sm.stateTable
      · rw [Sys.uncounted_removeState_of_mem (hmem.mpr hin), hcount]
        exact Or.inl ⟨hended, hin, rfl⟩
      · rw [Sys.uncounted_removeState_of_notMem (fun hin' => hin (hmem.mp hin')), hcount]
        exact Or.inr ⟨fun hboth => hin hboth.2, rfl⟩
    · rw [if_neg fun heq => hended (heq.trans hend)]
      exact Or.inr ⟨fun hboth => hended hboth.1, hcount⟩

/-! ### The steps -/

variable [Inhabited D]

/-- The step takes an entry out and does not count it. -/
def Op.Uncounted (env : Env K P W) (s : Sys K P D W) : Op K P D → Prop
  | .packet cur => ∃ pkt identity s₁ st a, s.pktsBA.get cur = .ok pkt ∧
      env.identify pkt s.w = some identity ∧
      (s.emit (.run cur)).findState identity = .ok (s₁, some st) ∧
      callFun env (startPkt cur identity st s₁) = .ok a ∧
      ({ a with sys := a.commit } : Activation K P D W).EndsNow env
  | .pass => ∃ t td a, s.Firing env t td a ∧ a.Ended
  | .addState id st => id ∈ s.sm.stateTable ∧
      ∃ a, callFun env (startAdd id st s) = .ok a ∧ a.publish.EndsNow env
  | .removeState id => id ∈ s.sm.stateTable
  | .addStateNoFun _ _ => False
  | .batch _ => False

/-- The deficit after a step that takes an entry out uncounted, or does not. -/
def Sys.Accounts (uncounted : Prop) (s s' : Sys K P D W) : Prop :=
  (uncounted ∧ s'.uncounted = s.uncounted + 1) ∨ (¬ uncounted ∧ s'.uncounted = s.uncounted)

omit [DecidableEq K] [Inhabited D] in
theorem Sys.Accounts.of_not {p : Prop} {s s' : Sys K P D W} (hp : ¬ p)
    (h : s'.uncounted = s.uncounted) : Sys.Accounts p s s' := Or.inr ⟨hp, h⟩

omit [Inhabited D] in
/-- The packet of a connection that is in the table. -/
theorem runState_accounts {env : Env K P W} {cur : Nat} {id : K} {st : State D}
    {s s' : Sys K P D W} {a : Activation K P D W} (hid : id ∈ s.sm.stateTable)
    (ha : callFun env (startPkt cur id st s) = .ok a) (h : runState env cur id st s = .ok s') :
    Sys.Accounts (({ a with sys := a.commit } : Activation K P D W).EndsNow env) s s' := by
  obtain ⟨a', b, ha', rfl, hb⟩ := runState_eq_ok h
  obtain rfl := Except.ok.inj (ha.symm.trans ha')
  obtain ⟨new, hran⟩ := callFun_ran ha
  have hcID : a.iface.cID = id := hran.cID
  have htable : (startPkt cur id st s).sys.sm.stateTable = s.sm.stateTable := by
    show (s.cancelTimeout st).sm.stateTable = _
    unfold Sys.cancelTimeout
    split <;> rfl
  have hmem : a.iface.cID ∈ a.sys.sm.stateTable := by
    rw [hcID, hran.sm]
    show id ∈ (startPkt cur id st s).sys.sm.stateTable
    rwa [htable]
  have hcommit : a.commit.uncounted = s.uncounted := by
    rw [Activation.uncounted_commit hmem, hran.uncounted]
    exact s.uncounted_cancelTimeout st
  rcases hb with ⟨-, hb⟩ | ⟨-, hb⟩
  · obtain ⟨ba, -, ⟨hnow, rfl⟩ | ⟨-, herased, -⟩⟩ := Activation.destroy_eq_ok hb
    · refine .of_not (fun hends => ?_) ?_
      · have htrue := hends.1
        rw [show a.iface.immediateTransition = false from hnow] at htrue
        simp at htrue
      · show (closeState id a.commit).uncounted = _
        rw [Sys.uncounted_closeState (hcID ▸ a.mem_commit), hcommit]
    · exact absurd rfl herased
  · rcases Activation.uncounted_destroy (fun _ => a.mem_commit) hb with ⟨hends, -, hcount⟩ |
      ⟨hends, hcount⟩
    · exact Or.inl ⟨hends, hcount.trans (congrArg (· + 1) hcommit)⟩
    · exact Or.inr ⟨fun hends' => hends ⟨hends', a.mem_commit⟩, hcount.trans hcommit⟩

theorem runPkt_accounts {env : Env K P W} {cur : Nat} {s s' : Sys K P D W}
    (h : runPkt env cur s = .ok s') :
    Sys.Accounts ((Op.packet cur : Op K P D).Uncounted env s) s s' := by
  obtain ⟨pkt, hpkt, hcase⟩ := runPkt_eq_ok h
  rcases hcase with ⟨hid, hdrop⟩ | ⟨id, s₁, hid, hf, hdrop⟩ | ⟨id, s₁, st, hid, hf, hstate⟩
  · obtain ⟨ba, rfl⟩ := Sys.markDropPkt_eq hdrop
    refine .of_not ?_ rfl
    intro ⟨pkt', id, s₁, st, a, hpkt', hid', _⟩
    obtain rfl := Except.ok.inj (hpkt.symm.trans hpkt')
    rw [hid] at hid'
    simp at hid'
  · obtain ⟨ba, rfl⟩ := Sys.markDropPkt_eq hdrop
    have hsame : s₁.uncounted = (s.emit (.run cur)).uncounted := Sys.uncounted_findState hf
    refine .of_not ?_ hsame
    intro ⟨pkt', id', s₂, st, a, hpkt', hid', hf', _⟩
    obtain rfl := Except.ok.inj (hpkt.symm.trans hpkt')
    obtain rfl := Option.some.inj (hid.symm.trans hid')
    rw [hf] at hf'
    simp at hf'
  · obtain ⟨a, -, ha, -⟩ := runState_eq_ok hstate
    have hmem : id ∈ s₁.sm.stateTable := Finmap.mem_iff.mpr ⟨st, Sys.findState_lookup hf⟩
    have hsame : s₁.uncounted = (s.emit (.run cur)).uncounted := Sys.uncounted_findState hf
    have hends : (Op.packet cur : Op K P D).Uncounted env s ↔
        ({ a with sys := a.commit } : Activation K P D W).EndsNow env := by
      constructor
      · intro ⟨pkt', id', s₂, st', a', hpkt', hid', hf', ha', hends⟩
        obtain rfl := Except.ok.inj (hpkt.symm.trans hpkt')
        obtain rfl := Option.some.inj (hid.symm.trans hid')
        obtain ⟨rfl, hst⟩ := Prod.mk.inj (Except.ok.inj (hf.symm.trans hf'))
        obtain rfl := Option.some.inj hst
        obtain rfl := Except.ok.inj (ha.symm.trans ha')
        exact hends
      · exact fun hends => ⟨pkt, id, s₁, st, a, hpkt, hid, hf, ha, hends⟩
    rcases runState_accounts hmem ha hstate with ⟨hnow, hcount⟩ | ⟨hnow, hcount⟩
    · exact Or.inl ⟨hends.mpr hnow, hcount.trans (congrArg (· + 1) hsame)⟩
    · exact Or.inr ⟨fun hu => hnow (hends.mp hu), hcount.trans hsame⟩

theorem addState_accounts {env : Env K P W} {id : K} {st st' : State D} {s s' : Sys K P D W}
    (h : addState env id st s = .ok (s', st')) :
    Sys.Accounts ((Op.addState id st : Op K P D).Uncounted env s) s s' := by
  obtain ⟨a, b, ha, hb, rfl, rfl⟩ := addState_eq_ok h
  obtain ⟨new, hran⟩ := callFun_ran ha
  obtain rfl : a.iface.cID = id := hran.cID
  have hpublish : a.publish.destroy env .param = .ok b := hb
  have hsame : a.publish.sys.uncounted = s.uncounted ∧
      a.publish.sys.sm.stateTable = s.sm.stateTable := by
    have hcount : a.sys.uncounted = s.uncounted := hran.uncounted
    have htable : a.sys.sm.stateTable = s.sm.stateTable := by rw [hran.sm]
    unfold Activation.publish
    dsimp only
    split
    · exact ⟨hcount, htable⟩
    · exact ⟨hcount, htable⟩
  obtain ⟨hcount, htable⟩ := hsame
  have hends : (Op.addState a.iface.cID st : Op K P D).Uncounted env s ↔
      a.publish.EndsNow env ∧ a.publish.iface.cID ∈ a.publish.sys.sm.stateTable := by
    rw [htable]
    constructor
    · intro ⟨hmem, a', ha', hends⟩
      obtain rfl := Except.ok.inj (ha.symm.trans ha')
      exact ⟨hends, hmem⟩
    · exact fun ⟨hends, hmem⟩ => ⟨hmem, a, ha, hends⟩
  rw [hends]
  rcases Activation.uncounted_destroy (by simp) hpublish with ⟨hnow, hmem, hdone⟩ | ⟨hnow, hdone⟩
  · exact Or.inl ⟨⟨hnow, hmem⟩, hdone.trans (congrArg (· + 1) hcount)⟩
  · exact Or.inr ⟨hnow, hdone.trans hcount⟩

/-- What a pass that fires is told. -/
theorem Sys.Firing.unique {env : Env K P W} {s : Sys K P D W} {t t' : Timeout}
    {td td' : TimeoutData K P D W} {a a' : Activation K P D W} (h : s.Firing env t td a)
    (h' : s.Firing env t' td' a') : a = a' := by
  obtain rfl := Option.some.inj (h.top.symm.trans h'.top)
  obtain rfl := Option.some.inj (h.valid.symm.trans h'.valid)
  obtain ⟨s₁, st, hf, ha⟩ := h.ran
  obtain ⟨s₁', st', hf', ha'⟩ := h'.ran
  obtain ⟨rfl, hst⟩ := Prod.mk.inj (Except.ok.inj (hf.symm.trans hf'))
  obtain rfl := Option.some.inj hst
  exact Except.ok.inj (ha.symm.trans ha')

/-- What a pass that fires leaves. -/
theorem Sys.Firing.accounts {env : Env K P W} {s : Sys K P D W} {t : Timeout}
    {td : TimeoutData K P D W} {a : Activation K P D W} (h : s.Firing env t td a) :
    Sys.Accounts a.Ended s (endTimeout env t td.id a) := by
  obtain ⟨s₁, st, hf, ha⟩ := h.ran
  obtain ⟨new, hran⟩ := exec_ran ha
  have hcID : a.iface.cID = td.id := hran.cID
  have hmem : a.iface.cID ∈ a.sys.sm.stateTable := by
    have hlookup := Sys.findState_lookup hf
    rw [hcID, hran.sm]
    exact Finmap.mem_iff.mpr ⟨st, hlookup⟩
  have hfound := Sys.uncounted_findState hf
  have hcommit : a.commit.uncounted = s.uncounted := by
    rw [Activation.uncounted_commit hmem, hran.uncounted]
    exact hfound
  have hdrop : ∀ x : Sys K P D W, (dropTimeout env t x).uncounted = x.uncounted :=
    fun x => Sys.uncounted_of_eq rfl rfl rfl
  unfold endTimeout
  split
  · rename_i hended
    refine Or.inl ⟨hended, ?_⟩
    rw [hdrop, ← hcommit]
    exact Sys.uncounted_removeState_of_mem (hcID ▸ a.mem_commit)
  · rename_i hended
    exact .of_not hended ((hdrop _).trans hcommit)

theorem pass_accounts {env : Env K P W} {s s' : Sys K P D W} (h : s.pass env = .ok s') :
    Sys.Accounts ((Op.pass : Op K P D).Uncounted env s) s s' := by
  rcases Sys.pass_firing h with ⟨hsm, -, hnone⟩ | ⟨t, htop, hstale, hsm, -⟩ |
    ⟨t, td, a, ba, hfiring, rfl⟩
  · refine .of_not (fun ⟨t, td, a, hfiring, _⟩ => hnone t td a hfiring) ?_
    exact Sys.uncounted_of_eq (by rw [hsm]) (by rw [hsm]) (by rw [hsm])
  · refine .of_not (fun ⟨t', td, a, hfiring, _⟩ => ?_) ?_
    · obtain rfl := Option.some.inj (htop.symm.trans hfiring.top)
      rw [hfiring.valid] at hstale
      simp at hstale
    · exact Sys.uncounted_of_eq (by rw [hsm]) (by rw [hsm]) (by rw [hsm])
  · have hends : (Op.pass : Op K P D).Uncounted env s ↔ a.Ended := by
      constructor
      · intro ⟨t', td', a', hfiring', hended⟩
        rwa [hfiring.unique hfiring']
      · exact fun hended => ⟨t, td, a, hfiring, hended⟩
    rw [hends]
    exact hfiring.accounts

/-- **Every step**: the deficit grows by one if the step takes an entry out uncounted, and stays. -/
theorem Sys.op_accounts {env : Env K P W} {c : Op K P D} {s s' : Sys K P D W}
    (h : s.op env c = .ok s') : Sys.Accounts (c.Uncounted env s) s s' := by
  cases c with
  | batch ba =>
      obtain rfl := Except.ok.inj h
      exact .of_not id rfl
  | pass => exact pass_accounts h
  | packet cur => exact runPkt_accounts h
  | addState id st =>
      simp only [Sys.op] at h
      split at h
      · rename_i s₁ st' hadd
        obtain rfl := Except.ok.inj h
        exact addState_accounts hadd
      · simp at h
  | addStateNoFun id st =>
      obtain rfl := Except.ok.inj h
      refine .of_not (fun h => h) ?_
      unfold addStateNoFun
      split <;> rfl
  | removeState id =>
      obtain rfl := Except.ok.inj h
      by_cases hmem : id ∈ s.sm.stateTable
      · exact Or.inl ⟨hmem, Sys.uncounted_removeState_of_mem hmem⟩
      · exact .of_not hmem (Sys.uncounted_removeState_of_notMem hmem)

/-! ### Runs -/

/-- Steps that count what they take out keep the deficit. -/
theorem Sys.op_uncounted_eq {env : Env K P W} {c : Op K P D} {s s' : Sys K P D W}
    (h : s.op env c = .ok s') (hcounted : ¬ c.Uncounted env s) : s'.uncounted = s.uncounted := by
  rcases Sys.op_accounts h with ⟨huncounted, -⟩ | ⟨-, hcount⟩
  · exact absurd huncounted hcounted
  · exact hcount

/--
**When the statistics account for every connection.**

For every machine that starts balanced and every run of it, of any length: in every state
along the run the table has as many entries as were added and not closed, exactly if no
step of the run takes out an entry uncounted.
-/
theorem Sys.Run.balanced_iff_counted {env : Env K P W} {S : Nat → Sys K P D W}
    {c : Nat → Op K P D} {n : Nat} (hstart : (S 0).Balanced)
    (hrun : Execution (fun s c s' => s.op env c = .ok s') S c n) :
    (∀ k ≤ n, (S k).Balanced) ↔ ∀ k < n, ¬ (c k).Uncounted env (S k) := by
  constructor
  · intro hbalanced k hk huncounted
    have hbefore := Sys.balanced_iff.mp (hbalanced k (Nat.le_of_lt hk))
    have hafter := Sys.balanced_iff.mp (hbalanced (k + 1) hk)
    rcases Sys.op_accounts (hrun k hk) with ⟨-, hcount⟩ | ⟨hcounted, -⟩
    · rw [hbefore, hafter] at hcount
      exact absurd hcount (by decide)
    · exact hcounted huncounted
  · intro hcounted k hk
    -- the steps of the run up to `k`, each with what is said of it
    have hpath : Execution (fun s c s' => s.op env c = .ok s' ∧ ¬ c.Uncounted env s) S c n :=
      fun j hj => ⟨hrun j hj, hcounted j hj⟩
    refine hpath.invariant hstart ?_ k hk
    intro s c s' hs ⟨hop, hc⟩
    rw [Sys.balanced_iff, Sys.op_uncounted_eq hop hc]
    exact Sys.balanced_iff.mp hs

/-! ### A connection that is ended by a function that is entered immediately -/

/-- The machine of `hops`, before its connection is opened. -/
def passing (endStateID : StateID) : Sys Nat Nat Nat Unit :=
  { hops endStateID with sm := { (hops endStateID).sm with stateTable := ∅ } }

theorem passing_balanced (endStateID : StateID) : (passing endStateID).Balanced := by
  show UInt64.ofNat (∅ : FMap Nat (State Nat)).keys.card = 0 - 0
  decide

/-- It got the first packet of the connection. -/
def passed (endStateID : StateID) : Except Fault (Sys Nat Nat Nat Unit) :=
  runPkt hopEnv 0 (addStateNoFun 7 (State.new 0 0) (passing endStateID))

theorem passed_run {endStateID : StateID} {s : Sys Nat Nat Nat Unit}
    (h : passed endStateID = .ok s) : Sys.Run hopEnv (fun _ _ _ => True) (passing endStateID) s :=
  .step (.packet 0) (.step (.addStateNoFun 7 (State.new 0 0)) .refl rfl trivial) h trivial

/-- The two steps. -/
def passedOps : Nat → Op Nat Nat Nat
  | 0 => .addStateNoFun 7 (State.new 0 0)
  | _ => .packet 0

/-- The states they lead through. -/
def passedStates (endStateID : StateID) (s : Sys Nat Nat Nat Unit) : Nat → Sys Nat Nat Nat Unit
  | 0 => passing endStateID
  | 1 => addStateNoFun 7 (State.new 0 0) (passing endStateID)
  | _ => s

theorem passed_path {endStateID : StateID} {s : Sys Nat Nat Nat Unit}
    (h : passed endStateID = .ok s) :
    Execution (fun s c s' => s.op hopEnv c = .ok s') (passedStates endStateID s) passedOps 2
  | 0, _ => rfl
  | 1, _ => h

/-- The second function ends the connection: it was added, it is gone, and it was not closed. -/
theorem passed_not_balanced : ∃ s : Sys Nat Nat Nat Unit,
    Sys.Run hopEnv (fun _ _ _ => True) (passing 2) s ∧ s.sm.stateTable.keys.card = 0 ∧
      s.sm.stat_statesAdded = 1 ∧ s.sm.stat_statesClosed = 0 ∧ ¬ s.Balanced := by
  obtain ⟨s, hs⟩ : ∃ s, passed 2 = .ok s := ⟨_, rfl⟩
  have hrun := passed_run hs
  obtain rfl := (Except.ok.inj hs).symm
  exact ⟨_, hrun, by decide, by decide, by decide, by decide⟩

/-- Where the second function goes on to another state, the connection is accounted for: in the
states of the run, and by its two steps. -/
theorem Sys.Run.balanced_iff_counted_passed : ∃ s : Sys Nat Nat Nat Unit, passed 3 = .ok s ∧
    ∀ k < 2, ¬ (passedOps k).Uncounted hopEnv (passedStates 3 s k) := by
  obtain ⟨s, hs⟩ : ∃ s, passed 3 = .ok s := ⟨_, rfl⟩
  have hlast : s.Balanced := by
    obtain rfl := (Except.ok.inj hs).symm
    decide
  refine ⟨s, hs, (Sys.Run.balanced_iff_counted (n := 2) (passing_balanced 3)
    (passed_path hs)).mp ?_⟩
  intro k _
  match k with
  | 0 => exact passing_balanced 3
  | 1 => exact passing_balanced 3
  | _ + 2 => exact hlast

end MoonState
