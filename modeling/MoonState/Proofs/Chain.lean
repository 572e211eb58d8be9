/-
Chains of immediate transitions.

A state function that calls `transitionNow` asks for the function of the new state
to be run on the same packet.  That function may do the same, and so on, until one
returns without it or the end state is reached.  `Chain` says which functions a
packet is owed, one constructor for each way a link can end; it is the whole of
what `transitionNow` promises.

The machine runs the second function in the destructor of the `FunIface`, and the
destructor runs no third.  A packet gets its chain if and only if the chain has
this one shape: `OneJump` is the exact condition.
-/
import MoonState.Proofs.Frame
import MoonState.Proofs.Conservation

namespace MoonState

variable {K P D W : Type}

/-! ### The flag

A function reads nothing of its `FunIface`, so running it with the flag of an earlier
immediate transition still set gives the same, with the flag set. -/

namespace Activation

/-- An immediate transition has been asked for. -/
def flag (a : Activation K P D W) : Activation K P D W :=
  { a with iface := { a.iface with immediateTransition := true } }

/-- The flag of a function that is yet to run. -/
def unflag (a : Activation K P D W) : Activation K P D W :=
  { a with iface := { a.iface with immediateTransition := false } }

@[simp] theorem flag_flag (a : Activation K P D W) : a.flag.flag = a.flag := rfl

@[simp] theorem sys_flag (a : Activation K P D W) : a.flag.sys = a.sys := rfl

@[simp] theorem state_flag (a : Activation K P D W) : a.flag.state = a.state := rfl

theorem flag_unflag {a : Activation K P D W} (h : a.iface.immediateTransition = true) :
    a.unflag.flag = a := by
  obtain ⟨sys, state, ⟨pktIdx, cID, sendPkt, imm⟩⟩ := a
  obtain rfl : imm = true := h
  rfl

theorem getPkt_flag (a : Activation K P D W) :
    a.flag.getPkt = a.getPkt.map fun r => (r.1, r.2.flag) := by
  unfold getPkt
  rw [sys_flag]
  cases a.sys.sm.getPktCB with
  | none => rfl
  | some cb =>
      dsimp only
      cases a.sys.pktsBA.addPkt (cb a.sys.w).1 with
      | error e => rfl
      | ok ba => rfl

theorem mark_flag (env : Env K P W) (a : Activation K P D W) :
    a.flag.mark env = (a.mark env).map flag := by
  have hmark : a.flag.sys.pktsBA.mark env.ndebug a.flag.iface.pktIdx a.flag.iface.sendPkt
      = a.sys.pktsBA.mark env.ndebug a.iface.pktIdx a.iface.sendPkt := rfl
  unfold mark
  rw [hmark]
  cases a.sys.pktsBA.mark env.ndebug a.iface.pktIdx a.iface.sendPkt with
  | error e => rfl
  | ok ba => rfl

end Activation

theorem exec_flag (env : Env K P W) (c : Code P D W) :
    ∀ a : Activation K P D W, exec env c a.flag = (exec env c a).map Activation.flag := by
  induction c with
  | done => exact fun a => rfl
  | throw => exact fun a => rfl
  | get k ih => exact fun a => ih _ _ a
  | put d w k ih => exact fun a => ih (a.put d w)
  | freePkt k ih => exact fun a => ih a.freePkt
  | getPkt k ih =>
      intro a
      simp only [exec]
      rw [Activation.getPkt_flag]
      cases a.getPkt with
      | error e => rfl
      | ok r => exact ih r.1 r.2
  | transition n k ih => exact fun a => ih (a.transition n)
  | transitionNow n k ih => exact fun a => ih (a.transitionNow n)
  | setTimeout t f k _ ih => exact fun a => ih (a.setTimeout env t f)

theorem callFun_flag (env : Env K P W) (a : Activation K P D W) :
    callFun env a.flag = (callFun env a).map Activation.flag := by
  unfold callFun
  show (a.sys.sm.dispatch a.state.state >>= _) = _
  cases a.sys.sm.dispatch a.state.state with
  | error e => rfl
  | ok f =>
      show (a.sys.pktsBA.get a.iface.pktIdx >>= _) = Except.map _ (a.sys.pktsBA.get _ >>= _)
      cases a.sys.pktsBA.get a.iface.pktIdx with
      | error e => rfl
      | ok p => exact exec_flag env (f a.state p) { a with sys := a.sys.emit _ }

/-! ### The calls a log holds -/

/-- The connection and the `State` an event says a function is called on. -/
def Event.called : Event K D P → Option (K × State D)
  | .call id st => some (id, st)
  | _ => none

/-- The calls of state functions, in order. -/
def calls (log : List (Event K D P)) : List (K × State D) := log.filterMap Event.called

@[simp] theorem calls_append (l l' : List (Event K D P)) : calls (l ++ l') = calls l ++ calls l' :=
  List.filterMap_append

/-- A function that ran has been called. -/
theorem calls_lt {env : Env K P W} {a b : Activation K P D W} (h : callFun env a = .ok b) :
    (calls a.sys.log).length < (calls b.sys.log).length := by
  obtain ⟨new, hnew⟩ := callFun_ran h
  rw [hnew.log, calls_append, List.length_append]
  simp [calls, Event.called]

variable [DecidableEq K]

/-! ### The chain -/

/-- The destructor's work between two functions: the `State` is in the table, the packet is
marked, and the next function starts without the flag. -/
def Activation.relink (env : Env K P W) (a : Activation K P D W) :
    Except Fault (Activation K P D W) :=
  ({ a.unflag with sys := a.commit } : Activation K P D W).mark env

/-- The functions a packet is owed, from the activation of the next one on, and what the last of
them leaves. -/
inductive Chain (env : Env K P W) :
    Activation K P D W → Except Fault (Activation K P D W) → Prop
  /-- the end state has no function -/
  | ended {a : Activation K P D W} (hend : a.state.state = a.sys.sm.endStateID) :
      Chain env a (.ok a)
  /-- the function throws, or there is none -/
  | fault {a : Activation K P D W} {e : Fault} (hend : a.state.state ≠ a.sys.sm.endStateID)
      (h : callFun env a = .error e) : Chain env a (.error e)
  /-- the function does not call `transitionNow` -/
  | last {a b : Activation K P D W} (hend : a.state.state ≠ a.sys.sm.endStateID)
      (h : callFun env a = .ok b) (hnow : b.iface.immediateTransition = false) :
      Chain env a (.ok b)
  /-- the function calls `transitionNow` -/
  | next {a b a' : Activation K P D W} {r : Except Fault (Activation K P D W)}
      (hend : a.state.state ≠ a.sys.sm.endStateID) (h : callFun env a = .ok b)
      (hnow : b.iface.immediateTransition = true) (hlink : b.relink env = .ok a')
      (hrest : Chain env a' r) : Chain env a r

/-- What a packet did is what its chain says: the same functions were called on the same `State`s,
the connection is gone if its last state is the end state and is in that state otherwise, and a
function that failed is where the packet failed. -/
def Agrees (id : K) : Except Fault (Sys K P D W) → Except Fault (Activation K P D W) → Prop
  | .ok s, .ok b => calls s.log = calls b.sys.log ∧
      s.sm.stateTable.lookup id
        = if b.state.state = b.sys.sm.endStateID then none else some b.state
  | .error e, .error e' => e = e'
  | _, _ => False

/-- The chain has at most two functions, and does not enter the end state by `transitionNow` after
the first one. -/
def OneJump (env : Env K P W) (a : Activation K P D W) : Prop :=
  a.state.state ≠ a.sys.sm.endStateID ∧
    ∀ b, callFun env a = .ok b → b.iface.immediateTransition = true →
      b.state.state ≠ b.sys.sm.endStateID ∧
        ∀ a' c, b.relink env = .ok a' → callFun env a' = .ok c →
          c.iface.immediateTransition = true → c.state.state = c.sys.sm.endStateID

theorem Activation.relink_eq_ok {env : Env K P W} {b a' : Activation K P D W}
    (h : b.relink env = .ok a') :
    ∃ ba, b.commit.pktsBA.mark env.ndebug b.iface.pktIdx b.iface.sendPkt = .ok ba ∧
      a' = { b.unflag with sys := { b.commit with pktsBA := ba } } := by
  obtain ⟨ba, hba, rfl⟩ := mark_eq_ok h
  exact ⟨ba, hba, rfl⟩

/-- The calls of a chain come after those before it. -/
theorem Chain.calls_le {env : Env K P W} {a : Activation K P D W}
    {r : Except Fault (Activation K P D W)} (h : Chain env a r) :
    ∀ b, r = .ok b → (calls a.sys.log).length ≤ (calls b.sys.log).length := by
  induction h with
  | ended hend =>
      rintro b ⟨⟩
      exact Nat.le_refl _
  | fault hend h => exact fun b hb => absurd hb (by simp)
  | last hend h hnow =>
      rintro b ⟨⟩
      exact (calls_lt h).le
  | next hend h hnow hlink hrest ih =>
      intro c hc
      obtain ⟨ba, -, rfl⟩ := Activation.relink_eq_ok hlink
      exact (calls_lt h).le.trans (ih c hc)

/-- A chain that does not start in the end state calls a function. -/
theorem Chain.calls_lt {env : Env K P W} {a b : Activation K P D W} (h : Chain env a (.ok b))
    (hend : a.state.state ≠ a.sys.sm.endStateID) :
    (calls a.sys.log).length < (calls b.sys.log).length := by
  cases h with
  | ended h => exact absurd h hend
  | last _ h _ => exact MoonState.calls_lt h
  | next _ h _ hlink hrest =>
      obtain ⟨ba, -, rfl⟩ := Activation.relink_eq_ok hlink
      exact (MoonState.calls_lt h).trans_le (hrest.calls_le _ rfl)

/-- In the end state a chain is over. -/
theorem Chain.of_end {env : Env K P W} {a : Activation K P D W}
    {r : Except Fault (Activation K P D W)} (h : Chain env a r)
    (hend : a.state.state = a.sys.sm.endStateID) : r = .ok a := by
  cases h with
  | ended _ => rfl
  | fault h _ => exact absurd hend h
  | last h _ _ => exact absurd hend h
  | next h _ _ _ _ => exact absurd hend h

/-- After a function that called `transitionNow` a chain goes on. -/
theorem Chain.of_jump {env : Env K P W} {a b : Activation K P D W}
    {r : Except Fault (Activation K P D W)} (h : Chain env a r)
    (hend : a.state.state ≠ a.sys.sm.endStateID) (hb : callFun env a = .ok b)
    (hnow : b.iface.immediateTransition = true) :
    ∃ a', b.relink env = .ok a' ∧ Chain env a' r := by
  cases h with
  | ended h => exact absurd h hend
  | fault _ h =>
      rw [hb] at h
      simp at h
  | last _ h hlast =>
      obtain rfl := Except.ok.inj (hb.symm.trans h)
      rw [hnow] at hlast
      simp at hlast
  | next _ h _ hlink hrest =>
      obtain rfl := Except.ok.inj (hb.symm.trans h)
      exact ⟨_, hlink, hrest⟩

/-- Linking changes neither the state nor what the end state is. -/
theorem Activation.relink_end {env : Env K P W} {b a' : Activation K P D W}
    (h : b.relink env = .ok a') :
    a'.state.state = a'.sys.sm.endStateID ↔ b.state.state = b.sys.sm.endStateID := by
  obtain ⟨ba, -, rfl⟩ := relink_eq_ok h
  exact Iff.rfl

/-! ### What the destructor does -/

theorem Sys.calls_removeState (s : Sys K P D W) (id : K) :
    calls (s.removeState id).log = calls s.log := by
  obtain ⟨fin, hlog, hfin⟩ := s.removeState_log id
  rw [hlog, calls_append]
  rcases hfin with rfl | rfl <;> exact List.append_nil _

/-- What a function leaves when its `State` is written back, and the connection taken out if the
function ended it. -/
def Activation.settle (a : Activation K P D W) : Sys K P D W :=
  if a.state.state = a.sys.sm.endStateID then a.commit.removeState a.iface.cID else a.commit

theorem Activation.calls_settle (a : Activation K P D W) : calls a.settle.log = calls a.sys.log := by
  unfold settle
  split
  · exact Sys.calls_removeState _ _
  · rfl

theorem Activation.lookup_settle (a : Activation K P D W) :
    a.settle.sm.stateTable.lookup a.iface.cID
      = if a.state.state = a.sys.sm.endStateID then none else some a.state := by
  unfold settle
  split
  · exact Finmap.lookup_erase _ _
  · exact Finmap.lookup_insert _

/-- A system that differs from the settled one in what neither the calls nor the table show. -/
theorem Agrees.of_settle {a : Activation K P D W} {s : Sys K P D W} (hlog : s.log = a.settle.log)
    (htable : s.sm.stateTable = a.settle.sm.stateTable) : Agrees a.iface.cID (.ok s) (.ok a) := by
  refine ⟨?_, ?_⟩
  · rw [hlog]
    exact a.calls_settle
  · rw [htable]
    exact a.lookup_settle

theorem Activation.destroy_erased {env : Env K P W} {a a' : Activation K P D W}
    (h : a.mark env = .ok a') (hnow : a.iface.immediateTransition = true) :
    a.destroy env .erased = .error .dangling := by
  obtain ⟨ba, -, rfl⟩ := mark_eq_ok h
  unfold destroy
  rw [h]
  show (if a.iface.immediateTransition = false then _ else _) = _
  rw [hnow]
  rfl

theorem Activation.destroy_table {env : Env K P W} {a a' : Activation K P D W}
    (h : a.mark env = .ok a') (hnow : a.iface.immediateTransition = true) :
    a.destroy env .table = (callFun env a').map fun b => { b with sys := b.settle } := by
  obtain ⟨ba, -, rfl⟩ := mark_eq_ok h
  unfold destroy
  rw [h]
  show (if a.iface.immediateTransition = false then _ else _) = _
  rw [hnow]
  show (callFun env _ >>= _) = _
  cases callFun env { a with sys := { a.sys with pktsBA := ba } } with
  | error e => rfl
  | ok b => rfl

/-! ### What `runPkt` does -/

section runState

variable {env : Env K P W} {cur : Nat} {identity : K} {st : State D} {s : Sys K P D W}

theorem runState_of_error {e : Fault} (h : callFun env (startPkt cur identity st s) = .error e) :
    runState env cur identity st s = .error e := by
  show (callFun env (startPkt cur identity st s) >>= _) = _
  rw [h]
  rfl

theorem runState_of_ok {b : Activation K P D W}
    (h : callFun env (startPkt cur identity st s) = .ok b) :
    runState env cur identity st s
      = if b.state.state = b.sys.sm.endStateID then
          (Activation.destroy env .erased { b with sys := closeState identity b.commit }).map
            Activation.sys
        else (Activation.destroy env .table { b with sys := b.commit }).map Activation.sys := by
  show (callFun env (startPkt cur identity st s) >>= _) = _
  rw [h]
  show (if b.state.state = b.sys.sm.endStateID then
      (Activation.destroy env .erased { b with sys := closeState identity b.commit } >>= fun c =>
        .ok c.sys)
    else (Activation.destroy env .table { b with sys := b.commit } >>= fun c => .ok c.sys)) = _
  split
  · cases Activation.destroy env .erased { b with sys := closeState identity b.commit } with
    | error e => rfl
    | ok c => rfl
  · cases Activation.destroy env .table { b with sys := b.commit } with
    | error e => rfl
    | ok c => rfl

omit [DecidableEq K] in
/-- The slot and the connection of a function that was called for a packet. -/
theorem callFun_startPkt {b : Activation K P D W} (hidx : cur < s.pktsBA.numBufs)
    (h : callFun env (startPkt cur identity st s) = .ok b) :
    b.iface.pktIdx < b.sys.pktsBA.numBufs ∧ b.iface.cID = identity := by
  obtain ⟨new, hnew⟩ := callFun_ran h
  refine ⟨?_, hnew.cID⟩
  rw [hnew.pktIdx, hnew.numBufs_eq]
  show cur < (s.cancelTimeout st).pktsBA.numBufs + _
  rw [Sys.cancelTimeout_pktsBA]
  omega

/-- A function that asked for the end state with `transitionNow` leaves the destructor with a
reference to an entry that is gone. -/
theorem runState_of_jump_end {b : Activation K P D W} (hidx : cur < s.pktsBA.numBufs)
    (h : callFun env (startPkt cur identity st s) = .ok b)
    (hnow : b.iface.immediateTransition = true) (hend : b.state.state = b.sys.sm.endStateID) :
    runState env cur identity st s = .error .dangling := by
  obtain ⟨b', hb'⟩ : ∃ b', ({ b with sys := closeState identity b.commit } :
      Activation K P D W).mark env = .ok b' := Activation.mark_of_lt (callFun_startPkt hidx h).1
  rw [runState_of_ok h, if_pos hend, Activation.destroy_erased hb' hnow]
  rfl

/-- A function that did not call `transitionNow` is the last one. -/
theorem runState_of_last {b : Activation K P D W} (hidx : cur < s.pktsBA.numBufs)
    (h : callFun env (startPkt cur identity st s) = .ok b)
    (hnow : b.iface.immediateTransition = false) :
    Agrees identity (runState env cur identity st s) (.ok b) := by
  obtain ⟨hlt, rfl⟩ := callFun_startPkt hidx h
  rw [runState_of_ok h]
  split
  · rename_i hend
    obtain ⟨b', hb'⟩ : ∃ b', ({ b with sys := closeState b.iface.cID b.commit } :
        Activation K P D W).mark env = .ok b' := Activation.mark_of_lt hlt
    rw [Activation.destroy_of_not_immediate (by exact hnow), hb']
    obtain ⟨ba, -, rfl⟩ := Activation.mark_eq_ok hb'
    refine Agrees.of_settle ?_ ?_
    · rw [Activation.settle, if_pos hend]
      rfl
    · rw [Activation.settle, if_pos hend]
      rfl
  · rename_i hend
    obtain ⟨b', hb'⟩ : ∃ b', ({ b with sys := b.commit } : Activation K P D W).mark env = .ok b' :=
      Activation.mark_of_lt hlt
    rw [Activation.destroy_of_not_immediate (by exact hnow), hb']
    obtain ⟨ba, -, rfl⟩ := Activation.mark_eq_ok hb'
    refine Agrees.of_settle ?_ ?_
    · rw [Activation.settle, if_neg hend]
    · rw [Activation.settle, if_neg hend]

/-- A function that asked for another state has that state's function run, and no third. -/
theorem runState_of_jump {b a' : Activation K P D W}
    (h : callFun env (startPkt cur identity st s) = .ok b)
    (hnow : b.iface.immediateTransition = true) (hend : b.state.state ≠ b.sys.sm.endStateID)
    (hlink : b.relink env = .ok a') :
    runState env cur identity st s = (callFun env a').map Activation.settle := by
  have hmark : ({ b with sys := b.commit } : Activation K P D W).mark env = .ok a'.flag := by
    have hflag := Activation.mark_flag env ({ b.unflag with sys := b.commit } : Activation K P D W)
    have hsame : ({ b.unflag with sys := b.commit } : Activation K P D W).flag
        = { b with sys := b.commit } :=
      Activation.flag_unflag (a := { b with sys := b.commit }) hnow
    rw [hsame] at hflag
    rw [hflag]
    show Except.map Activation.flag (b.relink env) = _
    rw [hlink]
    rfl
  rw [runState_of_ok h, if_neg hend, Activation.destroy_table hmark hnow, callFun_flag]
  cases callFun env a' with
  | error e => rfl
  | ok c => rfl

/-- A packet that succeeds has called a function. -/
theorem runState_calls_lt {s' : Sys K P D W} (h : runState env cur identity st s = .ok s') :
    (calls (startPkt cur identity st s).sys.log).length < (calls s'.log).length := by
  obtain ⟨b, c, hb, rfl, hc⟩ := runState_eq_ok h
  have hlt := calls_lt hb
  have hmono : ∀ {l new : List (Event K D P)}, (calls l).length ≤ (calls (l ++ new)).length := by
    intro l new
    rw [calls_append, List.length_append]
    omega
  rcases hc with ⟨-, hc⟩ | ⟨-, hc⟩
  · obtain ⟨new, hnew⟩ := (Activation.destroy_frame hc rfl).log
    rw [hnew]
    refine hlt.trans_le (le_trans (le_of_eq ?_) hmono)
    exact congrArg List.length (Sys.calls_removeState b.commit identity).symm
  · obtain ⟨new, hnew⟩ := (Activation.destroy_frame hc rfl).log
    rw [hnew]
    exact hlt.trans_le hmono

theorem relink_of_lt (env : Env K P W) {b : Activation K P D W} (hlt : b.iface.pktIdx < b.sys.pktsBA.numBufs) :
    ∃ a', b.relink env = .ok a' :=
  Activation.mark_of_lt (a := { b.unflag with sys := b.commit }) hlt

/-- The second function of a packet is called for the same slot and the same connection. -/
theorem callFun_relink {b a' c : Activation K P D W}
    (hlt : b.iface.pktIdx < b.sys.pktsBA.numBufs) (hlink : b.relink env = .ok a')
    (hc : callFun env a' = .ok c) :
    c.iface.pktIdx < c.sys.pktsBA.numBufs ∧ c.iface.cID = b.iface.cID := by
  obtain ⟨new, hnew⟩ := callFun_ran hc
  obtain ⟨ba, hba, rfl⟩ := Activation.relink_eq_ok hlink
  refine ⟨?_, hnew.cID⟩
  rw [hnew.pktIdx, hnew.numBufs_eq]
  show b.iface.pktIdx < ba.numBufs + _
  have hnum : ba.numBufs = b.sys.pktsBA.numBufs :=
    congrArg List.length (BufArray.mark_eq_ok hba).1
  omega

/-- A packet that got its chain had a short one. -/
theorem OneJump.of_agrees {r : Except Fault (Activation K P D W)} (hidx : cur < s.pktsBA.numBufs)
    (hchain : Chain env (startPkt cur identity st s) r)
    (hagree : Agrees identity (runState env cur identity st s) r) :
    OneJump env (startPkt cur identity st s) := by
  have hstart : (startPkt cur identity st s).state.state
      ≠ (startPkt cur identity st s).sys.sm.endStateID := by
    intro hend
    -- No function is owed, but one is looked up.
    obtain rfl := hchain.of_end hend
    cases hrun : runState env cur identity st s with
    | error e =>
        rw [hrun] at hagree
        exact hagree
    | ok s' =>
        rw [hrun] at hagree
        exact absurd (congrArg List.length hagree.1) (runState_calls_lt hrun).ne'
  refine ⟨hstart, ?_⟩
  intro b hb hnow
  obtain ⟨a', hlink, hrest⟩ := hchain.of_jump hstart hb hnow
  have hjump : b.state.state ≠ b.sys.sm.endStateID := by
    intro hend
    -- The next function is looked up through an entry that is gone.
    obtain rfl := hrest.of_end ((Activation.relink_end hlink).mpr hend)
    rw [runState_of_jump_end hidx hb hnow hend] at hagree
    exact hagree
  refine ⟨hjump, ?_⟩
  intro a'' c hlink' hc hnow'
  obtain rfl := Except.ok.inj (hlink.symm.trans hlink')
  by_contra hend
  -- A third function is owed, and not run.
  obtain ⟨d, hlinkc, hrestc⟩ :=
    hrest.of_jump (fun h => hjump ((Activation.relink_end hlink).mp h)) hc hnow'
  rw [runState_of_jump hb hnow hjump hlink, hc] at hagree
  cases r with
  | error e => exact hagree
  | ok r =>
      have hlt := hrestc.calls_lt fun h => hend ((Activation.relink_end hlinkc).mp h)
      obtain ⟨ba, -, rfl⟩ := Activation.relink_eq_ok hlinkc
      exact absurd (congrArg List.length (hagree.1.symm.trans c.calls_settle)) hlt.ne'

/-- A packet whose chain is short gets it. -/
theorem OneJump.agrees (hidx : cur < s.pktsBA.numBufs)
    (h : OneJump env (startPkt cur identity st s)) :
    ∃ r, Chain env (startPkt cur identity st s) r ∧
      Agrees identity (runState env cur identity st s) r := by
  obtain ⟨hstart, hjump⟩ := h
  cases hb : callFun env (startPkt cur identity st s) with
  | error e => exact ⟨_, .fault hstart hb, by rw [runState_of_error hb]; rfl⟩
  | ok b =>
      by_cases hnow : b.iface.immediateTransition = true
      · obtain ⟨hend, hlast⟩ := hjump b hb hnow
        obtain ⟨hlt, hid⟩ := callFun_startPkt hidx hb
        obtain ⟨a', hlink⟩ := relink_of_lt env hlt
        have hend' : a'.state.state ≠ a'.sys.sm.endStateID :=
          fun h => hend ((Activation.relink_end hlink).mp h)
        rw [runState_of_jump hb hnow hend hlink]
        cases hc : callFun env a' with
        | error e => exact ⟨_, .next hstart hb hnow hlink (.fault hend' hc), rfl⟩
        | ok c =>
            obtain ⟨hclt, hcid⟩ := callFun_relink hlt hlink hc
            have hsettle : Agrees identity (.ok c.settle) (.ok c) := by
              rw [← hid, ← hcid]
              exact .of_settle rfl rfl
            by_cases hnow' : c.iface.immediateTransition = true
            · obtain ⟨d, hlinkc⟩ := relink_of_lt env hclt
              have hover : Chain env d (.ok d) :=
                .ended ((Activation.relink_end hlinkc).mpr (hlast a' c hlink hc hnow'))
              obtain ⟨ba, -, rfl⟩ := Activation.relink_eq_ok hlinkc
              exact ⟨_, .next hstart hb hnow hlink (.next hend' hc hnow' hlinkc hover), hsettle⟩
            · exact ⟨_, .next hstart hb hnow hlink (.last hend' hc (by simpa using hnow')), hsettle⟩
      · have hnow' : b.iface.immediateTransition = false := by simpa using hnow
        exact ⟨_, .last hstart hb hnow', runState_of_last hidx hb hnow'⟩

end runState

/-- **A packet gets the functions that `transitionNow` asks for exactly if its chain is short.** -/
theorem runPkt_chain_iff [Inhabited D] {env : Env K P W} {cur : Nat} {s s₁ : Sys K P D W} {pkt : P}
    {identity : K} {st : State D} (hpkt : s.pktsBA.get cur = .ok pkt)
    (hid : env.identify pkt s.w = some identity)
    (hfound : (s.emit (.run cur)).findState identity = .ok (s₁, some st)) :
    (∃ r, Chain env (startPkt cur identity st s₁) r ∧ Agrees identity (runPkt env cur s) r) ↔
      OneJump env (startPkt cur identity st s₁) := by
  have hidx : cur < s₁.pktsBA.numBufs := by
    rw [(Sys.findState_found hfound).pktsBA]
    exact (List.getElem?_eq_some_iff.mp (BufArray.get_eq_ok hpkt)).1
  have hrun : runPkt env cur s = runState env cur identity st s₁ := by
    rw [runPkt_of_identified hpkt hid, hfound]
    rfl
  rw [hrun]
  constructor
  · rintro ⟨r, hchain, hagree⟩
    exact .of_agrees hidx hchain hagree
  · exact OneJump.agrees hidx

/-! ### Three functions in a row -/

/-- Packets are their connection's number. -/
def hopEnv : Env Nat Nat Unit where
  identify := fun p _ => some p
  clock := fun n => (n : Int)
  topRule := Timeout.firstRule
  ndebug := false

/-- The functions of the first two states go on to the next one at once, the third is the last. -/
def hopFun (state : StateID) : StateFun Nat Nat Unit := fun _ _ =>
  if state = 2 then .done else .transitionNow (state + 1) .done

/-- Connection 7 is in the first of three states, and a packet for it is there. -/
def hops (endStateID : StateID) : Sys Nat Nat Nat Unit where
  sm := { (((StateMachine.new.registerFunction 0 (hopFun 0)).registerFunction 1
    (hopFun 1)).registerFunction 2 (hopFun 2)).registerEndStateID endStateID with
      stateTable := Finmap.singleton 7 (State.new 0 0) }
  connPool := ∅
  pktsBA := (BufArray.new [7]).get BufArray.isSome_new_seven
  w := ()
  ticks := 0
  log := []

/-- The activation of the first function. -/
def hopped (endStateID : StateID) : Activation Nat Nat Nat Unit :=
  startPkt 0 7 (State.new 0 0) ((hops endStateID).emit (.run 0))

/-- Where the first function goes to the end state at once, the destructor is left with a
reference to an entry that is gone; where the second goes on to a third, that one is not run. -/
theorem hops_not_chained :
    (runPkt hopEnv 0 (hops 1) = .error .dangling ∧
      ¬ ∃ r, Chain hopEnv (hopped 1) r ∧ Agrees 7 (runPkt hopEnv 0 (hops 1)) r) ∧
    ¬ ∃ r, Chain hopEnv (hopped 3) r ∧ Agrees 7 (runPkt hopEnv 0 (hops 3)) r := by
  refine ⟨⟨rfl, ?_⟩, ?_⟩
  · rintro ⟨r, hchain, hagree⟩
    obtain ⟨-, hjump⟩ := OneJump.of_agrees (s := (hops 1).emit (.run 0)) (by decide) hchain hagree
    exact (hjump _ rfl rfl).1 rfl
  · rintro ⟨r, hchain, hagree⟩
    obtain ⟨-, hjump⟩ := OneJump.of_agrees (s := (hops 3).emit (.run 0)) (by decide) hchain hagree
    exact absurd ((hjump _ rfl rfl).2 _ _ rfl rfl rfl) (by decide)

/-- Where the second function goes to the end state, the packet gets its chain. -/
theorem runPkt_chain_iff_hops :
    ∃ r, Chain hopEnv (hopped 2) r ∧ Agrees 7 (runPkt hopEnv 0 (hops 2)) r := by
  have hpkt : (hops 2).pktsBA.get 0 = .ok 7 := rfl
  have hid : hopEnv.identify 7 (hops 2).w = some 7 := rfl
  have hfound : ((hops 2).emit (.run 0)).findState 7
      = .ok ((hops 2).emit (.run 0), some (State.new 0 0)) := rfl
  refine (runPkt_chain_iff hpkt hid hfound).mpr ⟨by decide, ?_⟩
  intro b hb _
  obtain rfl := (Except.ok.inj hb).symm
  refine ⟨by decide, ?_⟩
  intro a' c hlink hc _
  obtain rfl := (Except.ok.inj hlink).symm
  obtain rfl := (Except.ok.inj hc).symm
  rfl

end MoonState
