/-
Servers with their objects on the heap.

`Code.Tame` is code that, on this object and these packets, never deletes the object and
goes to certain states only.  On the heap it writes that one object and leaves the others
alone: `Code.Tame.exec`.  A machine all of whose functions are tame, where a condition on
the packets holds, keeps the objects in custody; so in every state it reaches they are
those of the tracked connections: `Servers.run_tracked`.
-/
import MoonState.Model.ServerObjects
import MoonState.Proofs.Objects

/-- Only the object `a` was written. -/
structure Arena.Only {A M V : Type*} (a : A) (x y : Arena A M V) : Prop where
  pool : y.pool = x.pool
  taken : y.taken = x.taken
  misused : y.misused = x.misused
  mem : ∀ b, b ≠ a → y.mem b = x.mem b

namespace Arena.Only

variable {A M V : Type*} {a : A} {x y z : Arena A M V}

theorem refl (x : Arena A M V) : Only a x x := ⟨rfl, rfl, rfl, fun _ _ => rfl⟩

theorem trans (h : Only a x y) (h' : Only a y z) : Only a x z where
  pool := h'.pool.trans h.pool
  taken := h'.taken.trans h.taken
  misused := h'.misused.trans h.misused
  mem := fun b hb => (h'.mem b hb).trans (h.mem b hb)

theorem write [DecidableEq A] (h : a ∈ x.taken) (v : V) : Only a x (x.write a v) where
  pool := rfl
  taken := rfl
  misused := by
    show (x.touch a).misused = x.misused
    rw [touch_of_mem h]
  mem := fun _ hb => write_mem_of_ne x v hb

theorem sound {Valid : M → Finset A → Prop} (h : Only a x y) (hx : x.Sound Valid) :
    y.Sound Valid := by
  refine ⟨?_, ?_⟩
  · rw [h.pool, h.taken]
    exact hx.valid
  · rw [h.misused]
    exact hx.fair

end Arena.Only

namespace MoonState

variable {K P B C A M : Type} [DecidableEq A] {alloc : Allocator A M}

/-! ### Code on the heap -/

namespace Code

/-- With this object and these packets, the code never deletes the object, and goes to these states
only. -/
def Tame (ok : StateID → Prop) : Code P (Ptr C) (Heap P B) → C → Heap P B → Prop
  | .done, _, _ => True
  | .throw, _, _ => True
  | .get k, c, h => ∀ st, st.stateData = .to c → (k st h).Tame ok c h
  | .put v h k, _, _ => ∃ c, v = .to c ∧ k.Tame ok c h
  | .freePkt k, c, h => k.Tame ok c h
  | .getPkt k, c, _ => ∀ p h, (k p).Tame ok c h
  | .transition n k, c, h => ok n ∧ k.Tame ok c h
  | .transitionNow n k, c, h => ok n ∧ k.Tame ok c h
  | .setTimeout _ _ k, c, h => k.Tame ok c h

/-- Code on the heap makes the calls it made. -/
theorem Within.onHeap {pw : Powers} {c : Code P (Ptr C) (Heap P B)} (h : c.Within pw) :
    (c.onHeap alloc).Within pw := by
  induction c with
  | done => exact h
  | throw => exact h
  | get k ih =>
      intro st w
      dsimp only
      split
      · exact ih _ _ (h _ _)
      · exact ih _ _ (h _ _)
  | put v w k ih =>
      intro st w
      dsimp only
      split
      · exact ih h
      · exact ih h
  | freePkt k ih => exact ih h
  | getPkt k ih => exact fun p => ih p (h p)
  | transition n k ih => exact ih h
  | transitionNow n k ih => exact ⟨h.1, ih h.2⟩
  | setTimeout t f k _ ih => exact ⟨h.1, ih h.2⟩

variable {env : Env K P (Placed P B C A M)} {a b : Activation K P (Option A) (Placed P B C A M)}
  {t : A}

/-- Reading the object, which is there. -/
theorem exec_reading {k : State (Ptr C) → Heap P B → Code P (Option A) (Placed P B C A M)}
    (hd : a.state.stateData = some t) (ht : t ∈ a.sys.w.rest.heap.taken) :
    exec env (reading k) a = exec env
      (k { a.state with stateData := .to (a.sys.w.rest.heap.mem t) } (Placed.packets a.sys.w)) a := by
  have hput : a.put (some t) ⟨a.sys.w.mem, a.sys.w.rest.heap.touch t, a.sys.w.rest.rest⟩ = a := by
    rw [Arena.touch_of_mem ht, ← hd]
    rfl
  simp only [reading, exec, hd, hput]

/-- Writing it. -/
theorem exec_writing {c : C} {h : Heap P B} {k : Code P (Option A) (Placed P B C A M)}
    (hd : a.state.stateData = some t) :
    exec env (writing alloc (.to c) h k) a
      = exec env k (a.put (some t) ⟨h.mem, a.sys.w.rest.heap.write t c, h.given⟩) := by
  simp only [writing, exec, hd]
  rfl

/-- **What tame code does on the heap.** -/
theorem Tame.exec {ok : StateID → Prop} {code : Code P (Ptr C) (Heap P B)}
    (hc : code.Tame ok (a.sys.w.rest.heap.mem t) (Placed.packets a.sys.w))
    (hcb : ∀ cb, a.sys.sm.getPktCB = some cb → ∀ w, (cb w).2.rest.heap = w.rest.heap)
    (hd : a.state.stateData = some t) (ht : t ∈ a.sys.w.rest.heap.taken) (hok : ok a.state.state)
    (h : exec env (code.onHeap alloc) a = .ok b) :
    b.state.stateData = some t ∧ ok b.state.state ∧
      a.sys.w.rest.heap.Only t b.sys.w.rest.heap := by
  induction code generalizing a with
  | done =>
      obtain rfl := Except.ok.inj h
      exact ⟨hd, hok, .refl _⟩
  | throw => simp [onHeap, MoonState.exec] at h
  | get k ih =>
      rw [onHeap, exec_reading hd ht] at h
      exact ih _ _ (hc _ rfl) hcb hd ht hok h
  | put v w k ih =>
      obtain ⟨c, rfl, hk⟩ := hc
      rw [onHeap, exec_writing hd] at h
      obtain ⟨hd', hok', honly⟩ := ih
        (a := a.put (some t) ⟨w.mem, a.sys.w.rest.heap.write t c, w.given⟩)
        (by simpa [Activation.put, Placed.packets] using hk) hcb rfl ht hok h
      exact ⟨hd', hok', (Arena.Only.write ht c).trans honly⟩
  | freePkt k ih => exact ih (a := a.freePkt) hc hcb hd ht hok h
  | getPkt k ih =>
      simp only [onHeap, MoonState.exec] at h
      split at h
      · simp at h
      · rename_i p a' hp
        obtain ⟨cb, ba, hsome, -, -, rfl⟩ := Activation.getPkt_eq_ok hp
        have hheap := hcb cb hsome a.sys.w
        have hrest := ih p (by simpa only [hheap] using hc p _) (by exact hcb) (by exact hd)
          (by rw [hheap]; exact ht) (by exact hok) h
        simpa only [hheap] using hrest
  | transition n k ih => exact ih (a := a.transition n) hc.2 hcb hd ht hc.1 h
  | transitionNow n k ih => exact ih (a := a.transitionNow n) hc.2 hcb hd ht hc.1 h
  | setTimeout d f k _ ih => exact ih (a := a.setTimeout env d _) hc hcb hd ht hok h

end Code

/-- The calls at the end of a function. -/
theorem Reply.tame_tail {r : Reply (Ptr C) B} {ok : StateID → Prop} {c : C} {h : Heap P B}
    (hok : ∀ n, r.newState = some n → ok n) : (r.tail : Code P (Ptr C) (Heap P B)).Tame ok c h := by
  unfold Reply.tail
  cases hn : r.newState with
  | none => cases r.free <;> trivial
  | some n => cases r.free <;> exact ⟨hok n hn, trivial⟩

/-! ### Machines on the heap -/

namespace StateMachine

omit [DecidableEq A] in
/-- No function ends a connection where the condition holds, or deletes its object. -/
structure Lasting (ok : StateID → Prop) (cond : StateID → C → B → Prop)
    (sm : StateMachine K P (Ptr C) (Heap P B)) : Prop where
  within : sm.Within ⟨True, False, False⟩
  factory : sm.startStateFun ≠ none
  start : ok sm.startStateID
  ends : ¬ ok sm.endStateID
  call : ∀ {n f}, sm.dispatch n = .ok f → ok n → ∀ {st p c h}, st.stateData = .to c →
    cond n c (h.mem p) → (f st p).Tame ok c h

variable {sm : StateMachine K P (Ptr C) (Heap P B)}

theorem dispatch_onHeap {n : StateID} {g : StateFun P (Option A) (Placed P B C A M)}
    (h : (sm.onHeap alloc).dispatch n = .ok g) :
    ∃ f, sm.dispatch n = .ok f ∧ g = onHeapFun alloc f := by
  unfold dispatch at h ⊢
  simp only [onHeap, List.length_map, List.getElem?_map] at h
  split at h
  · rename_i hle
    rw [if_pos hle]
    cases hget : sm.functions[n.toNat]? with
    | none => simp [hget] at h
    | some o =>
        cases o with
        | none => simp [hget] at h
        | some f =>
            simp only [hget, Option.map_some, Except.ok.injEq] at h
            exact ⟨f, rfl, h.symm⟩
  · simp at h

theorem Within.onHeap {pw : Powers} (h : sm.Within pw) : (sm.onHeap alloc).Within pw := by
  intro g hg st p
  simp only [StateMachine.onHeap, List.mem_map] at hg
  obtain ⟨o, ho, hmap⟩ := hg
  obtain ⟨f, rfl, rfl⟩ := Option.map_eq_some_iff.mp hmap
  intro st' w
  dsimp only
  split
  · exact (h f ho _ p).onHeap
  · exact (h f ho _ p).onHeap

/-- Custody of the objects, in these states. -/
abbrev trust (ok : StateID → Prop) (Valid : M → Finset A → Prop) :
    Trust Unit (Option A) (Store A M C Nat) :=
  Store.trust (fun _ n _ => ok n) Valid

/-- **A machine that ends no connection keeps the objects in custody.** -/
theorem Lasting.careful {ok : StateID → Prop} {cond : StateID → C → B → Prop}
    {Valid : M → Finset A → Prop} (hsm : sm.Lasting ok cond) (hal : alloc.Lawful Valid) :
    Careful (trust ok Valid) () (fun e pkt w => ∀ t, e.2 = some t → cond e.1 (w.heap.mem t) pkt)
      (sm.onHeap alloc) where
  within := hsm.within.onHeap
  timeoutsQ := rfl
  factory := by
    intro _
    obtain ⟨f, hf⟩ := Option.ne_none_iff_exists'.mp hsm.factory
    refine ⟨onHeapFactory alloc f, by simp [onHeap, hf], ?_⟩
    intro id w d w' hsane h
    unfold onHeapFactory at h
    split at h
    · rename_i c h' a heap _ hget
      simp only [Option.some.injEq, Prod.mk.injEq] at h
      obtain ⟨rfl, rfl⟩ := h
      exact ⟨Store.takes hal hsane hget c h'.given, a, rfl, hsm.start⟩
    · simp at h
  call := by
    intro env n g p a b hg hn hcb hsane hlive hfits hcond hexec
    obtain ⟨t, ht, hok⟩ := hfits
    have hd : a.state.stateData = some t := ht
    have htaken : t ∈ a.sys.w.rest.heap.taken := by
      rw [hd] at hlive
      exact Store.mem_live.mp hlive
    obtain ⟨f, hf, rfl⟩ := dispatch_onHeap hg
    have hread : ({ a.state with stateData := .to (a.sys.w.rest.heap.mem t) } :
        State (Ptr C)).stateData = .to (a.sys.w.rest.heap.mem t) := rfl
    have htame := hsm.call hf hok hread (h := Placed.packets a.sys.w) (hcond t hd)
    unfold onHeapFun at hexec
    rw [Code.exec_reading hd htaken] at hexec
    have hcb' : ∀ cb, a.sys.sm.getPktCB = some cb →
        ∀ w, (cb w).2.rest.heap = w.rest.heap := by
      intro cb hsome w
      rw [hcb] at hsome
      obtain ⟨cb', -, rfl⟩ := Option.map_eq_some_iff.mp hsome
      rfl
    obtain ⟨hd', hok', honly⟩ := htame.exec hcb' hd htaken (hn ▸ hok) hexec
    have hne : b.state.state ≠ (sm.onHeap alloc).endStateID := by
      intro hc
      rw [hc] at hok'
      exact hsm.ends hok'
    unfold State.entry
    rw [hd, hd']
    refine Trust.served_stay hne ?_ ⟨t, rfl, hok'⟩
    refine Store.trades_of (some t) (some t) (honly.sound hsane) ?_ (by simp) ?_
    · intro s
      rw [honly.taken]
      by_cases hs : t = s
      · simp [← hs, htaken]
      · simp [hs]
    · intro s _ hs
      exact honly.mem s (by simpa [eq_comm] using hs)

end StateMachine

/-! ### Runs -/

namespace Servers

variable {ι κ : Type} [DecidableEq ι] [DecidableEq κ] [DecidableEq K]

omit [DecidableEq A] [DecidableEq ι] [DecidableEq κ] in
/-- **The objects are those of the tracked connections, one each.** -/
structure Tracked (x : Fleet ι κ K P (Option A) B (Store A M C Nat)) : Prop where
  /-- those that were made and not released -/
  live_iff : ∀ a, a ∈ x.w.rest.heap.taken ↔ ∃ q st, x.entries q = some st ∧ st.stateData = some a
  object : ∀ {q st}, x.entries q = some st → ∃ a, st.stateData = some a
  /-- no two connections have the same -/
  inj : ∀ {q q' st st'}, x.entries q = some st → x.entries q' = some st' →
    st.stateData = st'.stateData → q = q'
  /-- none was used or released after it had been released -/
  fair : x.w.rest.heap.misused = false

variable {sm : StateMachine K P (Ptr C) (Heap P B)} {ok : StateID → Prop}
  {cond : StateID → C → B → Prop} {Valid : M → Finset A → Prop} {pl : Service.Platform}
  {ident : B → Option K} {poolOf : ι → κ} {m : M} {mem : A → C} {pkts : Heap P B}
  {x : Fleet ι κ K P (Option A) B (Store A M C Nat)}

/-- **In every state such machines reach** while the condition holds. -/
theorem run_tracked (hsm : sm.Lasting ok cond) (hal : alloc.Lawful Valid) (hm : Valid m ∅)
    (hrun : Steps (DoesWhen pl ident poolOf cond) (start alloc sm m mem pkts) x) : Tracked x := by
  have hrun' : Steps (Fleet.Does (env pl ident) poolOf fun y a => Can a ∧
      y.Meets (env pl ident) poolOf
        (fun _ e pkt w => ∀ t, e.2 = some t → cond e.1 (w.heap.mem t) pkt) a)
      (start alloc sm m mem pkts) x := by
    refine hrun.mono ?_
    intro y a z h
    exact ⟨⟨h.1.1, h.2⟩, h.1.2⟩
  have hguarded : Fleet.Guarded (StateMachine.trust ok Valid) (fun _ : ι => sm.onHeap alloc)
      (fun _ => ()) (fun _ => ()) x := by
    have hsane : (StateMachine.trust ok Valid).sane ⟨.new m mem, pkts.given⟩ :=
      Arena.new_sound hm mem
    have hlive : ∀ d, d ∉ (StateMachine.trust ok Valid).live ⟨.new m mem, pkts.given⟩ := by
      simp [Store.trust, Arena.new]
    refine Fleet.guarded _ rfl (fun _ => hsm.careful hal) (fun _ => rfl) hsane hlive
      (fun _ => rfl) ?_ hrun'
    intro y a ha
    refine ⟨?_, ha.2⟩
    cases a with
    | arrive mem => trivial
    | process i ba => trivial
    | connect i id state create ba => exact ha.1.elim
    | between f => exact fun hsane => Store.still hsane (ha.1 y.w.rest)
  constructor
  case live_iff =>
    intro a
    have hlive : some a ∈ (StateMachine.trust ok Valid).live x.w.rest ↔ _ :=
      hguarded.holds.live_iff (some a)
    rwa [Store.mem_live] at hlive
  case object =>
    intro q st hst
    obtain ⟨a, ha, -⟩ := hguarded.holds.fits hst
    exact ⟨a, ha⟩
  case inj => exact hguarded.holds.inj
  case fair => exact hguarded.holds.sane.fair

end Servers

end MoonState
