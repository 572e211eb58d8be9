/-
The objects of HelloBye and HelloBye2 have the class of their state.

`Store.trust` is custody of objects on a heap, each of which is as the state of its
connection needs it.  `Store.run_served` says what a `run` must do for that at its
end: where the connection goes on leave an object the new state needs, and delete
it where the connection ends.

The classes of HelloBye2 all do.  In HelloBye a server's `Bye` does not delete its
object, and a client's `Hello` leaves its own object to the state `Bye`; so there it
takes that no server gets a packet for a connection in `Bye`, and that no client
opens a connection.
-/
import MoonState.Model.Objects
import MoonState.Proofs.Fleet

namespace MoonState

/-- What is left of an object when the connection goes to the state `n`, or ends. -/
def Finish.Proper {V : Type} (need : StateID → V → Prop) (endStateID n : StateID) (v : V) :
    Finish V → Prop
  | .keep => n ≠ endStateID ∧ need n v
  | .convert v' => n ≠ endStateID ∧ need n v'
  | .delete => n = endStateID

namespace Finish

variable {T V B R : Type} {need : StateID → V → Prop} {next endStateID n : StateID} {v : V}
  {a : Answer T B R} {f : Finish V}

/-- The function goes on to `next`, or ends. -/
theorem converts_proper {make : T → Option V}
    (hgoes : a.newState = some next ∨ a.newState = some endStateID) (hne : next ≠ endStateID)
    (hneed : ∀ b, make a.stateData = some b → need next b)
    (hf : converts next endStateID make a.newState a.stateData = some f) :
    f.Proper need endStateID (a.newState.getD n) v := by
  unfold converts at hf
  rcases hgoes with hgoes | hgoes
  · rw [hgoes] at hf ⊢
    rw [if_pos rfl] at hf
    obtain ⟨b, hb, rfl⟩ := Option.map_eq_some_iff.mp hf
    exact ⟨hne, hneed b hb⟩
  · rw [hgoes] at hf ⊢
    rw [if_neg (by simpa [eq_comm] using hne), if_pos rfl] at hf
    obtain rfl := Option.some.inj hf
    rfl

/-- The function ends. -/
theorem deletes_proper (hgoes : a.newState = some endStateID)
    (hf : deletes endStateID a.newState a.stateData = some f) :
    f.Proper need endStateID (a.newState.getD n) v := by
  unfold deletes at hf
  rw [hgoes] at hf ⊢
  rw [if_pos rfl] at hf
  obtain rfl := Option.some.inj hf
  rfl

end Finish

namespace Store

variable {ρ A M V R T : Type} [DecidableEq A] {alloc : Allocator A M} {Valid : M → Finset A → Prop}
  {need : ρ → StateID → V → Prop}

/-- Custody of the objects on a heap. -/
def trust (need : ρ → StateID → V → Prop) (Valid : M → Finset A → Prop) :
    Trust ρ (Option A) (Store A M V R) where
  object := Prod.snd
  live := fun w => {d | ∃ a ∈ w.heap.taken, d = some a}
  sane := fun w => w.heap.Sound Valid
  fits := fun r e w => ∃ a, e.2 = some a ∧ need r e.1 (w.heap.mem a)

variable {w w' : Store A M V R} {t : A}

omit [DecidableEq A] in
theorem mem_live : some t ∈ (trust need Valid).live w ↔ t ∈ w.heap.taken := by
  simp [trust]

omit [DecidableEq A] in
/-- The objects that were taken and given back, and those that hold what they held. -/
theorem trades_of (gone come : Option A) (hsound : w'.heap.Sound Valid)
    (htaken : ∀ a, a ∈ w'.heap.taken ↔ come = some a ∨ (a ∈ w.heap.taken ∧ gone ≠ some a))
    (hfresh : ∀ a, come = some a → a ∈ w.heap.taken → gone = some a)
    (hmem : ∀ a, a ∈ w.heap.taken → gone ≠ some a → w'.heap.mem a = w.heap.mem a) :
    (trust need Valid).Trades (gone.map some) (come.map some) w w' := by
  have hmap : ∀ (o : Option A) a, o.map some = some (some a) ↔ o = some a := by
    intro o a
    cases o <;> simp
  have hnone : ∀ o : Option A, o.map some ≠ some none := by
    intro o
    cases o <;> simp
  refine ⟨hsound, ?_, ?_, ?_⟩
  · intro d
    cases d with
    | none => simp [trust, hnone]
    | some a => rw [mem_live, mem_live, htaken, hmap, ne_eq, ne_eq, hmap]
  · intro d hd hlive
    cases d with
    | none => exact absurd hd (hnone come)
    | some a =>
        rw [hmap] at hd ⊢
        exact hfresh a hd (mem_live.mp hlive)
  · intro r e hlive hne hfits
    obtain ⟨a, ha, hneed⟩ := hfits
    have hobject : (trust need Valid : Trust ρ (Option A) (Store A M V R)).object e = some a := ha
    rw [hobject] at hlive hne
    refine ⟨a, ha, ?_⟩
    rw [hmem a (mem_live.mp hlive) ((hmap gone a).not.mp hne)]
    exact hneed

theorem writes (hw : w.heap.Sound Valid) (ht : t ∈ w.heap.taken) (v : V) (rest : R) :
    (trust need Valid).Trades (some (some t)) (some (some t)) w ⟨w.heap.write t v, rest⟩ := by
  apply trades_of (some t) (some t) (hw.write ht v)
  · intro a
    by_cases ha : t = a
    · simp [← ha, ht]
    · simp [ha]
  · simp
  · intro a _ hne
    exact Arena.write_mem_of_ne _ _ (by simpa [eq_comm] using hne)

theorem deletes (hal : alloc.Lawful Valid) (hw : w.heap.Sound Valid) (ht : t ∈ w.heap.taken)
    (rest : R) : (trust need Valid).Trades (some (some t)) none w ⟨w.heap.put alloc t, rest⟩ := by
  apply trades_of (some t) none (hw.put hal ht)
  · intro a
    simp [and_comm, eq_comm]
  · simp
  · intro a _ _
    rfl

/-- A new object, written by its constructor. -/
theorem takes (hal : alloc.Lawful Valid) (hw : w.heap.Sound Valid) {heap : Arena A M V}
    (hget : w.heap.get alloc = some (t, heap)) (v : V) (rest : R) :
    (trust need Valid).Trades none (some (some t)) w ⟨heap.write t v, rest⟩ := by
  obtain ⟨hnew, hsound, htaken, hmem⟩ := hw.get hal hget
  apply trades_of none (some t) (hsound.write (by simp [htaken]) v)
  · intro a
    simp [htaken, eq_comm]
  · intro a ha hold
    obtain rfl := Option.some.inj ha
    exact absurd hold hnew
  · intro a hold _
    have hne : a ≠ t := by
      rintro rfl
      exact hnew hold
    rw [← hmem]
    exact Arena.write_mem_of_ne _ _ hne

/-- A new object in the place of another. -/
theorem replaces (hal : alloc.Lawful Valid) (hw : w.heap.Sound Valid) (ht : t ∈ w.heap.taken)
    {heap : Arena A M V} {t' : A} (hget : w.heap.get alloc = some (t', heap)) (v : V) (rest : R) :
    (trust need Valid).Trades (some (some t)) (some (some t')) w
      ⟨(heap.write t' v).put alloc t, rest⟩ := by
  obtain ⟨hnew, hsound, htaken, hmem⟩ := hw.get hal hget
  have hne : t ≠ t' := by
    rintro rfl
    exact hnew ht
  have hboth : t ∈ (heap.write t' v).taken := by simp [htaken, ht]
  apply trades_of (some t) (some t')
    ((hsound.write (by simp [htaken]) v).put hal hboth)
  · intro a
    simp only [Arena.put_taken, Arena.write_taken, htaken, Finset.mem_erase, Finset.mem_insert,
      ne_eq, Option.some.injEq]
    constructor
    · intro h
      rcases h.2 with rfl | hold
      · exact Or.inl rfl
      · exact Or.inr ⟨hold, Ne.symm h.1⟩
    · intro h
      rcases h with rfl | h
      · exact ⟨Ne.symm hne, Or.inl rfl⟩
      · exact ⟨Ne.symm h.2, Or.inr h.1⟩
  · intro a ha hold
    obtain rfl := Option.some.inj ha
    exact absurd hold hnew
  · intro a hold _
    have hne' : a ≠ t' := by
      rintro rfl
      exact hnew hold
    rw [← hmem]
    exact Arena.write_mem_of_ne _ _ hne'

omit [DecidableEq A] in
/-- The heap is left alone. -/
theorem still (hw : w.heap.Sound Valid) (h : w'.heap = w.heap) :
    (trust need Valid).Trades none none w w' := by
  apply trades_of none none
  · rw [h]
    exact hw
  · intro a
    simp [h]
  · simp
  · intro a _ _
    rw [h]

/-- What a factory, or a `connect`, does. -/
theorem create_trades (hal : alloc.Lawful Valid) (hw : w.heap.Sound Valid) {make : R → V × R}
    {d : Option A} (h : create alloc make w = some (d, w')) :
    (trust need Valid).Trades none (some d) w w' ∧
      ∃ a, d = some a ∧ w'.heap.mem a = (make w.rest).1 := by
  unfold create at h
  cases hget : w.heap.get alloc with
  | none => simp [hget] at h
  | some x =>
      obtain ⟨a, heap⟩ := x
      simp only [hget, Option.some.injEq, Prod.mk.injEq] at h
      obtain ⟨rfl, rfl⟩ := h
      exact ⟨takes hal hw hget _ _, a, rfl, by simp⟩

/-- **A `run` does to its object what it may**, if at its end it leaves one that is needed. -/
theorem run_served (hal : alloc.Lawful Valid) {r : ρ} {n endStateID : StateID} {cast : V → Option T}
    {back : V → T → V} {func : T → Packet → R → Option (Answer T Packet R)}
    {finish : Option StateID → T → Option (Finish V)}
    (hproper : ∀ {v this pkt rest a f}, need r n v → cast v = some this →
      func this pkt rest = some a → finish a.newState a.stateData = some f →
        f.Proper (need r) endStateID (a.newState.getD n) (back v a.stateData))
    (hw : w.heap.Sound Valid) (ht : t ∈ w.heap.taken) (hneed : need r n (w.heap.mem t)) {pkt : Packet}
    {o : Answer (Option A) Packet (Store A M V R)}
    (h : run alloc cast back func finish (some t) pkt w = some o) :
    (trust need Valid).Served r endStateID (some t) w (o.newState.getD n, o.stateData) o.rest := by
  simp only [run] at h
  cases hcast : cast (w.heap.mem t) with
  | none => simp [hcast] at h
  | some this =>
      cases hfunc : func this pkt w.rest with
      | none => simp [hcast, hfunc] at h
      | some a =>
          cases hfinish : finish a.newState a.stateData with
          | none => simp [hcast, hfunc, hfinish] at h
          | some f =>
              have hend := hproper hneed hcast hfunc hfinish
              have htaken : t ∈ (w.heap.write t (back (w.heap.mem t) a.stateData)).taken := ht
              have hwrites : (trust need Valid).Trades (some (some t)) (some (some t)) w _ :=
                writes hw ht (back (w.heap.mem t) a.stateData) a.rest
              have hsound := hwrites.sane
              cases f with
              | keep =>
                  simp only [hcast, hfunc, hfinish, Option.some.injEq] at h
                  obtain rfl := h
                  obtain ⟨hne, hfits⟩ := hend
                  refine Trust.served_stay hne hwrites ⟨t, rfl, ?_⟩
                  simpa using hfits
              | delete =>
                  simp only [hcast, hfunc, hfinish, Option.some.injEq] at h
                  obtain rfl := h
                  have hn : a.newState.getD n = endStateID := hend
                  rw [hn]
                  exact Trust.served_end (hwrites.trans (deletes hal hsound htaken a.rest))
              | convert v =>
                  cases hget : (w.heap.write t (back (w.heap.mem t) a.stateData)).get alloc with
                  | none => simp [hcast, hfunc, hfinish, hget] at h
                  | some x =>
                      obtain ⟨t', heap⟩ := x
                      simp only [hcast, hfunc, hfinish, hget, Option.some.injEq] at h
                      obtain rfl := h
                      obtain ⟨hne, hfits⟩ := hend
                      refine Trust.served_stay hne
                        (hwrites.trans (replaces hal hsound htaken hget v a.rest)) ⟨t', rfl, ?_⟩
                      simpa using hfits

end Store

/-! ### Classes -/

theorem registered_server {n : StateID} {c : Class} (h : (registered .server)[n.toNat]? = some c) :
    (n = 0 ∧ c = .serverHello) ∨ (n = 1 ∧ c = .serverBye) := by
  have hlt : n.toNat < 2 := (List.getElem?_eq_some_iff.mp h).1
  have hn : n.toNat = 0 ∨ n.toNat = 1 := by omega
  rcases hn with hn | hn
  · rw [hn] at h
    exact Or.inl ⟨UInt16.toNat_inj.mp hn, (Option.some.inj h).symm⟩
  · rw [hn] at h
    exact Or.inr ⟨UInt16.toNat_inj.mp hn, (Option.some.inj h).symm⟩

theorem registered_client {n : StateID} {c : Class} (h : (registered .client)[n.toNat]? = some c) :
    (n = 0 ∧ c = .clientHello) ∨ (n = 1 ∧ c = .clientBye) ∨ (n = 2 ∧ c = .clientRecvBye) := by
  have hlt : n.toNat < 3 := (List.getElem?_eq_some_iff.mp h).1
  have hn : n.toNat = 0 ∨ n.toNat = 1 ∨ n.toNat = 2 := by omega
  rcases hn with hn | hn | hn
  · rw [hn] at h
    exact Or.inl ⟨UInt16.toNat_inj.mp hn, (Option.some.inj h).symm⟩
  · rw [hn] at h
    exact Or.inr (Or.inl ⟨UInt16.toNat_inj.mp hn, (Option.some.inj h).symm⟩)
  · rw [hn] at h
    exact Or.inr (Or.inr ⟨UInt16.toNat_inj.mp hn, (Option.some.inj h).symm⟩)

/-- The object is of the class whose `run` is registered for the state. -/
def OfClass {V : Type} (classOf : V → Class) (role : Role) (n : StateID) (v : V) : Prop :=
  (registered role)[n.toNat]? = some (classOf v)

/-- **Each connection has a live object of the class of its state, and no object is left over.** -/
structure Classed {ι κ K P A M V R : Type} [DecidableEq K] (S : Deployment ι κ) (classOf : V → Class)
    (x : Fleet ι κ K P (Option A) Packet (Store A M V R)) : Prop where
  /-- the objects that were made and not deleted are those of the connections -/
  live_iff : ∀ a, a ∈ x.w.rest.heap.taken ↔ ∃ q st, x.entries q = some st ∧ st.stateData = some a
  /-- no two connections have the same -/
  inj : ∀ {q q' st st'}, x.entries q = some st → x.entries q' = some st' →
    st.stateData = st'.stateData → q = q'
  /-- none was used or deleted after it had been deleted -/
  fair : x.w.rest.heap.misused = false
  classed : ∀ {i id st}, x.entries (.inl i, id) = some st ∨
    x.entries (.inr (S.poolOf i), id) = some st →
      ∃ a, st.stateData = some a ∧ a ∈ x.w.rest.heap.taken ∧
        OfClass classOf (S.role i) st.state (x.w.rest.heap.mem a)

/-- What custody says of a heap. -/
theorem classed_of_guarded {ι κ K P A M V R : Type} [DecidableEq A] [DecidableEq K]
    {S : Deployment ι κ} {classOf : V → Class} {Valid : M → Finset A → Prop}
    {service : Role → Service K (Option A) Packet (Store A M V R)} [DecidableEq P] {poolRole : κ → Role}
    {x : Fleet ι κ K P (Option A) Packet (Store A M V R)}
    (hpool : ∀ i, poolRole (S.poolOf i) = S.role i)
    (h : Fleet.Guarded (Store.trust (OfClass classOf) Valid)
      (fun i => (service (S.role i)).machine) S.role poolRole x) : Classed S classOf x where
  live_iff := by
    intro a
    have hlive : some a ∈ (Store.trust (OfClass classOf) Valid).live x.w.rest ↔ _ :=
      h.holds.live_iff (some a)
    rwa [Store.mem_live] at hlive
  inj := h.holds.inj
  fair := h.holds.sane.fair
  classed := by
    intro i id st hst
    have hfits : (Store.trust (OfClass classOf) Valid).fits (S.role i) st.entry x.w.rest := by
      rcases hst with hst | hst
      · exact h.holds.fits hst
      · rw [← hpool i]
        exact h.holds.fits hst
    have hlive : st.stateData ∈ (Store.trust (OfClass classOf) Valid).live x.w.rest := by
      rcases hst with hst | hst <;> exact h.holds.mem_live hst
    obtain ⟨a, ha, hclass⟩ := hfits
    have ha' : st.stateData = some a := ha
    rw [ha'] at hlive
    exact ⟨a, ha', Store.mem_live.mp hlive, hclass⟩

/-! ### HelloBye2 -/

namespace HelloBye2

open MoonState.Server MoonState.Client

theorem Server.Hello.func_newState (this : Server.Hello) (pkt : Packet) (r : Rand) :
    (this.func pkt r).newState = some Server.States.Bye ∨
      (this.func pkt r).newState = some Server.States.Terminate := by
  unfold Server.Hello.func
  dsimp only
  split
  · exact Or.inr rfl
  · split
    · exact Or.inr rfl
    · exact Or.inl rfl

theorem Server.Bye.func_newState (this : Server.Bye) (pkt : Packet) (r : Rand) :
    (this.func pkt r).newState = some Server.States.Terminate := by
  unfold Server.Bye.func
  dsimp only
  split
  · rfl
  · split <;> rfl

theorem Client.Bye.func_newState (this : Client.Bye) (pkt : Packet) (r : Rand) :
    (this.func pkt r).newState = some Client.States.RecvBye ∨
      (this.func pkt r).newState = some Client.States.Terminate := by
  unfold Client.Bye.func
  dsimp only
  split
  · exact Or.inr rfl
  · exact Or.inl rfl

theorem Client.RecvBye.func_newState (this : Client.RecvBye) (pkt : Packet) (r : Rand) :
    (this.func pkt r).newState = some Client.States.Terminate := by
  unfold Client.RecvBye.func
  dsimp only
  split
  · rfl
  · split <;> rfl

namespace Objects

variable {A M : Type} [DecidableEq A] {alloc : Allocator A M} {Valid : M → Finset A → Prop}

/-- Custody of the objects of HelloBye2. -/
abbrev trust (Valid : M → Finset A → Prop) : Trust Role (Option A) (Heap A M) :=
  Store.trust (OfClass Object.class) Valid

section functions

variable (hal : alloc.Lawful Valid) {w : Heap A M} (hw : w.heap.Sound Valid) {t : A}
  (ht : t ∈ w.heap.taken) {pkt : Packet} {o : Answer (Option A) Packet (Heap A M)}

include hal hw ht

theorem Server.runHello_served (hclass : OfClass Object.class .server Server.States.Hello
      (w.heap.mem t)) (h : Server.runHello alloc (some t) pkt w = some o) :
    (trust Valid).Served .server Server.States.Terminate (some t) w
      (o.newState.getD Server.States.Hello, o.stateData) o.rest := by
  refine Store.run_served hal ?_ hw ht hclass h
  intro v this pkt rest a f _ _ hfunc hfinish
  obtain rfl := Option.some.inj hfunc
  refine Finish.converts_proper (this.func_newState pkt rest.rnd) (by decide) ?_ hfinish
  intro b hb
  obtain ⟨b', -, rfl⟩ := Option.map_eq_some_iff.mp hb
  rfl

theorem Server.runBye_served (hclass : OfClass Object.class .server Server.States.Bye
      (w.heap.mem t)) (h : Server.runBye alloc (some t) pkt w = some o) :
    (trust Valid).Served .server Server.States.Terminate (some t) w
      (o.newState.getD Server.States.Bye, o.stateData) o.rest := by
  refine Store.run_served hal ?_ hw ht hclass h
  intro v this pkt rest a f _ _ hfunc hfinish
  obtain rfl := Option.some.inj hfunc
  exact Finish.deletes_proper (this.func_newState pkt rest.rnd) hfinish

theorem Client.runHello_served (hclass : OfClass Object.class .client Client.States.Hello
      (w.heap.mem t)) (h : Client.runHello alloc (some t) pkt w = some o) :
    (trust Valid).Served .client Client.States.Terminate (some t) w
      (o.newState.getD Client.States.Hello, o.stateData) o.rest := by
  refine Store.run_served hal ?_ hw ht hclass h
  intro v this pkt rest a f _ _ hfunc hfinish
  obtain rfl := Option.some.inj hfunc
  refine Finish.converts_proper (Or.inl rfl) (by decide) ?_ hfinish
  intro b hb
  obtain rfl := Option.some.inj hb
  rfl

theorem Client.runBye_served (hclass : OfClass Object.class .client Client.States.Bye
      (w.heap.mem t)) (h : Client.runBye alloc (some t) pkt w = some o) :
    (trust Valid).Served .client Client.States.Terminate (some t) w
      (o.newState.getD Client.States.Bye, o.stateData) o.rest := by
  refine Store.run_served hal ?_ hw ht hclass h
  intro v this pkt rest a f _ _ hfunc hfinish
  obtain rfl := Option.some.inj hfunc
  refine Finish.converts_proper (this.func_newState pkt rest.rnd) (by decide) ?_ hfinish
  intro b hb
  obtain ⟨b', -, rfl⟩ := Option.map_eq_some_iff.mp hb
  rfl

theorem Client.runRecvBye_served (hclass : OfClass Object.class .client Client.States.RecvBye
      (w.heap.mem t)) (h : Client.runRecvBye alloc (some t) pkt w = some o) :
    (trust Valid).Served .client Client.States.Terminate (some t) w
      (o.newState.getD Client.States.RecvBye, o.stateData) o.rest := by
  refine Store.run_served hal ?_ hw ht hclass h
  intro v this pkt rest a f _ _ hfunc hfinish
  obtain rfl := Option.some.inj hfunc
  exact Finish.deletes_proper (this.func_newState pkt rest.rnd) hfinish

end functions

/-- Servers and clients keep to it. -/
theorem service_careful (hal : alloc.Lawful Valid) (role : Role) :
    (service alloc role).Careful (trust Valid) role fun _ _ _ => True where
  factory := by
    intro hlisten
    cases role with
    | client => simp [service, Client.service] at hlisten
    | server =>
        refine ⟨_, rfl, ?_⟩
        intro id w d w' hsane h
        obtain ⟨htrades, a, ha, hmem⟩ := Store.create_trades hal hsane h
        refine ⟨htrades, a, ha, ?_⟩
        rw [hmem]
        rfl
  answers := by
    intro n d w pkt o hkeeps _ ho
    obtain ⟨t, ht, hclass⟩ := hkeeps.fits
    obtain rfl : d = some t := ht
    have hlive := Store.mem_live.mp hkeeps.live
    cases role with
    | server =>
        rcases registered_server hclass with ⟨rfl, -⟩ | ⟨rfl, -⟩
        · exact Server.runHello_served hal hkeeps.sane hlive hclass ho
        · exact Server.runBye_served hal hkeeps.sane hlive hclass ho
    | client =>
        rcases registered_client hclass with ⟨rfl, -⟩ | ⟨rfl, -⟩ | ⟨rfl, -⟩
        · exact Client.runHello_served hal hkeeps.sane hlive hclass ho
        · exact Client.runBye_served hal hkeeps.sane hlive hclass ho
        · exact Client.runRecvBye_served hal hkeeps.sane hlive hclass ho

variable {ι κ P : Type} [DecidableEq ι] [DecidableEq κ] [DecidableEq P]

variable (alloc) in
/-- What a program of HelloBye2 can do.  A connection is opened by a client, under an ident that is
not in its pool. -/
def Can (S : Deployment ι κ) (x : Fleet ι κ UInt64 P (Option A) Packet (Heap A M)) :
    Fleet.Act ι UInt64 P (Option A) Packet (Heap A M) → Prop
  | .arrive _ => True
  | .process _ _ => True
  | .connect i ident state create _ => S.role i = .client ∧
    (x.connPool (S.poolOf i)).lookup ident = none ∧ state = Client.States.Hello ∧
    ∃ dstIp srcPort, create = Client.create alloc dstIp srcPort ident
  | .between f => ∀ w, (f w).heap = w.heap

variable (alloc) in
/-- One step of it. -/
def Does (S : Deployment ι κ) (x : Fleet ι κ UInt64 P (Option A) Packet (Heap A M))
    (a : Fleet.Act ι UInt64 P (Option A) Packet (Heap A M))
    (y : Fleet ι κ UInt64 P (Option A) Packet (Heap A M)) : Prop :=
  Fleet.Does (S.env identify) S.poolOf (Can alloc S) x a y

omit [DecidableEq ι] [DecidableEq κ] [DecidableEq P] in
theorem Can.opens (hal : alloc.Lawful Valid) {S : Deployment ι κ}
    {x : Fleet ι κ UInt64 P (Option A) Packet (Heap A M)}
    {a : Fleet.Act ι UInt64 P (Option A) Packet (Heap A M)} (h : Can alloc S x a) :
    Fleet.Opens (trust Valid) S.role S.poolOf x a := by
  cases a with
  | arrive mem => trivial
  | process i ba => trivial
  | between f => exact fun hsane => Store.still hsane (h x.w.rest)
  | connect i ident state create ba =>
      obtain ⟨hrole, hfree, rfl, dstIp, srcPort, rfl⟩ := h
      refine ⟨hfree, ?_⟩
      intro d w hsane hd
      obtain ⟨htrades, a, ha, hmem⟩ := Store.create_trades hal hsane hd
      refine ⟨htrades, a, ha, ?_⟩
      rw [hrole, hmem]
      rfl

theorem run_classed (hal : alloc.Lawful Valid) {S : Deployment ι κ} (hapart : S.Apart) {m : M}
    (hm : Valid m ∅) {mem : A → Object} {pkts : P → Packet} {prog : Program}
    {x : Fleet ι κ UInt64 P (Option A) Packet (Heap A M)}
    (hrun : Steps (Does alloc S) (S.start (service alloc) ⟨pkts, .new m mem, prog⟩) x) :
    Classed S Object.class x := by
  have hsane : (trust Valid).sane ⟨.new m mem, prog⟩ := Arena.new_sound hm mem
  have hlive : ∀ d, d ∉ (trust Valid).live ⟨.new m mem, prog⟩ := by simp [Store.trust, Arena.new]
  obtain ⟨poolRole, hpool, hguarded⟩ := hapart.guarded (fun _ _ _ _ => True) rfl
    (service_careful hal) hsane hlive
    (fun y a ha => ⟨ha.opens hal, Fleet.meets_of_forall (fun _ _ _ _ => trivial) a⟩) hrun
  exact classed_of_guarded hpool hguarded

end Objects

end HelloBye2

/-! ### HelloBye -/

namespace HelloBye

theorem HelloByeServerHello.func_newState (this : HelloByeServerHello) (pkt : Packet) (w : Program) :
    (this.func pkt w).newState = some HelloByeServer.Bye ∨
      (this.func pkt w).newState = some HelloByeServer.Terminate := by
  unfold HelloByeServerHello.func
  dsimp only
  split
  · exact Or.inr rfl
  · exact Or.inl rfl

namespace Objects

open IPv4_5TupleL2Ident

variable {A M : Type} [DecidableEq A] {alloc : Allocator A M} {Valid : M → Finset A → Prop}

/-- Custody of the objects of HelloBye. -/
abbrev trust (Valid : M → Finset A → Prop) : Trust Role (Option A) (Heap A M) :=
  Store.trust (OfClass Object.class) Valid

theorem Server.runHello_served (hal : alloc.Lawful Valid) {w : Heap A M} (hw : w.heap.Sound Valid)
    {t : A} (ht : t ∈ w.heap.taken)
    (hclass : OfClass Object.class .server HelloByeServer.Hello (w.heap.mem t)) {pkt : Packet}
    {o : Answer (Option A) Packet (Heap A M)} (h : Server.runHello alloc (some t) pkt w = some o) :
    (trust Valid).Served .server HelloByeServer.Terminate (some t) w
      (o.newState.getD HelloByeServer.Hello, o.stateData) o.rest := by
  refine Store.run_served hal ?_ hw ht hclass h
  intro v this pkt rest a f _ _ hfunc hfinish
  obtain rfl := Option.some.inj hfunc
  refine Finish.converts_proper (this.func_newState pkt rest) (by decide) ?_ hfinish
  intro b hb
  obtain ⟨b', -, rfl⟩ := Option.map_eq_some_iff.mp hb
  rfl

/-- No function of a client is called, and none of a server in the state `Bye`. -/
def calm (role : Role) : When (Option A) Packet (Heap A M) := fun e _ _ =>
  role = .server ∧ e.1 ≠ HelloByeServer.Bye

/-- Servers keep to it before `Bye`. -/
theorem service_careful (hal : alloc.Lawful Valid) (role : Role) :
    (service alloc role).Careful (trust Valid) role (calm role) where
  factory := by
    intro hlisten
    cases role with
    | client => simp [service, Client.service] at hlisten
    | server =>
        refine ⟨_, rfl, ?_⟩
        intro id w d w' hsane h
        obtain ⟨htrades, a, ha, hmem⟩ := Store.create_trades hal hsane h
        refine ⟨htrades, a, ha, ?_⟩
        rw [hmem]
        rfl
  answers := by
    intro n d w pkt o hkeeps hcalm ho
    obtain ⟨rfl, hne⟩ := hcalm
    obtain ⟨t, ht, hclass⟩ := hkeeps.fits
    obtain rfl : d = some t := ht
    have hlive := Store.mem_live.mp hkeeps.live
    rcases registered_server hclass with ⟨rfl, -⟩ | ⟨rfl, -⟩
    · exact Server.runHello_served hal hkeeps.sane hlive hclass ho
    · exact absurd rfl hne

variable {ι κ P : Type} [DecidableEq ι] [DecidableEq κ] [DecidableEq P]

variable (alloc) in
/-- What a program of HelloBye can do.  A connection is opened by a client, under an ID that is
not in its pool. -/
def Can (S : Deployment ι κ) (x : Fleet ι κ ConnectionID P (Option A) Packet (Heap A M)) :
    Fleet.Act ι ConnectionID P (Option A) Packet (Heap A M) → Prop
  | .arrive _ => True
  | .process _ _ => True
  | .connect i id state create _ => S.role i = .client ∧
    (x.connPool (S.poolOf i)).lookup id = none ∧ state = HelloByeClient.Hello ∧
    ∃ config dstIP srcPort, x.w.rest.rest.config = some config ∧
      id = Client.cID config dstIP srcPort ∧ create = Client.create alloc dstIP srcPort
  | .between f => ∀ w, (f w).heap = w.heap

/-- The identifier of the machines. -/
def ident (pkt : Packet) : Option ConnectionID := IPv4_5TupleL2Ident.identify pkt.data

variable (alloc) in
/-- One step of it. -/
def Does (S : Deployment ι κ) (x : Fleet ι κ ConnectionID P (Option A) Packet (Heap A M))
    (a : Fleet.Act ι ConnectionID P (Option A) Packet (Heap A M))
    (y : Fleet ι κ ConnectionID P (Option A) Packet (Heap A M)) : Prop :=
  Fleet.Does (S.env ident) S.poolOf (Can alloc S) x a y

variable (alloc) in
/-- One step in which no client's function is called, and none of a server in the state `Bye`. -/
def DoesCalmly (S : Deployment ι κ) (x : Fleet ι κ ConnectionID P (Option A) Packet (Heap A M))
    (a : Fleet.Act ι ConnectionID P (Option A) Packet (Heap A M))
    (y : Fleet ι κ ConnectionID P (Option A) Packet (Heap A M)) : Prop :=
  Does alloc S x a y ∧ x.Meets (S.env ident) S.poolOf (fun i => calm (S.role i)) a

omit [DecidableEq ι] [DecidableEq κ] [DecidableEq P] in
theorem Can.opens (hal : alloc.Lawful Valid) {S : Deployment ι κ}
    {x : Fleet ι κ ConnectionID P (Option A) Packet (Heap A M)}
    {a : Fleet.Act ι ConnectionID P (Option A) Packet (Heap A M)} (h : Can alloc S x a) :
    Fleet.Opens (trust Valid) S.role S.poolOf x a := by
  cases a with
  | arrive mem => trivial
  | process i ba => trivial
  | between f => exact fun hsane => Store.still hsane (h x.w.rest)
  | connect i id state create ba =>
      obtain ⟨hrole, hfree, rfl, config, dstIP, srcPort, -, -, rfl⟩ := h
      refine ⟨hfree, ?_⟩
      intro d w hsane hd
      obtain ⟨htrades, a, ha, hmem⟩ := Store.create_trades hal hsane hd
      refine ⟨htrades, a, ha, ?_⟩
      rw [hrole, hmem]
      rfl

theorem run_classed (hal : alloc.Lawful Valid) {S : Deployment ι κ} (hapart : S.Apart) {m : M}
    (hm : Valid m ∅) {mem : A → Object} {pkts : P → Packet} {prog : Program}
    {x : Fleet ι κ ConnectionID P (Option A) Packet (Heap A M)}
    (hrun : Steps (DoesCalmly alloc S) (S.start (service alloc) ⟨pkts, .new m mem, prog⟩) x) :
    Classed S Object.class x := by
  have hrun' : Steps (Fleet.Does (S.env ident) S.poolOf fun y a =>
      Can alloc S y a ∧ y.Meets (S.env ident) S.poolOf (fun i => calm (S.role i)) a)
      (S.start (service alloc) ⟨pkts, .new m mem, prog⟩) x := by
    refine hrun.mono ?_
    intro y a z h
    exact ⟨⟨h.1.1, h.2⟩, h.1.2⟩
  have hsane : (trust Valid).sane ⟨.new m mem, prog⟩ := Arena.new_sound hm mem
  have hlive : ∀ d, d ∉ (trust Valid).live ⟨.new m mem, prog⟩ := by simp [Store.trust, Arena.new]
  obtain ⟨poolRole, hpool, hguarded⟩ := hapart.guarded calm rfl (service_careful hal) hsane hlive
    (fun y a ha => ⟨ha.1.opens hal, ha.2⟩) hrun'
  exact classed_of_guarded hpool hguarded

end Objects

end HelloBye

/-! ### Both -/

/-- **Every run of HelloBye2, and every run of HelloBye** in which no client's function is called and
none of a server in the state `Bye`, if no server shares its pool with a client. -/
theorem runs_classed {ι κ P A M : Type} [DecidableEq ι] [DecidableEq κ] [DecidableEq P]
    [DecidableEq A] {alloc : Allocator A M} {Valid : M → Finset A → Prop} (hal : alloc.Lawful Valid)
    {S : Deployment ι κ} (hapart : S.Apart) {m : M} (hm : Valid m ∅) :
    (∀ mem (pkts : P → Packet) prog x, Steps (HelloBye2.Objects.Does alloc S)
      (S.start (HelloBye2.Objects.service alloc) ⟨pkts, .new m mem, prog⟩) x →
        Classed S HelloBye2.Objects.Object.class x) ∧
    (∀ mem (pkts : P → Packet) prog x, Steps (HelloBye.Objects.DoesCalmly alloc S)
      (S.start (HelloBye.Objects.service alloc) ⟨pkts, .new m mem, prog⟩) x →
        Classed S HelloBye.Objects.Object.class x) := by
  constructor
  · intro mem pkts prog x hrun
    exact HelloBye2.Objects.run_classed hal hapart hm hrun
  · intro mem pkts prog x hrun
    exact HelloBye.Objects.run_classed hal hapart hm hrun

/-! ### A server and a client -/

/-- The objects, and what there is of a connection in the table of the server and of one in the pool
of the client: its state, and the class of its object. -/
structure Glance where
  taken : Finset Nat
  server : Option (StateID × Option Class)
  pool : Option (StateID × Option Class)
deriving DecidableEq

/-- What there is to see. -/
def glance {K V R : Type} [DecidableEq K] (classOf : V → Class) (k k' : K) :
    Except Fault (Fleet Bool Bool K Nat (Option Nat) Packet (Store Nat (List Nat) V R)) →
      Option Glance
  | .error _ => none
  | .ok x =>
    let see := fun st : State (Option Nat) =>
      (st.state, st.stateData.map fun a => classOf (x.w.rest.heap.mem a))
    some {
      taken := x.w.rest.heap.taken
      server := ((x.sms false).stateTable.lookup k).map see
      pool := ((x.connPool true).lookup k').map see }

namespace HelloBye2.Objects

abbrev Small := Fleet Bool Bool UInt64 Nat (Option Nat) Packet (Heap Nat (List Nat))

def small : Small :=
  (Deployment.duo id).start (service .stack)
    ⟨fun _ => default, .new [0, 1, 2, 3] fun _ => .server (.bye ⟨0, 0⟩), fun _ => 5, ⟨1, 2⟩⟩

/-- The client opens a connection, and its hello gets to the server. -/
def greeting : List (Fleet.Act Bool UInt64 Nat (Option Nat) Packet (Heap Nat (List Nat))) :=
  [.connect true 7 MoonState.Client.States.Hello (Client.create .stack 3 4 7)
      ((BufArray.new [7]).get BufArray.isSome_new_seven),
    .process false ((BufArray.new [7]).get BufArray.isSome_new_seven)]

def greeted : Except Fault Small :=
  greeting.foldlM (fun x a => x.step ((Deployment.duo id).env identify) id a) small

theorem greeted_steps {x : Small} (h : greeted = .ok x) :
    Steps (Does .stack (.duo id)) small x := by
  obtain ⟨y, hy, h⟩ := foldlM_cons_eq_ok.mp h
  obtain ⟨z, hz, h⟩ := foldlM_cons_eq_ok.mp h
  obtain rfl := Except.ok.inj h
  refine (Steps.refl.step _ ⟨?_, hy⟩).step _ ⟨?_, hz⟩
  · trivial
  · exact ⟨rfl, rfl, rfl, 3, 4, rfl⟩

end HelloBye2.Objects

namespace HelloBye.Objects

open IPv4_5TupleL2Ident

abbrev Small := Fleet Bool Bool ConnectionID Nat (Option Nat) Packet (Heap Nat (List Nat))

def small : Small :=
  (Deployment.duo id).start (service .stack)
    ⟨fun _ => default, .new [0, 1, 2, 3] fun _ => .client ⟨0, 0, 0⟩, fun _ => 5, some ⟨1, 2⟩⟩

/-- A hello of a client. -/
def helloPkt : Packet where
  data := (Mem.set8 (Mem.set8 (fun _ => 0) 14 0x45) 23 17).write 42 (line "CLIENT HELLO:" 5)
  dataLen := 100

/-- A hello gets to the server. -/
def greeting : List (Fleet.Act Bool ConnectionID Nat (Option Nat) Packet (Heap Nat (List Nat))) :=
  [.arrive fun _ => helloPkt, .process false ((BufArray.new [7]).get BufArray.isSome_new_seven)]

def greeted : Except Fault Small :=
  greeting.foldlM (fun x a => x.step ((Deployment.duo id).env ident) id a) small

instance (role : Role) (e : StateID × Option Nat) (pkt : Packet) (w : Heap Nat (List Nat)) :
    Decidable (calm role e pkt w) :=
  inferInstanceAs (Decidable (_ ∧ _))

theorem greeted_steps {x : Small} (h : greeted = .ok x) :
    Steps (DoesCalmly .stack (.duo id)) small x := by
  obtain ⟨y, hy, h⟩ := foldlM_cons_eq_ok.mp h
  obtain ⟨z, hz, h⟩ := foldlM_cons_eq_ok.mp h
  obtain rfl := Except.ok.inj h
  have hfirst : Steps (DoesCalmly .stack (.duo id)) small y :=
    Steps.refl.step (.arrive fun _ => helloPkt) ⟨⟨trivial, hy⟩, trivial⟩
  obtain rfl := Except.ok.inj hy
  refine hfirst.step (.process false _) ⟨⟨trivial, hz⟩, ?_⟩
  have hmeets : Sys.MeetsAll ((Deployment.duo id : Deployment Bool Bool).env ident) (calm .server) [0]
      (({ small with w := { small.w with mem := fun _ => helloPkt } } : Small).view id false
        ((BufArray.new [7]).get BufArray.isSome_new_seven)) := by decide +kernel
  exact hmeets

/-- The client opens a connection. -/
def opening : Fleet.Act Bool ConnectionID Nat (Option Nat) Packet (Heap Nat (List Nat)) :=
  .connect true (Client.cID ⟨1, 2⟩ 3 4) HelloByeClient.Hello (Client.create .stack 3 4)
    ((BufArray.new [7]).get BufArray.isSome_new_seven)

/-- The connection waits in `Bye`, with a `HelloByeClientHello`. -/
theorem opened_not_classed : ∃ x, Steps (Does .stack (.duo id)) small x ∧
    ¬ Classed (.duo id) Object.class x := by
  have hseen : glance Object.class (Client.cID ⟨1, 2⟩ 3 4) (Client.cID ⟨1, 2⟩ 3 4)
      (small.step ((Deployment.duo id).env ident) id opening)
        = some { taken := {0}, server := none, pool := some (HelloByeClient.Bye, some .clientHello) } := by
    decide +kernel
  cases hx : small.step ((Deployment.duo id).env ident) id opening with
  | error e =>
      rw [hx] at hseen
      simp [glance] at hseen
  | ok x =>
      rw [hx] at hseen
      obtain ⟨-, -, hpool⟩ := Glance.mk.inj (Option.some.inj hseen)
      obtain ⟨st, hst, hsee⟩ := Option.map_eq_some_iff.mp hpool
      obtain ⟨hstate, hclass⟩ := Prod.mk.inj hsee
      refine ⟨x, Steps.refl.step opening ⟨⟨rfl, rfl, rfl, ⟨1, 2⟩, 3, 4, rfl, rfl, rfl⟩, hx⟩, ?_⟩
      intro h
      obtain ⟨a, ha, -, hof⟩ := h.classed (i := true) (Or.inr hst)
      rw [ha] at hclass
      have hclass' : (x.w.rest.heap.mem a).class = .clientHello := Option.some.inj hclass
      unfold OfClass at hof
      rw [hstate, hclass'] at hof
      simp [registered, Deployment.duo, HelloByeClient.Bye] at hof

end HelloBye.Objects

/-- In each version a hello got to the server, which has a `Bye` object now; the client of HelloBye2
has one too. -/
theorem runs_classed_duo : ∃ x y,
    HelloBye2.Objects.greeted = .ok x ∧ x.w.rest.heap.taken = {2, 1} ∧
      Classed (.duo id) HelloBye2.Objects.Object.class x ∧
    HelloBye.Objects.greeted = .ok y ∧ y.w.rest.heap.taken = {1} ∧
      Classed (.duo id) HelloBye.Objects.Object.class y := by
  have hvalid : Allocator.StackValid [0, 1, 2, 3] ∅ := ⟨by decide, by simp⟩
  have hall := fun h : (Deployment.duo id : Deployment Bool Bool).Apart =>
    runs_classed (P := Nat) Allocator.stack_lawful h hvalid
  have hapart : (Deployment.duo id : Deployment Bool Bool).Apart := by
    intro i j h
    rw [show i = j from h]
  have hx : glance HelloBye2.Objects.Object.class 7 7 HelloBye2.Objects.greeted = some
      { taken := {2, 1}, server := some (MoonState.Server.States.Bye, some .serverBye)
        pool := some (MoonState.Client.States.Bye, some .clientBye) } := by decide +kernel
  have hy : glance HelloBye.Objects.Object.class ⟨0, 0, 0, 0, 17⟩ ⟨0, 0, 0, 0, 17⟩
      HelloBye.Objects.greeted = some
        { taken := {1}, server := some (HelloBye.HelloByeServer.Bye, some .serverBye), pool := none } := by
    decide +kernel
  cases hgx : HelloBye2.Objects.greeted with
  | error e =>
      rw [hgx] at hx
      simp [glance] at hx
  | ok x =>
      cases hgy : HelloBye.Objects.greeted with
      | error e =>
          rw [hgy] at hy
          simp [glance] at hy
      | ok y =>
          rw [hgx] at hx
          rw [hgy] at hy
          obtain ⟨htaken, -⟩ := Glance.mk.inj (Option.some.inj hx)
          obtain ⟨htaken', -⟩ := Glance.mk.inj (Option.some.inj hy)
          exact ⟨x, y, rfl, htaken, (hall hapart).1 _ _ _ x (HelloBye2.Objects.greeted_steps hgx),
            rfl, htaken', (hall hapart).2 _ _ _ y (HelloBye.Objects.greeted_steps hgy)⟩

end MoonState
