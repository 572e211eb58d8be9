/-
Two services that do the same.

`Service.Alike` relates the objects and the rests of two programs, whatever each
keeps in them: related ones are answered alike, and stay related.  Only a new
object the second has no room for may stop it.  Then two instances that start out
related hand out the same packets with the same marks, call after call.
-/
import MoonState.Model.HelloByeRun
import MoonState.Proofs.Responder

namespace MoonState

variable {K D E B R S : Type} [DecidableEq K]

/-! ### Related states -/

/-- The objects of two connections in the same state are related. -/
def State.Alike (rel : StateID → D → E → Prop) (st : State D) (st' : State E) : Prop :=
  st.state = st'.state ∧ rel st.state st.stateData st'.stateData

/-- The same connections, in related states. -/
def MapAlike (rel : StateID → D → E → Prop) (t : FMap K (State D)) (t' : FMap K (State E)) : Prop :=
  ∀ id, Option.Rel (State.Alike rel) (t.lookup id) (t'.lookup id)

namespace MapAlike

variable {rel : StateID → D → E → Prop} {t : FMap K (State D)} {t' : FMap K (State E)} {id : K}
  {st : State D} {st' : State E}

theorem empty : MapAlike rel (∅ : FMap K (State D)) (∅ : FMap K (State E)) := by
  intro id
  rw [Finmap.lookup_empty, Finmap.lookup_empty]
  exact .none

theorem insert (h : MapAlike rel t t') (hst : st.Alike rel st') :
    MapAlike rel (Finmap.insert id st t) (Finmap.insert id st' t') := by
  intro k
  by_cases hk : k = id
  · subst hk
    rw [Finmap.lookup_insert, Finmap.lookup_insert]
    exact .some hst
  · rw [Finmap.lookup_insert_of_ne _ hk, Finmap.lookup_insert_of_ne _ hk]
    exact h k

theorem erase (h : MapAlike rel t t') : MapAlike rel (t.erase id) (t'.erase id) := by
  intro k
  by_cases hk : k = id
  · subst hk
    rw [Finmap.lookup_erase, Finmap.lookup_erase]
    exact .none
  · rw [Finmap.lookup_erase_ne hk, Finmap.lookup_erase_ne hk]
    exact h k

theorem mem_iff (h : MapAlike rel t t') : id ∈ t ↔ id ∈ t' := by
  rw [Finmap.mem_iff, Finmap.mem_iff]
  have hid := h id
  constructor
  · rintro ⟨st, hst⟩
    rw [hst] at hid
    cases ht' : t'.lookup id with
    | none => rw [ht'] at hid; cases hid
    | some st' => exact ⟨st', rfl⟩
  · rintro ⟨st', hst'⟩
    rw [hst'] at hid
    cases ht : t.lookup id with
    | none => rw [ht] at hid; cases hid
    | some st => exact ⟨st, rfl⟩

theorem insertNew (h : MapAlike rel t t') (hst : st.Alike rel st') :
    MapAlike rel (FMap.insertNew id st t) (FMap.insertNew id st' t') := by
  by_cases hmem : id ∈ t
  · rw [FMap.insertNew_of_mem hmem, FMap.insertNew_of_mem (h.mem_iff.mp hmem)]
    exact h
  · rw [FMap.insertNew_of_notMem hmem, FMap.insertNew_of_notMem fun hc => hmem (h.mem_iff.mpr hc)]
    exact h.insert hst

/-- Related maps show the same `StateID`s. -/
theorem state_eq (h : MapAlike rel t t') (id : K) :
    (t.lookup id).map State.state = (t'.lookup id).map State.state := by
  have hid := h id
  cases ht : t.lookup id <;> cases ht' : t'.lookup id <;> rw [ht, ht'] at hid
  · rfl
  · cases hid
  · cases hid
  · cases hid with
    | some hst => exact congrArg some hst.1

end MapAlike

structure Held.Alike (rel : StateID → D → E → Prop) (room : R → S → Prop) (h : Held K D R)
    (h' : Held K E S) : Prop where
  table : MapAlike rel h.table h'.table
  pool : MapAlike rel h.pool h'.pool
  rest : room h.rest h'.rest

/-! ### Related services -/

/-- What `v` answers is what `u` answers; `short s` holds where `v` has no room for a new object. -/
structure Service.Alike [Inhabited D] [Inhabited E] (u : Service K D B R) (v : Service K E B S)
    (rel : StateID → D → E → Prop) (room : R → S → Prop) (short : S → Prop) : Prop where
  ident : u.ident = v.ident
  startStateID : u.startStateID = v.startStateID
  endStateID : u.endStateID = v.endStateID
  listenToConnections : u.listenToConnections = v.listenToConnections
  newData : u.listenToConnections = true → ∀ id r s, room r s →
    (v.newData id s = none ∧ short s) ∨
      ∃ d r' e s', u.newData id r = some (d, r') ∧ v.newData id s = some (e, s') ∧
        rel u.startStateID d e ∧ room r' s'
  answer : ∀ (st : State D) (st' : State E) b r s, st.Alike rel st' → room r s →
    ∃ a a', u.answer st b r = some a ∧ v.answer st' b s = some a' ∧ a.newState = a'.newState ∧
      a.pkt = a'.pkt ∧ a.free = a'.free ∧ room a.rest a'.rest ∧
      ((after st a).state ≠ u.endStateID → rel (after st a).state a.stateData a'.stateData)

/-- After answers that go to the same state. -/
theorem State.Alike.after {rel : StateID → D → E → Prop} {st : State D} {st' : State E}
    (hst : st.Alike rel st') {a : Answer D B R} {a' : Answer E B S} {last : StateID}
    (hnew : a.newState = a'.newState)
    (hrel : (Service.after st a).state ≠ last →
      rel (Service.after st a).state a.stateData a'.stateData) :
    (Service.after st a).state = (Service.after st' a').state ∧
      ((Service.after st a).state ≠ last →
        (Service.after st a).Alike rel (Service.after st' a')) := by
  have hstate : (Service.after st a).state = (Service.after st' a').state := by
    show a.newState.getD st.state = a'.newState.getD st'.state
    rw [hnew, hst.1]
  exact ⟨hstate, fun hne => ⟨hstate, hrel hne⟩⟩

namespace Service.Alike

variable [Inhabited D] [Inhabited E] {u : Service K D B R} {v : Service K E B S}
  {rel : StateID → D → E → Prop} {room : R → S → Prop} {short : S → Prop} {h : Held K D R}
  {h' : Held K E S}

/-- The lookup. -/
theorem find (ha : u.Alike v rel room short) (hh : h.Alike rel room h') (id : K) :
    (v.find id h' = none ∧ short h'.rest) ∨
      ∃ k k' o o', u.find id h = some (k, o) ∧ v.find id h' = some (k', o') ∧
        k.Alike rel room k' ∧ Option.Rel (State.Alike rel) o o' := by
  unfold Service.find
  have ht := hh.table id
  have hp := hh.pool id
  cases hl : h.table.lookup id with
  | some st =>
      cases hl' : h'.table.lookup id with
      | none => rw [hl, hl'] at ht; cases ht
      | some st' =>
          rw [hl, hl'] at ht
          exact Or.inr ⟨h, h', some st, some st', rfl, rfl, hh, ht⟩
  | none =>
      cases hl' : h'.table.lookup id with
      | some st' => rw [hl, hl'] at ht; cases ht
      | none =>
          cases hq : h.pool.lookup id with
          | some st =>
              cases hq' : h'.pool.lookup id with
              | none => rw [hq, hq'] at hp; cases hp
              | some st' =>
                  rw [hq, hq'] at hp
                  cases hp with
                  | some hst =>
                      exact Or.inr ⟨_, _, some st, some st', rfl, rfl,
                        ⟨hh.table.insertNew hst, hh.pool.erase, hh.rest⟩, .some hst⟩
          | none =>
              cases hq' : h'.pool.lookup id with
              | some st' => rw [hq, hq'] at hp; cases hp
              | none =>
                  dsimp only
                  rw [← ha.listenToConnections]
                  by_cases hlisten : u.listenToConnections = true
                  · rw [if_pos hlisten, if_pos hlisten]
                    rcases ha.newData hlisten id h.rest h'.rest hh.rest with ⟨hnone, hshort⟩ |
                      ⟨d, r, e, s, hd, he, hrel, hroom⟩
                    · exact Or.inl ⟨by rw [hnone], hshort⟩
                    · rw [hd, he, ← ha.startStateID]
                      have hst : (State.new u.startStateID d).Alike rel
                          (State.new u.startStateID e) := ⟨rfl, hrel⟩
                      exact Or.inr ⟨_, _, _, _, rfl, rfl,
                        ⟨hh.table.insertNew hst, hh.pool, hroom⟩, .some hst⟩
                  · rw [if_neg hlisten, if_neg hlisten]
                    exact Or.inr ⟨h, h', none, none, rfl, rfl, hh, .none⟩

theorem serve (ha : u.Alike v rel room short) (hh : h.Alike rel room h') {st : State D}
    {st' : State E} (hst : st.Alike rel st') (id : K) (b : B) :
    ∃ k k' out, u.serve id st h b = some (k, out) ∧ v.serve id st' h' b = some (k', out) ∧
      k.Alike rel room k' := by
  obtain ⟨a, a', hu, hv, hnew, hpkt, hfree, hroom, hrel⟩ := ha.answer st st' b _ _ hst hh.rest
  obtain ⟨hstate, hafter⟩ := hst.after hnew hrel
  unfold Service.serve
  rw [hu, hv, Option.map_some, Option.map_some, ← hpkt, ← hfree, ← hstate, ← ha.endStateID]
  refine ⟨_, _, _, rfl, rfl, ?_, hh.pool, hroom⟩
  by_cases hend : (Service.after st a).state = u.endStateID
  · rw [if_pos hend, if_pos hend]
    intro k
    by_cases hk : k = id
    · rw [hk, Finmap.lookup_erase, Finmap.lookup_erase]
      exact .none
    · rw [Finmap.lookup_erase_ne hk, Finmap.lookup_erase_ne hk, Finmap.lookup_insert_of_ne _ hk,
        Finmap.lookup_insert_of_ne _ hk]
      exact hh.table k
  · rw [if_neg hend, if_neg hend]
    exact hh.table.insert (hafter hend)

/-- **One packet.** -/
theorem receive (ha : u.Alike v rel room short) (hh : h.Alike rel room h') (b : B) :
    (v.receive h' b = none ∧ short h'.rest) ∨
      ∃ k k' out, u.receive h b = some (k, out) ∧ v.receive h' b = some (k', out) ∧
        k.Alike rel room k' := by
  unfold Service.receive
  rw [← ha.ident]
  cases u.ident b with
  | none => exact Or.inr ⟨h, h', _, rfl, rfl, hh⟩
  | some id =>
      dsimp only
      rcases ha.find hh id with ⟨hnone, hshort⟩ | ⟨k, k', o, o', hu, hv, hk, ho⟩
      · exact Or.inl ⟨by rw [hnone], hshort⟩
      · rw [hu, hv]
        cases ho with
        | none => exact Or.inr ⟨k, k', _, rfl, rfl, hk⟩
        | some hst => exact Or.inr (ha.serve hk hst id b)

/-- **A batch.** -/
theorem receiveAll (ha : u.Alike v rel room short) (bs : List B) {h : Held K D R}
    {h' : Held K E S} (hh : h.Alike rel room h') :
    (v.receiveAll bs h' = none ∧ ∃ p k' outs, p <+: bs ∧ v.receiveAll p h' = some (k', outs) ∧
        short k'.rest) ∨
      ∃ k k' outs, u.receiveAll bs h = some (k, outs) ∧ v.receiveAll bs h' = some (k', outs) ∧
        k.Alike rel room k' := by
  induction bs generalizing h h' with
  | nil => exact Or.inr ⟨h, h', [], rfl, rfl, hh⟩
  | cons b bs ih =>
      rcases ha.receive hh b with ⟨hnone, hshort⟩ | ⟨k, k', out, hu, hv, hk⟩
      · refine Or.inl ⟨?_, [], h', [], List.nil_prefix, rfl, hshort⟩
        rw [Service.receiveAll, hnone]
      · rcases ih hk with ⟨hnone, p, l', outs, hp, hl, hshort⟩ | ⟨l, l', outs, hu', hv', hl⟩
        · refine Or.inl ⟨?_, b :: p, l', out :: outs, List.cons_prefix_cons.mpr ⟨rfl, hp⟩, ?_,
            hshort⟩
          · rw [Service.receiveAll, hv]
            dsimp only
            rw [hnone, Option.map_none]
          · rw [Service.receiveAll, hv]
            dsimp only
            rw [hl, Option.map_some]
        · refine Or.inr ⟨l, l', out :: outs, ?_, ?_, hl⟩
          · rw [Service.receiveAll, hu]
            dsimp only
            rw [hu', Option.map_some]
          · rw [Service.receiveAll, hv]
            dsimp only
            rw [hv', Option.map_some]

/-- **Opening a connection**, with related new objects. -/
theorem openWith (ha : u.Alike v rel room short) (hh : h.Alike rel room h') {st : State D}
    {st' : State E} (hst : st.Alike rel st') (id : K) (b : B) :
    ∃ k k' out, u.openWith id st h b = some (k, out) ∧ v.openWith id st' h' b = some (k', out) ∧
      k.Alike rel room k' := by
  obtain ⟨a, a', hu, hv, hnew, hpkt, hfree, hroom, hrel⟩ := ha.answer st st' b _ _ hst hh.rest
  obtain ⟨hstate, hafter⟩ := hst.after hnew hrel
  unfold Service.openWith
  rw [hu, hv, Option.map_some, Option.map_some, ← hpkt, ← hfree, ← hstate, ← ha.endStateID]
  refine ⟨_, _, _, rfl, rfl, hh.table, ?_, hroom⟩
  by_cases hend : (Service.after st a).state = u.endStateID
  · rw [if_pos hend, if_pos hend]
    exact hh.pool
  · rw [if_neg hend, if_neg hend]
    exact hh.pool.insertNew (hafter hend)

end Service.Alike

/-! ### Related programs -/

/-- Each runs its service, and what they hold is related. -/
structure Instance.Alike (u : Service K D B R) (v : Service K E B S) (rel : StateID → D → E → Prop)
    (room : R → S → Prop) (x : Instance K D B R) (y : Instance K E B S) : Prop where
  left : u.Runs x.sm
  right : v.Runs y.sm
  held : x.held.Alike rel room y.held

/-- `y'` is `y` after some of the packets. -/
def Instance.Partway [Inhabited E] [Inhabited B] (v : Service K E B S) (pl : Service.Platform)
    (bs : List B) (y y' : Instance K E B S) : Prop :=
  y' = y ∨ ∃ p outs, p <+: bs ∧ y.process v pl p = .ok (y', outs)

theorem Instance.Alike.start {u : Service K D B R} {v : Service K E B S}
    {rel : StateID → D → E → Prop} {room : R → S → Prop} {r : R} {s : S} (h : room r s) :
    Instance.Alike u v rel room (Instance.start u r) (Instance.start v s) :=
  ⟨Instance.start_runs u r, Instance.start_runs v s, .empty, .empty, h⟩

namespace Service.Alike

variable [Inhabited D] [Inhabited E] [Inhabited B] {u : Service K D B R} {v : Service K E B S}
  {rel : StateID → D → E → Prop} {room : R → S → Prop} {short : S → Prop}
  {x : Instance K D B R} {y : Instance K E B S} (pl : Service.Platform)

theorem process (ha : u.Alike v rel room short) (hx : x.Alike u v rel room y)
    (bs : List B) (hpos : 0 < bs.length) (hlt : bs.length < 2 ^ 32) :
    ((∃ e, y.process v pl bs = .error e) ∧ ∃ y', Instance.Partway v pl bs y y' ∧ short y'.rest) ∨
      ∃ x' y' outs, x.process u pl bs = .ok (x', outs) ∧ y.process v pl bs = .ok (y', outs) ∧
        x'.Alike u v rel room y' := by
  have hu := Instance.process_eq pl hx.left bs hpos hlt
  have hv := Instance.process_eq pl hx.right bs hpos hlt
  rcases ha.receiveAll bs hx.held with ⟨hnone, p, k', outs, hp, hk, hshort⟩ |
    ⟨k, k', outs, hk, hk', hkk⟩
  · rw [hnone] at hv
    refine Or.inl ⟨hv, ?_⟩
    by_cases hnil : p = []
    · subst hnil
      obtain ⟨rfl, -⟩ := Prod.mk.inj (Option.some.inj hk)
      exact ⟨y, Or.inl rfl, hshort⟩
    · have hle := hp.length_le
      have hpart := Instance.process_eq pl hx.right p (List.length_pos_iff.mpr hnil)
        (by omega)
      rw [hk] at hpart
      obtain ⟨y', hy', hheld, -⟩ := hpart
      refine ⟨y', Or.inr ⟨p, outs, hp, hy'⟩, ?_⟩
      rw [show y'.rest = y'.held.rest from rfl, hheld]
      exact hshort
  · rw [hk] at hu
    rw [hk'] at hv
    obtain ⟨x', hx', hheld, hruns⟩ := hu
    obtain ⟨y', hy', hheld', hruns'⟩ := hv
    refine Or.inr ⟨x', y', outs, hx', hy', hruns, hruns', ?_⟩
    rw [hheld, hheld']
    exact hkk

theorem connect (ha : u.Alike v rel room short) (hx : x.Alike u v rel room y) (id : K)
    (state : StateID) (create : R → Option (D × R)) (create' : S → Option (E × S))
    (hnew : ∀ r s, room r s → (create' s = none ∧ short s) ∨
      ∃ d r' e s', create r = some (d, r') ∧ create' s = some (e, s') ∧ rel state d e ∧ room r' s')
    (bs : List B) (hpos : 0 < bs.length) (hlt : bs.length < 2 ^ 32) :
    ((∃ e, y.connect v pl id state create' bs = .error e) ∧
        ∃ y', Instance.Partway v pl bs y y' ∧ short y'.rest) ∨
      ∃ x' y' outs, x.connect u pl id state create bs = .ok (x', outs) ∧
        y.connect v pl id state create' bs = .ok (y', outs) ∧ x'.Alike u v rel room y' := by
  obtain ⟨b, bs, rfl⟩ := List.exists_cons_of_length_pos hpos
  have hu := Instance.connect_eq pl hx.left id state create b bs hlt
  have hv := Instance.connect_eq pl hx.right id state create' b bs hlt
  rcases hnew x.rest y.rest hx.held.rest with ⟨hnone, hshort⟩ | ⟨d, r, e, s, hc, hc', hrel, hroom⟩
  · rw [hnone] at hv
    exact Or.inl ⟨hv, y, Or.inl rfl, hshort⟩
  · rw [hc] at hu
    rw [hc'] at hv
    have hheld : Held.Alike rel room { x.held with rest := r } { y.held with rest := s } :=
      ⟨hx.held.table, hx.held.pool, hroom⟩
    have hst : (State.new state d).Alike rel (State.new state e) := ⟨rfl, hrel⟩
    obtain ⟨k, k', out, hk, hk', hkk⟩ := ha.openWith hheld hst id b
    rw [Option.bind_some, show u.openWith id (State.new state d) { x.held with rest := r } b = _
      from hk] at hu
    rw [Option.bind_some, show v.openWith id (State.new state e) { y.held with rest := s } b = _
      from hk'] at hv
    obtain ⟨x', hx', hheld, hruns⟩ := hu
    obtain ⟨y', hy', hheld', hruns'⟩ := hv
    refine Or.inr ⟨x', y', _, hx', hy', hruns, hruns', ?_⟩
    rw [hheld, hheld']
    exact hkk

end Service.Alike

/-! ### Calls -/

/-- Steps that do the same while they keep a relation, or stop the second program. -/
theorem feed_alike {X Y I O : Type} {f : X → I → Except Fault (X × O)}
    {g : Y → I → Except Fault (Y × O)} {alike : X → Y → Prop} {stop : Y → I → Prop}
    (hstep : ∀ x y i, alike x y → ((∃ e, g y i = .error e) ∧ stop y i) ∨
      ∃ x' y' o, f x i = .ok (x', o) ∧ g y i = .ok (y', o) ∧ alike x' y')
    (is : List I) {x : X} {y : Y} (h : alike x y) :
    ((∃ e, feed g y is = .error e) ∧
        ∃ pre i y' os, pre ++ [i] <+: is ∧ feed g y pre = .ok (y', os) ∧ stop y' i) ∨
      ∃ x' y' os, feed f x is = .ok (x', os) ∧ feed g y is = .ok (y', os) ∧ alike x' y' := by
  induction is generalizing x y with
  | nil => exact Or.inr ⟨x, y, [], rfl, rfl, h⟩
  | cons i is ih =>
      rcases hstep x y i h with ⟨⟨e, he⟩, hstop⟩ | ⟨x₁, y₁, o, hf, hg, h₁⟩
      · refine Or.inl ⟨⟨e, by rw [feed, he]⟩, [], i, y, [], ?_, rfl, hstop⟩
        exact List.cons_prefix_cons.mpr ⟨rfl, List.nil_prefix⟩
      · rcases ih h₁ with ⟨⟨e, he⟩, pre, j, y', os, hp, hpre, hstop⟩ | ⟨x', y', os, hf', hg', h'⟩
        · refine Or.inl ⟨⟨e, ?_⟩, i :: pre, j, y', o :: os, List.cons_prefix_cons.mpr ⟨rfl, hp⟩,
            ?_, hstop⟩
          · rw [feed, hg]
            dsimp only
            rw [he]
          · rw [feed, hg]
            dsimp only
            rw [hpre]
        · refine Or.inr ⟨x', y', o :: os, ?_, ?_, h'⟩
          · rw [feed, hf]
            dsimp only
            rw [hf']
          · rw [feed, hg]
            dsimp only
            rw [hg']

end MoonState
