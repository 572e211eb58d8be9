/-
What the lookup of a connection is for.

`Finds` says it without the loop: where the connection is found decides what becomes
of it, and whatever becomes of it, no other connection notices.  `findStateLoop`
jumps back after each insertion, and the lookup after an insertion finds what was
inserted, so it never looks a third time.
-/
import MoonState.Proofs.StateMachine

namespace MoonState

variable {K P D W : Type} [DecidableEq K]

namespace Sys

/-- The connection is new in the table and counted once; the rest of the machine, the other
connections, the batch and the clock are as they were. -/
structure Inserts (id : K) (st : State D) (s s' : Sys K P D W) : Prop where
  entry : s'.sm.stateTable.lookup id = some st
  table : ∀ k, k ≠ id → s'.sm.stateTable.lookup k = s.sm.stateTable.lookup k
  connPool : ∀ k, k ≠ id → s'.connPool.lookup k = s.connPool.lookup k
  stat_statesAdded : s'.sm.stat_statesAdded = s.sm.stat_statesAdded + 1
  sm : s'.sm = { s.sm with
    stateTable := s'.sm.stateTable
    stat_statesAdded := s'.sm.stat_statesAdded }
  pktsBA : s'.pktsBA = s.pktsBA
  ticks : s'.ticks = s.ticks

/-- What looking a connection up comes to. -/
inductive Finds [Inhabited D] (id : K) (s : Sys K P D W) :
    Except Fault (Sys K P D W × Option (State D)) → Prop
  /-- it is in the table, and what the pool holds for it stays there -/
  | tracked {st : State D} (ht : s.sm.stateTable.lookup id = some st) :
      Finds id s (.ok (s, some st))
  /-- it is moved from the pool to the table -/
  | pooled {st : State D} {s' : Sys K P D W} (ht : s.sm.stateTable.lookup id = none)
      (hp : s.connPool.lookup id = some st) (hins : Inserts id st s s')
      (hgone : s'.connPool.lookup id = none) (hw : s'.w = s.w) (hlog : s'.log = s.log) :
      Finds id s (.ok (s', some st))
  /-- the factory is called, and the world is left as this one call leaves it -/
  | created {stateData : D} {w : W} {s' : Sys K P D W} (ht : s.sm.stateTable.lookup id = none)
      (hp : s.connPool.lookup id = none) (hlisten : s.sm.listenToConnections = true)
      (hdata : s.startData id = some (stateData, w))
      (hins : Inserts id (State.new s.sm.startStateID stateData) s s')
      (hnone : s'.connPool.lookup id = none) (hw : s'.w = w)
      (hlog : s'.log = s.log ++ [.create id]) :
      Finds id s (.ok (s', some (State.new s.sm.startStateID stateData)))
  /-- the factory throws -/
  | thrown (ht : s.sm.stateTable.lookup id = none) (hp : s.connPool.lookup id = none)
      (hlisten : s.sm.listenToConnections = true) (hdata : s.startData id = none) :
      Finds id s (.error .exception)
  /-- nobody knows it -/
  | unknown (ht : s.sm.stateTable.lookup id = none) (hp : s.connPool.lookup id = none)
      (hlisten : s.sm.listenToConnections = false) : Finds id s (.ok (s, none))

theorem inserts_claim {id : K} {st : State D} {s : Sys K P D W}
    (ht : s.sm.stateTable.lookup id = none) : Inserts id st s (s.claim id st) where
  entry := lookup_claim s id st ht
  table _ hk := FMap.lookup_insertNew_ne _ _ hk
  connPool _ hk := Finmap.lookup_erase_ne hk
  stat_statesAdded := rfl
  sm := rfl
  pktsBA := rfl
  ticks := rfl

theorem inserts_accept {id : K} {stateData : D} {w : W} {s : Sys K P D W}
    (ht : s.sm.stateTable.lookup id = none) :
    Inserts id (State.new s.sm.startStateID stateData) s (s.accept id stateData w) where
  entry := lookup_accept s id stateData w ht
  table _ hk := FMap.lookup_insertNew_ne _ _ hk
  connPool _ _ := rfl
  stat_statesAdded := rfl
  sm := rfl
  pktsBA := rfl
  ticks := rfl

/-- **`findState` finds**, and a third lookup is never made. -/
theorem findState_finds [Inhabited D] (id : K) (s : Sys K P D W) :
    Finds id s (s.findState id) ∧ ∀ fuel, findStateLoop (fuel + 2) id s = s.findState id := by
  refine And.intro ?_ ?_
  · rw [findState_eq]
    cases ht : s.sm.stateTable.lookup id with
    | some st => exact Finds.tracked ht
    | none =>
        cases hp : s.connPool.lookup id with
        | some st =>
            have hgone := Finmap.lookup_erase id s.connPool
            exact Finds.pooled ht hp (inserts_claim ht) hgone rfl rfl
        | none =>
            dsimp only
            split
            · rename_i hlisten
              split
              · rename_i hdata
                exact Finds.thrown ht hp hlisten hdata
              · rename_i stateData w hdata
                exact Finds.created ht hp hlisten hdata (inserts_accept ht) hp rfl rfl
            · rename_i hlisten
              exact Finds.unknown ht hp (by simpa using hlisten)
  · intro fuel
    rw [findState_eq, findStateLoop_eq]

end Sys

end MoonState
