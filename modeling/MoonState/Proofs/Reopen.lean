/-
Opening a connection again.

`connPool->add` is TBB's `insert`, which leaves an entry alone that is already
there, and `findState` looks into the table before it looks into the pool.  So a
`State` that is still around from an earlier attempt is what the next packet gets,
and the one just opened is thrown away without a word.

What decides is therefore only what the machine that gets the packet would have
found before the connection was opened again.
-/
import MoonState.Proofs.Frame

namespace MoonState

variable {ι K P D W : Type} [DecidableEq ι] [DecidableEq K]

/-- The same function would be called, on the same data. -/
def State.Agrees (st st' : State D) : Prop := st.state = st'.state ∧ st.stateData = st'.stateData

/-! ### Opening, and the next packet -/

/-- `id` is opened on instance `i`: the function left the `State` as `left`, which is what goes
into the pool, and the call returned with `st` and not in the end state.  The two differ if an
immediate transition ran another function after that. -/
inductive System.Opens (env : Env K P W) (S : System ι K P D W) (i : ι) (id : K) :
    State D → State D → System ι K P D W → Prop
  | addState {st₀ st : State D} {ba : BufArray P} {a : Activation K P D W} {s : Sys K P D W}
      (hfun : callFun env { sys := S.view i ba, state := st₀, iface := FunIface.new 0 id } = .ok a)
      (hadd : MoonState.addState env id st₀ (S.view i ba) = .ok (s, st))
      (hend : st.state ≠ (S.sms i).endStateID) : Opens env S i id a.state st (S.update i s)
  | addStateNoFun {st : State D} {ba : BufArray P} (hend : st.state ≠ (S.sms i).endStateID) :
      Opens env S i id st st (S.update i (MoonState.addStateNoFun id st (S.view i ba)))

/-- The call neither opens the connection nor runs a packet of it. -/
def Call.Other (env : Env K P W) (id : K) (S : System ι K P D W) : Call ι K P D → Prop
  | .packet _ ba cur => ∀ pkt, ba.get cur = .ok pkt → env.identify pkt S.w ≠ some id
  | .addState _ k _ _ => k ≠ id
  | .addStateNoFun _ k _ _ => k ≠ id

/-- The packet of slot `cur` ran the function of `st` on the data of `st`, first thing. -/
def Answered (log log' : List (Event K D P)) (cur : Nat) (id : K) (st : State D) : Prop :=
  ∃ st' new, log' = log ++ .run cur :: .call id st' :: new ∧ st'.Agrees st

/-- When opening it reaches the next packet, which instance `j` gets: nothing else is found in
its place, and what is found is what the caller was left with. -/
def System.Reopens (S : System ι K P D W) (i j : ι) (id : K) (left st : State D) : Prop :=
  match (S.atPlace (some j) id).or (S.atPlace none id) with
  | some old => old.Agrees st
  | none => left.state ≠ (S.sms i).endStateID ∧ left.Agrees st

/-! ### What is found afterwards -/

omit [DecidableEq ι] in
/-- Opening a connection writes the pool and no table. -/
theorem addState_places {env : Env K P W} {id : K} {st₀ st : State D} {s s' : Sys K P D W}
    {a : Activation K P D W}
    (hfun : callFun env { sys := s, state := st₀, iface := FunIface.new 0 id } = .ok a)
    (hend : st.state ≠ s.sm.endStateID) (h : addState env id st₀ s = .ok (s', st)) :
    s'.sm.stateTable = s.sm.stateTable ∧
      s'.connPool = if a.state.state = s.sm.endStateID then s.connPool
        else FMap.insertNew id a.state s.connPool := by
  obtain ⟨a', b, ha', hb, rfl, rfl⟩ := addState_eq_ok h
  obtain rfl : a = a' := Except.ok.inj (hfun.symm.trans ha')
  obtain ⟨new, hnew⟩ := callFun_ran ha'
  have hsame : a.sys.sm.endStateID = s.sm.endStateID := by rw [hnew.sm]
  have htable : a.sys.sm.stateTable = s.sm.stateTable := by rw [hnew.sm]
  have hpool : a.sys.connPool = s.connPool := hnew.connPool
  -- What the destructor finds, and hands on.
  obtain ⟨x, hx⟩ : ∃ x, x = (if a.state.state = a.sys.sm.endStateID then a.sys
    else a.sys.poolAdd id a.state) := ⟨_, rfl⟩
  have hxtable : x.sm.stateTable = s.sm.stateTable := by
    rw [hx]
    split <;> exact htable
  have hxend : x.sm.endStateID = s.sm.endStateID := by
    rw [hx]
    split <;> exact hsame
  have hxpool : x.connPool = if a.state.state = s.sm.endStateID then s.connPool
      else FMap.insertNew id a.state s.connPool := by
    rw [hx, ← hsame, ← hpool]
    split <;> rfl
  rw [← hx] at hb
  obtain ⟨ba, -, ⟨-, rfl⟩ | ⟨-, -, c, t, hc, ht, rfl⟩⟩ := Activation.destroy_eq_ok hb
  · exact ⟨hxtable, hxpool⟩
  · obtain ⟨new', hnew'⟩ := callFun_ran hc
    rw [if_neg (by simp)] at ht
    subst ht
    have hcend : c.sys.sm.endStateID = s.sm.endStateID := by
      rw [hnew'.sm]
      exact hxend
    have hopen : c.state.state ≠ c.sys.sm.endStateID := by
      rw [hcend]
      exact hend
    dsimp only
    rw [if_neg hopen]
    refine ⟨?_, hnew'.connPool.trans hxpool⟩
    rw [hnew'.sm]
    exact hxtable

/-- After it was opened, the connection is where it was; only a free pool has a new entry. -/
theorem System.Opens.atPlace {env : Env K P W} {S S' : System ι K P D W} {i : ι} {id : K}
    {left st : State D} (h : S.Opens env i id left st S') :
    (∀ j, S'.atPlace (some j) id = S.atPlace (some j) id) ∧
      S'.atPlace none id = (S.atPlace none id).or
        (if left.state = (S.sms i).endStateID then none else some left) := by
  cases h with
  | @addState st₀ _ ba a s hfun hadd hend =>
      obtain ⟨htable, hpool⟩ := addState_places hfun hend hadd
      constructor
      · intro j
        by_cases hj : j = i
        · subst hj
          rw [System.atPlace_update_self, htable]
          rfl
        · exact System.atPlace_update_other hj id
      · have hpool' : s.connPool = if a.state.state = (S.sms i).endStateID then S.connPool
            else FMap.insertNew id a.state S.connPool := hpool
        show s.connPool.lookup id = (S.connPool.lookup id).or _
        rw [hpool']
        by_cases hended : a.state.state = (S.sms i).endStateID
        · rw [if_pos hended, if_pos hended, Option.or_none]
        · rw [if_neg hended, if_neg hended, FMap.lookup_insertNew_self]
          cases S.connPool.lookup id with
          | none => rfl
          | some old => rfl
  | @addStateNoFun _ ba hend =>
      have hview : MoonState.addStateNoFun id left (S.view i ba) = (S.view i ba).poolAdd id left := by
        unfold MoonState.addStateNoFun
        exact if_neg hend
      rw [hview, if_neg hend]
      constructor
      · intro j
        by_cases hj : j = i
        · subst hj
          rw [System.atPlace_update_self]
          rfl
        · exact System.atPlace_update_other hj id
      · show (FMap.insertNew id left S.connPool).lookup id = (S.connPool.lookup id).or _
        rw [FMap.lookup_insertNew_self]
        cases S.connPool.lookup id with
        | none => rfl
        | some old => rfl

variable [Inhabited D]

/-- A call about other connections leaves this one where it is. -/
theorem System.call_other {env : Env K P W} {S S' : System ι K P D W} {id : K}
    {c : Call ι K P D} (hc : c.Other env id S) (h : S.call env c = .ok S') (p : Option ι) :
    S'.atPlace p id = S.atPlace p id := by
  cases c with
  | packet i ba cur =>
      simp only [call] at h
      split at h
      · rename_i s hrun
        obtain rfl := Except.ok.inj h
        obtain ⟨pkt, hpkt, -⟩ := runPkt_eq_ok hrun
        obtain ⟨htable, hpool⟩ := runPkt_other hpkt (hc pkt hpkt) hrun
        cases p with
        | none => exact hpool
        | some j =>
            by_cases hj : j = i
            · subst hj
              rw [atPlace_update_self, htable]
              rfl
            · exact atPlace_update_other hj id
      · simp at h
  | addState i k st ba =>
      simp only [call] at h
      split at h
      · rename_i s st' hadd
        obtain rfl := Except.ok.inj h
        exact atPlace_update_of_ne (addState_frame hadd) (Ne.symm hc) p
      · simp at h
  | addStateNoFun i k st ba =>
      obtain rfl := Except.ok.inj h
      exact atPlace_update_of_ne (addStateNoFun_frame st _) (Ne.symm hc) p

theorem System.Run.other {env : Env K P W} {S S' : System ι K P D W} {id : K}
    (h : System.Run env (fun S c => c.Other env id S) S S') (p : Option ι) :
    S'.atPlace p id = S.atPlace p id := by
  induction h with
  | refl => rfl
  | step c _ hok hcall ih => rw [System.call_other hok hcall, ih]

/-! ### The next packet -/

/-- What the machine of the packet finds, table before pool, is what its function is called
on. -/
theorem System.packet_answered_iff {env : Env K P W} {S S' : System ι K P D W} {j : ι}
    {ba : BufArray P} {cur : Nat} {pkt : P} {id : K} {st : State D} (hpkt : ba.get cur = .ok pkt)
    (hid : env.identify pkt S.w = some id) (h : S.call env (.packet j ba cur) = .ok S') :
    Answered S.log S'.log cur id st ↔
      ∃ old, (S.atPlace (some j) id).or (S.atPlace none id) = some old ∧ old.Agrees st := by
  simp only [call] at h
  split at h
  · rename_i s' hrun
    obtain rfl := Except.ok.inj h
    rw [runPkt_of_identified (by exact hpkt) (by exact hid)] at hrun
    obtain ⟨⟨s₁, o⟩, hf, hrun⟩ := bind_eq_ok.mp hrun
    -- A connection that was found has its function called, and nothing is logged before.
    have hfound : ∀ old, s₁.log = S.log ++ [.run cur] → o = some old →
        (Answered S.log s'.log cur id st ↔ old.Agrees st) := by
      rintro old hs₁ rfl
      obtain ⟨new, hnew⟩ := runState_log hrun
      rw [hs₁, List.append_assoc] at hnew
      constructor
      · rintro ⟨st', new', hlog, hagrees⟩
        have heq := List.append_cancel_left (hnew.symm.trans hlog)
        simp only [List.singleton_append, List.cons.injEq, Event.call.injEq, true_and] at heq
        rw [← heq.1] at hagrees
        exact hagrees
      · exact fun hagrees => ⟨old.woken, new, hnew, hagrees⟩
    show Answered S.log s'.log cur id st ↔ _
    rcases Sys.findState_cases hf with ⟨old, ht, rfl, ho⟩ | ⟨old, ht, hp, rfl, ho⟩ |
      ⟨d, w, ht, hp, -, -, rfl, rfl⟩ | ⟨ht, hp, -, rfl, rfl⟩
    · have ht' : S.atPlace (some j) id = some old := ht
      rw [hfound old rfl ho, ht', Option.some_or]
      simp
    · have ht' : S.atPlace (some j) id = none := ht
      have hp' : S.atPlace none id = some old := hp
      rw [hfound old rfl ho, ht', hp', Option.none_or]
      simp
    · have ht' : S.atPlace (some j) id = none := ht
      have hp' : S.atPlace none id = none := hp
      rw [ht', hp']
      obtain ⟨new, hnew⟩ := runState_log hrun
      refine iff_of_false ?_ (by simp)
      rintro ⟨st', new', hlog, -⟩
      have hnew' : s'.log = S.log ++ ([.run cur, .create id] ++
          .call id (State.new (S.sms j).startStateID d).woken :: new) := by
        rw [hnew]
        show S.log ++ [.run cur] ++ [.create id] ++ _ = _
        simp [view, Sys.emit]
      simpa using List.append_cancel_left (hnew'.symm.trans hlog)
    · have ht' : S.atPlace (some j) id = none := ht
      have hp' : S.atPlace none id = none := hp
      rw [ht', hp']
      obtain ⟨ba', rfl⟩ := Sys.markDropPkt_eq hrun
      refine iff_of_false ?_ (by simp)
      rintro ⟨st', new', hlog, -⟩
      have hnew' : S.log ++ ([.run cur] ++ [.discarded cur id]) = S.log ++ _ :=
        (List.append_assoc ..).symm.trans hlog
      simpa using List.append_cancel_left hnew'
  · simp at h

/--
**When a connection that is opened again is not lost.**

For every system, every way to open a connection and every sequence of other calls:
the next packet of it runs the function of the `State` that was opened exactly if its
machine finds nothing from earlier in its table or in the pool, or finds the same
state with the same data.  With an immediate transition on opening, what the second
function changes has to be nothing, as the pool keeps what the first one left.
-/
theorem System.Opens.answered_iff {env : Env K P W} {S S₁ S₂ S₃ : System ι K P D W} {i j : ι}
    {id : K} {left st : State D} {ba : BufArray P} {cur : Nat} {pkt : P}
    (hopen : S.Opens env i id left st S₁)
    (hrun : System.Run env (fun S c => c.Other env id S) S₁ S₂)
    (hpkt : ba.get cur = .ok pkt) (hid : env.identify pkt S₂.w = some id)
    (hcall : S₂.call env (.packet j ba cur) = .ok S₃) :
    Answered S₂.log S₃.log cur id st ↔ S.Reopens i j id left st := by
  obtain ⟨htables, hpool⟩ := hopen.atPlace
  rw [packet_answered_iff hpkt hid hcall, hrun.other, hrun.other, htables, hpool, Reopens]
  cases ht : S.atPlace (some j) id with
  | some old => simp
  | none =>
      cases hp : S.atPlace none id with
      | some old => simp
      | none =>
          by_cases hend : left.state = (S.sms i).endStateID
          · simp [hend]
          · simp [hend]

omit [Inhabited D] in
/-- Where the function that opens the connection does not transition immediately, the pool gets
what the caller is left with. -/
theorem System.Opens.left_eq {env : Env K P W} {S S' : System ι K P D W} {i : ι} {id : K}
    {left st : State D} {pw : Powers} (hw : (S.sms i).Within pw) (hnow : ¬ pw.now)
    (h : S.Opens env i id left st S') : left = st := by
  cases h with
  | @addState st₀ _ ba a s hfun hadd hend =>
      obtain ⟨a', b, ha', hb, -, rfl⟩ := addState_eq_ok hadd
      obtain rfl : a = a' := Except.ok.inj (hfun.symm.trans ha')
      have himm : a.iface.immediateTransition = false :=
        StateMachine.Within.callFun_immediate (by exact hw) hnow ha'
      rw [Activation.destroy_of_not_immediate (by exact himm)] at hb
      obtain ⟨ba', -, rfl⟩ := Activation.mark_eq_ok hb
      rfl
  | addStateNoFun hend => rfl

/-! ### A handshake packet that was lost -/

/-- Packets are their connection's number. -/
def retryEnv : Env Nat Nat Unit where
  identify := fun p _ => some p
  clock := fun n => (n : Int)
  topRule := Timeout.firstRule
  ndebug := false

/-- One client with one state. -/
def retry : System Unit Nat Nat Nat Unit where
  sms := fun _ => StateMachine.new.registerFunction 0 fun _ _ => .done
  connPool := ∅
  w := ()
  ticks := 0
  log := []

/-- One packet of connection 7. -/
def answer : BufArray Nat := (BufArray.new [7]).get BufArray.isSome_new_seven

/-- The client opens connection 7 with a cookie. -/
def connect (cookie : Nat) (S : System Unit Nat Nat Nat Unit) : System Unit Nat Nat Nat Unit :=
  S.update () (addStateNoFun 7 (State.new 0 cookie) (S.view () answer))

/-- With cookie 1 it gets no answer and opens the connection again, with cookie 2; the answer is
then checked against cookie 1. -/
theorem reopened_lost : ∃ S₃ : System Unit Nat Nat Nat Unit,
    System.Run retryEnv (fun _ _ => True) retry (connect 1 retry) ∧
    (connect 1 retry).Opens retryEnv () 7 (State.new 0 2) (State.new 0 2)
      (connect 2 (connect 1 retry)) ∧
    (connect 2 (connect 1 retry)).call retryEnv (.packet () answer 0) = .ok S₃ ∧
    ¬ Answered (connect 2 (connect 1 retry)).log S₃.log 0 7 (State.new 0 2) := by
  obtain ⟨S₃, h₃⟩ : ∃ S₃,
      (connect 2 (connect 1 retry)).call retryEnv (.packet () answer 0) = .ok S₃ := ⟨_, rfl⟩
  refine ⟨S₃, .step (.addStateNoFun () 7 (State.new 0 1) answer) .refl trivial rfl,
    .addStateNoFun (by decide), h₃, ?_⟩
  intro h
  obtain ⟨old, hold, -, hdata⟩ := (System.packet_answered_iff (show answer.get 0 = .ok 7 from rfl) rfl h₃).mp h
  have hone : State.new 0 1 = old := Option.some.inj hold
  rw [← hone] at hdata
  exact absurd hdata (by decide)

/-- It opens connection 8 as well before the answer comes. -/
def besides (S : System Unit Nat Nat Nat Unit) : System Unit Nat Nat Nat Unit :=
  S.update () (addStateNoFun 8 (State.new 0 5) (S.view () answer))

/-- Opened again with the same cookie, the connection is answered, and with another one it is
not. -/
theorem System.Opens.answered_iff_retry : ∃ S T : System Unit Nat Nat Nat Unit,
    (besides (connect 1 (connect 1 retry))).call retryEnv (.packet () answer 0) = .ok S ∧
      Answered (besides (connect 1 (connect 1 retry))).log S.log 0 7 (State.new 0 1) ∧
      (besides (connect 2 (connect 1 retry))).call retryEnv (.packet () answer 0) = .ok T ∧
      ¬ Answered (besides (connect 2 (connect 1 retry))).log T.log 0 7 (State.new 0 2) := by
  have hiff : ∀ cookie S, (besides (connect cookie (connect 1 retry))).call retryEnv
      (.packet () answer 0) = .ok S →
      (Answered (besides (connect cookie (connect 1 retry))).log S.log 0 7 (State.new 0 cookie) ↔
        (connect 1 retry).Reopens () () 7 (State.new 0 cookie) (State.new 0 cookie)) := by
    intro cookie S hcall
    have hend : (0 : StateID) ≠ ((connect 1 retry).sms ()).endStateID := by decide
    have hopen : (connect 1 retry).Opens retryEnv () 7 (State.new 0 cookie) (State.new 0 cookie)
        (connect cookie (connect 1 retry)) := .addStateNoFun hend
    have hbesides : System.Run retryEnv (fun S c => c.Other retryEnv 7 S)
        (connect cookie (connect 1 retry)) (besides (connect cookie (connect 1 retry))) :=
      .step (.addStateNoFun () 8 (State.new 0 5) answer) .refl (by simp [Call.Other]) rfl
    exact System.Opens.answered_iff hopen hbesides (show answer.get 0 = .ok 7 from rfl) rfl hcall
  obtain ⟨S, hS⟩ : ∃ S, (besides (connect 1 (connect 1 retry))).call retryEnv
      (.packet () answer 0) = .ok S := ⟨_, rfl⟩
  obtain ⟨T, hT⟩ : ∃ T, (besides (connect 2 (connect 1 retry))).call retryEnv
      (.packet () answer 0) = .ok T := ⟨_, rfl⟩
  refine ⟨S, T, hS, (hiff 1 S hS).mpr ⟨rfl, rfl⟩, hT, fun h => ?_⟩
  have hagrees : (State.new 0 1 : State Nat).Agrees (State.new 0 2) := (hiff 2 T hT).mp h
  exact absurd hagrees.2 (by decide)

end MoonState
