/-
What a packet cancels for good.

A packet of a connection cancels the one timeout its `State` remembers.  The `State`
remembers the last one set, until a packet comes or one of its timeouts fires.  So
when two are set in one call, or when one fires while another is valid, there is a
valid timeout that the next packet does not know of.

Where the packet finds each valid timeout of its connection remembered, none of
them ever fires: their IDs are invalid from then on, and as long as IDs do not wrap
nothing makes them valid again.
-/
import MoonState.Proofs.Instances
import MoonState.Proofs.Rearm

namespace MoonState

variable {K P D W : Type} [DecidableEq K] [Inhabited D]

/-- The step is a packet of the connection. -/
def Op.OfPacket (env : Env K P W) (s : Sys K P D W) (c : Op K P D) (id : K) : Prop :=
  ∃ cur pkt, c = .packet cur ∧ s.pktsBA.get cur = .ok pkt ∧ env.identify pkt s.w = some id

/-- **The condition on a step**: a packet finds every valid timeout of its connection remembered
by the `State`. -/
def Op.Recalled (env : Env K P W) (s : Sys K P D W) (c : Op K P D) : Prop :=
  ∀ id, c.OfPacket env s id → ∀ tid td, s.sm.timeoutFunctions.lookup tid = some td → td.id = id →
    s.Remembers id tid

/-- The next pass calls this function. -/
structure Sys.Fires (env : Env K P W) (s : Sys K P D W) (t : Timeout) (td : TimeoutData K P D W) :
    Prop where
  top : env.topRule.top s.sm.timeoutsQ = some t
  due : t.time ≤ env.clock s.ticks
  valid : s.sm.timeoutFunctions.lookup t.timeoutID = some td

/-! ### What becomes valid -/

/-- Each timeout that is valid after a step was valid before, or was set in the step. -/
theorem Sys.op_timeouts {env : Env K P W} {c : Op K P D} {s s' : Sys K P D W}
    (h : s.op env c = .ok s') :
    ∃ new, s'.log = s.log ++ new ∧ ∀ tid td, s'.sm.timeoutFunctions.lookup tid = some td →
      s.sm.timeoutFunctions.lookup tid = some td ∨ .arm tid td.id ∈ new := by
  -- a step that works for one connection
  have hof : ∀ {id : K}, Sys.Frame id s s' → ∃ new, s'.log = s.log ++ new ∧
      ∀ tid td, s'.sm.timeoutFunctions.lookup tid = some td →
        s.sm.timeoutFunctions.lookup tid = some td ∨ .arm tid td.id ∈ new := by
    intro id hframe
    obtain ⟨new, hnew⟩ := hframe.logs
    refine ⟨new, hnew.log, fun tid td hl => ?_⟩
    rcases hnew.timeouts tid td hl with hold | ⟨rfl, harm⟩
    · exact Or.inl hold
    · exact Or.inr harm
  cases c with
  | batch ba =>
      obtain rfl := Except.ok.inj h
      exact ⟨[], (List.append_nil _).symm, fun _ _ hl => Or.inl hl⟩
  | pass =>
      rcases Sys.pass_cases h with ⟨hsm, hlog⟩ | ⟨id, hframe⟩
      · refine ⟨[], hlog.trans (List.append_nil _).symm, fun tid td hl => Or.inl ?_⟩
        rwa [hsm] at hl
      · exact hof hframe
  | packet cur =>
      obtain ⟨pkt, -, ⟨-, ba, rfl⟩ | ⟨id, -, hframe⟩⟩ := runPkt_cases h
      · exact ⟨[.run cur, .unidentified cur], rfl, fun _ _ hl => Or.inl hl⟩
      · exact hof hframe
  | addState id st =>
      simp only [Sys.op] at h
      split at h
      · rename_i s₁ st' hadd
        obtain rfl := Except.ok.inj h
        exact hof (addState_frame hadd)
      · simp at h
  | addStateNoFun id st =>
      obtain rfl := Except.ok.inj h
      exact hof (addStateNoFun_frame st s)
  | removeState id =>
      obtain rfl := Except.ok.inj h
      exact hof (.removeState s)

/-- The same for a run. -/
theorem Sys.Run.timeouts {env : Env K P W} {ok : Sys K P D W → Op K P D → Sys K P D W → Prop}
    {s s' : Sys K P D W} (h : Sys.Run env ok s s') :
    ∃ new, s'.log = s.log ++ new ∧ ∀ tid td, s'.sm.timeoutFunctions.lookup tid = some td →
      s.sm.timeoutFunctions.lookup tid = some td ∨ .arm tid td.id ∈ new := by
  induction h with
  | refl => exact ⟨[], (List.append_nil _).symm, fun _ _ hl => Or.inl hl⟩
  | step c _ hop _ ih =>
      obtain ⟨l, hl, hvalid⟩ := ih
      obtain ⟨l', hl', hvalid'⟩ := Sys.op_timeouts hop
      refine ⟨l ++ l', by rw [hl', hl, List.append_assoc], fun tid td hlook => ?_⟩
      rcases hvalid' tid td hlook with hlook | harm
      · rcases hvalid tid td hlook with hold | harm
        · exact Or.inl hold
        · exact Or.inr (List.mem_append_left _ harm)
      · exact Or.inr (List.mem_append_right _ harm)

/-- The condition is needed: any other packet leaves a timeout of its connection valid. -/
theorem Sys.of_not_recalled {env : Env K P W} {c : Op K P D} {s s' : Sys K P D W}
    (h : s.op env c = .ok s') (hno : ¬ c.Recalled env s) :
    ∃ id tid td, c.OfPacket env s id ∧ td.id = id ∧ s.sm.timeoutFunctions.lookup tid = some td ∧
      s'.sm.timeoutFunctions.lookup tid = some td := by
  unfold Op.Recalled at hno
  push Not at hno
  obtain ⟨id, hc, tid, td, hl, htd, hforgot⟩ := hno
  obtain ⟨cur, pkt, rfl, hpkt, hid⟩ := hc
  obtain ⟨new, -, -, hkeep⟩ := runPkt_timeouts hpkt hid h
  exact ⟨id, tid, td, ⟨cur, pkt, rfl, hpkt, hid⟩, htd, hl, hkeep tid td hl hforgot⟩

/-- A packet that finds its timeouts remembered leaves only such timeouts of its connection valid
as it set itself. -/
theorem Op.Recalled.timeouts {env : Env K P W} {c : Op K P D} {s s' : Sys K P D W} {id : K}
    (hrec : c.Recalled env s) (hc : c.OfPacket env s id) (h : s.op env c = .ok s') :
    ∃ new, s'.log = s.log ++ new ∧ ∀ tid td, s'.sm.timeoutFunctions.lookup tid = some td →
      td.id = id → .arm tid id ∈ new := by
  have hall := hrec id hc
  obtain ⟨cur, pkt, rfl, hpkt, hid⟩ := hc
  obtain ⟨new, hlog, hvalid, -⟩ := runPkt_timeouts hpkt hid h
  refine ⟨new, hlog, fun tid td hl htd => ?_⟩
  rcases hvalid tid td hl with ⟨hold, hforgot⟩ | ⟨-, harm⟩
  · exact absurd (hall tid td hold htd) hforgot
  · exact harm

/-! ### Runs -/

/-- A run whose packets find their timeouts remembered. -/
abbrev Sys.RecalledRun (env : Env K P W) : Sys K P D W → Sys K P D W → Prop :=
  Sys.Run env fun s c _ => c.Recalled env s

omit [DecidableEq K] [Inhabited D] in
/-- An ID given out later was not given out before. -/
theorem Sys.Numbered.not_before {s s' : Sys K P D W} {new : List (Event K D P)} {tid : TimeoutID}
    {id id' : K} (h : s'.Numbered) (hids : s'.Unwrapped) (hlog : s'.log = s.log ++ new)
    (harm : .arm tid id ∈ new) : .arm tid id' ∉ s.log := by
  intro hbefore
  have hnodup := h.nodup hids
  rw [hlog, setIDs_append] at hnodup
  exact (List.disjoint_of_nodup_append hnodup) (mem_setIDs.mpr ⟨id', hbefore⟩)
    (mem_setIDs.mpr ⟨id, harm⟩)

/--
**A packet cancels all earlier timeouts of its connection**, in every run whose packets find
the valid timeouts of their connection remembered.

For every machine that starts without timeouts, all functions and any order of steps, while the
IDs do not wrap: whatever fires for the connection after a packet of it was set during that
packet, or after it.
-/
theorem Sys.RecalledRun.packet_cancels {env : Env K P W} {s₀ s₁ s₂ s₃ : Sys K P D W}
    {c : Op K P D} {id : K} (hstart : s₀.Fresh) (hbefore : Sys.RecalledRun env s₀ s₁)
    (hc : c.OfPacket env s₁ id) (hrec : c.Recalled env s₁) (hop : s₁.op env c = .ok s₂)
    (hafter : Sys.RecalledRun env s₂ s₃) (hids : s₃.Unwrapped) (t : Timeout)
    (td : TimeoutData K P D W) (hfires : s₃.Fires env t td) (htd : td.id = id) :
    .arm t.timeoutID id ∉ s₁.log := by
  have hnumbered : s₃.Numbered :=
    (Sys.Run.trans (.step c hbefore hop hrec) hafter).numbered hstart.numbered
  obtain ⟨l, hl, hpacket⟩ := hrec.timeouts hc hop
  obtain ⟨l', hl', hvalid⟩ := hafter.timeouts
  have hlog : s₃.log = s₁.log ++ (l ++ l') := by
    rw [hl', hl, List.append_assoc]
  have harm : .arm t.timeoutID id ∈ l ++ l' := by
    rcases hvalid t.timeoutID td hfires.valid with hold | harm
    · exact List.mem_append_left _ (hpacket t.timeoutID td hold htd)
    · rw [← htd]
      exact List.mem_append_right _ harm
  exact hnumbered.not_before hids hlog harm

/-! ### Two timeouts of one connection -/

/-- Sets a timeout with the first packet of its connection, and on connection 7 another one. -/
def doublyFun : StateFun Nat Nat Unit := fun st p =>
  if st.stateData = 0 then
    .put 1 () (.setTimeout 10 (fun _ => .done)
      (if p = 7 then .setTimeout 1 (fun _ => .done) .done else .done))
  else .done

/-- A client with that function. -/
def doubly : Sys Nat Nat Nat Unit :=
  { linger with sm := StateMachine.new.registerFunction 0 doublyFun }

/-- The client after it opened a connection and got its first packet. -/
def firstPacket (id idx : Nat) : Except Fault (Sys Nat Nat Nat Unit) :=
  runPkt rearmEnv idx (addStateNoFun id (State.new 0 0) doubly)

/-- The second packet of connection 7 cancels one of the two timeouts the first one set, and the
next pass fires the other. -/
theorem doubly_not_cancelled : ∃ s₁ s₂ : Sys Nat Nat Nat Unit,
    Sys.Run rearmEnv (fun _ _ _ => True) doubly s₁ ∧ s₁.op rearmEnv (.packet 0) = .ok s₂ ∧
      s₂.Unwrapped ∧ .arm 0 7 ∈ s₁.log ∧ ∃ td, s₂.Fires rearmEnv ⟨10, 0⟩ td ∧ td.id = 7 := by
  obtain ⟨s₁, h₁⟩ : ∃ s₁, firstPacket 7 0 = .ok s₁ := ⟨_, rfl⟩
  have hrun : Sys.Run rearmEnv (fun _ _ _ => True) doubly s₁ :=
    .step (.packet 0) (.step (.addStateNoFun 7 (State.new 0 0)) .refl rfl trivial) h₁ trivial
  obtain rfl : s₁ = ((firstPacket 7 0).toOption.get rfl) := by
    simp only [h₁]
    rfl
  exact ⟨_, _, hrun, rfl, by decide, by decide, _, ⟨rfl, by decide, rfl⟩, rfl⟩

/-- The second packet of connection 8 finds the one timeout the first one set remembered. -/
theorem Sys.RecalledRun.packet_cancels_doubly : ∃ s₁ s₂ : Sys Nat Nat Nat Unit,
    s₁.op rearmEnv (.packet 1) = .ok s₂ ∧
      ∀ t td, s₂.Fires rearmEnv t td → td.id = 8 → .arm t.timeoutID 8 ∉ s₁.log := by
  obtain ⟨s₁, h₁⟩ : ∃ s₁, firstPacket 8 1 = .ok s₁ := ⟨_, rfl⟩
  have hopen : (Op.addStateNoFun 8 (State.new 0 0) : Op Nat Nat Nat).Recalled rearmEnv doubly := by
    rintro id ⟨cur, pkt, hc, -⟩
    cases hc
  have hfirst : (Op.packet 1 : Op Nat Nat Nat).Recalled rearmEnv
      (addStateNoFun 8 (State.new 0 0) doubly) := by
    intro id _ tid td hl
    cases hl
  have hrun : Sys.RecalledRun rearmEnv doubly s₁ :=
    .step (.packet 1) (.step (.addStateNoFun 8 (State.new 0 0)) .refl rfl hopen) h₁ hfirst
  obtain rfl : s₁ = ((firstPacket 8 1).toOption.get rfl) := by
    simp only [h₁]
    rfl
  have hsecond : (Op.packet 1 : Op Nat Nat Nat).Recalled rearmEnv
      ((firstPacket 8 1).toOption.get rfl) := by
    rintro id ⟨cur, pkt, hc, hpkt, hid⟩ tid td hl htd
    have hone : (FMap.insertNew 0 ⟨8, fun _ => .done⟩ ∅ :
        FMap TimeoutID (TimeoutData Nat Nat Nat Unit)).lookup tid = some td := hl
    rcases FMap.lookup_insertNew_cases hone with hnone | ⟨rfl, -, rfl⟩
    · cases hnone
    · subst htd
      exact ⟨_, rfl, rfl, by decide⟩
  refine ⟨(firstPacket 8 1).toOption.get rfl, _, rfl, ?_⟩
  exact Sys.RecalledRun.packet_cancels (c := .packet 1) ⟨rfl, rfl, rfl, rfl⟩ hrun
    ⟨1, 8, rfl, rfl, rfl⟩ hsecond rfl .refl (by decide)

end MoonState
