/-
A net of HelloBye2 machines, and the protocol.

`Net.Shows` relates the two.  What a machine does with a batch is moves of the
protocol, by induction on the batch, so a run of the net is a run of the protocol;
`Net.shadow` says so for the runs in which no ident is opened twice.
-/
import MoonState.Lib.Steps
import MoonState.Proofs.Protocol

namespace MoonState.HelloBye2

open Headers

variable {ι κ : Type} [DecidableEq ι] [DecidableEq κ]

/-! ### Where the sessions are -/

namespace Place

def inTable (j : ι) : Option (Place ι κ × Client.Session) → Option Client.Session
  | some (.table j', x) => if j' = j then some x else none
  | _ => none

def inPool (k : κ) : Option (Place ι κ × Client.Session) → Option Client.Session
  | some (.pool k', x) => if k' = k then some x else none
  | _ => none

variable {o : Option (Place ι κ × Client.Session)} {x : Client.Session}

omit [DecidableEq κ] in
theorem inTable_eq_some {j : ι} : inTable j o = some x ↔ o = some (.table j, x) := by
  constructor
  · intro h
    unfold inTable at h
    split at h
    · rename_i j' y
      by_cases hj : j' = j
      · rw [if_pos hj] at h
        rw [hj, Option.some.inj h]
      · rw [if_neg hj] at h
        simp at h
    · simp at h
  · rintro rfl
    exact if_pos rfl

omit [DecidableEq ι] in
theorem inPool_eq_some {k : κ} : inPool k o = some x ↔ o = some (.pool k, x) := by
  constructor
  · intro h
    unfold inPool at h
    split at h
    · rename_i k' y
      by_cases hk : k' = k
      · rw [if_pos hk] at h
        rw [hk, Option.some.inj h]
      · rw [if_neg hk] at h
        simp at h
    · simp at h
  · rintro rfl
    exact if_pos rfl

/-- What a machine finds is near it. -/
theorem or_eq_some {S : Setting ι κ} {j : ι} :
    (inTable j o).or (inPool (S.poolOf j) o) = some x ↔ ∃ a, o = some (a, x) ∧ a.Near S j := by
  constructor
  · intro h
    rcases Option.or_eq_some_iff.mp h with h | ⟨-, h⟩
    · exact ⟨_, inTable_eq_some.mp h, Or.inl rfl⟩
    · exact ⟨_, inPool_eq_some.mp h, Or.inr rfl⟩
  · rintro ⟨a, rfl, rfl | rfl⟩
    · rw [inTable_eq_some.mpr rfl, Option.some_or]
    · rw [show inTable j (some ((.pool (S.poolOf j) : Place ι κ), x)) = none from rfl,
        inPool_eq_some.mpr rfl, Option.none_or]

omit [DecidableEq κ] in
theorem inTable_tabled (j : ι) (o : Option Client.Session) :
    inTable j (tabled j o : Option (Place ι κ × Client.Session)) = o := by
  cases o with
  | none => rfl
  | some x => exact inTable_eq_some.mpr rfl

omit [DecidableEq κ] in
theorem inTable_tabled_of_ne {j j' : ι} (h : j' ≠ j) (o : Option Client.Session) :
    inTable j' (tabled j o : Option (Place ι κ × Client.Session)) = none := by
  cases o with
  | none => rfl
  | some x => exact if_neg h.symm

omit [DecidableEq ι] in
theorem inPool_tabled (j : ι) (k : κ) (o : Option Client.Session) :
    inPool k (tabled j o : Option (Place ι κ × Client.Session)) = none := by
  cases o <;> rfl

end Place

/-! ### A packet for a client -/

namespace Proto

/-- The sessions in the table of a machine. -/
def own (s : Proto ι κ) (j : ι) : Client.Sessions := Place.inTable j ∘ s.client

/-- The sessions in a pool. -/
def pooled (s : Proto ι κ) (k : κ) : Client.Sessions := Place.inPool k ∘ s.client

variable (S : Setting ι κ)

/-- What a client leaves alone: the sessions that are not near it, and the server. -/
structure ClientRan (j : ι) (s s' : Proto ι κ) : Prop where
  own : ∀ j', j' ≠ j → s'.own j' = s.own j'
  pooled : ∀ k, k ≠ S.poolOf j → s'.pooled k = s.pooled k
  server : s'.server = s.server

variable {S} {j : ι} {s s' s'' : Proto ι κ}

theorem ClientRan.of_client (hclient : s'.client = s.client) (hserver : s'.server = s.server) :
    ClientRan S j s s' :=
  ⟨fun _ _ => congrArg (Place.inTable _ ∘ ·) hclient, fun _ _ => congrArg (Place.inPool _ ∘ ·) hclient,
    hserver⟩

theorem ClientRan.trans (h : ClientRan S j s s') (h' : ClientRan S j s' s'') : ClientRan S j s s'' :=
  ⟨fun j' hj => (h'.own j' hj).trans (h.own j' hj),
    fun k hk => (h'.pooled k hk).trans (h.pooled k hk), h'.server.trans h.server⟩

omit [DecidableEq κ] in
theorem own_of_ne {i : UInt64} {a : Place ι κ} {x : Client.Session} (hx : s.client i = some (a, x))
    (ha : a ≠ .table j) : s.own j i = none := by
  refine Option.eq_none_iff_forall_ne_some.mpr fun y hy => ha ?_
  exact (Prod.mk.inj (Option.some.inj (hx.symm.trans (Place.inTable_eq_some.mp hy)))).1

omit [DecidableEq ι] in
theorem pooled_of_ne {i : UInt64} {k : κ} {a : Place ι κ} {x : Client.Session}
    (hx : s.client i = some (a, x)) (ha : a ≠ .pool k) : s.pooled k i = none := by
  refine Option.eq_none_iff_forall_ne_some.mpr fun y hy => ha ?_
  exact (Prod.mk.inj (Option.some.inj (hx.symm.trans (Place.inPool_eq_some.mp hy)))).1

variable (s') in
/-- A machine puts a session of its own, or of its pool, in its table. -/
theorem tabled_ran {i : UInt64} {a : Place ι κ} {x : Client.Session} (hx : s.client i = some (a, x))
    (hnear : a.Near S j) (o : Option Client.Session)
    (hclient : s'.client = Function.update s.client i (Place.tabled j o))
    (hserver : s'.server = s.server) : ClientRan S j s s' ∧ s'.own j = Function.update (s.own j) i o ∧
      s'.pooled (S.poolOf j) = Function.update (s.pooled (S.poolOf j)) i none := by
  have hown : ∀ j', s'.own j' = Function.update (s.own j') i
      (Place.inTable j' (Place.tabled j o : Option (Place ι κ × _))) := by
    intro j'
    unfold own
    rw [hclient]
    exact Function.comp_update _ _ _ _
  have hpooled : ∀ k, s'.pooled k = Function.update (s.pooled k) i none := by
    intro k
    unfold pooled
    rw [hclient, ← Place.inPool_tabled j k o]
    exact Function.comp_update _ _ _ _
  refine ⟨⟨fun j' hj => ?_, fun k hk => ?_, hserver⟩, ?_, hpooled _⟩
  · have hne : a ≠ .table j' := by
      rintro rfl
      rcases hnear with h | h
      · exact hj (Place.table.inj h)
      · simp at h
    rw [hown, Place.inTable_tabled_of_ne hj, ← own_of_ne hx hne, Function.update_eq_self]
  · have hne : a ≠ .pool k := by
      rintro rfl
      rcases hnear with h | h
      · simp at h
      · exact hk (Place.pool.inj h)
    rw [hpooled, ← pooled_of_ne hx hne, Function.update_eq_self]
  · rw [hown, Place.inTable_tabled]

variable (S j s)

/-- **What a client does with a packet is a move.** -/
theorem client_moves (p : Packet) {m : Multiset Packet} (hflight : s.flight = p ::ₘ m) :
    ∃ s', Moves S s (.toClient j p) s' ∧ ClientRan S j s s' ∧ s'.opened = s.opened ∧
      s'.own j = (Client.step (s.own j) (s.pooled (S.poolOf j)) p).1 ∧
      s'.pooled (S.poolOf j) = (Client.step (s.own j) (s.pooled (S.poolOf j)) p).2.1 ∧
      s'.flight = m + sends (Client.step (s.own j) (s.pooled (S.poolOf j)) p).2.2 ∧
      s'.verdicts = s.verdicts ++ ((identify p).bind fun i =>
        ((s.own j i).or (s.pooled (S.poolOf j) i)).map fun x => x.judge i p).toList := by
  unfold Client.step
  cases hi : identify p with
  | none =>
      refine ⟨_, .ignore j p hflight fun i _ _ h => ?_, .of_client rfl rfl, rfl, rfl, rfl,
        (add_zero m).symm,
        (List.append_nil _).symm⟩
      rw [hi] at h
      simp at h
  | some i =>
      rw [Option.bind_some]
      dsimp only
      cases hown : s.own j i with
      | some x =>
          have hx := Place.inTable_eq_some.mp hown
          obtain ⟨hran, hown', hpool⟩ := tabled_ran (S := S) ({ s with
            client := Function.update s.client i (Place.tabled j (x.next p).1)
            flight := m + sends (x.next p).2
            verdicts := s.verdicts ++ [x.judge i p] }) hx (Or.inl rfl) (x.next p).1 rfl rfl
          refine ⟨_, .client j i p _ x hflight hi hx (Or.inl rfl), hran, rfl, hown', ?_, rfl, rfl⟩
          rw [hpool, ← pooled_of_ne (k := S.poolOf j) hx (by simp), Function.update_eq_self]
      | none =>
          cases hpooled : s.pooled (S.poolOf j) i with
          | some x =>
              have hx := Place.inPool_eq_some.mp hpooled
              obtain ⟨hran, hown', hpool⟩ := tabled_ran (S := S) ({ s with
                client := Function.update s.client i (Place.tabled j (x.next p).1)
                flight := m + sends (x.next p).2
                verdicts := s.verdicts ++ [x.judge i p] }) hx (Or.inr rfl) (x.next p).1 rfl rfl
              exact ⟨_, .client j i p _ x hflight hi hx (Or.inr rfl), hran, rfl, hown', hpool, rfl,
                rfl⟩
          | none =>
              refine ⟨_, .ignore j p hflight fun i' a x hi' hx hnear => ?_, .of_client rfl rfl, rfl, rfl,
                rfl, (add_zero m).symm, (List.append_nil _).symm⟩
              obtain rfl := Option.some.inj (hi.symm.trans hi')
              have h := Place.or_eq_some.mpr ⟨a, hx, hnear⟩
              rw [show Place.inTable j (s.client i) = none from hown,
                show Place.inPool (S.poolOf j) (s.client i) = none from hpooled] at h
              simp at h

end Proto

/-! ### Batches -/

omit [DecidableEq ι] [DecidableEq κ] in
theorem sent_cons (out : Packet × Bool) (outs : List (Packet × Bool)) :
    (sent (out :: outs) : Multiset Packet) = sends out + sent outs := by
  unfold sent sends
  cases h : out.2 with
  | true => simp [h]
  | false => simp [h]

omit [DecidableEq ι] [DecidableEq κ] in
/-- **A batch is moves**, if a packet is one.  `Sim` relates what the machine holds to the
protocol. -/
theorem Proto.batch_moves {S : Setting ι κ} {P : Delivery ι → Prop} {D : Type} [Inhabited D]
    {u : Service UInt64 D Packet Rand} (Sim : Proto ι κ → Held UInt64 D Rand → Prop)
    {d : Packet → Delivery ι} (v : UInt64 → State D → Packet → Bool → Verdict)
    (hone : ∀ s h p m, Sim s h → s.flight = p ::ₘ m → ∃ s' h' out, Moves S s (d p) s' ∧
      u.receive h p = some (h', out) ∧ Sim s' h' ∧ s'.flight = m + sends out ∧
      s'.verdicts = s.verdicts ++ ((u.served h p).map fun c => v c.1 c.2 p out.2).toList)
    (ps : List Packet) {s : Proto ι κ} {h : Held UInt64 D Rand} {m : Multiset Packet} (hs : Sim s h)
    (hflight : s.flight = ps + m) (hP : ∀ p ∈ ps, P (d p)) :
    ∃ s' h' outs, Steps (MovesOnly S P) s s' ∧ u.receiveAll ps h = some (h', outs) ∧ Sim s' h' ∧
      s'.flight = m + sent outs ∧
      s'.verdicts = s.verdicts ++ (u.callsAll ps h).map fun c => v c.1 c.2.1 c.2.2.1 c.2.2.2 := by
  induction ps generalizing s h m with
  | nil =>
      refine ⟨s, h, [], .refl, rfl, hs, ?_, (List.append_nil _).symm⟩
      rw [hflight]
      exact add_comm _ _
  | cons p ps ih =>
      rw [← Multiset.cons_coe, Multiset.cons_add] at hflight
      obtain ⟨s₁, h₁, out, hmove, hrec, hs₁, hflight₁, hverdicts₁⟩ := hone s h p _ hs hflight
      rw [add_assoc] at hflight₁
      obtain ⟨s', h', outs, hsteps, hall, hs', hflight', hverdicts'⟩ := ih hs₁ hflight₁ fun q hq =>
        hP q (List.mem_cons_of_mem _ hq)
      refine ⟨s', h', out :: outs, ?_, ?_, hs', ?_, ?_⟩
      · exact (Steps.refl.step (d p) ⟨hmove, hP p (List.mem_cons_self ..)⟩).trans hsteps
      · rw [Service.receiveAll, hrec]
        dsimp only
        rw [hall]
        rfl
      · rw [hflight', sent_cons, add_assoc]
      · rw [Service.callsAll, hrec]
        dsimp only
        rw [List.map_append, hverdicts', hverdicts₁, List.append_assoc]
        cases u.served h p <;> rfl

namespace Proto

variable (S : Setting ι κ)

/-- A batch for a client. -/
theorem client_batch {P : Delivery ι → Prop} (j : ι) (ps : List Packet) {s : Proto ι κ}
    {h : Held UInt64 (Ptr Client.Object) Rand} {m : Multiset Packet}
    (hs : Client.Shows (s.own j) (s.pooled (S.poolOf j)) h) (hflight : s.flight = ps + m)
    (hP : ∀ p ∈ ps, P (.toClient j p)) :
    ∃ s' h' outs, Steps (MovesOnly S P) s s' ∧
      (Client.service (S.config j)).receiveAll ps h = some (h', outs) ∧
      (ClientRan S j s s' ∧ s'.opened = s.opened ∧
        Client.Shows (s'.own j) (s'.pooled (S.poolOf j)) h') ∧
      s'.flight = m + sent outs ∧
      s'.verdicts = s.verdicts ++ ((Client.service (S.config j)).callsAll ps h).map fun c =>
        Client.verdict c.1 c.2.1 c.2.2.1 c.2.2.2 := by
  refine batch_moves (fun s' h' => ClientRan S j s s' ∧ s'.opened = s.opened ∧
    Client.Shows (s'.own j) (s'.pooled (S.poolOf j)) h') Client.verdict ?_ ps ⟨.of_client rfl rfl, rfl, hs⟩ hflight hP
  rintro s₁ h₁ p m₁ ⟨hran, hopened, hs₁⟩ hflight₁
  obtain ⟨s', hmove, hran', hopened', hown, hpool, hflight', hverdicts⟩ := client_moves S j s₁ p hflight₁
  obtain ⟨h', hrec, hs'⟩ := Client.receive_eq (S.config j) hs₁ p
  refine ⟨s', h', _, hmove, hrec, ⟨hran.trans hran', hopened'.trans hopened, ?_⟩, hflight', ?_⟩
  · rw [hown, hpool]
    exact hs'
  · rw [hverdicts, ← Client.served_eq (S.config j) hs₁ p]

/-- What a server leaves alone. -/
structure ServerRan (s s' : Proto ι κ) : Prop where
  client : s'.client = s.client
  opened : s'.opened = s.opened

omit [DecidableEq ι] [DecidableEq κ] in
/-- A batch for the server. -/
theorem server_batch {P : Delivery ι → Prop} (ps : List Packet) {s : Proto ι κ}
    {h : Held UInt64 (Ptr Server.Object) Rand} {m : Multiset Packet}
    (hs : Server.Shows s.server h) (hflight : s.flight = ps + m) (hP : ∀ p ∈ ps, P (.toServer p)) :
    ∃ s' h' outs, Steps (MovesOnly S P) s s' ∧ Server.service.receiveAll ps h = some (h', outs) ∧
      (ServerRan s s' ∧ Server.Shows s'.server h') ∧ s'.flight = m + sent outs ∧
      s'.verdicts = s.verdicts ++ (Server.service.callsAll ps h).map fun c =>
        Server.verdict c.1 c.2.1 c.2.2.1 := by
  refine batch_moves (fun s' h' => ServerRan s s' ∧ Server.Shows s'.server h')
    (fun i st p _ => Server.verdict i st p) ?_ ps ⟨⟨rfl, rfl⟩, hs⟩ hflight hP
  rintro s₁ h₁ p m₁ ⟨hran, hs₁⟩ hflight₁
  obtain ⟨h', hrec, hs'⟩ := Server.receive_eq hs₁ p
  have hserved := Server.served_eq hs₁ p
  cases hi : identify p with
  | none =>
      have hstep : Server.step s₁.server (Server.nextCookie h₁.rest) p = (s₁.server, p, false) := by
        unfold Server.step
        rw [hi]
      rw [hi] at hserved
      rw [hstep] at hrec hs'
      refine ⟨_, h', _, .unknown p hflight₁ hi, hrec, ⟨⟨hran.client, hran.opened⟩, hs'⟩,
        (add_zero m₁).symm, ?_⟩
      rw [hserved]
      exact (List.append_nil _).symm
  | some i =>
      rw [hi] at hserved
      refine ⟨_, h', _, .server i p (Server.nextCookie h₁.rest) hflight₁ hi, hrec,
        ⟨⟨hran.client, hran.opened⟩, hs'⟩, rfl, ?_⟩
      rw [hserved]
      rfl

end Proto

/-! ### The net -/

/-- What is taken out of the flight is the batch, and the rest stays. -/
theorem pick_eq {α : Type} (ks : List Nat) (l : List α) :
    (l : Multiset α) = (pick ks l).1 + (pick ks l).2 := by
  induction ks generalizing l with
  | nil => exact (zero_add _).symm
  | cons k ks ih =>
      rw [pick]
      cases hk : l[k]? with
      | none => exact ih l
      | some p =>
          obtain ⟨hlt, rfl⟩ := List.getElem?_eq_some_iff.mp hk
          show (l : Multiset α) = (l[k] :: (pick ks (l.eraseIdx k)).1 : Multiset α) + _
          rw [← Multiset.cons_coe, Multiset.cons_add, ← ih, Multiset.cons_coe, Multiset.coe_eq_coe]
          exact (List.getElem_cons_eraseIdx_perm hlt).symm

namespace Net

variable (S : Setting ι κ)

/-- The net is in that state of the protocol. -/
structure Shows (s : Proto ι κ) (n : Net ι κ) : Prop where
  clientRuns : ∀ j, (Client.service (S.config j)).Runs (n.client j)
  serverRuns : Server.service.Runs n.server
  table : ∀ j i, (n.client j).stateTable.lookup i = (s.own j i).map Client.Session.state
  pool : ∀ k i, (n.pool k).lookup i = (s.pooled k i).map Client.Session.state
  server : ∀ rnd, Server.Shows s.server (n.asServer rnd).held
  flight : s.flight = n.flight
  opened : s.opened = n.opened
  verdicts : s.verdicts = n.verdicts

variable {S} {s s' : Proto ι κ} {n n' : Net ι κ}

theorem start_shows : Shows S Proto.start (start S) := by
  refine ⟨fun _ => ⟨rfl, rfl, rfl, rfl, rfl, rfl⟩, ⟨rfl, rfl, rfl, rfl, rfl, rfl⟩, fun _ _ => ?_,
    fun _ _ => ?_, fun _ => ⟨fun _ => ?_, fun _ => ?_⟩, rfl, rfl, rfl⟩
  all_goals exact Finmap.lookup_empty _

theorem Shows.client (h : Shows S s n) (j : ι) (rnd : Rand) :
    Client.Shows (s.own j) (s.pooled (S.poolOf j)) (n.asClient S j rnd).held :=
  ⟨h.table j, h.pool (S.poolOf j)⟩

/-- A machine ran, and left its sessions and those of its pool. -/
theorem Shows.putClient (h : Shows S s n) {j : ι}
    {x : Instance UInt64 (Ptr Client.Object) Packet Rand}
    (hruns : (Client.service (S.config j)).Runs x.sm) (hran : Proto.ClientRan S j s s')
    (hx : Client.Shows (s'.own j) (s'.pooled (S.poolOf j)) x.held) {flight : List Packet}
    (hflight : s'.flight = flight) {opened : List UInt64} (hopened : s'.opened = opened)
    {verdicts : List Verdict} (hverdicts : s'.verdicts = verdicts) :
    Shows S s' { n.putClient S j x with
      flight := flight, opened := opened, verdicts := verdicts } := by
  refine ⟨fun j' => ?_, h.serverRuns, fun j' i => ?_, fun k i => ?_, ?_, hflight, hopened, hverdicts⟩
  · show (Client.service _).Runs (Function.update n.client j x.sm j')
    by_cases hj : j' = j
    · rw [hj, Function.update_self]
      exact hruns
    · rw [Function.update_of_ne hj]
      exact h.clientRuns j'
  · show (Function.update n.client j x.sm j').stateTable.lookup i = _
    by_cases hj : j' = j
    · rw [hj, Function.update_self]
      exact hx.table i
    · rw [Function.update_of_ne hj, hran.own j' hj]
      exact h.table j' i
  · show (Function.update n.pool (S.poolOf j) x.connPool k).lookup i = _
    by_cases hk : k = S.poolOf j
    · rw [hk, Function.update_self]
      exact hx.pool i
    · rw [Function.update_of_ne hk, hran.pooled k hk]
      exact h.pool k i
  · rw [hran.server]
    exact h.server

theorem Shows.flight_eq (h : Shows S s n) (picks : List Nat) :
    s.flight = (pick picks n.flight).1 + ((pick picks n.flight).2 : Multiset Packet) :=
  h.flight.trans (pick_eq picks n.flight)

variable {P : Delivery ι → Prop}

/-- A client has done what the protocol does. -/
theorem Shows.client_done (h : Shows S s n) (j : ι) (picks : List Nat) (rnd : Rand)
    (hpos : 0 < (pick picks n.flight).1.length) (hlt : (pick picks n.flight).1.length < 2 ^ 32)
    {h' : Held UInt64 (Ptr Client.Object) Rand} {outs : List (Packet × Bool)}
    (hall : (Client.service (S.config j)).receiveAll (pick picks n.flight).1
      (n.asClient S j rnd).held = some (h', outs))
    (hran : Proto.ClientRan S j s s') (hopened : s'.opened = s.opened)
    (hs' : Client.Shows (s'.own j) (s'.pooled (S.poolOf j)) h')
    (hflight : s'.flight = (pick picks n.flight).2 + sent outs)
    (hverdicts : s'.verdicts = s.verdicts ++ ((Client.service (S.config j)).callsAll
      (pick picks n.flight).1 (n.asClient S j rnd).held).map fun c =>
        Client.verdict c.1 c.2.1 c.2.2.1 c.2.2.2) :
    ∃ n', n.step S (.client j picks rnd) = .ok n' ∧ Shows S s' n' := by
  have hprocess := Instance.process_eq S.platform (x := n.asClient S j rnd) (h.clientRuns j) _
    hpos hlt
  have hcalls := Instance.calls_eq S.platform (x := n.asClient S j rnd) (h.clientRuns j) _ hpos hlt
    (by rw [hall]; exact Option.some_ne_none _)
  rw [hall] at hprocess
  obtain ⟨x', hx', hheld, hruns⟩ := hprocess
  rw [← hcalls, h.verdicts] at hverdicts
  rw [← hheld] at hs'
  refine ⟨{ n.putClient S j x' with
      flight := (pick picks n.flight).2 ++ sent outs, opened := n.opened, verdicts := _ }, ?_,
    h.putClient hruns hran hs' (hflight.trans (Multiset.coe_add _ _)) (hopened.trans h.opened)
      hverdicts⟩
  show Except.map _ (Instance.process _ _ _ _) = _
  rw [hx']
  rfl

/-- A client gets a batch. -/
theorem Shows.client_step (h : Shows S s n) (j : ι) (picks : List Nat) (rnd : Rand)
    (hpos : 0 < (pick picks n.flight).1.length) (hlt : (pick picks n.flight).1.length < 2 ^ 32)
    (hP : ∀ p ∈ (pick picks n.flight).1, P (.toClient j p)) :
    ∃ n' s', n.step S (.client j picks rnd) = .ok n' ∧ Steps (MovesOnly S P) s s' ∧ Shows S s' n' := by
  obtain ⟨s', h', outs, hsteps, hall, ⟨hran, hopened, hs'⟩, hflight, hverdicts⟩ :=
    Proto.client_batch S j _ (h.client j rnd) (h.flight_eq picks) hP
  obtain ⟨n', hn', hshows⟩ := h.client_done j picks rnd hpos hlt hall hran hopened hs' hflight hverdicts
  exact ⟨n', s', hn', hsteps, hshows⟩

/-- A client gets the only message. -/
theorem Shows.client_one (h : Shows S s n) (j : ι) (rnd : Rand) {p : Packet}
    (hp : n.flight = [p]) : ∃ n' s', n.Does S (.client j [0] rnd) n' ∧
      Moves S s (.toClient j p) s' ∧ Shows S s' n' := by
  have hflight : s.flight = p ::ₘ 0 := by
    rw [h.flight, hp]
    rfl
  have hpick : pick [0] n.flight = ([p], []) := by
    rw [hp]
    rfl
  obtain ⟨s', hmove, hran, hopened, hown, hpool, hflight', hverdicts⟩ :=
    Proto.client_moves S j s p hflight
  obtain ⟨h', hrec, hs'⟩ := Client.receive_eq (S.config j) (h.client j rnd) p
  rw [← hown, ← hpool] at hs'
  have hall : (Client.service (S.config j)).receiveAll (pick [0] n.flight).1
      (n.asClient S j rnd).held
      = some (h', [(Client.step (s.own j) (s.pooled (S.poolOf j)) p).2.2]) := by
    rw [hpick, Service.receiveAll, hrec]
    rfl
  obtain ⟨n', hn', hshows⟩ := h.client_done j [0] rnd (by rw [hpick]; exact Nat.zero_lt_one)
    (by rw [hpick]; exact Nat.one_lt_two_pow (by decide)) hall hran hopened hs'
    (by rw [hpick, hflight', sent_cons]; exact congrArg (0 + ·) (add_zero _).symm) (by
      rw [hpick, hverdicts, ← Client.served_eq (S.config j) (h.client j rnd) p, Service.callsAll, hrec]
      cases (Client.service (S.config j)).served (n.asClient S j rnd).held p <;> rfl)
  exact ⟨n', s', hn', hmove, hshows⟩

/-- The server gets a batch. -/
theorem Shows.server_step (h : Shows S s n) (picks : List Nat) (rnd : Rand)
    (hpos : 0 < (pick picks n.flight).1.length) (hlt : (pick picks n.flight).1.length < 2 ^ 32)
    (hP : ∀ p ∈ (pick picks n.flight).1, P (.toServer p)) :
    ∃ n' s', n.step S (.server picks rnd) = .ok n' ∧ Steps (MovesOnly S P) s s' ∧ Shows S s' n' := by
  obtain ⟨s', h', outs, hsteps, hall, ⟨hran, hs'⟩, hflight, hverdicts⟩ :=
    Proto.server_batch S _ (h.server rnd) (h.flight_eq picks) hP
  have hprocess := Instance.process_eq S.platform (x := n.asServer rnd) h.serverRuns _ hpos hlt
  have hcalls := Instance.calls_eq S.platform (x := n.asServer rnd) h.serverRuns _ hpos hlt
    (by rw [hall]; exact Option.some_ne_none _)
  rw [hall] at hprocess
  obtain ⟨x', hx', hheld, hruns⟩ := hprocess
  rw [← hcalls, h.verdicts] at hverdicts
  rw [← hheld] at hs'
  refine ⟨{ n with
      server := x'.sm
      serverPool := x'.connPool
      flight := (pick picks n.flight).2 ++ sent outs
      verdicts := _ }, s', ?_, hsteps, h.clientRuns, hruns, ?_, ?_, fun _ => ⟨hs'.table, hs'.pool⟩,
    hflight.trans (Multiset.coe_add _ _), hran.opened.trans h.opened, hverdicts⟩
  · show Except.map _ (Instance.process _ _ _ _) = _
    rw [hx']
    rfl
  · intro j i
    unfold Proto.own
    rw [hran.client]
    exact h.table j i
  · intro k i
    unfold Proto.pooled
    rw [hran.client]
    exact h.pool k i

/-- A client opens a connection nobody opened before. -/
theorem Shows.connect_step (h : Shows S s n) (hopened : ∀ i, s.client i ≠ none → i ∈ s.opened)
    (j : ι) (dstIP : UInt32) (srcPort : UInt16) {ident : UInt64} (hnew : ident ∉ n.opened)
    (pkt : Packet) (rnd : Rand) (hP : ∀ p, P (.opens p)) :
    ∃ n' s', n.step S (.connect j dstIP srcPort ident pkt rnd) = .ok n' ∧
      Steps (MovesOnly S P) s s' ∧ Shows S s' n' := by
  rw [← h.opened] at hnew
  have hnone : s.client ident = none := not_not.mp fun hc => hnew (hopened ident hc)
  have hfree : s.pooled (S.poolOf j) ident = none := congrArg (Place.inPool _) hnone
  obtain ⟨x', p, c, hx', hruns, hx, hclear, his⟩ := Client.connect_eq (S.config j) S.platform
    (h.clientRuns j) (h.client j rnd) hfree dstIP srcPort pkt
  obtain ⟨s', hs'⟩ : ∃ s' : Proto ι κ, s' = { s with
      client := Function.update s.client ident (some (.pool (S.poolOf j), .hello c))
      flight := p ::ₘ s.flight
      opened := ident :: s.opened } := ⟨_, rfl⟩
  have hown : ∀ j', s'.own j' = s.own j' := by
    intro j'
    rw [hs']
    show Place.inTable j' ∘ Function.update s.client ident _ = _
    rw [Function.comp_update]
    refine Function.update_eq_self_iff.mpr ?_
    show none = Place.inTable j' (s.client ident)
    rw [hnone]
    rfl
  have hpooled : ∀ k, s'.pooled k = Function.update (s.pooled k) ident
      (Place.inPool k (some ((.pool (S.poolOf j) : Place ι κ), .hello c))) := by
    intro k
    rw [hs']
    exact Function.comp_update _ _ _ _
  have hran : Proto.ClientRan S j s s' := by
    refine ⟨fun j' _ => hown j', fun k hk => ?_, by rw [hs']⟩
    rw [hpooled]
    refine Function.update_eq_self_iff.mpr ?_
    show (if S.poolOf j = k then _ else _) = Place.inPool k (s.client ident)
    rw [if_neg fun hc => hk hc.symm, hnone]
    rfl
  have hx'' : Client.Shows (s'.own j) (s'.pooled (S.poolOf j)) x'.held := by
    rw [hown, hpooled, Place.inPool_eq_some.mpr rfl]
    exact hx
  refine ⟨{ n.putClient S j x' with
      flight := n.flight ++ [p], opened := ident :: n.opened, verdicts := n.verdicts }, s', ?_, ?_,
    h.putClient hruns hran hx'' ?_ ?_ ?_⟩
  · show Except.map _ (Client.connect _ _ _ _ _ _ _) = _
    rw [hx']
    rfl
  · rw [hs']
    exact Steps.refl.step (.opens p) ⟨.connect j ident c p hnew hclear his, hP p⟩
  · rw [hs']
    show p ::ₘ s.flight = _
    rw [h.flight, Multiset.cons_coe, Multiset.coe_eq_coe]
    exact (List.perm_append_singleton p n.flight).symm
  · rw [hs', ← h.opened]
  · rw [hs', ← h.verdicts]

/-- The messages are others. -/
theorem Shows.withFlight (h : Shows S s n) {m : Multiset Packet} {l : List Packet} (hml : m = l) :
    Shows S { s with flight := m } { n with flight := l } :=
  ⟨h.clientRuns, h.serverRuns, h.table, h.pool, h.server, hml, h.opened, h.verdicts⟩

/-- A message is lost. -/
theorem Shows.lose_step (h : Shows S s n) (k : Nat) (hP : ∀ p, P (.loses p)) :
    ∃ n' s', n.step S (.lose k) = .ok n' ∧ Steps (MovesOnly S P) s s' ∧ Shows S s' n' := by
  by_cases hk : k < n.flight.length
  · have hflight : s.flight = n.flight[k] ::ₘ (n.flight.eraseIdx k : Multiset Packet) := by
      rw [h.flight, Multiset.cons_coe, Multiset.coe_eq_coe]
      exact (List.getElem_cons_eraseIdx_perm hk).symm
    exact ⟨_, _, rfl, Steps.refl.step (.loses _) ⟨.lose _ hflight, hP _⟩, h.withFlight rfl⟩
  · refine ⟨_, s, rfl, .refl, ?_⟩
    rw [List.eraseIdx_of_length_le (by omega)]
    exact h

/-- A message is doubled. -/
theorem Shows.duplicate_step (h : Shows S s n) (k : Nat) (hP : ∀ p, P (.doubles p)) :
    ∃ n' s', n.step S (.duplicate k) = .ok n' ∧ Steps (MovesOnly S P) s s' ∧ Shows S s' n' := by
  by_cases hk : k < n.flight.length
  · have hflight : s.flight = n.flight[k] ::ₘ (n.flight.eraseIdx k : Multiset Packet) := by
      rw [h.flight, Multiset.cons_coe, Multiset.coe_eq_coe]
      exact (List.getElem_cons_eraseIdx_perm hk).symm
    refine ⟨_, _, rfl, Steps.refl.step (.doubles _) ⟨.double _ hflight, hP _⟩, h.withFlight ?_⟩
    rw [h.flight, Multiset.cons_coe, Multiset.coe_eq_coe, List.getElem?_eq_getElem hk]
    exact (List.perm_append_singleton _ _).symm
  · refine ⟨_, s, rfl, .refl, ?_⟩
    rw [List.getElem?_eq_none (by omega), Option.toList_none, List.append_nil]
    exact h

/-! ### Runs -/

/-- The calls of the act are ones the programs can make, and its ident is new. -/
def Fits (n : Net ι κ) : Act ι → Prop
  | .connect _ _ _ ident _ _ => ident ∉ n.opened
  | .client _ picks _ =>
    0 < (pick picks n.flight).1.length ∧ (pick picks n.flight).1.length < 2 ^ 32
  | .server picks _ =>
    0 < (pick picks n.flight).1.length ∧ (pick picks n.flight).1.length < 2 ^ 32
  | .lose _ => True
  | .duplicate _ => True

/-- The act is deliveries of that kind. -/
def Makes (P : Delivery ι → Prop) (n : Net ι κ) : Act ι → Prop
  | .connect .. => ∀ p, P (.opens p)
  | .client j picks _ => ∀ p ∈ (pick picks n.flight).1, P (.toClient j p)
  | .server picks _ => ∀ p ∈ (pick picks n.flight).1, P (.toServer p)
  | .lose _ => ∀ p, P (.loses p)
  | .duplicate _ => ∀ p, P (.doubles p)

/-- **What a net does is moves**, and it can do what fits. -/
theorem Shows.step (h : Shows S s n) (hopened : ∀ i, s.client i ≠ none → i ∈ s.opened) {a : Act ι}
    (hfits : n.Fits a) (hP : n.Makes P a) :
    ∃ n' s', n.step S a = .ok n' ∧ Steps (MovesOnly S P) s s' ∧ Shows S s' n' := by
  cases a with
  | connect j dstIP srcPort ident pkt rnd =>
      exact h.connect_step hopened j dstIP srcPort hfits pkt rnd hP
  | client j picks rnd => exact h.client_step j picks rnd hfits.1 hfits.2 hP
  | server picks rnd => exact h.server_step picks rnd hfits.1 hfits.2 hP
  | lose k => exact h.lose_step k hP
  | duplicate k => exact h.duplicate_step k hP

omit [DecidableEq ι] in
theorem map_eq_ok {α β : Type} {f : α → β} {r : Except Fault α} {b : β}
    (h : r.map f = .ok b) : ∃ a, r = .ok a ∧ f a = b := by
  cases r with
  | error e => simp [Except.map] at h
  | ok a => exact ⟨a, rfl, Except.ok.inj h⟩

/-- An act that was done did fit, if no ident was opened twice. -/
theorem Does.fits {a : Act ι} (h : n.Does S a n') (hnodup : n'.opened.Nodup) :
    n.Fits a ∧ n.opened.Nodup := by
  cases a with
  | connect j dstIP srcPort ident pkt rnd =>
      obtain ⟨⟨x, outs⟩, -, rfl⟩ := map_eq_ok h
      exact List.nodup_cons.mp hnodup
  | client j picks rnd =>
      obtain ⟨⟨x, outs⟩, hx, rfl⟩ := map_eq_ok h
      exact ⟨Instance.process_fits S.platform hx, hnodup⟩
  | server picks rnd =>
      obtain ⟨⟨x, outs⟩, hx, rfl⟩ := map_eq_ok h
      exact ⟨Instance.process_fits S.platform hx, hnodup⟩
  | lose k =>
      obtain rfl := Except.ok.inj h
      exact ⟨trivial, hnodup⟩
  | duplicate k =>
      obtain rfl := Except.ok.inj h
      exact ⟨trivial, hnodup⟩

end Net

namespace Net

variable {S : Setting ι κ} {P : Delivery ι → Prop} {n n' : Net ι κ}

variable (S P) in
/-- An act that is deliveries of some kind. -/
def DoesOnly (n : Net ι κ) (a : Act ι) (n' : Net ι κ) : Prop := n.Does S a n' ∧ n.Makes P a

/-- The protocol behind a run. -/
structure Shadow (S : Setting ι κ) (P : Delivery ι → Prop) (s : Proto ι κ) (n : Net ι κ) : Prop where
  state : Shows S s n
  steps : Steps (MovesOnly S P) Proto.start s

theorem Shadow.sound {s : Proto ι κ} (h : Shadow S P s n) : s.Sound :=
  h.steps.invariant Proto.start_sound fun _ _ _ hs hmove => hmove.1.sound hs

/-- **A run of the net is a run of the protocol**, if no ident is opened twice. -/
theorem shadow (hrun : Steps (DoesOnly S P) (start S) n) (hnodup : n.opened.Nodup) :
    ∃ s, Shadow S P s n := by
  induction hrun with
  | refl => exact ⟨Proto.start, start_shows, .refl⟩
  | step a hrun hstep ih =>
      obtain ⟨hfits, hnodup'⟩ := hstep.1.fits hnodup
      obtain ⟨s, hs⟩ := ih hnodup'
      obtain ⟨n'', s', hn'', hsteps, hshows⟩ := hs.state.step hs.sound.opened hfits hstep.2
      obtain rfl := Except.ok.inj (hn''.symm.trans hstep.1)
      exact ⟨s', hshows, hs.steps.trans hsteps⟩

instance (route : UInt64 → ι) (n : Net ι κ) (a : Act ι) : Decidable (n.Makes (Straight route) a) :=
  match a with
  | .connect .. => isTrue fun _ => trivial
  | .client j picks _ =>
    inferInstanceAs (Decidable (∀ p ∈ (pick picks n.flight).1, Straight route (.toClient j p)))
  | .server picks _ =>
    inferInstanceAs (Decidable (∀ p ∈ (pick picks n.flight).1, Straight route (.toServer p)))
  | .lose _ => isFalse fun h => h default
  | .duplicate _ => isFalse fun h => h default

variable (S) in
/-- What becomes of a net, if the network delivers each message once. -/
def run (route : UInt64 → ι) (acts : List (Act ι)) : Except Fault (Net ι κ) :=
  acts.foldlM (fun n a => if n.Makes (Straight route) a then n.step S a else .error .exception)
    (start S)

theorem run_steps {route : UInt64 → ι} {acts : List (Act ι)} (h : run S route acts = .ok n) :
    Steps (DoesOnly S (Straight route)) (start S) n := by
  refine (Steps.of_foldlM acts h).mono fun n a n' hstep => ?_
  by_cases hmakes : n.Makes (Straight route) a
  · rw [if_pos hmakes] at hstep
    exact ⟨hstep, hmakes⟩
  · rw [if_neg hmakes] at hstep
    simp at hstep

end Net

/-- Two clients with one pool. -/
def pair : Setting Bool Unit where
  config := fun _ => ⟨1, 2⟩
  poolOf := fun _ => ()
  platform := { clock := fun _ => 0, topRule := Timeout.firstRule, ndebug := false }

/-- A session, up to where the server has said goodbye. -/
def parting : List (Act Bool) :=
  [.connect false 9 8 7 default fun _ => 5, .server [0] fun _ => 3, .client true [0] fun _ => 0,
    .server [0] fun _ => 0]

/-- What there is to see of a net: what was opened and decided, the session of the second client,
and the messages. -/
structure Sight where
  opened : List UInt64
  verdicts : List Verdict
  session : Option (Ptr Client.Object × StateID × TimeoutID)
  flight : List (Option UInt64 × UInt8 × UInt8 × UInt8)
deriving DecidableEq

def seen : Except Fault (Net Bool Unit) → Option Sight
  | .error _ => none
  | .ok n => some {
    opened := n.opened
    verdicts := n.verdicts
    session := ((n.client true).stateTable.lookup 7).map fun st => (st.stateData, st.state, st.timeoutID)
    flight := n.flight.map fun q =>
      (identify q, Msg.role q.data q.msg, Msg.msg q.data q.msg, q.cookie) }

/-- The server's goodbye is the only message, and it is for the session of the second client. -/
theorem parted : ∃ n s p, Steps (Net.DoesOnly pair (Straight fun _ => true)) (Net.start pair) n ∧
    Net.Shadow pair (Straight fun _ => true) s n ∧ n.opened = [7] ∧ n.verdicts = [.greets 7, .greets 7, .accepts 7 5 3] ∧ n.flight = [p] ∧
    p.Is 7 Msg.ROLE_SERVER Msg.MSG_BYE 5 ∧ s.client 7 = some (.table true, .bye 5 3) := by
  have hseen : seen (Net.run pair (fun _ => true) parting) = some {
      opened := [7]
      verdicts := [.greets 7, .greets 7, .accepts 7 5 3]
      session := some (.to (.recvBye ⟨5, 3⟩), MoonState.Client.States.RecvBye, timeoutIDInvalid)
      flight := [(some 7, Msg.ROLE_SERVER, Msg.MSG_BYE, 5)] } := by decide +kernel
  cases hrun : Net.run pair (fun _ => true) parting with
  | error e =>
      rw [hrun] at hseen
      simp [seen] at hseen
  | ok n =>
      rw [hrun] at hseen
      obtain ⟨hopened, hverdicts, hsession, hflight⟩ := Sight.mk.inj (Option.some.inj hseen)
      obtain ⟨st, hlookup, hst⟩ := Option.map_eq_some_iff.mp hsession
      obtain ⟨p, hp, hq⟩ := List.map_eq_singleton_iff.mp hflight
      obtain ⟨hi, h⟩ := Prod.mk.inj hq
      obtain ⟨hrole, h⟩ := Prod.mk.inj h
      obtain ⟨hmsg, hcookie⟩ := Prod.mk.inj h
      have hsteps := Net.run_steps hrun
      obtain ⟨s, hs⟩ := Net.shadow hsteps (by rw [hopened]; decide)
      refine ⟨n, s, p, hsteps, hs, hopened, hverdicts, hp, ⟨hi, ⟨hrole, hmsg⟩, hcookie⟩, ?_⟩
      rw [hs.state.table, Option.map_eq_some_iff] at hlookup
      obtain ⟨x, hx, rfl⟩ := hlookup
      have hbye : x = .bye 5 3 := by
        obtain ⟨hdata, -⟩ := Prod.mk.inj hst
        cases x with
        | hello c => simp [Client.Session.state] at hdata
        | bye c d =>
            refine Client.Session.state_inj ?_
            rw [Client.Session.state] at hdata ⊢
            dsimp only at hdata
            rw [hdata]
            rfl
      rw [← hbye]
      exact Place.inTable_eq_some.mp hx

end MoonState.HelloBye2
