/-
Every session of HelloBye2 completes, if the network delivers each message once.

Then there is one message of a connection at a time, and `Stage` says what the client
and the server know while it is on its way.  No message is left exactly when every
connection is at the last stage.

A pool of several machines does not suffice for that: a session is in the table of the
machine that got the server's hello, and the others drop the goodbye.

No ident that is opened is one of the two keys the state table keeps for itself; then no
message in flight has one either, and the tables take every ident they are given.
-/
import MoonState.Proofs.Agreement
import MoonState.Proofs.Reserved

namespace MoonState.HelloBye2

open Headers

variable {ι : Type}

/-! ### One connection -/

/-- How far a connection is. -/
inductive Stage (route : UInt64 → ι) (i : UInt64) (s : Proto ι Unit) : Prop
  | unopened (hnew : i ∉ s.opened) (h : Fresh i s)
  | hello (c : UInt8) (p : Packet) (hclient : s.client i = some (.pool (), .hello c))
      (hserver : s.server i = none) (habout : s.about i = {p})
      (hp : p.Is i Msg.ROLE_CLIENT Msg.MSG_HELLO c)
  | answered (c d : UInt8) (p : Packet) (hclient : s.client i = some (.pool (), .hello c))
      (hserver : s.server i = some (c, d)) (habout : s.about i = {p})
      (hp : p.Is i Msg.ROLE_SERVER Msg.MSG_HELLO d)
  | parting (c d : UInt8) (p : Packet) (hclient : s.client i = some (.table (route i), .bye c d))
      (hserver : s.server i = some (c, d)) (habout : s.about i = {p})
      (hp : p.Is i Msg.ROLE_CLIENT Msg.MSG_BYE d)
  | parted (c d : UInt8) (p : Packet) (hclient : s.client i = some (.table (route i), .bye c d))
      (hserver : s.server i = none) (habout : s.about i = {p})
      (hp : p.Is i Msg.ROLE_SERVER Msg.MSG_BYE c)
  | done (c d : UInt8) (hopened : i ∈ s.opened) (h : Fresh i s)
      (hcompletes : .completes i c.toNat d.toNat false ∈ s.verdicts)

/-- The session goes well. -/
def Verdict.Fine : Verdict → Prop
  | .greets _ | .accepts _ _ _ => True
  | .completes _ _ _ sent => sent = false
  | .rejects _ => False

variable {route : UInt64 → ι} {i : UInt64} {s s' : Proto ι Unit} {S : Setting ι Unit} {p : Packet}
  {m : Multiset Packet}

theorem Stage.of_same (h : Stage route i s) (hsame : s.Same i s') : Stage route i s' := by
  obtain ⟨hclient', hserver', habout', hopened', hverdicts'⟩ := hsame
  cases h with
  | unopened hnew h =>
      exact .unopened (fun hc => hnew (hopened'.mp hc))
        ⟨hclient'.trans h.client, hserver'.trans h.server, habout'.trans h.about⟩
  | hello c p hclient hserver habout hp =>
      exact .hello c p (hclient'.trans hclient) (hserver'.trans hserver) (habout'.trans habout) hp
  | answered c d p hclient hserver habout hp =>
      exact .answered c d p (hclient'.trans hclient) (hserver'.trans hserver) (habout'.trans habout) hp
  | parting c d p hclient hserver habout hp =>
      exact .parting c d p (hclient'.trans hclient) (hserver'.trans hserver) (habout'.trans habout) hp
  | parted c d p hclient hserver habout hp =>
      exact .parted c d p (hclient'.trans hclient) (hserver'.trans hserver) (habout'.trans habout) hp
  | done c d hopened h hcompletes =>
      exact .done c d (hopened'.mpr hopened)
        ⟨hclient'.trans h.client, hserver'.trans h.server, habout'.trans h.about⟩
        (hverdicts' hcompletes)

/-- There is one message of the connection, and it is taken. -/
theorem only_message {q : Packet} (hflight : s.flight = p ::ₘ m) (hi : identify p = some i)
    (habout : s.about i = {q}) : p = q ∧ messages i m = 0 := by
  rw [Proto.about, hflight, messages_cons hi] at habout
  obtain ⟨rfl, hm⟩ := (Multiset.singleton_eq_cons_iff _).mp habout.symm
  exact ⟨rfl, hm⟩

theorem no_message (hflight : s.flight = p ::ₘ m) (hi : identify p = some i) (h : s.about i = 0) :
    False := by
  rw [Proto.about, hflight, messages_cons hi] at h
  exact Multiset.cons_ne_zero h

/-- What is left of the connection, and the answer. -/
theorem messages_answer {role msg cookie : UInt8} (hclear : p.Clear) (hi : identify p = some i)
    (hm : messages i m = 0) :
    messages i (m + sends (p.reply role msg cookie, true)) = {p.reply role msg cookie} := by
  rw [messages_add, hm, zero_add]
  exact Multiset.filter_eq_self.mpr fun q hq => by
    obtain rfl := Multiset.mem_singleton.mp hq
    exact (Packet.identify_reply _ _ _ hclear).trans hi

/-- A message of the client gets to the server. -/
theorem Stage.server_move (h : Stage route i s) (hclear : p.Clear) (hflight : s.flight = p ::ₘ m)
    (hi : identify p = some i) (hrole : Msg.role p.data p.msg = Msg.ROLE_CLIENT) (d : UInt8) :
    Stage route i { s with
      server := (Server.step s.server d p).1
      flight := m + sends (Server.step s.server d p).2
      verdicts := s.verdicts ++ [Server.judge i (s.server i) p] } ∧
    (Server.judge i (s.server i) p).Fine := by
  cases h with
  | unopened hnew h => exact (no_message hflight hi h.about).elim
  | hello c q hclient hserver habout hp =>
      obtain ⟨rfl, hm⟩ := only_message hflight hi habout
      rw [Server.step_of_none hi hserver, if_pos hp.kind, hserver, Server.judge, if_pos hp.kind]
      refine ⟨.answered c d _ hclient ?_ (messages_answer hclear hi hm) (.reply hclear hi _ _ _),
        trivial⟩
      dsimp only
      rw [Function.update_self, hp.cookie]
  | answered c e q hclient hserver habout hp =>
      obtain ⟨rfl, hm⟩ := only_message hflight hi habout
      exact absurd (hp.kind.1.symm.trans hrole) (by decide)
  | parting c e q hclient hserver habout hp =>
      obtain ⟨rfl, hm⟩ := only_message hflight hi habout
      have hsaid : p.Says Msg.ROLE_CLIENT Msg.MSG_BYE ∧ p.cookie = e := ⟨hp.kind, hp.cookie⟩
      rw [Server.step_of_some hi hserver, if_pos hsaid, hserver, Server.judge, if_pos hsaid]
      exact ⟨.parted c e _ hclient (Function.update_self _ _ _) (messages_answer hclear hi hm)
        (.reply hclear hi _ _ _), trivial⟩
  | parted c e q hclient hserver habout hp =>
      obtain ⟨rfl, hm⟩ := only_message hflight hi habout
      exact absurd (hp.kind.1.symm.trans hrole) (by decide)
  | done c e hopened h hcompletes => exact (no_message hflight hi h.about).elim

/-- A message of the server gets to the client. -/
theorem Stage.client_move (h : Stage route i s) (hsound : s.Sound) (hflight : s.flight = p ::ₘ m)
    (hi : identify p = some i) (hrole : Msg.role p.data p.msg = Msg.ROLE_SERVER)
    {a : Place ι Unit} {x : Client.Session} (hx : s.client i = some (a, x)) :
    Stage route i { s with
      client := Function.update s.client i (Place.tabled (route i) (x.next p).1)
      flight := m + sends (x.next p).2
      verdicts := s.verdicts ++ [x.judge i p] } ∧ (x.judge i p).Fine := by
  have hclear := hsound.clear p (hflight ▸ Multiset.mem_cons_self p m)
  cases h with
  | unopened hnew h => exact (no_message hflight hi h.about).elim
  | hello c q hclient hserver habout hp =>
      obtain ⟨rfl, hm⟩ := only_message hflight hi habout
      exact absurd (hp.kind.1.symm.trans hrole) (by decide)
  | answered c d q hclient hserver habout hp =>
      obtain ⟨rfl, hm⟩ := only_message hflight hi habout
      obtain ⟨-, rfl⟩ := Prod.mk.inj (Option.some.inj (hclient.symm.trans hx))
      rw [Client.Session.next, if_pos hp.kind, Client.Session.judge, if_pos hp.kind, hp.cookie]
      exact ⟨.parting c d _ (Function.update_self _ _ _) hserver (messages_answer hclear hi hm)
        (.reply hclear hi _ _ _), trivial⟩
  | parting c d q hclient hserver habout hp =>
      obtain ⟨rfl, hm⟩ := only_message hflight hi habout
      exact absurd (hp.kind.1.symm.trans hrole) (by decide)
  | parted c d q hclient hserver habout hp =>
      obtain ⟨rfl, hm⟩ := only_message hflight hi habout
      obtain ⟨-, rfl⟩ := Prod.mk.inj (Option.some.inj (hclient.symm.trans hx))
      rw [Client.Session.next, Client.Session.judge, if_pos ⟨hp.kind, hp.cookie⟩]
      refine ⟨.done c d (hsound.opened i (by rw [hx]; exact Option.some_ne_none _))
        ⟨Function.update_self _ _ _, hserver, ?_⟩ (by simp), rfl⟩
      show messages i (m + 0) = 0
      rw [add_zero, hm]
  | done c d hopened h hcompletes => exact (no_message hflight hi h.about).elim

/-- The machine that gets a message of the server has the session. -/
theorem Stage.client_near (h : Stage route i s) (hflight : s.flight = p ::ₘ m)
    (hi : identify p = some i) : ∃ a x, s.client i = some (a, x) ∧ a.Near S (route i) := by
  cases h with
  | unopened hnew h => exact (no_message hflight hi h.about).elim
  | hello c q hclient hserver habout hp => exact ⟨_, _, hclient, Or.inr rfl⟩
  | answered c d q hclient hserver habout hp => exact ⟨_, _, hclient, Or.inr rfl⟩
  | parting c d q hclient hserver habout hp => exact ⟨_, _, hclient, Or.inl rfl⟩
  | parted c d q hclient hserver habout hp => exact ⟨_, _, hclient, Or.inl rfl⟩
  | done c d hopened h hcompletes => exact (no_message hflight hi h.about).elim

/-! ### All connections -/

/-- **The invariant.** -/
structure Progress (route : UInt64 → ι) (s : Proto ι Unit) : Prop where
  sound : s.Sound
  stage : ∀ i, Stage route i s
  fine : ∀ v ∈ s.verdicts, v.Fine

theorem start_progress : Progress route Proto.start :=
  ⟨Proto.start_sound, fun _ => .unopened (by simp [Proto.start]) ⟨rfl, rfl, rfl⟩,
    by simp [Proto.start]⟩

theorem fine_append {verdicts : List Verdict} (h : ∀ v ∈ verdicts, v.Fine) {w : Verdict}
    (hw : w.Fine) : ∀ v ∈ verdicts ++ [w], v.Fine := by
  intro v hv
  rcases List.mem_append.mp hv with hv | hv
  · exact h v hv
  · exact List.mem_singleton.mp hv ▸ hw

/-- The connection a move is about, and the verdicts. -/
theorem MovesOnly.stage {d : Delivery ι} (h : MovesOnly S (Straight route) s d s')
    (hs : Progress route s) (hi : identify d.packet = some i) :
    Stage route i s' ∧ ∀ v ∈ s'.verdicts, v.Fine := by
  obtain ⟨hmove, hstraight⟩ := h
  cases hmove with
  | connect j k c p hnew hclear hp =>
      obtain rfl := Option.some.inj (hp.ident.symm.trans hi)
      refine ⟨?_, hs.fine⟩
      cases hs.stage k with
      | unopened hnew' h =>
          refine .hello c p (Function.update_self _ _ _) h.server ?_ hp
          show messages k (p ::ₘ s.flight) = {p}
          rw [messages_cons hp.ident, show messages k s.flight = 0 from h.about, Multiset.cons_zero]
      | hello c' q hclient =>
          exact absurd (hs.sound.opened k (by rw [hclient]; exact Option.some_ne_none _)) hnew
      | answered c' d q hclient =>
          exact absurd (hs.sound.opened k (by rw [hclient]; exact Option.some_ne_none _)) hnew
      | parting c' d q hclient =>
          exact absurd (hs.sound.opened k (by rw [hclient]; exact Option.some_ne_none _)) hnew
      | parted c' d q hclient =>
          exact absurd (hs.sound.opened k (by rw [hclient]; exact Option.some_ne_none _)) hnew
      | done c' d hopened => exact absurd hopened hnew
  | client j k p a x hflight hk hx hnear =>
      obtain rfl := Option.some.inj (hk.symm.trans hi)
      obtain ⟨hrole, hroute⟩ := hstraight
      rw [hk] at hroute
      obtain rfl := Option.some.inj hroute
      obtain ⟨hstage, hfine⟩ := (hs.stage k).client_move hs.sound hflight hk hrole hx
      exact ⟨hstage, fine_append hs.fine hfine⟩
  | ignore j p hflight hno =>
      obtain ⟨hrole, hroute⟩ := hstraight
      have hi' : identify p = some i := hi
      rw [hi'] at hroute
      obtain rfl := Option.some.inj hroute
      obtain ⟨a, x, hx, hnear⟩ := (hs.stage i).client_near (S := S) hflight hi'
      exact absurd hnear (hno i a x hi' hx)
  | server k p c hflight hk =>
      obtain rfl := Option.some.inj (hk.symm.trans hi)
      have hclear := hs.sound.clear p (hflight ▸ Multiset.mem_cons_self p _)
      obtain ⟨hstage, hfine⟩ := (hs.stage k).server_move hclear hflight hk hstraight c
      exact ⟨hstage, fine_append hs.fine hfine⟩
  | unknown p hflight hno => exact absurd (hno.symm.trans hi) (by simp)
  | lose p hflight => exact hstraight.elim
  | double p hflight => exact hstraight.elim

/-- **A move keeps it.** -/
theorem MovesOnly.progress {d : Delivery ι} (h : MovesOnly S (Straight route) s d s')
    (hs : Progress route s) : Progress route s' := by
  obtain ⟨k, hk⟩ := h.1.ident hs.sound
  refine ⟨h.1.sound hs.sound, fun i => ?_, (h.stage hs hk).2⟩
  by_cases hi : identify d.packet = some i
  · exact (h.stage hs hi).1
  · exact (hs.stage i).of_same (h.1.same hs.sound hi)

/-- No message is left. -/
theorem Progress.finished (hs : Progress route s) (hflight : s.flight = 0) (i : UInt64) :
    s.client i = none ∧ s.server i = none ∧
      (i ∈ s.opened → ∃ c d : UInt8, .completes i c.toNat d.toNat false ∈ s.verdicts) := by
  have habout' : s.about i = 0 := by
    rw [Proto.about, hflight]
    rfl
  have hno : ∀ q : Packet, s.about i ≠ {q} := fun q hq =>
    Multiset.singleton_ne_zero q (hq.symm.trans habout')
  cases hs.stage i with
  | unopened hnew h => exact ⟨h.client, h.server, fun hc => absurd hc hnew⟩
  | hello c q hclient hserver habout => exact absurd habout (hno q)
  | answered c d q hclient hserver habout => exact absurd habout (hno q)
  | parting c d q hclient hserver habout => exact absurd habout (hno q)
  | parted c d q hclient hserver habout => exact absurd habout (hno q)
  | done c d hopened h hcompletes => exact ⟨h.client, h.server, fun _ => ⟨c, d, hcompletes⟩⟩

/-- A message is of a connection that was opened. -/
theorem Progress.opened (hs : Progress route s) (hflight : p ∈ s.flight)
    (hi : identify p = some i) : i ∈ s.opened := by
  have hmem : p ∈ s.about i := Multiset.mem_filter.mpr ⟨hflight, hi⟩
  have hclient : ∀ {x : Place ι Unit × Client.Session}, s.client i = some x → i ∈ s.opened :=
    fun hx => hs.sound.opened i (by rw [hx]; exact Option.some_ne_none _)
  have hnone : s.about i ≠ 0 := fun hc => by
    rw [hc] at hmem
    exact absurd hmem (Multiset.notMem_zero p)
  cases hs.stage i with
  | unopened hnew h => exact absurd h.about hnone
  | hello c q h _ _ _ => exact hclient h
  | answered c d q h _ _ _ => exact hclient h
  | parting c d q h _ _ _ => exact hclient h
  | parted c d q h _ _ _ => exact hclient h
  | done c d hopened h hcompletes => exact hopened

/-! ### Runs -/

/-- A connection that is opened does not have one of the idents the table keeps for itself. -/
def Act.Unreserved : Act ι → Prop
  | .connect _ _ _ ident _ _ => ¬ identifier.Reserves ident
  | _ => True

variable [DecidableEq ι]

/-- Every session has ended well, and nothing is left of any. -/
structure Net.Completed (n : Net ι Unit) : Prop where
  completes : ∀ i ∈ n.opened, ∃ c d, .completes i c d false ∈ n.verdicts
  freed : ∀ i c d sent, .completes i c d sent ∈ n.verdicts → sent = false
  tables : ∀ j, (n.client j).stateTable = ∅
  pool : n.pool () = ∅
  server : n.server.stateTable = ∅

omit [DecidableEq ι] in
theorem eq_empty {K V : Type} [DecidableEq K] {t : FMap K V} (h : ∀ i, t.lookup i = none) : t = ∅ :=
  Finmap.ext_lookup fun i => by rw [h i, Finmap.lookup_empty]

variable (S route) in
/--
**Completion.**

No session is rejected, no message has an ident that the tables keep for themselves,
nothing that fits fails, and when no message is left every session has completed.
-/
theorem Net.completion {n : Net ι Unit}
    (hrun : Steps (Net.DoesOnly S (Straight route)) (Net.start S) n) (honce : n.opened.Nodup)
    (hkeys : ∀ i ∈ n.opened, ¬ identifier.Reserves i) :
    (∀ i, .rejects i ∉ n.verdicts) ∧
    (∀ p ∈ n.flight, identifier.Avoids p) ∧
    (∀ a : Act ι, n.Fits a → n.Makes (Straight route) a → a.Unreserved → ∃ n', n.Does S a n') ∧
    (n.flight = [] → n.Completed) := by
  obtain ⟨s, hs⟩ := Net.shadow hrun honce
  have hprogress := hs.steps.invariant start_progress fun _ _ _ hs hmove => hmove.progress hs
  refine ⟨fun i hi => hprogress.fine (.rejects i) (hs.state.verdicts ▸ hi), fun p hp => ?_,
    fun a hfits hmakes _ => ?_, fun hflight => ?_⟩
  · have hflight : p ∈ s.flight := by
      rw [hs.state.flight]
      exact hp
    obtain ⟨i, hi⟩ := hprogress.sound.ident p hflight
    have hopened : i ∈ n.opened := hs.state.opened ▸ hprogress.opened hflight hi
    exact Identifier.avoids_of_identify hi (hkeys i hopened)
  · obtain ⟨n', s', hn', -⟩ := hs.state.step hs.sound.opened hfits hmakes
    exact ⟨n', hn'⟩
  · have hend := hprogress.finished (hs.state.flight.trans (by rw [hflight]; rfl))
    refine ⟨fun i hi => ?_, fun i c d sent h => ?_, fun j => eq_empty fun i => ?_,
      eq_empty fun i => ?_, eq_empty fun i => ?_⟩
    · obtain ⟨c, d, h⟩ := (hend i).2.2 (hs.state.opened ▸ hi)
      exact ⟨c.toNat, d.toNat, hs.state.verdicts ▸ h⟩
    · exact hprogress.fine (.completes i c d sent) (hs.state.verdicts ▸ h)
    · rw [hs.state.table, Proto.own, Function.comp_apply, (hend i).1]
      rfl
    · rw [hs.state.pool, Proto.pooled, Function.comp_apply, (hend i).1]
      rfl
    · refine ((hs.state.server fun _ => 0).table i).trans ?_
      rw [(hend i).2.1]
      rfl

/-- The last message, for the machine that has the session. -/
theorem Net.completion_parted : ∃ n : Net Bool Unit,
    Steps (Net.DoesOnly pair (Straight fun _ => true)) (Net.start pair) n ∧
    n.opened = [7] ∧ n.flight = [] ∧ n.Completed := by
  obtain ⟨n, s, p, hrun, hs, hopened, -, hflight, hp, hclient⟩ := parted
  obtain ⟨n', s', hn', hmove, hs'⟩ := hs.state.client_one true (fun _ => 0) hflight
  have hmakes : n.Makes (Straight fun _ => true) (.client true [0] fun _ => 0) := by
    intro q hq
    rw [hflight] at hq
    obtain rfl := List.mem_singleton.mp hq
    exact ⟨hp.kind.1, by rw [hp.ident]; rfl⟩
  have hsteps := hrun.step (.client true [0] fun _ => 0) ⟨hn', hmakes⟩
  have hend : s'.opened = s.opened ∧ s'.flight = 0 := by
    have hone : s.flight = {p} := hs.state.flight.trans (by rw [hflight]; rfl)
    cases hmove with
    | client j i p a x hflight' hi hx hnear =>
        obtain ⟨-, rfl⟩ := (Multiset.singleton_eq_cons_iff _).mp (hone.symm.trans hflight')
        obtain rfl := Option.some.inj (hp.ident.symm.trans hi)
        obtain ⟨-, rfl⟩ := Prod.mk.inj (Option.some.inj (hclient.symm.trans hx))
        exact ⟨rfl, rfl⟩
    | ignore j p hflight' hno => exact absurd (Or.inl rfl) (hno 7 _ _ hp.ident hclient)
  have hopened' : n'.opened = [7] := by
    rw [← hs'.opened, hend.1, hs.state.opened, hopened]
  have hflight' : n'.flight = [] :=
    Multiset.coe_eq_zero n'.flight |>.mp (hs'.flight.symm.trans hend.2)
  have hnodup : n'.opened.Nodup := by
    rw [hopened']
    exact List.nodup_singleton 7
  have hkeys : ∀ i ∈ n'.opened, ¬ HelloBye2.identifier.Reserves i := by
    intro i hi
    rw [hopened', List.mem_singleton] at hi
    subst hi
    decide
  exact ⟨n', hsteps, hopened', hflight',
    (Net.completion (fun _ => true) pair hsteps hnodup hkeys).2.2.2 hflight'⟩

/-- Every message once, but those of the server to any machine of the pool. -/
def Loose : Delivery ι → Prop
  | .opens _ => True
  | .toClient _ p => Msg.role p.data p.msg = Msg.ROLE_SERVER
  | .toServer p => Msg.role p.data p.msg = Msg.ROLE_CLIENT
  | .loses _ | .doubles _ => False

omit [DecidableEq ι] in
theorem Straight.loose {d : Delivery ι} (h : Straight route d) : Loose d := by
  cases d with
  | toClient j p => exact h.1
  | _ => exact h

/-- **The last message, for the other machine of the pool.**  The session stays. -/
theorem Net.parted_stays : ∃ n : Net Bool Unit, Steps (Net.DoesOnly pair Loose) (Net.start pair) n ∧
    n.opened = [7] ∧ n.flight = [] ∧ (n.client true).stateTable.lookup 7 ≠ none ∧ ¬ n.Completed := by
  obtain ⟨n, s, p, hrun, hs, hopened, -, hflight, hp, hclient⟩ := parted
  obtain ⟨n', s', hn', hmove, hs'⟩ := hs.state.client_one false (fun _ => 0) hflight
  have hmakes : n.Makes Loose (.client false [0] fun _ => 0) := by
    intro q hq
    rw [hflight] at hq
    obtain rfl := List.mem_singleton.mp hq
    exact hp.kind.1
  have hsteps : Steps (Net.DoesOnly pair Loose) (Net.start pair) n' := by
    refine (hrun.mono fun n a n' h => ⟨h.1, ?_⟩).step (.client false [0] fun _ => 0) ⟨hn', hmakes⟩
    cases a with
    | connect j dstIP srcPort ident pkt rnd => exact fun p => (h.2 p).loose
    | client j picks rnd => exact fun p hp => (h.2 p hp).loose
    | server picks rnd => exact fun p hp => (h.2 p hp).loose
    | lose k => exact fun p => (h.2 p).loose
    | duplicate k => exact fun p => (h.2 p).loose
  have hend : s'.opened = s.opened ∧ s'.flight = 0 ∧ s'.client = s.client := by
    have hone : s.flight = {p} := hs.state.flight.trans (by rw [hflight]; rfl)
    cases hmove with
    | client j i p a x hflight' hi hx hnear =>
        obtain rfl := Option.some.inj (hp.ident.symm.trans hi)
        obtain ⟨rfl, -⟩ := Prod.mk.inj (Option.some.inj (hclient.symm.trans hx))
        rcases hnear with h | h <;> simp at h
    | ignore j p hflight' hno =>
        obtain ⟨-, rfl⟩ := (Multiset.singleton_eq_cons_iff _).mp (hone.symm.trans hflight')
        exact ⟨rfl, rfl, rfl⟩
  have hstays : (n'.client true).stateTable.lookup 7 ≠ none := by
    rw [hs'.table, Proto.own, hend.2.2, Function.comp_apply, hclient]
    exact Option.some_ne_none _
  refine ⟨n', hsteps, ?_, ?_, hstays, fun hc => hstays ?_⟩
  · rw [← hs'.opened, hend.1, hs.state.opened, hopened]
  · exact Multiset.coe_eq_zero n'.flight |>.mp (hs'.flight.symm.trans hend.2.1)
  · rw [hc.tables true]
    exact Finmap.lookup_empty _

end MoonState.HelloBye2
