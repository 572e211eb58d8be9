/-
A client of HelloBye2 and the server agree.

Hellos that are doubled or late may end a session of the server and open another
with another cookie, while answers of the first are still in flight.  What does not
change is the cookie of the client: `Agreed` says which messages there can be of a
connection, given that cookie and the one the client got, and that a goodbye of the
server is in flight only if the server accepted the client's.
-/
import MoonState.Proofs.HelloNet

namespace MoonState.HelloBye2

open Headers

variable {ι κ : Type}

/-! ### One connection -/

/-- What a message of the connection can be, `c` being the client's cookie and `o` the one it got. -/
inductive Message (i : UInt64) (c : UInt8) (o : Option UInt8) (verdicts : List Verdict) (p : Packet) :
    Prop
  | clientHello (h : p.Is i Msg.ROLE_CLIENT Msg.MSG_HELLO c)
  | serverHello (d : UInt8) (h : p.Is i Msg.ROLE_SERVER Msg.MSG_HELLO d)
  | clientBye (d : UInt8) (ho : o = some d) (h : p.Is i Msg.ROLE_CLIENT Msg.MSG_BYE d)
  | serverBye (d : UInt8) (ho : o = some d) (h : p.Is i Msg.ROLE_SERVER Msg.MSG_BYE c)
      (hacc : .accepts i c.toNat d.toNat ∈ verdicts)

/-- What a session of the client can be. -/
inductive Known (c : UInt8) : Option UInt8 → Client.Session → Prop
  | hello : Known c none (.hello c)
  | bye (d : UInt8) : Known c (some d) (.bye c d)

/-- The connection, in a state of the protocol. -/
structure Agreed (i : UInt64) (c : UInt8) (o : Option UInt8) (s : Proto ι κ) : Prop where
  client : ∀ a x, s.client i = some (a, x) → Known c o x
  server : ∀ cs, s.server i = some cs → cs.1 = c
  flight : ∀ p ∈ s.about i, Message i c o s.verdicts p

/-- A goodbye is accepted before the client gets the answer. -/
def Ordered (verdicts : List Verdict) : Prop :=
  ∀ pre post i c d sent, verdicts = pre ++ .completes i c d sent :: post → .accepts i c d ∈ pre

variable {i : UInt64} {c : UInt8} {o : Option UInt8} {s s' : Proto ι κ} {S : Setting ι κ}

theorem Message.mono {verdicts verdicts' : List Verdict} (hsub : verdicts ⊆ verdicts') {p : Packet}
    (h : Message i c o verdicts p) : Message i c o verdicts' p := by
  cases h with
  | clientHello h => exact .clientHello h
  | serverHello d h => exact .serverHello d h
  | clientBye d ho h => exact .clientBye d ho h
  | serverBye d ho h hacc => exact .serverBye d ho h (hsub hacc)

/-- Before the client got a cookie there are only hellos. -/
theorem Message.learn {verdicts : List Verdict} {p : Packet} (h : Message i c none verdicts p)
    (d : UInt8) : Message i c (some d) verdicts p := by
  cases h with
  | clientHello h => exact .clientHello h
  | serverHello d h => exact .serverHello d h
  | clientBye d ho h => simp at ho
  | serverBye d ho h hacc => simp at ho

theorem Agreed.of_same (h : Agreed i c o s) (hsame : s.Same i s') : Agreed i c o s' := by
  refine ⟨fun a x hx => ?_, fun cs hcs => ?_, fun p hp => ?_⟩
  · rw [hsame.client] at hx
    exact h.client a x hx
  · rw [hsame.server] at hcs
    exact h.server cs hcs
  · rw [hsame.about] at hp
    exact (h.flight p hp).mono hsame.verdicts

/-- The messages that were there, and the one that was sent. -/
theorem Agreed.flight_sends {p : Packet} {m : Multiset Packet} {out : Packet × Bool}
    (h : Agreed i c o s) (hflight : s.flight = p ::ₘ m) {verdicts : List Verdict}
    (hsub : s.verdicts ⊆ verdicts) (hout : ∀ q ∈ sends out, Message i c o verdicts q) :
    ∀ q ∈ messages i (m + sends out), Message i c o verdicts q := by
  intro q hq
  obtain ⟨hq, hi⟩ := mem_messages.mp hq
  rcases Multiset.mem_add.mp hq with hq | hq
  · refine (h.flight q (mem_messages.mpr ⟨?_, hi⟩)).mono hsub
    rw [hflight]
    exact Multiset.mem_cons_of_mem hq
  · exact hout q hq

/-- **A packet for the client.** -/
theorem Agreed.client_move {p : Packet} {m : Multiset Packet} {a : Place ι κ} {x : Client.Session}
    (h : Agreed i c o s) (hclear : p.Clear) (hflight : s.flight = p ::ₘ m)
    (hi : identify p = some i) (hx : s.client i = some (a, x)) (j : ι) : ∃ o', Agreed i c o' { s with
      client := Function.update s.client i (Place.tabled j (x.next p).1)
      flight := m + sends (x.next p).2
      verdicts := s.verdicts ++ [x.judge i p] } := by
  have hsub := List.subset_append_left s.verdicts [x.judge i p]
  by_cases hsent : (x.next p).2.2 = true
  · -- the client answers, and knows the cookie of the server from now on
    obtain ⟨c', rfl, hsaid, hnext, hq⟩ := Client.Session.next_sent (x := x) (p := p)
      (q := (x.next p).2.1) (Prod.ext rfl hsent)
    cases h.client a _ hx with
    | hello =>
        have hlearn : Agreed i c (some p.cookie) { s with client := Function.update s.client i none } := by
          refine ⟨fun a' x' hx' => ?_, h.server, fun q hq' => (h.flight q hq').learn _⟩
          dsimp only at hx'
          rw [Function.update_self] at hx'
          simp at hx'
        refine ⟨some p.cookie, fun a' x' hx' => ?_, h.server, hlearn.flight_sends hflight hsub ?_⟩
        · dsimp only at hx'
          rw [Function.update_self, hnext] at hx'
          obtain ⟨-, rfl⟩ := Prod.mk.inj (Option.some.inj hx')
          exact .bye _
        · intro q hq'
          obtain rfl : q = _ := (Prod.mk.inj (mem_sends.mp hq')).1.symm.trans hq
          exact .clientBye _ rfl (.reply hclear hi _ _ _)
  · -- the session ends
    have hnext : (x.next p).1 = none := by
      cases x with
      | hello c' =>
          by_cases hsaid : p.Says Msg.ROLE_SERVER Msg.MSG_HELLO
          · exact absurd (by rw [Client.Session.next, if_pos hsaid]) hsent
          · rw [Client.Session.next, if_neg hsaid]
      | bye c' d => rfl
    refine ⟨o, fun a' x' hx' => ?_, h.server, h.flight_sends hflight hsub fun q hq => ?_⟩
    · dsimp only at hx'
      rw [Function.update_self, hnext] at hx'
      simp [Place.tabled] at hx'
    · exact absurd (congrArg Prod.snd (mem_sends.mp hq)) hsent

/-- **A packet for the server.** -/
theorem Agreed.server_move {p : Packet} {m : Multiset Packet} (h : Agreed i c o s)
    (hclear : p.Clear) (hflight : s.flight = p ::ₘ m) (hi : identify p = some i) (d : UInt8) :
    Agreed i c o { s with
      server := (Server.step s.server d p).1
      flight := m + sends (Server.step s.server d p).2
      verdicts := s.verdicts ++ [Server.judge i (s.server i) p] } := by
  have hsub := List.subset_append_left s.verdicts [Server.judge i (s.server i) p]
  have hmsg := h.flight p (by
    rw [Proto.about, hflight, messages_cons hi]
    exact Multiset.mem_cons_self p _)
  refine ⟨h.client, fun cs hcs => ?_, h.flight_sends hflight hsub fun q hq => ?_⟩
  · dsimp only at hcs
    cases hf : s.server i with
    | some cs' =>
        rw [Server.step_ends hi hf] at hcs
        simp at hcs
    | none =>
        rw [Server.step_of_none hi hf] at hcs
        by_cases hsaid : p.Says Msg.ROLE_CLIENT Msg.MSG_HELLO
        · rw [if_pos hsaid] at hcs
          dsimp only at hcs
          rw [Function.update_self] at hcs
          obtain rfl := Option.some.inj hcs
          -- only the hello of the client says that
          cases hmsg with
          | clientHello hp => exact hp.cookie
          | serverHello d' hp => exact absurd (hp.kind_eq hsaid).1 (by decide)
          | clientBye d' ho hp => exact absurd (hp.kind_eq hsaid).2 (by decide)
          | serverBye d' ho hp hacc => exact absurd (hp.kind_eq hsaid).2 (by decide)
        · rw [if_neg hsaid] at hcs
          dsimp only at hcs
          rw [hf] at hcs
          simp at hcs
  · obtain ⟨k, hk, hsent⟩ := Server.step_sent (fun _ => hclear) (mem_sends.mp hq)
    obtain rfl := Option.some.inj (hi.symm.trans hk)
    rcases hsent with ⟨-, -, hqi⟩ | ⟨cs, hcs, hpi, hqi⟩
    · exact .serverHello _ hqi
    · have hc := h.server cs hcs
      cases hmsg with
      | clientHello hp => exact absurd (hp.kind_eq hpi.kind).2 (by decide)
      | serverHello d' hp => exact absurd (hp.kind_eq hpi.kind).1 (by decide)
      | serverBye d' ho hp hacc => exact absurd (hp.kind_eq hpi.kind).1 (by decide)
      | clientBye d' ho hp =>
          have hd : cs.2 = d' := hpi.cookie.symm.trans hp.cookie
          refine .serverBye d' ho (hc ▸ hqi) (List.mem_append_right _ (List.mem_singleton.mpr ?_))
          rw [hcs, Server.judge, if_pos ⟨hpi.kind, hpi.cookie⟩, hc, hd]

/-! ### All connections -/

/-- Before it is opened there is nothing of a connection. -/
structure Fresh (i : UInt64) (s : Proto ι κ) : Prop where
  client : s.client i = none
  server : s.server i = none
  about : s.about i = 0

/-- **The invariant.** -/
structure Agrees (s : Proto ι κ) : Prop where
  sound : s.Sound
  fresh : ∀ i, i ∉ s.opened → Fresh i s
  agreed : ∀ i, ∃ c o, Agreed i c o s
  ordered : Ordered s.verdicts

theorem Fresh.of_same (h : Fresh i s) (hsame : s.Same i s') : Fresh i s' :=
  ⟨hsame.client.trans h.client, hsame.server.trans h.server, hsame.about.trans h.about⟩

theorem Ordered.append {verdicts : List Verdict} (h : Ordered verdicts) {v : Verdict}
    (hv : ∀ i c d sent, v = .completes i c d sent → .accepts i c d ∈ verdicts) :
    Ordered (verdicts ++ [v]) := by
  intro pre post i c d sent heq
  rcases List.append_eq_append_iff.mp heq with ⟨l, rfl, hl⟩ | ⟨l, rfl, hl⟩
  · cases l with
    | nil =>
        rw [List.append_nil] at *
        exact hv i c d sent (List.cons.inj hl).1
    | cons w l => simp at hl
  · cases l with
    | nil =>
        rw [List.nil_append] at hl
        rw [List.append_nil] at hv
        exact hv i c d sent (List.cons.inj hl).1.symm
    | cons w l =>
        obtain ⟨rfl, hl⟩ := List.cons.inj hl
        exact h pre l i c d sent rfl

/-- The client completes only with a goodbye that the server has sent. -/
theorem Agreed.completes {p : Packet} {x : Client.Session} {a : Place ι κ} (h : Agreed i c o s)
    (hp : p ∈ s.about i) (hx : s.client i = some (a, x)) {j : UInt64} {c' d' : Int} {sent : Bool}
    (hv : x.judge i p = .completes j c' d' sent) : .accepts j c' d' ∈ s.verdicts := by
  cases h.client a x hx with
  | hello =>
      rw [Client.Session.judge] at hv
      split at hv <;> simp at hv
  | bye d =>
      rw [Client.Session.judge] at hv
      split at hv
      · rename_i hsaid
        obtain ⟨rfl, rfl, rfl, -⟩ := Verdict.completes.inj hv
        cases h.flight p hp with
        | clientHello hpi => exact absurd (hpi.kind_eq hsaid.1).1 (by decide)
        | serverHello e hpi => exact absurd (hpi.kind_eq hsaid.1).2 (by decide)
        | clientBye e ho hpi => exact absurd (hpi.kind_eq hsaid.1).1 (by decide)
        | serverBye e ho hpi hacc => exact Option.some.inj ho ▸ hacc
      · simp at hv

theorem start_agrees : Agrees (Proto.start : Proto ι κ) :=
  ⟨Proto.start_sound, fun _ _ => ⟨rfl, rfl, rfl⟩,
    fun _ => ⟨0, none, by simp [Proto.start], by simp [Proto.start], by simp [Proto.start, Proto.about, messages]⟩,
    fun pre post i c d sent h => by simp [Proto.start] at h⟩

/-- A message in flight is of a connection that was opened. -/
theorem Agrees.opened (hs : Agrees s) {p : Packet} (hp : p ∈ s.flight) (hi : identify p = some i) :
    i ∈ s.opened := by
  by_contra hc
  have hmem : p ∈ s.about i := mem_messages.mpr ⟨hp, hi⟩
  rw [(hs.fresh i hc).about] at hmem
  exact Multiset.notMem_zero p hmem

theorem Moves.opened_ident {d : Delivery ι} (h : Moves S s d s') (hs : Agrees s)
    (hi : identify d.packet = some i) : i ∈ s'.opened := by
  cases h with
  | connect j k c p hnew hclear hp =>
      obtain rfl := Option.some.inj (hp.ident.symm.trans hi)
      exact List.mem_cons_self ..
  | client j k p a x hflight => exact hs.opened (hflight ▸ Multiset.mem_cons_self p _) hi
  | ignore j p hflight => exact hs.opened (hflight ▸ Multiset.mem_cons_self p _) hi
  | server k p c hflight => exact hs.opened (hflight ▸ Multiset.mem_cons_self p _) hi
  | unknown p hflight => exact hs.opened (hflight ▸ Multiset.mem_cons_self p _) hi
  | lose p hflight => exact hs.opened (hflight ▸ Multiset.mem_cons_self p _) hi
  | double p hflight => exact hs.opened (hflight ▸ Multiset.mem_cons_self p _) hi

/-- The connection a move is about. -/
theorem Moves.agreed {d : Delivery ι} (h : Moves S s d s') (hs : Agrees s)
    (hi : identify d.packet = some i) : ∃ c o, Agreed i c o s' := by
  obtain ⟨c, o, hagreed⟩ := hs.agreed i
  -- fewer messages, or the same
  have hless : ∀ m : Multiset Packet, (∀ q ∈ m, q ∈ s.flight) →
      Agreed i c o { s with flight := m } := by
    refine fun m hm => ⟨hagreed.client, hagreed.server, fun q hq => hagreed.flight q ?_⟩
    exact mem_messages.mpr ⟨hm q (mem_messages.mp hq).1, (mem_messages.mp hq).2⟩
  cases h with
  | connect j k c' p hnew hclear hp =>
      obtain rfl := Option.some.inj (hp.ident.symm.trans hi)
      have hfresh := hs.fresh k hnew
      refine ⟨c', none, fun a x hx => ?_, fun cs hcs => ?_, fun q hq => ?_⟩
      · dsimp only at hx
        rw [Function.update_self] at hx
        obtain ⟨-, rfl⟩ := Prod.mk.inj (Option.some.inj hx)
        exact .hello
      · dsimp only at hcs
        rw [hfresh.server] at hcs
        simp at hcs
      · rw [Proto.about, messages_cons hp.ident, show messages k s.flight = 0 from hfresh.about,
          Multiset.cons_zero, Multiset.mem_singleton] at hq
        exact .clientHello (hq ▸ hp)
  | client j k p a x hflight hk hx hnear =>
      obtain rfl := Option.some.inj (hk.symm.trans hi)
      have hclear := hs.sound.clear p (hflight ▸ Multiset.mem_cons_self p _)
      exact ⟨c, hagreed.client_move hclear hflight hi hx j⟩
  | ignore j p hflight hno =>
      exact ⟨c, o, hless _ fun q hq => hflight ▸ Multiset.mem_cons_of_mem hq⟩
  | server k p c' hflight hk =>
      obtain rfl := Option.some.inj (hk.symm.trans hi)
      have hclear := hs.sound.clear p (hflight ▸ Multiset.mem_cons_self p _)
      exact ⟨c, o, hagreed.server_move hclear hflight hi c'⟩
  | unknown p hflight hno =>
      exact ⟨c, o, hless _ fun q hq => hflight ▸ Multiset.mem_cons_of_mem hq⟩
  | lose p hflight => exact ⟨c, o, hless _ fun q hq => hflight ▸ Multiset.mem_cons_of_mem hq⟩
  | double p hflight =>
      refine ⟨c, o, hless _ fun q hq => ?_⟩
      rcases Multiset.mem_cons.mp hq with rfl | hq
      · exact hflight ▸ Multiset.mem_cons_self q _
      · exact hq

theorem Moves.ordered {d : Delivery ι} (h : Moves S s d s') (hs : Agrees s) : Ordered s'.verdicts := by
  cases h with
  | client j k p a x hflight hk hx hnear =>
      obtain ⟨c, o, hagreed⟩ := hs.agreed k
      have hp : p ∈ s.about k := mem_messages.mpr ⟨hflight ▸ Multiset.mem_cons_self p _, hk⟩
      exact hs.ordered.append fun _ _ _ _ hv => hagreed.completes hp hx hv
  | server k p c hflight hk =>
      refine hs.ordered.append fun i c d sent hv => ?_
      unfold Server.judge at hv
      split at hv <;> split at hv <;> simp at hv
  | connect j k c p hnew hclear hp => exact hs.ordered
  | ignore j p hflight hno => exact hs.ordered
  | unknown p hflight hno => exact hs.ordered
  | lose p hflight => exact hs.ordered
  | double p hflight => exact hs.ordered

/-- **A move keeps it.** -/
theorem Moves.agrees {d : Delivery ι} (h : Moves S s d s') (hs : Agrees s) : Agrees s' := by
  refine ⟨h.sound hs.sound, fun i hi => ?_, fun i => ?_, h.ordered hs⟩
  · have hne : identify d.packet ≠ some i := fun hc => hi (h.opened_ident hs hc)
    have hsame := h.same hs.sound hne
    exact (hs.fresh i fun hc => hi (hsame.opened.mpr hc)).of_same hsame
  · by_cases hi : identify d.packet = some i
    · exact h.agreed hs hi
    · obtain ⟨c, o, hagreed⟩ := hs.agreed i
      exact ⟨c, o, hagreed.of_same (h.same hs.sound hi)⟩

/-! ### Runs -/

variable [DecidableEq ι] [DecidableEq κ]

/-- **Agreement.**  A client that completes has both cookies from a session of the server, in which
its goodbye was accepted before. -/
theorem Net.agreement (S : Setting ι κ) {n : Net ι κ} (hrun : Steps (Net.Does S) (Net.start S) n)
    (honce : n.opened.Nodup) {pre post : List Verdict} {i : UInt64} {c d : Int} {sent : Bool}
    (h : n.verdicts = pre ++ .completes i c d sent :: post) : .accepts i c d ∈ pre := by
  have hrun' : Steps (Net.DoesOnly S fun _ => True) (Net.start S) n := by
    refine hrun.mono fun n a n' hdoes => ⟨hdoes, ?_⟩
    cases a <;> simp [Net.Makes]
  obtain ⟨s, hs⟩ := Net.shadow hrun' honce
  have hagrees := hs.steps.invariant start_agrees fun _ _ _ hs hmove => hmove.1.agrees hs
  exact hagrees.ordered pre post i c d sent (hs.state.verdicts.trans h)

/-- A session that the second client of a pool completes. -/
theorem Net.agreement_parted : ∃ n, Steps (Net.Does pair) (Net.start pair) n ∧ n.opened.Nodup ∧
    ∃ pre post, n.verdicts = pre ++ .completes 7 5 3 false :: post ∧ .accepts 7 5 3 ∈ pre := by
  obtain ⟨n, s, p, hrun, hs, hopened, hverdicts, hflight, hp, hclient⟩ := parted
  obtain ⟨n', s', hn', hmove, hs'⟩ := hs.state.client_one true (fun _ => 0) hflight
  have hsteps := (hrun.mono fun _ _ _ h => h.1).step _ hn'
  have hcompletes : n'.verdicts = [.greets 7, .greets 7, .accepts 7 5 3] ++ [.completes 7 5 3 false] ∧
      n'.opened = n.opened := by
    rw [← hs'.verdicts, ← hs'.opened, ← hs.state.opened, ← hverdicts, ← hs.state.verdicts]
    cases hmove with
    | client j i p a x hflight' hi hx hnear =>
        obtain rfl := Option.some.inj (hp.ident.symm.trans hi)
        obtain ⟨-, rfl⟩ := Prod.mk.inj (Option.some.inj (hclient.symm.trans hx))
        refine ⟨congrArg (s.verdicts ++ [·]) ?_, rfl⟩
        rw [Client.Session.judge, if_pos ⟨hp.kind, hp.cookie⟩]
        rfl
    | ignore j p hflight' hno => exact absurd (Or.inl rfl) (hno 7 _ _ hp.ident hclient)
  have honce : n'.opened.Nodup := by
    rw [hcompletes.2, hopened]
    decide
  exact ⟨n', hsteps, honce, _, [], hcompletes.1,
    Net.agreement pair hsteps honce hcompletes.1⟩

end MoonState.HelloBye2
