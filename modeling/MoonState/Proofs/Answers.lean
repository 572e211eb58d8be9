/-
When the server says goodbye.

A session is open exactly while the last packet of its connection was the hello
that opened it; `History.open_iff` is that invariant, by induction on the packets.
The answer to a packet is then a matter of one step.
-/
import MoonState.Proofs.Reserved
import MoonState.Proofs.Sessions

namespace MoonState

open Headers

namespace HelloBye2.Server

/-! ### Since the hello -/

variable {f : Sessions} {s : UInt8} {p : Packet} {i : UInt64}

/-- Packet `n` is that message of connection `i`. -/
def Received (ps : List Packet) (n : Nat) (i : UInt64) (role msg cookie : UInt8) : Prop :=
  ∃ p, ps[n]? = some p ∧ p.Is i role msg cookie

theorem Received.lt {ps : List Packet} {n : Nat} {role msg cookie : UInt8}
    (h : Received ps n i role msg cookie) : n < ps.length := by
  obtain ⟨p, hp, -⟩ := h
  exact (List.getElem?_eq_some_iff.mp hp).1

/-- No packet between `m` and `n` is of connection `i`. -/
def Quiet (ps : List Packet) (i : UInt64) (m n : Nat) : Prop :=
  ∀ k p, m < k → k < n → ps[k]? = some p → identify p ≠ some i

theorem Quiet.succ_iff {ps : List Packet} {m n : Nat} (hp : ps[n]? = some p) (hmn : m < n) :
    Quiet ps i m (n + 1) ↔ Quiet ps i m n ∧ identify p ≠ some i := by
  constructor
  · intro h
    exact ⟨fun k q hm hk => h k q hm (Nat.lt_succ_of_lt hk), h n p hmn (Nat.lt_succ_self n) hp⟩
  · rintro ⟨h, hne⟩ k q hm hk hq
    rcases Nat.lt_succ_iff_lt_or_eq.mp hk with hk | rfl
    · exact h k q hm hk hq
    · obtain rfl := Option.some.inj (hp.symm.trans hq)
      exact hne

variable {ps : List Packet} {os : List (Packet × Bool)} {F : Nat → Sessions} {S : Nat → UInt8}

/-- **A session is open since its hello**, with the cookies of that hello and of its answer. -/
theorem History.open_iff (hH : History ps os F S) (hF : ∀ i, F 0 i = none) {n : Nat}
    (hn : n ≤ ps.length) (i : UInt64) (c s : UInt8) :
    F n i = some (c, s) ↔ ∃ m, m < n ∧ F m i = none ∧
      Received ps m i Msg.ROLE_CLIENT Msg.MSG_HELLO c ∧ S m = s ∧ Quiet ps i m n := by
  induction n with
  | zero =>
      rw [hF i]
      constructor
      · intro h
        simp at h
      · rintro ⟨m, hm, -⟩
        exact absurd hm (Nat.not_lt_zero m)
  | succ n ih =>
      have ih := ih (Nat.le_of_succ_le hn)
      obtain ⟨p, hp⟩ : ∃ p, ps[n]? = some p := ⟨_, List.getElem?_eq_getElem hn⟩
      rw [hH.next n p hp]
      by_cases hi : identify p = some i
      · -- the packet is of the connection: the session is new, or it is over
        have hlast : (∃ m, m < n + 1 ∧ F m i = none ∧
            Received ps m i Msg.ROLE_CLIENT Msg.MSG_HELLO c ∧ S m = s ∧ Quiet ps i m (n + 1)) ↔
            F n i = none ∧ p.Is i Msg.ROLE_CLIENT Msg.MSG_HELLO c ∧ S n = s := by
          constructor
          · rintro ⟨m, hm, hnone, ⟨q, hq, hqi⟩, hs, hquiet⟩
            rcases Nat.lt_succ_iff_lt_or_eq.mp hm with hm | rfl
            · exact absurd hi ((Quiet.succ_iff hp hm).mp hquiet).2
            · obtain rfl := Option.some.inj (hp.symm.trans hq)
              exact ⟨hnone, hqi, hs⟩
          · rintro ⟨hnone, hpi, hs⟩
            exact ⟨n, Nat.lt_succ_self n, hnone, ⟨p, hp, hpi⟩, hs, fun k _ hk hk' =>
              absurd hk' (by omega)⟩
        rw [hlast]
        cases hf : F n i with
        | none =>
            rw [step_of_none hi hf]
            by_cases hsaid : p.Says Msg.ROLE_CLIENT Msg.MSG_HELLO
            · rw [if_pos hsaid]
              dsimp only
              rw [Function.update_self]
              constructor
              · intro h
                obtain ⟨hc, hs⟩ := Prod.mk.inj (Option.some.inj h)
                exact ⟨rfl, ⟨hi, hsaid, hc⟩, hs⟩
              · rintro ⟨-, hpi, hs⟩
                rw [hpi.cookie, hs]
            · rw [if_neg hsaid]
              dsimp only
              rw [hf]
              constructor
              · intro h
                simp at h
              · rintro ⟨-, hpi, -⟩
                exact absurd hpi.kind hsaid
        | some cs =>
            rw [step_ends hi hf]
            constructor
            · intro h
              simp at h
            · rintro ⟨h, -⟩
              simp at h
      · -- it is of another connection, and changes nothing
        rw [step_of_ne hi, ih]
        constructor
        · rintro ⟨m, hm, hnone, hrec, hs, hquiet⟩
          exact ⟨m, Nat.lt_succ_of_lt hm, hnone, hrec, hs, (Quiet.succ_iff hp hm).mpr ⟨hquiet, hi⟩⟩
        · rintro ⟨m, hm, hnone, hrec, hs, hquiet⟩
          rcases Nat.lt_succ_iff_lt_or_eq.mp hm with hm | rfl
          · exact ⟨m, hm, hnone, hrec, hs, ((Quiet.succ_iff hp hm).mp hquiet).1⟩
          · obtain ⟨q, hq, hqi⟩ := hrec
            obtain rfl := Option.some.inj (hp.symm.trans hq)
            exact absurd hqi.ident hi

/-! ### The answers of a run -/

/-- Packet `n` is answered with that message. -/
def AnsweredWith (os : List (Packet × Bool)) (n : Nat) (role msg cookie : UInt8) : Prop :=
  ∃ q, os[n]? = some (q, true) ∧ q.Says role msg ∧ q.cookie = cookie

/-- Packet `n` is answered with that message, which is of connection `i`. -/
def AnsweredAs (os : List (Packet × Bool)) (n : Nat) (i : UInt64) (role msg cookie : UInt8) : Prop :=
  ∃ q, os[n]? = some (q, true) ∧ q.Is i role msg cookie

/-- The server says goodbye exactly to a goodbye with its cookie that comes right after a hello
it has accepted; `known n i` is that it has a session of `i` when packet `n` comes. -/
def AnswersRight (ps : List Packet) (os : List (Packet × Bool)) (known : Nat → UInt64 → Prop) : Prop :=
  ∀ n i c, AnsweredAs os n i Msg.ROLE_SERVER Msg.MSG_BYE c ↔
    ∃ m s, m < n ∧ Received ps m i Msg.ROLE_CLIENT Msg.MSG_HELLO c ∧ ¬ known m i ∧
      AnsweredWith os m Msg.ROLE_SERVER Msg.MSG_HELLO s ∧
      Received ps n i Msg.ROLE_CLIENT Msg.MSG_BYE s ∧ Quiet ps i m n

/-- No session is left by a packet of its connection that is no accepted hello. -/
def LeavesNone (ps : List Packet) (os : List (Packet × Bool)) (known : Nat → UInt64 → Prop) : Prop :=
  ∀ n p i, ps[n]? = some p → identify p = some i →
    ¬(p.Says Msg.ROLE_CLIENT Msg.MSG_HELLO ∧
      ∃ s, AnsweredWith os n Msg.ROLE_SERVER Msg.MSG_HELLO s) → ¬ known (n + 1) i

namespace History

theorem bye_iff (hH : History ps os F S) (hclear : ∀ p ∈ ps, identify p ≠ none → p.Clear) {n : Nat}
    {i : UInt64} {c : UInt8} : AnsweredAs os n i Msg.ROLE_SERVER Msg.MSG_BYE c ↔
      ∃ s, F n i = some (c, s) ∧ Received ps n i Msg.ROLE_CLIENT Msg.MSG_BYE s := by
  constructor
  · rintro ⟨q, hq, hqi⟩
    have hn : n < ps.length := hH.length ▸ (List.getElem?_eq_some_iff.mp hq).1
    have hp : ps[n]? = some ps[n] := List.getElem?_eq_getElem hn
    have hout := Option.some.inj ((hH.out n _ hp).symm.trans hq)
    obtain ⟨j, hj, ⟨-, -, hqj⟩ | ⟨cs, hcs, hpj, hqj⟩⟩ :=
      step_sent (hclear _ (List.getElem_mem hn)) hout
    · exact absurd (hqj.kind.2.symm.trans hqi.kind.2) (by decide)
    · obtain rfl := Option.some.inj (hqj.ident.symm.trans hqi.ident)
      exact ⟨cs.2, by rw [hcs, ← hqj.cookie.symm.trans hqi.cookie], _, hp, hpj⟩
  · rintro ⟨s, hf, p, hp, hpi⟩
    have hpc : p.Clear :=
      hclear p (List.mem_of_getElem? hp) (by rw [hpi.ident]; exact Option.some_ne_none i)
    refine ⟨p.reply Msg.ROLE_SERVER Msg.MSG_BYE c, ?_, .reply hpc hpi.ident _ _ _⟩
    rw [hH.out n p hp, step_of_some hpi.ident hf, if_pos ⟨hpi.kind, hpi.cookie⟩]

theorem hello_iff (hH : History ps os F S) (hclear : ∀ p ∈ ps, identify p ≠ none → p.Clear) {n : Nat}
    {p : Packet} {i : UInt64} (hp : ps[n]? = some p) (hi : identify p = some i) {s : UInt8} :
    AnsweredWith os n Msg.ROLE_SERVER Msg.MSG_HELLO s ↔
      F n i = none ∧ p.Says Msg.ROLE_CLIENT Msg.MSG_HELLO ∧ S n = s := by
  have hpc : p.Clear :=
    hclear p (List.mem_of_getElem? hp) (by rw [hi]; exact Option.some_ne_none i)
  constructor
  · rintro ⟨q, hq, hsaid, hcookie⟩
    have hout := Option.some.inj ((hH.out n _ hp).symm.trans hq)
    obtain ⟨j, hj, ⟨hf, hps, hqj⟩ | ⟨cs, -, -, hqj⟩⟩ := step_sent (fun _ => hpc) hout
    · obtain rfl := Option.some.inj (hi.symm.trans hj)
      exact ⟨hf, hps, hqj.cookie.symm.trans hcookie⟩
    · exact absurd (hqj.kind.2.symm.trans hsaid.2) (by decide)
  · rintro ⟨hf, hps, rfl⟩
    refine ⟨p.reply Msg.ROLE_SERVER Msg.MSG_HELLO (S n), ?_, Packet.says_reply _ _ _ hpc,
      Packet.cookie_reply _ _ _ hpc⟩
    rw [hH.out n p hp, step_of_none hi hf, if_pos hps]

theorem answersRight (hH : History ps os F S) (hF : ∀ i, F 0 i = none)
    (hclear : ∀ p ∈ ps, identify p ≠ none → p.Clear) {known : Nat → UInt64 → Prop}
    (hknown : ∀ n i, n ≤ ps.length → (known n i ↔ F n i ≠ none)) : AnswersRight ps os known := by
  intro n i c
  rw [hH.bye_iff hclear]
  constructor
  · rintro ⟨s, hf, hrec⟩
    have hn := hrec.lt
    obtain ⟨m, hm, hnone, hm', hs, hquiet⟩ := (hH.open_iff hF hn.le i c s).mp hf
    obtain ⟨q, hq, hqi⟩ := hm'
    refine ⟨m, s, hm, ⟨q, hq, hqi⟩, ?_, ?_, hrec, hquiet⟩
    · rw [hknown m i (by omega)]
      exact not_not.mpr hnone
    · exact (hH.hello_iff hclear hq hqi.ident).mpr ⟨hnone, hqi.kind, hs⟩
  · rintro ⟨m, s, hm, ⟨q, hq, hqi⟩, hno, hanswer, hrec, hquiet⟩
    have hn := hrec.lt
    obtain ⟨hnone, -, hs⟩ := (hH.hello_iff hclear hq hqi.ident).mp hanswer
    exact ⟨s, (hH.open_iff hF hn.le i c s).mpr ⟨m, hm, hnone, ⟨q, hq, hqi⟩, hs, hquiet⟩, hrec⟩

theorem leavesNone (hH : History ps os F S) (hclear : ∀ p ∈ ps, identify p ≠ none → p.Clear)
    {known : Nat → UInt64 → Prop} (hknown : ∀ n i, n ≤ ps.length → (known n i ↔ F n i ≠ none)) :
    LeavesNone ps os known := by
  intro n p i hp hi hno
  have hn : n < ps.length := (List.getElem?_eq_some_iff.mp hp).1
  rw [hknown (n + 1) i hn, not_not, hH.next n p hp]
  cases hf : F n i with
  | some cs => exact step_ends hi hf
  | none =>
      by_cases hsaid : p.Says Msg.ROLE_CLIENT Msg.MSG_HELLO
      · exact absurd ⟨hsaid, S n, (hH.hello_iff hclear hp hi).mpr ⟨hf, hsaid, rfl⟩⟩ hno
      · rw [step_of_none hi hf, if_neg hsaid]
        exact hf

end History

/-! ### The server -/

variable (pl : Service.Platform) (rnd : Rand)

/-- Once it has got these packets, one by one, the server has a session of `i`. -/
def Known (ps : List Packet) (i : UInt64) : Prop :=
  ∃ x os, feed (process pl) (.start service rnd) (ps.map Batch.single) = .ok (x, os) ∧
    (i ∈ x.sm.stateTable ∨ i ∈ x.connPool)

theorem shows_start : Shows (fun _ => none) (Instance.start service rnd).held :=
  ⟨fun i => Finmap.lookup_empty i, fun i => Finmap.lookup_empty i⟩

/-- A run on any batches has a history. -/
theorem feed_history (bs : List Batch) : ∃ x os F S,
    feed (process pl) (.start service rnd) bs = .ok (x, os) ∧
      History (Batch.all bs) os.flatten F S ∧ (∀ i, F 0 i = none) ∧
      ∀ n i, n ≤ (Batch.all bs).length → (Known pl rnd ((Batch.all bs).take n) i ↔ F n i ≠ none) := by
  obtain ⟨outs, F, S, ⟨h', hall⟩, hH, hF, hshow⟩ := receiveAll_eq (Batch.all bs) (shows_start rnd)
  obtain ⟨x, os, hx, rfl, -, -⟩ := Instance.feed_process pl bs (Instance.start_runs service rnd) hall
  refine ⟨x, os, F, S, hx, hH, fun i => by rw [hF], fun n i hn => ?_⟩
  obtain ⟨hn', os', htake, hs⟩ := hshow n hn
  obtain ⟨y, os'', hy, -, rfl, -⟩ := Instance.feed_process pl (((Batch.all bs).take n).map Batch.single)
    (Instance.start_runs service rnd) (by rw [Batch.all_single]; exact htake)
  have htable := hs.table i
  have hpool := hs.pool i
  constructor
  · rintro ⟨y', os₁, hy', hmem⟩ hnone
    obtain ⟨rfl, -⟩ := Prod.mk.inj (Except.ok.inj (hy.symm.trans hy'))
    rw [hnone] at htable
    rcases hmem with hmem | hmem
    · exact Finmap.lookup_eq_none.mp htable hmem
    · exact Finmap.lookup_eq_none.mp hpool hmem
  · intro hne
    refine ⟨y, os'', hy, Or.inl ?_⟩
    obtain ⟨cs, hcs⟩ := Option.ne_none_iff_exists'.mp hne
    rw [hcs] at htable
    exact Finmap.mem_iff.mpr ⟨_, htable⟩

/-- The idents the server has sessions of were those of packets. -/
theorem known_not_reserves {ps : List Packet} {os : List (Packet × Bool)} {F : Nat → Sessions}
    {S : Nat → UInt8} (hH : History ps os F S) (hF : ∀ i, F 0 i = none)
    (hkeys : ∀ p ∈ ps, identifier.Avoids p) {n : Nat} {i : UInt64} (hn : n ≤ ps.length)
    (hi : F n i ≠ none) : ¬ identifier.Reserves i := by
  obtain ⟨⟨c, s⟩, hcs⟩ := Option.ne_none_iff_exists'.mp hi
  obtain ⟨m, -, -, ⟨p, hp, hpi⟩, -⟩ := (hH.open_iff hF hn i c s).mp hcs
  exact (hkeys p (List.mem_of_getElem? hp)).not_reserves hpi.ident

/--
**The server against arbitrary packets.**

For any packets, in any batches and with any cookies, whose idents are none that the
table keeps for itself and that keep the message clear of the addresses if they are
identified: the server answers a packet with a goodbye for `i` with cookie `c` if and
only if the last packet of `i` before it was a hello with cookie `c`, received without a
session and answered with a cookie that the packet, a goodbye, sends back.  A packet that
is no accepted hello leaves no session.  No key that the table keeps for itself ever has
one.
-/
theorem answers_iff (bs : List Batch) (hkeys : ∀ p ∈ Batch.all bs, identifier.Avoids p)
    (hclear : ∀ p ∈ Batch.all bs, identify p ≠ none → p.Clear) :
    ∃ x os, feed (process pl) (.start service rnd) bs = .ok (x, os) ∧
      AnswersRight (Batch.all bs) os.flatten (fun n => Known pl rnd ((Batch.all bs).take n)) ∧
      LeavesNone (Batch.all bs) os.flatten (fun n => Known pl rnd ((Batch.all bs).take n)) ∧
      ∀ n ≤ (Batch.all bs).length, ∀ i, identifier.Reserves i →
        ¬ Known pl rnd ((Batch.all bs).take n) i := by
  obtain ⟨x, os, F, S, hx, hH, hF, hknown⟩ := feed_history pl rnd bs
  refine ⟨x, os, hx, hH.answersRight hF hclear hknown, hH.leavesNone hclear hknown, ?_⟩
  intro n hn i hreserved hknow
  exact known_not_reserves hH hF hkeys hn ((hknown n i hn).mp hknow) hreserved

/-! ### Packets that were made up -/

/-- A packet from a client, with that IHL, of connection 1. -/
def forged (ihl msg cookie : UInt8) : Packet where
  data := fun j =>
    let a := 22 + 4 * ihl.toNat
    if j = 12 then 8 else if j = 14 then ihl else if j = 23 then 17
    else if j = a then 1 else if j = a + 9 then msg else if j = a + 10 then cookie else 0
  dataLen := 64

def still : Service.Platform where
  clock := fun _ => 0
  topRule := Timeout.firstRule
  ndebug := false

/-- What there is to see of the packets of a run. -/
def seen {X : Type} : Except Fault (X × List (List (Packet × Bool))) →
    List (Option UInt64 × UInt8 × UInt8 × UInt8 × Bool)
  | .error _ => []
  | .ok (_, os) => os.flatten.map fun q =>
    (identify q.1, Msg.role q.1.data q.1.msg, Msg.msg q.1.data q.1.msg, q.1.cookie, q.2)

theorem seen_eq {X : Type} {r : Except Fault (X × List (List (Packet × Bool)))} {x : X}
    {os : List (List (Packet × Bool))} (hr : r = .ok (x, os)) {n : Nat} {i : Option UInt64}
    {role msg cookie : UInt8} {sent : Bool}
    (h : (seen r)[n]? = some (i, role, msg, cookie, sent)) :
    ∃ q, os.flatten[n]? = some (q, sent) ∧ identify q = i ∧ q.Says role msg ∧ q.cookie = cookie := by
  rw [hr] at h
  obtain ⟨⟨q, sent'⟩, hq, heq⟩ := Option.map_eq_some_iff.mp (List.getElem?_map.symm.trans h)
  obtain ⟨hi, h⟩ := Prod.mk.inj heq
  obtain ⟨hrole, h⟩ := Prod.mk.inj h
  obtain ⟨hmsg, h⟩ := Prod.mk.inj h
  obtain ⟨hcookie, rfl⟩ := Prod.mk.inj h
  exact ⟨q, hq, hi, ⟨hrole, hmsg⟩, hcookie⟩

theorem forged_avoids {ihl msg cookie : UInt8} (h : identify (forged ihl msg cookie) = some 1) :
    identifier.Avoids (forged ihl msg cookie) :=
  Identifier.avoids_of_identify h (by decide)

/-- A hello and the goodbye that belongs to it. -/
theorem answers_iff_greeted : ∃ x os,
    feed (process still) (.start service fun _ => 3)
      [.single (forged 5 0 9), .single (forged 5 1 3)] = .ok (x, os) ∧
    AnswersRight [forged 5 0 9, forged 5 1 3] os.flatten
      (fun n => Known still (fun _ => 3) ([forged 5 0 9, forged 5 1 3].take n)) ∧
    LeavesNone [forged 5 0 9, forged 5 1 3] os.flatten
      (fun n => Known still (fun _ => 3) ([forged 5 0 9, forged 5 1 3].take n)) ∧
    AnsweredAs os.flatten 1 1 Msg.ROLE_SERVER Msg.MSG_BYE 9 := by
  have hkeys : ∀ p ∈ [forged 5 0 9, forged 5 1 3], identifier.Avoids p := by
    intro p hp
    rcases List.mem_pair.mp hp with rfl | rfl
    · exact forged_avoids (by decide)
    · exact forged_avoids (by decide)
  have hclear : ∀ p ∈ [forged 5 0 9, forged 5 1 3], identify p ≠ none → p.Clear := by
    intro p hp _
    rcases List.mem_pair.mp hp with rfl | rfl
    · decide
    · decide
  obtain ⟨x, os, hx, hanswers, hleaves, -⟩ := answers_iff still (fun _ => 3)
    [.single (forged 5 0 9), .single (forged 5 1 3)] hkeys hclear
  refine ⟨x, os, hx, hanswers, hleaves, ?_⟩
  obtain ⟨q, hq, hi, hsaid, hcookie⟩ := seen_eq hx (n := 1)
    (show _ = some (some 1, Msg.ROLE_SERVER, Msg.MSG_BYE, 9, true) by decide)
  exact ⟨q, hq, hi, hsaid, hcookie⟩

/-- With an IHL of 1 the ident is where the addresses are, which the answer swaps. -/
theorem swapped_not_answered : ∃ x os,
    feed (process still) (.start service fun _ => 3)
      [.single (forged 5 0 9), .single (forged 1 1 3)] = .ok (x, os) ∧
    ¬ AnswersRight [forged 5 0 9, forged 1 1 3] os.flatten
      (fun n => Known still (fun _ => 3) ([forged 5 0 9, forged 1 1 3].take n)) := by
  obtain ⟨x, os, F, S, hx, -, hF, hknown⟩ := feed_history still (fun _ => 3)
    [.single (forged 5 0 9), .single (forged 1 1 3)]
  refine ⟨x, os, hx, fun h => ?_⟩
  obtain ⟨q, hq, -, hsaid, hcookie⟩ := seen_eq hx (n := 0)
    (show _ = some (some 1, Msg.ROLE_SERVER, Msg.MSG_HELLO, 3, true) by decide)
  obtain ⟨q', hq', hi', -⟩ := seen_eq hx (n := 1)
    (show _ = some (some 4294967296, Msg.ROLE_SERVER, Msg.MSG_BYE, 9, true) by decide)
  have hanswered : AnsweredAs os.flatten 1 1 Msg.ROLE_SERVER Msg.MSG_BYE 9 := by
    refine (h 1 1 9).mpr ⟨0, 3, Nat.zero_lt_one, ⟨_, rfl, by decide, by decide, by decide⟩, ?_,
      ⟨q, hq, hsaid, hcookie⟩, ⟨_, rfl, by decide, by decide, by decide⟩, ?_⟩
    · intro hknow
      exact (hknown 0 1 (Nat.zero_le _)).mp hknow (hF 1)
    · intro k p hk hk'
      omega
  obtain ⟨q'', hq'', hqi⟩ := hanswered
  obtain ⟨rfl, -⟩ := Prod.mk.inj (Option.some.inj (hq'.symm.trans hq''))
  exact absurd (hi'.symm.trans hqi.ident) (by decide)

end HelloBye2.Server

end MoonState
