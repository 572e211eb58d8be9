/-
The protocol of HelloBye2, without the machines.

`Proto` is what is left of a net when each connection has one session of a client,
which is in the table of a machine or in a pool, and the messages are a bag.
`Moves` is what can happen to it, one message at a time.  A move is about one
connection: `Moves.same` says that the others do not notice.
-/
import Mathlib.Data.Multiset.Filter
import MoonState.Lib.Steps
import MoonState.Proofs.Sessions

namespace MoonState.HelloBye2

open Headers

variable {ι κ : Type}

/-- Where the session of a client is. -/
inductive Place (ι κ : Type)
  | table (i : ι)
  | pool (k : κ)
deriving DecidableEq

namespace Place

/-- A machine finds the sessions in its table and in its pool. -/
def Near (S : Setting ι κ) (j : ι) (a : Place ι κ) : Prop := a = .table j ∨ a = .pool (S.poolOf j)

/-- A session in a table. -/
def tabled (j : ι) (o : Option Client.Session) : Option (Place ι κ × Client.Session) :=
  o.map fun x => (.table j, x)

end Place

structure Proto (ι κ : Type) where
  client : UInt64 → Option (Place ι κ × Client.Session)
  server : Server.Sessions
  flight : Multiset Packet
  opened : List UInt64
  verdicts : List Verdict

/-- What happens to one message. -/
inductive Delivery (ι : Type)
  | opens (p : Packet)
  | toClient (j : ι) (p : Packet)
  | toServer (p : Packet)
  | loses (p : Packet)
  | doubles (p : Packet)

def Delivery.packet : Delivery ι → Packet
  | opens p | toClient _ p | toServer p | loses p | doubles p => p

/-- The messages of a connection. -/
def messages (i : UInt64) (m : Multiset Packet) : Multiset Packet :=
  m.filter fun p => identify p = some i

/-- What is sent of a packet. -/
def sends (out : Packet × Bool) : Multiset Packet := if out.2 then {out.1} else 0

namespace Proto

def start : Proto ι κ where
  client := fun _ => none
  server := fun _ => none
  flight := 0
  opened := []
  verdicts := []

/-- The messages of a connection. -/
def about (s : Proto ι κ) (i : UInt64) : Multiset Packet := messages i s.flight

end Proto

/-- What can happen. -/
inductive Moves (S : Setting ι κ) : Proto ι κ → Delivery ι → Proto ι κ → Prop
  | connect {s : Proto ι κ} (j : ι) (i : UInt64) (c : UInt8) (p : Packet) (hnew : i ∉ s.opened)
      (hclear : p.Clear) (hp : p.Is i Msg.ROLE_CLIENT Msg.MSG_HELLO c) :
      Moves S s (.opens p) { s with
        client := Function.update s.client i (some (.pool (S.poolOf j), .hello c))
        flight := p ::ₘ s.flight
        opened := i :: s.opened }
  | client {s : Proto ι κ} {m : Multiset Packet} (j : ι) (i : UInt64) (p : Packet) (a : Place ι κ)
      (x : Client.Session) (hflight : s.flight = p ::ₘ m) (hi : identify p = some i)
      (hx : s.client i = some (a, x)) (hnear : a.Near S j) :
      Moves S s (.toClient j p) { s with
        client := Function.update s.client i (Place.tabled j (x.next p).1)
        flight := m + sends (x.next p).2
        verdicts := s.verdicts ++ [x.judge i p] }
  /-- the machine knows no connection of the message -/
  | ignore {s : Proto ι κ} {m : Multiset Packet} (j : ι) (p : Packet) (hflight : s.flight = p ::ₘ m)
      (hno : ∀ i a x, identify p = some i → s.client i = some (a, x) → ¬ a.Near S j) :
      Moves S s (.toClient j p) { s with flight := m }
  | server {s : Proto ι κ} {m : Multiset Packet} (i : UInt64) (p : Packet) (c : UInt8)
      (hflight : s.flight = p ::ₘ m) (hi : identify p = some i) :
      Moves S s (.toServer p) { s with
        server := (Server.step s.server c p).1
        flight := m + sends (Server.step s.server c p).2
        verdicts := s.verdicts ++ [Server.judge i (s.server i) p] }
  | unknown {s : Proto ι κ} {m : Multiset Packet} (p : Packet) (hflight : s.flight = p ::ₘ m)
      (hno : identify p = none) : Moves S s (.toServer p) { s with flight := m }
  | lose {s : Proto ι κ} {m : Multiset Packet} (p : Packet) (hflight : s.flight = p ::ₘ m) :
      Moves S s (.loses p) { s with flight := m }
  | double {s : Proto ι κ} {m : Multiset Packet} (p : Packet) (hflight : s.flight = p ::ₘ m) :
      Moves S s (.doubles p) { s with flight := p ::ₘ s.flight }

/-- The moves of some kind. -/
def MovesOnly (S : Setting ι κ) (P : Delivery ι → Prop) (s : Proto ι κ) (d : Delivery ι)
    (s' : Proto ι κ) : Prop := Moves S s d s' ∧ P d

/-- The network delivers each message once: those of the clients to the server, and those of the
server to one client machine for each connection. -/
def Straight (route : UInt64 → ι) : Delivery ι → Prop
  | .opens _ => True
  | .toClient j p => Msg.role p.data p.msg = Msg.ROLE_SERVER ∧ (identify p).map route = some j
  | .toServer p => Msg.role p.data p.msg = Msg.ROLE_CLIENT
  | .loses _ | .doubles _ => False

instance [DecidableEq ι] (route : UInt64 → ι) (d : Delivery ι) : Decidable (Straight route d) :=
  match d with
  | .opens _ => inferInstanceAs (Decidable True)
  | .toClient _ _ => inferInstanceAs (Decidable (_ ∧ _))
  | .toServer p => inferInstanceAs (Decidable (Msg.role p.data p.msg = Msg.ROLE_CLIENT))
  | .loses _ | .doubles _ => inferInstanceAs (Decidable False)

/-! ### Messages -/

theorem mem_sends {q : Packet} {out : Packet × Bool} : q ∈ sends out ↔ out = (q, true) := by
  unfold sends
  obtain ⟨r, sent⟩ := out
  cases sent with
  | true => simp [eq_comm]
  | false => simp

theorem mem_messages {i : UInt64} {m : Multiset Packet} {p : Packet} :
    p ∈ messages i m ↔ p ∈ m ∧ identify p = some i := Multiset.mem_filter

theorem messages_add (i : UInt64) (m m' : Multiset Packet) :
    messages i (m + m') = messages i m + messages i m' := Multiset.filter_add _ _ _

theorem messages_cons {i : UInt64} {p : Packet} (h : identify p = some i) (m : Multiset Packet) :
    messages i (p ::ₘ m) = p ::ₘ messages i m := Multiset.filter_cons_of_pos _ h

theorem messages_cons_of_ne {i : UInt64} {p : Packet} (h : identify p ≠ some i)
    (m : Multiset Packet) : messages i (p ::ₘ m) = messages i m := Multiset.filter_cons_of_neg _ h

theorem messages_rest {i : UInt64} {p : Packet} {m m' : Multiset Packet} (hm : m' = p ::ₘ m)
    (h : identify p ≠ some i) : messages i m' = messages i m := by
  rw [hm, messages_cons_of_ne h]

/-- A reply is of the same connection, and is a message like any other. -/
theorem mem_sends_client {x : Client.Session} {p q : Packet} (hp : p.Clear)
    (h : q ∈ sends (x.next p).2) : q.Clear ∧ identify q = identify p := by
  obtain ⟨c, -, -, -, rfl⟩ := Client.Session.next_sent (mem_sends.mp h)
  exact ⟨hp.reply _ _ _, Packet.identify_reply _ _ _ hp⟩

theorem mem_sends_server {f : Server.Sessions} {c : UInt8} {p q : Packet} (hp : p.Clear)
    (h : q ∈ sends (Server.step f c p).2) : q.Clear ∧ identify q = identify p := by
  obtain ⟨role, msg, cookie, rfl⟩ := Server.step_reply (mem_sends.mp h)
  exact ⟨hp.reply _ _ _, Packet.identify_reply _ _ _ hp⟩

/-- The messages of the other connections. -/
theorem messages_sends {out : Packet × Bool} {p : Packet}
    (h : ∀ q ∈ sends out, identify q = identify p) {i : UInt64} (hi : identify p ≠ some i) :
    messages i (sends out) = 0 := by
  refine Multiset.eq_zero_of_forall_notMem fun q hq => ?_
  obtain ⟨hq, hqi⟩ := mem_messages.mp hq
  exact hi ((h q hq).symm.trans hqi)

/-! ### What a move leaves alone -/

namespace Proto

/-- Nothing happened to the connection. -/
structure Same (i : UInt64) (s s' : Proto ι κ) : Prop where
  client : s'.client i = s.client i
  server : s'.server i = s.server i
  about : s'.about i = s.about i
  opened : i ∈ s'.opened ↔ i ∈ s.opened
  verdicts : s.verdicts ⊆ s'.verdicts

/-- Every message is of a connection, and clear of the headers; and only connections that were
opened have a session. -/
structure Sound (s : Proto ι κ) : Prop where
  clear : ∀ p ∈ s.flight, p.Clear
  ident : ∀ p ∈ s.flight, ∃ i, identify p = some i
  opened : ∀ i, s.client i ≠ none → i ∈ s.opened

theorem start_sound : (start : Proto ι κ).Sound :=
  ⟨by simp [start], by simp [start], fun _ h => absurd rfl h⟩

end Proto

namespace Moves

variable {S : Setting ι κ} {d : Delivery ι} {s s' : Proto ι κ}

/-- **A move is about the connection of its message.** -/
theorem same (h : Moves S s d s') (hs : s.Sound) {i : UInt64} (hi : identify d.packet ≠ some i) :
    s.Same i s' := by
  cases h with
  | connect j k c p hnew hclear hp =>
      have hik : i ≠ k := fun hc => hi (by rw [hc]; exact hp.ident)
      refine ⟨Function.update_of_ne hik _ _, rfl, messages_cons_of_ne hi _, ?_, List.Subset.refl _⟩
      exact ⟨fun h => (List.mem_cons.mp h).resolve_left hik, List.mem_cons_of_mem _⟩
  | @client m j k p a x hflight hk hx hnear =>
      have hik : i ≠ k := fun hc => hi (by rw [hc]; exact hk)
      have hclear := hs.clear p (by rw [hflight]; exact Multiset.mem_cons_self p m)
      refine ⟨Function.update_of_ne hik _ _, rfl, ?_, Iff.rfl, List.subset_append_left _ _⟩
      show messages i (m + _) = messages i s.flight
      rw [messages_rest hflight hi, messages_add,
        messages_sends (fun q hq => (mem_sends_client hclear hq).2) hi, add_zero]
  | @ignore m j p hflight hno =>
      exact ⟨rfl, rfl, (messages_rest hflight hi).symm, Iff.rfl, List.Subset.refl _⟩
  | @server m k p c hflight hk =>
      have hclear := hs.clear p (by rw [hflight]; exact Multiset.mem_cons_self p m)
      refine ⟨rfl, Server.step_of_ne hi, ?_, Iff.rfl, List.subset_append_left _ _⟩
      show messages i (m + _) = messages i s.flight
      rw [messages_rest hflight hi, messages_add,
        messages_sends (fun q hq => (mem_sends_server hclear hq).2) hi, add_zero]
  | @unknown m p hflight hno =>
      exact ⟨rfl, rfl, (messages_rest hflight hi).symm, Iff.rfl, List.Subset.refl _⟩
  | @lose m p hflight =>
      exact ⟨rfl, rfl, (messages_rest hflight hi).symm, Iff.rfl, List.Subset.refl _⟩
  | @double m p hflight =>
      exact ⟨rfl, rfl, messages_cons_of_ne hi _, Iff.rfl, List.Subset.refl _⟩

/-- Every message after a move was there, is the hello of a new connection, or is a reply. -/
theorem mem_flight (h : Moves S s d s') (hs : s.Sound) {q : Packet} (hq : q ∈ s'.flight) :
    q ∈ s.flight ∨ (q.Clear ∧ identify q = identify d.packet) := by
  cases h with
  | connect j i c p hnew hclear hp =>
      rcases Multiset.mem_cons.mp hq with rfl | hq
      · exact Or.inr ⟨hclear, rfl⟩
      · exact Or.inl hq
  | @client m j i p a x hflight hi hx hnear =>
      have hclear := hs.clear p (by rw [hflight]; exact Multiset.mem_cons_self p m)
      rcases Multiset.mem_add.mp hq with hq | hq
      · exact Or.inl (by rw [hflight]; exact Multiset.mem_cons_of_mem hq)
      · exact Or.inr (mem_sends_client hclear hq)
  | ignore j p hflight hno => exact Or.inl (by rw [hflight]; exact Multiset.mem_cons_of_mem hq)
  | @server m i p c hflight hi =>
      have hclear := hs.clear p (by rw [hflight]; exact Multiset.mem_cons_self p m)
      rcases Multiset.mem_add.mp hq with hq | hq
      · exact Or.inl (by rw [hflight]; exact Multiset.mem_cons_of_mem hq)
      · exact Or.inr (mem_sends_server hclear hq)
  | unknown p hflight hno => exact Or.inl (by rw [hflight]; exact Multiset.mem_cons_of_mem hq)
  | lose p hflight => exact Or.inl (by rw [hflight]; exact Multiset.mem_cons_of_mem hq)
  | @double m p hflight =>
      rcases Multiset.mem_cons.mp hq with rfl | hq
      · exact Or.inl (by rw [hflight]; exact Multiset.mem_cons_self q m)
      · exact Or.inl hq

/-- The message of a move is of a connection. -/
theorem ident (h : Moves S s d s') (hs : s.Sound) : ∃ i, identify d.packet = some i := by
  cases h with
  | connect j i c p hnew hclear hp => exact ⟨i, hp.ident⟩
  | client j i p a x hflight hi hx hnear => exact ⟨i, hi⟩
  | ignore j p hflight hno =>
      exact hs.ident p (by rw [hflight]; exact Multiset.mem_cons_self p _)
  | server i p c hflight hi => exact ⟨i, hi⟩
  | unknown p hflight hno =>
      exact hs.ident p (by rw [hflight]; exact Multiset.mem_cons_self p _)
  | lose p hflight => exact hs.ident p (by rw [hflight]; exact Multiset.mem_cons_self p _)
  | double p hflight => exact hs.ident p (by rw [hflight]; exact Multiset.mem_cons_self p _)

/-- A session is of a connection that was opened. -/
theorem opened (h : Moves S s d s') (hs : s.Sound) (i : UInt64) (hi : s'.client i ≠ none) :
    i ∈ s'.opened := by
  cases h with
  | connect j k c p hnew hclear hp =>
      by_cases hik : i = k
      · exact hik ▸ List.mem_cons_self ..
      · refine List.mem_cons_of_mem _ (hs.opened i ?_)
        dsimp only at hi
        rwa [Function.update_of_ne hik] at hi
  | client j k p a x hflight hk hx hnear =>
      by_cases hik : i = k
      · exact hs.opened i (by rw [hik, hx]; exact Option.some_ne_none _)
      · refine hs.opened i ?_
        dsimp only at hi
        rwa [Function.update_of_ne hik] at hi
  | ignore j p hflight hno => exact hs.opened i hi
  | server k p c hflight hk => exact hs.opened i hi
  | unknown p hflight hno => exact hs.opened i hi
  | lose p hflight => exact hs.opened i hi
  | double p hflight => exact hs.opened i hi

theorem sound (h : Moves S s d s') (hs : s.Sound) : s'.Sound := by
  refine ⟨fun q hq => ?_, fun q hq => ?_, h.opened hs⟩
  · rcases h.mem_flight hs hq with hq | ⟨hclear, -⟩
    · exact hs.clear q hq
    · exact hclear
  · rcases h.mem_flight hs hq with hq | ⟨-, hi⟩
    · exact hs.ident q hq
    · rw [hi]
      exact h.ident hs

end Moves

end MoonState.HelloBye2
