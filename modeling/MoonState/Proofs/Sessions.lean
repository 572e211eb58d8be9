/-
What the server and the client of HelloBye2 know.

The server keeps a pair of cookies for each connection, and a packet of it either
opens the session, answers and ends it, or ends it without an answer.
`Server.step` is all of that; `Server.receive_eq` says that the server does it.
-/
import MoonState.Model.HelloNet
import MoonState.Proofs.HelloBye2
import MoonState.Proofs.Responder

namespace MoonState

open Headers

/-- The message of the packet, which is of connection `i`. -/
structure Packet.Is (p : Packet) (i : UInt64) (role msg cookie : UInt8) : Prop where
  ident : identify p = some i
  kind : p.Says role msg
  cookie : p.cookie = cookie

theorem Packet.Is.reply {p : Packet} {i : UInt64} (h : p.Clear) (hi : identify p = some i)
    (role msg cookie : UInt8) : (p.reply role msg cookie).Is i role msg cookie :=
  ⟨(identify_reply role msg cookie h).trans hi, says_reply role msg cookie h,
    cookie_reply role msg cookie h⟩

theorem Packet.Is.kind_eq {p : Packet} {i : UInt64} {role msg cookie role' msg' : UInt8}
    (h : p.Is i role msg cookie) (h' : p.Says role' msg') : role = role' ∧ msg = msg' :=
  ⟨h.kind.1.symm.trans h'.1, h.kind.2.symm.trans h'.2⟩

theorem toNat_inj {a b : UInt8} : (a.toNat : Int) = b.toNat ↔ a = b := by
  constructor
  · intro h
    exact UInt8.toNat_inj.mp (by omega)
  · rintro rfl
    rfl

/-! ### Batches -/

def Batch.single (p : Packet) : Batch := ⟨[p], Nat.zero_lt_one, by simp⟩

/-- All packets of the calls. -/
def Batch.all (bs : List Batch) : List Packet := bs.flatMap Batch.pkts

theorem Batch.all_single (ps : List Packet) : Batch.all (ps.map Batch.single) = ps := by
  induction ps with
  | nil => rfl
  | cons p ps ih =>
      show p :: Batch.all (ps.map Batch.single) = _
      rw [ih]

/-- **Batches do not matter**: what a program does with them is what it does with the packets. -/
theorem Instance.feed_process {K D R : Type} [DecidableEq K] [Inhabited D]
    {u : Service K D Packet R} (pl : Service.Platform) (bs : List Batch) {x : Instance K D Packet R}
    (h : u.Runs x.sm) {h' : Held K D R} {outs : List (Packet × Bool)}
    (hall : u.receiveAll (Batch.all bs) x.held = some (h', outs)) :
    ∃ x' os, feed (fun x (b : Batch) => x.process u pl b.pkts) x bs = .ok (x', os) ∧
      os.flatten = outs ∧ x'.held = h' ∧ u.Runs x'.sm := by
  induction bs generalizing x outs with
  | nil =>
      obtain ⟨rfl, rfl⟩ := Prod.mk.inj (Option.some.inj hall)
      exact ⟨x, [], rfl, rfl, rfl, h⟩
  | cons b bs ih =>
      have hb := Instance.process_eq pl h b.pkts b.nonempty b.fits
      rw [show Batch.all (b :: bs) = b.pkts ++ Batch.all bs from rfl,
        Service.receiveAll_append] at hall
      cases hr : u.receiveAll b.pkts x.held with
      | none =>
          rw [hr] at hall
          simp at hall
      | some r =>
          obtain ⟨h₁, o⟩ := r
          rw [hr] at hb hall
          obtain ⟨x₁, hx₁, rfl, hruns⟩ := hb
          rw [Option.bind_some, Option.map_eq_some_iff] at hall
          obtain ⟨⟨h₂, o'⟩, hrest, heq⟩ := hall
          obtain ⟨rfl, rfl⟩ := Prod.mk.inj heq
          obtain ⟨x', os, hfeed, rfl, hheld, hruns'⟩ := ih hruns hrest
          refine ⟨x', o :: os, ?_, rfl, hheld, hruns'⟩
          rw [feed, hx₁]
          dsimp only
          rw [hfeed]

namespace HelloBye2

/-! ### The server -/

namespace Server

open MoonState.Server

/-- The cookies of each session, the client's first. -/
abbrev Sessions := UInt64 → Option (UInt8 × UInt8)

/-- The `State` of a session. -/
def session (cs : UInt8 × UInt8) : State (Ptr Object) where
  stateData := .to (.bye ⟨cs.1.toNat, cs.2.toNat⟩)
  state := States.Bye
  timeoutID := timeoutIDInvalid

/-- What a packet does, with `s` the cookie of a new session: the sessions then, the packet, and
whether it is sent. -/
def step (f : Sessions) (s : UInt8) (p : Packet) : Sessions × Packet × Bool :=
  match identify p with
  | none => (f, p, false)
  | some i =>
    match f i with
    | none =>
      if p.Says Msg.ROLE_CLIENT Msg.MSG_HELLO then
        (Function.update f i (some (p.cookie, s)), p.reply Msg.ROLE_SERVER Msg.MSG_HELLO s, true)
      else (f, p, false)
    | some cs =>
      if p.Says Msg.ROLE_CLIENT Msg.MSG_BYE ∧ p.cookie = cs.2 then
        (Function.update f i none, p.reply Msg.ROLE_SERVER Msg.MSG_BYE cs.1, true)
      else (Function.update f i none, p, false)

section onePacket

variable {f : Sessions} {s : UInt8} {p : Packet} {i : UInt64}

theorem step_of_ne (h : identify p ≠ some i) : (step f s p).1 i = f i := by
  unfold step
  cases hp : identify p with
  | none => rfl
  | some j =>
      have hne : i ≠ j := fun hc => h (by rw [hp, hc])
      dsimp only
      cases f j with
      | none =>
          dsimp only
          split
          · exact Function.update_of_ne hne _ _
          · rfl
      | some cs =>
          dsimp only
          split
          · exact Function.update_of_ne hne _ _
          · exact Function.update_of_ne hne _ _

theorem step_of_none (hi : identify p = some i) (hf : f i = none) :
    step f s p = if p.Says Msg.ROLE_CLIENT Msg.MSG_HELLO then
      (Function.update f i (some (p.cookie, s)), p.reply Msg.ROLE_SERVER Msg.MSG_HELLO s, true)
      else (f, p, false) := by
  unfold step
  rw [hi]
  dsimp only
  rw [hf]

theorem step_of_some (hi : identify p = some i) {cs : UInt8 × UInt8} (hf : f i = some cs) :
    step f s p = if p.Says Msg.ROLE_CLIENT Msg.MSG_BYE ∧ p.cookie = cs.2 then
      (Function.update f i none, p.reply Msg.ROLE_SERVER Msg.MSG_BYE cs.1, true)
      else (Function.update f i none, p, false) := by
  unfold step
  rw [hi]
  dsimp only
  rw [hf]

/-- A packet of a session ends it. -/
theorem step_ends (hi : identify p = some i) {cs : UInt8 × UInt8} (hf : f i = some cs) :
    (step f s p).1 i = none := by
  rw [step_of_some hi hf]
  split
  · exact Function.update_self _ _ _
  · exact Function.update_self _ _ _

/-- What is sent says hello or goodbye, and the session says which. -/
theorem step_sent (hp : identify p ≠ none → p.Clear) {q : Packet}
    (h : (step f s p).2 = (q, true)) : ∃ i, identify p = some i ∧
      ((f i = none ∧ p.Says Msg.ROLE_CLIENT Msg.MSG_HELLO ∧
          q.Is i Msg.ROLE_SERVER Msg.MSG_HELLO s) ∨
        ∃ cs, f i = some cs ∧ p.Is i Msg.ROLE_CLIENT Msg.MSG_BYE cs.2 ∧
          q.Is i Msg.ROLE_SERVER Msg.MSG_BYE cs.1) := by
  cases hi : identify p with
  | none =>
      unfold step at h
      rw [hi] at h
      exact absurd (Prod.mk.inj h).2 Bool.false_ne_true
  | some i =>
      have hclear : p.Clear := hp (by rw [hi]; exact Option.some_ne_none i)
      refine ⟨i, rfl, ?_⟩
      cases hf : f i with
      | none =>
          rw [step_of_none hi hf] at h
          by_cases hsaid : p.Says Msg.ROLE_CLIENT Msg.MSG_HELLO
          · rw [if_pos hsaid] at h
            obtain rfl := (Prod.mk.inj h).1
            exact Or.inl ⟨rfl, hsaid, .reply hclear hi _ _ _⟩
          · rw [if_neg hsaid] at h
            exact absurd (Prod.mk.inj h).2 Bool.false_ne_true
      | some cs =>
          rw [step_of_some hi hf] at h
          by_cases hsaid : p.Says Msg.ROLE_CLIENT Msg.MSG_BYE ∧ p.cookie = cs.2
          · rw [if_pos hsaid] at h
            obtain rfl := (Prod.mk.inj h).1
            exact Or.inr ⟨cs, rfl, ⟨hi, hsaid.1, hsaid.2⟩, .reply hclear hi _ _ _⟩
          · rw [if_neg hsaid] at h
            exact absurd (Prod.mk.inj h).2 Bool.false_ne_true

/-- What is sent is a reply. -/
theorem step_reply {q : Packet} (h : (step f s p).2 = (q, true)) :
    ∃ role msg cookie, q = p.reply role msg cookie := by
  unfold step at h
  split at h
  · exact absurd (Prod.mk.inj h).2 Bool.false_ne_true
  · split at h <;> split at h
    · exact ⟨_, _, _, (Prod.mk.inj h).1.symm⟩
    · exact absurd (Prod.mk.inj h).2 Bool.false_ne_true
    · exact ⟨_, _, _, (Prod.mk.inj h).1.symm⟩
    · exact absurd (Prod.mk.inj h).2 Bool.false_ne_true

end onePacket

/-- The server has these sessions, and nothing in its pool. -/
structure Shows (f : Sessions) (h : Held UInt64 (Ptr Object) Rand) : Prop where
  table : ∀ i, h.table.lookup i = (f i).map session
  pool : ∀ i, h.pool.lookup i = none

/-- The cookie a new session gets. -/
def nextCookie (r : Rand) : UInt8 := UInt8.ofNat (r 0 % 256)

/-- The connection a packet is for. -/
theorem find_eq {f : Sessions} {h : Held UInt64 (Ptr Object) Rand} (hs : Shows f h) (i : UInt64) :
    service.find i h = match f i with
      | none => some ({ h with
          table := FMap.insertNew i
            (State.new States.Hello (.to (.hello ⟨none, nextCookie h.rest⟩))) h.table
          rest := fun n => h.rest (n + 1) },
          some (State.new States.Hello (.to (.hello ⟨none, nextCookie h.rest⟩))))
      | some cs => some (h, some (session cs)) := by
  unfold Service.find
  rw [hs.table i, hs.pool i]
  cases f i <;> rfl

theorem Shows.update {f : Sessions} {h h' : Held UInt64 (Ptr Object) Rand} (hs : Shows f h)
    {i : UInt64} {o : Option (UInt8 × UInt8)} (hi : h'.table.lookup i = o.map session)
    (hne : ∀ k, k ≠ i → h'.table.lookup k = h.table.lookup k) (hpool : h'.pool = h.pool) :
    Shows (Function.update f i o) h' := by
  refine ⟨fun k => ?_, fun k => by rw [hpool]; exact hs.pool k⟩
  by_cases hk : k = i
  · rw [hk, Function.update_self, hi]
  · rw [Function.update_of_ne hk, hne k hk]
    exact hs.table k

/-- **The server does what `step` says.** -/
theorem receive_eq {f : Sessions} {h : Held UInt64 (Ptr Object) Rand} (hs : Shows f h) (p : Packet) :
    ∃ h', service.receive h p = some (h', (step f (nextCookie h.rest) p).2) ∧
      Shows (step f (nextCookie h.rest) p).1 h' := by
  unfold Service.receive step
  rw [show service.ident p = identify p from rfl]
  cases identify p with
  | none => exact ⟨h, rfl, hs⟩
  | some i =>
      dsimp only
      rw [find_eq hs i]
      cases hf : f i with
      | none =>
          have hrun := Hello.run_eq p (fun n => h.rest (n + 1)) ⟨none, nextCookie h.rest⟩
          dsimp only
          unfold Service.serve
          rw [show service.answer (State.new States.Hello
            (.to (.hello ⟨none, nextCookie h.rest⟩))) p (fun n => h.rest (n + 1)) = _ from hrun]
          by_cases hsaid : p.Says Msg.ROLE_CLIENT Msg.MSG_HELLO
          · rw [if_pos hsaid, if_pos hsaid]
            refine ⟨_, rfl, hs.update ?_ ?_ rfl⟩
            · exact Finmap.lookup_insert _
            · intro k hk
              exact (Finmap.lookup_insert_of_ne _ hk).trans (FMap.lookup_insertNew_ne _ _ hk)
          · rw [if_neg hsaid, if_neg hsaid]
            refine ⟨_, rfl, ?_⟩
            rw [← Function.update_eq_self i f, hf]
            refine hs.update ?_ ?_ rfl
            · exact Finmap.lookup_erase _ _
            · intro k hk
              exact (Finmap.lookup_erase_ne hk).trans ((Finmap.lookup_insert_of_ne _ hk).trans
                (FMap.lookup_insertNew_ne _ _ hk))
      | some cs =>
          have hrun := Bye.run_eq p h.rest ⟨cs.1.toNat, cs.2.toNat⟩
          rw [ofInt_toNat] at hrun
          dsimp only
          unfold Service.serve
          rw [show service.answer (session cs) p h.rest = _ from hrun]
          by_cases hsaid : p.Says Msg.ROLE_CLIENT Msg.MSG_BYE ∧ p.cookie = cs.2
          · rw [if_pos hsaid, if_pos ⟨hsaid.1, toNat_inj.mpr hsaid.2⟩]
            refine ⟨_, rfl, hs.update ?_ ?_ rfl⟩
            · exact Finmap.lookup_erase _ _
            · intro k hk
              exact (Finmap.lookup_erase_ne hk).trans (Finmap.lookup_insert_of_ne _ hk)
          · rw [if_neg hsaid, if_neg fun hc => hsaid ⟨hc.1, toNat_inj.mp hc.2⟩]
            refine ⟨_, rfl, hs.update ?_ ?_ rfl⟩
            · exact Finmap.lookup_erase _ _
            · intro k hk
              exact (Finmap.lookup_erase_ne hk).trans (Finmap.lookup_insert_of_ne _ hk)

/-- What the function decides. -/
def judge (i : UInt64) : Option (UInt8 × UInt8) → Packet → Verdict
  | none, p => if p.Says Msg.ROLE_CLIENT Msg.MSG_HELLO then .greets i else .rejects i
  | some cs, p =>
    if p.Says Msg.ROLE_CLIENT Msg.MSG_BYE ∧ p.cookie = cs.2 then
      .accepts i cs.1.toNat cs.2.toNat
    else .rejects i

theorem served_eq {f : Sessions} {h : Held UInt64 (Ptr Object) Rand} (hs : Shows f h) (p : Packet) :
    (service.served h p).map (fun c => Server.verdict c.1 c.2 p)
      = (identify p).map fun i => judge i (f i) p := by
  unfold Service.served
  rw [show service.ident p = identify p from rfl]
  cases identify p with
  | none => rfl
  | some i =>
      rw [Option.map_some]
      dsimp only
      rw [find_eq hs i]
      cases f i with
      | none => rfl
      | some cs =>
          show some (if p.Says Msg.ROLE_CLIENT Msg.MSG_BYE ∧ (p.cookie.toNat : Int) = cs.2.toNat then
            Verdict.accepts i cs.1.toNat cs.2.toNat else .rejects i) = some (judge i (some cs) p)
          rw [judge]
          by_cases h : p.Says Msg.ROLE_CLIENT Msg.MSG_BYE ∧ p.cookie = cs.2
          · rw [if_pos ⟨h.1, toNat_inj.mpr h.2⟩, if_pos h]
          · rw [if_neg fun hc => h ⟨hc.1, toNat_inj.mp hc.2⟩, if_neg h]

/-! ### A run of the server -/

/-- What becomes of the packets, one after the other: `F n` are the sessions before packet `n`,
and `S n` is the cookie it finds. -/
structure History (ps : List Packet) (os : List (Packet × Bool)) (F : Nat → Sessions)
    (S : Nat → UInt8) : Prop where
  length : os.length = ps.length
  out : ∀ n p, ps[n]? = some p → os[n]? = some (step (F n) (S n) p).2
  next : ∀ n p, ps[n]? = some p → F (n + 1) = (step (F n) (S n) p).1

/-- Every run of the server has a history, and after each packet the server shows its sessions. -/
theorem receiveAll_eq (ps : List Packet) {f : Sessions} {h : Held UInt64 (Ptr Object) Rand}
    (hs : Shows f h) : ∃ os F S, (∃ h', service.receiveAll ps h = some (h', os)) ∧
      History ps os F S ∧ F 0 = f ∧
      ∀ m, m ≤ ps.length → ∃ h' os', service.receiveAll (ps.take m) h = some (h', os') ∧
        Shows (F m) h' := by
  induction ps generalizing f h with
  | nil =>
      refine ⟨[], fun _ => f, fun _ => 0, ⟨h, rfl⟩, ⟨rfl, by simp, by simp⟩, rfl, fun m _ => ?_⟩
      exact ⟨h, [], by rw [List.take_nil]; rfl, hs⟩
  | cons p ps ih =>
      obtain ⟨h₁, hp, hs₁⟩ := receive_eq hs p
      obtain ⟨os, F, S, ⟨h', hall⟩, hH, hF, hshow⟩ := ih hs₁
      refine ⟨(step f (nextCookie h.rest) p).2 :: os, fun n => Nat.casesOn n f F,
        fun n => Nat.casesOn n (nextCookie h.rest) S, ⟨h', ?_⟩, ⟨?_, ?_, ?_⟩, rfl, ?_⟩
      · rw [Service.receiveAll, hp]
        dsimp only
        rw [hall]
        rfl
      · rw [List.length_cons, List.length_cons, hH.length]
      · rintro (_ | n) q hq
        · obtain rfl := Option.some.inj hq
          rfl
        · exact hH.out n q hq
      · rintro (_ | n) q hq
        · obtain rfl := Option.some.inj hq
          exact hF
        · exact hH.next n q hq
      · rintro (_ | m) hm
        · exact ⟨h, [], rfl, hs⟩
        · obtain ⟨h'', os'', hall', hs'⟩ := hshow m (Nat.le_of_succ_le_succ hm)
          refine ⟨h'', (step f (nextCookie h.rest) p).2 :: os'', ?_, hs'⟩
          rw [List.take_succ_cons, Service.receiveAll, hp]
          dsimp only
          rw [hall']
          rfl

end Server

/-! ### The client -/

namespace Client

open MoonState.Client

/-- A session, waiting for the server's hello or for its goodbye, with the cookies known so far. -/
inductive Session
  | hello (c : UInt8)
  | bye (c s : UInt8)
deriving DecidableEq, Repr

namespace Session

/-- The `State` of a session. -/
def state : Session → State (Ptr Object)
  | hello c => ⟨.to (.bye ⟨c.toNat, none⟩), States.Bye, timeoutIDInvalid⟩
  | bye c s => ⟨.to (.recvBye ⟨c.toNat, s.toNat⟩), States.RecvBye, timeoutIDInvalid⟩

theorem state_inj {x y : Session} (h : x.state = y.state) : x = y := by
  cases x <;> cases y
  · simp only [state, State.mk.injEq, Ptr.to.injEq, Object.bye.injEq, Bye.mk.injEq, toNat_inj,
      and_true] at h
    rw [h]
  · simp [state] at h
  · simp [state] at h
  · simp only [state, State.mk.injEq, Ptr.to.injEq, Object.recvBye.injEq, RecvBye.mk.injEq,
      toNat_inj, and_true] at h
    rw [h.1, h.2]

/-- What a packet does to its session: the session then, the packet, and whether it is sent. -/
def next : Session → Packet → Option Session × Packet × Bool
  | hello c, p =>
    if p.Says Msg.ROLE_SERVER Msg.MSG_HELLO then
      (some (bye c p.cookie), p.reply Msg.ROLE_CLIENT Msg.MSG_BYE p.cookie, true)
    else (none, p, false)
  | bye _ _, p => (none, p, false)

/-- What is sent is a reply to the server's hello, and the session goes on. -/
theorem next_sent {x : Session} {p q : Packet} (h : (x.next p).2 = (q, true)) :
    ∃ c, x = hello c ∧ p.Says Msg.ROLE_SERVER Msg.MSG_HELLO ∧
      (x.next p).1 = some (bye c p.cookie) ∧ q = p.reply Msg.ROLE_CLIENT Msg.MSG_BYE p.cookie := by
  cases x with
  | hello c =>
      by_cases hsaid : p.Says Msg.ROLE_SERVER Msg.MSG_HELLO
      · rw [next, if_pos hsaid] at h ⊢
        exact ⟨c, rfl, hsaid, rfl, (Prod.mk.inj h).1.symm⟩
      · rw [next, if_neg hsaid] at h
        exact absurd (Prod.mk.inj h).2 Bool.false_ne_true
  | bye c s => exact absurd (Prod.mk.inj h).2 Bool.false_ne_true

/-- What the function decides. -/
def judge (i : UInt64) : Session → Packet → Verdict
  | hello _, p => if p.Says Msg.ROLE_SERVER Msg.MSG_HELLO then .greets i else .rejects i
  | bye c s, p =>
    if p.Says Msg.ROLE_SERVER Msg.MSG_BYE ∧ p.cookie = c then .completes i c.toNat s.toNat false
    else .rejects i

end Session

/-- The sessions by their ident. -/
abbrev Sessions := UInt64 → Option Session

/-- A client's own sessions, and those of its pool. -/
structure Shows (f g : Sessions) (h : Held UInt64 (Ptr Object) Rand) : Prop where
  table : ∀ i, h.table.lookup i = (f i).map Session.state
  pool : ∀ i, h.pool.lookup i = (g i).map Session.state

/-- What a packet does: the sessions then, the packet, and whether it is sent. -/
def step (f g : Sessions) (p : Packet) : Sessions × Sessions × Packet × Bool :=
  match identify p with
  | none => (f, g, p, false)
  | some i =>
    match f i with
    | some x => (Function.update f i (x.next p).1, g, (x.next p).2)
    | none =>
      match g i with
      | some x => (Function.update f i (x.next p).1, Function.update g i none, (x.next p).2)
      | none => (f, g, p, false)

variable (config : HelloBye2ClientConfig)

/-- **The hello of a client**, of the connection and with the cookie it is made with. -/
theorem Hello.func_is (t : Hello) (pkt : Packet) (r : Rand) : (t.func config pkt r).pkt.Is t.ident
    Msg.ROLE_CLIENT Msg.MSG_HELLO (UInt8.ofInt t.clientCookie) := by
  have hmsg := t.func_msg config pkt r
  have hdata := t.func_data config pkt r
  have hat : ∀ j, 42 ≤ j → (t.func config pkt r).pkt.data j
      = t.message (t.ipHeader config (pkt.data.clear pkt.dataLen.toNat) sizeofEthernet) 42 j :=
    fun j hj => by rw [hdata, t.udpHeader_of_le config (by omega) hj]
  refine ⟨?_, ⟨?_, ?_⟩, ?_⟩
  · have htype : Ethernet.getEthertype (t.func config pkt r).pkt.data = Ethernet.ETHERTYPE_IPv4 := by
      rw [hdata, t.getEthertype_udpHeader config (by omega)]
    have hproto : IPv4.proto (t.func config pkt r).pkt.data sizeofEthernet = IPv4.PROTO_UDP := by
      rw [hdata, IPv4.proto, t.udpHeader_of_lt config (by decide) (by decide)]
      exact t.proto_ipHeader config _ _
    have hident : Msg.ident (t.func config pkt r).pkt.data (t.func config pkt r).pkt.msg
        = t.ident := by
      rw [hmsg]
      exact (Mem.Same.get64 fun j hj _ => hat j hj).trans (t.ident_message _ _)
    unfold identify
    dsimp only
    rw [htype, if_neg (not_not.mpr rfl), hproto, if_neg (not_not.mpr rfl)]
    exact congrArg some hident
  · rw [hmsg]
    exact (hat 50 (by omega)).trans (t.role_message _ _)
  · rw [hmsg]
    exact (hat 51 (by omega)).trans (t.msg_message _ _)
  · rw [Packet.cookie, hmsg]
    exact (hat 52 (by omega)).trans (t.cookie_message _ _)

/-- A function of a session. -/
theorem answer_eq (x : Session) (p : Packet) (r : Rand) : ∃ a,
    (service config).answer x.state p r = some a ∧ a.pkt = (x.next p).2.1 ∧
      (!a.free) = (x.next p).2.2 ∧ a.rest = r ∧
      ((x.next p).1 = none → (Service.after x.state a).state = States.Terminate) ∧
      ∀ y, (x.next p).1 = some y → Service.after x.state a = y.state := by
  cases x with
  | hello c =>
      refine ⟨_, Bye.run_eq p r ⟨c.toNat, none⟩, ?_⟩
      show _ ∧ _
      by_cases h : p.Says Msg.ROLE_SERVER Msg.MSG_HELLO
      · rw [if_pos h, Session.next, if_pos h]
        refine ⟨rfl, rfl, rfl, fun hc => by simp at hc, ?_⟩
        rintro y hy
        obtain rfl := Option.some.inj hy
        rfl
      · rw [if_neg h, Session.next, if_neg h]
        exact ⟨rfl, rfl, rfl, fun _ => rfl, fun y hy => by simp at hy⟩
  | bye c s =>
      exact ⟨_, RecvBye.run_eq p r ⟨c.toNat, s.toNat⟩, rfl, rfl, rfl, fun _ => rfl,
        fun y hy => by simp [Session.next] at hy⟩

/-- A session that lasts is not in the end state. -/
theorem Session.state_ne (x : Session) : x.state.state ≠ States.Terminate := by
  cases x <;> simp [state, States.Bye, States.RecvBye, States.Terminate]

theorem serve_eq {i : UInt64} (x : Session) (h : Held UInt64 (Ptr Object) Rand) (p : Packet) :
    ∃ h', (service config).serve i x.state h p = some (h', (x.next p).2) ∧
      h'.table.lookup i = (x.next p).1.map Session.state ∧
      (∀ k, k ≠ i → h'.table.lookup k = h.table.lookup k) ∧ h'.pool = h.pool := by
  obtain ⟨a, ha, hpkt, hfree, hrest, hend, hstay⟩ := answer_eq config x p h.rest
  unfold Service.serve
  rw [ha, Option.map_some, hpkt, hfree]
  refine ⟨_, rfl, ?_, ?_, rfl⟩
  · dsimp only
    rw [show (service config).endStateID = States.Terminate from rfl]
    cases hnext : (x.next p).1 with
    | none =>
        rw [if_pos (hend hnext)]
        exact Finmap.lookup_erase _ _
    | some y =>
        rw [hstay y hnext, if_neg y.state_ne]
        exact Finmap.lookup_insert _
  · intro k hk
    dsimp only
    split
    · exact (Finmap.lookup_erase_ne hk).trans (Finmap.lookup_insert_of_ne _ hk)
    · exact Finmap.lookup_insert_of_ne _ hk

theorem Shows.find_eq {f g : Sessions} {h : Held UInt64 (Ptr Object) Rand} (hs : Shows f g h)
    (i : UInt64) : (service config).find i h = match f i with
      | some x => some (h, some x.state)
      | none =>
        match g i with
        | some x =>
          some ({ h with table := FMap.insertNew i x.state h.table, pool := h.pool.erase i },
            some x.state)
        | none => some (h, none) := by
  unfold Service.find
  rw [hs.table i, hs.pool i]
  cases f i with
  | some x => rfl
  | none => cases g i <;> rfl

/-- **The client does what `step` says.** -/
theorem receive_eq {f g : Sessions} {h : Held UInt64 (Ptr Object) Rand} (hs : Shows f g h)
    (p : Packet) : ∃ h', (service config).receive h p = some (h', (step f g p).2.2) ∧
      Shows (step f g p).1 (step f g p).2.1 h' := by
  unfold Service.receive step
  rw [show (service config).ident p = identify p from rfl]
  cases identify p with
  | none => exact ⟨h, rfl, hs⟩
  | some i =>
      dsimp only
      rw [hs.find_eq config i]
      cases hf : f i with
      | some x =>
          obtain ⟨h', hserve, hi, hne, hpool⟩ := serve_eq config (i := i) x h p
          refine ⟨h', hserve, fun k => ?_, fun k => by rw [hpool]; exact hs.pool k⟩
          dsimp only
          by_cases hk : k = i
          · rw [hk, hi, Function.update_self]
          · rw [hne k hk, Function.update_of_ne hk]
            exact hs.table k
      | none =>
          cases hg : g i with
          | none => exact ⟨h, rfl, hs⟩
          | some x =>
              obtain ⟨h', hserve, hi, hne, hpool⟩ := serve_eq config (i := i) x
                { h with table := FMap.insertNew i x.state h.table, pool := h.pool.erase i } p
              refine ⟨h', hserve, fun k => ?_, fun k => ?_⟩
              · dsimp only
                by_cases hk : k = i
                · rw [hk, hi, Function.update_self]
                · rw [hne k hk, Function.update_of_ne hk]
                  exact (FMap.lookup_insertNew_ne _ _ hk).trans (hs.table k)
              · dsimp only
                rw [hpool]
                by_cases hk : k = i
                · rw [hk, Function.update_self]
                  exact Finmap.lookup_erase _ _
                · rw [Function.update_of_ne hk]
                  exact (Finmap.lookup_erase_ne hk).trans (hs.pool k)

theorem Session.judge_eq (x : Session) (i : UInt64) (p : Packet) :
    Client.verdict i x.state p (x.next p).2.2 = x.judge i p := by
  cases x with
  | hello c => rfl
  | bye c s =>
      show (if p.Says Msg.ROLE_SERVER Msg.MSG_BYE ∧ (p.cookie.toNat : Int) = c.toNat then
        Verdict.completes i c.toNat s.toNat false else .rejects i) = _
      rw [judge]
      by_cases h : p.Says Msg.ROLE_SERVER Msg.MSG_BYE ∧ p.cookie = c
      · rw [if_pos ⟨h.1, toNat_inj.mpr h.2⟩, if_pos h]
      · rw [if_neg fun hc => h ⟨hc.1, toNat_inj.mp hc.2⟩, if_neg h]

theorem served_eq {f g : Sessions} {h : Held UInt64 (Ptr Object) Rand} (hs : Shows f g h)
    (p : Packet) :
    ((service config).served h p).map (fun c => Client.verdict c.1 c.2 p (step f g p).2.2.2)
      = (identify p).bind fun i => ((f i).or (g i)).map fun x => x.judge i p := by
  unfold Service.served step
  rw [show (service config).ident p = identify p from rfl]
  cases identify p with
  | none => rfl
  | some i =>
      rw [Option.bind_some]
      dsimp only
      rw [hs.find_eq config i]
      cases f i with
      | some x =>
          show some (Client.verdict i x.state.woken p (x.next p).2.2) = some (x.judge i p)
          rw [← x.judge_eq i p]
          cases x <;> rfl
      | none =>
          cases g i with
          | none => rfl
          | some x =>
              show some (Client.verdict i x.state.woken p (x.next p).2.2) = some (x.judge i p)
              rw [← x.judge_eq i p]
              cases x <;> rfl

/-- **A client that opens a connection** has a session of it in its pool, and sends a hello. -/
theorem connect_eq (pl : Service.Platform) {f g : Sessions}
    {x : Instance UInt64 (Ptr Object) Packet Rand} (hruns : (service config).Runs x.sm)
    (hs : Shows f g x.held) {i : UInt64} (hfree : g i = none) (dstIp : UInt32) (srcPort : UInt16)
    (pkt : Packet) : ∃ x' p c, connect config pl x dstIp srcPort i [pkt] = .ok (x', [(p, true)]) ∧
      (service config).Runs x'.sm ∧ Shows f (Function.update g i (some (.hello c))) x'.held ∧
      p.Clear ∧ p.Is i Msg.ROLE_CLIENT Msg.MSG_HELLO c := by
  obtain ⟨t, ht⟩ : ∃ t : Hello, t = ⟨(x.rest 0 % 256 : Nat), dstIp, srcPort, i⟩ := ⟨_, rfl⟩
  obtain ⟨c, hc⟩ : ∃ c, c = UInt8.ofNat (x.rest 0 % 256) := ⟨_, rfl⟩
  have hcookie : t.clientCookie = c.toNat := by rw [ht, hc, toNat_cookie]
  have hopen : ((create dstIp srcPort i x.rest).bind fun d => (service config).openWith i
      (State.new States.Hello d.1) { x.held with rest := d.2 } pkt)
      = some (⟨x.sm.stateTable, FMap.insertNew i (Session.hello c).state x.connPool,
        fun n => x.rest (n + 1)⟩, (t.func config pkt fun n => x.rest (n + 1)).pkt, true) := by
    rw [Session.state, ← hcookie, ht]
    rfl
  have hconnect := Instance.connect_eq pl hruns i States.Hello (create dstIp srcPort i) pkt []
    (by decide)
  rw [hopen] at hconnect
  obtain ⟨x', hx', hheld, hruns'⟩ := hconnect
  refine ⟨x', _, c, hx', hruns', ?_, t.func_clear config pkt _, ?_⟩
  · rw [hheld]
    refine ⟨hs.table, fun k => ?_⟩
    dsimp only
    by_cases hk : k = i
    · have hnone : x.connPool.lookup i = none := by
        have := hs.pool i
        rw [hfree] at this
        exact this
      rw [hk, Function.update_self]
      show (FMap.insertNew i _ x.connPool).lookup i = _
      rw [FMap.lookup_insertNew_self, hnone]
      rfl
    · rw [Function.update_of_ne hk]
      exact (FMap.lookup_insertNew_ne _ _ hk).trans (hs.pool k)
  · have his := t.func_is config pkt fun n => x.rest (n + 1)
    rw [hcookie, ofInt_toNat, ht] at his
    rw [ht]
    exact his

end Client

end HelloBye2

end MoonState
