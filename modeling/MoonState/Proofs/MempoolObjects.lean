/-
Mempool objects have one owner.

Each function of HelloBye3 with mempools either keeps its object or gives it back,
and gives it back exactly where it ends the connection: `service_served`.  So in
every state a program of servers and clients reaches, the objects taken from the
mempools are those of the connections, one each, and none was used or given back
after it had been given back.

It takes that no server shares its pool with a client.  A server finds the client's
connection in a shared pool, runs its own function on it, and hands the client's
struct to the mempool of the servers.
-/
import MoonState.Model.MempoolObjects
import MoonState.Proofs.Fleet

namespace MoonState.HelloBye3MemPool.Objects

open Headers

variable {A M : Type} [DecidableEq A] {mempool : Allocator A M} {Valid : M → Finset A → Prop}

/-- The objects a function expects, by the role of its machine and the state. -/
def Expects : Role → StateID × Ref A → Prop
  | .server, (n, .server _) => n = MoonState.Server.States.Hello ∨ n = MoonState.Server.States.Bye
  | .client, (n, .client _) => n = MoonState.Client.States.Hello ∨ n = MoonState.Client.States.Bye ∨
    n = MoonState.Client.States.RecvBye
  | _, _ => False

/-- The objects of both mempools. -/
def trust (A : Type) [DecidableEq A] {M : Type} (Valid : M → Finset A → Prop) :
    Trust Role (Ref A) (Mempools A M) where
  object := Prod.snd
  live := fun r => {d | r.Out d}
  sane := fun r => r.server.Sound Valid ∧ r.client.Sound Valid
  fits := fun role e _ => Expects role e

variable {r : Mempools A M} {a : A}

/-! ### What a step does to the mempools -/

/-- The objects need nothing of the mempools but to be in them. -/
theorem trades_of {r' : Mempools A M} {gone come : Option (Ref A)} (hsane : (trust A Valid).sane r')
    (hout : ∀ d, r'.Out d ↔ come = some d ∨ (r.Out d ∧ gone ≠ some d))
    (hfresh : ∀ d, come = some d → r.Out d → gone = some d) :
    (trust A Valid).Trades gone come r r' where
  sane := hsane
  live_iff := hout
  fresh := hfresh
  frame := fun _ _ _ _ h => h

/-- A server's object was used. -/
theorem uses_server (hr : (trust A Valid).sane r) (ha : a ∈ r.server.taken)
    {x : Arena A M Server.server} (hx : x.Sound Valid) (htaken : x.taken = r.server.taken) :
    (trust A Valid).Trades (some (.server a)) (some (.server a)) r { r with server := x } := by
  refine trades_of ⟨hx, hr.2⟩ ?_ (by simp)
  intro d
  cases d with
  | null => simp [Mempools.Out]
  | client b => simp [Mempools.Out]
  | server b =>
      by_cases hb : a = b
      · subst hb
        simpa [Mempools.Out, htaken] using ha
      · simp [Mempools.Out, htaken, hb]

/-- A server's object was given back. -/
theorem returns_server (hal : mempool.Lawful Valid) (hr : (trust A Valid).sane r)
    (ha : a ∈ r.server.taken) :
    (trust A Valid).Trades (some (.server a)) none r (r.putServer mempool (.server a)) := by
  refine trades_of ⟨hr.1.put hal ha, hr.2⟩ ?_ (by simp)
  intro d
  cases d with
  | null => simp [Mempools.Out]
  | client b => simp [Mempools.Out, Mempools.putServer]
  | server b => simp [Mempools.Out, Mempools.putServer, and_comm, eq_comm]

/-- A server's object was taken and filled in. -/
theorem takes_server (hal : mempool.Lawful Valid) (hr : (trust A Valid).sane r)
    {x : Arena A M Server.server} (hget : r.server.get mempool = some (a, x)) (rnd : Rand)
    (v : Server.server) : (trust A Valid).Trades none (some (.server a)) r
      { r with rnd := rnd, server := x.write a v } := by
  obtain ⟨hnew, hsound, htaken, -⟩ := hr.1.get hal hget
  have ha : a ∈ x.taken := by simp [htaken]
  refine trades_of ⟨hsound.write ha v, hr.2⟩ ?_ ?_
  · intro d
    cases d with
    | null => simp [Mempools.Out]
    | client b => simp [Mempools.Out]
    | server b => simp [Mempools.Out, htaken, eq_comm]
  · intro d hd hout
    obtain rfl := Option.some.inj hd
    exact absurd hout hnew

/-- A client's object was used. -/
theorem uses_client (hr : (trust A Valid).sane r) (ha : a ∈ r.client.taken)
    {x : Arena A M Client.client} (hx : x.Sound Valid) (htaken : x.taken = r.client.taken) :
    (trust A Valid).Trades (some (.client a)) (some (.client a)) r { r with client := x } := by
  refine trades_of ⟨hr.1, hx⟩ ?_ (by simp)
  intro d
  cases d with
  | null => simp [Mempools.Out]
  | server b => simp [Mempools.Out]
  | client b =>
      by_cases hb : a = b
      · subst hb
        simpa [Mempools.Out, htaken] using ha
      · simp [Mempools.Out, htaken, hb]

/-- A client's object was given back. -/
theorem returns_client (hal : mempool.Lawful Valid) (hr : (trust A Valid).sane r)
    (ha : a ∈ r.client.taken) :
    (trust A Valid).Trades (some (.client a)) none r (r.putClient mempool (.client a)) := by
  refine trades_of ⟨hr.1, hr.2.put hal ha⟩ ?_ (by simp)
  intro d
  cases d with
  | null => simp [Mempools.Out]
  | server b => simp [Mempools.Out, Mempools.putClient]
  | client b => simp [Mempools.Out, Mempools.putClient, and_comm, eq_comm]

/-- A client's object was taken and filled in. -/
theorem takes_client (hal : mempool.Lawful Valid) (hr : (trust A Valid).sane r)
    {x : Arena A M Client.client} (hget : r.client.get mempool = some (a, x)) (rnd : Rand)
    (v : Client.client) : (trust A Valid).Trades none (some (.client a)) r
      { r with rnd := rnd, client := x.write a v } := by
  obtain ⟨hnew, hsound, htaken, -⟩ := hr.2.get hal hget
  have ha : a ∈ x.taken := by simp [htaken]
  refine trades_of ⟨hr.1, hsound.write ha v⟩ ?_ ?_
  · intro d
    cases d with
    | null => simp [Mempools.Out]
    | server b => simp [Mempools.Out]
    | client b => simp [Mempools.Out, htaken, eq_comm]
  · intro d hd hout
    obtain rfl := Option.some.inj hd
    exact absurd hout hnew

/-! ### What the functions do -/

section functions

variable (hal : mempool.Lawful Valid) (hr : (trust A Valid).sane r) (pkt : Packet)

include hal hr

theorem Server.runHello_served (ha : a ∈ r.server.taken) :
    ∃ o, Server.runHello mempool (.server a) pkt r = some o ∧
      (trust A Valid).Served .server MoonState.Server.States.Terminate (.server a) r
        (o.newState.getD MoonState.Server.States.Hello, o.stateData) o.rest := by
  unfold Server.runHello
  dsimp only
  split
  · exact ⟨_, rfl, Trust.served_end (returns_server hal hr ha)⟩
  · split
    · exact ⟨_, rfl, Trust.served_end (returns_server hal hr ha)⟩
    · refine ⟨_, rfl, Trust.served_stay (n := MoonState.Server.States.Bye) (by decide)
        (uses_server hr ha ?_ ?_) (Or.inr rfl)⟩
      · rw [Arena.touch_of_mem (by simpa using ha)]
        exact hr.1.write ha _
      · rw [Arena.touch_of_mem (by simpa using ha)]
        rfl

theorem Server.runBye_served (ha : a ∈ r.server.taken) :
    ∃ o, Server.runBye mempool (.server a) pkt r = some o ∧
      (trust A Valid).Served .server MoonState.Server.States.Terminate (.server a) r
        (o.newState.getD MoonState.Server.States.Bye, o.stateData) o.rest := by
  unfold Server.runBye
  dsimp only
  simp only [Arena.touch_of_mem ha]
  split
  · exact ⟨_, rfl, Trust.served_end (returns_server hal hr ha)⟩
  · split
    · exact ⟨_, rfl, Trust.served_end (returns_server hal hr ha)⟩
    · exact ⟨_, rfl, Trust.served_end (returns_server hal hr ha)⟩

omit hal in
theorem Client.runHello_served (ha : a ∈ r.client.taken) :
    ∃ o, Client.runHello (.client a) pkt r = some o ∧
      (trust A Valid).Served .client MoonState.Client.States.Terminate (.client a) r
        (o.newState.getD MoonState.Client.States.Hello, o.stateData) o.rest := by
  unfold Client.runHello
  dsimp only
  simp only [Arena.touch_of_mem ha]
  exact ⟨_, rfl, Trust.served_stay (n := MoonState.Client.States.Bye) (by decide)
    (uses_client hr ha hr.2 rfl) (Or.inr (Or.inl rfl))⟩

theorem Client.runBye_served (ha : a ∈ r.client.taken) :
    ∃ o, Client.runBye mempool (.client a) pkt r = some o ∧
      (trust A Valid).Served .client MoonState.Client.States.Terminate (.client a) r
        (o.newState.getD MoonState.Client.States.Bye, o.stateData) o.rest := by
  unfold Client.runBye
  dsimp only
  split
  · exact ⟨_, rfl, Trust.served_end (returns_client hal hr ha)⟩
  · refine ⟨_, rfl, Trust.served_stay (n := MoonState.Client.States.RecvBye) (by decide)
      (uses_client hr ha ?_ ?_) (Or.inr (Or.inr rfl))⟩
    · rw [Arena.touch_of_mem (by simpa using ha)]
      exact hr.2.write ha _
    · rw [Arena.touch_of_mem (by simpa using ha)]
      rfl

theorem Client.runRecvBye_served (ha : a ∈ r.client.taken) :
    ∃ o, Client.runRecvBye mempool (.client a) pkt r = some o ∧
      (trust A Valid).Served .client MoonState.Client.States.Terminate (.client a) r
        (o.newState.getD MoonState.Client.States.RecvBye, o.stateData) o.rest := by
  unfold Client.runRecvBye
  dsimp only
  simp only [Arena.touch_of_mem ha]
  split
  · exact ⟨_, rfl, Trust.served_end (returns_client hal hr ha)⟩
  · split
    · exact ⟨_, rfl, Trust.served_end (returns_client hal hr ha)⟩
    · exact ⟨_, rfl, Trust.served_end (returns_client hal hr ha)⟩

end functions

/-- The functions of the servers answer, and do what they may. -/
theorem server_served (hal : mempool.Lawful Valid) {n : StateID} {d : Ref A} (pkt : Packet)
    (hkeeps : (trust A Valid).Keeps .server (n, d) r) :
    ∃ o, (Server.service mempool).answer (State.new n d) pkt r = some o ∧
      (trust A Valid).Served .server MoonState.Server.States.Terminate d r
        (o.newState.getD n, o.stateData) o.rest := by
  have hfits : Expects .server (n, d) := hkeeps.fits
  cases d with
  | null => exact hfits.elim
  | client a => exact hfits.elim
  | server a =>
      have ha : a ∈ r.server.taken := hkeeps.live
      rcases hfits with rfl | rfl
      · exact Server.runHello_served hal hkeeps.sane pkt ha
      · exact Server.runBye_served hal hkeeps.sane pkt ha

/-- The same of the clients. -/
theorem client_served (hal : mempool.Lawful Valid) {n : StateID} {d : Ref A} (pkt : Packet)
    (hkeeps : (trust A Valid).Keeps .client (n, d) r) :
    ∃ o, (Client.service mempool).answer (State.new n d) pkt r = some o ∧
      (trust A Valid).Served .client MoonState.Client.States.Terminate d r
        (o.newState.getD n, o.stateData) o.rest := by
  have hfits : Expects .client (n, d) := hkeeps.fits
  cases d with
  | null => exact hfits.elim
  | server a => exact hfits.elim
  | client a =>
      have ha : a ∈ r.client.taken := hkeeps.live
      rcases hfits with rfl | rfl | rfl
      · exact Client.runHello_served hkeeps.sane pkt ha
      · exact Client.runBye_served hal hkeeps.sane pkt ha
      · exact Client.runRecvBye_served hal hkeeps.sane pkt ha

theorem server_factory (hal : mempool.Lawful Valid) {id : UInt64} {d : Ref A} {r' : Mempools A M}
    (hsane : (trust A Valid).sane r) (h : Server.factory mempool id r = some (d, r')) :
    (trust A Valid).Trades none (some d) r r' ∧
      (trust A Valid).fits .server (MoonState.Server.States.Hello, d) r' := by
  cases hget : r.server.get mempool with
  | none => simp [Server.factory, hget] at h
  | some ax =>
      simp only [Server.factory, hget, Option.some.injEq, Prod.mk.injEq] at h
      obtain ⟨rfl, rfl⟩ := h
      exact ⟨takes_server hal hsane hget _ _, Or.inl rfl⟩

/-! ### The functions on values

Each function does to its packet and to the state what it does in the model where the
struct itself is the data.
-/

section agrees

variable {N : Type} (pool : Mempool N) (pkt : Packet) (m : N)

/-- The state, the packet, and whether it is freed. -/
def outcome {D R : Type} (o : Answer D Packet R) : Option StateID × Packet × Bool :=
  (o.newState, o.pkt, o.free)

theorem Server.runHello_agrees :
    (Server.runHello mempool (.server a) pkt r).map outcome
      = (HelloBye3MemPool.Server.runHello pool (.to (r.server.mem a)) pkt (r.rnd, m)).map outcome := by
  unfold Server.runHello HelloBye3MemPool.Server.runHello
  dsimp only
  split
  · rfl
  · split
    · rfl
    · simp [outcome]

theorem Server.runBye_agrees :
    (Server.runBye mempool (.server a) pkt r).map outcome
      = (HelloBye3MemPool.Server.runBye pool (.to (r.server.mem a)) pkt (r.rnd, m)).map outcome := by
  unfold Server.runBye HelloBye3MemPool.Server.runBye
  dsimp only [Arena.touch_mem]
  split
  · rfl
  · split
    · rename_i h
      simp [outcome, h]
    · rename_i h
      simp [outcome, not_not.mp h]

theorem Client.runHello_agrees :
    (Client.runHello (.client a) pkt r).map outcome
      = (HelloBye3MemPool.Client.runHello (M := N) (.to (r.client.mem a)) pkt (r.rnd, m)).map
          outcome :=
  rfl

theorem Client.runBye_agrees :
    (Client.runBye mempool (.client a) pkt r).map outcome
      = (HelloBye3MemPool.Client.runBye pool (.to (r.client.mem a)) pkt (r.rnd, m)).map outcome := by
  unfold Client.runBye HelloBye3MemPool.Client.runBye
  dsimp only
  split
  · rfl
  · simp [outcome]

theorem Client.runRecvBye_agrees :
    (Client.runRecvBye mempool (.client a) pkt r).map outcome
      = (HelloBye3MemPool.Client.runRecvBye pool (.to (r.client.mem a)) pkt (r.rnd, m)).map
          outcome := by
  unfold Client.runRecvBye HelloBye3MemPool.Client.runRecvBye
  dsimp only [Arena.touch_mem]
  split
  · rfl
  · split
    · rename_i h
      simp [outcome, h]
    · rename_i h
      simp [outcome, not_not.mp h]

end agrees

/-! ### Runs -/

variable {ι κ P : Type} [DecidableEq ι] [DecidableEq κ] [DecidableEq P] {S : Deployment ι κ}
  {x : Fleet ι κ UInt64 P (Ref A) Packet (Mempools A M)}

variable (mempool S x) in
/-- **Every object has one owner.** -/
structure Owned : Prop where
  /-- the objects that were taken and not given back are those of the connections -/
  out_iff : ∀ d, x.w.rest.Out d ↔ ∃ q st, x.entries q = some st ∧ st.stateData = d
  /-- no two connections have the same -/
  inj : ∀ {q q' st st'}, x.entries q = some st → x.entries q' = some st' →
    st.stateData = st'.stateData → q = q'
  /-- none was used or given back that was not taken -/
  server : x.w.rest.server.misused = false
  client : x.w.rest.client.misused = false
  /-- the function of a connection finds the struct it expects -/
  answers : ∀ {i id st}, x.entries (.inl i, id) = some st ∨
    x.entries (.inr (S.poolOf i), id) = some st →
      ∀ pkt, (service mempool (S.role i)).answer st pkt x.w.rest ≠ none

theorem service_served (hal : mempool.Lawful Valid) {role : Role} {r : Mempools A M} {n : StateID}
    {d : Ref A} (pkt : Packet) (hkeeps : (trust A Valid).Keeps role (n, d) r) :
    ∃ o, (service mempool role).answer (State.new n d) pkt r = some o ∧
      (trust A Valid).Served role (service mempool role).endStateID d r
        (o.newState.getD n, o.stateData) o.rest := by
  cases role with
  | server => exact server_served hal pkt hkeeps
  | client => exact client_served hal pkt hkeeps

/-- Servers and clients keep to it. -/
theorem service_careful (hal : mempool.Lawful Valid) (role : Role) :
    (service mempool role).Careful (trust A Valid) role fun _ _ _ => True where
  factory := by
    intro hlisten
    cases role with
    | server => exact ⟨_, rfl, fun _ _ _ _ hsane h => server_factory hal hsane h⟩
    | client => simp [service, Client.service] at hlisten
  answers := by
    intro n d w b a hkeeps _ ha
    obtain ⟨o, ho, hserved⟩ := service_served hal b hkeeps
    rw [ha] at ho
    obtain rfl := Option.some.inj ho
    exact hserved

omit [DecidableEq ι] [DecidableEq κ] [DecidableEq P] in
/-- What a client does to open a connection. -/
theorem Can.opens (hal : mempool.Lawful Valid)
    {a : Fleet.Act ι UInt64 P (Ref A) Packet (Mempools A M)} (h : Can mempool S x a) :
    Fleet.Opens (trust A Valid) S.role S.poolOf x a := by
  cases a with
  | arrive mem => trivial
  | process i ba => trivial
  | between f =>
      intro hsane
      have hout : ∀ d, (f x.w.rest).Out d ↔ x.w.rest.Out d := by
        intro d
        cases d <;> simp [Mempools.Out, (h x.w.rest).1, (h x.w.rest).2]
      refine trades_of ?_ (by simp [hout]) (by simp)
      show (f x.w.rest).server.Sound Valid ∧ (f x.w.rest).client.Sound Valid
      rw [(h x.w.rest).1, (h x.w.rest).2]
      exact hsane
  | connect i ident state create ba =>
      obtain ⟨hrole, hfree, rfl, srcIp, dstIp, srcPort, dstPort, rfl⟩ := h
      refine ⟨hfree, ?_⟩
      intro d w hsane hd
      rw [hrole]
      cases hget : x.w.rest.client.get mempool with
      | none => simp [Client.createHello, hget] at hd
      | some ax =>
          simp only [Client.createHello, hget, Option.some.injEq, Prod.mk.injEq] at hd
          obtain ⟨rfl, rfl⟩ := hd
          exact ⟨takes_client hal hsane hget _ _, Or.inl rfl⟩

omit [DecidableEq ι] [DecidableEq κ] in
/-- What custody says of the mempools. -/
theorem owned_of_guarded (hal : mempool.Lawful Valid) {poolRole : κ → Role}
    (hpool : ∀ i, poolRole (S.poolOf i) = S.role i)
    (h : Fleet.Guarded (trust A Valid) (fun i => (service mempool (S.role i)).machine) S.role
      poolRole x) : Owned mempool S x where
  out_iff := h.holds.live_iff
  inj := h.holds.inj
  server := h.holds.sane.1.fair
  client := h.holds.sane.2.fair
  answers := by
    intro i id st hst pkt
    have hkeeps : (trust A Valid).Keeps (S.role i) (st.state, st.stateData) x.w.rest := by
      rcases hst with hst | hst
      · exact ⟨h.holds.sane, h.holds.mem_live hst, h.holds.fits hst⟩
      · refine ⟨h.holds.sane, h.holds.mem_live hst, ?_⟩
        rw [← hpool i]
        exact h.holds.fits hst
    obtain ⟨o, ho, -⟩ := service_served hal pkt hkeeps
    have hsame := (service mempool (S.role i)).answer_of_entry
      (show st.entry = (State.new st.state st.stateData).entry from rfl) pkt x.w.rest
    rw [hsame, ho]
    simp

/-- **In every state a program reaches**, if no server shares a pool with a client. -/
theorem run_owned (hapart : S.Apart) (hal : mempool.Lawful Valid) {m m' : M} (hm : Valid m ∅)
    (hm' : Valid m' ∅) (mem : A → Server.server) (mem' : A → Client.client) (pkts : P → Packet)
    (rnd : Rand) (hrun : Steps (Does mempool S)
      (S.start (service mempool) ⟨pkts, rnd, .new m mem, .new m' mem'⟩) x) :
    Owned mempool S x := by
  obtain ⟨poolRole, hpool, hguarded⟩ := hapart.guarded (fun _ _ _ _ => True) (T := trust A Valid) rfl
    (service_careful hal) ⟨Arena.new_sound hm mem, Arena.new_sound hm' mem'⟩
    (fun d hd => by cases d <;> simp [trust, Mempools.Out, Arena.new] at hd)
    (fun y a ha => ⟨ha.opens hal, Fleet.meets_of_forall (fun _ _ _ _ => trivial) a⟩) hrun
  exact owned_of_guarded hal hpool hguarded

/-! ### A server and a client -/

/-- Mempools of three objects each. -/
def three : World Nat Packet (Mempools Nat (List Nat)) where
  mem := fun _ => default
  rest :=
    { rnd := fun _ => 5
      server := .new [0, 1, 2] fun _ => ⟨0, 0⟩
      client := .new [0, 1, 2] fun _ => ⟨0, 0, 0, 0, 0, 0, 0⟩ }

/-- The client opens a connection, and its hello gets to the server. -/
def hello : List (Fleet.Act Bool UInt64 Nat (Ref Nat) Packet (Mempools Nat (List Nat))) :=
  [.connect true 7 MoonState.Client.States.Hello (Client.createHello .stack 1 2 3 4 7)
      ((BufArray.new [7]).get BufArray.isSome_new_seven),
    .process false ((BufArray.new [7]).get BufArray.isSome_new_seven)]

/-- What becomes of it. -/
def greeted {κ : Type} [DecidableEq κ] (poolOf : Bool → κ) :
    Except Fault (Fleet Bool κ UInt64 Nat (Ref Nat) Packet (Mempools Nat (List Nat))) :=
  hello.foldlM (fun x a => x.step ((Deployment.duo poolOf).env identify) poolOf a)
    ((Deployment.duo poolOf).start (service .stack) three)

theorem greeted_steps {κ : Type} [DecidableEq κ] {poolOf : Bool → κ}
    {x : Fleet Bool κ UInt64 Nat (Ref Nat) Packet (Mempools Nat (List Nat))}
    (h : greeted poolOf = .ok x) :
    Steps (Does .stack (.duo poolOf)) ((Deployment.duo poolOf).start (service .stack) three) x := by
  obtain ⟨y, hy, h⟩ := foldlM_cons_eq_ok.mp h
  obtain ⟨z, hz, h⟩ := foldlM_cons_eq_ok.mp h
  obtain rfl := Except.ok.inj h
  refine (Steps.refl.step _ ⟨?_, hy⟩).step _ ⟨?_, hz⟩
  · trivial
  · exact ⟨rfl, rfl, rfl, 1, 2, 3, 4, rfl⟩

/-- The objects that are taken, whether the servers' mempool was misused, and the connections of
the server and the client and in the pool of the client. -/
structure Sight where
  server : Finset Nat
  client : Finset Nat
  misused : Bool
  tables : Finset UInt64 × Finset UInt64
  pool : Finset UInt64
deriving DecidableEq

def seen {κ : Type} (poolOf : Bool → κ) :
    Except Fault (Fleet Bool κ UInt64 Nat (Ref Nat) Packet (Mempools Nat (List Nat))) → Option Sight
  | .error _ => none
  | .ok x => some {
    server := x.w.rest.server.taken
    client := x.w.rest.client.taken
    misused := x.w.rest.server.misused
    tables := ((x.sms false).stateTable.keys, (x.sms true).stateTable.keys)
    pool := (x.connPool (poolOf true)).keys }

/-- With a pool each, the connections of both sides have their objects. -/
theorem run_owned_duo : ∃ x, greeted id = .ok x ∧
    x.w.rest.server.taken = {0} ∧ x.w.rest.client.taken = {0} ∧ Owned .stack (.duo id) x := by
  have hseen : seen id (greeted id) = some
      { server := {0}, client := {0}, misused := false, tables := ({7}, ∅), pool := {7} } := by
    decide +kernel
  cases hx : greeted id with
  | error e =>
      rw [hx] at hseen
      simp [seen] at hseen
  | ok x =>
      rw [hx] at hseen
      obtain ⟨hserver, hclient, -⟩ := Sight.mk.inj (Option.some.inj hseen)
      have hvalid : Allocator.StackValid [0, 1, 2] ∅ := ⟨by decide, by simp⟩
      refine ⟨x, rfl, hserver, hclient, ?_⟩
      exact run_owned (fun i j h => by rw [show i = j from h]) Allocator.stack_lawful hvalid hvalid
        _ _ _ _ (greeted_steps hx)

/-- With one pool for both, the client's object is taken and belongs to no connection. -/
theorem shared_pool_not_owned : ∃ x : Fleet Bool Unit UInt64 Nat (Ref Nat) Packet _,
    Steps (Does .stack (.duo fun _ => ())) ((Deployment.duo fun _ => ()).start (service .stack) three) x ∧
      ¬ Owned .stack (.duo fun _ => ()) x := by
  have hseen : seen (fun _ => ()) (greeted fun _ => ()) = some
      { server := ∅, client := {0}, misused := true, tables := (∅, ∅), pool := ∅ } := by
    decide +kernel
  cases hx : greeted fun _ => () with
  | error e =>
      rw [hx] at hseen
      simp [seen] at hseen
  | ok x =>
      rw [hx] at hseen
      obtain ⟨-, -, hmisused, -⟩ := Sight.mk.inj (Option.some.inj hseen)
      refine ⟨x, greeted_steps hx, ?_⟩
      intro howned
      rw [howned.server] at hmisused
      simp at hmisused

end MoonState.HelloBye3MemPool.Objects
