/-
The binary HelloBye protocols do the same.

HelloBye2 keeps an object of another class for each state, HelloBye3 one struct for
the whole connection.  `Server.Same` and `Client.Same` say when two of them stand
for the same connection.  HelloBye3 with a mempool keeps the struct of HelloBye3,
and can only differ where the mempool has no object left.
-/
import MoonState.Proofs.HelloBye2
import MoonState.Proofs.Simulation

namespace MoonState

open Headers

/-! ### The functions of HelloBye3 -/

namespace HelloBye3

variable (pkt : Packet) (r : Rand)

namespace Server

open MoonState.Server

theorem runHello_eq (s : server) : runHello (.to s) pkt r = some
    (if pkt.Says Msg.ROLE_CLIENT Msg.MSG_HELLO then
      ⟨.to { s with clientCookie := pkt.cookie.toNat }, some States.Bye,
        pkt.reply Msg.ROLE_SERVER Msg.MSG_HELLO (UInt8.ofInt s.serverCookie), r, false⟩
    else ⟨.dangling, some States.Terminate, pkt, r, true⟩) := by
  unfold runHello
  by_cases hrole : Msg.role pkt.data pkt.msg = Msg.ROLE_CLIENT
  · by_cases hmsg : Msg.msg pkt.data pkt.msg = Msg.MSG_HELLO
    · rw [if_pos ⟨hrole, hmsg⟩]
      exact (if_neg (not_not.mpr hrole)).trans (if_neg (not_not.mpr hmsg))
    · rw [if_neg fun hc => hmsg hc.2]
      exact (if_neg (not_not.mpr hrole)).trans (if_pos hmsg)
  · rw [if_neg fun hc => hrole hc.1]
    exact if_pos hrole

theorem runBye_eq (s : server) : runBye (.to s) pkt r = some
    (if pkt.Says Msg.ROLE_CLIENT Msg.MSG_BYE ∧ (pkt.cookie.toNat : Int) = s.serverCookie then
      ⟨.dangling, some States.Terminate,
        pkt.reply Msg.ROLE_SERVER Msg.MSG_BYE (UInt8.ofInt s.clientCookie), r, false⟩
    else ⟨.dangling, some States.Terminate, pkt, r, true⟩) := by
  unfold runBye
  by_cases hsaid : pkt.Says Msg.ROLE_CLIENT Msg.MSG_BYE
  · have hno : ¬(Msg.role pkt.data pkt.msg ≠ Msg.ROLE_CLIENT ∨
        Msg.msg pkt.data pkt.msg ≠ Msg.MSG_BYE) := fun hc => hc.elim (· hsaid.1) (· hsaid.2)
    by_cases hcookie : (pkt.cookie.toNat : Int) = s.serverCookie
    · rw [if_pos ⟨hsaid, hcookie⟩, ← pkt.reply_eq Msg.ROLE_SERVER Msg.MSG_BYE rfl]
      exact (if_neg hno).trans (if_neg (not_not.mpr hcookie))
    · rw [if_neg fun hc => hcookie hc.2]
      exact (if_neg hno).trans (if_pos hcookie)
  · rw [if_neg fun hc => hsaid hc.1]
    exact if_pos (not_and_or.mp hsaid)

end Server

namespace Client

open MoonState.Client

theorem runBye_eq (c : client) : runBye (.to c) pkt r = some
    (if pkt.Says Msg.ROLE_SERVER Msg.MSG_HELLO then
      ⟨.to { c with serverCookie := pkt.cookie.toNat }, some States.RecvBye,
        pkt.reply Msg.ROLE_CLIENT Msg.MSG_BYE pkt.cookie, r, false⟩
    else ⟨.dangling, some States.Terminate, pkt, r, true⟩) := by
  unfold runBye
  by_cases hsaid : pkt.Says Msg.ROLE_SERVER Msg.MSG_HELLO
  · rw [if_pos hsaid, ← pkt.reply_eq Msg.ROLE_CLIENT Msg.MSG_BYE (ofInt_toNat pkt.cookie)]
    exact if_neg fun hc => hc.elim (· hsaid.1) (· hsaid.2)
  · rw [if_neg hsaid]
    exact if_pos (not_and_or.mp hsaid)

theorem runRecvBye_eq (c : client) : runRecvBye (.to c) pkt r
    = some ⟨.dangling, some States.Terminate, pkt, r, true⟩ := by
  unfold runRecvBye
  dsimp only
  split
  · rfl
  · split <;> rfl

end Client

end HelloBye3

/-! ### HelloBye2 and HelloBye3 -/

namespace Server

/-- The object of HelloBye2 and the struct of HelloBye3, of a connection in a state. -/
inductive Same : StateID → Ptr HelloBye2.Server.Object → Ptr HelloBye3.Server.server → Prop
  | hello (t : HelloBye2.Server.Hello) (s : HelloBye3.Server.server)
    (server : (t.serverCookie.toNat : Int) = s.serverCookie) :
    Same States.Hello (.to (.hello t)) (.to s)
  | bye (t : HelloBye2.Server.Bye) (s : HelloBye3.Server.server)
    (client : t.clientCookie = s.clientCookie) (server : t.serverCookie = s.serverCookie) :
    Same States.Bye (.to (.bye t)) (.to s)

theorem alike : HelloBye2.Server.service.Alike HelloBye3.Server.service Same Eq fun _ => False where
  ident := rfl
  startStateID := rfl
  endStateID := rfl
  listenToConnections := rfl
  newData := by
    rintro - id r _ rfl
    exact Or.inr ⟨_, _, _, _, rfl, rfl, .hello _ _ (toNat_cookie (r 0)), rfl⟩
  answer := by
    rintro ⟨d, n, tid⟩ ⟨e, n', tid'⟩ b r _ ⟨hn, hsame⟩ rfl
    obtain rfl : n = n' := hn
    cases hsame with
    | hello t s server =>
        refine ⟨_, _, HelloBye2.Server.Hello.run_eq b r t, HelloBye3.Server.runHello_eq b r s, ?_⟩
        by_cases h : b.Says Msg.ROLE_CLIENT Msg.MSG_HELLO
        · rw [if_pos h, if_pos h]
          refine ⟨rfl, ?_, rfl, rfl, fun _ => .bye _ _ rfl server⟩
          rw [← server, ofInt_toNat]
        · rw [if_neg h, if_neg h]
          exact ⟨rfl, rfl, rfl, rfl, fun hc => absurd rfl hc⟩
    | bye t s client server =>
        refine ⟨_, _, HelloBye2.Server.Bye.run_eq b r t, HelloBye3.Server.runBye_eq b r s, ?_⟩
        rw [← client, ← server]
        by_cases h : b.Says Msg.ROLE_CLIENT Msg.MSG_BYE ∧ (b.cookie.toNat : Int) = t.serverCookie
        · rw [if_pos h, if_pos h]
          exact ⟨rfl, rfl, rfl, rfl, fun hc => absurd rfl hc⟩
        · rw [if_neg h, if_neg h]
          exact ⟨rfl, rfl, rfl, rfl, fun hc => absurd rfl hc⟩

end Server

namespace Client

variable (config : HelloBye2.HelloBye2ClientConfig)

/-- The object of HelloBye2 and the struct of HelloBye3, of a connection in a state. -/
inductive Same : StateID → Ptr HelloBye2.Client.Object → Ptr HelloBye3.Client.client → Prop
  | hello (t : HelloBye2.Client.Hello) (c : HelloBye3.Client.client) (ident : t.ident = c.ident)
    (dstIp : t.dstIp = c.dstIp) (srcIp : config.srcIp = c.srcIp) (srcPort : t.srcPort = c.srcPort)
    (dstPort : config.dstPort = c.dstPort) (client : t.clientCookie = c.clientCookie) :
    Same States.Hello (.to (.hello t)) (.to c)
  | bye (t : HelloBye2.Client.Bye) (c : HelloBye3.Client.client)
    (client : t.clientCookie = c.clientCookie) :
    Same States.Bye (.to (.bye t)) (.to c)
  | recvBye (t : HelloBye2.Client.RecvBye) (c : HelloBye3.Client.client)
    (client : t.clientCookie = c.clientCookie) (server : t.serverCookie = c.serverCookie) :
    Same States.RecvBye (.to (.recvBye t)) (.to c)

theorem alike : (HelloBye2.Client.service config).Alike HelloBye3.Client.service (Same config) Eq
    fun _ => False where
  ident := rfl
  startStateID := rfl
  endStateID := rfl
  listenToConnections := rfl
  newData := fun h => absurd h Bool.false_ne_true
  answer := by
    rintro ⟨d, n, tid⟩ ⟨e, n', tid'⟩ b r _ ⟨hn, hsame⟩ rfl
    obtain rfl : n = n' := hn
    cases hsame with
    | hello t c ident dstIp srcIp srcPort dstPort client =>
        refine ⟨_, _, HelloBye2.Client.Hello.run_eq b r config t, rfl, rfl, ?_, rfl, rfl,
          fun _ => .bye _ _ client⟩
        unfold HelloBye2.Client.Hello.func
        rw [ident, dstIp, srcIp, srcPort, dstPort, client]
    | bye t c client =>
        refine ⟨_, _, HelloBye2.Client.Bye.run_eq b r t, HelloBye3.Client.runBye_eq b r c, ?_⟩
        by_cases h : b.Says Msg.ROLE_SERVER Msg.MSG_HELLO
        · rw [if_pos h, if_pos h]
          exact ⟨rfl, rfl, rfl, rfl, fun _ => .recvBye _ _ client rfl⟩
        · rw [if_neg h, if_neg h]
          exact ⟨rfl, rfl, rfl, rfl, fun hc => absurd rfl hc⟩
    | recvBye t c client server =>
        exact ⟨_, _, HelloBye2.Client.RecvBye.run_eq b r t, HelloBye3.Client.runRecvBye_eq b r c,
          rfl, rfl, rfl, rfl, fun hc => absurd rfl hc⟩

end Client

/-! ### HelloBye3 and the mempool -/

namespace HelloBye3MemPool

variable {M : Type} (mempool : Mempool M)

/-- The same struct, wherever it was allocated. -/
inductive Server.Same : StateID → Ptr HelloBye3.Server.server → Ptr Server.server → Prop
  | hello (s : HelloBye3.Server.server) :
    Same MoonState.Server.States.Hello (.to s) (.to ⟨s.clientCookie, s.serverCookie⟩)
  | bye (s : HelloBye3.Server.server) :
    Same MoonState.Server.States.Bye (.to s) (.to ⟨s.clientCookie, s.serverCookie⟩)

theorem Server.alike : HelloBye3.Server.service.Alike (Server.service mempool) Server.Same
    (fun r s => r = s.1) fun s => mempool.get s.2 = none where
  ident := rfl
  startStateID := rfl
  endStateID := rfl
  listenToConnections := rfl
  newData := by
    rintro - id r ⟨_, m⟩ rfl
    show (Server.factory mempool id (r, m) = none ∧ _) ∨ ∃ d r' e s', _ ∧
      Server.factory mempool id (r, m) = some (e, s') ∧ _
    unfold Server.factory
    dsimp only
    cases mempool.get m with
    | none => exact Or.inl ⟨rfl, rfl⟩
    | some m' => exact Or.inr ⟨_, _, _, _, rfl, rfl, .hello _, rfl⟩
  answer := by
    rintro ⟨d, n, tid⟩ ⟨e, n', tid'⟩ b r ⟨_, m⟩ ⟨hn, hsame⟩ rfl
    obtain rfl : n = n' := hn
    cases hsame with
    | hello s =>
        by_cases hrole : Msg.role b.data b.msg = Msg.ROLE_CLIENT
        · by_cases hmsg : Msg.msg b.data b.msg = Msg.MSG_HELLO
          · exact ⟨_, _, (if_neg (not_not.mpr hrole)).trans (if_neg (not_not.mpr hmsg)),
              (if_neg (not_not.mpr hrole)).trans (if_neg (not_not.mpr hmsg)), rfl, rfl, rfl, rfl,
              fun _ => .bye _⟩
          · exact ⟨_, _, (if_neg (not_not.mpr hrole)).trans (if_pos hmsg),
              (if_neg (not_not.mpr hrole)).trans (if_pos hmsg), rfl, rfl, rfl, rfl,
              fun hc => absurd rfl hc⟩
        · exact ⟨_, _, if_pos hrole, if_pos hrole, rfl, rfl, rfl, rfl, fun hc => absurd rfl hc⟩
    | bye s =>
        by_cases hno : Msg.role b.data b.msg ≠ Msg.ROLE_CLIENT ∨ Msg.msg b.data b.msg ≠ Msg.MSG_BYE
        · exact ⟨_, _, if_pos hno, if_pos hno, rfl, rfl, rfl, rfl, fun hc => absurd rfl hc⟩
        · by_cases hcookie : (b.cookie.toNat : Int) = s.serverCookie
          · exact ⟨_, _, (if_neg hno).trans (if_neg (not_not.mpr hcookie)),
              (if_neg hno).trans (if_neg (not_not.mpr hcookie)), rfl, rfl, rfl, rfl,
              fun hc => absurd rfl hc⟩
          · exact ⟨_, _, (if_neg hno).trans (if_pos hcookie), (if_neg hno).trans (if_pos hcookie),
              rfl, rfl, rfl, rfl, fun hc => absurd rfl hc⟩

/-- The same struct, wherever it was allocated. -/
def Client.ofStruct (c : HelloBye3.Client.client) : Client.client :=
  { ident := c.ident
    srcIp := c.srcIp
    dstIp := c.dstIp
    clientCookie := c.clientCookie
    serverCookie := c.serverCookie
    srcPort := c.srcPort
    dstPort := c.dstPort }

inductive Client.Same : StateID → Ptr HelloBye3.Client.client → Ptr Client.client → Prop
  | hello (c : HelloBye3.Client.client) :
    Same MoonState.Client.States.Hello (.to c) (.to (Client.ofStruct c))
  | bye (c : HelloBye3.Client.client) :
    Same MoonState.Client.States.Bye (.to c) (.to (Client.ofStruct c))
  | recvBye (c : HelloBye3.Client.client) :
    Same MoonState.Client.States.RecvBye (.to c) (.to (Client.ofStruct c))

theorem Client.alike : HelloBye3.Client.service.Alike (Client.service mempool) Client.Same
    (fun r s => r = s.1) fun s => mempool.get s.2 = none where
  ident := rfl
  startStateID := rfl
  endStateID := rfl
  listenToConnections := rfl
  newData := fun h => absurd h Bool.false_ne_true
  answer := by
    rintro ⟨d, n, tid⟩ ⟨e, n', tid'⟩ b r ⟨_, m⟩ ⟨hn, hsame⟩ rfl
    obtain rfl : n = n' := hn
    cases hsame with
    | hello c => exact ⟨_, _, rfl, rfl, rfl, rfl, rfl, rfl, fun _ => .bye _⟩
    | bye c =>
        by_cases hno : Msg.role b.data b.msg ≠ Msg.ROLE_SERVER ∨ Msg.msg b.data b.msg ≠ Msg.MSG_HELLO
        · exact ⟨_, _, if_pos hno, if_pos hno, rfl, rfl, rfl, rfl, fun hc => absurd rfl hc⟩
        · exact ⟨_, _, if_neg hno, if_neg hno, rfl, rfl, rfl, rfl, fun _ => .recvBye _⟩
    | recvBye c =>
        by_cases hno : Msg.role b.data b.msg ≠ Msg.ROLE_SERVER ∨ Msg.msg b.data b.msg ≠ Msg.MSG_BYE
        · exact ⟨_, _, if_pos hno, if_pos hno, rfl, rfl, rfl, rfl, fun hc => absurd rfl hc⟩
        · by_cases hcookie : (b.cookie.toNat : Int) = c.clientCookie
          · exact ⟨_, _, (if_neg hno).trans (if_neg (not_not.mpr hcookie)),
              (if_neg hno).trans (if_neg (not_not.mpr hcookie)), rfl, rfl, rfl, rfl,
              fun hc => absurd rfl hc⟩
          · exact ⟨_, _, (if_neg hno).trans (if_pos hcookie), (if_neg hno).trans (if_pos hcookie),
              rfl, rfl, rfl, rfl, fun hc => absurd rfl hc⟩

end HelloBye3MemPool

/-! ### Whole runs -/

section runs

variable {K D E B R S : Type} [DecidableEq K]

/-- The same `StateID` for every connection, wherever it is kept. -/
def Instance.SameStates (x : Instance K D B R) (y : Instance K E B S) : Prop :=
  ∀ id, (x.sm.stateTable.lookup id).map State.state = (y.sm.stateTable.lookup id).map State.state ∧
    (x.connPool.lookup id).map State.state = (y.connPool.lookup id).map State.state

theorem Instance.Alike.sameStates {u : Service K D B R} {v : Service K E B S}
    {rel : StateID → D → E → Prop} {room : R → S → Prop} {x : Instance K D B R}
    {y : Instance K E B S} (h : x.Alike u v rel room y) : x.SameStates y :=
  fun id => ⟨h.held.table.state_eq id, h.held.pool.state_eq id⟩

theorem Instance.SameStates.trans {F T : Type} {x : Instance K D B R} {y : Instance K E B S}
    {z : Instance K F B T} (h : x.SameStates y) (h' : y.SameStates z) : x.SameStates z :=
  fun id => ⟨(h id).1.trans (h' id).1, (h id).2.trans (h' id).2⟩

end runs

namespace HelloBye3MemPool

variable {M : Type} (mempool : Mempool M) (pl : Service.Platform)

/-- The calls stop at one in which, after some of its packets, there is no object left. -/
def RunsOut {D I : Type} [Inhabited D] (v : Service UInt64 D Packet (Rand × M)) (inPkts : I → Batch)
    (call : Instance UInt64 D Packet (Rand × M) → I →
      Except Fault (Instance UInt64 D Packet (Rand × M) × List (Packet × Bool)))
    (z : Instance UInt64 D Packet (Rand × M)) (is : List I) : Prop :=
  (∃ e, feed call z is = .error e) ∧
    ∃ pre i z' os, pre ++ [i] <+: is ∧ feed call z pre = .ok (z', os) ∧
      ∃ z'', Instance.Partway v pl (inPkts i).pkts z' z'' ∧ mempool.get z''.rest.2 = none

end HelloBye3MemPool

variable {M : Type} (mempool : Mempool M) (pl : Service.Platform) (rnd : Rand) (m : M)

theorem Server.runs_alike (inPkts : List Batch) : ∃ x y outs,
    feed (HelloBye2.Server.process pl) (.start HelloBye2.Server.service rnd) inPkts
      = .ok (x, outs) ∧
    feed (HelloBye3.Server.process pl) (.start HelloBye3.Server.service rnd) inPkts
      = .ok (y, outs) ∧ x.SameStates y := by
  have hstart : (Instance.start HelloBye2.Server.service rnd).Alike HelloBye2.Server.service
      HelloBye3.Server.service Server.Same Eq (.start HelloBye3.Server.service rnd) := .start rfl
  rcases feed_alike (fun (x : Instance ..) y (i : Batch)
    (h : x.Alike HelloBye2.Server.service HelloBye3.Server.service Server.Same Eq y) =>
      Server.alike.process pl h i.pkts i.nonempty i.fits) inPkts hstart with
    ⟨-, -, -, -, -, -, -, -, -, hc⟩ | ⟨x, y, outs, hx, hy, h⟩
  · exact hc.elim
  · exact ⟨x, y, outs, hx, hy, h.sameStates⟩

theorem HelloBye3MemPool.Server.runs_alike (inPkts : List Batch) : ∃ y outs,
    feed (HelloBye3.Server.process pl) (.start HelloBye3.Server.service rnd) inPkts
      = .ok (y, outs) ∧
    (HelloBye3MemPool.RunsOut mempool pl (service mempool) id (process pl mempool)
        (.start (service mempool) (rnd, m)) inPkts ∨
      ∃ z, feed (process pl mempool) (.start (service mempool) (rnd, m)) inPkts = .ok (z, outs) ∧
        y.SameStates z) := by
  obtain ⟨-, y, outs, -, hy, -⟩ := MoonState.Server.runs_alike pl rnd inPkts
  refine ⟨y, outs, hy, ?_⟩
  have hstart : (Instance.start HelloBye3.Server.service rnd).Alike HelloBye3.Server.service
      (service mempool) Same (fun r s => r = s.1) (.start (service mempool) (rnd, m)) := .start rfl
  rcases feed_alike (fun (y : Instance ..) z (i : Batch)
    (h : y.Alike HelloBye3.Server.service (service mempool) Same (fun r s => r = s.1) z) =>
      (Server.alike mempool).process pl h i.pkts i.nonempty i.fits) inPkts hstart with hout | ⟨y', z, outs', hy', hz, h⟩
  · exact Or.inl hout
  · obtain ⟨rfl, rfl⟩ := Prod.mk.inj (Except.ok.inj (hy.symm.trans hy'))
    exact Or.inr ⟨z, hz, h.sameStates⟩

variable (config : HelloBye2.HelloBye2ClientConfig)

/-- One call of a client. -/
theorem Client.call_alike {x : Instance UInt64 (Ptr HelloBye2.Client.Object) Packet Rand}
    {y : Instance UInt64 (Ptr HelloBye3.Client.client) Packet Rand} (c : ClientCall)
    (h : x.Alike (HelloBye2.Client.service config) HelloBye3.Client.service (Client.Same config) Eq y) :
    ∃ x' y' outs, HelloBye2.Client.call pl config x c = .ok (x', outs) ∧
      HelloBye3.Client.call pl config y c = .ok (y', outs) ∧
      x'.Alike (HelloBye2.Client.service config) HelloBye3.Client.service (Client.Same config) Eq y' := by
  cases c with
  | connect dstIP srcPort ident inPkts =>
      rcases (Client.alike config).connect pl h ident Client.States.Hello
        (HelloBye2.Client.create dstIP srcPort ident)
        (HelloBye3.Client.createHello config.srcIp dstIP srcPort config.dstPort ident)
        (by
          rintro r _ rfl
          exact Or.inr ⟨_, _, _, _, rfl, rfl, .hello _ _ rfl rfl rfl rfl rfl rfl, rfl⟩)
        inPkts.pkts inPkts.nonempty inPkts.fits with ⟨-, -, -, hc⟩ | hok
      · exact hc.elim
      · exact hok
  | process inPkts =>
      rcases (Client.alike config).process pl h inPkts.pkts inPkts.nonempty inPkts.fits with
        ⟨-, -, -, hc⟩ | hok
      · exact hc.elim
      · exact hok

theorem Client.runs_alike (calls : List ClientCall) : ∃ x y outs,
    feed (HelloBye2.Client.call pl config) (.start (HelloBye2.Client.service config) rnd) calls
      = .ok (x, outs) ∧
    feed (HelloBye3.Client.call pl config) (.start HelloBye3.Client.service rnd) calls
      = .ok (y, outs) ∧ x.SameStates y := by
  rcases feed_alike (fun x y c h => Or.inr (b := _) (a := _ ∧ False) (Client.call_alike pl config c h))
    calls (Instance.Alike.start rfl) with ⟨-, -, -, -, -, -, -, hc⟩ | ⟨x, y, outs, hx, hy, h⟩
  · exact hc.elim
  · exact ⟨x, y, outs, hx, hy, h.sameStates⟩

/-- One call of a client with a mempool. -/
theorem HelloBye3MemPool.Client.call_alike {y : Instance UInt64 (Ptr HelloBye3.Client.client) Packet Rand}
    {z : Instance UInt64 (Ptr client) Packet (Rand × M)} (c : ClientCall)
    (h : y.Alike HelloBye3.Client.service (service mempool) Same (fun r s => r = s.1) z) :
    ((∃ e, call pl mempool config z c = .error e) ∧
        ∃ z', Instance.Partway (service mempool) pl c.inPkts.pkts z z' ∧
          mempool.get z'.rest.2 = none) ∨
      ∃ y' z' outs, HelloBye3.Client.call pl config y c = .ok (y', outs) ∧
        call pl mempool config z c = .ok (z', outs) ∧
        y'.Alike HelloBye3.Client.service (service mempool) Same (fun r s => r = s.1) z' := by
  cases c with
  | connect dstIP srcPort ident inPkts =>
      exact (Client.alike mempool).connect pl h ident MoonState.Client.States.Hello
        (HelloBye3.Client.createHello config.srcIp dstIP srcPort config.dstPort ident)
        (createHello mempool config.srcIp dstIP srcPort config.dstPort ident)
        (by
          rintro r ⟨_, m⟩ rfl
          unfold createHello
          dsimp only
          cases mempool.get m with
          | none => exact Or.inl ⟨rfl, rfl⟩
          | some m' => exact Or.inr ⟨_, _, _, _, rfl, rfl, .hello _, rfl⟩)
        inPkts.pkts inPkts.nonempty inPkts.fits
  | process inPkts =>
      exact (Client.alike mempool).process pl h inPkts.pkts inPkts.nonempty inPkts.fits

theorem HelloBye3MemPool.Client.runs_alike (calls : List ClientCall) : ∃ y outs,
    feed (HelloBye3.Client.call pl config) (.start HelloBye3.Client.service rnd) calls
      = .ok (y, outs) ∧
    (HelloBye3MemPool.RunsOut mempool pl (service mempool) ClientCall.inPkts
        (call pl mempool config) (.start (service mempool) (rnd, m)) calls ∨
      ∃ z, feed (call pl mempool config) (.start (service mempool) (rnd, m)) calls
        = .ok (z, outs) ∧ y.SameStates z) := by
  obtain ⟨-, y, outs, -, hy, -⟩ := MoonState.Client.runs_alike pl rnd config calls
  refine ⟨y, outs, hy, ?_⟩
  rcases feed_alike (fun y z c h => call_alike mempool pl config c h) calls
    (Instance.Alike.start (s := (rnd, m)) rfl) with hout | ⟨y', z, outs', hy', hz, h⟩
  · exact Or.inl hout
  · obtain ⟨rfl, rfl⟩ := Prod.mk.inj (Except.ok.inj (hy.symm.trans hy'))
    exact Or.inr ⟨z, hz, h.sameStates⟩

/--
**The binary HelloBye protocols agree.**

For every configuration, all numbers `rand` returns and every sequence of calls, the
server and the client of HelloBye2 and those of HelloBye3 never fault, hand out the
same packets with the same marks, and have every connection in the same state.  So
does HelloBye3 with a mempool, unless a call finds no object left in it.  The tables are
maps without the keys `dense_hash_map` reserves: with an ident that is one of them
(`Packet.ReservedIdent`) it is these maps that agree.
-/
theorem versions_agree :
    (∀ inPkts, ∃ x y outs,
      feed (HelloBye2.Server.process pl) (.start HelloBye2.Server.service rnd) inPkts
        = .ok (x, outs) ∧
      feed (HelloBye3.Server.process pl) (.start HelloBye3.Server.service rnd) inPkts
        = .ok (y, outs) ∧ x.SameStates y ∧
      (HelloBye3MemPool.RunsOut mempool pl (HelloBye3MemPool.Server.service mempool) id
          (HelloBye3MemPool.Server.process pl mempool)
          (.start (HelloBye3MemPool.Server.service mempool) (rnd, m)) inPkts ∨
        ∃ z, feed (HelloBye3MemPool.Server.process pl mempool)
          (.start (HelloBye3MemPool.Server.service mempool) (rnd, m)) inPkts = .ok (z, outs) ∧
          x.SameStates z)) ∧
    (∀ calls, ∃ x y outs,
      feed (HelloBye2.Client.call pl config) (.start (HelloBye2.Client.service config) rnd) calls
        = .ok (x, outs) ∧
      feed (HelloBye3.Client.call pl config) (.start HelloBye3.Client.service rnd) calls
        = .ok (y, outs) ∧ x.SameStates y ∧
      (HelloBye3MemPool.RunsOut mempool pl (HelloBye3MemPool.Client.service mempool)
          ClientCall.inPkts (HelloBye3MemPool.Client.call pl mempool config)
          (.start (HelloBye3MemPool.Client.service mempool) (rnd, m)) calls ∨
        ∃ z, feed (HelloBye3MemPool.Client.call pl mempool config)
          (.start (HelloBye3MemPool.Client.service mempool) (rnd, m)) calls = .ok (z, outs) ∧
          x.SameStates z)) := by
  constructor
  · intro inPkts
    obtain ⟨x, y, outs, hx, hy, hxy⟩ := Server.runs_alike pl rnd inPkts
    obtain ⟨y', outs', hy', hz⟩ := HelloBye3MemPool.Server.runs_alike mempool pl rnd m inPkts
    obtain ⟨rfl, rfl⟩ := Prod.mk.inj (Except.ok.inj (hy.symm.trans hy'))
    exact ⟨x, y, outs, hx, hy, hxy, hz.imp_right fun ⟨z, hz, hyz⟩ => ⟨z, hz, hxy.trans hyz⟩⟩
  · intro calls
    obtain ⟨x, y, outs, hx, hy, hxy⟩ := Client.runs_alike pl rnd config calls
    obtain ⟨y', outs', hy', hz⟩ := HelloBye3MemPool.Client.runs_alike mempool pl rnd m config calls
    obtain ⟨rfl, rfl⟩ := Prod.mk.inj (Except.ok.inj (hy.symm.trans hy'))
    exact ⟨x, y, outs, hx, hy, hxy, hz.imp_right fun ⟨z, hz, hyz⟩ => ⟨z, hz, hxy.trans hyz⟩⟩

end MoonState
