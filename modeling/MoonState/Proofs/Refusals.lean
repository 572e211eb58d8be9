/-
What the text HelloBye does with a message it does not expect.

Such a message should end the connection and be freed, and what is sent should be
the next message of the protocol, its addresses and ports exchanged.  The first
function of the server frees what it refuses.  The other three leave it marked to be
sent, so the frame of the peer goes back as it came.

What they accept they answer in place, where the IHL says the headers are.  With an IHL
of 5 or more these are apart.  Below that the UDP header lies in the IPv4 header, and
the exchange is one only if the bytes both cover agree: `Apart`.
-/
import MoonState.Proofs.HelloBye
import MoonState.Proofs.Responder

namespace MoonState

open Headers

/-! ### Headers that overlap -/

namespace Headers

/-- The addresses and ports of `m'` are those of `m`, exchanged. -/
structure Exchanged (m m' : Mem) : Prop where
  srcIP : IPv4.getSrcIP m' sizeofEthernet = IPv4.getDstIP m sizeofEthernet
  dstIP : IPv4.getDstIP m' sizeofEthernet = IPv4.getSrcIP m sizeofEthernet
  srcPort : Udp.getSrcPort m' (IPv4.getPayload m sizeofEthernet)
    = Udp.getDstPort m (IPv4.getPayload m sizeofEthernet)
  dstPort : Udp.getDstPort m' (IPv4.getPayload m sizeofEthernet)
    = Udp.getSrcPort m (IPv4.getPayload m sizeofEthernet)

/-- The UDP header is behind the addresses, or it covers them and the bytes agree. -/
def Apart (m : Mem) : Prop :=
  5 ≤ (IPv4.ihl m sizeofEthernet).toNat ∨
  (IPv4.ihl m sizeofEthernet).toNat = 4 ∧
    IPv4.getSrcIP m sizeofEthernet = IPv4.getDstIP m sizeofEthernet ∧ m.get16 26 = m.get16 28 ∨
  (IPv4.ihl m sizeofEthernet).toNat = 3 ∧
    IPv4.getSrcIP m sizeofEthernet = 0 ∧ IPv4.getDstIP m sizeofEthernet = 0

instance (m : Mem) : Decidable (Apart m) := inferInstanceAs (Decidable (_ ∨ _))

variable {m m' : Mem}

theorem getPayload_eq (m : Mem) :
    IPv4.getPayload m sizeofEthernet = 14 + 4 * (IPv4.ihl m sizeofEthernet).toNat := rfl

/-- The lines that set the headers, on the addresses, where they copy bytes. -/
theorem setHeaders_copies (m : Mem) (udp : Nat) : setHeaders m sizeofEthernet udp =
    let m₁ := m.set8 22 64
    let m₂ := m₁.write 30 (m₁.read 26 4)
    let m₃ := m₂.write 26 (m₁.read 30 4)
    let m₄ := (m₃.set16 24 0).set16 (udp + 6) 0
    let m₅ := m₄.write (udp + 2) (m₄.read udp 2)
    m₅.write udp (m₄.read (udp + 2) 2) := by
  simp only [setHeaders, IPv4.setTtl, IPv4.setDstIP, IPv4.setSrcIP, IPv4.getSrcIP, IPv4.getDstIP,
    IPv4.clearChecksum, Udp.clearChecksum, Udp.setDstPort, Udp.setSrcPort, Udp.getSrcPort,
    Udp.getDstPort, Mem.set16_get16, Mem.set32_get32, sizeofEthernet]

/-- The ports lie on the destination address. -/
theorem setHeaders_four (m : Mem) : (setHeaders m sizeofEthernet 30).read 26 8
    = [m 30, m 31, m 32, m 33, m 28, m 29, m 26, m 27] := by
  rw [setHeaders_copies]
  simp [Mem.set8, Mem.set16, Mem.read, Mem.write, List.range', Bytes.ofNatBE]

/-- The ports lie on the source address, and the checksum on the end of the other. -/
theorem setHeaders_three (m : Mem) : (setHeaders m sizeofEthernet 26).read 26 8
    = [m 32, m 33, m 30, m 31, m 26, m 27, 0, 0] := by
  rw [setHeaders_copies]
  simp [Mem.set8, Mem.set16, Mem.read, Mem.write, List.range', Bytes.ofNatBE]

/-- The UDP header is before the addresses, but for its end. -/
theorem setHeaders_before {udp : Nat} (m : Mem) (h : udp = 18 ∨ udp = 22) :
    setHeaders m sizeofEthernet udp 26 = m 30 := by
  rw [setHeaders_copies]
  rcases h with rfl | rfl <;>
    simp [Mem.set8, Mem.set16, Mem.read, Mem.write, List.range', Bytes.ofNatBE]

theorem get16_inj {i j : Nat} : m'.get16 i = m.get16 j ↔ m'.read i 2 = m.read j 2 := by
  rw [Mem.get16_eq_iff, Mem.ofNatBE_get16]

theorem get32_inj {i j : Nat} : m'.get32 i = m.get32 j ↔ m'.read i 4 = m.read j 4 := by
  rw [Mem.get32_eq_iff, Mem.ofNatBE_get32]

/-- What is exchanged, in bytes. -/
theorem exchanged_iff {udp : Nat} (hudp : IPv4.getPayload m sizeofEthernet = udp) :
    Exchanged m m' ↔ (m'.read 26 4 = m.read 30 4 ∧ m'.read 30 4 = m.read 26 4) ∧
      m'.read udp 2 = m.read (udp + 2) 2 ∧ m'.read (udp + 2) 2 = m.read udp 2 := by
  constructor
  · intro h
    obtain ⟨hsrc, hdst, hsport, hdport⟩ := h
    rw [hudp] at hsport hdport
    exact ⟨⟨get32_inj.mp hsrc, get32_inj.mp hdst⟩, get16_inj.mp hsport, get16_inj.mp hdport⟩
  · intro h
    obtain ⟨⟨hsrc, hdst⟩, hsport, hdport⟩ := h
    refine ⟨get32_inj.mpr hsrc, get32_inj.mpr hdst, ?_, ?_⟩
    · rw [hudp]
      exact get16_inj.mpr hsport
    · rw [hudp]
      exact get16_inj.mpr hdport

/-- A rewritten message does not reach the addresses. -/
theorem exchanged_four {m₁ : Mem} (hihl : (IPv4.ihl m sizeofEthernet).toNat = 4)
    (hsame : m₁.read 26 8 = m.read 26 8) :
    Exchanged m (setHeaders m₁ sizeofEthernet 30) ↔ Apart m := by
  have hudp : IPv4.getPayload m sizeofEthernet = 30 := by
    unfold IPv4.getPayload
    rw [hihl]
    rfl
  have hset := setHeaders_four m₁
  rw [exchanged_iff hudp]
  unfold Apart IPv4.getSrcIP IPv4.getDstIP sizeofEthernet at *
  rw [hihl, get32_inj, get16_inj]
  simp only [Mem.read, List.range', List.map_cons, List.map_nil, List.cons.injEq] at *
  grind

theorem exchanged_three {m₁ : Mem} (hihl : (IPv4.ihl m sizeofEthernet).toNat = 3)
    (hsame : m₁.read 26 8 = m.read 26 8) :
    Exchanged m (setHeaders m₁ sizeofEthernet 26) ↔ Apart m := by
  have hudp : IPv4.getPayload m sizeofEthernet = 26 := by
    unfold IPv4.getPayload
    rw [hihl]
    rfl
  have hset := setHeaders_three m₁
  have hzero : Bytes.ofNatBE 4 (0 : UInt32).toNat = [0, 0, 0, 0] := by decide
  rw [exchanged_iff hudp]
  unfold Apart IPv4.getSrcIP IPv4.getDstIP sizeofEthernet at *
  rw [hihl, Mem.get32_eq_iff (v := 0), Mem.get32_eq_iff (v := 0), hzero]
  simp only [Mem.read, List.range', List.map_cons, List.map_nil, List.cons.injEq] at *
  grind

/-- Headers that do not overlap are exchanged. -/
theorem exchanged_of_apart {m₁ : Mem} (hihl : 5 ≤ (IPv4.ihl m sizeofEthernet).toNat)
    (hsame : ∀ j, j < IPv4.getPayload m sizeofEthernet + 8 → m₁ j = m j) :
    Exchanged m (setHeaders m₁ sizeofEthernet (IPv4.getPayload m sizeofEthernet)) := by
  have hlen : sizeofEthernet = 14 := rfl
  have hpay := getPayload_eq m
  have hudp : sizeofEthernet + 20 ≤ IPv4.getPayload m sizeofEthernet := by omega
  have hsame32 : ∀ i, i + 4 ≤ IPv4.getPayload m sizeofEthernet + 8 → m₁.get32 i = m.get32 i :=
    fun i hi => Mem.Same.get32 fun j _ _ => hsame j (by omega)
  have hsame16 : ∀ i, i + 2 ≤ IPv4.getPayload m sizeofEthernet + 8 → m₁.get16 i = m.get16 i :=
    fun i hi => Mem.Same.get16 fun j _ _ => hsame j (by omega)
  refine ⟨?_, ?_, ?_, ?_⟩
  · rw [getSrcIP_setHeaders hudp]
    exact hsame32 _ (by omega)
  · rw [getDstIP_setHeaders hudp]
    exact hsame32 _ (by omega)
  · rw [getSrcPort_setHeaders hudp]
    exact hsame16 _ (by omega)
  · rw [getDstPort_setHeaders hudp]
    exact hsame16 _ (by omega)

end Headers

/-! ### Messages rewritten in place -/

namespace HelloBye

open IPv4_5TupleL2Ident

/-- `q` is `p` with `text` for its message, addressed back to where it came from. -/
structure Rewritten (text : List UInt8) (p q : Packet) : Prop where
  text : q.data.read (message p) text.length = text
  exchanged : Exchanged p.data q.data

/-- How a message and its answer differ, in the characters that end up in the headers. -/
structure Differ (want text : List UInt8) : Prop where
  length : 2 ≤ want.length ∧ 5 ≤ text.length
  proto : want[1]? ≠ some IPPROTO_UDP ∧ want[1]? ≠ some IPPROTO_TCP
  first : want[0]? ≠ text[0]?
  fifth : text[4]? ≠ text[0]?

variable {p q : Packet} {want text : List UInt8}

/-- A character of what is read. -/
theorem eq_getElem?_of_read {m : Mem} {i k : Nat} {bs : List UInt8} (h : m.read i bs.length = bs)
    (hk : k < bs.length) : bs[k]? = some (m (i + k)) := by
  have hget : (m.read i bs.length)[k]? = some (m (i + k)) := by simp [Mem.read, hk]
  rwa [h] at hget

theorem proto_of_identify {m : Mem} (h : IPv4_5TupleL2Ident.identify m ≠ none) :
    m 23 = IPPROTO_UDP ∨ m 23 = IPPROTO_TCP := by
  unfold IPv4_5TupleL2Ident.identify at h
  dsimp only at h
  split at h
  · left
    assumption
  · split at h
    · right
      assumption
    · simp at h

/-- Where the headers begin in the IPv4 header, the answer is spoilt. -/
theorem not_rewritten (hd : Differ want text) (hident : IPv4_5TupleL2Ident.identify p.data ≠ none)
    (hlow : (IPv4.ihl p.data sizeofEthernet).toNat < 3)
    (htold : p.data.read (message p) want.length = want) {m : Mem}
    (htext : m.read (message p) text.length = text)
    (hq : q.data = setHeaders m sizeofEthernet (IPv4.getPayload p.data sizeofEthernet)) :
    ¬ Rewritten text p q := by
  intro h
  have hmsg : message p = 22 + 4 * (IPv4.ihl p.data sizeofEthernet).toNat := by
    show IPv4.getPayload p.data sizeofEthernet + 8 = _
    rw [getPayload_eq]
    omega
  obtain h0 | h1 | h2 : (IPv4.ihl p.data sizeofEthernet).toNat = 0 ∨
      (IPv4.ihl p.data sizeofEthernet).toNat = 1 ∨ (IPv4.ihl p.data sizeofEthernet).toNat = 2 := by
    omega
  · -- the second character is the protocol
    rw [hmsg, h0] at htold
    have hchar := eq_getElem?_of_read htold (hd.length.1 : 1 < _)
    rcases proto_of_identify hident with hp | hp
    · exact hd.proto.1 (hchar.trans (congrArg some hp))
    · exact hd.proto.2 (hchar.trans (congrArg some hp))
  · -- the addresses are the first characters, and change places
    have hrew := h.text
    rw [hmsg, h1] at hrew htext
    have hfirst := eq_getElem?_of_read hrew (by have := hd.length.2; omega : 0 < _)
    have hfifth := eq_getElem?_of_read htext (hd.length.2 : 4 < _)
    rw [hq, getPayload_eq, h1, setHeaders_before m (Or.inl rfl)] at hfirst
    exact hd.fifth (hfifth.trans hfirst.symm)
  · -- the first character lies in the destination address, which is that of the peer
    have hsrc : q.data.read 26 4 = p.data.read 30 4 := get32_inj.mp h.exchanged.srcIP
    have hbyte : q.data 26 = p.data 30 := (List.cons.inj hsrc).1
    rw [hmsg, h2] at htold htext
    have hwant := eq_getElem?_of_read htold (by have := hd.length.1; omega : 0 < _)
    have hfirst := eq_getElem?_of_read htext (by have := hd.length.2; omega : 0 < _)
    rw [hq, getPayload_eq, h2, setHeaders_before m (Or.inr rfl)] at hbyte
    exact hd.first (hwant.trans ((congrArg some hbyte.symm).trans hfirst.symm))

/-- **What an answer is**, if the message was the one expected. -/
theorem rewritten_iff (hd : Differ want text) (hident : IPv4_5TupleL2Ident.identify p.data ≠ none)
    (htold : p.data.read (message p) want.length = want) {m : Mem}
    (htext : m.read (message p) text.length = text) (hsame : ∀ j, j < message p → m j = p.data j)
    (hq : q.data = setHeaders m sizeofEthernet (IPv4.getPayload p.data sizeofEthernet)) :
    Rewritten text p q ↔ Apart p.data := by
  have hpay := getPayload_eq p.data
  have hmsg : message p = IPv4.getPayload p.data sizeofEthernet + 8 := rfl
  have hlen : sizeofEthernet = 14 := rfl
  by_cases hlow : (IPv4.ihl p.data sizeofEthernet).toNat < 3
  · have hnot : ¬ Apart p.data := by
      unfold Apart
      omega
    exact iff_of_false (not_rewritten hd hident hlow htold htext hq) hnot
  · -- the message is behind both addresses
    have hbehind : q.data.read (message p) text.length = text := by
      rw [hq]
      refine (Mem.read_congr fun j hj _ => ?_).trans htext
      exact setHeaders_of_notMem (by omega) (by omega) (by omega)
    have hread : m.read 26 8 = p.data.read 26 8 := Mem.read_congr fun j _ hj => hsame j (by omega)
    have hiff : Exchanged p.data q.data ↔ Apart p.data := by
      rw [hq]
      by_cases hhigh : 5 ≤ (IPv4.ihl p.data sizeofEthernet).toNat
      · exact iff_of_true (exchanged_of_apart hhigh hsame) (Or.inl hhigh)
      · obtain h3 | h4 : (IPv4.ihl p.data sizeofEthernet).toNat = 3 ∨
            (IPv4.ihl p.data sizeofEthernet).toNat = 4 := by omega
        · rw [hpay, h3]
          exact exchanged_three h3 hread
        · rw [hpay, h4]
          exact exchanged_four h4 hread
    rw [← hiff]
    exact ⟨Rewritten.exchanged, fun h => ⟨hbehind, h⟩⟩

/-- An answer begins with its words. -/
theorem Differ.line {str : String} (h : Differ want (ascii str)) (n : Int) :
    Differ want (HelloBye.line str n) := by
  have hlen := h.length.2
  have hget : ∀ k, k < 5 → (HelloBye.line str n)[k]? = (ascii str)[k]? := by
    intro k hk
    unfold HelloBye.line
    rw [List.append_assoc, List.getElem?_append_left (by omega)]
  refine ⟨⟨h.length.1, ?_⟩, h.proto, ?_, ?_⟩
  · simp only [HelloBye.line, List.length_append]
    omega
  · rw [hget 0 (by decide)]
    exact h.first
  · rw [hget 4 (by decide), hget 0 (by decide)]
    exact h.fifth

/-! ### What is expected, and what comes next -/

/-- The object of a connection is of the class of its state. -/
def Server.Waits (st : State (Ptr Server.Object)) : Prop :=
  match st.stateData with
  | .to (.hello _) => st.state = HelloByeServer.Hello
  | .to (.bye _) => st.state = HelloByeServer.Bye
  | _ => False

/-- The packet carries the message that is expected. -/
def Server.Accepts (st : State (Ptr Server.Object)) (p : Packet) : Prop :=
  match st.stateData with
  | .to (.hello _) => Says p.data (message p) "CLIENT HELLO:"
  | .to (.bye t) => Says p.data (message p) "CLIENT BYE:" ∧
      cookieAfter p.data (message p) "CLIENT BYE:" = t.serverCookie
  | _ => False

/-- The protocol's next message. -/
def Server.nextMessage (st : State (Ptr Server.Object)) : Option (List UInt8) :=
  match st.stateData with
  | .to (.hello t) => some (line "SERVER HELLO:" t.serverCookie)
  | .to (.bye t) => some (line "SERVER BYE:" t.clientCookie)
  | _ => none

/-- A connection that waits for packets; its hello is sent where it is opened. -/
def Client.Waits (st : State (Ptr Block)) : Prop :=
  match st.stateData with
  | .to _ => st.state = HelloByeClient.Bye ∨ st.state = HelloByeClient.RecvBye
  | _ => False

def Client.Accepts (st : State (Ptr Block)) (p : Packet) : Prop :=
  match st.stateData with
  | .to b =>
    if st.state = HelloByeClient.Bye then Says p.data (message p) "SERVER HELLO:"
    else Says p.data (message p) "SERVER BYE:" ∧
      cookieAfter p.data (message p) "SERVER BYE:" = b.asRecvBye.clientCookie
  | _ => False

def Client.nextMessage (st : State (Ptr Block)) (p : Packet) : Option (List UInt8) :=
  if st.state = HelloByeClient.Bye then
    some (line "CLIENT BYE:" (cookieAfter p.data (message p) "SERVER HELLO:"))
  else none

variable {K P D R : Type} [DecidableEq K] [DecidableEq P]

/-- **A packet is treated**, in slot `cur`, of connection `id`: refused, it ends the connection
and is freed; sent, it was accepted and is the next message. -/
structure Treats (accepts : Prop) (next : Option (List UInt8)) (id : K) (cur : Nat) (p : P)
    (s s' : Sys K P D (World P Packet R)) : Prop where
  refused : ¬ accepts →
    s'.sm.stateTable.lookup id = none ∧ s'.pktsBA.slots[cur]? = some (p, false)
  sent : s'.pktsBA.slots[cur]? = some (p, true) →
    accepts ∧ ∃ text, next = some text ∧ Rewritten text (s.w.mem p) (s'.w.mem p)

end HelloBye

variable {K P D R : Type} [DecidableEq K] [DecidableEq P] [Inhabited D]

namespace HelloBye

/-- The answer of a function treats the packet exactly under the condition. -/
structure TreatsIn (accepts : Prop) (next : Option (List UInt8)) (endStateID : StateID) (p : Packet)
    (cond : Prop) (a : Answer D Packet R) : Prop where
  ended : ¬ accepts → a.newState = some endStateID
  iff : ((¬ accepts → a.free = true) ∧
    (a.free = false → accepts ∧ ∃ text, next = some text ∧ Rewritten text p a.pkt)) ↔ cond

omit [Inhabited D] in
theorem TreatsIn.congr {accepts cond cond' : Prop} {next : Option (List UInt8)} {n : StateID}
    {p : Packet} {a : Answer D Packet R} (h : TreatsIn accepts next n p cond a)
    (hcond : cond ↔ cond') : TreatsIn accepts next n p cond' a :=
  ⟨h.ended, h.iff.trans hcond⟩

/-- A packet is treated when the answer of its function treats it. -/
theorem exists_treats_iff {u : Service K D Packet R} {env : Env K P (World P Packet R)}
    {s : Sys K P D (World P Packet R)} {cur : Nat} {p : P} {id : K} {st : State D}
    {accepts cond : Prop} {next : Option (List UInt8)}
    (hident : ∀ q w, env.identify q w = u.ident (w.mem q))
    (h : u.Runs s.sm) (hp : s.pktsBA.get cur = .ok p)
    (hserved : u.served s.held (s.w.mem p) = some (id, st))
    (ha : ∀ r, ∃ a, u.answer st (s.w.mem p) r = some a ∧
      TreatsIn accepts next u.endStateID (s.w.mem p) cond a) :
    ∃ s', runPkt env cur s = .ok s' ∧ (Treats accepts next id cur p s s' ↔ cond) := by
  obtain ⟨s', r, a, hs', hans, hmem, hslot, hgone⟩ := h.runPkt_served hident hp hserved fun r => by
    obtain ⟨a, ha, -⟩ := ha r
    simp [ha]
  obtain ⟨a', hans', hin⟩ := ha r
  obtain rfl := Option.some.inj (hans.symm.trans hans')
  refine ⟨s', hs', ?_⟩
  rw [← hin.iff]
  constructor
  · intro ht
    refine ⟨fun hna => ?_, fun hfree => ?_⟩
    · have hslot' := (ht.refused hna).2
      simpa [hslot] using hslot'
    · rw [← hmem]
      exact ht.sent (by rw [hslot, hfree]; rfl)
  · intro ht
    refine ⟨fun hna => ⟨?_, ?_⟩, fun hsent => ?_⟩
    · rw [hgone, if_pos (by simp [Service.after, hin.ended hna])]
    · rw [hslot, ht.1 hna]
      rfl
    · rw [hmem]
      exact ht.2 (by simpa [hslot] using hsent)

/-! ### The four functions -/

variable {p : Packet} {w : Program}

/-- The packet with these bytes and its headers set. -/
def turned (p : Packet) (m : Mem) : Packet :=
  { p with data := setHeaders m sizeofEthernet (IPv4.getPayload p.data sizeofEthernet) }

/-- A message is answered in its place. -/
theorem rewritten_line {want str : String} {n : Int} {m : Mem}
    (hd : Differ (ascii want) (ascii str)) (hident : IPv4_5TupleL2Ident.identify p.data ≠ none)
    (htold : Says p.data (message p) want) (hm : ∀ j, j < message p → m j = p.data j) :
    Rewritten (line str n) p (turned p (m.write (message p) (line str n))) ↔ Apart p.data := by
  refine rewritten_iff (hd.line n) hident htold (Mem.read_write_self _ _ _) (fun j hj => ?_) rfl
  rw [Mem.write_of_notMem (Or.inl hj), hm j hj]

omit [Inhabited D] in
/-- A function that frees what it refuses. -/
theorem TreatsIn.of_freed {accepts : Prop} {text : List UInt8} {n : StateID} {a : Answer D Packet R}
    (hend : ¬ accepts → a.newState = some n) (hfree : a.free = true ↔ ¬ accepts)
    (hpkt : accepts → (Rewritten text p a.pkt ↔ Apart p.data)) :
    TreatsIn accepts (some text) n p (accepts → Apart p.data) a := by
  refine ⟨hend, ?_⟩
  by_cases h : accepts
  · have hnot : a.free = false := by simpa [h] using hfree
    simp [h, hnot, hpkt h]
  · simp [h, hfree.mpr h]

omit [Inhabited D] in
/-- A function that sends what it refuses. -/
theorem TreatsIn.of_sent {accepts : Prop} {text : List UInt8} {n : StateID} {a : Answer D Packet R}
    (hend : ¬ accepts → a.newState = some n) (hfree : a.free = false)
    (hpkt : accepts → (Rewritten text p a.pkt ↔ Apart p.data)) :
    TreatsIn accepts (some text) n p (accepts ∧ Apart p.data) a := by
  refine ⟨hend, ?_⟩
  by_cases h : accepts
  · simp [h, hfree, hpkt h]
  · simp [h, hfree]

theorem Server.runHello_treats (hident : IPv4_5TupleL2Ident.identify p.data ≠ none)
    (t : HelloByeServerHello) :
    ∃ a, Server.runHello (.to (.hello t)) p w = some a ∧
      TreatsIn (Says p.data (message p) "CLIENT HELLO:")
        (some (line "SERVER HELLO:" t.serverCookie)) HelloByeServer.Terminate p
        (Says p.data (message p) "CLIENT HELLO:" → Apart p.data) a := by
  have hd : Differ (ascii "CLIENT HELLO:") (ascii "SERVER HELLO:") :=
    ⟨by decide, by decide, by decide, by decide⟩
  unfold Server.runHello
  dsimp only
  by_cases h : Says p.data (message p) "CLIENT HELLO:"
  · have hfunc : t.func p w = ⟨{ t with clientCookie := some (cookieAfter p.data (message p)
        "CLIENT HELLO:") }, some HelloByeServer.Bye, turned p (p.data.write (message p)
        (line "SERVER HELLO:" t.serverCookie)), w, false⟩ := if_neg (not_not_intro h)
    rw [hfunc]
    exact ⟨_, rfl, .of_freed (fun hna => absurd h hna) (by simp [h])
      fun h => rewritten_line hd hident h fun _ _ => rfl⟩
  · have hfunc : t.func p w = ⟨t, some HelloByeServer.Terminate, p, w, true⟩ := if_pos h
    rw [hfunc]
    exact ⟨_, rfl, .of_freed (fun _ => rfl) (by simp [h]) fun hs => absurd hs h⟩

/-- It leaves the packet as it is, and does not free it. -/
theorem HelloByeServerBye.func_refused {t : HelloByeServerBye}
    (h : ¬ Says p.data (message p) "CLIENT BYE:") :
    t.func p w = ⟨t, some HelloByeServer.Terminate, p, w, false⟩ := if_pos h

theorem Server.runBye_treats (hident : IPv4_5TupleL2Ident.identify p.data ≠ none)
    (t : HelloByeServerBye) :
    ∃ a, Server.runBye (.to (.bye t)) p w = some a ∧
      TreatsIn (Says p.data (message p) "CLIENT BYE:" ∧
          cookieAfter p.data (message p) "CLIENT BYE:" = t.serverCookie)
        (some (line "SERVER BYE:" t.clientCookie)) HelloByeServer.Terminate p
        ((Says p.data (message p) "CLIENT BYE:" ∧
          cookieAfter p.data (message p) "CLIENT BYE:" = t.serverCookie) ∧ Apart p.data) a := by
  have hd : Differ (ascii "CLIENT BYE:") (ascii "SERVER BYE:") :=
    ⟨by decide, by decide, by decide, by decide⟩
  refine ⟨_, rfl, ?_⟩
  by_cases h : Says p.data (message p) "CLIENT BYE:"
  · by_cases hc : cookieAfter p.data (message p) "CLIENT BYE:" = t.serverCookie
    · have hfunc : t.func p w = ⟨t, some HelloByeServer.Terminate, turned p (p.data.write
          (message p) (line "SERVER BYE:" t.clientCookie)), w, false⟩ :=
        (if_neg (not_not_intro h)).trans (if_neg (not_not_intro hc))
      rw [hfunc]
      exact .of_sent (fun _ => rfl) rfl fun h => rewritten_line hd hident h.1 fun _ _ => rfl
    · have hfunc : t.func p w = ⟨t, some HelloByeServer.Terminate, p, w, false⟩ :=
        (if_neg (not_not_intro h)).trans (if_pos hc)
      rw [hfunc]
      exact .of_sent (fun _ => rfl) rfl fun hs => absurd hs.2 hc
  · rw [HelloByeServerBye.func_refused h]
    exact .of_sent (fun _ => rfl) rfl fun hs => absurd hs.1 h

theorem Client.runBye_treats (hident : IPv4_5TupleL2Ident.identify p.data ≠ none) (b : Block) :
    ∃ a, Client.runBye (.to b) p w = some a ∧
      TreatsIn (Says p.data (message p) "SERVER HELLO:")
        (some (line "CLIENT BYE:" (cookieAfter p.data (message p) "SERVER HELLO:")))
        HelloByeClient.Terminate p
        (Says p.data (message p) "SERVER HELLO:" ∧ Apart p.data) a := by
  have hd : Differ (ascii "SERVER HELLO:") (ascii "CLIENT BYE:") :=
    ⟨by decide, by decide, by decide, by decide⟩
  refine ⟨_, rfl, ?_⟩
  by_cases h : Says p.data (message p) "SERVER HELLO:"
  · have hfunc : b.asBye.func p w = ⟨⟨b.asBye.clientCookie, cookieAfter p.data (message p)
        "SERVER HELLO:"⟩, some HelloByeClient.RecvBye, turned p ((p.data.write (message p)
        (List.replicate 20 0)).write (message p) (line "CLIENT BYE:" (cookieAfter p.data (message p)
        "SERVER HELLO:"))), w, false⟩ := if_neg (not_not_intro h)
    rw [hfunc]
    exact .of_sent (fun hna => absurd h hna) rfl fun h => rewritten_line hd hident h fun j hj =>
      Mem.write_of_notMem (Or.inl hj)
  · have hfunc : b.asBye.func p w = ⟨b.asBye, some HelloByeClient.Terminate, p, w, false⟩ :=
      if_pos h
    rw [hfunc]
    exact .of_sent (fun _ => rfl) rfl fun hs => absurd hs h

/-- What it accepts is the last message, and is freed. -/
theorem Client.runRecvBye_treats (b : Block) :
    ∃ a, Client.runRecvBye (.to b) p w = some a ∧
      TreatsIn (Says p.data (message p) "SERVER BYE:" ∧
          cookieAfter p.data (message p) "SERVER BYE:" = b.asRecvBye.clientCookie)
        none HelloByeClient.Terminate p
        (Says p.data (message p) "SERVER BYE:" ∧
          cookieAfter p.data (message p) "SERVER BYE:" = b.asRecvBye.clientCookie) a := by
  refine ⟨_, rfl, ?_⟩
  by_cases h : Says p.data (message p) "SERVER BYE:"
  · by_cases hc : cookieAfter p.data (message p) "SERVER BYE:" = b.asRecvBye.clientCookie
    · have hfunc : b.asRecvBye.func p w = ⟨b.asRecvBye, some HelloByeClient.Terminate, p, w, true⟩ :=
        (if_neg (not_not_intro h)).trans (if_neg (not_not_intro hc))
      rw [hfunc]
      exact ⟨fun _ => rfl, by simp [h, hc]⟩
    · have hfunc : b.asRecvBye.func p w = ⟨b.asRecvBye, some HelloByeClient.Terminate, p, w, false⟩ :=
        (if_neg (not_not_intro h)).trans (if_pos hc)
      rw [hfunc]
      exact ⟨fun _ => rfl, by simp [hc]⟩
  · have hfunc : b.asRecvBye.func p w = ⟨b.asRecvBye, some HelloByeClient.Terminate, p, w, false⟩ :=
      if_pos h
    rw [hfunc]
    exact ⟨fun _ => rfl, by simp [h]⟩

/-! ### Every state of both sides -/

/-- When a server treats a packet. -/
def Server.TreatsWhen (st : State (Ptr Server.Object)) (p : Packet) : Prop :=
  (st.state = HelloByeServer.Hello ∨ Server.Accepts st p) ∧ (Server.Accepts st p → Apart p.data)

/-- When a client does. -/
def Client.TreatsWhen (st : State (Ptr Block)) (p : Packet) : Prop :=
  Client.Accepts st p ∧ (st.state = HelloByeClient.Bye → Apart p.data)

/-- The function a server's `State` has. -/
theorem Server.answer_treats {st : State (Ptr Server.Object)}
    (hident : IPv4_5TupleL2Ident.identify p.data ≠ none) (hwaits : Server.Waits st) :
    ∃ a, Server.service.answer st p w = some a ∧
      TreatsIn (Server.Accepts st p) (Server.nextMessage st) HelloByeServer.Terminate p
        (Server.TreatsWhen st p) a := by
  obtain ⟨d, n, t⟩ := st
  unfold Server.TreatsWhen
  obtain _ | _ | o := d
  · exact hwaits.elim
  · exact hwaits.elim
  · cases o with
    | hello t =>
        obtain rfl : n = HelloByeServer.Hello := hwaits
        obtain ⟨a, ha, hin⟩ := Server.runHello_treats (w := w) hident t
        exact ⟨a, ha, hin.congr (by simp [Server.Accepts])⟩
    | bye t =>
        obtain rfl : n = HelloByeServer.Bye := hwaits
        have hne : HelloByeServer.Bye ≠ HelloByeServer.Hello := by decide
        obtain ⟨a, ha, hin⟩ := Server.runBye_treats (w := w) hident t
        refine ⟨a, ha, hin.congr ?_⟩
        simp only [Server.Accepts, hne, false_or]
        exact and_congr_right fun h => by simp [h]

/-- The function a client's `State` has. -/
theorem Client.answer_treats {st : State (Ptr Block)}
    (hident : IPv4_5TupleL2Ident.identify p.data ≠ none) (hwaits : Client.Waits st) :
    ∃ a, Client.service.answer st p w = some a ∧
      TreatsIn (Client.Accepts st p) (Client.nextMessage st p) HelloByeClient.Terminate p
        (Client.TreatsWhen st p) a := by
  obtain ⟨d, n, t⟩ := st
  unfold Client.TreatsWhen Client.nextMessage Client.Accepts
  obtain _ | _ | b := d
  · exact hwaits.elim
  · exact hwaits.elim
  · have hne : HelloByeClient.RecvBye ≠ HelloByeClient.Bye := by decide
    rcases hwaits with h | h
    · obtain rfl : n = HelloByeClient.Bye := h
      obtain ⟨a, ha, hin⟩ := Client.runBye_treats (w := w) hident b
      exact ⟨a, ha, by simpa using hin⟩
    · obtain rfl : n = HelloByeClient.RecvBye := h
      obtain ⟨a, ha, hin⟩ := Client.runRecvBye_treats (p := p) (w := w) b
      exact ⟨a, ha, by simpa [hne] using hin⟩

end HelloBye

open HelloBye in
/-- **Refused messages.**  The functions of the server and of the client, in every state and on
every packet: it is treated exactly if it is accepted with headers that can be exchanged in place,
or refused by the first function of the server. -/
theorem treats_iff (pl : Service.Platform) (cur : Nat) (p : P)
    (id : IPv4_5TupleL2Ident.ConnectionID) :
    (∀ (s : Sys IPv4_5TupleL2Ident.ConnectionID P (Ptr Server.Object) (World P Packet Program)) st,
      Server.service.Runs s.sm → s.pktsBA.get cur = .ok p →
      Server.service.served s.held (s.w.mem p) = some (id, st) → Server.Waits st →
      ∃ s', runPkt (Server.service.env pl) cur s = .ok s' ∧
        (Treats (Server.Accepts st (s.w.mem p)) (Server.nextMessage st) id cur p s s' ↔
          Server.TreatsWhen st (s.w.mem p))) ∧
    (∀ (s : Sys IPv4_5TupleL2Ident.ConnectionID P (Ptr Block) (World P Packet Program)) st,
      Client.service.Runs s.sm → s.pktsBA.get cur = .ok p →
      Client.service.served s.held (s.w.mem p) = some (id, st) → Client.Waits st →
      ∃ s', runPkt (Client.service.env pl) cur s = .ok s' ∧
        (Treats (Client.Accepts st (s.w.mem p)) (Client.nextMessage st (s.w.mem p)) id cur p s s' ↔
          Client.TreatsWhen st (s.w.mem p))) := by
  constructor
  · intro s st hruns hp hserved hwaits
    exact exists_treats_iff (fun _ _ => rfl) hruns hp hserved fun _ =>
      Server.answer_treats (Service.ident_of_served hserved) hwaits
  · intro s st hruns hp hserved hwaits
    exact exists_treats_iff (fun _ _ => rfl) hruns hp hserved fun _ =>
      Client.answer_treats (Service.ident_of_served hserved) hwaits

namespace HelloBye

/-- A UDP packet with this message, and no addresses. -/
def datagram (text : List UInt8) : Packet where
  data := (Mem.set8 (Mem.set8 (fun _ => 0) 14 0x45) 23 17).write 42 text
  dataLen := 100

/-- The connection it is of. -/
def peer : IPv4_5TupleL2Ident.ConnectionID :=
  { dstIP := 0, srcIP := 0, dstPort := 0, srcPort := 0, proto := 17 }

def quiet : Service.Platform where
  clock _ := 0
  topRule := Timeout.firstRule
  ndebug := false

/-- The packet gets to a machine with that connection. -/
def facing {D : Type} [Inhabited D] (u : Service IPv4_5TupleL2Ident.ConnectionID D Packet Program)
    (st : State D) (pkt : Packet) : Sys IPv4_5TupleL2Ident.ConnectionID Nat D (World Nat Packet Program) where
  sm := { u.machine with stateTable := FMap.insertNew peer st ∅ }
  connPool := ∅
  pktsBA := (BufArray.new [7]).get BufArray.isSome_new_seven
  w := ⟨fun _ => pkt, ⟨fun _ => 5, none⟩⟩
  ticks := 0
  log := []

/-- A server that has been greeted, with the cookies 5 and 3. -/
def greeted : State (Ptr Server.Object) := .new HelloByeServer.Bye (.to (.bye ⟨5, 3⟩))

def goodbye : Packet := datagram (line "CLIENT BYE:" 3)

/-- A hello, where it waits for the goodbye. -/
def secondHello : Packet := datagram (line "CLIENT HELLO:" 5)

/-- A client that has greeted. -/
def greeting : State (Ptr Block) := .new HelloByeClient.Bye (.to ⟨5, 0, 0⟩)

def serverHello : Packet := datagram (line "SERVER HELLO:" 3)

end HelloBye

open HelloBye in
/-- A server gets the goodbye, and a client the server's hello. -/
theorem treats_iff_greeted :
    (∃ s', runPkt (Server.service.env quiet) 0 (facing Server.service greeted goodbye) = .ok s' ∧
      Treats (Server.Accepts greeted goodbye) (Server.nextMessage greeted) peer 0 7
        (facing Server.service greeted goodbye) s') ∧
    ∃ s', runPkt (Client.service.env quiet) 0 (facing Client.service greeting serverHello) = .ok s' ∧
      Treats (Client.Accepts greeting serverHello) (Client.nextMessage greeting serverHello) peer 0 7
        (facing Client.service greeting serverHello) s' := by
  obtain ⟨hserver, hclient⟩ := treats_iff quiet 0 (7 : Nat) peer
  constructor
  · obtain ⟨s', hs', hiff⟩ := hserver (facing Server.service greeted goodbye) greeted
      ⟨rfl, rfl, rfl, rfl, rfl, rfl⟩ BufArray.get_new_seven (by decide +kernel) rfl
    have htold : Says goodbye.data (message goodbye) "CLIENT BYE:" ∧
        cookieAfter goodbye.data (message goodbye) "CLIENT BYE:" = 3 := by decide +kernel
    have hapart : Apart goodbye.data := by decide +kernel
    exact ⟨s', hs', hiff.mpr ⟨Or.inr htold, fun _ => hapart⟩⟩
  · obtain ⟨s', hs', hiff⟩ := hclient (facing Client.service greeting serverHello) greeting
      ⟨rfl, rfl, rfl, rfl, rfl, rfl⟩ BufArray.get_new_seven (by decide +kernel) (Or.inl rfl)
    have htold : Says serverHello.data (message serverHello) "SERVER HELLO:" := by decide +kernel
    have hapart : Apart serverHello.data := by decide +kernel
    exact ⟨s', hs', hiff.mpr ⟨htold, fun _ => hapart⟩⟩

open HelloBye in
/-- A server that waits for the goodbye gets a hello: the frame is sent as it came. -/
theorem second_hello_not_treated :
    Server.Waits greeted ∧ ¬ Server.Accepts greeted secondHello ∧
    ∃ s', runPkt (Server.service.env quiet) 0 (facing Server.service greeted secondHello) = .ok s' ∧
      s'.pktsBA.slots[0]? = some (7, true) ∧ s'.w.mem 7 = secondHello ∧
      ¬ Treats (Server.Accepts greeted secondHello) (Server.nextMessage greeted) peer 0 7
        (facing Server.service greeted secondHello) s' := by
  have htold : ¬ Says secondHello.data (message secondHello) "CLIENT BYE:" := by decide +kernel
  have hans : ∀ r, Server.service.answer greeted secondHello r = some
      ⟨.to (.bye ⟨5, 3⟩), some HelloByeServer.Terminate, secondHello, r, false⟩ := by
    intro r
    have hfunc := HelloByeServerBye.func_refused (t := ⟨5, 3⟩) (w := r) htold
    show some _ = _
    rw [hfunc]
  have hnot : ¬ Server.Accepts greeted secondHello := fun h => htold h.1
  have hruns : Server.service.Runs (facing Server.service greeted secondHello).sm :=
    ⟨rfl, rfl, rfl, rfl, rfl, rfl⟩
  have hident : ∀ q w, (Server.service.env quiet).identify q w = Server.service.ident (w.mem q) :=
    fun (_ : Nat) _ => rfl
  have hserved : Server.service.served (facing Server.service greeted secondHello).held secondHello
      = some (peer, greeted) := by decide +kernel
  obtain ⟨s', r, a, hs', ha, hmem, hslot, -⟩ := hruns.runPkt_served hident BufArray.get_new_seven hserved
    fun r => by
      rw [show (facing Server.service greeted secondHello).w.mem 7 = secondHello from rfl, hans]
      simp
  obtain rfl := Option.some.inj ((hans r).symm.trans ha)
  refine ⟨rfl, hnot, s', hs', hslot, hmem, fun h => ?_⟩
  have hslot' := (h.refused hnot).2
  simp [hslot] at hslot'

end MoonState
