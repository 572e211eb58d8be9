/-
The messages of the text HelloBye, and what the functions make of those they wait for.

A cookie is one digit, so the character behind the words is all of it.  `Message` is a
packet with such a line, identified, and with its UDP header behind the IPv4 header.  A
function that gets the message it waits for has another in its place, of the reversed
5-tuple; that is `Message.turned`, and only the first hello is written from nothing.
-/
import MoonState.Proofs.Refusals

namespace MoonState.HelloBye

open Headers IPv4_5TupleL2Ident

/-! ### Lines -/

/-- The message of the packet is this line. -/
def Prints (p : Packet) (str : String) (n : Int) : Prop :=
  p.data.read (message p) (line str n).length = line str n

/-- A number below ten is one character. -/
theorem decimal_of_lt {k : Nat} (h : k < 10) : decimal k = [UInt8.ofNat (48 + k)] := by
  have hnot : ¬ (k : Int) < 0 := by omega
  unfold decimal
  rw [if_neg hnot, Int.natAbs_natCast, Nat.toDigits_of_lt_base h, List.nil_append, List.map_singleton,
    Nat.toNat_digitChar_of_lt_ten h]

variable {p : Packet} {str str' : String} {n : Int}

theorem Prints.told (h : Prints p str n) : Says p.data (message p) str := by
  unfold Prints line at h
  rw [List.append_assoc, List.length_append, Mem.read_append] at h
  exact (List.append_inj h (Mem.length_read _ _ _)).1

/-- The cookie is read back. -/
theorem Prints.cookieAfter {k : Fin 10} (h : Prints p str k.val) :
    cookieAfter p.data (message p) str = k.val := by
  have hk := k.isLt
  have hchar : (line str k.val)[(ascii str).length]? = some (UInt8.ofNat (48 + k.val)) := by
    unfold line
    rw [decimal_of_lt hk, List.append_assoc, List.getElem?_append_right (Nat.le_refl _), Nat.sub_self]
    rfl
  have hlt := (List.getElem?_eq_some_iff.mp hchar).1
  have hbyte := (eq_getElem?_of_read h hlt).symm.trans hchar
  have hsize : 48 + k.val < 2 ^ 8 := by omega
  unfold HelloBye.cookieAfter
  rw [Option.some.inj hbyte, UInt8.toNat_ofNat_of_lt' hsize]
  omega

/-! ### Messages -/

/-- A message of a connection, with its cookie. -/
structure Message (id : ConnectionID) (str : String) (k : Fin 10) where
  pkt : Packet
  ident : IPv4_5TupleL2Ident.identify pkt.data = some id
  udp : IPv4.proto pkt.data sizeofEthernet = IPv4.PROTO_UDP
  apart : 5 ≤ (IPv4.ihl pkt.data sizeofEthernet).toNat
  prints : Prints pkt str k.val

namespace Message

variable {id : ConnectionID} {k : Fin 10}

/-- **A message that is rewritten in place** is one of the other direction. -/
theorem turned (x : Message id str k) (str' : String) (k' : Fin 10) {m : Mem}
    (hm : ∀ j, j < message x.pkt → m j = x.pkt.data j) :
    ∃ y : Message id.reverse str' k',
      y.pkt = HelloBye.turned x.pkt (m.write (message x.pkt) (line str' k'.val)) := by
  obtain ⟨q, hq⟩ : ∃ q, q = HelloBye.turned x.pkt (m.write (message x.pkt) (line str' k'.val)) :=
    ⟨_, rfl⟩
  have hpay := getPayload_eq x.pkt.data
  have hmsg : message x.pkt = IPv4.getPayload x.pkt.data sizeofEthernet + 8 := rfl
  have hlen : sizeofEthernet = 14 := rfl
  have hapart := x.apart
  have hbelow : ∀ j, j < message x.pkt →
      m.write (message x.pkt) (line str' k'.val) j = x.pkt.data j := fun j hj => by
    rw [Mem.write_of_notMem (Or.inl hj), hm j hj]
  have hsame : ∀ j, j < 22 ∨ j = 23 → q.data j = x.pkt.data j := by
    intro j hj
    rw [hq]
    refine (setHeaders_of_notMem ?_ ?_ ?_).trans (hbelow j ?_)
    all_goals omega
  have hihl : IPv4.ihl q.data sizeofEthernet = IPv4.ihl x.pkt.data sizeofEthernet := by
    unfold IPv4.ihl
    rw [hsame _ (Or.inl (by omega))]
  have hudp : IPv4.proto q.data sizeofEthernet = IPv4.PROTO_UDP := by
    rw [← x.udp]
    exact hsame _ (Or.inr rfl)
  have hpayq : IPv4.getPayload q.data sizeofEthernet = IPv4.getPayload x.pkt.data sizeofEthernet := by
    unfold IPv4.getPayload
    rw [hihl]
  have hexch : Exchanged x.pkt.data q.data := by
    rw [hq]
    exact exchanged_of_apart hapart hbelow
  refine ⟨⟨q, ?_, hudp, hihl ▸ hapart, ?_⟩, hq⟩
  · have hid : some id = _ := x.ident.symm.trans (identify_udp x.udp)
    rw [Option.some.inj hid, identify_udp hudp]
    show some (ConnectionID.mk _ _ _ _ _) = some (ConnectionID.mk _ _ _ _ _)
    rw [show (14 : Nat) = sizeofEthernet from rfl, hpayq, hexch.srcIP, hexch.dstIP, hexch.srcPort,
      hexch.dstPort]
  · have hmsgq : message q = message x.pkt := congrArg (· + 8) hpayq
    unfold Prints
    rw [hmsgq, hq]
    refine (Mem.read_congr fun j hj _ => ?_).trans (Mem.read_write_self m _ _)
    exact setHeaders_of_notMem (by omega) (by omega) (by omega)

end Message

/-! ### The hello a client opens with -/

namespace HelloByeClientHello

variable (config : HelloByeClientConfig) (t : HelloByeClientHello)

/-- The IPv4 header of the hello. -/
def ipHeader (m : Mem) (ipv4 : Nat) : Mem :=
  let m := IPv4.setVersion m ipv4
  let m := IPv4.setIHL m ipv4 5
  let m := IPv4.setTtl m ipv4 64
  let m := IPv4.setLength m ipv4 (100 - 14)
  let m := IPv4.setDstIP m ipv4 t.dstIp
  let m := IPv4.setSrcIP m ipv4 config.srcIp
  let m := IPv4.setProtoUDP m ipv4
  IPv4.clearChecksum m ipv4

/-- What is behind the IPv4 header, and the type of the frame. -/
def udpHeader (m : Mem) (udp : Nat) : Mem :=
  let m := m.write (Udp.getPayload udp) (line "CLIENT HELLO:" t.clientCookie)
  let m := Ethernet.setEthertype m 0x0800
  let m := Udp.clearChecksum m udp
  let m := Udp.setDstPort m udp config.dstPort
  let m := Udp.setSrcPort m udp t.srcPort
  Udp.setPayloadLength m udp 50

/-- It is the header of the other hello. -/
theorem ihl_ipHeader (m : Mem) (ipv4 : Nat) : IPv4.ihl (t.ipHeader config m ipv4) ipv4 = 5 :=
  HelloBye2.Client.Hello.ihl_ipHeader ⟨config.srcIp, config.dstPort⟩ ⟨0, t.dstIp, t.srcPort, 0⟩ m ipv4

theorem proto_ipHeader (m : Mem) (ipv4 : Nat) :
    IPv4.proto (t.ipHeader config m ipv4) ipv4 = IPv4.PROTO_UDP :=
  HelloBye2.Client.Hello.proto_ipHeader ⟨config.srcIp, config.dstPort⟩ ⟨0, t.dstIp, t.srcPort, 0⟩ m
    ipv4

theorem getSrcIP_ipHeader (m : Mem) (ipv4 : Nat) :
    IPv4.getSrcIP (t.ipHeader config m ipv4) ipv4 = config.srcIp := by
  unfold ipHeader IPv4.getSrcIP IPv4.clearChecksum IPv4.setProtoUDP IPv4.setSrcIP
  simp (disch := omega) only [Mem.get32_set16, Mem.get32_set8, Mem.get32_set32]

theorem getDstIP_ipHeader (m : Mem) (ipv4 : Nat) :
    IPv4.getDstIP (t.ipHeader config m ipv4) ipv4 = t.dstIp := by
  unfold ipHeader IPv4.getDstIP IPv4.clearChecksum IPv4.setProtoUDP IPv4.setSrcIP IPv4.setDstIP
  simp (disch := omega) only [Mem.get32_set16, Mem.get32_set8, Mem.get32_set32_of_ne,
    Mem.get32_set32]

variable {m : Mem} {udp j : Nat}

/-- In front of the message the IPv4 header stays. -/
theorem udpHeader_of_lt (h : 14 ≤ j) (hj : j < udp) : t.udpHeader config m udp j = m j := by
  unfold udpHeader
  rw [Udp.setPayloadLength, Mem.set16_of_ne _ (by omega), Udp.setSrcPort,
    Mem.set16_of_ne _ (by omega), Udp.setDstPort, Mem.set16_of_ne _ (by omega), Udp.clearChecksum,
    Mem.set16_of_ne _ (by omega), Ethernet.setEthertype, Mem.set16_of_ne _ (by omega)]
  exact Mem.write_of_notMem (Or.inl (Nat.lt_add_right 8 hj))

/-- Behind the headers is the message. -/
theorem udpHeader_of_le (hudp : 14 ≤ udp) (hj : udp + 8 ≤ j) : t.udpHeader config m udp j
    = m.write (Udp.getPayload udp) (line "CLIENT HELLO:" t.clientCookie) j := by
  unfold udpHeader
  rw [Udp.setPayloadLength, Mem.set16_of_ne _ (by omega), Udp.setSrcPort,
    Mem.set16_of_ne _ (by omega), Udp.setDstPort, Mem.set16_of_ne _ (by omega), Udp.clearChecksum,
    Mem.set16_of_ne _ (by omega), Ethernet.setEthertype, Mem.set16_of_ne _ (by omega)]

theorem getSrcPort_udpHeader : Udp.getSrcPort (t.udpHeader config m udp) udp = t.srcPort := by
  unfold udpHeader Udp.getSrcPort Udp.setPayloadLength Udp.setSrcPort
  simp (disch := omega) only [Mem.get16_set16_of_ne, Mem.get16_set16]

theorem getDstPort_udpHeader : Udp.getDstPort (t.udpHeader config m udp) udp = config.dstPort := by
  unfold udpHeader Udp.getDstPort Udp.setPayloadLength Udp.setSrcPort Udp.setDstPort
  simp (disch := omega) only [Mem.get16_set16_of_ne, Mem.get16_set16]

/-- **The hello of a client** is identified as the reverse of the ID it is registered under. -/
theorem func_sends {w : Program} (hw : w.config = some config) {k : Fin 10}
    (hk : t.clientCookie = k.val) (pkt : Packet) :
    ∃ x : Message (Client.cID config t.dstIp t.srcPort).reverse "CLIENT HELLO:" k,
      t.func pkt w = some ⟨t, some HelloByeClient.Bye, x.pkt, w, false⟩ := by
  obtain ⟨m, hm⟩ : ∃ m, m = t.ipHeader config (pkt.data.clear pkt.dataLen.toNat) sizeofEthernet :=
    ⟨_, rfl⟩
  have hpay : IPv4.getPayload m sizeofEthernet = 34 := by
    unfold IPv4.getPayload
    rw [hm, t.ihl_ipHeader config]
    rfl
  obtain ⟨q, hq⟩ : ∃ q, q = { pkt with data := t.udpHeader config m 34 } := ⟨_, rfl⟩
  have hfunc : t.func pkt w = some ⟨t, some HelloByeClient.Bye, q, w, false⟩ := by
    rw [hq, ← hpay, hm]
    unfold func
    rw [hw]
    rfl
  have hsame : Mem.Same m q.data 14 20 := fun j hj hj' => by
    rw [hq]
    exact t.udpHeader_of_lt config hj (by omega)
  have hihl : IPv4.ihl q.data sizeofEthernet = 5 := by
    rw [← t.ihl_ipHeader config (pkt.data.clear pkt.dataLen.toNat) sizeofEthernet, ← hm]
    unfold IPv4.ihl
    rw [hsame _ (by decide) (by decide)]
  have hudp : IPv4.proto q.data sizeofEthernet = IPv4.PROTO_UDP := by
    rw [← t.proto_ipHeader config (pkt.data.clear pkt.dataLen.toNat) sizeofEthernet, ← hm]
    exact hsame _ (by decide) (by decide)
  have hpayq : IPv4.getPayload q.data sizeofEthernet = 34 := by
    unfold IPv4.getPayload
    rw [hihl]
    rfl
  have hsrc : IPv4.getSrcIP q.data sizeofEthernet = config.srcIp := by
    rw [← t.getSrcIP_ipHeader config (pkt.data.clear pkt.dataLen.toNat) sizeofEthernet, ← hm]
    exact Mem.Same.get32 fun j hj hj' => hsame j (by unfold sizeofEthernet at hj; omega) (by
      unfold sizeofEthernet at hj'; omega)
  have hdst : IPv4.getDstIP q.data sizeofEthernet = t.dstIp := by
    rw [← t.getDstIP_ipHeader config (pkt.data.clear pkt.dataLen.toNat) sizeofEthernet, ← hm]
    exact Mem.Same.get32 fun j hj hj' => hsame j (by unfold sizeofEthernet at hj; omega) (by
      unfold sizeofEthernet at hj'; omega)
  refine ⟨⟨q, ?_, hudp, by rw [hihl]; decide, ?_⟩, hfunc⟩
  · rw [identify_udp hudp, show (14 : Nat) = sizeofEthernet from rfl, hpayq, hsrc, hdst, hq,
      t.getSrcPort_udpHeader config, t.getDstPort_udpHeader config]
    rfl
  · have hmsg : message q = 42 := congrArg (· + 8) hpayq
    unfold Prints
    rw [hmsg, ← hk, hq]
    refine (Mem.read_congr fun j hj _ => ?_).trans (Mem.read_write_self m 42 _)
    exact t.udpHeader_of_le config (by decide) hj

end HelloByeClientHello

/-! ### What is done with the messages that are waited for -/

/-- A cookie is a digit. -/
theorem Program.cookie_eq (w : Program) :
    ∃ (d : Fin 10) (w' : Program), w.cookie = ((d.val : Int), w') ∧ w'.config = w.config :=
  ⟨⟨w.rnd 0 % 10, Nat.mod_lt _ (by decide)⟩, _, rfl, rfl⟩

/-- A digit in a word is read back from it. -/
theorem asInt_ofInt (k : Fin 10) : asInt (ofInt k.val) = k.val := by
  revert k
  decide

variable {c : ConnectionID} {k d : Fin 10} {w : Program}

theorem Server.runHello_greets (x : Message c.reverse "CLIENT HELLO:" k) :
    ∃ y : Message c "SERVER HELLO:" d,
      runHello (.to (.hello ⟨none, d.val⟩)) x.pkt w
        = some ⟨.to (.bye ⟨k.val, d.val⟩), some HelloByeServer.Bye, y.pkt, w, false⟩ := by
  obtain ⟨y, hy⟩ := x.turned "SERVER HELLO:" d fun _ _ => rfl
  have hfunc : HelloByeServerHello.func ⟨none, d.val⟩ x.pkt w
      = ⟨⟨some k.val, d.val⟩, some HelloByeServer.Bye, y.pkt, w, false⟩ := by
    rw [hy, ← x.prints.cookieAfter]
    exact if_neg (not_not_intro x.prints.told)
  refine ⟨y, ?_⟩
  unfold runHello
  dsimp only
  rw [hfunc]
  rfl

theorem Server.runBye_accepts (x : Message c.reverse "CLIENT BYE:" d) :
    ∃ y : Message c "SERVER BYE:" k,
      runBye (.to (.bye ⟨k.val, d.val⟩)) x.pkt w
        = some ⟨.to (.bye ⟨k.val, d.val⟩), some HelloByeServer.Terminate, y.pkt, w, false⟩ := by
  obtain ⟨y, hy⟩ := x.turned "SERVER BYE:" k fun _ _ => rfl
  have hfunc : HelloByeServerBye.func ⟨k.val, d.val⟩ x.pkt w
      = ⟨⟨k.val, d.val⟩, some HelloByeServer.Terminate, y.pkt, w, false⟩ := by
    rw [hy]
    exact (if_neg (not_not_intro x.prints.told)).trans (if_neg (not_not_intro x.prints.cookieAfter))
  refine ⟨y, ?_⟩
  unfold runBye
  dsimp only
  rw [hfunc]

theorem Client.runHello_sends {config : HelloByeClientConfig} (hw : w.config = some config)
    (ip : UInt32) (port : UInt16) (pkt : Packet) :
    ∃ x : Message (cID config ip port).reverse "CLIENT HELLO:" k,
      runHello (.to ⟨ofInt k.val, ip, port⟩) pkt w
        = some ⟨.to ⟨ofInt k.val, ip, port⟩, some HelloByeClient.Bye, x.pkt, w, false⟩ := by
  obtain ⟨x, hx⟩ := HelloByeClientHello.func_sends config ⟨k.val, ip, port⟩ hw (k := k) rfl pkt
  have hblock : Block.asHello ⟨ofInt k.val, ip, port⟩ = ⟨k.val, ip, port⟩ :=
    congrArg (HelloByeClientHello.mk · ip port) (asInt_ofInt k)
  refine ⟨x, ?_⟩
  unfold runHello
  dsimp only
  rw [hblock, hx]
  rfl

/-- The cookie of the server goes where the IP was. -/
theorem Client.runBye_greets (ip : UInt32) (port : UInt16) (x : Message c "SERVER HELLO:" d) :
    ∃ y : Message c.reverse "CLIENT BYE:" d,
      runBye (.to ⟨ofInt k.val, ip, port⟩) x.pkt w = some
        ⟨.to ⟨ofInt k.val, ofInt d.val, port⟩, some HelloByeClient.RecvBye, y.pkt, w, false⟩ := by
  obtain ⟨y, hy⟩ := x.turned "CLIENT BYE:" d (m := x.pkt.data.write (message x.pkt)
    (List.replicate 20 0)) fun j hj => Mem.write_of_notMem (Or.inl hj)
  have hblock : Block.asBye ⟨ofInt k.val, ip, port⟩ = ⟨k.val, asInt ip⟩ :=
    congrArg (HelloByeClientBye.mk · _) (asInt_ofInt k)
  have hfunc : (Block.asBye ⟨ofInt k.val, ip, port⟩).func x.pkt w
      = ⟨⟨k.val, d.val⟩, some HelloByeClient.RecvBye, y.pkt, w, false⟩ := by
    rw [hblock, hy, ← x.prints.cookieAfter]
    exact if_neg (not_not_intro x.prints.told)
  refine ⟨y, ?_⟩
  unfold runBye
  dsimp only
  rw [hfunc]
  rfl

theorem Client.runRecvBye_completes (port : UInt16) (x : Message c "SERVER BYE:" k) :
    runRecvBye (.to ⟨ofInt k.val, ofInt d.val, port⟩) x.pkt w = some
      ⟨.to ⟨ofInt k.val, ofInt d.val, port⟩, some HelloByeClient.Terminate, x.pkt, w, true⟩ := by
  have hblock : Block.asRecvBye ⟨ofInt k.val, ofInt d.val, port⟩ = ⟨k.val, d.val⟩ :=
    congrArg₂ HelloByeClientRecvBye.mk (asInt_ofInt k) (asInt_ofInt d)
  have hfunc : (Block.asRecvBye ⟨ofInt k.val, ofInt d.val, port⟩).func x.pkt w
      = ⟨⟨k.val, d.val⟩, some HelloByeClient.Terminate, x.pkt, w, true⟩ := by
    rw [hblock]
    exact (if_neg (not_not_intro x.prints.told)).trans (if_neg (not_not_intro x.prints.cookieAfter))
  unfold runRecvBye
  dsimp only
  rw [hfunc]
  rfl

end MoonState.HelloBye
