/-
What the functions of HelloBye2 do.

A packet that is answered is turned round: `Packet.reply` puts role, message and
cookie in and swaps the addresses, whatever order the source writes them in.  Each
function is then one choice between a reply and the end of the connection.  Only the
hello of a client is written from scratch.
-/
import MoonState.Model.HelloBye2

namespace MoonState

open Headers

/-! ### The reply -/

namespace Packet

variable (p : Packet)

/-- The packet, turned round. -/
def reply (role msg cookie : UInt8) : Packet :=
  { p with
    data := setHeaders
      (Msg.setCookie (Msg.setMsg (Msg.setRole p.data p.msg role) p.msg msg) p.msg cookie)
      sizeofEthernet p.udp }

end Packet

/-- The order of the three writes. -/
theorem Msg.set_comm (m : Mem) (a : Nat) (role msg cookie : UInt8) :
    Msg.setMsg (Msg.setRole (Msg.setCookie m a cookie) a role) a msg
      = Msg.setCookie (Msg.setMsg (Msg.setRole m a role) a msg) a cookie := by
  unfold Msg.setMsg Msg.setRole Msg.setCookie
  funext j
  by_cases h₈ : j = a + 8
  · subst h₈
    rw [Mem.set8_of_ne _ (by omega), Mem.set8_self, Mem.set8_of_ne _ (by omega),
      Mem.set8_of_ne _ (by omega), Mem.set8_self]
  by_cases h₉ : j = a + 9
  · subst h₉
    rw [Mem.set8_self, Mem.set8_of_ne _ (by omega), Mem.set8_self]
  by_cases h₁₀ : j = a + 10
  · subst h₁₀
    rw [Mem.set8_of_ne _ (by omega), Mem.set8_of_ne _ (by omega), Mem.set8_self, Mem.set8_self]
  · rw [Mem.set8_of_ne _ h₉, Mem.set8_of_ne _ h₈, Mem.set8_of_ne _ h₁₀, Mem.set8_of_ne _ h₁₀,
      Mem.set8_of_ne _ h₉, Mem.set8_of_ne _ h₈]

/-- The reply, written in the other order. -/
theorem Packet.reply_eq (p : Packet) (role msg : UInt8) {c cookie : UInt8} (h : c = cookie) :
    { p with
      data := setHeaders
        (Msg.setMsg (Msg.setRole (Msg.setCookie p.data p.msg c) p.msg role) p.msg msg)
        sizeofEthernet p.udp } = p.reply role msg cookie := by
  rw [h, Msg.set_comm]
  rfl

/-! ### What a reply keeps -/

namespace Headers

/-- The bytes the swap of the addresses does not write. -/
theorem setHeaders_of_notMem {m : Mem} {ipv4 udp j : Nat} (httl : j ≠ ipv4 + 8)
    (hip : j < ipv4 + 10 ∨ ipv4 + 20 ≤ j) (hudp : j < udp ∨ udp + 8 ≤ j) :
    setHeaders m ipv4 udp j = m j := by
  unfold setHeaders Udp.setSrcPort Udp.setDstPort Udp.clearChecksum IPv4.clearChecksum
    IPv4.setSrcIP IPv4.setDstIP IPv4.setTtl
  rw [Mem.set16_of_ne _ (by omega), Mem.set16_of_ne _ (by omega), Mem.set16_of_ne _ (by omega),
    Mem.set16_of_ne _ (by omega), Mem.set32_of_ne _ (by omega), Mem.set32_of_ne _ (by omega),
    Mem.set8_of_ne _ httl]

end Headers

namespace Packet

variable (p : Packet) (role msg cookie : UInt8)

/-- The message is behind the addresses of the IPv4 header. -/
def Clear : Prop := 3 ≤ (IPv4.ihl p.data sizeofEthernet).toNat

instance : Decidable p.Clear := inferInstanceAs (Decidable (_ ≤ _))

theorem msg_eq : p.msg = p.udp + 8 := rfl

theorem udp_eq : p.udp = 14 + 4 * (IPv4.ihl p.data sizeofEthernet).toNat := rfl

variable {p}

/-- In front of the TTL, in the protocol and in the ident a reply writes nothing. -/
theorem reply_of_notMem (h : p.Clear) {j : Nat}
    (hj : j < 22 ∨ j = 23 ∨ p.msg ≤ j ∧ j < p.msg + 8) :
    (p.reply role msg cookie).data j = p.data j := by
  have hudp := p.udp_eq
  have hmsg := p.msg_eq
  unfold Clear at h
  refine (Headers.setHeaders_of_notMem ?_ ?_ ?_).trans ?_
  · show j ≠ 14 + 8
    omega
  · show j < 14 + 10 ∨ 14 + 20 ≤ j
    omega
  · omega
  · unfold Msg.setCookie Msg.setMsg Msg.setRole
    rw [Mem.set8_of_ne _ (by omega), Mem.set8_of_ne _ (by omega), Mem.set8_of_ne _ (by omega)]

/-- What is written to the message stays. -/
theorem reply_msg (h : p.Clear) {j : Nat} (hj : p.msg + 8 ≤ j) (hj' : j < p.msg + 11) :
    (p.reply role msg cookie).data j
      = Msg.setCookie (Msg.setMsg (Msg.setRole p.data p.msg role) p.msg msg) p.msg cookie j := by
  have hudp := p.udp_eq
  have hmsg := p.msg_eq
  unfold Clear at h
  refine Headers.setHeaders_of_notMem ?_ ?_ ?_
  · show j ≠ 14 + 8
    omega
  · show j < 14 + 10 ∨ 14 + 20 ≤ j
    omega
  · omega

theorem ihl_reply (h : p.Clear) :
    IPv4.ihl (p.reply role msg cookie).data sizeofEthernet = IPv4.ihl p.data sizeofEthernet := by
  unfold IPv4.ihl
  rw [reply_of_notMem role msg cookie h (Or.inl (by decide))]

theorem msg_reply (h : p.Clear) : (p.reply role msg cookie).msg = p.msg := by
  rw [msg_eq, msg_eq, udp_eq, udp_eq, ihl_reply role msg cookie h]

theorem Clear.reply (h : p.Clear) : (p.reply role msg cookie).Clear := by
  unfold Clear
  rw [ihl_reply role msg cookie h]
  exact h

/-- **A reply is of the same connection**, if its message is clear of the addresses. -/
theorem identify_reply (h : p.Clear) : identify (p.reply role msg cookie) = identify p := by
  have htype : Ethernet.getEthertype (p.reply role msg cookie).data = Ethernet.getEthertype p.data :=
    Mem.Same.get16 fun j _ hj => reply_of_notMem role msg cookie h (Or.inl (by omega))
  have hproto : IPv4.proto (p.reply role msg cookie).data sizeofEthernet
      = IPv4.proto p.data sizeofEthernet :=
    reply_of_notMem role msg cookie h (Or.inr (Or.inl rfl))
  have hident : Msg.ident (p.reply role msg cookie).data (p.reply role msg cookie).msg
      = Msg.ident p.data p.msg := by
    rw [msg_reply role msg cookie h]
    exact Mem.Same.get64 fun j hj hj' => reply_of_notMem role msg cookie h (Or.inr (Or.inr ⟨hj, hj'⟩))
  unfold identify
  dsimp only
  rw [htype, hproto, show Udp.getPayload (IPv4.getPayload (p.reply role msg cookie).data
    sizeofEthernet) = (p.reply role msg cookie).msg from rfl, hident]
  rfl

theorem says_reply (h : p.Clear) : (p.reply role msg cookie).Says role msg := by
  unfold Says Msg.role Msg.msg
  rw [msg_reply role msg cookie h, reply_msg role msg cookie h (by omega) (by omega),
    reply_msg role msg cookie h (by omega) (by omega)]
  unfold Msg.setCookie Msg.setMsg Msg.setRole
  constructor
  · rw [Mem.set8_of_ne _ (by omega), Mem.set8_of_ne _ (by omega), Mem.set8_self]
  · rw [Mem.set8_of_ne _ (by omega), Mem.set8_self]

theorem cookie_reply (h : p.Clear) : (p.reply role msg cookie).cookie = cookie := by
  unfold Packet.cookie Msg.cookie
  rw [msg_reply role msg cookie h, reply_msg role msg cookie h (by omega) (by omega)]
  exact Mem.set8_self _ _ _

end Packet

/-! ### Cookies -/

/-- A byte, as the `int` it is promoted to, and back. -/
theorem ofInt_toNat (c : UInt8) : UInt8.ofInt (c.toNat : Int) = c := by
  have h : ((c.toNat : Int) % 2 ^ 8).toNat = c.toNat := by
    have := c.toNat_lt
    omega
  rw [UInt8.ofInt, h, UInt8.ofNat_toNat]

theorem toNat_cookie (n : Nat) : ((UInt8.ofNat (n % 256)).toNat : Int) = (n % 256 : Nat) := by
  have h : n % 256 < 256 := Nat.mod_lt _ (by omega)
  rw [UInt8.toNat_ofNat_of_lt' h]

/-! ### The hello a client opens with -/

/-- The IHL that was written is the IHL, whatever was in the byte. -/
theorem Headers.IPv4.ihl_setIHL (m : Mem) (ip : Nat) (len : UInt8) :
    ihl (setIHL m ip len) ip = len &&& 0x0f := by
  unfold ihl setIHL
  rw [Mem.set8_self]
  apply UInt8.toNat_inj.mp
  show ((m ip).toNat &&& 240 ||| len.toNat &&& 15) &&& 15 = len.toNat &&& 15
  rw [Nat.and_or_distrib_right, Nat.and_assoc, Nat.and_assoc, show 240 &&& 15 = 0 from rfl,
    Nat.and_zero, Nat.zero_or, Nat.and_self]

namespace HelloBye2.Client

variable (config : HelloBye2ClientConfig) (t : Hello)

/-- The IPv4 header of the hello. -/
def Hello.ipHeader (m : Mem) (ipv4 : Nat) : Mem :=
  let m := IPv4.setVersion m ipv4
  let m := IPv4.setIHL m ipv4 5
  let m := IPv4.setTtl m ipv4 64
  let m := IPv4.setLength m ipv4 (100 - 14)
  let m := IPv4.setDstIP m ipv4 t.dstIp
  let m := IPv4.setSrcIP m ipv4 config.srcIp
  let m := IPv4.setProtoUDP m ipv4
  IPv4.clearChecksum m ipv4

/-- The message. -/
def Hello.message (m : Mem) (msg : Nat) : Mem :=
  let m := Msg.setIdent m msg t.ident
  let m := Msg.setRole m msg Msg.ROLE_CLIENT
  let m := Msg.setCookie m msg (UInt8.ofInt t.clientCookie)
  Msg.setMsg m msg Msg.MSG_HELLO

/-- What is behind the IPv4 header, and the type of the frame. -/
def Hello.udpHeader (m : Mem) (udp : Nat) : Mem :=
  let m := t.message m (Udp.getPayload udp)
  let m := Ethernet.setEthertype m 0x0800
  let m := Udp.clearChecksum m udp
  let m := Udp.setDstPort m udp config.dstPort
  let m := Udp.setSrcPort m udp t.srcPort
  Udp.setPayloadLength m udp 50

/-- The IHL is 5, whatever was in the buffer. -/
theorem Hello.ihl_ipHeader (m : Mem) (ipv4 : Nat) :
    IPv4.ihl (t.ipHeader config m ipv4) ipv4 = 5 := by
  unfold IPv4.ihl ipHeader
  rw [IPv4.clearChecksum, Mem.set16_of_ne _ (by omega), IPv4.setProtoUDP,
    Mem.set8_of_ne _ (by omega), IPv4.setSrcIP, Mem.set32_of_ne _ (by omega), IPv4.setDstIP,
    Mem.set32_of_ne _ (by omega), IPv4.setLength, Mem.set16_of_ne _ (by omega), IPv4.setTtl,
    Mem.set8_of_ne _ (by omega)]
  exact IPv4.ihl_setIHL _ _ _

theorem Hello.proto_ipHeader (m : Mem) (ipv4 : Nat) :
    IPv4.proto (t.ipHeader config m ipv4) ipv4 = IPv4.PROTO_UDP := by
  unfold IPv4.proto ipHeader
  rw [IPv4.clearChecksum, Mem.set16_of_ne _ (by omega)]
  exact Mem.set8_self _ _ _

/-- Only the header is written after the type of the frame. -/
theorem Hello.udpHeader_of_notMem {m : Mem} {udp j : Nat} (h : j < udp ∨ udp + 8 ≤ j) :
    t.udpHeader config m udp j = Ethernet.setEthertype (t.message m (udp + 8)) 0x0800 j := by
  unfold udpHeader
  rw [Udp.setPayloadLength, Mem.set16_of_ne _ (by omega), Udp.setSrcPort,
    Mem.set16_of_ne _ (by omega), Udp.setDstPort, Mem.set16_of_ne _ (by omega), Udp.clearChecksum,
    Mem.set16_of_ne _ (by omega)]
  rfl

/-- In front of it the IPv4 header stays. -/
theorem Hello.udpHeader_of_lt {m : Mem} {udp j : Nat} (h : 14 ≤ j) (h' : j < udp) :
    t.udpHeader config m udp j = m j := by
  rw [t.udpHeader_of_notMem config (Or.inl h'), Ethernet.setEthertype,
    Mem.set16_of_ne _ (by omega), message, Msg.setMsg, Mem.set8_of_ne _ (by omega), Msg.setCookie,
    Mem.set8_of_ne _ (by omega), Msg.setRole, Mem.set8_of_ne _ (by omega), Msg.setIdent,
    Mem.set64_of_ne _ (by omega)]

/-- Behind it is the message. -/
theorem Hello.udpHeader_of_le {m : Mem} {udp j : Nat} (hudp : 14 ≤ udp) (h : udp + 8 ≤ j) :
    t.udpHeader config m udp j = t.message m (udp + 8) j := by
  rw [t.udpHeader_of_notMem config (Or.inr h), Ethernet.setEthertype, Mem.set16_of_ne _ (by omega)]

theorem Hello.getEthertype_udpHeader {m : Mem} {udp : Nat} (hudp : 14 ≤ udp) :
    Ethernet.getEthertype (t.udpHeader config m udp) = Ethernet.ETHERTYPE_IPv4 :=
  (Mem.Same.get16 fun _ _ hj => t.udpHeader_of_notMem config (Or.inl (by omega))).trans
    (Mem.get16_set16 _ _ _)

theorem Hello.ident_message (m : Mem) (msg : Nat) : Msg.ident (t.message m msg) msg = t.ident := by
  refine (Mem.Same.get64 fun j hj hj' => ?_).trans (Mem.get64_set64 m msg _)
  rw [message, Msg.setMsg, Mem.set8_of_ne _ (by omega), Msg.setCookie, Mem.set8_of_ne _ (by omega),
    Msg.setRole, Mem.set8_of_ne _ (by omega)]
  rfl

theorem Hello.role_message (m : Mem) (msg : Nat) :
    Msg.role (t.message m msg) msg = Msg.ROLE_CLIENT := by
  rw [Msg.role, message, Msg.setMsg, Mem.set8_of_ne _ (by omega), Msg.setCookie,
    Mem.set8_of_ne _ (by omega)]
  exact Mem.set8_self _ _ _

theorem Hello.msg_message (m : Mem) (msg : Nat) : Msg.msg (t.message m msg) msg = Msg.MSG_HELLO :=
  Mem.set8_self _ _ _

theorem Hello.cookie_message (m : Mem) (msg : Nat) :
    Msg.cookie (t.message m msg) msg = UInt8.ofInt t.clientCookie := by
  rw [Msg.cookie, message, Msg.setMsg, Mem.set8_of_ne _ (by omega)]
  exact Mem.set8_self _ _ _

theorem Hello.func_data (pkt : Packet) (r : Rand) : (t.func config pkt r).pkt.data
    = t.udpHeader config (t.ipHeader config (pkt.data.clear pkt.dataLen.toNat) sizeofEthernet) 34 := by
  have hudp : IPv4.getPayload
      (t.ipHeader config (pkt.data.clear pkt.dataLen.toNat) sizeofEthernet) sizeofEthernet = 34 := by
    unfold IPv4.getPayload
    rw [t.ihl_ipHeader]
    rfl
  rw [← hudp]
  rfl

theorem Hello.func_msg (pkt : Packet) (r : Rand) : (t.func config pkt r).pkt.msg = 42 := by
  unfold Packet.msg Packet.udp IPv4.getPayload IPv4.ihl
  rw [t.func_data, t.udpHeader_of_lt config (by decide) (by decide)]
  show 14 + 4 * (IPv4.ihl (t.ipHeader config _ sizeofEthernet) sizeofEthernet).toNat + 8 = 42
  rw [t.ihl_ipHeader]
  rfl

theorem Hello.func_clear (pkt : Packet) (r : Rand) : (t.func config pkt r).pkt.Clear := by
  have h := t.func_msg config pkt r
  rw [Packet.msg_eq, Packet.udp_eq] at h
  unfold Packet.Clear
  omega

end HelloBye2.Client

namespace HelloBye2

variable (pkt : Packet) (r : Rand)

/-! ### The server -/

namespace Server

open MoonState.Server

theorem Hello.func_eq (t : Hello) : t.func pkt r =
    if pkt.Says Msg.ROLE_CLIENT Msg.MSG_HELLO then
      ⟨{ t with clientCookie := some pkt.cookie }, some States.Bye,
        pkt.reply Msg.ROLE_SERVER Msg.MSG_HELLO t.serverCookie, r, false⟩
    else ⟨t, some States.Terminate, pkt, r, true⟩ := by
  unfold func
  by_cases hrole : Msg.role pkt.data pkt.msg = Msg.ROLE_CLIENT
  · by_cases hmsg : Msg.msg pkt.data pkt.msg = Msg.MSG_HELLO
    · exact (if_neg (not_not.mpr hrole)).trans
        ((if_neg (not_not.mpr hmsg)).trans (if_pos ⟨hrole, hmsg⟩).symm)
    · exact (if_neg (not_not.mpr hrole)).trans
        ((if_pos hmsg).trans (if_neg fun hc => hmsg hc.2).symm)
  · exact (if_pos hrole).trans (if_neg fun hc => hrole hc.1).symm

theorem Hello.run_eq (t : Hello) : Hello.run (.to (.hello t)) pkt r = some
    (if pkt.Says Msg.ROLE_CLIENT Msg.MSG_HELLO then
      ⟨.to (.bye ⟨pkt.cookie.toNat, t.serverCookie.toNat⟩), some States.Bye,
        pkt.reply Msg.ROLE_SERVER Msg.MSG_HELLO t.serverCookie, r, false⟩
    else ⟨.dangling, some States.Terminate, pkt, r, true⟩) := by
  unfold run
  dsimp only
  rw [t.func_eq]
  by_cases hsaid : pkt.Says Msg.ROLE_CLIENT Msg.MSG_HELLO
  · rw [if_pos hsaid, if_pos hsaid]
    rfl
  · rw [if_neg hsaid, if_neg hsaid]
    rfl

theorem Bye.func_eq (t : Bye) : t.func pkt r =
    if pkt.Says Msg.ROLE_CLIENT Msg.MSG_BYE ∧ (pkt.cookie.toNat : Int) = t.serverCookie then
      ⟨t, some States.Terminate,
        pkt.reply Msg.ROLE_SERVER Msg.MSG_BYE (UInt8.ofInt t.clientCookie), r, false⟩
    else ⟨t, some States.Terminate, pkt, r, true⟩ := by
  unfold func
  by_cases hsaid : pkt.Says Msg.ROLE_CLIENT Msg.MSG_BYE
  · have hno : ¬(Msg.role pkt.data pkt.msg ≠ Msg.ROLE_CLIENT ∨
        Msg.msg pkt.data pkt.msg ≠ Msg.MSG_BYE) := fun hc => hc.elim (· hsaid.1) (· hsaid.2)
    by_cases hcookie : (pkt.cookie.toNat : Int) = t.serverCookie
    · refine ((if_neg hno).trans (if_neg (not_not.mpr hcookie))).trans
        (Eq.trans ?_ (if_pos ⟨hsaid, hcookie⟩).symm)
      exact congrArg (fun q => (⟨t, some States.Terminate, q, r, false⟩ : Answer Bye Packet Rand))
        (pkt.reply_eq _ _ rfl)
    · exact (if_neg hno).trans ((if_pos hcookie).trans (if_neg fun hc => hcookie hc.2).symm)
  · exact (if_pos (not_and_or.mp hsaid)).trans (if_neg fun hc => hsaid hc.1).symm

theorem Bye.run_eq (t : Bye) : Bye.run (.to (.bye t)) pkt r = some
    (if pkt.Says Msg.ROLE_CLIENT Msg.MSG_BYE ∧ (pkt.cookie.toNat : Int) = t.serverCookie then
      ⟨.dangling, some States.Terminate,
        pkt.reply Msg.ROLE_SERVER Msg.MSG_BYE (UInt8.ofInt t.clientCookie), r, false⟩
    else ⟨.dangling, some States.Terminate, pkt, r, true⟩) := by
  unfold run
  dsimp only
  rw [t.func_eq]
  by_cases h : pkt.Says Msg.ROLE_CLIENT Msg.MSG_BYE ∧ (pkt.cookie.toNat : Int) = t.serverCookie
  · rw [if_pos h, if_pos h]
    rfl
  · rw [if_neg h, if_neg h]
    rfl

end Server

/-! ### The client -/

namespace Client

open MoonState.Client

theorem Hello.run_eq (config : HelloBye2ClientConfig) (t : Hello) :
    Hello.run config (.to (.hello t)) pkt r
      = some ⟨.to (.bye ⟨t.clientCookie, none⟩), some States.Bye, (t.func config pkt r).pkt, r,
        false⟩ :=
  rfl

theorem Bye.func_eq (t : Bye) : t.func pkt r =
    if pkt.Says Msg.ROLE_SERVER Msg.MSG_HELLO then
      ⟨{ t with serverCookie := some (pkt.cookie.toNat : Int) }, some States.RecvBye,
        pkt.reply Msg.ROLE_CLIENT Msg.MSG_BYE pkt.cookie, r, false⟩
    else ⟨t, some States.Terminate, pkt, r, true⟩ := by
  unfold func
  by_cases hsaid : pkt.Says Msg.ROLE_SERVER Msg.MSG_HELLO
  · have hno : ¬(Msg.role pkt.data pkt.msg ≠ Msg.ROLE_SERVER ∨
        Msg.msg pkt.data pkt.msg ≠ Msg.MSG_HELLO) := fun hc => hc.elim (· hsaid.1) (· hsaid.2)
    refine (if_neg hno).trans (Eq.trans ?_ (if_pos hsaid).symm)
    exact congrArg (fun q => (⟨{ t with serverCookie := some (pkt.cookie.toNat : Int) },
      some States.RecvBye, q, r, false⟩ : Answer Bye Packet Rand))
        (pkt.reply_eq _ _ (ofInt_toNat pkt.cookie))
  · exact (if_pos (not_and_or.mp hsaid)).trans (if_neg hsaid).symm

theorem Bye.run_eq (t : Bye) : Bye.run (.to (.bye t)) pkt r = some
    (if pkt.Says Msg.ROLE_SERVER Msg.MSG_HELLO then
      ⟨.to (.recvBye ⟨t.clientCookie, pkt.cookie.toNat⟩), some States.RecvBye,
        pkt.reply Msg.ROLE_CLIENT Msg.MSG_BYE pkt.cookie, r, false⟩
    else ⟨.dangling, some States.Terminate, pkt, r, true⟩) := by
  unfold run
  dsimp only
  rw [t.func_eq]
  by_cases hsaid : pkt.Says Msg.ROLE_SERVER Msg.MSG_HELLO
  · rw [if_pos hsaid, if_pos hsaid]
    rfl
  · rw [if_neg hsaid, if_neg hsaid]
    rfl

/-- The last packet is freed and the connection ends, whether the cookie is right or not. -/
theorem RecvBye.run_eq (t : RecvBye) : RecvBye.run (.to (.recvBye t)) pkt r
    = some ⟨.dangling, some States.Terminate, pkt, r, true⟩ := by
  have h : t.func pkt r = ⟨t, some States.Terminate, pkt, r, true⟩ := by
    unfold RecvBye.func
    dsimp only
    split
    · rfl
    · split <;> rfl
  unfold RecvBye.run
  dsimp only
  rw [h]
  rfl

end Client

end HelloBye2

end MoonState
