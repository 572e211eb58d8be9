/-
The payload of a segment.

A received frame describes its payload by three length fields: the total length,
the IHL and the data offset.  `runEst` computes the length of the payload twice,
once with the offset it received and once after it has set the offset to 5, takes
the payload to start 20 bytes into the TCP header, and subtracts in 16 bits.

So what it does is right for a header of 20 bytes whose lengths add up, and for
no other.  With an IHL below 2 turning the packet around overwrites length fields
before they are read; then the fields as they are read decide.
-/
import MoonState.Proofs.Tcp

namespace MoonState.TCP

open Headers

variable {σ κ : Type}

namespace Mbuf

def ihl (f : Mbuf) : Nat := (IPv4.ihl f.data sizeofEthernet).toNat

/-- Where the payload starts, by the fields of the frame. -/
def payloadStart (f : Mbuf) : Nat := f.tcp + (Tcp.getHeaderLen f.data f.tcp).toNat

/-- Where it ends. -/
def payloadEnd (f : Mbuf) : Nat := sizeofEthernet + (f.data.get16 (sizeofEthernet + 2)).toNat

/-- The fields describe a range inside the frame. -/
def Describes (f : Mbuf) : Prop :=
  f.payloadStart ≤ f.payloadEnd ∧ f.payloadEnd ≤ f.dataLen.toNat

instance (f : Mbuf) : Decidable f.Describes :=
  inferInstanceAs (Decidable (_ ∧ _))

def fin (f : Mbuf) : Bool := Tcp.getFinFlag f.data f.tcp

end Mbuf

/-- The sequence number a FIN takes. -/
def finLen (fin : Bool) : UInt32 := if fin then 1 else 0

/-- What was handed over is the payload, and `seqRemote` advances by it. -/
def Bounded (c : Connection σ κ) (f : Mbuf) (o : Outcome σ κ) : Prop :=
  if f.Describes then
    o.handed = f.data.read f.payloadStart (f.payloadEnd - f.payloadStart) ∧
      o.conn.seqRemote
        = c.seqRemote + UInt32.ofNat (f.payloadEnd - f.payloadStart) + finLen f.fin
  else o.handed = [] ∧ o.conn.seqRemote = c.seqRemote

/-! ### What `runEst` does about the payload -/

section swapped

variable {f : Mbuf}

theorem Mbuf.tcp_eq (f : Mbuf) : f.tcp = 14 + 4 * f.ihl := rfl

theorem Mbuf.ihl_lt (f : Mbuf) : f.ihl < 16 := by
  unfold ihl
  rw [IPv4.ihl_toNat]
  omega

theorem Mbuf.swapped_of_ge {j : Nat} (h34 : 34 ≤ j) (h : f.tcp + 4 ≤ j) :
    f.swapped j = f.data j :=
  swapAddresses_of_ne (by unfold sizeofEthernet; omega) (Or.inr h)

/-- From an IHL of 2 on the fields that are read are those that were received. -/
theorem Mbuf.swapped_of_ihl (h : 2 ≤ f.ihl) : f.swapped 14 = f.data 14 ∧
    f.swapped.get16 16 = f.data.get16 16 ∧ f.swapped (f.tcp + 12) = f.data (f.tcp + 12) ∧
    f.swapped (f.tcp + 13) = f.data (f.tcp + 13) := by
  have ht := f.tcp_eq
  have hlow : ∀ j, 14 ≤ j → j < 22 → f.swapped j = f.data j := fun j _ hj =>
    swapAddresses_of_ne (Or.inl (by unfold sizeofEthernet; omega)) (Or.inl (by omega))
  exact ⟨hlow 14 (by omega) (by omega), Mem.Same.get16 fun j hj hj' => hlow j (by omega) (by omega),
    f.swapped_of_ge (by omega) (by omega), f.swapped_of_ge (by omega) (by omega)⟩

/-- The header of the answer leaves the lengths alone. -/
theorem getPayloadLength_answerHeader (c : Connection σ κ) (m : Mem) {ip tcp : Nat} (h : ip ≤ tcp) :
    IPv4.getPayloadLength (answerHeader c m tcp) ip = IPv4.getPayloadLength m ip := by
  have hlow : ∀ j, j < ip + 4 → answerHeader c m tcp j = m j := fun j hj =>
    answerHeader_of_ne (Or.inl (by omega))
  unfold IPv4.getPayloadLength IPv4.ihl
  rw [hlow ip (by omega), Mem.Same.get16 fun j hj hj' => hlow j (by omega)]

end swapped

variable {proto : Proto σ} {conCtl : ConCtl κ} {c : Connection σ κ} {f : Mbuf}

/-- **What is handed to the protocol**: the bytes behind a header of 20 bytes, as many as the
lengths say, in 16 bits. -/
theorem runEst_handed (h : Expected c f) : (runEst proto conCtl c f).handed
    = f.data.read (f.tcp + 20) (IPv4.getPayloadLength f.swapped 14 - 20).toNat := by
  rw [runEst_of_expected proto conCtl h, serve_handed]
  have ht := f.tcp_eq
  have hlen : ∀ c : Connection σ κ, payloadLen (answerHeader c f.swapped f.tcp) 14 f.tcp
      = IPv4.getPayloadLength f.swapped 14 - 20 := by
    intro c
    unfold payloadLen
    rw [getPayloadLength_answerHeader _ _ (by omega), getHeaderLen_answerHeader]
    rfl
  unfold delivery deliver
  dsimp only [sizeofEthernet]
  rw [hlen]
  split
  · refine Mem.read_congr fun j hj _ => ?_
    rw [answerHeader_of_ne (Or.inr (by unfold Tcp.getPayload sizeofTcp at hj; omega))]
    exact f.swapped_of_ge (by unfold Tcp.getPayload sizeofTcp at hj; omega)
      (by unfold Tcp.getPayload sizeofTcp at hj; omega)
  · rename_i hz
    have hzero : (IPv4.getPayloadLength f.swapped 14 - 20).toNat = 0 := by
      rw [gt_iff_lt, UInt16.lt_iff_toNat_lt] at hz
      simpa using hz
    rw [hzero]
    rfl

/-- **What `seqRemote` becomes.** -/
theorem runEst_seqRemote (h : Expected c f) : (runEst proto conCtl c f).conn.seqRemote
    = c.seqRemote + (payloadLen f.swapped 14 f.tcp).toUInt32
      + finLen (Tcp.getFinFlag f.swapped f.tcp) := by
  rw [runEst_of_expected proto conCtl h, serve_seqRemote]
  unfold Connection.advance finLen
  dsimp only [sizeofEthernet]
  rw [← h.2]
  split
  · rfl
  · exact (UInt32.add_zero _).symm

/-! ### When that is the payload -/

/-- The lengths as they are read once the packet is turned around give the range the frame
describes, or nothing where it describes none. -/
structure Mbuf.ReadRight (f : Mbuf) : Prop where
  headerLen : (Tcp.getHeaderLen f.swapped f.tcp).toNat = 20
  length : (IPv4.getPayloadLength f.swapped 14).toNat
    = (20 + (if f.Describes then f.payloadEnd - f.payloadStart else 0)) % 65536
  bytes : f.Describes → f.data.read (f.tcp + 20) (f.payloadEnd - f.payloadStart)
    = f.data.read f.payloadStart (f.payloadEnd - f.payloadStart)
  fin : Tcp.getFinFlag f.swapped f.tcp = (decide f.Describes && f.fin)

/-- The header has 20 bytes, and either the lengths describe a range or there is nothing to
describe. -/
def Mbuf.Plain (f : Mbuf) : Prop :=
  (Tcp.getHeaderLen f.data f.tcp).toNat = 20 ∧ f.payloadStart ≤ f.payloadEnd ∧
    (f.payloadEnd ≤ f.dataLen.toNat ∨ (f.payloadEnd = f.payloadStart ∧ f.fin = false))

theorem finLen_toNat (b : Bool) : (finLen b).toNat = b.toNat := by
  cases b <;> rfl

theorem payloadLen_toNat (m : Mem) (ip tcp : Nat) : (payloadLen m ip tcp).toNat
    = ((IPv4.getPayloadLength m ip).toNat + 65536 - (Tcp.getHeaderLen m tcp).toNat) % 65536 := by
  unfold payloadLen
  have hh := Tcp.getHeaderLen_toNat m tcp
  have hb := (m (tcp + 12)).toNat_lt
  rw [UInt16.toNat_sub, UInt8.toNat_toUInt16]
  congr 1
  omega

/-- The arithmetic of the two lengths: `a` is the IP payload length, `h` the header length and
`n` the length that is described. -/
theorem lengths_iff {a h q n : Nat} {b b' : Bool} (hh : h = q * 4) (hq : q < 16)
    (hn : n < 65536) (ha : a < 65536) :
    ((a + 65516) % 65536 = n ∧ (a + 65536 - h) % 65536 + b'.toNat = n + b.toNat) ↔
      (h = 20 ∧ a = (20 + n) % 65536 ∧ b' = b) := by
  have hb : b.toNat ≤ 1 := Bool.toNat_le b
  have hb' : b'.toNat ≤ 1 := Bool.toNat_le b'
  constructor
  · rintro ⟨hlen, hadv⟩
    -- the FIN is one byte at most, and header lengths differ by four
    have h20 : h = 20 := by omega
    have hbb : b'.toNat = b.toNat := by omega
    refine ⟨h20, by omega, ?_⟩
    cases b <;> cases b' <;> simp_all
  · rintro ⟨rfl, rfl, rfl⟩
    exact ⟨by omega, by omega⟩

theorem seqRemote_iff (c : UInt32) {x n : Nat} (b b' : Bool) {y : UInt16} (hy : y.toNat = x)
    (hn : n < 65536) : c + y.toUInt32 + finLen b' = c + UInt32.ofNat n + finLen b ↔
      x + b'.toNat = n + b.toNat := by
  have hb : b.toNat ≤ 1 := Bool.toNat_le b
  have hb' : b'.toNat ≤ 1 := Bool.toNat_le b'
  have hc := c.toNat_lt
  have hx := y.toNat_lt
  rw [← UInt32.toNat_inj]
  simp only [UInt32.toNat_add, UInt16.toNat_toUInt32, finLen_toNat, UInt32.toNat_ofNat', hy]
  omega

theorem Mbuf.payloadLen_lt (f : Mbuf) : f.payloadEnd - f.payloadStart < 65536 := by
  have ht := f.tcp_eq
  have htot := (f.data.get16 (sizeofEthernet + 2)).toNat_lt
  unfold payloadEnd payloadStart
  have : sizeofEthernet = 14 := rfl
  omega

/-- As read, whatever the IHL. -/
theorem bounded_iff_readRight (h : Expected c f) :
    Bounded c f (runEst proto conCtl c f) ↔ f.ReadRight := by
  have ha := (IPv4.getPayloadLength f.swapped 14).toNat_lt
  have hh := Tcp.getHeaderLen_toNat f.swapped f.tcp
  have hq : (f.swapped (f.tcp + 12)).toNat / 16 < 16 := by
    have := (f.swapped (f.tcp + 12)).toNat_lt
    omega
  have hlen : (IPv4.getPayloadLength f.swapped 14 - 20).toNat
      = ((IPv4.getPayloadLength f.swapped 14).toNat + 65516) % 65536 := by
    rw [UInt16.toNat_sub]
    show (65536 - 20 + _) % 65536 = _
    congr 1
    omega
  have hadv := payloadLen_toNat f.swapped 14 f.tcp
  unfold Bounded
  rw [runEst_handed h, runEst_seqRemote h, hlen]
  by_cases hd : f.Describes
  · have hn := f.payloadLen_lt
    rw [if_pos hd, seqRemote_iff c.seqRemote _ _ hadv hn]
    constructor
    · rintro ⟨hbytes, hseq⟩
      have hsame := congrArg List.length hbytes
      rw [Mem.length_read, Mem.length_read] at hsame
      obtain ⟨h20, hL, hf⟩ := (lengths_iff hh hq hn ha).mp ⟨hsame, hseq⟩
      rw [hsame] at hbytes
      exact ⟨h20, by rw [if_pos hd]; exact hL, fun _ => hbytes, by simp [hd, hf]⟩
    · rintro ⟨h20, hL, hbytes, hf⟩
      rw [if_pos hd] at hL
      obtain ⟨hsame, hseq⟩ := (lengths_iff hh hq hn ha).mpr ⟨h20, hL, by simpa [hd] using hf⟩
      exact ⟨by rw [hsame]; exact hbytes hd, hseq⟩
  · have hzero : c.seqRemote = c.seqRemote + UInt32.ofNat 0 + finLen false := by
      show _ = c.seqRemote + 0 + 0
      rw [UInt32.add_zero, UInt32.add_zero]
    have hseq := seqRemote_iff c.seqRemote false (Tcp.getFinFlag f.swapped f.tcp) hadv
      (show 0 < 65536 by omega)
    rw [← hzero] at hseq
    rw [if_neg hd, hseq]
    constructor
    · rintro ⟨hbytes, hseq⟩
      have hsame := congrArg List.length hbytes
      rw [Mem.length_read] at hsame
      obtain ⟨h20, hL, hf⟩ := (lengths_iff hh hq (by omega) ha).mp ⟨hsame, hseq⟩
      exact ⟨h20, by rw [if_neg hd]; exact hL, fun hc => absurd hc hd, by simp [hd, hf]⟩
    · rintro ⟨h20, hL, -, hf⟩
      rw [if_neg hd] at hL
      obtain ⟨hsame, hseq⟩ := (lengths_iff hh hq (by omega) ha).mpr ⟨h20, hL, by simpa [hd] using hf⟩
      exact ⟨by rw [hsame]; rfl, hseq⟩

/-- From an IHL of 2 on the fields are read as they were received. -/
theorem Mbuf.readRight_iff (h : 2 ≤ f.ihl) : f.ReadRight ↔ f.Plain := by
  obtain ⟨hihl, htot, hoff, hflags⟩ := f.swapped_of_ihl h
  have hhdr : Tcp.getHeaderLen f.swapped f.tcp = Tcp.getHeaderLen f.data f.tcp :=
    Tcp.getHeaderLen_congr hoff
  have hfin : Tcp.getFinFlag f.swapped f.tcp = f.fin := by
    unfold fin Tcp.getFinFlag
    rw [Tcp.flags_congr hflags]
  have ht := f.tcp_eq
  have hlt := f.ihl_lt
  have htl := (f.data.get16 16).toNat_lt
  have hlen : (IPv4.getPayloadLength f.swapped 14).toNat
      = ((f.data.get16 16).toNat + 65536 - 4 * f.ihl) % 65536 := by
    have hi : (IPv4.ihl f.swapped 14).toNat = f.ihl := by
      unfold IPv4.ihl
      rw [hihl]
      rfl
    unfold IPv4.getPayloadLength
    rw [UInt16.toNat_sub, UInt16.toNat_mul, UInt8.toNat_toUInt16, hi, htot]
    show (65536 - f.ihl * 4 % 65536 + _) % 65536 = _
    omega
  have hstart : f.payloadStart = f.tcp + (Tcp.getHeaderLen f.data f.tcp).toNat := rfl
  have hend : f.payloadEnd = 14 + (f.data.get16 16).toNat := rfl
  have hd : f.Describes ↔ f.payloadStart ≤ f.payloadEnd ∧ f.payloadEnd ≤ f.dataLen.toNat := Iff.rfl
  constructor
  · rintro ⟨h20, hL, -, hf⟩
    rw [hhdr] at h20
    rw [hlen] at hL
    by_cases hdesc : f.Describes
    · exact ⟨h20, hdesc.1, Or.inl hdesc.2⟩
    · rw [if_neg hdesc] at hL
      refine ⟨h20, by omega, Or.inr ⟨by omega, ?_⟩⟩
      rw [← hfin, hf]
      simp [hdesc]
  · rintro ⟨h20, hle, hor⟩
    have hbytes : f.tcp + 20 = f.payloadStart := by rw [hstart, h20]
    refine ⟨by rw [hhdr]; exact h20, ?_, fun _ => by rw [hbytes], ?_⟩
    · rw [hlen]
      by_cases hdesc : f.Describes
      · rw [if_pos hdesc]
        omega
      · rw [if_neg hdesc]
        have := hor.resolve_left (fun hc => hdesc ⟨hle, hc⟩)
        omega
    · rw [hfin]
      by_cases hdesc : f.Describes
      · simp [hdesc]
      · have := hor.resolve_left (fun hc => hdesc ⟨hle, hc⟩)
        simp [hdesc, this.2]

/-- The frames whose payload is handed over right. -/
def Mbuf.Sound (f : Mbuf) : Prop := if 2 ≤ f.ihl then f.Plain else f.ReadRight

/--
**When the payload is what the frame describes.**

For every connection, protocol and congestion control, and every frame that is
accepted as the expected segment, whatever its length fields.
-/
theorem runEst_bounded_iff (proto : Proto σ) (conCtl : ConCtl κ) (c : Connection σ κ) (f : Mbuf)
    (h : Expected c f) : Bounded c f (runEst proto conCtl c f) ↔ f.Sound := by
  unfold Mbuf.Sound
  split
  · rename_i hihl
    rw [bounded_iff_readRight h, Mbuf.readRight_iff hihl]
  · exact bounded_iff_readRight h

/-! ### Options are handed over as payload -/

/-- The packet with these bytes. -/
def Mbuf.ofBytes (bs : List UInt8) : Mbuf where
  data := fun i => (bs[i]?).getD 0
  dataLen := UInt16.ofNat bs.length

/-- An IPv4 header of 20 bytes between two hosts, with the total length `tot`. -/
def ipv4Bytes (tot : UInt8) : List UInt8 :=
  [0x45, 0, 0, tot, 0, 0, 0, 0, 64, 6, 0, 0, 10, 0, 0, 1, 10, 0, 0, 2]

/-- A TCP header from port 1234 to port 80. -/
def tcpBytes (seq ack offset flags window : UInt8) : List UInt8 :=
  [4, 210, 0, 80, 0, 0, 0, seq, 0, 0, 0, ack, offset, flags, 0, window, 0, 0, 0, 0]

/-- A segment that is no more than an ACK, with four bytes of options. -/
def options : Mbuf :=
  .ofBytes (List.replicate 14 0 ++ ipv4Bytes 44 ++ tcpBytes 8 1 0x60 0x10 32 ++ [1, 1, 1, 0])

/-- A connection that expects sequence number 8. -/
def expecting : Connection Unit AckCount :=
  { factory TcpProtoJoke TcpConCtlSimple with seqLocal := 1, seqRemote := 8 }

theorem runEst_bounded_iff_options :
    Bounded expecting options (runEst TcpProtoJoke TcpConCtlSimple expecting options) ↔
      options.Sound :=
  runEst_bounded_iff TcpProtoJoke TcpConCtlSimple expecting options (by decide)

/-- The frame has no payload, and the protocol is handed the four bytes of its options. -/
theorem runEst_not_bounded : Expected expecting options ∧
    ¬ Bounded expecting options (runEst TcpProtoJoke TcpConCtlSimple expecting options) := by
  refine ⟨by decide, ?_⟩
  unfold Bounded
  rw [if_pos (by decide)]
  rintro ⟨hbytes, -⟩
  exact absurd (congrArg List.length hbytes) (by decide)

end MoonState.TCP
