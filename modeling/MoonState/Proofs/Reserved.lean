/-
Which packets get a reserved key.

The 5-tuple reserves two IDs of protocols it does not identify.  The other identifiers
take the ID out of the message as it is, eight bytes that the peer chooses, and
reserve two of its values.
-/
import MoonState.Model.Identifier

namespace MoonState

open Headers

/-- One of the keys the table keeps for itself. -/
def Identifier.Reserves {F K : Type} (u : Identifier F K) (id : K) : Prop :=
  id = u.getDelKey ∨ id = u.getEmptyKey

instance {F K : Type} [DecidableEq K] (u : Identifier F K) (id : K) : Decidable (u.Reserves id) :=
  inferInstanceAs (Decidable (_ ∨ _))

/-- What `identify` returns for the packet is none of the keys the table keeps for itself. -/
def Identifier.Avoids {F K : Type} (u : Identifier F K) (pkt : F) : Prop :=
  ∀ id, u.identify pkt = some id → id ≠ u.getDelKey ∧ id ≠ u.getEmptyKey

theorem Identifier.avoids_of_identify {F K : Type} {u : Identifier F K} {pkt : F} {id : K}
    (h : u.identify pkt = some id) (hid : ¬ u.Reserves id) : u.Avoids pkt := by
  intro id' hid'
  obtain rfl := Option.some.inj (h.symm.trans hid')
  exact not_or.mp hid

theorem Identifier.Avoids.not_reserves {F K : Type} {u : Identifier F K} {pkt : F} {id : K}
    (h : u.Avoids pkt) (hid : u.identify pkt = some id) : ¬ u.Reserves id :=
  not_or.mpr (h id hid)

/-- The packet is identified, and the eight bytes of its ident are all ones, or all but the lowest
bit of the first. -/
def Packet.ReservedIdent (p : Packet) : Prop :=
  (Ethernet.getEthertype p.data = Ethernet.ETHERTYPE_IPv4 ∧
      IPv4.proto p.data sizeofEthernet = IPv4.PROTO_UDP) ∧
    (p.data p.msg = 0xff ∨ p.data p.msg = 0xfe) ∧
    p.data.read (p.msg + 1) 7 = List.replicate 7 0xff

/-! ### The 5-tuple -/

/-- Only two protocols are identified. -/
theorem IPv4_5TupleL2Ident.identify_proto {m : Mem} {c : ConnectionID} (h : identify m = some c) :
    c.proto = IPPROTO_UDP ∨ c.proto = IPPROTO_TCP := by
  unfold identify at h
  dsimp only at h
  split at h
  · rename_i hudp
    obtain rfl := Option.some.inj h
    exact Or.inl hudp
  · split at h
    · rename_i htcp
      obtain rfl := Option.some.inj h
      exact Or.inr htcp
    · simp at h

theorem IPv4_5TupleL2Ident.avoids (p : Packet) : identifier.Avoids p := by
  intro id hid
  have hproto := identify_proto hid
  constructor
  · rintro rfl
    revert hproto
    decide
  · rintro rfl
    revert hproto
    decide

/-! ### The ident of a message -/

/-- Eight bytes, the first of which is the lowest of the number. -/
theorem Mem.get64_eq_ones_iff {m : Mem} {i : Nat} {v : UInt64} {b : UInt8}
    (hv : (Bytes.ofNatBE 8 v.toNat).reverse = b :: List.replicate 7 0xff) :
    m.get64 i = v ↔ m i = b ∧ m.read (i + 1) 7 = List.replicate 7 0xff := by
  have hread : m.read i 8 = m i :: m.read (i + 1) 7 := rfl
  rw [Mem.get64_eq_iff, hv, hread, List.cons.injEq]

/-- What the identifiers of the messages do. -/
theorem identify_eq_some_iff {p : Packet} {v : UInt64} : identify p = some v ↔
    (Ethernet.getEthertype p.data = Ethernet.ETHERTYPE_IPv4 ∧
      IPv4.proto p.data sizeofEthernet = IPv4.PROTO_UDP) ∧ p.data.get64 p.msg = v := by
  unfold identify
  dsimp only
  by_cases hether : Ethernet.getEthertype p.data = Ethernet.ETHERTYPE_IPv4
  · by_cases hproto : IPv4.proto p.data sizeofEthernet = IPv4.PROTO_UDP
    · simp [hether, hproto, Packet.msg, Packet.udp, Msg.ident]
    · simp [hether, hproto]
  · simp [hether]

/-- An identifier that takes the ident as it is, and reserves its two largest values. -/
theorem Identifier.avoids_iff {u : Identifier Packet UInt64}
    (hident : u.identify = MoonState.identify)
    (hdel : u.getDelKey = .ofNat (2 ^ 64 - 1)) (hempty : u.getEmptyKey = .ofNat (2 ^ 64 - 1) - 1)
    (p : Packet) : u.Avoids p ↔ ¬ p.ReservedIdent := by
  have hdel' := Mem.get64_eq_ones_iff (m := p.data) (i := p.msg) (v := u.getDelKey) (b := 0xff)
    (by rw [hdel]; decide +kernel)
  have hempty' := Mem.get64_eq_ones_iff (m := p.data) (i := p.msg) (v := u.getEmptyKey) (b := 0xfe)
    (by rw [hempty]; decide +kernel)
  unfold Avoids Packet.ReservedIdent
  rw [hident]
  constructor
  · intro h hreserved
    obtain ⟨hframe, hfirst | hfirst, hrest⟩ := hreserved
    · exact (h _ (identify_eq_some_iff.mpr ⟨hframe, rfl⟩)).1 (hdel'.mpr ⟨hfirst, hrest⟩)
    · exact (h _ (identify_eq_some_iff.mpr ⟨hframe, rfl⟩)).2 (hempty'.mpr ⟨hfirst, hrest⟩)
  · intro h id hid
    obtain ⟨hframe, rfl⟩ := identify_eq_some_iff.mp hid
    constructor
    · intro heq
      obtain ⟨hfirst, hrest⟩ := hdel'.mp heq
      exact h ⟨hframe, Or.inl hfirst, hrest⟩
    · intro heq
      obtain ⟨hfirst, hrest⟩ := hempty'.mp heq
      exact h ⟨hframe, Or.inr hfirst, hrest⟩

/--
**Which packets yield a reserved key.**

For every packet: the 5-tuple of it is never one, and its ident is one exactly if the
peer has written one there.
-/
theorem identifiers_avoid (p : Packet) :
    IPv4_5TupleL2Ident.identifier.Avoids p ∧
      (HelloBye2.identifier.Avoids p ↔ ¬ p.ReservedIdent) ∧
      (HelloBye3.identifier.Avoids p ↔ ¬ p.ReservedIdent) ∧
      (HelloBye3MemPool.identifier.Avoids p ↔ ¬ p.ReservedIdent) :=
  ⟨IPv4_5TupleL2Ident.avoids p, Identifier.avoids_iff rfl rfl rfl p,
    Identifier.avoids_iff rfl rfl rfl p, Identifier.avoids_iff rfl rfl rfl p⟩

/-- A hello whose ident is all ones. -/
def allOnes : Packet where
  data := Msg.setIdent (Mem.set8 (Mem.set8 (Mem.set8 (fun _ => 0) 12 8) 14 0x45) 23 17) 42
    (.ofNat (2 ^ 64 - 1))
  dataLen := 100

/-- It is looked up under the key of deleted entries. -/
theorem allOnes_reserved :
    HelloBye3.identifier.identify allOnes = some HelloBye3.identifier.getDelKey ∧
      ¬ HelloBye3.identifier.Avoids allOnes := by
  have hid : HelloBye3.identifier.identify allOnes = some HelloBye3.identifier.getDelKey := by
    decide +kernel
  exact ⟨hid, fun h => (h _ hid).1 rfl⟩

end MoonState
