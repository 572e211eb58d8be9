/-
What a `BufArray` stands for.

It is a list of packets, each with a mark.  `slots` reads that list off the two
arrays: it looks at the packets there are and at no slack slot, so what growing
leaves behind the last packet does not show.  Each call of the source is one plain
function on the list, and a sequence of calls is their composition.
-/
import Mathlib.Data.List.GetD
import MoonState.Proofs.BufArray

namespace MoonState.BufArray

variable {P : Type}

/-- The packets in index order, each with whether it is sent. -/
def slots (ba : BufArray P) : List (P × Bool) := ba.pkts.zip ba.sendMask

theorem length_slots (ba : BufArray P) : ba.slots.length = ba.numBufs := by
  simp [slots, numBufs, ba.fits]

theorem getElem?_slots (ba : BufArray P) (i : Nat) :
    ba.slots[i]? = (ba.pkts[i]?).map fun p => (p, ba.sends i) := by
  by_cases hi : i < ba.pkts.length
  · have hmask : i < ba.sendMask.length := Nat.lt_of_lt_of_le hi ba.fits
    simp [slots, sends_eq, hi, hmask]
  · have hslots : ba.slots.length ≤ i := by
      rw [length_slots]
      exact Nat.not_lt.mp hi
    simp [List.getElem?_eq_none hslots, List.getElem?_eq_none (Nat.not_lt.mp hi)]

/-- Two arrays with the same packets and marks stand for the same. -/
theorem slots_ext {ba : BufArray P} {l : List (P × Bool)}
    (h : ∀ i, (ba.pkts[i]?).map (fun p => (p, ba.sends i)) = l[i]?) : ba.slots = l := by
  refine List.ext_getElem? fun i => ?_
  rw [getElem?_slots, h]

/-- The packet of an array of one. -/
theorem get_new_seven : ((new [7]).get isSome_new_seven).get 0 = .ok 7 := by
  have hba : new [7] = some ((new [7]).get isSome_new_seven) :=
    (Option.some_get isSome_new_seven).symm
  unfold get
  rw [(new_eq_some hba).2.2.1]
  rfl

theorem slots_new {pkts : List P} {ba : BufArray P} (h : new pkts = some ba) :
    ba.slots = pkts.map fun p => (p, true) := by
  obtain ⟨-, -, hpkts, -⟩ := new_eq_some h
  apply slots_ext
  intro i
  rw [hpkts, List.getElem?_map]
  by_cases hi : i < pkts.length
  · rw [sends_new h hi]
  · simp [Nat.not_lt.mp hi]

/-! ### The calls -/

/-- A mark function changes the mark of its own slot. -/
theorem slots_mark {ndebug : Bool} {ba ba' : BufArray P} {idx : Nat} {b : Bool}
    (h : ba.mark ndebug idx b = .ok ba') :
    ba'.slots = ba.slots.modify idx fun x => (x.1, b) := by
  obtain ⟨hpkts, -, hsends⟩ := mark_eq_ok h
  apply slots_ext
  intro i
  rw [hpkts, hsends, List.getElem?_modify, getElem?_slots]
  cases hp : ba.pkts[i]? with
  | none => rfl
  | some p =>
      have hlt : i < ba.numBufs := (List.getElem?_eq_some_iff.mp hp).1
      by_cases hi : idx = i
      · subst hi
        simp [hlt]
      · simp [hi, Ne.symm hi]

theorem slots_addPkt {ba ba' : BufArray P} {pkt : P} (h : ba.addPkt pkt = .ok ba') :
    ba'.slots = ba.slots ++ [(pkt, true)] := by
  obtain ⟨hpkts, hsends⟩ := addPkt_eq_ok h
  apply slots_ext
  intro i
  rw [hpkts, hsends, List.getElem?_append, List.getElem?_append, length_slots, getElem?_slots]
  by_cases hi : i < ba.numBufs
  · have hne : i ≠ ba.numBufs := Nat.ne_of_lt hi
    simp [hi, hne, show i < ba.pkts.length from hi]
  · have hge : ¬ i < ba.pkts.length := hi
    rw [if_neg hi, if_neg hge]
    by_cases heq : i = ba.numBufs
    · simp [heq, numBufs]
    · have hpos : 1 ≤ i - ba.numBufs := by omega
      have hnil : [pkt][i - ba.pkts.length]? = none := by
        rw [List.getElem?_eq_none]
        exact hpos
      have hnil' : [(pkt, true)][i - ba.numBufs]? = none := by
        rw [List.getElem?_eq_none]
        exact hpos
      rw [hnil, hnil']
      rfl

variable [DecidableEq P]

theorem dropIf_eq (pkt : P) (ba : BufArray P) (idx : Nat) :
    (dropIf pkt ba idx).pkts = ba.pkts ∧
      ∀ i, (dropIf pkt ba idx).sends i
        = if i = idx ∧ ba.pkts[i]? = some pkt then false else ba.sends i := by
  unfold dropIf
  by_cases hlt : idx < ba.numBufs
  · rw [dif_pos hlt]
    have hget : ba.pkts[idx]? = some (ba.pkts.get ⟨idx, hlt⟩) := List.getElem?_eq_getElem hlt
    by_cases hp : pkt = ba.pkts.get ⟨idx, hlt⟩
    · rw [if_pos hp]
      refine ⟨rfl, fun i => ?_⟩
      rw [sends_setMark]
      by_cases hi : i = idx
      · rw [if_pos hi, if_pos ⟨hi, by rw [hi, hget, hp]⟩]
      · rw [if_neg hi, if_neg fun hc => hi hc.1]
    · rw [if_neg hp]
      refine ⟨rfl, fun i => ?_⟩
      rw [if_neg]
      intro hc
      rw [hc.1, hget] at hc
      exact hp (Option.some.inj hc.2).symm
  · rw [dif_neg hlt]
    refine ⟨rfl, fun i => ?_⟩
    rw [if_neg]
    intro hc
    rw [hc.1] at hc
    exact hlt (List.getElem?_eq_some_iff.mp hc.2).1

/-- The loop over some slots, by induction on them: the packets stay, so every slot is compared
with what it held at the start. -/
theorem foldl_dropIf (pkt : P) (l : List Nat) (ba : BufArray P) :
    (l.foldl (dropIf pkt) ba).pkts = ba.pkts ∧
      ∀ i, (l.foldl (dropIf pkt) ba).sends i
        = if i ∈ l ∧ ba.pkts[i]? = some pkt then false else ba.sends i := by
  induction l generalizing ba with
  | nil => simp
  | cons idx l ih =>
      obtain ⟨hpkts, hsends⟩ := dropIf_eq pkt ba idx
      obtain ⟨hrest, hmarks⟩ := ih (dropIf pkt ba idx)
      refine ⟨hrest.trans hpkts, fun i => ?_⟩
      rw [List.foldl_cons, hmarks i, hpkts, hsends i]
      by_cases hp : ba.pkts[i]? = some pkt
      · by_cases hi : i = idx
        · subst hi
          simp [hp]
        · simp [hp, hi]
      · simp [hp]

/-- **A packet pointer drops every slot that holds the packet**, and no other. -/
theorem slots_markDropPktPtr (ba : BufArray P) (pkt : P) :
    (ba.markDropPktPtr pkt).slots = ba.slots.map fun x => if x.1 = pkt then (x.1, false) else x := by
  obtain ⟨hpkts, hsends⟩ := foldl_dropIf pkt (List.range ba.numBufs) ba
  apply slots_ext
  intro i
  unfold markDropPktPtr
  rw [hpkts, hsends, List.getElem?_map, getElem?_slots]
  cases hp : ba.pkts[i]? with
  | none => rfl
  | some p =>
      have hlt : i < ba.numBufs := (List.getElem?_eq_some_iff.mp hp).1
      by_cases heq : p = pkt
      · simp [hlt, heq]
      · simp [heq]

/-! ### The loops read no slack -/

omit [DecidableEq P] in
/-- From slot `i` on, with as many entries left as there are packets with the mark. -/
theorem visited_lt (ba : BufArray P) (want : Bool) (fuel i : Nat) :
    ∀ j ∈ ba.visited want fuel i ((ba.slots.drop i).countP (fun x => x.2 == want)),
      j < ba.numBufs := by
  induction fuel generalizing i with
  | zero =>
      intro j hj
      cases hc : (ba.slots.drop i).countP (fun x => x.2 == want) <;> simp [hc, visited] at hj
  | succ fuel ih =>
      intro j hj
      by_cases hlt : i < ba.numBufs
      · have hslots : i < ba.slots.length := by rwa [length_slots]
        have hpkts : i < ba.pkts.length := hlt
        have hmask : i < ba.sendMask.length := Nat.lt_of_lt_of_le hlt ba.fits
        have hdrop : ba.slots.drop i
            = (ba.pkts[i], ba.sendMask[i]) :: ba.slots.drop (i + 1) := by
          rw [List.drop_eq_getElem_cons hslots]
          simp [slots]
        rw [hdrop, List.countP_cons] at hj
        have hnext := ih (i + 1)
        by_cases hb : ba.sendMask[i] = want
        · simp only [hb, beq_self_eq_true, if_true, visited, List.mem_cons,
            List.getElem?_eq_getElem hmask] at hj
          rcases hj with rfl | hj
          · exact hlt
          · exact hnext j hj
        · have hne : (ba.sendMask[i] == want) = false := by simpa using hb
          simp only [hne, Bool.false_eq_true, if_false, Nat.add_zero] at hj
          cases hc : (ba.slots.drop (i + 1)).countP (fun x => x.2 == want) with
          | zero => simp [hc, visited] at hj
          | succ left =>
              rw [hc] at hj hnext
              simp only [visited, List.mem_cons, List.getElem?_eq_getElem hmask, hb, if_false] at hj
              rcases hj with rfl | hj
              · exact hlt
              · exact hnext j hj
      · have hnil : ba.slots.drop i = [] := by
          rw [List.drop_eq_nil_iff, length_slots]
          exact Nat.not_lt.mp hlt
        simp [hnil, visited] at hj

/-! ### Sequences of calls -/

/-- What a call does to the list of packets. -/
def Change.on (slots : List (P × Bool)) : Change P → List (P × Bool)
  | .markDropPkt pktIdx => slots.modify pktIdx fun x => (x.1, false)
  | .markDropPktPtr pkt => slots.map fun x => if x.1 = pkt then (x.1, false) else x
  | .markSendPkt pktIdx => slots.modify pktIdx fun x => (x.1, true)
  | .addPkt pkt => slots ++ [(pkt, true)]

/-- What a sequence of calls makes of an array of packets. -/
def expected (pkts : List P) (cs : List (Change P)) : List (P × Bool) :=
  cs.foldl Change.on (pkts.map fun p => (p, true))

/-- Number of `addPkt` calls. -/
def added : List (Change P) → Nat
  | [] => 0
  | .addPkt _ :: cs => added cs + 1
  | _ :: cs => added cs

/-- Each index marked is below the count at that time, which is `n` before the first call. -/
def InRange : Nat → List (Change P) → Prop
  | _, [] => True
  | n, .markDropPkt pktIdx :: cs => pktIdx < n ∧ InRange n cs
  | n, .markDropPktPtr _ :: cs => InRange n cs
  | n, .markSendPkt pktIdx :: cs => pktIdx < n ∧ InRange n cs
  | n, .addPkt _ :: cs => InRange (n + 1) cs

/-- The packets of a list with the given mark. -/
def withMark (want : Bool) (l : List (P × Bool)) : List P :=
  (l.filter fun x => x.2 == want).map (·.1)

/-- `ba` stands for `l`: every operation that reads it returns what `l` says. -/
structure Represents (ba : BufArray P) (l : List (P × Bool)) : Prop where
  slots : ba.slots = l
  total : ba.getTotalCount = l.length
  slack : ∀ i, ba.getTotalCount ≤ i → ba.sendMask[i]? ≠ some true
  sent : ba.getSendBufs = some (withMark true l)
  sendCount : (withMark true l).length = ba.getSendCount
  freed : ba.getFreeBufs = some (withMark false l)
  freeCount : (withMark false l).length = ba.getFreeCount
  once : (withMark true l ++ withMark false l).Perm (l.map (·.1))
  readsSend : ∀ i ∈ ba.visited true ba.numSlots 0 ba.getSendCount, i < ba.getTotalCount
  readsFree : ∀ i ∈ ba.visited false ba.numSlots 0 ba.getFreeCount, i < ba.getTotalCount
  /-- one more packet changes no slot there is -/
  kept : ∀ pkt ba', ba.addPkt pkt = .ok ba' →
    ∀ i, i < ba.getTotalCount → ba'.slots[i]? = l[i]?

omit [DecidableEq P] in
theorem represents (ba : BufArray P) : ba.Represents ba.slots where
  slots := rfl
  total := (length_slots ba).symm
  slack := ba.slack
  sent := getSendBufs_eq ba
  sendCount := by
    rw [getSendCount_eq, ← countP_zip, withMark, List.length_map, List.countP_eq_length_filter]
    rfl
  freed := getFreeBufs_eq ba
  freeCount := by
    rw [getFreeCount_eq, ← countP_zip, withMark, List.length_map, List.countP_eq_length_filter]
    rfl
  once := by
    have hfst : ba.slots.map (·.1) = ba.pkts := List.map_fst_zip ba.fits
    rw [hfst]
    exact marked_perm ba
  readsSend := by
    intro j hj
    rw [getSendCount_eq, ← countP_zip] at hj
    exact visited_lt ba true ba.numSlots 0 j hj
  readsFree := by
    intro j hj
    rw [getFreeCount_eq, ← countP_zip] at hj
    exact visited_lt ba false ba.numSlots 0 j hj
  kept := by
    intro pkt ba' h i hi
    have hlt : i < ba.slots.length := by rwa [length_slots]
    rw [slots_addPkt h, List.getElem?_append_left hlt]

theorem length_on (l : List (P × Bool)) (c : Change P) :
    (c.on l).length = l.length + added [c] := by
  cases c <;> simp [Change.on, added]

/-- One call, on an array with room for it. -/
theorem change_eq (ndebug : Bool) {ba : BufArray P} {c : Change P}
    (hin : InRange ba.numBufs [c]) (hroom : ba.numBufs + added [c] < 2 ^ 31) :
    ∃ ba', ba.change ndebug c = .ok ba' ∧ ba'.slots = c.on ba.slots := by
  cases c with
  | markDropPkt pktIdx =>
      have h := mark_of_lt ndebug ba false hin.1
      exact ⟨_, h, slots_mark h⟩
  | markDropPktPtr pkt => exact ⟨_, rfl, slots_markDropPktPtr ba pkt⟩
  | markSendPkt pktIdx =>
      have h := mark_of_lt ndebug ba true hin.1
      exact ⟨_, h, slots_mark h⟩
  | addPkt pkt =>
      have hcap := capacity_ge ba.nonempty
      have hlt : ba.numBufs < capacity ba.numSlots := by
        show ba.numBufs < capacity ba.sendMask.length
        omega
      obtain ⟨ba', h, -⟩ := addPkt_of_lt pkt hlt
      exact ⟨ba', h, slots_addPkt h⟩

omit [DecidableEq P] in
theorem added_cons (c : Change P) (cs : List (Change P)) :
    added (c :: cs) = added [c] + added cs := by
  cases c <;> simp [added, Nat.add_comm]

omit [DecidableEq P] in
theorem inRange_cons {n : Nat} {c : Change P} {cs : List (Change P)} (h : InRange n (c :: cs)) :
    InRange n [c] ∧ InRange (n + added [c]) cs := by
  cases c <;> simpa [InRange, added] using h

/-- A sequence of calls, by induction on it. -/
theorem changes_eq (ndebug : Bool) {ba : BufArray P} {cs : List (Change P)}
    (hin : InRange ba.numBufs cs) (hroom : ba.numBufs + added cs < 2 ^ 31) :
    ∃ ba', ba.changes ndebug cs = .ok ba' ∧ ba'.slots = cs.foldl Change.on ba.slots := by
  induction cs generalizing ba with
  | nil => exact ⟨ba, rfl, rfl⟩
  | cons c cs ih =>
      rw [added_cons] at hroom
      obtain ⟨hc, hcs⟩ := inRange_cons hin
      obtain ⟨ba₁, h₁, hslots⟩ := change_eq ndebug hc (by omega)
      have hnum : ba₁.numBufs = ba.numBufs + added [c] := by
        rw [← length_slots, hslots, length_on, length_slots]
      obtain ⟨ba₂, h₂, hend⟩ := ih (hnum ▸ hcs) (by omega)
      refine ⟨ba₂, ?_, ?_⟩
      · unfold changes
        rw [List.foldlM_cons, h₁]
        exact h₂
      · rw [hend, hslots]
        rfl

theorem length_foldl_on (cs : List (Change P)) (l : List (P × Bool)) :
    (cs.foldl Change.on l).length = l.length + added cs := by
  induction cs generalizing l with
  | nil => rfl
  | cons c cs ih =>
      rw [List.foldl_cons, ih, length_on, added_cons c cs]
      omega

/-- **Representation.**  An array handed to the constructor and changed by any sequence of calls
holds the packets and marks these calls say, and every operation that reads it returns them. -/
theorem changes_represent (ndebug : Bool) (pkts : List P) (cs : List (Change P))
    (hpos : 1 ≤ pkts.length) (hin : InRange pkts.length cs)
    (htotal : pkts.length + added cs < 2 ^ 31) :
    ∃ ba₀ ba, new pkts = some ba₀ ∧ ba₀.changes ndebug cs = .ok ba ∧
      ba.getTotalCount = pkts.length + added cs ∧ ba.Represents (expected pkts cs) := by
  have hnew : ∃ ba₀, new pkts = some ba₀ := ⟨_, dif_pos ⟨hpos, by omega⟩⟩
  obtain ⟨ba₀, hnew⟩ := hnew
  have hslots := slots_new hnew
  have hnum : ba₀.numBufs = pkts.length := by
    rw [← length_slots, hslots, List.length_map]
  obtain ⟨ba, hrun, hend⟩ := changes_eq ndebug (hnum ▸ hin) (hnum ▸ htotal)
  have hexp : ba.slots = expected pkts cs := by
    rw [hend, hslots]
    rfl
  refine ⟨ba₀, ba, hnew, hrun, ?_, hexp ▸ represents ba⟩
  show ba.numBufs = _
  rw [← length_slots, hend, length_foldl_on, hslots, List.length_map]

/-- Three packets, a drop by index, a packet added, a drop by pointer and one taken back. -/
theorem changes_represent_three :
    ∃ ba₀ ba : BufArray Nat, new [7, 8, 7] = some ba₀ ∧
      ba₀.changes false [.markDropPkt 1, .addPkt 7, .markDropPktPtr 7, .markSendPkt 2] = .ok ba ∧
      ba.getTotalCount = 4 ∧
      ba.Represents [(7, false), (8, false), (7, true), (7, false)] :=
  changes_represent false [7, 8, 7] [.markDropPkt 1, .addPkt 7, .markDropPktPtr 7, .markSendPkt 2]
    (by decide) (by simp [InRange]) (by decide)

end MoonState.BufArray
