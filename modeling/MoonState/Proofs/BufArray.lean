/-
What the operations of a `BufArray` do to its packets and marks.

`sends ba i` is the mark of slot `i`.  A mark function changes that one bit, and
`addPkt` appends a packet marked to be sent and touches no slot that was there —
whether or not the array has to grow.  The two extraction loops stop on a count
that is taken over the whole mask; because the bits of the empty slots are clear,
that count is the number of packets with the mark, and the loops return exactly
those, in order.

`capacity` is how far an array can grow by doubling.  `addPkt` fails only on an
array that has reached it, and it is never below `2 ^ 31`.
-/
import Mathlib.Data.Bool.Count
import MoonState.Model.BufArray

namespace MoonState.BufArray

variable {P : Type}

/-- Slot `i` is marked to be sent. -/
def sends (ba : BufArray P) (i : Nat) : Bool := ba.sendMask.getD i false

theorem sends_eq (ba : BufArray P) (i : Nat) : ba.sends i = (ba.sendMask[i]?).getD false :=
  List.getD_eq_getElem?_getD

/-- A slot without a packet is not marked. -/
theorem sends_slack (ba : BufArray P) {i : Nat} (h : ba.numBufs ≤ i) : ba.sends i = false := by
  have hs := ba.slack i h
  rw [sends_eq]
  cases hm : ba.sendMask[i]? with
  | none => rfl
  | some b =>
      cases b with
      | false => rfl
      | true => exact absurd hm hs

/-! ### The constructor -/

theorem new_eq_some {pkts : List P} {ba : BufArray P} (h : new pkts = some ba) :
    0 < pkts.length ∧ pkts.length < 2 ^ 32 ∧ ba.pkts = pkts ∧
      ba.sendMask = List.replicate pkts.length true := by
  unfold new at h
  split at h
  · rename_i hlen
    obtain rfl := Option.some.inj h
    exact ⟨hlen.1, hlen.2, rfl, rfl⟩
  · simp at h

theorem exists_new (pkts : List P) (h : 0 < pkts.length) (hlt : pkts.length < 2 ^ 32) :
    ∃ ba, new pkts = some ba := by
  unfold new
  rw [dif_pos (And.intro h hlt)]
  exact Exists.intro _ rfl

/-- The array of the closed runs: one packet, numbered 7. -/
theorem isSome_new_seven : (new [7]).isSome := rfl

theorem sends_new {pkts : List P} {ba : BufArray P} (h : new pkts = some ba) {i : Nat}
    (hi : i < pkts.length) : ba.sends i = true := by
  obtain ⟨-, -, -, hmask⟩ := new_eq_some h
  simp [sends_eq, hmask, hi]

/-! ### Marking -/

theorem sends_setMark (ba : BufArray P) (idx : Nat) (b : Bool) (h : idx < ba.numBufs) (i : Nat) :
    (ba.setMark idx b h).sends i = if i = idx then b else ba.sends i := by
  have hlt : idx < ba.sendMask.length := Nat.lt_of_lt_of_le h ba.fits
  show (ba.sendMask.set idx b).getD i false = _
  rw [List.getD_eq_getElem?_getD]
  by_cases hi : i = idx
  · subst hi
    rw [List.getElem?_set_self hlt, if_pos rfl]
    rfl
  · rw [List.getElem?_set_ne (fun hc => hi hc.symm), if_neg hi]
    exact (sends_eq ba i).symm

/-- Marking a slot that holds a packet. -/
theorem mark_of_lt (ndebug : Bool) (ba : BufArray P) {idx : Nat} (b : Bool) (h : idx < ba.numBufs) :
    ba.mark ndebug idx b = .ok (ba.setMark idx b h) :=
  dif_pos h

/-- A mark that succeeds changes its own bit, and no packet and no slot count. -/
theorem mark_eq_ok {ndebug : Bool} {ba ba' : BufArray P} {idx : Nat} {b : Bool}
    (h : ba.mark ndebug idx b = .ok ba') :
    ba'.pkts = ba.pkts ∧ ba'.numSlots = ba.numSlots ∧
      ∀ i, ba'.sends i = if i = idx ∧ idx < ba.numBufs then b else ba.sends i := by
  unfold mark at h
  split at h
  · rename_i hlt
    obtain rfl := Except.ok.inj h
    refine ⟨rfl, List.length_set, fun i => ?_⟩
    rw [sends_setMark]
    simp [hlt]
  · rename_i hge
    split at h
    · obtain rfl := Except.ok.inj h
      exact ⟨rfl, rfl, fun i => by simp [hge]⟩
    · simp at h

/-- A mark on a packet of the array is the bit of its slot. -/
theorem sends_of_mark {ndebug : Bool} {ba ba' : BufArray P} {idx : Nat} {b : Bool}
    (hidx : idx < ba.numBufs) (h : ba.mark ndebug idx b = .ok ba') (i : Nat) :
    ba'.sends i = if i = idx then b else ba.sends i := by
  rw [(mark_eq_ok h).2.2]
  by_cases hi : i = idx
  · rw [if_pos ⟨hi, hidx⟩, if_pos hi]
  · rw [if_neg fun hc => hi hc.1, if_neg hi]

/-! ### Adding a packet -/

theorem sends_grow (ba : BufArray P) (h : ba.numSlots < 2 ^ 31) (i : Nat) :
    (ba.grow h).sends i = ba.sends i := by
  show (ba.sendMask ++ List.replicate ba.numSlots false).getD i false = _
  rw [List.getD_eq_getElem?_getD, List.getElem?_append, sends_eq]
  split
  · rfl
  · rename_i hge
    rw [List.getElem?_eq_none (Nat.not_lt.mp hge), List.getElem?_replicate]
    split <;> rfl

theorem sends_append (ba : BufArray P) (pkt : P) (h : ba.numBufs < ba.numSlots) (i : Nat) :
    (ba.append pkt h).sends i = if i = ba.numBufs then true else ba.sends i := by
  show (ba.sendMask.set ba.numBufs true).getD i false = _
  rw [List.getD_eq_getElem?_getD]
  by_cases hi : i = ba.numBufs
  · subst hi
    rw [List.getElem?_set_self h, if_pos rfl]
    rfl
  · rw [List.getElem?_set_ne (fun hc => hi hc.symm), if_neg hi]
    exact (sends_eq ba i).symm

/-- **Adding a packet** appends it, marked to be sent, and leaves every slot alone that held a
packet before. -/
theorem addPkt_eq_ok {ba ba' : BufArray P} {pkt : P} (h : ba.addPkt pkt = .ok ba') :
    ba'.pkts = ba.pkts ++ [pkt] ∧
      ∀ i, ba'.sends i = if i = ba.numBufs then true else ba.sends i := by
  unfold addPkt at h
  split at h
  · obtain rfl := Except.ok.inj h
    exact ⟨rfl, fun i => sends_append ba pkt _ i⟩
  · split at h
    · rename_i hslots
      obtain rfl := Except.ok.inj h
      refine ⟨rfl, fun i => ?_⟩
      rw [sends_append, sends_grow]
      rfl
    · simp at h

/-- The number of slots an array of `slots` slots has when it can double no more. -/
def capacity (slots : Nat) : Nat :=
  if _h : 0 < slots ∧ slots < 2 ^ 31 then capacity (slots * 2) else slots
termination_by 2 ^ 31 - slots

theorem capacity_double {slots : Nat} (h0 : 0 < slots) (h : slots < 2 ^ 31) :
    capacity (slots * 2) = capacity slots := by
  conv_rhs => rw [capacity]
  rw [dif_pos ⟨h0, h⟩]

theorem capacity_full {slots : Nat} (h : 2 ^ 31 ≤ slots) : capacity slots = slots := by
  rw [capacity, dif_neg (by omega)]

theorem le_capacity (slots : Nat) : slots ≤ capacity slots := by
  induction slots using capacity.induct with
  | case1 s hs ih =>
      rw [← capacity_double hs.1 hs.2]
      omega
  | case2 s hs =>
      rw [capacity, dif_neg hs]

theorem capacity_ge {slots : Nat} (h0 : 0 < slots) : 2 ^ 31 ≤ capacity slots := by
  induction slots using capacity.induct with
  | case1 s hs ih =>
      rw [← capacity_double hs.1 hs.2]
      exact ih (by omega)
  | case2 s hs =>
      have hge : 2 ^ 31 ≤ s := by omega
      exact Nat.le_trans hge (le_capacity s)

/-- Adding succeeds below capacity, and keeps the capacity. -/
theorem addPkt_of_lt {ba : BufArray P} (pkt : P) (h : ba.numBufs < capacity ba.numSlots) :
    ∃ ba', ba.addPkt pkt = .ok ba' ∧ capacity ba'.numSlots = capacity ba.numSlots := by
  unfold addPkt
  by_cases hroom : ba.numBufs < ba.numSlots
  · refine ⟨_, dif_pos hroom, ?_⟩
    show capacity (ba.sendMask.set _ _).length = _
    rw [List.length_set]
    rfl
  · by_cases hslots : ba.numSlots < 2 ^ 31
    · refine ⟨_, by rw [dif_neg hroom, dif_pos hslots], ?_⟩
      show capacity ((ba.sendMask ++ List.replicate ba.numSlots false).set _ _).length = _
      rw [List.length_set, List.length_append, List.length_replicate]
      show capacity (ba.numSlots + ba.numSlots) = _
      rw [← Nat.mul_two]
      exact capacity_double ba.nonempty hslots
    · rw [capacity_full (Nat.not_lt.mp hslots)] at h
      exact absurd h hroom

/-- Adding fails at capacity. -/
theorem addPkt_of_ge {ba : BufArray P} (pkt : P) (h : capacity ba.numSlots ≤ ba.numBufs) :
    ba.addPkt pkt = .error .bufOverflow := by
  have hle := le_capacity ba.numSlots
  have hfits : ba.numBufs ≤ ba.numSlots := ba.fits
  have hslots : ¬ ba.numSlots < 2 ^ 31 := by
    intro hlt
    have := capacity_ge ba.nonempty
    show False
    have hnum : ba.numSlots = ba.sendMask.length := rfl
    rw [← hnum] at this
    omega
  unfold addPkt
  rw [dif_neg (by omega), dif_neg hslots]

theorem addPkt_capacity {ba ba' : BufArray P} {pkt : P} (h : ba.addPkt pkt = .ok ba') :
    ba.numBufs < capacity ba.numSlots ∧ capacity ba'.numSlots = capacity ba.numSlots := by
  by_cases hlt : ba.numBufs < capacity ba.numSlots
  · obtain ⟨ba'', hok, hcap⟩ := addPkt_of_lt pkt hlt
    rw [h] at hok
    obtain rfl := Except.ok.inj hok
    exact ⟨hlt, hcap⟩
  · rw [addPkt_of_ge pkt (Nat.not_lt.mp hlt)] at h
    simp at h

/-- The one way adding fails. -/
theorem addPkt_error {ba : BufArray P} {pkt : P} {e : Fault} (h : ba.addPkt pkt = .error e) :
    e = .bufOverflow := by
  by_cases hlt : ba.numBufs < capacity ba.numSlots
  · obtain ⟨ba', hok, -⟩ := addPkt_of_lt pkt hlt
    rw [hok] at h
    simp at h
  · rw [addPkt_of_ge pkt (Nat.not_lt.mp hlt)] at h
    exact (Except.error.inj h).symm

theorem get_of_lt {ba : BufArray P} {idx : Nat} (h : idx < ba.numBufs) :
    ba.get idx = .ok (ba.pkts.get ⟨idx, h⟩) := by
  have hlt : idx < ba.pkts.length := h
  simp only [get, List.getElem?_eq_getElem hlt]
  rfl

theorem get_eq_ok {ba : BufArray P} {idx : Nat} {p : P} (h : ba.get idx = .ok p) :
    ba.pkts[idx]? = some p := by
  unfold get at h
  split at h
  · rename_i q hq
    obtain rfl := Except.ok.inj h
    exact hq
  · simp at h

/-! ### The extraction loops -/

/-- The packets whose mark is `want`, in order. -/
def marked (ba : BufArray P) (want : Bool) : List P :=
  ((ba.pkts.zip ba.sendMask).filter (fun x => x.2 == want)).map (·.1)

/-- The loop, from slot `i` on: with as many entries left to write as there are packets with
the mark from there on, it writes those packets. -/
theorem collect_eq (ba : BufArray P) (want : Bool) :
    ∀ (fuel i : Nat), ba.numSlots ≤ i + fuel →
      ba.collect want fuel i (((ba.pkts.zip ba.sendMask).drop i).countP (fun x => x.2 == want))
        = some ((((ba.pkts.zip ba.sendMask).drop i).filter (fun x => x.2 == want)).map (·.1)) := by
  have hzip : (ba.pkts.zip ba.sendMask).length = ba.pkts.length := by
    have := ba.fits
    simp [List.length_zip]
    omega
  intro fuel
  induction fuel with
  | zero =>
      intro i hi
      have hfits := ba.fits
      have hslots : ba.numSlots = ba.sendMask.length := rfl
      have hnil : (ba.pkts.zip ba.sendMask).drop i = [] :=
        List.drop_eq_nil_of_le (by omega)
      rw [hnil]
      rfl
  | succ fuel ih =>
      intro i hi
      by_cases hlt : i < ba.pkts.length
      · have hmask : i < ba.sendMask.length := Nat.lt_of_lt_of_le hlt ba.fits
        have hdrop : (ba.pkts.zip ba.sendMask).drop i
            = (ba.pkts[i], ba.sendMask[i]) :: (ba.pkts.zip ba.sendMask).drop (i + 1) := by
          rw [List.drop_eq_getElem_cons (by omega)]
          simp
        rw [hdrop]
        by_cases hb : ba.sendMask[i] = want
        · simp only [List.countP_cons, hb, beq_self_eq_true, if_true, List.filter_cons,
            List.map_cons]
          rw [collect]
          simp only [List.getElem?_eq_getElem hmask, hb, if_true, List.getElem?_eq_getElem hlt]
          rw [ih (i + 1) (by omega)]
          rfl
        · have hne : (ba.sendMask[i] == want) = false := by simpa using hb
          simp only [List.countP_cons, hne, Bool.false_eq_true, if_false, Nat.add_zero,
            List.filter_cons]
          have hrec := ih (i + 1) (by omega)
          cases hc : ((ba.pkts.zip ba.sendMask).drop (i + 1)).countP (fun x => x.2 == want) with
          | zero =>
              rw [hc] at hrec
              rw [collect]
              rw [collect] at hrec
              exact hrec
          | succ left =>
              rw [hc] at hrec
              rw [collect]
              simp only [List.getElem?_eq_getElem hmask, hb, if_false]
              exact hrec
      · have hnil : (ba.pkts.zip ba.sendMask).drop i = [] :=
          List.drop_eq_nil_of_le (by omega)
        rw [hnil]
        rfl

/-- Counting marks over the packets. -/
theorem countP_zip (ba : BufArray P) (want : Bool) :
    (ba.pkts.zip ba.sendMask).countP (fun x => x.2 == want)
      = (ba.sendMask.take ba.numBufs).count want := by
  have htake : ba.pkts.zip ba.sendMask = ba.pkts.zip (ba.sendMask.take ba.numBufs) := by
    rw [List.zip_eq_zip_take_min]
    have hmin : min ba.pkts.length ba.sendMask.length = ba.pkts.length := Nat.min_eq_left ba.fits
    rw [hmin, List.take_length]
    rfl
  have hlen : (ba.sendMask.take ba.numBufs).length ≤ ba.pkts.length := by
    rw [List.length_take]
    exact Nat.min_le_left _ _
  rw [htake]
  conv_rhs => rw [← List.map_snd_zip hlen, List.count, List.countP_map]
  rfl

/-- The clear bits of the empty slots add nothing to the send count. -/
theorem getSendCount_eq (ba : BufArray P) :
    ba.getSendCount = (ba.sendMask.take ba.numBufs).count true := by
  have hzero : (ba.sendMask.drop ba.numBufs).count true = 0 := by
    rw [List.count_eq_zero]
    intro hmem
    obtain ⟨j, hj⟩ := List.mem_iff_getElem?.mp hmem
    rw [List.getElem?_drop] at hj
    exact ba.slack _ (Nat.le_add_right _ _) hj
  show ba.sendMask.count true = _
  conv_lhs => rw [← List.take_append_drop ba.numBufs ba.sendMask]
  rw [List.count_append, hzero, Nat.add_zero]

theorem getFreeCount_eq (ba : BufArray P) :
    ba.getFreeCount = (ba.sendMask.take ba.numBufs).count false := by
  have hlen : (ba.sendMask.take ba.numBufs).length = ba.numBufs := by
    have := ba.fits
    simp [numBufs, this]
  have hsum := List.count_not_add_count (ba.sendMask.take ba.numBufs) true
  unfold getFreeCount
  rw [getSendCount_eq]
  simp only [Bool.not_true] at hsum
  omega

/-- **`getSendBufs` writes the packets marked send**, in order, and reads no empty slot. -/
theorem getSendBufs_eq (ba : BufArray P) : ba.getSendBufs = some (ba.marked true) := by
  unfold getSendBufs
  rw [getSendCount_eq, ← countP_zip]
  have h := collect_eq ba true ba.numSlots 0 (by omega)
  rw [List.drop_zero] at h
  exact h

/-- **`getFreeBufs` writes the packets not marked send**, in order, and reads no empty slot. -/
theorem getFreeBufs_eq (ba : BufArray P) : ba.getFreeBufs = some (ba.marked false) := by
  unfold getFreeBufs
  rw [getFreeCount_eq, ← countP_zip]
  have h := collect_eq ba false ba.numSlots 0 (by omega)
  rw [List.drop_zero] at h
  exact h

/-- Sent and freed packets together are all packets, each once. -/
theorem marked_perm (ba : BufArray P) : (ba.marked true ++ ba.marked false).Perm ba.pkts := by
  have hfst : (ba.pkts.zip ba.sendMask).map Prod.fst = ba.pkts :=
    List.map_fst_zip ba.fits
  have hneg : (fun x : P × Bool => x.2 == false) = fun x => !(x.2 == true) := by
    funext x
    cases x.2 <;> rfl
  unfold marked
  rw [← List.map_append, hneg]
  conv_rhs => rw [← hfst]
  exact (List.filter_append_perm _ _).map _

/-- The entries of a list at the positions `keep` selects. -/
def select (keep : Nat → Bool) (l : List P) : List P :=
  (l.zipIdx.filter (fun x => keep x.2)).map (·.1)

theorem select_append (keep : Nat → Bool) (l l' : List P) :
    select keep (l ++ l') = select keep l ++ select (fun i => keep (l.length + i)) l' := by
  have hshift : l'.zipIdx (0 + l.length) = l'.zipIdx.map (fun x => (x.1, l.length + x.2)) := by
    rw [Nat.zero_add]
    exact List.zipIdx_eq_map_add
  unfold select
  rw [List.zipIdx_append, List.filter_append, List.map_append, hshift, List.filter_map,
    List.map_map]
  rfl

theorem select_congr {keep keep' : Nat → Bool} {l : List P}
    (h : ∀ i, i < l.length → keep i = keep' i) : select keep l = select keep' l := by
  unfold select
  congr 1
  refine List.filter_congr fun x hx => ?_
  obtain ⟨-, hlt, -⟩ := List.mem_zipIdx hx
  exact h x.2 (by omega)

theorem select_all (l : List P) : select (fun _ => true) l = l := by
  unfold select
  simp

theorem select_none (l : List P) : select (fun _ => false) l = [] := by
  unfold select
  simp

theorem mem_select {keep : Nat → Bool} {l : List P} {p : P} :
    p ∈ select keep l ↔ ∃ i, l[i]? = some p ∧ keep i = true := by
  unfold select
  rw [List.mem_map]
  constructor
  · rintro ⟨⟨q, i⟩, hmem, rfl⟩
    obtain ⟨hz, hk⟩ := List.mem_filter.mp hmem
    exact ⟨i, List.mem_zipIdx_iff_getElem?.mp hz, hk⟩
  · rintro ⟨i, hi, hk⟩
    exact ⟨(p, i), List.mem_filter.mpr ⟨List.mem_zipIdx_iff_getElem?.mpr hi, hk⟩, rfl⟩

/-- The marked packets, by position. -/
theorem marked_eq_select (ba : BufArray P) (want : Bool) :
    ba.marked want = select (fun i => ba.sends i == want) ba.pkts := by
  have hzip : ba.pkts.zip ba.sendMask = ba.pkts.zipIdx.map (fun x => (x.1, ba.sends x.2)) := by
    refine List.ext_getElem ?_ fun i h1 h2 => ?_
    · have := ba.fits
      simp only [List.length_zip, List.length_map, List.length_zipIdx]
      omega
    · have hi : i < ba.sendMask.length := by
        rw [List.length_zip] at h1
        omega
      simp [sends_eq, List.getElem?_eq_getElem hi]
  unfold marked select
  rw [hzip, List.filter_map, List.map_map]
  rfl

/-- What the caller reads back from an array that held `l` and got `ext` added: `ext` is sent. -/
theorem result {ba : BufArray P} {l ext : List P} {keep : Nat → Bool} (hpkts : ba.pkts = l ++ ext)
    (hl : ∀ i, i < l.length → ba.sends i = keep i)
    (hext : ∀ i, l.length ≤ i → ba.sends i = decide (i < ba.numBufs)) :
    ba.getSendBufs = some (select keep l ++ ext) ∧
      ba.getFreeBufs = some (select (fun i => !keep i) l) := by
  have hnum : ba.numBufs = l.length + ext.length := by
    unfold numBufs
    rw [hpkts, List.length_append]
  have hsends : ∀ i, i < ext.length → ba.sends (l.length + i) = true := by
    intro i hi
    rw [hext _ (by omega)]
    simp only [decide_eq_true_eq]
    omega
  rw [getSendBufs_eq, getFreeBufs_eq, marked_eq_select, marked_eq_select, hpkts, select_append,
    select_append]
  constructor
  · have hall : select (fun i => ba.sends (l.length + i) == true) ext = ext := by
      refine (select_congr fun i hi => ?_).trans (select_all ext)
      rw [hsends i hi]
      rfl
    rw [hall]
    congr 2
    refine select_congr fun i hi => ?_
    rw [hl i hi, beq_true]
  · have hnone : select (fun i => ba.sends (l.length + i) == false) ext = [] := by
      refine (select_congr fun i hi => ?_).trans (select_none ext)
      rw [hsends i hi]
      rfl
    rw [hnone, List.append_nil]
    congr 1
    refine select_congr fun i hi => ?_
    rw [hl i hi]
    cases keep i <;> rfl

end MoonState.BufArray
