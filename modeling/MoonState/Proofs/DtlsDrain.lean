/-
What is read from OpenSSL for one packet.

`writeAllDataAvailable` reads records until the `SSL` has no more: `drain` is that loop
on the `SSL` alone, told how much may be read each time.  Both loops end together, and
stop together, for every library: that a record is lost where it is too long, or that
there are records for ever, is up to the library.
-/
import MoonState.Proofs.DtlsOutput
import MoonState.Proofs.Local

namespace MoonState

open Headers DTLS

namespace DTLS

variable {K P S C : Type}

/-! ### The loop on the `SSL` -/

/-- Read all records; `lens` says how much may be read, time after time. -/
def drain (o : OpenSSL S) : Nat → (Nat → Int) → S → Option (List (List UInt8) × S)
  | 0, _, _ => none
  | fuel + 1, lens, s =>
    if o.BIO_eof s then some ([], s)
    else
      let (bytes, s) := o.BIO_read s (lens 0)
      if bytes = [] then none
      else (drain o fuel (fun i => lens (i + 1)) s).map fun r => (bytes :: r.1, r.2)

section drain

variable {o : OpenSSL S} {fuel : Nat} {lens : Nat → Int} {s : S}

theorem drain_of_eof (h : o.BIO_eof s = true) : drain o (fuel + 1) lens s = some ([], s) := by
  rw [drain, if_pos h]

theorem drain_of_empty (h : ¬ o.BIO_eof s = true) (hempty : (o.BIO_read s (lens 0)).1 = []) :
    drain o (fuel + 1) lens s = none := by
  rw [drain, if_neg h]
  exact if_pos hempty

theorem drain_of_record (h : ¬ o.BIO_eof s = true) (hbytes : (o.BIO_read s (lens 0)).1 ≠ []) :
    drain o (fuel + 1) lens s
      = (drain o fuel (fun i => lens (i + 1)) (o.BIO_read s (lens 0)).2).map
        fun r => ((o.BIO_read s (lens 0)).1 :: r.1, r.2) := by
  rw [drain, if_neg h]
  exact if_neg hbytes

/-- Nothing to read, or a record and the rest. -/
theorem drain_eq_some {rs : List (List UInt8)} {s' : S} (h : drain o fuel lens s = some (rs, s')) :
    (o.BIO_eof s = true ∧ rs = [] ∧ s' = s) ∨
      (¬ o.BIO_eof s = true ∧ (o.BIO_read s (lens 0)).1 ≠ [] ∧ ∃ n rest, fuel = n + 1 ∧
        drain o n (fun i => lens (i + 1)) (o.BIO_read s (lens 0)).2 = some (rest, s') ∧
        rs = (o.BIO_read s (lens 0)).1 :: rest) := by
  cases fuel with
  | zero => simp [drain] at h
  | succ n =>
      by_cases heof : o.BIO_eof s = true
      · rw [drain_of_eof heof] at h
        obtain ⟨rfl, rfl⟩ := Prod.mk.inj (Option.some.inj h)
        exact Or.inl ⟨heof, rfl, rfl⟩
      · by_cases hempty : (o.BIO_read s (lens 0)).1 = []
        · rw [drain_of_empty heof hempty] at h
          simp at h
        · rw [drain_of_record heof hempty] at h
          obtain ⟨⟨rest, s''⟩, hr, heq⟩ := Option.map_eq_some_iff.mp h
          obtain ⟨rfl, rfl⟩ := Prod.mk.inj heq
          exact Or.inr ⟨heof, hempty, n, rest, rfl, hr, rfl⟩

/-- A read returns no more than it is asked for. -/
def OpenSSL.ReadsAtMost (o : OpenSSL S) : Prop :=
  ∀ s len, (o.BIO_read s len).1 ≠ [] → ((o.BIO_read s len).1.length : Int) ≤ len

/-- No record is empty, and each is as long as may be read at its turn. -/
theorem length_le_of_drain (ho : o.ReadsAtMost) {bound : Int} (hlens : ∀ i, lens i ≤ bound)
    {x : List UInt8} {rs : List (List UInt8)} {s' : S}
    (h : drain o fuel lens s = some (rs, s')) (hx : x ∈ rs) :
    x ≠ [] ∧ (x.length : Int) ≤ bound := by
  induction fuel generalizing lens s rs with
  | zero => simp [drain] at h
  | succ n ih =>
      rcases drain_eq_some h with ⟨-, rfl, -⟩ | ⟨-, hne, m, rest, hm, hrest, rfl⟩
      · simp at hx
      · obtain rfl : n = m := Nat.succ.inj hm
        rcases List.mem_cons.mp hx with rfl | hx
        · exact ⟨hne, (ho s _ hne).trans (hlens 0)⟩
        · exact ih (fun i => hlens (i + 1)) hrest hx

end drain

/-! ### One function -/

/-- A side whose objects are an `SSL` and what does not change with it. -/
structure Side.Settled (r : Side S C) : Prop extends r.Lawful where
  setSsl_ssl : ∀ c, r.setSsl c (r.ssl c) = c
  setSsl_setSsl : ∀ c s s', r.setSsl (r.setSsl c s) s' = r.setSsl c s'
  xtraMaxLen_fill : ∀ c x p q, r.xtraMaxLen (r.fill c x p) q = r.xtraMaxLen p q

/-- A function has an object, and can ask for packets. -/
structure Lent (supply : Nat → P) (pkt : P) (c : C) (a : Activation K P (Ptr C) (Heap P Mbuf)) :
    Prop where
  object : a.state.stateData = .to c
  getPktCB : a.sys.sm.getPktCB = some (Heap.take supply)
  spares : Spares supply pkt a.sys.w.given

variable [DecidableEq P]

/-- `a₁` is `a` after the records were written to packets of the supply. -/
structure Drained (r : Side S C) (supply : Nat → P) (c : C) (rs : List (List UInt8)) (s : S)
    (a a₁ : Activation K P (Ptr C) (Heap P Mbuf)) : Prop where
  state : a₁.state = { a.state with stateData := .to (r.setSsl c s) }
  w : a₁.sys.w = a.sys.w.fill supply
    (rs.mapIdx fun i x => r.fillXtra c x (a.sys.w.next supply i))
  pkts : a₁.sys.pktsBA.pkts
    = a.sys.pktsBA.pkts ++ (List.range' a.sys.w.given rs.length).map supply
  iface : a₁.iface = a.iface

variable {r : Side S C} {o : OpenSSL S} {supply : Nat → P} {pkt : P}

/-- One record. -/
theorem exec_writeRecord_eq (env : Env K P (Heap P Mbuf))
    {a : Activation K P (Ptr C) (Heap P Mbuf)} {c : C} (h : a.state.stateData = .to c)
    (maxLen : Heap P Mbuf → Int) (fill : C → List UInt8 → Mbuf → Mbuf) (q : P)
    (k : Code P (Ptr C) (Heap P Mbuf)) :
    exec env (writeRecord r o maxLen fill q k) a
      = if (o.BIO_read (r.ssl c) (maxLen a.sys.w)).1 = [] then .error .exception
        else exec env k (a.put (.to (r.setSsl c (o.BIO_read (r.ssl c) (maxLen a.sys.w)).2))
          (a.sys.w.write q
            (fill c (o.BIO_read (r.ssl c) (maxLen a.sys.w)).1 (a.sys.w.mem q)))) := by
  simp only [writeRecord, object, exec, h]
  split <;> rfl

/-- The loop asks for a packet as long as there are records. -/
theorem exec_writeXtra_succ (env : Env K P (Heap P Mbuf))
    {a : Activation K P (Ptr C) (Heap P Mbuf)} {c : C} (h : a.state.stateData = .to c)
    (heof : ¬ o.BIO_eof (r.ssl c) = true) (fuel ret : Nat)
    (k : Nat → Code P (Ptr C) (Heap P Mbuf)) :
    exec env (writeXtra r o pkt (fuel + 1) ret k) a
      = match a.getPkt with
        | .error e => .error e
        | .ok (q, a) => exec env
          (writeRecord r o (fun w => r.xtraMaxLen (w.mem pkt) (w.mem q)) r.fillXtra q
            (writeXtra r o pkt fuel (ret + 1) k)) a := by
  simp only [writeXtra, object, exec, h, heof, Bool.false_eq_true, if_false]
  cases a.getPkt with
  | error e => rfl
  | ok r => rfl

/-- `put` is `a` after one record was written to the next packet of the supply. -/
structure Filled (r : Side S C) (supply : Nat → P) (pkt : P) (c : C) (x : List UInt8) (s : S)
    (a put : Activation K P (Ptr C) (Heap P Mbuf)) : Prop where
  lent : Lent supply pkt (r.setSsl c s) put
  state : put.state = { a.state with stateData := .to (r.setSsl c s) }
  w : put.sys.w = (a.sys.w.take supply).2.write (supply a.sys.w.given)
    (r.fillXtra c x (a.sys.w.next supply 0))
  pkts : put.sys.pktsBA.pkts = a.sys.pktsBA.pkts ++ [supply a.sys.w.given]
  capacity : BufArray.capacity put.sys.pktsBA.numSlots = BufArray.capacity a.sys.pktsBA.numSlots
  iface : put.iface = a.iface

namespace Filled

variable {c : C} {x : List UInt8} {s : S} {a put : Activation K P (Ptr C) (Heap P Mbuf)}
  (h : Filled r supply pkt c x s a put)

include h

theorem mem_pkt (hsp : Spares supply pkt a.sys.w.given) :
    put.sys.w.mem pkt = a.sys.w.mem pkt := by
  rw [h.w]
  exact Function.update_of_ne (hsp.apart _ (Nat.le_refl _)).symm _ _

/-- The packets that come next are those behind it. -/
theorem next_eq (hsp : Spares supply pkt a.sys.w.given) (i : Nat) :
    put.sys.w.next supply i = a.sys.w.next supply (i + 1) := by
  have hne : supply (a.sys.w.given + 1 + i) ≠ supply a.sys.w.given := by
    intro hc
    have := hsp.fresh _ _ (by omega) (Nat.le_refl _) hc
    omega
  rw [h.w]
  refine (Function.update_of_ne hne _ _).trans ?_
  show a.sys.w.mem (supply _) = a.sys.w.mem (supply _)
  rw [Nat.add_assoc, Nat.add_comm 1]

theorem numBufs_eq : put.sys.pktsBA.numBufs = a.sys.pktsBA.numBufs + 1 := by
  unfold BufArray.numBufs
  rw [h.pkts, List.length_append, List.length_singleton]

theorem drained (hr : r.Settled) (hsp : Spares supply pkt a.sys.w.given)
    {rs : List (List UInt8)} {s' : S} {a₁ : Activation K P (Ptr C) (Heap P Mbuf)}
    (hd : Drained r supply (r.setSsl c s) rs s' put a₁) :
    Drained r supply c (x :: rs) s' a a₁ := by
  constructor
  case state => rw [hd.state, hr.setSsl_setSsl, h.state]
  case w =>
    rw [hd.w, List.mapIdx_cons, Heap.fill, ← h.w]
    simp only [h.next_eq hsp, hr.fillXtra_setSsl]
  case pkts =>
    have hgiven : put.sys.w.given = a.sys.w.given + 1 := by
      rw [h.w]
      rfl
    rw [hd.pkts, h.pkts, hgiven, List.length_cons, List.range'_succ, List.map_cons,
      List.append_assoc]
    rfl
  case iface => rw [hd.iface, h.iface]

end Filled

/-- One pass of the loop, with room for a packet. -/
theorem exec_writeXtra_of_room (env : Env K P (Heap P Mbuf))
    {a : Activation K P (Ptr C) (Heap P Mbuf)} {c : C} (h : Lent supply pkt c a)
    (heof : ¬ o.BIO_eof (r.ssl c) = true)
    (hroom : a.sys.pktsBA.numBufs < BufArray.capacity a.sys.pktsBA.numSlots) (fuel ret : Nat)
    (k : Nat → Code P (Ptr C) (Heap P Mbuf)) {x : List UInt8} {s : S}
    (hread : o.BIO_read (r.ssl c) (r.xtraMaxLen (a.sys.w.mem pkt) (a.sys.w.next supply 0))
      = (x, s)) :
    ∃ put, Filled r supply pkt c x s a put ∧
      exec env (writeXtra r o pkt (fuel + 1) ret k) a
        = if x = [] then .error .exception
          else exec env (writeXtra r o pkt fuel (ret + 1) k) put := by
  obtain ⟨ba, hpkts, hcap, hget⟩ := Activation.getPkt_of_room h.getPktCB hroom
  let got : Activation K P (Ptr C) (Heap P Mbuf) := { a with
    sys := { a.sys with
      pktsBA := ba
      w := (a.sys.w.take supply).2
      log := a.sys.log ++ [.getPkt (supply a.sys.w.given)] } }
  refine ⟨got.put (.to (r.setSsl c s)) (got.sys.w.write (supply a.sys.w.given)
    (r.fillXtra c x (a.sys.w.next supply 0))),
    ⟨⟨rfl, h.getPktCB, ?_⟩, rfl, rfl, hpkts, hcap, rfl⟩, ?_⟩
  · exact ⟨fun i hi => h.spares.apart i (Nat.le_of_succ_le hi),
      fun i j hi hj => h.spares.fresh i j (Nat.le_of_succ_le hi) (Nat.le_of_succ_le hj)⟩
  · have hrecord := exec_writeRecord_eq env (r := r) (o := o) (a := got) h.object
      (fun w => r.xtraMaxLen (w.mem pkt) (w.mem (supply a.sys.w.given))) r.fillXtra
      (supply a.sys.w.given) (writeXtra r o pkt fuel (ret + 1) k)
    rw [exec_writeXtra_succ env h.object heof, hget]
    refine hrecord.trans ?_
    rw [show o.BIO_read (r.ssl c) (r.xtraMaxLen (got.sys.w.mem pkt)
      (got.sys.w.mem (supply a.sys.w.given))) = (x, s) from hread]
    rfl

/-- One pass of the loop, with the array full. -/
theorem exec_writeXtra_of_full (env : Env K P (Heap P Mbuf))
    {a : Activation K P (Ptr C) (Heap P Mbuf)} {c : C} (h : Lent supply pkt c a)
    (heof : ¬ o.BIO_eof (r.ssl c) = true)
    (hfull : BufArray.capacity a.sys.pktsBA.numSlots ≤ a.sys.pktsBA.numBufs) (fuel ret : Nat)
    (k : Nat → Code P (Ptr C) (Heap P Mbuf)) :
    exec env (writeXtra r o pkt (fuel + 1) ret k) a = .error .bufOverflow := by
  have hadd := BufArray.addPkt_of_ge (supply a.sys.w.given) hfull
  have hget : a.getPkt = .error .bufOverflow := by
    unfold Activation.getPkt
    rw [h.getPktCB]
    dsimp only
    rw [show a.sys.pktsBA.addPkt (Heap.take supply a.sys.w).1 = _ from hadd]
  rw [exec_writeXtra_succ env h.object heof, hget]

/-- **The loop over the extra packets** goes on where the `SSL` is drained and the array has room,
and stops the program otherwise. -/
theorem exec_writeXtra_drain (hr : r.Settled) (env : Env K P (Heap P Mbuf))
    (k : Nat → Code P (Ptr C) (Heap P Mbuf)) (fuel ret : Nat) {c : C}
    {a : Activation K P (Ptr C) (Heap P Mbuf)} (h : Lent supply pkt c a) :
    (∃ rs s a₁, drain o fuel (fun i => r.xtraMaxLen (a.sys.w.mem pkt) (a.sys.w.next supply i))
        (r.ssl c) = some (rs, s) ∧ Drained r supply c rs s a a₁ ∧
      exec env (writeXtra r o pkt fuel ret k) a = exec env (k (ret + rs.length)) a₁) ∨
    ((∃ e, exec env (writeXtra r o pkt fuel ret k) a = .error e) ∧
      ∀ rs s, drain o fuel (fun i => r.xtraMaxLen (a.sys.w.mem pkt) (a.sys.w.next supply i))
        (r.ssl c) = some (rs, s) →
      BufArray.capacity a.sys.pktsBA.numSlots < a.sys.pktsBA.numBufs + rs.length) := by
  induction fuel generalizing ret c a with
  | zero => exact Or.inr ⟨⟨.exception, rfl⟩, by simp [drain]⟩
  | succ n ih =>
      by_cases heof : o.BIO_eof (r.ssl c) = true
      · refine Or.inl ⟨[], r.ssl c, a, drain_of_eof heof,
          ⟨?_, rfl, (List.append_nil _).symm, rfl⟩, ?_⟩
        · rw [hr.setSsl_ssl, ← h.object]
        · simp [writeXtra, object, exec, h.object, heof]
      · by_cases hroom : a.sys.pktsBA.numBufs < BufArray.capacity a.sys.pktsBA.numSlots
        · obtain ⟨put, hput, hexec⟩ := exec_writeXtra_of_room env h heof hroom n ret k rfl
          by_cases hempty : (o.BIO_read (r.ssl c)
              (r.xtraMaxLen (a.sys.w.mem pkt) (a.sys.w.next supply 0))).1 = []
          · rw [if_pos hempty] at hexec
            refine Or.inr ⟨⟨.exception, hexec⟩, fun rs s' hdrain => ?_⟩
            rw [drain_of_empty heof hempty] at hdrain
            simp at hdrain
          · rw [if_neg hempty] at hexec
            have hlens : (fun i => r.xtraMaxLen (put.sys.w.mem pkt) (put.sys.w.next supply i))
                = fun i => r.xtraMaxLen (a.sys.w.mem pkt) (a.sys.w.next supply (i + 1)) := by
              funext i
              rw [hput.mem_pkt h.spares, hput.next_eq h.spares]
            have hih := ih (ret + 1) hput.lent
            rw [hlens, hr.ssl_setSsl] at hih
            rw [drain_of_record heof hempty]
            rcases hih with ⟨rs, s', a₁, hrest, hd, hgo⟩ | ⟨⟨e, he⟩, hnone⟩
            · refine Or.inl ⟨_, s', a₁, Option.map_eq_some_iff.mpr ⟨_, hrest, rfl⟩,
                hput.drained hr h.spares hd, ?_⟩
              rw [hexec, hgo, List.length_cons, Nat.add_assoc, Nat.add_comm 1]
            · refine Or.inr ⟨⟨e, hexec.trans he⟩, fun rs s' hall => ?_⟩
              obtain ⟨⟨rest, s''⟩, hrest, heq⟩ := Option.map_eq_some_iff.mp hall
              obtain ⟨rfl, -⟩ := Prod.mk.inj heq
              have hover := hnone rest s'' hrest
              rw [hput.numBufs_eq, hput.capacity] at hover
              show _ < _ + (rest.length + 1)
              omega
        · have hfull := Nat.not_lt.mp hroom
          refine Or.inr ⟨⟨_, exec_writeXtra_of_full env h heof hfull n ret k⟩,
            fun rs s hdrain => ?_⟩
          rcases drain_eq_some hdrain with ⟨hc, -⟩ | ⟨-, -, m, rest, -, -, rfl⟩
          · exact absurd hc heof
          · rw [List.length_cons]
            omega

/-! ### All records -/

/-- How much may be read into the received packet, and then into the packets of the supply. -/
def Side.lens (r : Side S C) (b : Mbuf) (fresh : Nat → Mbuf) : Nat → Int
  | 0 => r.udpMaxLen b
  | i + 1 => r.xtraMaxLen b (fresh i)

/-- The packets with the records. -/
def Side.fillAll (r : Side S C) (c : C) (b : Mbuf) (fresh : Nat → Mbuf) :
    List (List UInt8) → Mbuf × List Mbuf
  | [] => (b, [])
  | x :: xs => (r.fill c x b, xs.mapIdx fun i x => r.fillXtra c x (fresh i))

/-- What a function replies that ends with `writeAllDataAvailable`. -/
def Side.flush (r : Side S C) (o : OpenSSL S) (fuel : Nat) (n : Option StateID) (c : C) (b : Mbuf)
    (fresh : Nat → Mbuf) : Option (Reply (Ptr C) Mbuf) :=
  (drain o (fuel + 1) (r.lens b fresh) (r.ssl c)).map fun d =>
    { stateData := .to (r.setSsl c d.2)
      newState := n
      pkt := (r.fillAll c b fresh d.1).1
      extra := (r.fillAll c b fresh d.1).2
      free := d.1.isEmpty }

/-- A packet that is not of the supply may be written first. -/
theorem fill_write_comm {B : Type} {supply : Nat → P} {p : P} (b : B) (bs : List B) {w : Heap P B}
    (h : ∀ i, w.given ≤ i → supply i ≠ p) :
    (w.write p b).fill supply bs = (w.fill supply bs).write p b := by
  induction bs generalizing w with
  | nil => rfl
  | cons x bs ih =>
      have hne : supply w.given ≠ p := h _ (Nat.le_refl _)
      have hcomm : ((w.write p b).take supply).2.write (supply w.given) x
          = ((w.take supply).2.write (supply w.given) x).write p b := by
        unfold Heap.write Heap.take
        simp only [Function.update_comm hne]
      have hih := ih (w := (w.take supply).2.write (supply w.given) x)
        fun i hi => h i (Nat.le_of_succ_le hi)
      rw [Heap.fill, Heap.fill, ← hih, ← hcomm]
      rfl

/-- Without a record the packet that was received is freed. -/
theorem exec_flush_of_eof (hr : r.Settled) (env : Env K P (Heap P Mbuf)) (fuel : Nat) {c : C}
    {a : Activation K P (Ptr C) (Heap P Mbuf)} (h : Lent supply pkt c a)
    (heof : o.BIO_eof (r.ssl c) = true) :
    ∃ rp, r.flush o (fuel + 1) none c (a.sys.w.mem pkt) (a.sys.w.next supply) = some rp ∧
      exec env (r.writeAllDataAvailable o (fuel + 1) pkt fun _ => .done) a = .ok a.freePkt ∧
      Replied supply rp pkt rp.extra a a.freePkt := by
  refine ⟨_, Option.map_eq_some_iff.mpr ⟨_, drain_of_eof heof, rfl⟩, ?_, ?_⟩
  · simp [Side.writeAllDataAvailable, writeXtra, object, exec, h.object, heof, Activation.freePkt,
      Sys.emit]
  · constructor
    case state =>
      show a.state = ⟨.to (r.setSsl c (r.ssl c)), a.state.state, a.state.timeoutID⟩
      rw [hr.setSsl_ssl, ← h.object]
    case w =>
      show a.sys.w = { a.sys.w with mem := Function.update a.sys.w.mem pkt (a.sys.w.mem pkt) }
      rw [Function.update_eq_self]
    case pkts => exact (List.append_nil _).symm
    case sendPkt => exact (Bool.and_false _).symm

/-- `put` is `a` after the first record was written to the packet that was received. -/
structure FilledFirst (r : Side S C) (supply : Nat → P) (pkt : P) (c : C) (x : List UInt8) (s : S)
    (a put : Activation K P (Ptr C) (Heap P Mbuf)) : Prop where
  lent : Lent supply pkt (r.setSsl c s) put
  state : put.state = { a.state with stateData := .to (r.setSsl c s) }
  w : put.sys.w = a.sys.w.write pkt (r.fill c x (a.sys.w.mem pkt))
  pktsBA : put.sys.pktsBA = a.sys.pktsBA
  iface : put.iface = a.iface

/-- The first record. -/
theorem exec_flush_of_record (env : Env K P (Heap P Mbuf)) (fuel : Nat) {c : C}
    {a : Activation K P (Ptr C) (Heap P Mbuf)} (h : Lent supply pkt c a)
    (heof : ¬ o.BIO_eof (r.ssl c) = true) {x : List UInt8} {s : S}
    (hread : o.BIO_read (r.ssl c) (r.udpMaxLen (a.sys.w.mem pkt)) = (x, s)) :
    ∃ put, FilledFirst r supply pkt c x s a put ∧
      exec env (r.writeAllDataAvailable o fuel pkt fun _ => .done) a
        = if x = [] then .error .exception
          else exec env (writeXtra r o pkt fuel 1 fun _ => .done) put := by
  refine ⟨a.put (.to (r.setSsl c s)) (a.sys.w.write pkt (r.fill c x (a.sys.w.mem pkt))),
    ⟨⟨rfl, h.getPktCB, h.spares⟩, rfl, rfl, rfl, rfl⟩, ?_⟩
  have hrecord := exec_writeRecord_eq env (r := r) (o := o) h.object
    (fun w => r.udpMaxLen (w.mem pkt)) r.fill pkt (writeXtra r o pkt fuel 1 fun _ => .done)
  rw [hread] at hrecord
  rw [← hrecord]
  simp only [Side.writeAllDataAvailable, object, exec, h.object, heof, Bool.false_eq_true, if_false]

namespace FilledFirst

variable {c : C} {x : List UInt8} {s : S} {a put : Activation K P (Ptr C) (Heap P Mbuf)}
  (h : FilledFirst r supply pkt c x s a put) (hsp : Spares supply pkt a.sys.w.given)

include h hsp

/-- The packets of the supply hold what they held. -/
theorem next_eq : put.sys.w.next supply = a.sys.w.next supply := by
  funext i
  rw [h.w]
  exact Function.update_of_ne (hsp.apart _ (Nat.le_add_right _ i)) _ _

/-- As much may be read into them as before. -/
theorem lens_eq (hr : r.Settled) :
    (fun i => r.xtraMaxLen (put.sys.w.mem pkt) (put.sys.w.next supply i))
      = fun i => r.lens (a.sys.w.mem pkt) (a.sys.w.next supply) (i + 1) := by
  have hpkt : put.sys.w.mem pkt = r.fill c x (a.sys.w.mem pkt) := by
    rw [h.w]
    exact Function.update_self _ _ _
  funext i
  rw [hpkt, h.next_eq hsp, hr.xtraMaxLen_fill]
  rfl

/-- Once the rest is written too, the function has replied. -/
theorem replied (hr : r.Settled) {rs : List (List UInt8)} {s' : S}
    {a₁ : Activation K P (Ptr C) (Heap P Mbuf)}
    (hd : Drained r supply (r.setSsl c s) rs s' put a₁) :
    Replied supply
      { stateData := .to (r.setSsl c s')
        newState := none
        pkt := (r.fillAll c (a.sys.w.mem pkt) (a.sys.w.next supply) (x :: rs)).1
        extra := (r.fillAll c (a.sys.w.mem pkt) (a.sys.w.next supply) (x :: rs)).2
        free := false } pkt
      (r.fillAll c (a.sys.w.mem pkt) (a.sys.w.next supply) (x :: rs)).2 a a₁ := by
  constructor
  case state =>
    rw [hd.state, h.state, hr.setSsl_setSsl]
    rfl
  case w =>
    rw [hd.w, h.next_eq hsp, hr.fillXtra_setSsl, h.w]
    exact fill_write_comm _ _ hsp.apart
  case pkts =>
    have hgiven : put.sys.w.given = a.sys.w.given := by
      rw [h.w]
      rfl
    rw [hd.pkts, h.pktsBA, hgiven]
    show _ = _ ++ (List.range' _ (rs.mapIdx _).length).map supply
    rw [List.length_mapIdx]
  case sendPkt =>
    rw [hd.iface, h.iface]
    exact (Bool.and_true _).symm

end FilledFirst

/-- **`writeAllDataAvailable`** replies, where the `SSL` is drained and the array has room. -/
theorem exec_flush (hr : r.Settled) (env : Env K P (Heap P Mbuf)) {fuel : Nat} (hfuel : 0 < fuel)
    {c : C} {a : Activation K P (Ptr C) (Heap P Mbuf)} (h : Lent supply pkt c a) :
    (∃ rp a₁, r.flush o fuel none c (a.sys.w.mem pkt) (a.sys.w.next supply) = some rp ∧
      exec env (r.writeAllDataAvailable o fuel pkt fun _ => .done) a = .ok a₁ ∧
      Replied supply rp pkt rp.extra a a₁) ∨
    ((∃ e, exec env (r.writeAllDataAvailable o fuel pkt fun _ => .done) a = .error e) ∧
      ∀ rp, r.flush o fuel none c (a.sys.w.mem pkt) (a.sys.w.next supply) = some rp →
        BufArray.capacity a.sys.pktsBA.numSlots < a.sys.pktsBA.numBufs + rp.extra.length) := by
  by_cases heof : o.BIO_eof (r.ssl c) = true
  · obtain ⟨n, rfl⟩ : ∃ n, fuel = n + 1 := ⟨fuel - 1, by omega⟩
    obtain ⟨rp, hrp, hexec, hreplied⟩ := exec_flush_of_eof hr env n h heof
    exact Or.inl ⟨rp, _, hrp, hexec, hreplied⟩
  · obtain ⟨put, hput, hexec⟩ := exec_flush_of_record env fuel h heof rfl
    by_cases hempty : (o.BIO_read (r.ssl c) (r.udpMaxLen (a.sys.w.mem pkt))).1 = []
    · rw [if_pos hempty] at hexec
      refine Or.inr ⟨⟨.exception, hexec⟩, fun rp hrp => ?_⟩
      rw [Side.flush, drain_of_empty heof hempty] at hrp
      simp at hrp
    · rw [if_neg hempty] at hexec
      have hdrain : drain o (fuel + 1) (r.lens (a.sys.w.mem pkt) (a.sys.w.next supply)) (r.ssl c)
          = _ := drain_of_record heof hempty
      have hcases := exec_writeXtra_drain hr env (fun _ => .done) fuel 1 (o := o) hput.lent
      rw [hput.lens_eq h.spares hr, hr.ssl_setSsl] at hcases
      rcases hcases with ⟨rs, s', a₁, hrest, hd, hgo⟩ | ⟨⟨e, he⟩, hnone⟩
      · refine Or.inl ⟨_, a₁, Option.map_eq_some_iff.mpr ⟨(_ :: rs, s'), ?_, rfl⟩,
          hexec.trans hgo, hput.replied h.spares hr hd⟩
        exact hdrain.trans (Option.map_eq_some_iff.mpr ⟨_, hrest, rfl⟩)
      · refine Or.inr ⟨⟨e, hexec.trans he⟩, fun rp hrp => ?_⟩
        obtain ⟨d, hall, rfl⟩ := Option.map_eq_some_iff.mp hrp
        rw [hdrain] at hall
        obtain ⟨⟨rs, s'⟩, hrest, rfl⟩ := Option.map_eq_some_iff.mp hall
        have hover := hnone rs s' hrest
        rw [hput.pktsBA] at hover
        show _ < _ + (rs.mapIdx _).length
        rw [List.length_mapIdx]
        exact hover

end DTLS

end MoonState
