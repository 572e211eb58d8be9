/-
What the DTLS functions send.

The loop over the records is the same for both sides: with as many packets as records,
each record is read into the packet of its turn.  What the frames are then is what one
packet is with its record.
-/
import MoonState.Proofs.DtlsFrames
import MoonState.Proofs.Serve

namespace MoonState

open Headers DTLS

/-! ### The queue of records -/

namespace DTLS

variable {K P S C : Type}

/-- `wbio` is a queue: it is at its end when it is empty, and a read returns and removes the whole
front record where that fits. -/
structure OpenSSL.Queues (o : OpenSSL S) (wbio : S → List (List UInt8)) : Prop where
  eof : ∀ s, o.BIO_eof s = true ↔ wbio s = []
  read : ∀ {s x rs} {len : Int}, wbio s = x :: rs → (x.length : Int) ≤ len →
    (o.BIO_read s len).1 = x ∧ wbio (o.BIO_read s len).2 = rs

/-- The rest of the object does not depend on what OpenSSL does, and a record that fits the
received packet and the extra one may be read. -/
structure Side.Lawful (r : Side S C) : Prop where
  ssl_setSsl : ∀ c s, r.ssl (r.setSsl c s) = s
  fill_setSsl : ∀ c s, r.fill (r.setSsl c s) = r.fill c
  fillXtra_setSsl : ∀ c s, r.fillXtra (r.setSsl c s) = r.fillXtra c
  bufLen_fill : ∀ c x p, (r.fill c x p).bufLen = p.bufLen
  udpMaxLen_congr : ∀ {p q : Mbuf}, p.bufLen = q.bufLen → r.udpMaxLen p = r.udpMaxLen q
  udpMaxLen_lt : ∀ p, r.udpMaxLen p + allHeaderLength < 2 ^ 16
  le_xtraMaxLen : ∀ {n : Int} {p q : Mbuf}, n ≤ r.udpMaxLen p → n ≤ r.udpMaxLen q →
    n ≤ r.xtraMaxLen p q

/-- The packet of the i-th record: the one that was received, and then those that `getPktCB`
returns. -/
def packet (supply : Nat → P) (pkt : P) (given : Nat) : Nat → P
  | 0 => pkt
  | i + 1 => supply (given + i)

/-- Before the records are written: they are in the queue of the connection, and there are packets
for them, none of which is in use. -/
structure Pending (r : Side S C) (wbio : S → List (List UInt8)) (supply : Nat → P) (pkt : P)
    (rs : List (List UInt8)) (n : Nat) (c : C) (a : Activation K P (Ptr C) (Heap P Mbuf)) :
    Prop where
  object : a.state.stateData = .to c
  queue : wbio (r.ssl c) = rs
  getPktCB : a.sys.sm.getPktCB = some (Heap.take supply)
  fresh : Heap.Fresh supply a.sys.w.given
  other : ∀ i, a.sys.w.given ≤ i → supply i ≠ pkt
  room : a.sys.pktsBA.numBufs + n ≤ BufArray.capacity a.sys.pktsBA.numSlots

variable [DecidableEq P] {r : Side S C} {o : OpenSSL S}
  {wbio : S → List (List UInt8)} {supply : Nat → P} {pkt : P}

/-- One record: an empty one fails the assertion. -/
theorem exec_writeRecord (ho : o.Queues wbio) (env : Env K P (Heap P Mbuf))
    (a : Activation K P (Ptr C) (Heap P Mbuf)) {c : C} {x : List UInt8} {rs : List (List UInt8)}
    (maxLen : Heap P Mbuf → Int) (fill : C → List UInt8 → Mbuf → Mbuf) (q : P)
    (k : Code P (Ptr C) (Heap P Mbuf)) (hc : a.state.stateData = .to c)
    (hqueue : wbio (r.ssl c) = x :: rs) (hfit : (x.length : Int) ≤ maxLen a.sys.w) :
    ∃ s, wbio s = rs ∧ exec env (writeRecord r o maxLen fill q k) a =
      if x = [] then .error .exception
      else exec env k (a.put (.to (r.setSsl c s))
        (a.sys.w.write q (fill c x (a.sys.w.mem q)))) := by
  obtain ⟨hread, hrest⟩ := ho.read hqueue hfit
  refine ⟨_, hrest, ?_⟩
  simp only [writeRecord, object, exec, hc, hread]
  split <;> rfl

/-- One pass of the loop. -/
theorem exec_writeXtra_cons (ho : o.Queues wbio) (hr : r.Lawful) (env : Env K P (Heap P Mbuf))
    {a : Activation K P (Ptr C) (Heap P Mbuf)} {c : C} {x : List UInt8} {rs : List (List UInt8)}
    {n : Nat} (hp : Pending r wbio supply pkt (x :: rs) (n + 1) c a)
    (hfit : (x.length : Int)
      ≤ r.xtraMaxLen (a.sys.w.mem pkt) (a.sys.w.mem (supply a.sys.w.given)))
    (fuel ret : Nat) (k : Nat → Code P (Ptr C) (Heap P Mbuf)) :
    ∃ s a₁, Pending r wbio supply pkt rs n (r.setSsl c s) a₁ ∧
      a₁.sys.pktsBA.pkts = a.sys.pktsBA.pkts ++ [supply a.sys.w.given] ∧
      a₁.iface = a.iface ∧ a₁.sys.w.given = a.sys.w.given + 1 ∧
      a₁.sys.w.mem = Function.update a.sys.w.mem (supply a.sys.w.given)
        (r.fillXtra c x (a.sys.w.mem (supply a.sys.w.given))) ∧
      exec env (writeXtra r o pkt (fuel + 1) ret k) a
        = if x = [] then .error .exception
          else exec env (writeXtra r o pkt fuel (ret + 1) k) a₁ := by
  have heof : o.BIO_eof (r.ssl c) = false := by
    rw [← Bool.not_eq_true, ho.eof, hp.queue]
    simp
  have hroom := hp.room
  obtain ⟨ba, hpkts, hcap, hget⟩ := Activation.getPkt_of_room hp.getPktCB (by omega)
  let got : Activation K P (Ptr C) (Heap P Mbuf) := { a with
    sys := { a.sys with
      pktsBA := ba
      w := (a.sys.w.take supply).2
      log := a.sys.log ++ [.getPkt (supply a.sys.w.given)] } }
  obtain ⟨s, hrest, hrecord⟩ := exec_writeRecord ho env got
    (fun w => r.xtraMaxLen (w.mem pkt) (w.mem (supply a.sys.w.given))) r.fillXtra
    (supply a.sys.w.given) (writeXtra r o pkt fuel (ret + 1) k) hp.object hp.queue hfit
  refine ⟨s, got.put (.to (r.setSsl c s)) (got.sys.w.write (supply a.sys.w.given)
    (r.fillXtra c x (got.sys.w.mem (supply a.sys.w.given)))), ?_, hpkts, rfl, rfl, rfl, ?_⟩
  · constructor
    case object => rfl
    case queue => rw [hr.ssl_setSsl, hrest]
    case getPktCB => exact hp.getPktCB
    case fresh => exact fun i j hi hj => hp.fresh i j (Nat.le_of_succ_le hi) (Nat.le_of_succ_le hj)
    case other => exact fun i hi => hp.other i (Nat.le_of_succ_le hi)
    case room =>
      show ba.pkts.length + n ≤ BufArray.capacity ba.numSlots
      rw [hcap, hpkts, List.length_append, List.length_singleton]
      unfold BufArray.numBufs at hroom
      omega
  · rw [← hrecord]
    simp only [writeXtra, object, exec, hp.object, heof, Bool.false_eq_true, if_false, hget]
    rfl

/-- `a₁` is `a` after the records were written to packets of the supply. -/
structure Written (r : Side S C) (supply : Nat → P) (rs : List (List UInt8)) (c : C)
    (a a₁ : Activation K P (Ptr C) (Heap P Mbuf)) : Prop where
  pkts : a₁.sys.pktsBA.pkts
    = a.sys.pktsBA.pkts ++ (List.range' a.sys.w.given rs.length).map supply
  iface : a₁.iface = a.iface
  filled : ∀ i x, rs[i]? = some x → a₁.sys.w.mem (supply (a.sys.w.given + i))
    = r.fillXtra c x (a.sys.w.mem (supply (a.sys.w.given + i)))
  kept : ∀ q, (∀ i, a.sys.w.given ≤ i → supply i ≠ q) → a₁.sys.w.mem q = a.sys.w.mem q

/-- The records fit the packet that was received, and the extra ones. -/
def RecordsFitXtra (r : Side S C) (supply : Nat → P) (pkt : P) (rs : List (List UInt8))
    (w : Heap P Mbuf) : Prop :=
  ∀ x ∈ rs, ∀ i < rs.length,
    (x.length : Int) ≤ r.xtraMaxLen (w.mem pkt) (w.mem (supply (w.given + i)))

/-- The packets that are left still hold what they held. -/
theorem RecordsFitXtra.of_update {x : List UInt8} {rs : List (List UInt8)} {w w' : Heap P Mbuf} {b : Mbuf}
    (h : RecordsFitXtra r supply pkt (x :: rs) w) (hfresh : Heap.Fresh supply w.given)
    (hother : ∀ i, w.given ≤ i → supply i ≠ pkt) (hgiven : w'.given = w.given + 1)
    (hmem : w'.mem = Function.update w.mem (supply w.given) b) : RecordsFitXtra r supply pkt rs w' := by
  intro y hy i hi
  have hpkt : w'.mem pkt = w.mem pkt := by
    rw [hmem, Function.update_of_ne (hother _ (Nat.le_refl _)).symm]
  have hxtra : w'.mem (supply (w'.given + i)) = w.mem (supply (w.given + (i + 1))) := by
    rw [hmem, hgiven, Nat.add_assoc, Nat.add_comm 1, Function.update_of_ne fun hc => ?_]
    have := hfresh _ _ (by omega) (Nat.le_refl _) hc
    omega
  rw [hpkt, hxtra]
  exact h y (List.mem_cons_of_mem _ hy) (i + 1) (by simpa using hi)

/-- **The loop over the extra packets** writes one for each record, in order. -/
theorem exec_writeXtra (ho : o.Queues wbio) (hr : r.Lawful) (env : Env K P (Heap P Mbuf))
    (k : Nat → Code P (Ptr C) (Heap P Mbuf)) :
    ∀ (rs : List (List UInt8)) (fuel ret : Nat) {c : C} {a : Activation K P (Ptr C) (Heap P Mbuf)},
      Pending r wbio supply pkt rs rs.length c a → rs.length < fuel → [] ∉ rs →
      RecordsFitXtra r supply pkt rs a.sys.w →
      ∃ a₁, exec env (writeXtra r o pkt fuel ret k) a = exec env (k (ret + rs.length)) a₁ ∧
        Written r supply rs c a a₁ := by
  intro rs
  induction rs with
  | nil =>
      intro fuel ret c a hp hfuel _ _
      obtain ⟨n, rfl⟩ : ∃ n, fuel = n + 1 := ⟨fuel - 1, by simp only [List.length_nil] at hfuel; omega⟩
      have heof : o.BIO_eof (r.ssl c) = true := (ho.eof _).mpr hp.queue
      refine ⟨a, ?_, by simp, rfl, by simp, fun _ _ => rfl⟩
      simp [writeXtra, object, exec, hp.object, heof]
  | cons x rs ih =>
      intro fuel ret c a hp hfuel hne hfit
      obtain ⟨n, rfl⟩ : ∃ n, fuel = n + 1 := ⟨fuel - 1, by omega⟩
      rw [List.mem_cons, not_or] at hne
      obtain ⟨s, a₁, hp₁, hpkts, hiface, hgiven, hmem, hexec⟩ := exec_writeXtra_cons ho hr env
        hp (hfit x List.mem_cons_self 0 (by simp)) n ret k
      obtain ⟨a₂, hexec₂, hw⟩ := ih n (ret + 1) hp₁ (by simpa using hfuel) hne.2
        (hfit.of_update hp.fresh hp.other hgiven hmem)
      have hfirst : a₂.sys.w.mem (supply a.sys.w.given) = a₁.sys.w.mem (supply a.sys.w.given) := by
        refine hw.kept _ fun i hi hc => ?_
        have := hp.fresh _ _ (by omega) (Nat.le_refl _) hc
        omega
      refine ⟨a₂, ?_, ?_⟩
      · rw [hexec, if_neg (Ne.symm hne.1), hexec₂, List.length_cons, Nat.add_assoc, Nat.add_comm 1]
      · constructor
        case pkts => rw [hw.pkts, hpkts, hgiven, List.length_cons, List.range'_succ]; simp
        case iface => rw [hw.iface, hiface]
        case filled =>
          intro i y hi
          cases i with
          | zero =>
              obtain rfl : x = y := by simpa using hi
              rw [Nat.add_zero, hfirst, hmem, Function.update_self]
          | succ i =>
              have hfilled := hw.filled i y (by simpa using hi)
              have hne' : supply (a.sys.w.given + (i + 1)) ≠ supply a.sys.w.given := fun hc => by
                have := hp.fresh _ _ (by omega) (Nat.le_refl _) hc
                omega
              rwa [hgiven, Nat.add_assoc, Nat.add_comm 1, hmem, Function.update_of_ne hne',
                hr.fillXtra_setSsl] at hfilled
        case kept =>
          intro q hq
          rw [hw.kept q fun i hi => hq i (by omega), hmem,
            Function.update_of_ne (hq _ (Nat.le_refl _)).symm]

/-- An empty record ends the process. -/
theorem exec_writeXtra_of_empty (ho : o.Queues wbio) (hr : r.Lawful) (env : Env K P (Heap P Mbuf))
    (k : Nat → Code P (Ptr C) (Heap P Mbuf)) :
    ∀ (rs : List (List UInt8)) (fuel ret : Nat) {c : C} {a : Activation K P (Ptr C) (Heap P Mbuf)},
      Pending r wbio supply pkt rs rs.length c a → rs.length < fuel → [] ∈ rs →
      RecordsFitXtra r supply pkt rs a.sys.w →
      exec env (writeXtra r o pkt fuel ret k) a = .error .exception := by
  intro rs
  induction rs with
  | nil =>
      intro fuel ret c a _ _ hempty _
      simp at hempty
  | cons x rs ih =>
      intro fuel ret c a hp hfuel hempty hfit
      obtain ⟨n, rfl⟩ : ∃ n, fuel = n + 1 := ⟨fuel - 1, by omega⟩
      obtain ⟨s, a₁, hp₁, -, -, hgiven, hmem, hexec⟩ := exec_writeXtra_cons ho hr env
        hp (hfit x List.mem_cons_self 0 (by simp)) n ret k
      rw [hexec]
      split
      · rfl
      · rename_i hx
        have hrest : [] ∈ rs := (List.mem_cons.mp hempty).resolve_left (Ne.symm hx)
        exact ih n (ret + 1) hp₁ (by simpa using hfuel) hrest (hfit.of_update hp.fresh hp.other hgiven hmem)

/-! ### All records -/

/-- The records fit the packets they go to. -/
def RecordsFit (r : Side S C) (supply : Nat → P) (pkt : P) (rs : List (List UInt8)) (w : Heap P Mbuf) :
    Prop :=
  ∀ x ∈ rs, ∀ i < rs.length, (x.length : Int) ≤ r.udpMaxLen (w.mem (packet supply pkt w.given i))

/-- The first record goes to the packet that was received. -/
theorem exec_first (ho : o.Queues wbio) (hr : r.Lawful) (env : Env K P (Heap P Mbuf))
    {a : Activation K P (Ptr C) (Heap P Mbuf)} {c : C} {x : List UInt8} {rs : List (List UInt8)}
    (hp : Pending r wbio supply pkt (x :: rs) rs.length c a)
    (hfit : RecordsFit r supply pkt (x :: rs) a.sys.w) (fuel : Nat)
    (k : Nat → Code P (Ptr C) (Heap P Mbuf)) :
    ∃ s, Pending r wbio supply pkt rs rs.length (r.setSsl c s)
        (a.put (.to (r.setSsl c s)) (a.sys.w.write pkt (r.fill c x (a.sys.w.mem pkt)))) ∧
      RecordsFitXtra r supply pkt rs (a.sys.w.write pkt (r.fill c x (a.sys.w.mem pkt))) ∧
      exec env (r.writeAllDataAvailable o fuel pkt k) a
        = if x = [] then .error .exception
          else exec env (writeXtra r o pkt fuel 1 k)
            (a.put (.to (r.setSsl c s)) (a.sys.w.write pkt (r.fill c x (a.sys.w.mem pkt)))) := by
  have heof : o.BIO_eof (r.ssl c) = false := by
    rw [← Bool.not_eq_true, ho.eof, hp.queue]
    simp
  have hmax : (x.length : Int) ≤ r.udpMaxLen (a.sys.w.mem pkt) :=
    hfit x List.mem_cons_self 0 (by simp)
  obtain ⟨s, hrest, hrecord⟩ := exec_writeRecord ho env a (fun w => r.udpMaxLen (w.mem pkt)) r.fill
    pkt (writeXtra r o pkt fuel 1 k) hp.object hp.queue hmax
  refine ⟨s, ⟨rfl, by rw [hr.ssl_setSsl, hrest], hp.getPktCB, hp.fresh, hp.other, hp.room⟩, ?_, ?_⟩
  · intro y hy i hi
    have hne : supply (a.sys.w.given + i) ≠ pkt := hp.other _ (Nat.le_add_right _ _)
    refine hr.le_xtraMaxLen ?_ ?_
    · have hself : (a.sys.w.write pkt (r.fill c x (a.sys.w.mem pkt))).mem pkt
          = r.fill c x (a.sys.w.mem pkt) := Function.update_self _ _ _
      rw [hself, hr.udpMaxLen_congr (hr.bufLen_fill c x _)]
      exact hfit y (List.mem_cons_of_mem _ hy) 0 (by simp)
    · have hkept : (a.sys.w.write pkt (r.fill c x (a.sys.w.mem pkt))).mem (supply (a.sys.w.given + i))
          = a.sys.w.mem (supply (a.sys.w.given + i)) := Function.update_of_ne hne _ _
      show _ ≤ r.udpMaxLen (_ : Mbuf)
      rw [show (a.sys.w.write pkt (r.fill c x (a.sys.w.mem pkt))).given = a.sys.w.given from rfl, hkept]
      exact hfit y (List.mem_cons_of_mem _ hy) (i + 1) (by simpa using hi)
  · rw [← hrecord]
    simp only [Side.writeAllDataAvailable, object, exec, hp.object, heof, Bool.false_eq_true,
      if_false]

/-- `a₁` is `a` after all records were written: the first one to the packet that was received, the
others to packets of the supply; without one the received packet is freed. -/
structure WrittenAll (r : Side S C) (supply : Nat → P) (pkt : P) (rs : List (List UInt8)) (c : C)
    (a a₁ : Activation K P (Ptr C) (Heap P Mbuf)) : Prop where
  sendPkt : a₁.iface.sendPkt = (a.iface.sendPkt && !rs.isEmpty)
  pkts : a₁.sys.pktsBA.pkts
    = a.sys.pktsBA.pkts ++ (List.range' a.sys.w.given (rs.length - 1)).map supply
  filled : ∀ i x, rs[i]? = some x → a₁.sys.w.mem (packet supply pkt a.sys.w.given i)
    = (if i = 0 then r.fill else r.fillXtra) c x (a.sys.w.mem (packet supply pkt a.sys.w.given i))

/-- **`writeAllDataAvailable`** goes on with as many packets as there are records. -/
theorem exec_writeAllDataAvailable (ho : o.Queues wbio) (hr : r.Lawful)
    (env : Env K P (Heap P Mbuf)) (k : Nat → Code P (Ptr C) (Heap P Mbuf))
    {a : Activation K P (Ptr C) (Heap P Mbuf)} {c : C} {rs : List (List UInt8)} {fuel : Nat}
    (hp : Pending r wbio supply pkt rs (rs.length - 1) c a) (hfuel : rs.length < fuel)
    (hne : [] ∉ rs) (hfit : RecordsFit r supply pkt rs a.sys.w) :
    ∃ a₁, exec env (r.writeAllDataAvailable o fuel pkt k) a = exec env (k rs.length) a₁ ∧
      WrittenAll r supply pkt rs c a a₁ := by
  cases rs with
  | nil =>
      have heof : o.BIO_eof (r.ssl c) = true := (ho.eof _).mpr hp.queue
      obtain ⟨a₁, hexec, hw⟩ := exec_writeXtra ho hr env k [] fuel 0
        (a := a.freePkt) ⟨hp.object, hp.queue, hp.getPktCB, hp.fresh, hp.other, hp.room⟩ hfuel hne
        (by simp [RecordsFitXtra])
      refine ⟨a₁, ?_, ?_, hw.pkts, by simp⟩
      · refine Eq.trans ?_ hexec
        simp only [Side.writeAllDataAvailable, object, exec, hp.object, heof, if_true]
      · rw [hw.iface]
        simp [Activation.freePkt]
  | cons x rs =>
      rw [List.mem_cons, not_or] at hne
      obtain ⟨s, hp₁, hfit₁, hexec⟩ := exec_first ho hr env hp hfit fuel k
      obtain ⟨a₂, hexec₂, hw⟩ := exec_writeXtra ho hr env k rs fuel 1 hp₁
        (by rw [List.length_cons] at hfuel; omega) hne.2 hfit₁
      refine ⟨a₂, ?_, ?_, hw.pkts, ?_⟩
      · rw [hexec, if_neg (Ne.symm hne.1), hexec₂, List.length_cons, Nat.add_comm 1]
      · rw [hw.iface]
        simp [Activation.put]
      · intro i y hi
        cases i with
        | zero =>
            obtain rfl : x = y := by simpa using hi
            exact (hw.kept pkt fun j hj => hp.other j hj).trans (Function.update_self _ _ _)
        | succ i =>
            have hfilled := hw.filled i y (by simpa using hi)
            rw [hr.fillXtra_setSsl] at hfilled
            refine hfilled.trans (congrArg _ ?_)
            exact Function.update_of_ne (hp.other _ (Nat.le_add_right _ _)) _ _

/-- It ends the process when a record is empty. -/
theorem exec_writeAllDataAvailable_of_empty (ho : o.Queues wbio) (hr : r.Lawful)
    (env : Env K P (Heap P Mbuf)) (k : Nat → Code P (Ptr C) (Heap P Mbuf))
    {a : Activation K P (Ptr C) (Heap P Mbuf)} {c : C} {rs : List (List UInt8)} {fuel : Nat}
    (hp : Pending r wbio supply pkt rs (rs.length - 1) c a) (hfuel : rs.length < fuel)
    (hempty : [] ∈ rs) (hfit : RecordsFit r supply pkt rs a.sys.w) :
    exec env (r.writeAllDataAvailable o fuel pkt k) a = .error .exception := by
  cases rs with
  | nil => simp at hempty
  | cons x rs =>
      obtain ⟨s, hp₁, hfit₁, hexec⟩ := exec_first ho hr env hp hfit fuel k
      rw [hexec]
      split
      · rfl
      · rename_i hx
        have hrest : [] ∈ rs := (List.mem_cons.mp hempty).resolve_left (Ne.symm hx)
        exact exec_writeXtra_of_empty ho hr env k rs fuel 1 hp₁
          (by rw [List.length_cons] at hfuel; omega) hrest hfit₁

/-! ### The frames -/

/-- One call emits the queue: a frame for each record and in the order of the records, the
first one in the packet that was received and the others in packets of the supply; without a record
the received packet is freed. -/
structure Emits (e : Endpoint) (supply : Nat → P) (pkt : P) (rs : List (List UInt8))
    (a a₁ : Activation K P (Ptr C) (Heap P Mbuf)) : Prop where
  sendPkt : a₁.iface.sendPkt = !rs.isEmpty
  pkts : a₁.sys.pktsBA.pkts
    = a.sys.pktsBA.pkts ++ (List.range' a.sys.w.given (rs.length - 1)).map supply
  frames : ∀ i x, rs[i]? = some x → Framed e x (a₁.sys.w.mem (packet supply pkt a.sys.w.given i))

/-- Packets of the same size and with the same IHL; what else is in them is not said. -/
def Alike (mem mem' : P → Mbuf) : Prop :=
  ∀ q, (mem' q).bufLen = (mem q).bufLen ∧
    IPv4.ihl (mem' q).data sizeofEthernet = IPv4.ihl (mem q).data sizeofEthernet

/-- The same call with other packets. -/
def refill (a : Activation K P (Ptr C) (Heap P Mbuf)) (mem : P → Mbuf) :
    Activation K P (Ptr C) (Heap P Mbuf) :=
  { a with sys := { a.sys with w := { a.sys.w with mem := mem } } }

/-- **A function sends frames**, whatever is in the packets: it returns, and there is a frame for
each record. -/
def Frames (code : Code P (Ptr C) (Heap P Mbuf)) (env : Env K P (Heap P Mbuf)) (e : Endpoint)
    (supply : Nat → P) (pkt : P) (rs : List (List UInt8))
    (a : Activation K P (Ptr C) (Heap P Mbuf)) : Prop :=
  ∀ mem, Alike a.sys.w.mem mem →
    ∃ a₁, exec env code (refill a mem) = .ok a₁ ∧ Emits e supply pkt rs a a₁

/-- The records are pending, and fit; the loop has fuel for them. -/
structure Ready (r : Side S C) (wbio : S → List (List UInt8)) (supply : Nat → P) (pkt : P)
    (rs : List (List UInt8)) (fuel : Nat) (c : C) (a : Activation K P (Ptr C) (Heap P Mbuf)) :
    Prop extends Pending r wbio supply pkt rs (rs.length - 1) c a where
  sendPkt : a.iface.sendPkt = true
  fuel : rs.length < fuel
  fits : RecordsFit r supply pkt rs a.sys.w

omit [DecidableEq P] in
/-- What is in the packets is no part of it. -/
theorem Ready.refill (hr : r.Lawful) {rs : List (List UInt8)} {fuel : Nat} {c : C}
    {a : Activation K P (Ptr C) (Heap P Mbuf)} (h : Ready r wbio supply pkt rs fuel c a)
    {mem : P → Mbuf} (hmem : Alike a.sys.w.mem mem) :
    Ready r wbio supply pkt rs fuel c (refill a mem) where
  object := h.object
  queue := h.queue
  getPktCB := h.getPktCB
  fresh := h.fresh
  other := h.other
  room := h.room
  sendPkt := h.sendPkt
  fuel := h.fuel
  fits := by
    intro x hx i hi
    have hsize := hr.udpMaxLen_congr (hmem (packet supply pkt a.sys.w.given i)).1
    exact hsize ▸ h.fits x hx i hi

omit [DecidableEq P] in
/-- Every record is short enough for the lengths in the headers. -/
theorem Ready.length_lt (hr : r.Lawful) {rs : List (List UInt8)} {fuel : Nat} {c : C}
    {a : Activation K P (Ptr C) (Heap P Mbuf)} (h : Ready r wbio supply pkt rs fuel c a)
    {x : List UInt8} (hx : x ∈ rs) : 42 + x.length < 2 ^ 16 := by
  have hfit := h.fits x hx 0 (List.length_pos_of_mem hx)
  have hmax := hr.udpMaxLen_lt (a.sys.w.mem (packet supply pkt a.sys.w.given 0))
  have hheader : allHeaderLength = 42 := rfl
  omega

/-- What a call leaves depends on nothing but the packets the records are read to. -/
theorem frames_iff (ho : o.Queues wbio) (hr : r.Lawful) (env : Env K P (Heap P Mbuf))
    (e : Endpoint) {rs : List (List UInt8)} {fuel : Nat} {c : C}
    {a : Activation K P (Ptr C) (Heap P Mbuf)} (h : Ready r wbio supply pkt rs fuel c a) :
    Frames (r.writeAllDataAvailable o fuel pkt fun _ => .done) env e supply pkt rs a ↔
      [] ∉ rs ∧ ∀ mem, Alike a.sys.w.mem mem → ∀ i x, rs[i]? = some x →
        Framed e x ((if i = 0 then r.fill else r.fillXtra) c x
          (mem (packet supply pkt a.sys.w.given i))) := by
  constructor
  · intro hframes
    have hne : [] ∉ rs := by
      intro hempty
      obtain ⟨a₁, hok, -⟩ := hframes a.sys.w.mem fun _ => ⟨rfl, rfl⟩
      have herror := exec_writeAllDataAvailable_of_empty ho hr env (fun _ => .done) h.toPending
        h.fuel hempty h.fits
      have hok' : exec env (r.writeAllDataAvailable o fuel pkt fun _ => .done) a = .ok a₁ := hok
      simp [herror] at hok'
    refine ⟨hne, fun mem hmem i x hx => ?_⟩
    have h' := h.refill hr hmem
    obtain ⟨a₁, hok, hemits⟩ := hframes mem hmem
    obtain ⟨a₂, hexec, hw⟩ := exec_writeAllDataAvailable ho hr env (fun _ => .done) h'.toPending
      h'.fuel hne h'.fits
    obtain rfl : a₁ = a₂ := Except.ok.inj (hok.symm.trans hexec)
    have hframe := hemits.frames i x hx
    have hfilled : a₁.sys.w.mem (packet supply pkt a.sys.w.given i) = _ := hw.filled i x hx
    rw [hfilled] at hframe
    exact hframe
  · intro hall mem hmem
    have h' := h.refill hr hmem
    obtain ⟨a₁, hexec, hw⟩ := exec_writeAllDataAvailable ho hr env (fun _ => .done) h'.toPending
      h'.fuel hall.1 h'.fits
    refine ⟨a₁, hexec, ?_, hw.pkts, fun i x hx => ?_⟩
    · rw [hw.sendPkt, h'.sendPkt, Bool.true_and]
    · have hfilled : a₁.sys.w.mem (packet supply pkt a.sys.w.given i) = _ := hw.filled i x hx
      rw [hfilled]
      exact hall.2 mem hmem i x hx

end DTLS

/-! ### Both sides -/

variable {K P S : Type} [DecidableEq P] {o : OpenSSL S} {wbio : S → List (List UInt8)}
  {supply : Nat → P} {pkt : P} {rs : List (List UInt8)} {fuel : Nat}

theorem DTLS_Server.side_lawful : (side (S := S)).Lawful where
  ssl_setSsl _ _ := rfl
  fill_setSsl _ _ := rfl
  fillXtra_setSsl _ _ := rfl
  bufLen_fill _ _ _ := rfl
  udpMaxLen_congr := by
    intro p q h
    simp [side, udpMaxLen, h]
  udpMaxLen_lt := by
    intro p
    have hlt := (min p.bufLen 1500).toNat_lt
    simp only [side, udpMaxLen]
    omega
  le_xtraMaxLen hp _ := hp

theorem DTLS_Client.side_lawful : (side (S := S)).Lawful where
  ssl_setSsl _ _ := rfl
  fill_setSsl _ _ := rfl
  fillXtra_setSsl _ _ := rfl
  bufLen_fill _ _ _ := rfl
  udpMaxLen_congr := by
    intro p q h
    simp [side, udpMaxLen, h]
  udpMaxLen_lt := by
    intro p
    have hlt := p.bufLen.toNat_lt
    simp only [side, udpMaxLen]
    omega
  le_xtraMaxLen _ hq := hq

/-- The server's frames do not depend on what was in the packets. -/
theorem DTLS_Server.frames_iff (ho : o.Queues wbio) (env : Env K P (Heap P Mbuf))
    {server : dtlsServer S} {a : Activation K P (Ptr (dtlsServer S)) (Heap P Mbuf)}
    (h : Ready side wbio supply pkt rs fuel server a) :
    Frames (writeAllDataAvailable o fuel pkt) env server.endpoint supply pkt rs a ↔ [] ∉ rs := by
  refine (DTLS.frames_iff ho side_lawful env server.endpoint h).trans ⟨fun hall => hall.1, ?_⟩
  intro hne
  refine ⟨hne, fun mem _ i x hx => ?_⟩
  have hlen := h.length_lt side_lawful (List.mem_of_getElem? hx)
  split
  · exact framed_fill server _ hlen
  · exact framed_fillXtra server _ hlen

/-- The client's need packets that already say five words. -/
theorem DTLS_Client.frames_iff (ho : o.Queues wbio) (env : Env K P (Heap P Mbuf))
    {client : dtlsClient S} {a : Activation K P (Ptr (dtlsClient S)) (Heap P Mbuf)}
    (h : Ready side wbio supply pkt rs fuel client a) :
    Frames (writeAllDataAvailable o fuel pkt) env client.endpoint supply pkt rs a ↔
      [] ∉ rs ∧ ∀ i < rs.length,
        IPv4.ihl (a.sys.w.mem (packet supply pkt a.sys.w.given i)).data sizeofEthernet = 5 := by
  refine (DTLS.frames_iff ho side_lawful env client.endpoint h).trans (and_congr_right fun hne => ?_)
  have hfill : ∀ i : Nat, (if i = 0 then (side (S := S)).fill else side.fillXtra) = fill :=
    fun i => ite_self _
  simp only [hfill]
  constructor
  · intro hall i hi
    by_contra hihl
    have hx : rs[i]? = some (rs.get ⟨i, hi⟩) := List.getElem?_eq_getElem hi
    have hbytes : rs.get ⟨i, hi⟩ ≠ [] := fun hc => hne (hc ▸ List.get_mem rs ⟨i, hi⟩)
    obtain ⟨q, hq, hlen, hnot⟩ := exists_not_framed_fill client _ hihl hbytes
    refine hnot ?_
    have hframe := hall (Function.update a.sys.w.mem (packet supply pkt a.sys.w.given i) q) ?_ i _ hx
    · rwa [Function.update_self] at hframe
    · intro p
      by_cases hp : p = packet supply pkt a.sys.w.given i
      · rw [hp, Function.update_self]
        exact ⟨hlen, hq⟩
      · rw [Function.update_of_ne hp]
        exact ⟨rfl, rfl⟩
  · intro hihl mem hmem i x hx
    have hi : i < rs.length := (List.getElem?_eq_some_iff.mp hx).1
    exact framed_fill client (((hmem _).2).trans (hihl i hi))
      (h.length_lt side_lawful (List.mem_of_getElem? hx))

/--
**What the DTLS functions send.**

For every queue of records that fit, and whatever the packets hold: the server sends a frame for
each record unless one is empty, and the client when also the packets it fills say five words
already.
-/
theorem DTLS.frames_iff_ihl (ho : o.Queues wbio) (env : Env K P (Heap P Mbuf))
    {server : DTLS_Server.dtlsServer S} {client : DTLS_Client.dtlsClient S}
    {a : Activation K P (Ptr (DTLS_Server.dtlsServer S)) (Heap P Mbuf)}
    {b : Activation K P (Ptr (DTLS_Client.dtlsClient S)) (Heap P Mbuf)}
    (hserver : Ready DTLS_Server.side wbio supply pkt rs fuel server a)
    (hclient : Ready DTLS_Client.side wbio supply pkt rs fuel client b) :
    (Frames (DTLS_Server.writeAllDataAvailable o fuel pkt) env server.endpoint supply pkt rs a ↔
        [] ∉ rs) ∧
      (Frames (DTLS_Client.writeAllDataAvailable o fuel pkt) env client.endpoint supply pkt rs b ↔
        [] ∉ rs ∧ ∀ i < rs.length,
          IPv4.ihl (b.sys.w.mem (packet supply pkt b.sys.w.given i)).data sizeofEthernet = 5) :=
  ⟨DTLS_Server.frames_iff ho env hserver, DTLS_Client.frames_iff ho env hclient⟩

/-! ### A client whose packet was never used -/

namespace DTLS

/-- A library with the records that are to be sent and nothing else. -/
def queued : OpenSSL (List (List UInt8)) where
  SSL_new := []
  BIO_eof s := s.isEmpty
  BIO_read s _ := (s.headD [], s.tail)
  BIO_write s _ _ len := (len, s)
  SSL_accept s := s
  SSL_connect s := s
  SSL_is_init_finished _ := false
  SSL_read s _ := ([], s)
  SSL_write s buf := (buf.length, s)
  SSL_get_shutdown _ := 0
  SSL_shutdown s := (0, s)

theorem queued_queues : queued.Queues id where
  eof _ := List.isEmpty_iff
  read := by
    intro s x rs len h _
    obtain rfl : s = x :: rs := h
    exact ⟨rfl, rfl⟩

/-- A buffer that holds zeros. -/
def zeroed : Mbuf := { data := fun _ => 0, dataLen := 0, bufLen := 2048 }

/-- A buffer that says five words. -/
def fiveWords : Mbuf := { zeroed with data := fun _ => 0x45 }

/-- A server and a client with one record to send. -/
def oneServer : DTLS_Server.dtlsServer (List (List UInt8)) where
  ssl := [[7]]
  localIP := 1
  remoteIP := 2
  localMac := ⟨[0, 0, 0, 0, 0, 1], rfl⟩
  remoteMac := ⟨[0, 0, 0, 0, 0, 2], rfl⟩
  remotePort := 4
  localPort := 3

def oneClient : DTLS_Client.dtlsClient (List (List UInt8)) where
  ssl := [[7]]
  localIP := 1
  remoteIP := 2
  remotePort := 4
  localPort := 3

/-- The call of a function, with this in every packet. -/
def calledOn {C : Type} (m : Mbuf) (c : C) : Activation Nat Nat (Ptr C) (Heap Nat Mbuf) where
  sys :=
    { sm := StateMachine.new.registerGetPktCB (Heap.take id)
      connPool := ∅
      pktsBA := (BufArray.new [7]).get BufArray.isSome_new_seven
      w := { mem := fun _ => m, given := 8 }
      ticks := 0
      log := [] }
  state := State.new 0 (.to c)
  iface := FunIface.new 0 0

/-- The call of a function on the buffer. -/
def called {C : Type} (c : C) : Activation Nat Nat (Ptr C) (Heap Nat Mbuf) := calledOn zeroed c

/-- No machine is run in it. -/
def noEnv : Env Nat Nat (Heap Nat Mbuf) where
  identify _ _ := none
  clock _ := 0
  topRule := Timeout.firstRule
  ndebug := false

theorem ready_calledOn {C : Type} {r : Side (List (List UInt8)) C} {c : C} {m : Mbuf}
    {rs : List (List UInt8)} {fuel : Nat} (hqueue : r.ssl c = rs) (htwo : rs.length ≤ 2)
    (hfuel : rs.length < fuel) (hfit : ∀ x ∈ rs, (x.length : Int) ≤ r.udpMaxLen m) :
    Ready r id id 7 rs fuel c (calledOn m c) where
  object := rfl
  queue := hqueue
  getPktCB := rfl
  fresh _ _ _ _ h := h
  other i hi := Nat.ne_of_gt hi
  room := by
    have hcapacity : 2 ≤ BufArray.capacity 1 := by
      rw [← BufArray.capacity_double (by decide) (by decide)]
      exact BufArray.le_capacity 2
    have hnum : (calledOn m c).sys.pktsBA.numBufs = 1 := rfl
    have hslots : (calledOn m c).sys.pktsBA.numSlots = 1 := rfl
    rw [hnum, hslots]
    omega
  sendPkt := rfl
  fuel := hfuel
  fits := fun x hx i _ => hfit x hx

/-- Records of one and of two bytes. -/
def twoRecords : List (List UInt8) := [[7], [8, 9]]

/-- The server and the client, with both to send. -/
def twoServer : DTLS_Server.dtlsServer (List (List UInt8)) := { oneServer with ssl := twoRecords }

def twoClient : DTLS_Client.dtlsClient (List (List UInt8)) := { oneClient with ssl := twoRecords }

/-- The server sends both records in zeroed packets, the one received and an extra one.  The client
does in packets that say five words, and not in zeroed ones. -/
theorem frames_iff_ihl_two :
    Frames (DTLS_Server.writeAllDataAvailable queued 3 7) noEnv twoServer.endpoint id 7 twoRecords
        (calledOn zeroed twoServer) ∧
      Frames (DTLS_Client.writeAllDataAvailable queued 3 7) noEnv twoClient.endpoint id 7 twoRecords
        (calledOn fiveWords twoClient) ∧
      ¬ Frames (DTLS_Client.writeAllDataAvailable queued 3 7) noEnv twoClient.endpoint id 7
        twoRecords (calledOn zeroed twoClient) := by
  have hserver : Ready DTLS_Server.side id id 7 twoRecords 3 twoServer
      (calledOn zeroed twoServer) :=
    ready_calledOn rfl (by decide) (by decide) (by decide)
  have hclient : ∀ m : Mbuf, m.bufLen = zeroed.bufLen → Ready DTLS_Client.side id id 7 twoRecords 3
      twoClient (calledOn m twoClient) := by
    intro m hm
    refine ready_calledOn rfl (by decide) (by decide) ?_
    rw [DTLS_Client.side_lawful.udpMaxLen_congr hm]
    decide
  have hfive := frames_iff_ihl queued_queues noEnv hserver (hclient fiveWords rfl)
  have hzero := frames_iff_ihl queued_queues noEnv hserver (hclient zeroed rfl)
  refine ⟨hfive.1.mpr (by decide), hfive.2.mpr ⟨by decide, fun i _ => ?_⟩, fun h => ?_⟩
  · show IPv4.ihl fiveWords.data sizeofEthernet = 5
    decide
  · have hihl : IPv4.ihl zeroed.data sizeofEthernet = 5 := (hzero.2.mp h).2 0 (by decide)
    exact absurd hihl (by decide)

/-- The client writes the record over the header. -/
theorem not_frames_zeroed : ¬ Frames (DTLS_Client.writeAllDataAvailable queued 2 7) noEnv
    oneClient.endpoint id 7 [[7]] (called oneClient) := by
  intro h
  obtain ⟨a₁, hok, hemits⟩ := h (called oneClient).sys.w.mem fun _ => ⟨rfl, rfl⟩
  have hready : Ready DTLS_Client.side id id 7 [[7]] 2 oneClient (called oneClient) :=
    ready_calledOn rfl (by decide) (by decide) (by decide)
  obtain ⟨a₂, hexec, hw⟩ := exec_writeAllDataAvailable queued_queues DTLS_Client.side_lawful noEnv
    (fun _ => .done) hready.toPending hready.fuel (by decide) hready.fits
  obtain rfl : a₁ = a₂ := Except.ok.inj (hok.symm.trans hexec)
  have hpayload := (hemits.frames 0 [7] rfl).payload
  have hfilled : a₁.sys.w.mem 7 = DTLS_Client.fill oneClient [7] zeroed := hw.filled 0 [7] rfl
  have hzero : (DTLS_Client.fill oneClient [7] zeroed).data 42 = 0 :=
    DTLS_Client.fill_of_notMem oneClient (by decide) (Or.inr (by decide))
  have hseven : (a₁.sys.w.mem 7).data 42 = 7 := List.head_eq_of_cons_eq hpayload
  rw [hfilled, hzero] at hseven
  exact absurd hseven (by decide)

end DTLS

end MoonState
