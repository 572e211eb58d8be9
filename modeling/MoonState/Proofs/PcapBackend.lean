/-
What a batch from libpcap has in it.

The loop takes the frames that fit, up to the next null, and puts each in a packet of
its own; `recvLoop_eq` says so.  Three things are wrong around it.  The packets are
not in the batch, unless `malloc` returned an array that happens to hold them.  The
frame that would be the 65th is consumed before the count is looked at.  And a batch
of no frames aborts.  Where none of the three happens, no frame is lost over any
number of calls.
-/
import Mathlib.Data.List.ReduceOption
import MoonState.Model.PcapBackend
import MoonState.Proofs.BufArray

namespace MoonState.PcapBackend

variable {P : Type}

/-! ### What is due -/

/-- Frames that are not too long. -/
def fitting (l : List (Option Frame)) : List Frame :=
  l.reduceOption.filter fun f => f.length ≤ bufSize

/-- The next frames that fit, at most so many, before `pcap_next` returns null. -/
def due (room : Nat) (handle : List (Option Frame)) : List Frame :=
  (fitting (handle.takeWhile Option.isSome)).take room

/-- What is left of the frames: after the last one due another one is consumed. -/
def left : Nat → List (Option Frame) → List (Option Frame)
  | _, [] => []
  | _, none :: handle => handle
  | 0, some _ :: handle => handle
  | room + 1, some f :: handle =>
    if f.length ≤ bufSize then left room handle else left (room + 1) handle

/-- The frame behind the last one due fits. -/
def Spills : Nat → List (Option Frame) → Prop
  | _, [] => False
  | _, none :: _ => False
  | 0, some f :: _ => f.length ≤ bufSize
  | room + 1, some f :: handle =>
    if f.length ≤ bufSize then Spills room handle else Spills (room + 1) handle

theorem fitting_append (l l' : List (Option Frame)) :
    fitting (l ++ l') = fitting l ++ fitting l' := by
  simp [fitting, List.reduceOption_append]

theorem fitting_cons_of_le {f : Frame} (hf : f.length ≤ bufSize) (l : List (Option Frame)) :
    fitting (some f :: l) = f :: fitting l := by
  simp [fitting, hf]

theorem fitting_cons_of_gt {f : Frame} (hf : ¬ f.length ≤ bufSize) (l : List (Option Frame)) :
    fitting (some f :: l) = fitting l := by
  simp [fitting, hf]

theorem length_le_of_mem_fitting {f : Frame} {l : List (Option Frame)} (h : f ∈ fitting l) :
    f.length ≤ bufSize := by
  simpa using (List.mem_filter.mp h).2

theorem length_due_le (room : Nat) (handle : List (Option Frame)) :
    (due room handle).length ≤ room :=
  List.length_take_le ..

theorem due_zero (handle : List (Option Frame)) : due 0 handle = [] :=
  List.take_zero

theorem due_nil (room : Nat) : due room [] = [] := by
  simp [due, fitting]

theorem due_none (room : Nat) (handle : List (Option Frame)) : due room (none :: handle) = [] := by
  simp [due, fitting]

theorem due_of_le {f : Frame} (hf : f.length ≤ bufSize) (room : Nat)
    (handle : List (Option Frame)) :
    due (room + 1) (some f :: handle) = f :: due room handle := by
  simp [due, fitting_cons_of_le hf]

theorem due_of_gt {f : Frame} (hf : ¬ f.length ≤ bufSize) (room : Nat)
    (handle : List (Option Frame)) : due room (some f :: handle) = due room handle := by
  simp [due, fitting_cons_of_gt hf]

/-- What is consumed is what is due, what does not fit, and the frame that spills. -/
theorem exists_consumed (handle : List (Option Frame)) (room : Nat) :
    ∃ consumed lost, handle = consumed ++ left room handle ∧
      fitting consumed = due room handle ++ lost ∧ (lost = [] ↔ ¬ Spills room handle) := by
  induction handle generalizing room with
  | nil => exact ⟨[], [], by simp [left, due_nil, fitting, Spills]⟩
  | cons o handle ih =>
      cases o with
      | none => exact ⟨[none], [], by simp [left, due_none, fitting, Spills]⟩
      | some f =>
          cases room with
          | zero =>
              by_cases hf : f.length ≤ bufSize
              · exact ⟨[some f], [f], by simp [left, due_zero, fitting, Spills, hf]⟩
              · exact ⟨[some f], [], by simp [left, due_zero, fitting, Spills, hf]⟩
          | succ room =>
              by_cases hf : f.length ≤ bufSize
              · obtain ⟨consumed, lost, heq, hfit, hlost⟩ := ih room
                refine ⟨some f :: consumed, lost, ?_, ?_, ?_⟩
                · simpa [left, hf] using heq
                · rw [fitting_cons_of_le hf, due_of_le hf, hfit, List.cons_append]
                · simpa [Spills, hf] using hlost
              · obtain ⟨consumed, lost, heq, hfit, hlost⟩ := ih (room + 1)
                refine ⟨some f :: consumed, lost, ?_, ?_, ?_⟩
                · simpa [left, hf] using heq
                · rw [fitting_cons_of_gt hf, due_of_gt hf, hfit]
                · simpa [Spills, hf] using hlost

/-! ### The packets that are filled -/

section packets

variable [DecidableEq P] {alloc : Nat → P}

/-- The packets that so many calls of `getPkt` return. -/
def handedOut (alloc : Nat → P) : PcapBackend P → Nat → List P
  | _, 0 => []
  | b, n + 1 => (b.getPkt alloc).1 :: handedOut alloc (b.getPkt alloc).2 n

/-- Which packet `getPkt` returns does not depend on what is in the packets. -/
theorem getPkt_congr (alloc : Nat → P) {b c : PcapBackend P} (hpool : b.packetPool = c.packetPool)
    (hgiven : b.given = c.given) :
    (b.getPkt alloc).1 = (c.getPkt alloc).1 ∧
      (b.getPkt alloc).2.packetPool = (c.getPkt alloc).2.packetPool ∧
      (b.getPkt alloc).2.given = (c.getPkt alloc).2.given := by
  unfold getPkt setDataLen
  rw [hpool, hgiven]
  cases c.packetPool.getLast? with
  | none => simp
  | some sp => simp

theorem handedOut_congr {b c : PcapBackend P} (hpool : b.packetPool = c.packetPool)
    (hgiven : b.given = c.given) (n : Nat) : handedOut alloc b n = handedOut alloc c n := by
  induction n generalizing b c with
  | zero => rfl
  | succ n ih =>
      obtain ⟨hpkt, hpool', hgiven'⟩ := getPkt_congr alloc hpool hgiven
      rw [handedOut, handedOut, hpkt, ih hpool' hgiven']

/-- After a frame was put into a packet, `getPkt` goes on as if it had only been called. -/
theorem handedOut_receive (b : PcapBackend P) (f : Frame) (n : Nat) :
    handedOut alloc (b.receive alloc f) n = handedOut alloc (b.getPkt alloc).2 n :=
  handedOut_congr (b := b.receive alloc f) (c := (b.getPkt alloc).2) rfl rfl n

theorem mem_setDataLen_of_ne {b : PcapBackend P} {pkt q : P} (h : q ≠ pkt) (l : UInt16) :
    (b.setDataLen pkt l).mem q = b.mem q :=
  Function.update_of_ne h _ _

theorem mem_copy_of_ne {b : PcapBackend P} {pkt q : P} (h : q ≠ pkt) (f : Frame) :
    (b.copy pkt f).mem q = b.mem q :=
  Function.update_of_ne h _ _

theorem mem_getPkt_of_ne {b : PcapBackend P} {q : P} (h : q ≠ (b.getPkt alloc).1) :
    (b.getPkt alloc).2.mem q = b.mem q := by
  unfold getPkt at h ⊢
  cases hlast : b.packetPool.getLast? with
  | none =>
      rw [hlast] at h
      exact mem_setDataLen_of_ne h 0
  | some sp =>
      rw [hlast] at h
      exact mem_setDataLen_of_ne h 0

theorem mem_receive_of_ne {b : PcapBackend P} {q : P} (h : q ≠ (b.getPkt alloc).1) (f : Frame) :
    (b.receive alloc f).mem q = b.mem q := by
  have hlen := mem_setDataLen_of_ne (b := (b.getPkt alloc).2.copy (b.getPkt alloc).1 f) h
    (UInt16.ofNat f.length)
  exact hlen.trans ((mem_copy_of_ne h f).trans (mem_getPkt_of_ne h))

/-- The packet has the frame in it. -/
theorem content_receive (b : PcapBackend P) {f : Frame} (hf : f.length ≤ bufSize) :
    (b.receive alloc f).content (some (b.getPkt alloc).1) = some f := by
  have hlen : (UInt16.ofNat f.length).toNat = f.length := by
    unfold bufSize at hf
    exact UInt16.toNat_ofNat_of_lt (by simp only [UInt16.size]; omega)
  simp [content, receive, setDataLen, copy, hlen, Mem.read_write_self]

/-- The frames are put into packets, one after the other. -/
def receiveAll (alloc : Nat → P) (fs : List Frame) (b : PcapBackend P) : PcapBackend P :=
  fs.foldl (fun b f => b.receive alloc f) b

theorem mem_receiveAll_of_notMem {fs : List Frame} {b : PcapBackend P} {q : P}
    (h : q ∉ handedOut alloc b fs.length) : (receiveAll alloc fs b).mem q = b.mem q := by
  induction fs generalizing b with
  | nil => rfl
  | cons f fs ih =>
      rw [List.length_cons, handedOut, List.mem_cons, not_or] at h
      rw [← handedOut_receive b f] at h
      rw [receiveAll, List.foldl_cons]
      exact (ih h.2).trans (mem_receive_of_ne h.1 f)

/-- Each packet has its frame, if no packet is handed out twice. -/
theorem content_receiveAll {fs : List Frame} {b : PcapBackend P}
    (hfit : ∀ f ∈ fs, f.length ≤ bufSize) (hnodup : (handedOut alloc b fs.length).Nodup) :
    (handedOut alloc b fs.length).map (fun q => (receiveAll alloc fs b).content (some q))
      = fs.map some := by
  induction fs generalizing b with
  | nil => rfl
  | cons f fs ih =>
      rw [List.forall_mem_cons] at hfit
      rw [List.length_cons, handedOut, List.nodup_cons] at hnodup
      rw [← handedOut_receive b f] at hnodup
      have hrest := ih hfit.2 hnodup.2
      have hfirst : (b.receive alloc f).content (some (b.getPkt alloc).1) = some f :=
        content_receive b hfit.1
      have hkeep := mem_receiveAll_of_notMem hnodup.1
      rw [List.length_cons, handedOut, List.map_cons, List.map_cons, ← handedOut_receive b f]
      refine congrArg₂ List.cons ?_ hrest
      rw [← hfirst]
      simp only [content, Option.map_some]
      rw [receiveAll, List.foldl_cons]
      rw [receiveAll] at hkeep
      rw [hkeep]

/-- **What the loop does.** -/
theorem recvLoop_eq (handle : List (Option Frame)) (count : Nat) (b : PcapBackend P) :
    recvLoop alloc handle count b
      = ({ receiveAll alloc (due (64 - count) handle) b with handle := left (64 - count) handle },
          count + (due (64 - count) handle).length) := by
  induction handle generalizing count b with
  | nil => simp [recvLoop, left, due_nil, receiveAll]
  | cons o handle ih =>
      cases o with
      | none => simp [recvLoop, left, due_none, receiveAll]
      | some f =>
          unfold recvLoop
          by_cases hcount : count < 64
          · obtain ⟨room, hroom⟩ : ∃ room, 64 - count = room + 1 := ⟨63 - count, by omega⟩
            by_cases hf : f.length ≤ bufSize
            · have hnext : 64 - (count + 1) = room := by omega
              rw [if_pos hcount, if_neg (Nat.not_lt.mpr hf), ih, hnext, hroom, due_of_le hf]
              simp only [left, hf, if_true, List.length_cons, receiveAll, List.foldl_cons]
              rw [Nat.add_right_comm, Nat.add_assoc]
            · rw [if_pos hcount, if_pos (Nat.lt_of_not_le hf), ih, hroom, due_of_gt hf]
              simp only [left, hf, if_false]
          · have hroom : 64 - count = 0 := by omega
            rw [if_neg hcount, hroom, due_zero]
            simp [left, receiveAll]

/-! ### One batch -/

variable {b : PcapBackend P} {spArray : Vector (Option P) 64}

/-- A call returns the batch, or aborts if nothing is due. -/
theorem recvBatch_eq_some_iff {pkts : BufArray (Option P)} {b' : PcapBackend P} :
    b.recvBatch alloc spArray = some (pkts, b') ↔
      BufArray.new (spArray.toList.take (due 64 b.handle).length) = some pkts ∧
        b' = { receiveAll alloc (due 64 b.handle) b with handle := left 64 b.handle } := by
  unfold recvBatch
  rw [recvLoop_eq]
  simp only [Nat.sub_zero, Nat.zero_add, Option.map_eq_some_iff, Prod.mk.injEq]
  constructor
  · intro h
    obtain ⟨a, hnew, rfl, rfl⟩ := h
    exact And.intro hnew rfl
  · intro h
    exact Exists.intro pkts (And.intro h.1 (And.intro rfl h.2.symm))

/-- What is asked of a call: it returns the frames that are due, in order and with all their
bytes, and what it consumed beside them did not fit. -/
def Delivered (alloc : Nat → P) (b : PcapBackend P) (spArray : Vector (Option P) 64) : Prop :=
  ∃ pkts b', b.recvBatch alloc spArray = some (pkts, b') ∧
    b'.contents pkts = (due 64 b.handle).map some ∧
    ∃ consumed, b.handle = consumed ++ b'.handle ∧ fitting consumed = due 64 b.handle

/-- What it takes: a frame, none behind the sixty-fourth that would be lost, and an array that
happens to hold the packets `getPkt` is about to return, none of them twice. -/
structure Lucky (alloc : Nat → P) (b : PcapBackend P) (spArray : Vector (Option P) 64) : Prop where
  offered : due 64 b.handle ≠ []
  kept : ¬ Spills 64 b.handle
  array : spArray.toList.take (due 64 b.handle).length
    = (handedOut alloc b (due 64 b.handle).length).map some
  distinct : (handedOut alloc b (due 64 b.handle).length).Nodup

theorem delivered_of_lucky (h : Lucky alloc b spArray) : Delivered alloc b spArray := by
  have hpos := List.length_pos_of_ne_nil h.offered
  have hle := length_due_le 64 b.handle
  have hlen : (spArray.toList.take (due 64 b.handle).length).length = (due 64 b.handle).length := by
    rw [List.length_take, Vector.length_toList]
    omega
  obtain ⟨pkts, hnew⟩ := BufArray.exists_new (spArray.toList.take (due 64 b.handle).length)
    (by omega) (by omega)
  obtain ⟨-, -, hpkts, -⟩ := BufArray.new_eq_some hnew
  obtain ⟨consumed, lost, heq, hfit, hlost⟩ := exists_consumed b.handle 64
  rw [hlost.mpr h.kept, List.append_nil] at hfit
  refine ⟨pkts, _, recvBatch_eq_some_iff.mpr (And.intro hnew rfl), ?_, consumed, heq, hfit⟩
  have hdue : ∀ f ∈ due 64 b.handle, f.length ≤ bufSize :=
    fun f hf => length_le_of_mem_fitting (List.mem_of_mem_take hf)
  have hcontent := content_receiveAll hdue h.distinct
  rw [contents, hpkts, h.array, List.map_map]
  exact hcontent

/-- Without a frame the call aborts, and a frame that spills is lost. -/
theorem offered_of_delivered (h : Delivered alloc b spArray) :
    due 64 b.handle ≠ [] ∧ ¬ Spills 64 b.handle := by
  obtain ⟨pkts, b', hrecv, -, consumed, heq, hfit⟩ := h
  obtain ⟨hnew, rfl⟩ := recvBatch_eq_some_iff.mp hrecv
  refine And.intro ?_ ?_
  · intro hnil
    obtain ⟨hpos, -⟩ := BufArray.new_eq_some hnew
    rw [hnil] at hpos
    simp at hpos
  · intro hspill
    obtain ⟨consumed', lost, heq', hfit', hlost⟩ := exists_consumed b.handle 64
    have hsame : consumed = consumed' := List.append_cancel_right (heq.symm.trans heq')
    rw [← hsame, hfit] at hfit'
    exact hlost.mp (List.self_eq_append_right.mp hfit') hspill

/-- An array without a pointer to a packet in it is as good as any other. -/
theorem not_delivered (alloc : Nat → P) (b : PcapBackend P) :
    ¬ Delivered alloc b (Vector.replicate 64 none) := by
  intro h
  have hne := (offered_of_delivered h).1
  obtain ⟨pkts, b', hrecv, hcontents, -⟩ := h
  obtain ⟨hnew, -⟩ := recvBatch_eq_some_iff.mp hrecv
  obtain ⟨-, -, hpkts, -⟩ := BufArray.new_eq_some hnew
  obtain ⟨f, hf⟩ := List.exists_mem_of_ne_nil _ hne
  have hmem : some f ∈ b'.contents pkts := by
    rw [hcontents]
    exact List.mem_map.mpr (Exists.intro f (And.intro hf rfl))
  obtain ⟨p, hp, hcontent⟩ := List.mem_map.mp hmem
  rw [hpkts] at hp
  have hnone : p = none := by
    simpa using List.mem_of_mem_take hp
  rw [hnone] at hcontent
  simp [content] at hcontent

/-- What a session has got is what was consumed of the frames that were offered, without those
that do not fit. -/
theorem got_of_steps {handle : List (Option Frame)} {x : Session P}
    (hstart : b.handle = handle)
    (hrun : Steps (Session.Does alloc (Lucky alloc)) { backend := b, got := [] } x) :
    ∃ consumed, handle = consumed ++ x.backend.handle ∧ x.got = (fitting consumed).map some := by
  refine Steps.invariant (P := fun x : Session P => ∃ consumed,
    handle = consumed ++ x.backend.handle ∧ x.got = (fitting consumed).map some) ?_ ?_ hrun
  · exact Exists.intro [] (And.intro hstart.symm rfl)
  · intro y i z hy hstep
    obtain ⟨consumed, heq, hgot⟩ := hy
    cases hstep with
    | recvBatch hok hrecv =>
        obtain ⟨pkts, b', hrecv', hcontents, next, hnext, hfit⟩ := delivered_of_lucky hok
        rw [hrecv, Option.some.injEq, Prod.mk.injEq] at hrecv'
        obtain ⟨rfl, rfl⟩ := hrecv'
        refine Exists.intro (consumed ++ next) (And.intro ?_ ?_)
        · rw [heq, hnext, List.append_assoc]
        · rw [hcontents, hgot, fitting_append, hfit, List.map_append]
    | other h => exact Exists.intro consumed (And.intro (by rw [heq, h]) hgot)

/-- **Where every call is lucky, every frame that fits is delivered**, once and in order.  No call
is delivered without a frame, or with one that spills, and none whatever `malloc` returns. -/
theorem recvBatch_delivers (alloc : Nat → P) (b : PcapBackend P) :
    (∀ x, Steps (Session.Does alloc (Lucky alloc)) { backend := b, got := [] } x →
      (∃ consumed, b.handle = consumed ++ x.backend.handle ∧
        x.got = (fitting consumed).map some) ∧
      ∀ spArray, Lucky alloc x.backend spArray → Delivered alloc x.backend spArray) ∧
    (∀ spArray, Delivered alloc b spArray → due 64 b.handle ≠ [] ∧ ¬ Spills 64 b.handle) ∧
    ¬ ∀ spArray, Delivered alloc b spArray := by
  refine And.intro ?_ (And.intro ?_ ?_)
  · intro x hrun
    exact And.intro (got_of_steps rfl hrun) fun spArray hok => delivered_of_lucky hok
  · intro spArray h
    exact offered_of_delivered h
  · intro h
    exact not_delivered alloc b (h _)

/-- A lucky call is a step of a session. -/
theorem Lucky.does {x : Session P} (h : Lucky alloc x.backend spArray) :
    ∃ got, Session.Does alloc (Lucky alloc) x (some spArray)
      { backend := { receiveAll alloc (due 64 x.backend.handle) x.backend with
          handle := left 64 x.backend.handle }
        got := got } := by
  obtain ⟨pkts, b', hrecv, -⟩ := delivered_of_lucky h
  have hb := (recvBatch_eq_some_iff.mp hrecv).2
  exact ⟨_, hb ▸ Session.Does.recvBatch h hrecv⟩

/-! ### Two calls -/

/-- A frame that does not fit. -/
def tooLong : Frame := List.replicate (bufSize + 1) 0

theorem length_tooLong : tooLong.length = 2049 := List.length_replicate

/-- A frame of one byte, one that is too long and, after a null, a frame of two bytes are offered,
and there are two packets in the pool. -/
def offersTwo : PcapBackend Nat where
  handle := [some [1], some tooLong, none, some [2, 3]]
  packetPool := [1, 0]
  mem := fun _ => { data := fun _ => 0, dataLen := 0 }
  given := 0

/-- The backend after the first call. -/
def tookOne : PcapBackend Nat :=
  { receiveAll (fun n => n + 2) [[1]] offersTwo with handle := [some [2, 3]] }

/-- An array that begins with a pointer to this packet. -/
def holds (p : Nat) : Vector (Option Nat) 64 := (Vector.replicate 64 none).set 0 (some p)

theorem due_offersTwo : due 64 offersTwo.handle = [[1]] := by
  simp [offersTwo, due, fitting, length_tooLong, bufSize]

theorem due_tookOne : due 64 tookOne.handle = [[2, 3]] := by
  simp [tookOne, due, fitting, bufSize]

theorem left_offersTwo : left 64 offersTwo.handle = [some [2, 3]] := by
  simp [offersTwo, left, length_tooLong, bufSize]

theorem lucky_offersTwo : Lucky (fun n => n + 2) offersTwo (holds 0) where
  offered := by simp [due_offersTwo]
  kept := by simp [offersTwo, Spills, length_tooLong, bufSize]
  array := by
    rw [due_offersTwo]
    decide
  distinct := by
    rw [due_offersTwo]
    decide

theorem lucky_tookOne : Lucky (fun n => n + 2) tookOne (holds 1) where
  offered := by simp [due_tookOne]
  kept := by simp [tookOne, Spills, bufSize]
  array := by
    rw [due_tookOne]
    decide
  distinct := by
    rw [due_tookOne]
    decide

/-- Two calls get the two frames that fit. -/
theorem recvBatch_delivers_two : ∃ x,
    Steps (Session.Does (fun n => n + 2) (Lucky fun n => n + 2)) { backend := offersTwo, got := [] }
      x ∧ x.backend.handle = [] ∧ x.got = [some [1], some [2, 3]] := by
  obtain ⟨got, hfirst⟩ :=
    Lucky.does (x := { backend := offersTwo, got := [] }) lucky_offersTwo
  dsimp only at hfirst
  rw [due_offersTwo, left_offersTwo] at hfirst
  obtain ⟨got', hsecond⟩ := Lucky.does (x := { backend := tookOne, got := got }) lucky_tookOne
  have hleft : left 64 tookOne.handle = [] := by simp [tookOne, left, bufSize]
  dsimp only at hsecond
  rw [hleft] at hsecond
  have hrun := (Steps.refl.step _ hfirst).step _ hsecond
  obtain ⟨⟨consumed, heq, hgot⟩, -⟩ := (recvBatch_delivers (fun n => n + 2) offersTwo).1 _ hrun
  refine ⟨_, hrun, rfl, hgot.trans ?_⟩
  rw [List.append_nil] at heq
  rw [← heq]
  simp [offersTwo, fitting, length_tooLong, bufSize]

/-- A frame of one byte is offered, and there is a packet in the pool. -/
def offersOne : PcapBackend Nat where
  handle := [some [1]]
  packetPool := [0]
  mem := fun _ => { data := fun _ => 0, dataLen := 0 }
  given := 0

/-- The array has no pointer to a packet in it. -/
theorem recvBatch_not_delivered :
    ¬ Delivered (fun n => n + 1) offersOne (Vector.replicate 64 none) :=
  not_delivered (fun n => n + 1) offersOne

end packets

end MoonState.PcapBackend
