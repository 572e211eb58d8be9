/-
What the pieces of `runEst` change in a connection.

`runEst` answers a packet in one of three ways: it aborts, it repeats what it
expects, or it serves the packet.  The calls of the protocol touch only the queue,
`seqLocal` and the wish to close; sending touches only the two lists of segments
and counters nothing else reads.
-/
import MoonState.Model.TcpRun
import MoonState.Proofs.Headers

namespace MoonState.TCP

open Headers

variable {σ κ : Type}

/-! ### The calls of a protocol -/

namespace Connection

theorem enqueue_frame (c : Connection σ κ) (data : List UInt8) (dataLen : Nat) : ∃ q n,
    c.enqueue data dataLen = { c with dataToSend := q, seqLocal := n } :=
  ⟨_, _, rfl⟩

theorem sendRest_frame (data : List UInt8) :
    ∀ (fuel totalLen : Nat) (c : Connection σ κ), ∃ q n,
      sendRest data fuel totalLen c = { c with dataToSend := q, seqLocal := n } := by
  intro fuel
  induction fuel with
  | zero => exact fun _ c => ⟨c.dataToSend, c.seqLocal, rfl⟩
  | succ fuel ih =>
      intro totalLen c
      rw [sendRest]
      split
      · obtain ⟨q, n, h⟩ := ih (totalLen + min (data.length - totalLen) MSS)
          (c.enqueue ((data.drop totalLen).take (min (data.length - totalLen) MSS))
            (min (data.length - totalLen) MSS))
        obtain ⟨q', n', h'⟩ := c.enqueue_frame
          ((data.drop totalLen).take (min (data.length - totalLen) MSS))
          (min (data.length - totalLen) MSS)
        rw [h, h']
        exact ⟨q, n, rfl⟩
      · exact ⟨c.dataToSend, c.seqLocal, rfl⟩

/-- What one call can change. -/
theorem iface_frame (c : Connection σ κ) (x : IfaceCall) : ∃ q n b,
    c.iface x = { c with dataToSend := q, seqLocal := n, closeConnectionAfterSending := b } := by
  cases x with
  | close => exact ⟨c.dataToSend, c.seqLocal, true, rfl⟩
  | sendData data =>
      show ∃ q n b, c.sendData data = _
      unfold sendData
      split
      · obtain ⟨q, n, h⟩ := c.enqueue_frame data data.length
        exact ⟨q, n, c.closeConnectionAfterSending, h⟩
      · obtain ⟨q, n, h⟩ := sendRest_frame data data.length MSS (c.enqueue data MSS)
        obtain ⟨q', n', h'⟩ := c.enqueue_frame data MSS
        rw [h, h']
        exact ⟨q, n, c.closeConnectionAfterSending, rfl⟩

/-- What all of them can change. -/
theorem foldl_iface_frame (calls : List IfaceCall) (c : Connection σ κ) : ∃ q n b,
    calls.foldl iface c
      = { c with dataToSend := q, seqLocal := n, closeConnectionAfterSending := b } := by
  induction calls generalizing c with
  | nil => exact ⟨c.dataToSend, c.seqLocal, c.closeConnectionAfterSending, rfl⟩
  | cons x calls ih =>
      obtain ⟨q, n, b, hx⟩ := c.iface_frame x
      obtain ⟨q', n', b', h⟩ := ih (c.iface x)
      refine ⟨q', n', b', ?_⟩
      rw [List.foldl_cons, h, hx]

section stream

variable {P : List UInt8 → Connection σ κ → Prop}

theorem sendRest_induct (henqueue : ∀ B c data len, P B c → len ≤ data.length → len ≤ MSS →
      P (B ++ data.take len) (c.enqueue data len)) (data : List UInt8) :
    ∀ (fuel total : Nat) {B : List UInt8} {c : Connection σ κ}, P B c →
      data.length ≤ total + fuel → P (B ++ data.drop total) (sendRest data fuel total c) := by
  intro fuel
  induction fuel with
  | zero =>
      intro total B c h hfuel
      have hall : data.length ≤ total := hfuel
      rw [List.drop_eq_nil_of_le hall, List.append_nil]
      exact h
  | succ fuel ih =>
      intro total B c h hfuel
      rw [sendRest]
      by_cases hlt : total < data.length
      · rw [if_pos hlt]
        have hmss : MSS = 1460 := rfl
        have htake : ((data.drop total).take (min (data.length - total) MSS)).length
            = min (data.length - total) MSS := by
          rw [List.length_take, List.length_drop]
          omega
        have h' := henqueue B c ((data.drop total).take (min (data.length - total) MSS))
          (min (data.length - total) MSS) h (Nat.le_of_eq htake.symm) (Nat.min_le_right _ _)
        rw [List.take_take, Nat.min_self] at h'
        have hrec := ih (total + min (data.length - total) MSS) h' (by omega)
        rwa [List.append_assoc, ← List.drop_drop, List.take_append_drop] at hrec
      · rw [if_neg hlt, List.drop_eq_nil_of_le (Nat.not_lt.mp hlt), List.append_nil]
        exact h

/-- **What holds of the connection and its stream after any calls of the protocol**: what
putting one segment at the end keeps, and closing. -/
theorem calls_induct (henqueue : ∀ B c data len, P B c → len ≤ data.length → len ≤ MSS →
      P (B ++ data.take len) (c.enqueue data len)) (hclose : ∀ B c, P B c → P B c.close)
    (calls : List IfaceCall) : ∀ {B : List UInt8} {c : Connection σ κ}, P B c →
      P (B ++ calls.flatMap IfaceCall.bytes) (calls.foldl iface c) := by
  induction calls with
  | nil =>
      intro B c h
      rw [List.flatMap_nil, List.append_nil]
      exact h
  | cons x calls ih =>
      intro B c h
      rw [List.flatMap_cons, ← List.append_assoc, List.foldl_cons]
      refine ih ?_
      cases x with
      | close =>
          rw [show IfaceCall.close.bytes = [] from rfl, List.append_nil]
          exact hclose B c h
      | sendData data =>
          show P (B ++ data) (c.sendData data)
          unfold sendData
          by_cases hshort : data.length ≤ MSS
          · rw [if_pos hshort]
            have h' := henqueue B c data data.length h (Nat.le_refl _) hshort
            rwa [List.take_length] at h'
          · rw [if_neg hshort]
            have h' := henqueue B c data MSS h (by omega) (Nat.le_refl _)
            have hrest := sendRest_induct henqueue data data.length MSS h' (by omega)
            rwa [List.append_assoc, List.take_append_drop] at hrest

end stream

end Connection

/-! ### Congestion control and sending -/

/-- The ways the congestion control goes. -/
theorem Connection.control_cases (conCtl : ConCtl κ) (c : Connection σ κ) (ack : UInt32) :
    ∃ k, c.control conCtl ack = { c with conCtl := k } ∨
      ∃ r, c.control conCtl ack = ({ c with conCtl := k } : Connection σ κ).resend r := by
  unfold control
  cases h : conCtl.reset (conCtl.handlePacket c.conCtl c.seqLocal ack) with
  | mk o k =>
      cases o with
      | none => exact ⟨k, Or.inl rfl⟩
      | some r => exact ⟨k, Or.inr ⟨r, rfl⟩⟩

/-- Acknowledging changes no counter and no wish to close. -/
theorem Connection.acknowledge_frame (conCtl : ConCtl κ) (c : Connection σ κ) (m : Mem)
    (tcp : Nat) : ∃ q l w k, c.acknowledge conCtl m tcp
      = { c with dataToSend := q, dataAlreadySent := l, sendWindow := w, conCtl := k } := by
  unfold acknowledge
  dsimp only
  obtain ⟨k, h | ⟨r, h⟩⟩ := (c.eraseAcked (Tcp.getAck m tcp)).control_cases conCtl
    (Tcp.getAck m tcp)
  · exact ⟨c.dataToSend, _, _, k, by rw [h]; rfl⟩
  · exact ⟨_, _, _, k, by rw [h]; rfl⟩

/-- Advancing changes `seqRemote` and the wish to close. -/
theorem Connection.advance_frame (c : Connection σ κ) (m : Mem) (ip tcp : Nat) : ∃ n b,
    c.advance m ip tcp = { c with seqRemote := n, closeConnectionAfterSending := b } := by
  unfold advance
  dsimp only
  split
  · exact ⟨_, true, rfl⟩
  · exact ⟨_, c.closeConnectionAfterSending, rfl⟩

theorem transmit_frame (conCtl : ConCtl κ) (c : Connection σ κ) (pkt : Mbuf) (tcp : Nat)
    (freePkt : Bool) : ∃ q l i k, (transmit conCtl c pkt tcp freePkt).1
      = { c with dataToSend := q, dataAlreadySent := l, ipID := i, conCtl := k } := by
  unfold transmit
  dsimp only
  split
  · exact ⟨c.dataToSend, c.dataAlreadySent, c.ipID, c.conCtl, rfl⟩
  · exact ⟨_, _, _, _, rfl⟩

/-! ### Serving a packet -/

@[simp] theorem finish_handed (c : Connection σ κ) (s : Sending) (d : Delivery σ) :
    (finish c s d).handed = d.handed := by
  unfold finish
  split <;> rfl

@[simp] theorem finish_calls (c : Connection σ κ) (s : Sending) (d : Delivery σ) :
    (finish c s d).calls = d.calls := by
  unfold finish
  split <;> rfl

@[simp] theorem finish_seqRemote (c : Connection σ κ) (s : Sending) (d : Delivery σ) :
    (finish c s d).conn.seqRemote = c.seqRemote := by
  unfold finish
  split <;> rfl

section serve

variable {proto : Proto σ} {conCtl : ConCtl κ} {c : Connection σ κ} {pkt : Mbuf} {ip tcp : Nat}

/-- What the protocol makes of the packet. -/
def delivery (proto : Proto σ) (c : Connection σ κ) (pkt : Mbuf) (ip tcp : Nat) : Delivery σ :=
  deliver proto (c.advance pkt.data ip tcp).proto
    (answerHeader (c.advance pkt.data ip tcp) pkt.data tcp) ip tcp

theorem serve_handed :
    (serve proto conCtl c pkt ip tcp).handed = (delivery proto c pkt ip tcp).handed :=
  finish_handed _ _ _

theorem serve_seqRemote : (serve proto conCtl c pkt ip tcp).conn.seqRemote
    = (c.advance pkt.data ip tcp).seqRemote := by
  refine (finish_seqRemote _ _ _).trans ?_
  obtain ⟨q, l, i, k, h⟩ := transmit_frame conCtl
    ((delivery proto c pkt ip tcp).calls.foldl Connection.iface
      { c.advance pkt.data ip tcp with proto := (delivery proto c pkt ip tcp).proto })
    { pkt with data := answerHeader (c.advance pkt.data ip tcp) pkt.data tcp } tcp
    (!decide (payloadLen (answerHeader (c.advance pkt.data ip tcp) pkt.data tcp) ip tcp > 0))
  obtain ⟨q', n, b, h'⟩ := Connection.foldl_iface_frame (delivery proto c pkt ip tcp).calls
    { c.advance pkt.data ip tcp with proto := (delivery proto c pkt ip tcp).proto }
  refine (congrArg Connection.seqRemote h).trans ?_
  rw [h']

end serve

/-! ### The three ways -/

theorem runEst_of_expected (proto : Proto σ) (conCtl : ConCtl κ) {c : Connection σ κ} {f : Mbuf}
    (h : Expected c f) : runEst proto conCtl c f
      = serve proto conCtl (c.acknowledge conCtl f.swapped f.tcp) { f with data := f.swapped }
          sizeofEthernet f.tcp := by
  obtain ⟨q, l, w, k, hack⟩ := c.acknowledge_frame conCtl f.swapped f.tcp
  obtain ⟨hflags, hseq⟩ := h
  unfold runEst
  dsimp only
  rw [if_neg (by show ¬ badFlags f.swapped f.tcp = true; simp [hflags])]
  exact if_neg (fun hne => hne (by
    show Tcp.getSeq f.swapped f.tcp = (c.acknowledge conCtl f.swapped f.tcp).seqRemote
    rw [hack]
    exact hseq))

theorem runEst_of_bad (proto : Proto σ) (conCtl : ConCtl κ) (c : Connection σ κ) {f : Mbuf}
    (h : badFlags f.swapped f.tcp = true) :
    runEst proto conCtl c f = abort c f.swapped sizeofEthernet f.tcp :=
  if_pos h

theorem runEst_of_unexpected (proto : Proto σ) (conCtl : ConCtl κ) {c : Connection σ κ} {f : Mbuf}
    (hflags : badFlags f.swapped f.tcp = false)
    (hseq : Tcp.getSeq f.swapped f.tcp ≠ c.seqRemote) : runEst proto conCtl c f
      = goBackN (c.acknowledge conCtl f.swapped f.tcp) f.swapped sizeofEthernet f.tcp := by
  obtain ⟨q, l, w, k, hack⟩ := c.acknowledge_frame conCtl f.swapped f.tcp
  unfold runEst
  dsimp only
  rw [if_neg (by show ¬ badFlags f.swapped f.tcp = true; simp [hflags])]
  refine if_pos ?_
  show Tcp.getSeq f.swapped f.tcp ≠ (c.acknowledge conCtl f.swapped f.tcp).seqRemote
  rw [hack]
  exact hseq

/-- Every packet goes one of the three ways. -/
theorem runEst_cases (c : Connection σ κ) (f : Mbuf) :
    badFlags f.swapped f.tcp = true ∨
    (badFlags f.swapped f.tcp = false ∧ Tcp.getSeq f.swapped f.tcp ≠ c.seqRemote) ∨
    Expected c f := by
  by_cases hflags : badFlags f.swapped f.tcp = true
  · exact Or.inl hflags
  · rw [Bool.not_eq_true] at hflags
    by_cases hseq : Tcp.getSeq f.swapped f.tcp = c.seqRemote
    · exact Or.inr (Or.inr ⟨hflags, hseq⟩)
    · exact Or.inr (Or.inl ⟨hflags, hseq⟩)

/-- A connection that was refused is not served. -/
theorem Session.Run.eq_of_ne_est {proto : Proto σ} {conCtl : ConCtl κ}
    {ok : Session σ κ → Mbuf → Prop} {s s' : Session σ κ} (h : Session.Run proto conCtl ok s s')
    (hs : s.state ≠ States.est) : s' = s := by
  induction h with
  | refl => rfl
  | step f h hest hok ih =>
      rw [ih] at hest
      exact absurd hest hs

end MoonState.TCP
