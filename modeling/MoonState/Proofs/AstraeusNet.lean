/-
Every connection is a dialog.

`View` is what the machines and the network hold in terms of handles and frames, and
`View.dialog` is one connection of it.  A packet that a machine gets is of one 5-tuple; it
moves the dialog of that one by a step of `Dialog.Step` and leaves all others alone, since
what is sent has the 5-tuple of the connection (`identify_object_answer`).  For that every
frame must have an IHL of five words, which the buffers of new connections have and
answers keep.
-/
import MoonState.Model.AstraeusNet
import MoonState.Lib.Steps
import MoonState.Proofs.AstraeusClient
import MoonState.Proofs.DtlsFrames
import MoonState.Proofs.HelloBye

namespace MoonState

open Headers
open DTLS (Mbuf allHeaderLength)
open IPv4_5TupleL2Ident (ConnectionID)

namespace Astraeus

variable {ι H L : Type} {noncelen : Nat}

/-! ### Frames -/

/-- The payload is where the library reads it, and the headers are in front of it. -/
structure Plain (p : Mbuf) : Prop where
  ihl : IPv4.ihl p.data 14 = 5
  proto : IPv4.proto p.data 14 = IPv4.PROTO_UDP

/-- The payload of a frame. -/
def message (p : Mbuf) : List UInt8 := p.data.read allHeaderLength (p.dataLen.toNat - allHeaderLength)

theorem Plain.getPayload {p : Mbuf} (h : Plain p) : IPv4.getPayload p.data 14 = 34 := by
  unfold IPv4.getPayload
  rw [h.ihl]
  rfl

theorem Plain.five_le {p : Mbuf} (h : Plain p) : 5 ≤ (IPv4.ihl p.data 14).toNat := by
  rw [h.ihl]
  decide

/-- Only the fields that are read matter. -/
theorem Plain.congr {p q : Mbuf} (h : Plain p) (hihl : q.data 14 = p.data 14)
    (hproto : q.data 23 = p.data 23) : Plain q := by
  refine ⟨?_, hproto.trans h.proto⟩
  rw [← h.ihl]
  unfold IPv4.ihl
  rw [hihl]

theorem plain_filled (p : Mbuf) : Plain (filled p) := by
  have hdata : (filled p).data
      = (IPv4.setIHL (IPv4.setVersion p.data 14) 14 5).set8 23 IPv4.PROTO_UDP := rfl
  refine ⟨?_, ?_⟩
  · unfold IPv4.ihl
    rw [hdata, Mem.set8_of_ne _ (by decide), IPv4.setIHL_setVersion]
    rfl
  · unfold IPv4.proto
    rw [hdata, Mem.set8_self]

theorem Plain.answer {p : Mbuf} (h : Plain p) (c : astraeusClient H) (bytes : List UInt8) (n : Int) :
    Plain (c.answer bytes n p) := by
  have hpayload := h.getPayload
  exact h.congr (answer_of_notMem c (by omega) (by omega) (by omega))
    (answer_of_notMem c (by omega) (by omega) (by omega))

/-- A part of memory, from its own start. -/
theorem read_payload (m : Mem) (k : Nat) : (payload m).read 0 k = m.read allHeaderLength k := by
  unfold payload Mem.read
  refine List.ext_getElem (by simp) fun j hj hj' => ?_
  simp

theorem payload_write (m : Mem) (bytes : List UInt8) :
    payload (m.write allHeaderLength bytes) = (payload m).write 0 bytes := by
  funext k
  unfold payload Mem.write
  simp

/-- The payload of an answer is what the library has left there. -/
theorem message_answer {p : Mbuf} (h : Plain p) (c : astraeusClient H) (bytes : List UInt8) (n : Int) :
    message (c.answer bytes n p) = Dialog.written (payload p.data) bytes n := by
  have hpayload : IPv4.getPayload (p.data.write allHeaderLength bytes) 14 = 34 := by
    rw [← h.getPayload]
    exact IPv4.getPayload_congr (Mem.write_of_notMem (Or.inl (by decide)))
  unfold message Dialog.written
  rw [← payload_write, read_payload]
  refine Mem.read_congr fun j hj _ => ?_
  have hj' : 42 ≤ j := hj
  exact setHeader_of_notMem c (by omega) (by omega)

/-- What arrives is the frame that was sent, as far as anybody looks at it. -/
theorem Plain.delivered {p : Mbuf} (h : Plain p) (hlen : allHeaderLength ≤ p.dataLen.toNat)
    (buf : Mbuf) :
    Plain (delivered p buf) ∧
      IPv4_5TupleL2Ident.identify (delivered p buf).data = IPv4_5TupleL2Ident.identify p.data ∧
      (payload (delivered p buf).data).read 0 (message p).length = message p := by
  have hlen' : 42 ≤ p.dataLen.toNat := hlen
  have hkept : ∀ j, kept p j = true → (Astraeus.delivered p buf).data j = p.data j :=
    fun j hj => if_pos hj
  have hkeep : ∀ j, 12 ≤ j → j < p.dataLen.toNat → j ∉ ([22, 24, 25, 40, 41] : List Nat) →
      (Astraeus.delivered p buf).data j = p.data j := by
    intro j h₁ h₂ h₃
    refine hkept j ?_
    unfold kept
    simp only [Bool.and_eq_true, decide_eq_true_eq, Bool.not_eq_true', List.contains_eq_mem,
      decide_eq_false_iff_not]
    exact ⟨⟨h₁, h₂⟩, h₃⟩
  have hihl := hkeep 14 (by omega) (by omega) (by decide)
  have hproto := hkeep 23 (by omega) (by omega) (by decide)
  refine ⟨h.congr hihl hproto, IPv4_5TupleL2Ident.identify_congr hihl hproto ?_ ?_, ?_⟩
  · intro j h₁ h₂
    exact hkeep j (by omega) (by omega) (by simp; omega)
  · intro j h₁ h₂
    rw [h.getPayload] at h₁ h₂
    exact hkeep j (by omega) (by omega) (by simp; omega)
  · unfold message
    rw [Mem.length_read, read_payload]
    refine Mem.read_congr fun j h₁ h₂ => ?_
    have h₁' : 42 ≤ j := h₁
    have h₂' : j < 42 + (p.dataLen.toNat - 42) := h₂
    exact hkeep j (by omega) (by omega) (by simp; omega)

/-! ### Payloads -/

/-- The payloads of the frames with this 5-tuple. -/
def messages (id : ConnectionID) (log : List Mbuf) : List (List UInt8) :=
  (log.filter fun p => IPv4_5TupleL2Ident.identify p.data = some id).map message

@[simp] theorem messages_nil (id : ConnectionID) : messages id [] = [] := rfl

theorem messages_append (id : ConnectionID) (log log' : List Mbuf) :
    messages id (log ++ log') = messages id log ++ messages id log' := by
  unfold messages
  rw [List.filter_append, List.map_append]

theorem messages_singleton {id : ConnectionID} {p : Mbuf}
    (hp : IPv4_5TupleL2Ident.identify p.data = some id) (j : ConnectionID) :
    messages j [p] = if j = id then [message p] else [] := by
  unfold messages
  by_cases hj : j = id
  · rw [if_pos hj, hj, List.filter_cons_of_pos (by simpa using hp)]
    rfl
  · rw [if_neg hj, List.filter_cons_of_neg (by simpa [hp] using Ne.symm hj)]
    rfl

/-- The packet has a payload that was sent to its connection. -/
structure Arrives (log : List Mbuf) (p : Mbuf) : Prop where
  plain : Plain p
  payload : ∀ id, IPv4_5TupleL2Ident.identify p.data = some id →
    ∃ msg ∈ messages id log, (payload p.data).read 0 msg.length = msg

theorem arrives_of_mem {log : List Mbuf} (hlog : ∀ p ∈ log, Plain p) {ds : List Delivery} {p : Mbuf}
    (hp : p ∈ arriving log ds) : Arrives log p := by
  unfold arriving at hp
  obtain ⟨d, -, hd⟩ := List.mem_filterMap.mp hp
  obtain ⟨frame, hframe, hd⟩ := Option.bind_eq_some_iff.mp hd
  have hmem : frame ∈ log := List.mem_of_getElem? hframe
  split at hd
  · rename_i hlen
    obtain rfl := Option.some.inj hd
    obtain ⟨hplain, hident, hread⟩ := (hlog frame hmem).delivered hlen d.buf
    refine ⟨hplain, fun id hid => ⟨message frame, ?_, hread⟩⟩
    exact List.mem_map_of_mem (List.mem_filter.mpr ⟨hmem, by simpa using hident.symm.trans hid⟩)
  · exact absurd hd (by simp)

theorem sentPkts_cons (out : Mbuf × Bool) (outs : List (Mbuf × Bool)) :
    sentPkts (out :: outs) = sentPkts [out] ++ sentPkts outs := by
  unfold sentPkts
  rw [← List.map_append, ← List.filter_append]
  rfl

section shake

variable (o : AstraeusProto H L noncelen) (hh : H → Mem → H × List UInt8 × Int) {id : ConnectionID}
  (handle : H) {p : Mbuf} (hplain : Plain p) (hp : IPv4_5TupleL2Ident.identify p.data = some id)

include hplain in
/-- What is answered is a frame again. -/
theorem plain_shake : ∀ q ∈ sentPkts [(shake o hh id handle p).2], Plain q := by
  intro q hq
  obtain ⟨out, hout, rfl⟩ := List.mem_map.mp hq
  obtain rfl := List.mem_singleton.mp (List.mem_of_mem_filter hout)
  exact hplain.answer _ _ _

include hplain hp in
/-- What is answered is a payload of the connection, the other way. -/
theorem messages_shake (j : ConnectionID) :
    messages j.reverse (sentPkts [(shake o hh id handle p).2]) = if j = id then
      (Dialog.after o (payload p.data) (hh handle (payload p.data))).2 else [] := by
  generalize hr : hh handle (payload p.data) = r
  have hshake : (shake o hh id handle p).2
      = ((object id r.1).answer r.2.1 r.2.2 p, !decide (r.2.2 ≤ 0)) := by rw [← hr]; rfl
  rw [hshake]
  unfold Dialog.after
  by_cases hn : r.2.2 ≤ 0
  · rw [if_pos hn, ite_self, decide_eq_true hn]
    rfl
  · rw [if_neg hn, decide_eq_false hn]
    show messages _ [_] = _
    rw [messages_singleton (identify_object_answer r.1 hplain.five_le hp), message_answer hplain]
    simp only [ConnectionID.reverse_inj]

end shake

/-! ### Handles and frames -/

/-- The handles on the cores of the client, in its pool and on the server, and what was sent. -/
structure View (ι H : Type) where
  tables : ι → ConnectionID → Option H
  pool : ConnectionID → Option H
  server : ConnectionID → Option H
  fromClient : List Mbuf
  fromServer : List Mbuf

namespace View

/-- A connection, by the 5-tuple of what its client receives. -/
def dialog (steer : ConnectionID → ι) (v : View ι H) (id : ConnectionID) : Dialog H where
  client := v.tables (steer id) id
  pool := v.pool id
  server := v.server id.reverse
  toServer := messages id.reverse v.fromClient
  toClient := messages id v.fromServer

/-- Connections are in the table of their core, and frames are plain. -/
structure Ok (steer : ConnectionID → ι) (v : View ι H) : Prop where
  steered : ∀ i id, steer id ≠ i → v.tables i id = none
  fromClient : ∀ p ∈ v.fromClient, Plain p
  fromServer : ∀ p ∈ v.fromServer, Plain p

/-- Every connection does steps of its own. -/
structure Goes (o : AstraeusProto H L noncelen) (steer : ConnectionID → ι) (v v' : View ι H) :
    Prop where
  ok : v'.Ok steer
  dialog : ∀ id, Steps (Dialog.Step o) (v.dialog steer id) (v'.dialog steer id)

variable {o : AstraeusProto H L noncelen} {steer : ConnectionID → ι} {v v' v'' : View ι H}

theorem Goes.refl (h : v.Ok steer) : v.Goes o steer v := ⟨h, fun _ => .refl⟩

theorem Goes.trans (h : v.Goes o steer v') (h' : v'.Goes o steer v'') : v.Goes o steer v'' :=
  ⟨h'.ok, fun id => (h.dialog id).trans (h'.dialog id)⟩

/-- A connection does a step, and no other one notices. -/
theorem Goes.of_one (h : v'.Ok steer) (id : ConnectionID) {party : Dialog.Party}
    (hone : Dialog.Step o (v.dialog steer id) party (v'.dialog steer id))
    (hne : ∀ j, j ≠ id → v'.dialog steer j = v.dialog steer j) : v.Goes o steer v' := by
  refine ⟨h, fun j => ?_⟩
  by_cases hj : j = id
  · rw [hj]
    exact Steps.refl.step party hone
  · rw [hne j hj]
    exact .refl

variable [DecidableEq ι]

/-- Core `i` has left its table, the pool and the network like that. -/
def client (v : View ι H) (i : ι) (f g : ConnectionID → Option H) (frames : List Mbuf) : View ι H :=
  { v with
    tables := Function.update v.tables i f
    pool := g
    fromClient := v.fromClient ++ frames }

/-- The server has left its table and the network like that. -/
def serve (v : View ι H) (f : ConnectionID → Option H) (frames : List Mbuf) : View ι H :=
  { v with
    server := f
    fromServer := v.fromServer ++ frames }

theorem client_client (v : View ι H) (i : ι) (f g f' g' : ConnectionID → Option H)
    (frames frames' : List Mbuf) :
    (v.client i f g frames).client i f' g' frames' = v.client i f' g' (frames ++ frames') := by
  unfold client
  dsimp only
  rw [Function.update_idem, List.append_assoc]

theorem client_self (v : View ι H) (i : ι) : v.client i (v.tables i) v.pool [] = v := by
  unfold client
  rw [Function.update_eq_self, List.append_nil]

omit [DecidableEq ι] in
theorem serve_serve (v : View ι H) (f f' : ConnectionID → Option H) (frames frames' : List Mbuf) :
    (v.serve f frames).serve f' frames' = v.serve f' (frames ++ frames') := by
  unfold serve
  dsimp only
  rw [List.append_assoc]

omit [DecidableEq ι] in
theorem serve_self (v : View ι H) : v.serve v.server [] = v := by
  unfold serve
  rw [List.append_nil]

/-! ### The client -/

theorem mem_append_plain {log frames : List Mbuf} (h : ∀ p ∈ log, Plain p)
    (h' : ∀ p ∈ frames, Plain p) : ∀ p ∈ log ++ frames, Plain p := by
  intro p hp
  exact (List.mem_append.mp hp).elim (h p) (h' p)

/-- A core leaves only connections in its table that are steered to it. -/
theorem Ok.client (h : v.Ok steer) {i : ι} {f g : ConnectionID → Option H} {frames : List Mbuf}
    (hf : ∀ id, steer id ≠ i → f id = none) (hframes : ∀ p ∈ frames, Plain p) :
    (v.client i f g frames).Ok steer := by
  refine ⟨fun j id hj => ?_, mem_append_plain h.fromClient hframes, h.fromServer⟩
  show Function.update v.tables i f j id = none
  by_cases hji : j = i
  · subst hji
    rw [Function.update_self]
    exact hf id hj
  · rw [Function.update_of_ne hji]
    exact h.steered j id hj

/-- A connection that the core does not touch. -/
theorem dialog_client {i : ι} {f g : ConnectionID → Option H} {frames : List Mbuf}
    {id : ConnectionID} (hf : f id = v.tables i id) (hg : g id = v.pool id)
    (hframes : messages id.reverse frames = []) :
    (v.client i f g frames).dialog steer id = v.dialog steer id := by
  unfold dialog client
  dsimp only
  rw [messages_append, hframes, List.append_nil, hg]
  by_cases hi : steer id = i
  · rw [hi, Function.update_self, hf]
  · rw [Function.update_of_ne hi]

/-- The connection that it touches. -/
theorem dialog_client_self {i : ι} {f g : ConnectionID → Option H} {frames : List Mbuf}
    {id : ConnectionID} (hi : steer id = i) : (v.client i f g frames).dialog steer id
      = { v.dialog steer id with
        client := f id
        pool := g id
        toServer := (v.dialog steer id).toServer ++ messages id.reverse frames } := by
  unfold dialog client
  dsimp only
  rw [messages_append, hi, Function.update_self]

open Astraeus_Client in
/-- **A packet that the client gets.** -/
theorem client_packet (hok : v.Ok steer) {i : ι} {p : Mbuf} (hp : Arrives v.fromServer p)
    (hsteer : Net.steered steer i p = true)
    {h : Held ConnectionID (Ptr (astraeusClient H)) (ι → Own L noncelen)}
    (hs : Holds (v.tables i) v.pool h) :
    ∃ h' out f g, (service o i).receive h p = some (h', out) ∧ Holds f g h' ∧
      v.Goes o steer (v.client i f g (sentPkts [out])) := by
  rcases receive_eq (o := o) (i := i) hs p with ⟨id, handle, g', h', hid, hfinds, hrec, hs', -⟩ | hrec
  · have hi : steer id = i := by
      unfold Net.steered at hsteer
      rw [hid] at hsteer
      simpa using hsteer
    obtain ⟨msg, hmsg, hread⟩ := hp.payload id hid
    have hmessages := messages_shake o o.handleHandshakeClient handle hp.plain hid
    have hfound : (v.dialog steer id).client = some handle ∧ g' id = (v.dialog steer id).pool ∨
        (v.dialog steer id).client = none ∧ (v.dialog steer id).pool = some handle ∧ g' id = none := by
      unfold dialog
      rw [hi]
      rcases hfinds with ⟨hf, rfl⟩ | ⟨hf, hg, rfl⟩
      · exact Or.inl ⟨hf, rfl⟩
      · exact Or.inr ⟨hf, hg, Function.update_self _ _ _⟩
    have hother : ∀ j, j ≠ id → g' j = v.pool j := by
      intro j hj
      rcases hfinds with ⟨-, rfl⟩ | ⟨-, -, rfl⟩
      · rfl
      · exact Function.update_of_ne hj _ _
    refine ⟨h', _, _, g', hrec, hs', Goes.of_one (hok.client (fun j hj => ?_)
      (plain_shake o o.handleHandshakeClient handle hp.plain)) id
      (?_ : Dialog.Step o _ .client _) fun j hj => ?_⟩
    · have hji : j ≠ id := by
        intro hc
        rw [hc] at hj
        exact hj hi
      rw [Function.update_of_ne hji]
      exact hok.steered i j hj
    · rw [dialog_client_self hi, hmessages, if_pos rfl, Function.update_self]
      exact Dialog.Step.client _ hread hmsg hfound
    · exact dialog_client (Function.update_of_ne hj _ _) (hother j hj) (by rw [hmessages, if_neg hj])
  · refine ⟨h, (p, false), v.tables i, v.pool, hrec, hs, ?_⟩
    rw [show sentPkts [(p, false)] = [] from rfl, client_self]
    exact Goes.refl hok

open Astraeus_Client in
/-- A batch that the client gets. -/
theorem client_batch {i : ι} (ps : List Mbuf) (hok : v.Ok steer)
    (hps : ∀ p ∈ ps, Arrives v.fromServer p ∧ Net.steered steer i p = true)
    {h : Held ConnectionID (Ptr (astraeusClient H)) (ι → Own L noncelen)}
    (hs : Holds (v.tables i) v.pool h) :
    ∃ h' outs f g, (service o i).receiveAll ps h = some (h', outs) ∧ Holds f g h' ∧
      v.Goes o steer (v.client i f g (sentPkts outs)) := by
  induction ps generalizing v h with
  | nil =>
      refine ⟨h, [], v.tables i, v.pool, rfl, hs, ?_⟩
      rw [show sentPkts [] = [] from rfl, client_self]
      exact Goes.refl hok
  | cons p ps ih =>
      obtain ⟨hp, hsteer⟩ := hps p List.mem_cons_self
      obtain ⟨h₁, out, f₁, g₁, hrec, hs₁, hgoes₁⟩ := client_packet (o := o) hok hp hsteer hs
      have htable : (v.client i f₁ g₁ (sentPkts [out])).tables i = f₁ := Function.update_self _ _ _
      obtain ⟨h', outs, f, g, hall, hs', hgoes⟩ := ih hgoes₁.ok
        (fun q hq => hps q (List.mem_cons_of_mem _ hq)) (by rw [htable]; exact hs₁)
      refine ⟨h', out :: outs, f, g, ?_, hs', ?_⟩
      · simp only [Service.receiveAll, hrec, hall, Option.map_some]
      · rw [client_client, ← sentPkts_cons] at hgoes
        exact hgoes₁.trans hgoes

/-! ### The server -/

omit [DecidableEq ι] in
theorem Ok.serve (h : v.Ok steer) {f : ConnectionID → Option H} {frames : List Mbuf}
    (hframes : ∀ p ∈ frames, Plain p) : (v.serve f frames).Ok steer :=
  ⟨h.steered, h.fromClient, mem_append_plain h.fromServer hframes⟩

omit [DecidableEq ι] in
/-- **A packet that the server gets.** -/
theorem server_packet (hok : v.Ok steer) {p : Mbuf} (hp : Arrives v.fromClient p)
    {h : Held ConnectionID (Ptr (astraeusClient H)) L} (hs : Astraeus_Server.Shows v.server h) :
    ∃ h' out f, (Astraeus_Server.service o).receive h p = some (h', out) ∧
      Astraeus_Server.Shows f h' ∧ v.Goes o steer (v.serve f (sentPkts [out])) := by
  cases hid : IPv4_5TupleL2Ident.identify p.data with
  | none =>
      refine ⟨h, (p, false), v.server, Astraeus_Server.receive_of_none hid, hs, ?_⟩
      rw [show sentPkts [(p, false)] = [] from rfl, serve_self]
      exact Goes.refl hok
  | some id =>
      obtain ⟨handle, h', hhandle, hrec, hs'⟩ := Astraeus_Server.receive_eq (o := o) hs hid
      obtain ⟨msg, hmsg, hread⟩ := hp.payload id hid
      have hmessages := messages_shake o o.handleHandshakeServer handle hp.plain hid
      refine ⟨h', _, _, hrec, hs', Goes.of_one (hok.serve
        (plain_shake o o.handleHandshakeServer handle hp.plain)) id.reverse
        (?_ : Dialog.Step o _ .server _) fun j hj => ?_⟩
      · have hdialog : ∀ (f : ConnectionID → Option H) (frames : List Mbuf),
            (v.serve f frames).dialog steer id.reverse
              = { v.dialog steer id.reverse with
                server := f id
                toClient := (v.dialog steer id.reverse).toClient ++ messages id.reverse frames } := by
          intro f frames
          unfold dialog serve
          dsimp only
          rw [messages_append, ConnectionID.reverse_reverse]
        rw [hdialog, hmessages, if_pos rfl, Function.update_self]
        exact Dialog.Step.server (v.dialog steer id.reverse) hread hmsg hhandle
      · have hjr : j.reverse ≠ id := fun hc => hj (by rw [← hc, ConnectionID.reverse_reverse])
        have hsilent := hmessages j.reverse
        rw [if_neg hjr, ConnectionID.reverse_reverse] at hsilent
        unfold dialog serve
        dsimp only
        rw [messages_append, hsilent, List.append_nil, Function.update_of_ne hjr]

omit [DecidableEq ι] in
/-- A batch that the server gets. -/
theorem server_batch (ps : List Mbuf) (hok : v.Ok steer) (hps : ∀ p ∈ ps, Arrives v.fromClient p)
    {h : Held ConnectionID (Ptr (astraeusClient H)) L} (hs : Astraeus_Server.Shows v.server h) :
    ∃ h' outs f, (Astraeus_Server.service o).receiveAll ps h = some (h', outs) ∧
      Astraeus_Server.Shows f h' ∧ v.Goes o steer (v.serve f (sentPkts outs)) := by
  induction ps generalizing v h with
  | nil =>
      refine ⟨h, [], v.server, rfl, hs, ?_⟩
      rw [show sentPkts [] = [] from rfl, serve_self]
      exact Goes.refl hok
  | cons p ps ih =>
      obtain ⟨h₁, out, f₁, hrec, hs₁, hgoes₁⟩ := server_packet (o := o) hok (hps p List.mem_cons_self) hs
      obtain ⟨h', outs, f, hall, hs', hgoes⟩ := ih (v := v.serve f₁ (sentPkts [out])) hgoes₁.ok
        (fun q hq => hps q (List.mem_cons_of_mem _ hq)) hs₁
      refine ⟨h', out :: outs, f, ?_, hs', ?_⟩
      · simp only [Service.receiveAll, hrec, hall, Option.map_some]
      · rw [serve_serve, ← sentPkts_cons] at hgoes
        exact hgoes₁.trans hgoes

/-! ### New connections -/

/-- The greeting is a frame of the connection. -/
theorem greeting_eq (config : Astraeus_Client.Config) (srcIP : UInt32) (srcPort : UInt16) {pkt : Mbuf}
    (hpkt : Plain pkt) (own : Astraeus_Client.Own L noncelen) :
    Plain (Astraeus_Client.greeting o config srcIP srcPort pkt own).2 ∧
      IPv4_5TupleL2Ident.identify (Astraeus_Client.greeting o config srcIP srcPort pkt own).2.data
        = some (Astraeus_Client.connectionID config srcIP srcPort).reverse := by
  refine ⟨hpkt.answer _ _ _, ?_⟩
  have hpayload := hpkt.getPayload
  have hudp : IPv4.proto pkt.data 14 = IPv4_5TupleL2Ident.IPPROTO_UDP := hpkt.proto
  unfold Astraeus_Client.greeting
  dsimp only
  rw [identify_answer _ (by omega), if_pos (Or.inl hudp), hpkt.proto]
  exact congrArg some (object_sends (Astraeus_Client.connectionID config srcIP srcPort) _)

open Astraeus_Client in
/-- **A new connection.** -/
theorem connect_one (hok : v.Ok steer) (config : Config) (i : ι) (srcIP : UInt32)
    (srcPort : UInt16) {pkt : Mbuf} (hpkt : Plain pkt) {x : Program ι H L noncelen}
    (hs : Shows o v.tables v.pool x) :
    ∃ x' g frame, connectOne o config i srcIP srcPort pkt x = (x', frame) ∧
      Shows o v.tables g x' ∧ v.Goes o steer (v.client i (v.tables i) g [frame]) := by
  obtain ⟨x', hone, hs', -⟩ := connectOne_eq hs config i srcIP srcPort pkt
  obtain ⟨hplain, hid⟩ := greeting_eq (o := o) config srcIP srcPort hpkt (x.rest i)
  refine ⟨x', _, _, hone, hs', Goes.of_one (hok.client (fun j hj => hok.steered i j hj) ?_)
    (connectionID config srcIP srcPort) (?_ : Dialog.Step o _ .client _) fun j hj => ?_⟩
  · intro p hp
    obtain rfl := List.mem_singleton.mp hp
    exact hplain
  · have hstep := Dialog.Step.opens (o := o)
      (v.dialog steer (connectionID config srcIP srcPort)) (payload pkt.data) (x.rest i).lib
      (x.rest i).nonce rfl
    have hmsg : message (greeting o config srcIP srcPort pkt (x.rest i)).2 = _ :=
      message_answer hpkt _ _ _
    rw [← hmsg] at hstep
    unfold dialog client
    dsimp only
    rw [Function.update_eq_self, messages_append, messages_singleton hid, if_pos rfl,
      Function.update_self]
    exact hstep
  · refine dialog_client rfl (Function.update_of_ne hj _ _) ?_
    rw [messages_singleton hid, if_neg fun hc => hj (ConnectionID.reverse_inj.mp hc)]

open Astraeus_Client in
/-- The loop. -/
theorem connect_all (config : Config) (i : ι) (srcIP : UInt32) (srcPort : UInt16) (pkts : List Mbuf)
    (k : Nat) (hok : v.Ok steer) (hpkts : ∀ pkt ∈ pkts, Plain pkt) {x : Program ι H L noncelen}
    (hs : Shows o v.tables v.pool x) :
    ∃ x' g frames,
      Astraeus_Client.connect o config i srcIP srcPort k pkts x = (x', frames) ∧
      Shows o v.tables g x' ∧ v.Goes o steer (v.client i (v.tables i) g frames) := by
  induction pkts generalizing k v x with
  | nil =>
      refine ⟨x, v.pool, [], rfl, hs, ?_⟩
      rw [client_self]
      exact Goes.refl hok
  | cons pkt pkts ih =>
      obtain ⟨x₁, g₁, frame, hone, hs₁, hgoes₁⟩ := connect_one hok config i srcIP
        (UInt16.ofNat (srcPort.toNat + k)) (hpkts pkt List.mem_cons_self) hs
      have htables : (v.client i (v.tables i) g₁ [frame]).tables = v.tables :=
        Function.update_eq_self _ _
      obtain ⟨x', g, frames, hloop, hs', hgoes⟩ := ih (k + 1) hgoes₁.ok
        (fun p hp => hpkts p (List.mem_cons_of_mem _ hp)) (by rw [htables]; exact hs₁)
      rw [htables] at hs' hgoes
      rw [client_client] at hgoes
      exact ⟨x', g, frame :: frames, by simp only [Astraeus_Client.connect, hone, hloop],
        hs', hgoes₁.trans hgoes⟩

end View

/-! ### Runs -/

variable [DecidableEq ι] {o : AstraeusProto H L noncelen} {steer : ConnectionID → ι}

/-- The machines have these handles, and the network has these frames. -/
structure Net.Shows (o : AstraeusProto H L noncelen) (n : Net ι H L noncelen) (v : View ι H) :
    Prop where
  client : Astraeus_Client.Shows o v.tables v.pool n.client
  runs : (Astraeus_Server.service o).Runs n.server.sm
  server : Astraeus_Server.Shows v.server n.server.held
  fromClient : n.fromClient = v.fromClient
  fromServer : n.fromServer = v.fromServer

theorem mem_of_batch {pkts : List Mbuf} {inPkts : InPkts Mbuf} (h : batch pkts = some inPkts) :
    inPkts.pkts = pkts := by
  unfold batch at h
  split at h
  · rw [← Option.some.inj h]
  · exact absurd h (by simp)

/-- **One step of the net.**  It does not stop, and every connection does steps of its own. -/
theorem Net.step_shows (pl : Service.Platform) {n : Net ι H L noncelen} {v : View ι H}
    (hok : v.Ok steer) (hs : n.Shows o v) (a : Act ι) :
    ∃ n' v', n.step o pl steer a = .ok n' ∧ n'.Shows o v' ∧ v.Goes o steer v' := by
  cases a with
  | connect config i inPkts srcIP srcPort =>
      have hpkts : ∀ pkt ∈ inPkts.map filled, Plain pkt := by
        intro pkt hpkt
        obtain ⟨p, -, rfl⟩ := List.mem_map.mp hpkt
        exact plain_filled p
      obtain ⟨x', g, frames, hloop, hs', hgoes⟩ :=
        View.connect_all config i srcIP srcPort _ 0 hok hpkts hs.client
      refine ⟨{ n with client := x', fromClient := n.fromClient ++ frames },
        v.client i (v.tables i) g frames, by simp only [step, hloop],
        ⟨?_, hs.runs, hs.server, congrArg (· ++ frames) hs.fromClient, hs.fromServer⟩, hgoes⟩
      show Astraeus_Client.Shows o (Function.update v.tables i (v.tables i)) g x'
      rw [Function.update_eq_self]
      exact hs'
  | client i ds =>
      cases hb : batch ((arriving n.fromServer ds).filter (steered steer i)) with
      | none => exact ⟨n, v, by simp only [step, hb], hs, .refl hok⟩
      | some inPkts =>
          have hps : ∀ p ∈ inPkts.pkts, Arrives v.fromServer p ∧ steered steer i p = true := by
            intro p hp
            rw [mem_of_batch hb, hs.fromServer] at hp
            obtain ⟨hmem, hsteer⟩ := List.mem_filter.mp hp
            exact ⟨arrives_of_mem hok.fromServer hmem, hsteer⟩
          obtain ⟨h', outs, f, g, hall, hh, hgoes⟩ :=
            View.client_batch inPkts.pkts hok hps (hs.client.core i)
          obtain ⟨x', hx', hs', -⟩ := Astraeus_Client.process_eq pl hs.client inPkts hall hh
          exact ⟨{ n with client := x', fromClient := n.fromClient ++ sentPkts outs },
            v.client i f g (sentPkts outs), by simp only [step, hb, hx']; rfl,
            ⟨hs', hs.runs, hs.server, congrArg (· ++ sentPkts outs) hs.fromClient, hs.fromServer⟩,
            hgoes⟩
  | server ds =>
      cases hb : batch (arriving n.fromClient ds) with
      | none => exact ⟨n, v, by simp only [step, hb], hs, .refl hok⟩
      | some inPkts =>
          have hps : ∀ p ∈ inPkts.pkts, Arrives v.fromClient p := by
            intro p hp
            rw [mem_of_batch hb, hs.fromClient] at hp
            exact arrives_of_mem hok.fromClient hp
          obtain ⟨h', outs, f, hall, hh, hgoes⟩ :=
            View.server_batch (o := o) inPkts.pkts hok hps hs.server
          have hprocess := Instance.process_eq pl hs.runs inPkts.pkts inPkts.nonempty inPkts.fits
          rw [hall] at hprocess
          obtain ⟨x', hx', rfl, hruns⟩ := hprocess
          exact ⟨{ n with server := x', fromServer := n.fromServer ++ sentPkts outs },
            v.serve f (sentPkts outs), by simp only [step, hb, hx']; rfl,
            ⟨hs.client, hruns, hh, hs.fromClient, congrArg (· ++ sentPkts outs) hs.fromServer⟩,
            hgoes⟩

/-- The machines and the network have this connection. -/
structure Net.Has (n : Net ι H L noncelen) (steer : ConnectionID → ι) (id : ConnectionID)
    (d : Dialog H) : Prop where
  client : ∀ i, (n.client.sms i).stateTable.lookup id = if steer id = i then
    d.client.map (session Astraeus_Client.States.HANDSHAKE id) else none
  pool : n.client.connPool.lookup id = d.pool.map (session Astraeus_Client.States.HANDSHAKE id)
  server : n.server.sm.stateTable.lookup id.reverse
    = d.server.map (session Astraeus_Server.States.HANDSHAKE id.reverse)
  toServer : messages id.reverse n.fromClient = d.toServer
  toClient : messages id n.fromServer = d.toClient

theorem Net.Shows.has {n : Net ι H L noncelen} {v : View ι H} (hs : n.Shows o v)
    (hok : v.Ok steer) (id : ConnectionID) : n.Has steer id (v.dialog steer id) := by
  refine ⟨fun i => ?_, hs.client.pool id, hs.server.table id.reverse,
    congrArg (messages id.reverse) hs.fromClient, congrArg (messages id) hs.fromServer⟩
  rw [hs.client.table]
  by_cases hi : steer id = i
  · rw [if_pos hi, ← hi]
    rfl
  · rw [if_neg hi, hok.steered i id hi]
    rfl

/-- A run. -/
theorem Net.run_shows (pl : Service.Platform) (as : List (Act ι)) {n : Net ι H L noncelen}
    {v : View ι H} (hok : v.Ok steer) (hs : n.Shows o v) :
    ∃ n' v', as.foldlM (step o pl steer) n = .ok n' ∧ n'.Shows o v' ∧ v.Goes o steer v' := by
  induction as generalizing n v with
  | nil => exact ⟨n, v, rfl, hs, .refl hok⟩
  | cons a as ih =>
      obtain ⟨n₁, v₁, hstep, hs₁, hgoes₁⟩ := step_shows pl hok hs a
      obtain ⟨n', v', hall, hs', hgoes⟩ := ih hgoes₁.ok hs₁
      refine ⟨n', v', ?_, hs', hgoes₁.trans hgoes⟩
      rw [List.foldlM_cons, hstep]
      exact hall

/-- **Every connection is a dialog.**  Whatever the clients open, and however the network loses,
doubles, delays and batches the frames, no machine stops, and every connection by itself is two
parties that talk through the library. -/
theorem Net.run_dialogs (o : AstraeusProto H L noncelen) (pl : Service.Platform)
    (steer : ConnectionID → ι) (libs : ι → L) (lib : L) (as : List (Act ι)) :
    ∃ n, as.foldlM (step o pl steer) (start o libs lib) = .ok n ∧
      ∀ id, ∃ d, Steps (Dialog.Step o) Dialog.empty d ∧ n.Has steer id d := by
  let v : View ι H := ⟨fun _ _ => none, fun _ => none, fun _ => none, [], []⟩
  have hok : v.Ok steer := ⟨fun _ _ _ => rfl, by simp [v], by simp [v]⟩
  have hstart : (start o libs lib).Shows o v :=
    ⟨Astraeus_Client.init_shows libs, Instance.start_runs _ lib, ⟨fun _ => rfl, fun _ => rfl⟩, rfl, rfl⟩
  obtain ⟨n, v', hn, hs, hgoes⟩ := run_shows pl as hok hstart
  exact ⟨n, hn, fun id => ⟨v'.dialog steer id, hgoes.dialog id, hs.has hgoes.ok id⟩⟩

end Astraeus

end MoonState
