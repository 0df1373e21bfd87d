/-
How the client cuts the bytes of its TCP connection into chunks.

A packet can end anywhere, so what is left of a chunk is stored in the connection and
put before the next packet.  `processChunk` is a framer of the stream: what a connection
comes to does not depend on where its packets end (`receivePackets_eq`), and the chunks
it hands on are the stream itself, cut where the headers say (`receivePackets_chunks`).
-/
import OpcuaGateway.Numeric.LittleEndian
import OpcuaGateway.Opcua.Types
import OpcuaGateway.Framing.Framer

namespace OpcuaGateway
namespace Opcua

open Text (Bytes)
open Numeric Framing

def uaStatuscodeBadtcpmessagetypeinvalid : UaStatusCode := 0x807E0000
def uaStatuscodeBadtcpmessagetoolarge : UaStatusCode := 0x80800000

def uaMessagetypeAck : UInt32 := 0x4B4341
def uaMessagetypeHel : UInt32 := 0x4C4548
def uaMessagetypeMsg : UInt32 := 0x47534D
def uaMessagetypeOpn : UInt32 := 0x4E504F
def uaMessagetypeClo : UInt32 := 0x4F4C43
def uaMessagetypeErr : UInt32 := 0x525245

/-- The message types a chunk may have, in the order they are compared. -/
def messageTypes : List UInt32 :=
  [uaMessagetypeMsg, uaMessagetypeErr, uaMessagetypeOpn, uaMessagetypeHel, uaMessagetypeAck,
    uaMessagetypeClo]

/-- The bytes `'C'`, `'F'` and `'A'`. -/
def chunkMarks : List UInt8 := [67, 70, 65]

structure UaConnectionConfig where
  protocolVersion : UInt32
  sendBufferSize : UInt32
  recvBufferSize : UInt32
  maxMessageSize : UInt32
  maxChunkCount : UInt32
deriving DecidableEq, Repr

inductive UaConnectionState where
  | closed
  | opening
  | established
deriving DecidableEq, Repr

structure UaConnection where
  state : UaConnectionState
  localConf : UaConnectionConfig
  remoteConf : UaConnectionConfig
  incompleteMessage : Bytes
deriving DecidableEq, Repr

/-- A `UA_Connection_processChunk` of the client.  None of them touches the part of a
chunk that is stored. -/
structure ProcessChunkCallback (σ : Type) where
  call : σ → UaConnection → Bytes → UaStatusCode × σ × UaConnection
  keeps : ∀ application connection chunk,
    (call application connection chunk).2.2.incompleteMessage = connection.incompleteMessage

/-! ## The functions of the connection -/

def uaUInt32At (bytes : Bytes) (offset : Nat) : UInt32 :=
  UInt32.ofNat (ofBytes ((bytes.drop offset).take 4))

def messageTypeOf (pos : Bytes) : UInt32 := UInt32.ofNat (ofBytes (pos.take 3))

def isFinalOf (pos : Bytes) : UInt8 := pos.getD 3 0

def chunkLengthOf (pos : Bytes) : Nat := (uaUInt32At pos 4).toNat

/-- `UA_ByteString_allocBuffer` leaves the stored part empty when it fails, and nobody
looks at its result. -/
def bufferIncompleteChunk (granted : Bool) (connection : UaConnection) (pos : Bytes) :
    UaConnection :=
  { connection with incompleteMessage := if granted then pos else [] }

structure ChunkStep (σ : Type) where
  retval : UaStatusCode
  application : σ
  connection : UaConnection
  pos : Bytes
  done : Bool

variable {σ : Type}

/-- `processChunk` on the bytes from `*posp` to `end`. -/
def processChunk (callback : ProcessChunkCallback σ) (granted : Bool) (application : σ)
    (connection : UaConnection) (pos : Bytes) (done : Bool) : ChunkStep σ :=
  if pos.length < 8 then
    { retval := uaStatuscodeGood, application := application,
      connection :=
        if 0 < pos.length then bufferIncompleteChunk granted connection pos else connection,
      pos := pos, done := true }
  else if messageTypeOf pos ∉ messageTypes then
    { retval := uaStatuscodeBadtcpmessagetypeinvalid, application := application,
      connection := connection, pos := pos, done := done }
  else if isFinalOf pos ∉ chunkMarks then
    { retval := uaStatuscodeBadtcpmessagetypeinvalid, application := application,
      connection := connection, pos := pos, done := done }
  else if chunkLengthOf pos < 16 ∨ connection.localConf.recvBufferSize.toNat < chunkLengthOf pos
  then
    { retval := uaStatuscodeBadtcpmessagetoolarge, application := application,
      connection := connection, pos := pos, done := done }
  else if pos.length < chunkLengthOf pos then
    { retval := uaStatuscodeGood, application := application,
      connection := bufferIncompleteChunk granted connection pos, pos := pos, done := true }
  else
    let called := callback.call application connection (pos.take (chunkLengthOf pos))
    { retval := called.1, application := called.2.1, connection := called.2.2,
      pos := pos.drop (chunkLengthOf pos), done := false }

theorem processChunk_shorter {callback : ProcessChunkCallback σ} {granted : Bool} {application : σ}
    {connection : UaConnection} {pos : Bytes} {done : Bool}
    (h : (processChunk callback granted application connection pos done).done = false)
    (hretval : (processChunk callback granted application connection pos done).retval =
      uaStatuscodeGood) :
    (processChunk callback granted application connection pos done).pos.length < pos.length := by
  unfold processChunk at h hretval ⊢
  split at h
  · cases h
  · split at h
    · rename_i h8 htype
      rw [if_neg h8, if_pos htype] at hretval
      cases hretval
    · split at h
      · rename_i h8 htype hmark
        rw [if_neg h8, if_neg htype, if_pos hmark] at hretval
        cases hretval
      · split at h
        · rename_i h8 htype hmark hsize
          rw [if_neg h8, if_neg htype, if_neg hmark, if_pos hsize] at hretval
          cases hretval
        · split at h
          · cases h
          · rename_i h8 htype hmark hsize hlength
            rw [if_neg h8, if_neg htype, if_neg hmark, if_neg hsize, if_neg hlength]
            show (pos.drop (chunkLengthOf pos)).length < pos.length
            rw [List.length_drop]
            omega

/-- The `do … while` of `UA_Connection_processChunks`. -/
def processLoop (callback : ProcessChunkCallback σ) (granted : Bool) (application : σ)
    (connection : UaConnection) (pos : Bytes) (done : Bool) : UaStatusCode × σ × UaConnection :=
  let step := processChunk callback granted application connection pos done
  if _h : step.done = false ∧ step.retval = uaStatuscodeGood then
    processLoop callback granted step.application step.connection step.pos step.done
  else (step.retval, step.application, step.connection)
termination_by pos.length
decreasing_by exact processChunk_shorter _h.1 _h.2

/-- Which of the two allocations of a call succeed: the one that puts the stored part
before the packet, and the one that stores what is left. -/
structure BufferGrants where
  prepend : Bool
  buffer : Bool
deriving DecidableEq, Repr

def uaConnectionProcessChunks (callback : ProcessChunkCallback σ) (grants : BufferGrants)
    (application : σ) (connection : UaConnection) (packet : Bytes) :
    UaStatusCode × σ × UaConnection :=
  if 0 < connection.incompleteMessage.length then
    -- prependIncompleteChunk: the stored part is given up whether or not there is memory
    if grants.prepend then
      processLoop callback grants.buffer application { connection with incompleteMessage := [] }
        (connection.incompleteMessage ++ packet) true
    else (uaStatuscodeBadoutofmemory, application, { connection with incompleteMessage := [] })
  else processLoop callback grants.buffer application connection packet true

/-- The packets of a connection in turn, until one is answered with an error. -/
def receivePackets (callback : ProcessChunkCallback σ) (application : σ)
    (connection : UaConnection) : List (BufferGrants × Bytes) → UaStatusCode × σ × UaConnection
  | [] => (uaStatuscodeGood, application, connection)
  | (grants, packet) :: packets =>
    let step := uaConnectionProcessChunks callback grants application connection packet
    if step.1 = uaStatuscodeGood then receivePackets callback step.2.1 step.2.2 packets else step

/-! ## What a call does to what its callback keeps -/

/-- A chunk is handed on, or nothing is and the loop ends. -/
theorem processChunk_cases (callback : ProcessChunkCallback σ) (granted : Bool) (application : σ)
    (connection : UaConnection) (pos : Bytes) (done : Bool) :
    ((processChunk callback granted application connection pos done).application = application ∧
        ¬((processChunk callback granted application connection pos done).done = false ∧
          (processChunk callback granted application connection pos done).retval =
            uaStatuscodeGood)) ∨
      ∃ chunk,
        (processChunk callback granted application connection pos done).retval =
            (callback.call application connection chunk).1 ∧
          (processChunk callback granted application connection pos done).application =
            (callback.call application connection chunk).2.1 := by
  unfold processChunk
  split
  · exact Or.inl ⟨rfl, fun h => nomatch h.1⟩
  split
  · exact Or.inl ⟨rfl, fun h => nomatch h.2⟩
  split
  · exact Or.inl ⟨rfl, fun h => nomatch h.2⟩
  split
  · exact Or.inl ⟨rfl, fun h => nomatch h.2⟩
  split
  · exact Or.inl ⟨rfl, fun h => nomatch h.1⟩
  · exact Or.inr ⟨pos.take (chunkLengthOf pos), rfl, rfl⟩

/-- What the callback keeps through chunks it answers with GOOD is kept, and at the end
there is what the chunk that stops the loop leaves. -/
theorem processLoop_keeps {callback : ProcessChunkCallback σ} {P Q : σ → Prop}
    (hgood : ∀ application connection chunk, P application →
      (callback.call application connection chunk).1 = uaStatuscodeGood →
      P (callback.call application connection chunk).2.1)
    (hend : ∀ application connection chunk, P application →
      Q (callback.call application connection chunk).2.1)
    (hPQ : ∀ application, P application → Q application) {granted : Bool} {application : σ}
    {connection : UaConnection} {pos : Bytes} {done : Bool} (hP : P application) :
    Q (processLoop callback granted application connection pos done).2.1 ∧
      ((processLoop callback granted application connection pos done).1 = uaStatuscodeGood →
        P (processLoop callback granted application connection pos done).2.1) := by
  induction hn : pos.length using Nat.strongRecOn generalizing application connection pos done with
  | ind k ih =>
    have hcases := processChunk_cases callback granted application connection pos done
    have hshorter :
        (processChunk callback granted application connection pos done).done = false →
        (processChunk callback granted application connection pos done).retval =
          uaStatuscodeGood →
        (processChunk callback granted application connection pos done).pos.length < pos.length :=
      processChunk_shorter
    rw [processLoop]
    generalize processChunk callback granted application connection pos done = step at *
    rcases hcases with ⟨hsame, hstop⟩ | ⟨chunk, hretval, happlication⟩
    · rw [dif_neg hstop]
      rw [← hsame] at hP
      exact ⟨hPQ _ hP, fun _ => hP⟩
    · by_cases hnext : step.done = false ∧ step.retval = uaStatuscodeGood
      · rw [dif_pos hnext]
        have hkept := hgood application connection chunk hP (hretval.symm.trans hnext.2)
        rw [← happlication] at hkept
        exact ih step.pos.length (hn ▸ hshorter hnext.1 hnext.2) hkept rfl
      · rw [dif_neg hnext]
        show Q step.application ∧ (step.retval = uaStatuscodeGood → P step.application)
        rw [happlication, hretval]
        exact ⟨hend application connection chunk hP, hgood application connection chunk hP⟩

theorem uaConnectionProcessChunks_keeps (callback : ProcessChunkCallback σ) {P Q : σ → Prop}
    (hgood : ∀ application connection chunk, P application →
      (callback.call application connection chunk).1 = uaStatuscodeGood →
      P (callback.call application connection chunk).2.1)
    (hend : ∀ application connection chunk, P application →
      Q (callback.call application connection chunk).2.1)
    (hPQ : ∀ application, P application → Q application) (grants : BufferGrants)
    (connection : UaConnection) (packet : Bytes) {application : σ} (hP : P application) :
    Q (uaConnectionProcessChunks callback grants application connection packet).2.1 ∧
      ((uaConnectionProcessChunks callback grants application connection packet).1 =
          uaStatuscodeGood →
        P (uaConnectionProcessChunks callback grants application connection packet).2.1) := by
  unfold uaConnectionProcessChunks
  split
  · split
    · exact processLoop_keeps hgood hend hPQ hP
    · exact ⟨hPQ _ hP, fun _ => hP⟩
  · exact processLoop_keeps hgood hend hPQ hP

/-! ## The connection as a framer -/

/-- What the header at the front of some bytes decides. -/
def cutChunk (connection : UaConnection) (pos : Bytes) : Cut UaStatusCode :=
  if pos.length < 8 then .wait
  else if messageTypeOf pos ∉ messageTypes then
    .reject uaStatuscodeBadtcpmessagetypeinvalid
  else if isFinalOf pos ∉ chunkMarks then .reject uaStatuscodeBadtcpmessagetypeinvalid
  else if chunkLengthOf pos < 16 ∨ connection.localConf.recvBufferSize.toNat < chunkLengthOf pos
  then .reject uaStatuscodeBadtcpmessagetoolarge
  else if pos.length < chunkLengthOf pos then .wait
  else .frame (chunkLengthOf pos)

/-- Bytes that open with the header of a chunk this connection takes. -/
structure ChunkHead (connection : UaConnection) (pos : Bytes) : Prop where
  header : 8 ≤ pos.length
  type : messageTypeOf pos ∈ messageTypes
  mark : isFinalOf pos ∈ chunkMarks
  atLeast : 16 ≤ chunkLengthOf pos
  atMost : chunkLengthOf pos ≤ connection.localConf.recvBufferSize.toNat

/-- A chunk that connection takes: a header and as many bytes as it says. -/
structure IsChunk (connection : UaConnection) (chunk : Bytes) : Prop extends
    ChunkHead connection chunk where
  whole : chunk.length = chunkLengthOf chunk

theorem cutChunk_of_head {connection : UaConnection} {pos : Bytes} (h : ChunkHead connection pos) :
    cutChunk connection pos =
      if pos.length < chunkLengthOf pos then .wait else .frame (chunkLengthOf pos) := by
  have hsize : ¬(chunkLengthOf pos < 16 ∨
      connection.localConf.recvBufferSize.toNat < chunkLengthOf pos) := by
    have hleast := h.atLeast
    have hmost := h.atMost
    omega
  rw [cutChunk, if_neg (Nat.not_lt.mpr h.header), if_neg (not_not.mpr h.type),
    if_neg (not_not.mpr h.mark), if_neg hsize]

theorem head_of_cutChunk {connection : UaConnection} {pos : Bytes} {n : Nat}
    (h : cutChunk connection pos = .frame n) : ChunkHead connection pos := by
  unfold cutChunk at h
  split at h
  · cases h
  · rename_i h8
    split at h
    · cases h
    · rename_i htype
      split at h
      · cases h
      · rename_i hmark
        split at h
        · cases h
        · rename_i hsize
          exact ⟨by omega, not_not.mp htype, not_not.mp hmark, by omega, by omega⟩

theorem cutChunk_eq_frame {connection : UaConnection} {pos : Bytes} {n : Nat} :
    cutChunk connection pos = .frame n ↔
      ChunkHead connection pos ∧ chunkLengthOf pos = n ∧ n ≤ pos.length := by
  constructor
  · intro h
    have hhead := head_of_cutChunk h
    rw [cutChunk_of_head hhead] at h
    split at h
    · cases h
    · rename_i hlength
      cases h
      exact ⟨hhead, rfl, by omega⟩
  · rintro ⟨hhead, rfl, hle⟩
    rw [cutChunk_of_head hhead, if_neg (Nat.not_lt.mpr hle)]

theorem processChunk_of_wait (callback : ProcessChunkCallback σ) (application : σ)
    {connection : UaConnection} {pos : Bytes} (h : cutChunk connection pos = .wait)
    (granted done : Bool) :
    processChunk callback granted application connection pos done =
      { retval := uaStatuscodeGood, application := application,
        connection :=
          if 0 < pos.length then bufferIncompleteChunk granted connection pos else connection,
        pos := pos, done := true } := by
  unfold cutChunk at h
  unfold processChunk
  split at h
  · rename_i h8
    rw [if_pos h8]
  · rename_i h8
    rw [if_neg h8]
    split at h
    · cases h
    · rename_i htype
      rw [if_neg htype]
      split at h
      · cases h
      · rename_i hmark
        rw [if_neg hmark]
        split at h
        · cases h
        · rename_i hsize
          rw [if_neg hsize]
          split at h
          · rename_i hlength
            have hpos : 0 < pos.length := by omega
            rw [if_pos hlength, if_pos hpos]
          · cases h

theorem processChunk_of_reject (callback : ProcessChunkCallback σ) (application : σ)
    {connection : UaConnection} {pos : Bytes} {e : UaStatusCode}
    (h : cutChunk connection pos = .reject e) (granted done : Bool) :
    processChunk callback granted application connection pos done =
        { retval := e, application := application, connection := connection, pos := pos,
          done := done } ∧ e ≠ uaStatuscodeGood := by
  unfold cutChunk at h
  unfold processChunk
  split at h
  · cases h
  · rename_i h8
    rw [if_neg h8]
    split at h
    · rename_i htype
      cases h
      rw [if_pos htype]
      exact ⟨rfl, by decide⟩
    · rename_i htype
      rw [if_neg htype]
      split at h
      · rename_i hmark
        cases h
        rw [if_pos hmark]
        exact ⟨rfl, by decide⟩
      · rename_i hmark
        rw [if_neg hmark]
        split at h
        · rename_i hsize
          cases h
          rw [if_pos hsize]
          exact ⟨rfl, by decide⟩
        · split at h <;> cases h

theorem processChunk_of_frame (callback : ProcessChunkCallback σ) (application : σ)
    {connection : UaConnection} {pos : Bytes} {n : Nat} (h : cutChunk connection pos = .frame n)
    (granted done : Bool) :
    processChunk callback granted application connection pos done =
      { retval := (callback.call application connection (pos.take n)).1,
        application := (callback.call application connection (pos.take n)).2.1,
        connection := (callback.call application connection (pos.take n)).2.2,
        pos := pos.drop n, done := false } := by
  obtain ⟨hhead, rfl, hle⟩ := cutChunk_eq_frame.mp h
  have hsize : ¬(chunkLengthOf pos < 16 ∨
      connection.localConf.recvBufferSize.toNat < chunkLengthOf pos) := by
    have hleast := hhead.atLeast
    have hmost := hhead.atMost
    omega
  rw [processChunk, if_neg (Nat.not_lt.mpr hhead.header), if_neg (not_not.mpr hhead.type),
    if_neg (not_not.mpr hhead.mark), if_neg hsize, if_neg (Nat.not_lt.mpr hle)]

/-! ## More bytes behind a header -/

theorem uaUInt32At_append {b : Bytes} {offset : Nat} (h : offset + 4 ≤ b.length) (c : Bytes) :
    uaUInt32At (b ++ c) offset = uaUInt32At b offset := by
  unfold uaUInt32At
  rw [List.drop_append_of_le_length (by omega),
    List.take_append_of_le_length (by rw [List.length_drop]; omega)]

theorem messageTypeOf_append {b : Bytes} (h : 4 ≤ b.length) (c : Bytes) :
    messageTypeOf (b ++ c) = messageTypeOf b := by
  rw [messageTypeOf, List.take_append_of_le_length (by omega)]
  rfl

theorem isFinalOf_append {b : Bytes} (h : 4 ≤ b.length) (c : Bytes) :
    isFinalOf (b ++ c) = isFinalOf b := by
  have h3 : 3 < b.length := by omega
  rw [isFinalOf, isFinalOf, List.getD_eq_getElem?_getD, List.getD_eq_getElem?_getD,
    List.getElem?_append_left h3]

theorem chunkLengthOf_append {b : Bytes} (h : 8 ≤ b.length) (c : Bytes) :
    chunkLengthOf (b ++ c) = chunkLengthOf b := by
  rw [chunkLengthOf, uaUInt32At_append h]
  rfl

theorem chunkHead_append {connection : UaConnection} {b : Bytes} (h : 8 ≤ b.length) (c : Bytes) :
    ChunkHead connection (b ++ c) ↔ ChunkHead connection b := by
  have h4 : 4 ≤ b.length := Nat.le_trans (by decide) h
  constructor
  · rintro ⟨-, htype, hmark, hleast, hmost⟩
    rw [messageTypeOf_append h4] at htype
    rw [isFinalOf_append h4] at hmark
    rw [chunkLengthOf_append h] at hleast hmost
    exact ⟨h, htype, hmark, hleast, hmost⟩
  · rintro ⟨-, htype, hmark, hleast, hmost⟩
    rw [← messageTypeOf_append h4 c] at htype
    rw [← isFinalOf_append h4 c] at hmark
    rw [← chunkLengthOf_append h c] at hleast hmost
    exact ⟨by rw [List.length_append]; omega, htype, hmark, hleast, hmost⟩

theorem cutChunk_frame_append {connection : UaConnection} {b : Bytes} {n : Nat} (c : Bytes)
    (h : cutChunk connection b = .frame n) : cutChunk connection (b ++ c) = .frame n := by
  obtain ⟨hhead, hlength, hle⟩ := cutChunk_eq_frame.mp h
  refine cutChunk_eq_frame.mpr ⟨(chunkHead_append hhead.header c).mpr hhead, ?_, ?_⟩
  · rw [chunkLengthOf_append hhead.header, hlength]
  · rw [List.length_append]
    omega

theorem cutChunk_reject_append {connection : UaConnection} {b : Bytes} {e : UaStatusCode}
    (c : Bytes) (h : cutChunk connection b = .reject e) :
    cutChunk connection (b ++ c) = .reject e := by
  by_cases h8 : b.length < 8
  · rw [cutChunk, if_pos h8] at h
    cases h
  · have hlength : ¬(b ++ c).length < 8 := by rw [List.length_append]; omega
    have hb : 8 ≤ b.length := by omega
    have hb4 : 4 ≤ b.length := by omega
    rw [cutChunk, if_neg h8] at h
    rw [cutChunk, if_neg hlength, messageTypeOf_append hb4, isFinalOf_append hb4,
      chunkLengthOf_append hb]
    split at h
    · rename_i htype
      rw [if_pos htype]
      exact h
    · rename_i htype
      rw [if_neg htype]
      split at h
      · rename_i hmark
        rw [if_pos hmark]
        exact h
      · rename_i hmark
        rw [if_neg hmark]
        split at h
        · rename_i hsize
          rw [if_pos hsize]
          exact h
        · split at h <;> cases h

theorem cutChunk_frame_take {connection : UaConnection} {b : Bytes} {n : Nat}
    (h : cutChunk connection b = .frame n) : cutChunk connection (b.take n) = .frame n := by
  obtain ⟨hhead, hlength, hle⟩ := cutChunk_eq_frame.mp h
  have hleast := hhead.atLeast
  have hn : (b.take n).length = n := by rw [List.length_take, Nat.min_eq_left hle]
  have h8 : 8 ≤ (b.take n).length := by omega
  rw [← List.take_append_drop n b] at hhead hlength
  rw [chunkLengthOf_append h8] at hlength
  exact cutChunk_eq_frame.mpr ⟨(chunkHead_append h8 _).mp hhead, hlength, Nat.le_of_eq hn.symm⟩

/-- A connection that holds no stored part, as a framer.  The callback decides whether
the stream goes on, and may change the sizes the next header is checked against. -/
def chunkFramer (callback : ProcessChunkCallback σ) : Framer (σ × UaConnection) UInt8 UaStatusCode where
  cut s b := cutChunk s.2 b
  handle s chunk :=
    let called := callback.call s.1 s.2 chunk
    (if called.1 = uaStatuscodeGood then none else some called.1, called.2)
  frame_pos h := by
    obtain ⟨hhead, rfl, -⟩ := cutChunk_eq_frame.mp h
    have hleast := hhead.atLeast
    omega
  frame_le h := (cutChunk_eq_frame.mp h).2.2
  frame_append c h := cutChunk_frame_append c h
  frame_take h := cutChunk_frame_take h
  reject_append c h := cutChunk_reject_append c h

/-- What a call returns to, once the stream has got somewhere. -/
def settle (o : Outcome (σ × UaConnection) UInt8 UaStatusCode) : UaStatusCode × σ × UaConnection :=
  (o.error.getD uaStatuscodeGood, o.state.1, { o.state.2 with incompleteMessage := o.rest })

theorem processLoop_of_stop {callback : ProcessChunkCallback σ} {granted : Bool} {application : σ}
    {connection : UaConnection} {pos : Bytes} {done : Bool} {step : ChunkStep σ}
    (hstep : processChunk callback granted application connection pos done = step)
    (h : ¬(step.done = false ∧ step.retval = uaStatuscodeGood)) :
    processLoop callback granted application connection pos done =
      (step.retval, step.application, step.connection) := by
  subst hstep
  rw [processLoop, dif_neg h]

theorem processLoop_of_next {callback : ProcessChunkCallback σ} {granted : Bool} {application : σ}
    {connection : UaConnection} {pos : Bytes} {done : Bool} {step : ChunkStep σ}
    (hstep : processChunk callback granted application connection pos done = step)
    (h : step.done = false ∧ step.retval = uaStatuscodeGood) :
    processLoop callback granted application connection pos done =
      processLoop callback granted step.application step.connection step.pos step.done := by
  subst hstep
  rw [processLoop, dif_pos h]

/-- With memory to store what is left, the loop is the framer. -/
theorem processLoop_eq (callback : ProcessChunkCallback σ) (application : σ)
    (connection : UaConnection) (pos : Bytes) (done : Bool)
    (h : connection.incompleteMessage = []) :
    processLoop callback true application connection pos done =
      settle ((chunkFramer callback).drain (application, connection) pos) := by
  suffices hall : ∀ (s : σ × UaConnection) (b : Bytes), s.2.incompleteMessage = [] →
      ∀ done, processLoop callback true s.1 s.2 b done =
        settle ((chunkFramer callback).drain s b) from hall (application, connection) pos h done
  intro s b
  have hempty : ∀ c : UaConnection, c.incompleteMessage = [] →
      { c with incompleteMessage := [] } = c := by
    rintro ⟨_, _, _, _⟩ hc
    cases hc
    rfl
  induction s, b using (chunkFramer callback).drain_induction with
  | wait s b hcut =>
    intro hs done
    rw [processLoop_of_stop (processChunk_of_wait callback s.1 hcut true done) (by simp),
      (chunkFramer callback).drain_of_wait hcut]
    cases b with
    | nil => simp only [settle, List.length_nil, Nat.lt_irrefl, if_false, hempty s.2 hs,
        Option.getD_none]
    | cons x b => simp only [settle, List.length_cons, Nat.zero_lt_succ, if_true,
        bufferIncompleteChunk, Option.getD_none]
  | reject s b e hcut =>
    intro hs done
    obtain ⟨hstep, hbad⟩ := processChunk_of_reject callback s.1 hcut true done
    rw [processLoop_of_stop hstep (by simp [hbad]), (chunkFramer callback).drain_of_reject hcut]
    simp only [settle, hempty s.2 hs, Option.getD_some]
  | stopped s b n t e hcut ht =>
    intro hs done
    have hstep := processChunk_of_frame callback s.1 hcut true done
    have hkeeps := callback.keeps s.1 s.2 (b.take n)
    simp only [chunkFramer] at ht
    split at ht
    · cases ht
    · rename_i hbad
      rw [processLoop_of_stop hstep (by simp [hbad]),
        (chunkFramer callback).drain_of_stopped hcut (e := e) (t := t)
          (by simp only [chunkFramer, if_neg hbad]; exact ht)]
      cases ht
      simp only [settle, hempty _ (hkeeps.trans hs), Option.getD_some]
  | handled s b n t hcut ht ih =>
    intro hs done
    have hstep := processChunk_of_frame callback s.1 hcut true done
    have hkeeps := callback.keeps s.1 s.2 (b.take n)
    rw [(chunkFramer callback).drain_of_handled hcut ht]
    simp only [chunkFramer] at ht
    split at ht
    · rename_i hgood
      cases ht
      rw [processLoop_of_next hstep ⟨rfl, hgood⟩]
      exact ih (hkeeps.trans hs) false
    · cases ht

/-! ## A call, and a run of calls -/

/-- Both allocations of a call succeed. -/
def BufferGrants.all : BufferGrants := { prepend := true, buffer := true }

/-- A connection without its stored part, which is what the framer runs on. -/
def UaConnection.cleared (connection : UaConnection) : UaConnection :=
  { connection with incompleteMessage := [] }

/-- A call puts the stored part before the packet and goes through what there is. -/
theorem uaConnectionProcessChunks_eq (callback : ProcessChunkCallback σ) (application : σ)
    (connection : UaConnection) (packet : Bytes) :
    uaConnectionProcessChunks callback .all application connection packet =
      settle ((chunkFramer callback).drain (application, connection.cleared)
        (connection.incompleteMessage ++ packet)) := by
  unfold uaConnectionProcessChunks
  split
  · exact processLoop_eq callback application connection.cleared _ true rfl
  · rename_i hlength
    have hnil : connection.incompleteMessage = [] := List.length_eq_zero_iff.mp (by omega)
    have hcleared : connection.cleared = connection := by
      obtain ⟨_, _, _, _⟩ := connection
      cases hnil
      rfl
    rw [hcleared, hnil, List.nil_append]
    exact processLoop_eq callback application connection packet true hnil

theorem drain_cleared (callback : ProcessChunkCallback σ) (s : σ × UaConnection) (b : Bytes)
    (h : s.2.incompleteMessage = []) :
    ((chunkFramer callback).drain s b).state.2.incompleteMessage = [] :=
  (chunkFramer callback).drain_invariant (I := fun s => s.2.incompleteMessage = [])
    (fun s _ _ _ hs => (callback.keeps s.1 s.2 _).trans hs) s b h

theorem drain_error_ne_good (callback : ProcessChunkCallback σ) (s : σ × UaConnection) (b : Bytes)
    (e : UaStatusCode) (h : ((chunkFramer callback).drain s b).error = some e) :
    e ≠ uaStatuscodeGood := by
  induction s, b using (chunkFramer callback).drain_induction with
  | wait s b hcut => rw [(chunkFramer callback).drain_of_wait hcut] at h; cases h
  | reject s b e' hcut =>
    rw [(chunkFramer callback).drain_of_reject hcut] at h
    cases h
    exact (processChunk_of_reject callback s.1 hcut true true).2
  | stopped s b n t e' hcut ht =>
    rw [(chunkFramer callback).drain_of_stopped hcut ht] at h
    cases h
    simp only [chunkFramer] at ht
    split at ht
    · cases ht
    · rename_i hbad
      cases ht
      exact hbad
  | handled s b n t hcut ht ih =>
    rw [(chunkFramer callback).drain_of_handled hcut ht] at h
    exact ih h

theorem settle_good {callback : ProcessChunkCallback σ} {s : σ × UaConnection} {b : Bytes} :
    (settle ((chunkFramer callback).drain s b)).1 = uaStatuscodeGood ↔
      ((chunkFramer callback).drain s b).error = none := by
  rcases herror : ((chunkFramer callback).drain s b).error with _ | e
  · simp [settle, herror]
  · simpa [settle, herror] using drain_error_ne_good callback s b e herror

theorem settle_cleared (callback : ProcessChunkCallback σ) {s : σ × UaConnection} {b : Bytes}
    (h : s.2.incompleteMessage = []) :
    ((settle ((chunkFramer callback).drain s b)).2.1,
      (settle ((chunkFramer callback).drain s b)).2.2.cleared) =
        ((chunkFramer callback).drain s b).state := by
  have hcleared := drain_cleared callback s b h
  generalize (chunkFramer callback).drain s b = o at hcleared ⊢
  obtain ⟨error, ⟨application, ⟨state, localConf, remoteConf, stored⟩⟩, rest⟩ := o
  cases hcleared
  rfl

/-- Packets of a connection with memory for what their ends leave. -/
def granted (packets : List Bytes) : List (BufferGrants × Bytes) :=
  packets.map fun packet => (.all, packet)

/-- The packets come to what the framer makes of the stored part and all their bytes. -/
theorem receivePackets_settle (callback : ProcessChunkCallback σ) (application : σ)
    (connection : UaConnection) (packet : Bytes) (packets : List Bytes) :
    receivePackets callback application connection (granted (packet :: packets)) =
      settle ((chunkFramer callback).drain (application, connection.cleared)
        (connection.incompleteMessage ++ (packet :: packets).flatten)) := by
  induction packets generalizing application connection packet with
  | nil =>
    have hone : [packet].flatten = packet := by
      rw [List.flatten_cons, List.flatten_nil, List.append_nil]
    rw [hone, ← uaConnectionProcessChunks_eq]
    simp only [granted, List.map_cons, List.map_nil, receivePackets]
    split
    · rename_i hgood
      exact Prod.ext hgood.symm rfl
    · rfl
  | cons next packets ih =>
    have hcall := uaConnectionProcessChunks_eq callback application connection packet
    have hflatten : connection.incompleteMessage ++ (packet :: next :: packets).flatten =
        (connection.incompleteMessage ++ packet) ++ (next :: packets).flatten := by
      rw [List.flatten_cons, List.append_assoc]
    rw [hflatten]
    show (if (uaConnectionProcessChunks callback .all application connection packet).1 =
        uaStatuscodeGood then receivePackets callback _ _ (granted (next :: packets)) else _) = _
    rw [hcall]
    have hcleared := settle_cleared callback
      (s := (application, connection.cleared)) (b := connection.incompleteMessage ++ packet) rfl
    rcases herror : ((chunkFramer callback).drain (application, connection.cleared)
        (connection.incompleteMessage ++ packet)).error with _ | e
    · rw [if_pos (settle_good.mpr herror), ih, (chunkFramer callback).drain_append _ herror,
        hcleared]
      rfl
    · have hbad : (settle ((chunkFramer callback).drain (application, connection.cleared)
          (connection.incompleteMessage ++ packet))).1 ≠ uaStatuscodeGood := by
        rw [Ne, settle_good, herror]
        exact fun h => nomatch h
      rw [if_neg hbad, (chunkFramer callback).drain_append_of_error _ herror]

/-- Where the packets end makes no difference: a connection comes to what it would have
come to with everything in one packet. -/
theorem receivePackets_eq (callback : ProcessChunkCallback σ) (application : σ)
    (connection : UaConnection) (packet : Bytes) (packets : List Bytes) :
    receivePackets callback application connection (granted (packet :: packets)) =
      uaConnectionProcessChunks callback .all application connection
        (packet :: packets).flatten := by
  rw [receivePackets_settle, uaConnectionProcessChunks_eq]

/-! ## The chunks of a connection -/

theorem isChunk_iff {connection : UaConnection} {chunk : Bytes} :
    IsChunk connection chunk ↔ cutChunk connection chunk = .frame chunk.length := by
  rw [cutChunk_eq_frame]
  exact ⟨fun h => ⟨h.toChunkHead, h.whole.symm, Nat.le_refl _⟩, fun h => ⟨h.1, h.2.1.symm⟩⟩

/-- The chunks reach the callback one after the other, each of them one that the
connection takes by then, and each is answered with GOOD. -/
inductive HandedOn (callback : ProcessChunkCallback σ) :
    σ × UaConnection → List Bytes → σ × UaConnection → Prop
  | nil (s : σ × UaConnection) : HandedOn callback s [] s
  | cons {s t u : σ × UaConnection} {chunk : Bytes} {chunks : List Bytes}
      (whole : IsChunk s.2 chunk)
      (answered : callback.call s.1 s.2 chunk = (uaStatuscodeGood, t))
      (rest : HandedOn callback t chunks u) : HandedOn callback s (chunk :: chunks) u

theorem handedOn_iff_cuts {callback : ProcessChunkCallback σ} {s t : σ × UaConnection}
    {chunks : List Bytes} :
    HandedOn callback s chunks t ↔ (chunkFramer callback).Cuts s chunks t := by
  constructor
  · intro h
    induction h with
    | nil s => exact .nil s
    | cons hwhole hanswered _ ih =>
      refine .cons (isChunk_iff.mp hwhole) ?_ ih
      simp only [chunkFramer, hanswered, if_true]
  · intro h
    induction h with
    | nil s => exact .nil s
    | @cons s t u frame frames hcut hhandled _ ih =>
      refine .cons (isChunk_iff.mpr hcut) ?_ ih
      simp only [chunkFramer] at hhandled
      split at hhandled
      · rename_i hgood
        cases hhandled
        exact Prod.ext hgood rfl
      · cases hhandled

/-- What waits is short: a part of a header, or a part of a chunk that fits the buffer. -/
theorem length_lt_of_wait {connection : UaConnection} {pos : Bytes}
    (h : cutChunk connection pos = .wait) :
    pos.length < max 8 connection.localConf.recvBufferSize.toNat := by
  unfold cutChunk at h
  split at h
  · rename_i h8
    exact lt_of_lt_of_le h8 (Nat.le_max_left _ _)
  · split at h
    · cases h
    · split at h
      · cases h
      · split at h
        · cases h
        · rename_i hsize
          split at h
          · rename_i hlength
            exact lt_of_lt_of_le (by omega) (Nat.le_max_right _ _)
          · cases h

/-- A stream of whole chunks is handed on chunk by chunk, wherever its packets end. -/
theorem receivePackets_of_handedOn {callback : ProcessChunkCallback σ}
    {application application' : σ} {connection connection' : UaConnection} {packet : Bytes}
    {packets chunks : List Bytes}
    (h : HandedOn callback (application, connection.cleared) chunks (application', connection'))
    (hstream : connection.incompleteMessage ++ (packet :: packets).flatten = chunks.flatten) :
    receivePackets callback application connection (granted (packet :: packets)) =
      (uaStatuscodeGood, application', connection'.cleared) := by
  have hwait : (chunkFramer callback).cut (application', connection') [] = .wait := rfl
  rw [receivePackets_settle, hstream, ← List.append_nil chunks.flatten,
    Framer.drain_of_cuts (handedOn_iff_cuts.mp h), (chunkFramer callback).drain_of_wait hwait]
  rfl

/-- A connection that has memory and reports no error has handed on what it received, cut
into chunks: no byte is lost, used twice or moved, and what it still stores lacks a part of
its header or of the length that its header says. -/
theorem receivePackets_chunks {callback : ProcessChunkCallback σ}
    {application application' : σ} {connection connection' : UaConnection} {packet : Bytes}
    {packets : List Bytes}
    (h : receivePackets callback application connection (granted (packet :: packets)) =
      (uaStatuscodeGood, application', connection')) :
    ∃ chunks,
      HandedOn callback (application, connection.cleared) chunks
        (application', connection'.cleared) ∧
      chunks.flatten ++ connection'.incompleteMessage =
        connection.incompleteMessage ++ (packet :: packets).flatten ∧
      cutChunk connection' connection'.incompleteMessage = .wait ∧
      connection'.incompleteMessage.length < max 8 connection'.localConf.recvBufferSize.toNat := by
  rw [receivePackets_settle] at h
  have hcleared := settle_cleared callback (s := (application, connection.cleared))
    (b := connection.incompleteMessage ++ (packet :: packets).flatten) rfl
  have herror := settle_good.mp (congrArg Prod.fst h)
  have hwaits := (chunkFramer callback).drain_rest_waits _ _ herror
  obtain ⟨chunks, hcuts, hflatten⟩ := Framer.drain_cuts herror
  generalize (chunkFramer callback).drain (application, connection.cleared)
    (connection.incompleteMessage ++ (packet :: packets).flatten) = o at *
  rw [h] at hcleared
  obtain ⟨error, ⟨application'', connection''⟩, rest⟩ := o
  have hconnection : { connection'' with incompleteMessage := rest } = connection' :=
    congrArg (fun r => r.2.2) h
  subst hconnection
  refine ⟨chunks, handedOn_iff_cuts.mpr ?_, hflatten, hwaits, length_lt_of_wait hwaits⟩
  rw [hcleared]
  exact hcuts

/-- A connection with the sizes of the client's default configuration. -/
def sampleConnection : UaConnection where
  state := .established
  localConf :=
    { protocolVersion := 0, sendBufferSize := 65535, recvBufferSize := 65535, maxMessageSize := 0,
      maxChunkCount := 0 }
  remoteConf :=
    { protocolVersion := 0, sendBufferSize := 65535, recvBufferSize := 65535, maxMessageSize := 0,
      maxChunkCount := 0 }
  incompleteMessage := []

def countChunks : ProcessChunkCallback Nat where
  call n connection _ := (uaStatuscodeGood, n + 1, connection)
  keeps _ _ _ := rfl

/-- The shortest chunk, of a message without a body. -/
def sampleChunk : Bytes := [77, 83, 71, 70, 16, 0, 0, 0, 0, 0, 0, 0, 0, 0, 0, 0]

theorem receivePackets_chunks_split :
    ∃ chunks,
      HandedOn countChunks (0, sampleConnection.cleared) chunks (1, sampleConnection.cleared) ∧
      chunks.flatten ++ sampleConnection.incompleteMessage =
        sampleConnection.incompleteMessage ++ [sampleChunk.take 3, sampleChunk.drop 3].flatten ∧
      cutChunk sampleConnection sampleConnection.incompleteMessage = .wait ∧
      sampleConnection.incompleteMessage.length <
        max 8 sampleConnection.localConf.recvBufferSize.toNat := by
  have hwhole : IsChunk sampleConnection sampleChunk :=
    ⟨⟨by decide, by decide, by decide, by decide, by decide⟩, by decide⟩
  have hhanded : HandedOn countChunks (0, sampleConnection.cleared) [sampleChunk]
      (1, sampleConnection) := .cons hwhole rfl (.nil _)
  exact receivePackets_chunks (receivePackets_of_handedOn hhanded (by decide))

end Opcua
end OpcuaGateway
