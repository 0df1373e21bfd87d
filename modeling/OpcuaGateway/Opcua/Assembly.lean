/-
The secure channel puts messages together from their chunks.

Its list of entries refines the abstract pieces: each accepted chunk is a piece of the
message with its request id, and what an entry holds is what is pending of that message.
-/
import OpcuaGateway.Framing.Sequence
import OpcuaGateway.Opcua.SecureChannel
import OpcuaGateway.Opcua.TypeTable

namespace OpcuaGateway
namespace Opcua

open Text (Bytes)
open Framing

/-! ## The list of entries -/

/-- No request has two entries. -/
def Distinct (chunks : List ChunkEntry) : Prop := (chunks.map ChunkEntry.requestId).Nodup

theorem storedBytes_of_not_hasEntry {id : UInt32} {chunks : List ChunkEntry}
    (h : hasEntry id chunks = false) : storedBytes id chunks = [] := by
  induction chunks with
  | nil => rfl
  | cons entry chunks ih =>
    rw [hasEntry, List.any_cons, Bool.or_eq_false_iff] at h
    rw [storedBytes, if_neg (of_decide_eq_false h.1)]
    exact ih h.2

theorem hasEntry_iff {id : UInt32} {chunks : List ChunkEntry} :
    hasEntry id chunks = true ↔ id ∈ chunks.map ChunkEntry.requestId := by
  rw [hasEntry, List.any_eq_true, List.mem_map]
  constructor
  · rintro ⟨entry, hmem, hid⟩
    exact ⟨entry, hmem, of_decide_eq_true hid⟩
  · rintro ⟨entry, hmem, hid⟩
    exact ⟨entry, hmem, decide_eq_true hid⟩

theorem ids_setBytes (id : UInt32) (bytes : Bytes) (chunks : List ChunkEntry) :
    (setBytes id bytes chunks).map ChunkEntry.requestId =
      chunks.map ChunkEntry.requestId := by
  induction chunks with
  | nil => rfl
  | cons entry chunks ih =>
    rw [setBytes]
    split_ifs
    · rfl
    · rw [List.map_cons, List.map_cons, ih]

theorem storedBytes_setBytes_self {id : UInt32} {bytes : Bytes} {chunks : List ChunkEntry}
    (h : hasEntry id chunks = true) : storedBytes id (setBytes id bytes chunks) = bytes := by
  induction chunks with
  | nil => cases h
  | cons entry chunks ih =>
    rw [setBytes]
    split_ifs with hid
    · rw [storedBytes, if_pos hid]
    · rw [storedBytes, if_neg hid]
      refine ih ?_
      rw [hasEntry, List.any_cons, decide_eq_false hid, Bool.false_or] at h
      exact h

theorem storedBytes_setBytes_of_ne {id other : UInt32} (h : id ≠ other) (bytes : Bytes)
    (chunks : List ChunkEntry) :
    storedBytes other (setBytes id bytes chunks) = storedBytes other chunks := by
  induction chunks with
  | nil => rfl
  | cons entry chunks ih =>
    rw [setBytes]
    split_ifs with hid
    · have hother : ¬entry.requestId = other := fun heq => h (hid.symm.trans heq)
      rw [storedBytes, storedBytes, if_neg hother, if_neg hother]
    · rw [storedBytes, storedBytes, ih]

theorem distinct_removeEntry {chunks : List ChunkEntry} (h : Distinct chunks) (id : UInt32) :
    Distinct (removeEntry id chunks) :=
  h.sublist ((List.eraseP_sublist).map _)

theorem storedBytes_removeEntry_self {chunks : List ChunkEntry} (h : Distinct chunks)
    (id : UInt32) : storedBytes id (removeEntry id chunks) = [] := by
  induction chunks with
  | nil => rfl
  | cons entry chunks ih =>
    obtain ⟨hnotin, hrest⟩ := List.nodup_cons.mp h
    rw [removeEntry, List.eraseP_cons]
    by_cases hid : entry.requestId = id
    · rw [decide_eq_true hid, cond_true]
      refine storedBytes_of_not_hasEntry (Bool.eq_false_iff.mpr fun hhas => ?_)
      have hid' : id ∉ chunks.map ChunkEntry.requestId := hid ▸ hnotin
      exact hid' (hasEntry_iff.mp hhas)
    · rw [decide_eq_false hid, cond_false, storedBytes, if_neg hid]
      exact ih hrest

theorem storedBytes_removeEntry_of_ne {id other : UInt32} (h : id ≠ other)
    (chunks : List ChunkEntry) :
    storedBytes other (removeEntry id chunks) = storedBytes other chunks := by
  induction chunks with
  | nil => rfl
  | cons entry chunks ih =>
    rw [removeEntry, List.eraseP_cons]
    by_cases hid : entry.requestId = id
    · have hother : ¬entry.requestId = other := fun heq => h (hid.symm.trans heq)
      rw [decide_eq_true hid, cond_true, storedBytes, if_neg hother]
    · rw [decide_eq_false hid, cond_false, storedBytes, storedBytes]
      rw [removeEntry] at ih
      rw [ih]

/-! ## A payload as a piece -/

/-- What is stored, as a function of the request. -/
def UaSecureChannel.stored (channel : UaSecureChannel) : UInt32 → Bytes :=
  fun id => storedBytes id channel.chunks

def kindOf (chunkType : UInt32) : PieceKind :=
  if chunkType = uaChunktypeFinal then .final
  else if chunkType = uaChunktypeIntermediate then .intermediate
  else .abort

/-- With memory, appending a body is updating what is stored. -/
theorem appendChunk_good {memory : ChunkMemory} {channel appended : UaSecureChannel}
    {id : UInt32} {body : Bytes} (hentry : hasEntry id channel.chunks = true)
    (h : appendChunk memory channel id body = (uaStatuscodeGood, appended)) :
    appended.stored = Function.update channel.stored id (channel.stored id ++ body) ∧
      appended.chunks.map ChunkEntry.requestId = channel.chunks.map ChunkEntry.requestId := by
  unfold appendChunk at h
  cases hmemory : memory.bytes with
  | false =>
    rw [hmemory] at h
    exact absurd (congrArg Prod.fst h) badoutofmemory_ne_good
  | true =>
    rw [hmemory, if_pos rfl] at h
    cases h
    refine ⟨?_, ids_setBytes _ _ _⟩
    funext other
    by_cases hid : id = other
    · subst hid
      rw [Function.update_self]
      exact storedBytes_setBytes_self hentry
    · rw [Function.update_of_ne (Ne.symm hid)]
      exact storedBytes_setBytes_of_ne hid _ _

theorem removeChunks_stored {channel : UaSecureChannel} (h : Distinct channel.chunks)
    (id : UInt32) :
    (uaSecureChannelRemoveChunks channel id).stored = Function.update channel.stored id [] := by
  funext other
  by_cases hid : id = other
  · subst hid
    rw [Function.update_self]
    exact storedBytes_removeEntry_self h id
  · rw [Function.update_of_ne (Ne.symm hid)]
    exact storedBytes_removeEntry_of_ne hid _

/-- The message a piece completes, of the type of its chunk. -/
def messageOf (messageType : UInt32) (m : UInt32 × Bytes) : UaMessage :=
  { messageType := messageType, requestId := m.1, bytes := m.2 }

/-- What a chunk comes to as the piece `p`. -/
structure TakenAs (messageType : UInt32) (channel : UaSecureChannel) (p : Piece UInt32 UInt8)
    (outcome : ChunkOutcome) (channel' : UaSecureChannel) : Prop where
  message : outcome.message? = (p.completes (channel.stored p.id)).map (messageOf messageType)
  stored : channel'.stored = p.next channel.stored
  distinct : Distinct channel'.chunks

theorem finalizeChunk_piece {memory : ChunkMemory} {channel channel' : UaSecureChannel}
    {messageType id : UInt32} {body : Bytes} {outcome : ChunkOutcome}
    (hdistinct : Distinct channel.chunks)
    (h : uaSecureChannelFinalizeChunk memory channel messageType id body = (outcome, channel'))
    (hgood : outcome.retval = uaStatuscodeGood) :
    TakenAs messageType channel { kind := .final, id := id, body := body } outcome channel' := by
  unfold uaSecureChannelFinalizeChunk at h
  cases hentry : hasEntry id channel.chunks with
  | true =>
    rw [hentry, if_pos rfl] at h
    rcases hrun : appendChunk memory channel id body with ⟨retval, appended⟩
    rw [hrun] at h
    dsimp only at h
    by_cases hretval : retval ≠ uaStatuscodeGood
    · rw [if_pos hretval] at h
      cases h
      exact absurd hgood hretval
    · rw [if_neg hretval] at h
      cases h
      rw [not_not.mp hretval] at hrun
      obtain ⟨hstored, hids⟩ := appendChunk_good hentry hrun
      have hdistinct' : Distinct appended.chunks := by
        rw [Distinct, hids]
        exact hdistinct
      refine ⟨?_, ?_, distinct_removeEntry hdistinct' id⟩
      · have hbytes : storedBytes id appended.chunks = channel.stored id ++ body := by
          show appended.stored id = _
          rw [hstored, Function.update_self]
        show some (UaMessage.mk messageType id _) = some (UaMessage.mk messageType id _)
        rw [hbytes]
      · rw [removeChunks_stored hdistinct', hstored, Function.update_idem]
        rfl
  | false =>
    rw [hentry, if_neg Bool.false_ne_true] at h
    cases h
    have hnone : channel.stored id = [] := storedBytes_of_not_hasEntry hentry
    refine ⟨?_, ?_, hdistinct⟩
    · show some (messageOf messageType (id, body)) = some (messageOf messageType (id, _))
      rw [hnone, List.nil_append]
    · show channel.stored = Function.update channel.stored id []
      rw [← hnone, Function.update_eq_self]

theorem appendChunk_piece {memory : ChunkMemory} {channel channel' : UaSecureChannel}
    {messageType id : UInt32} {body : Bytes} (hdistinct : Distinct channel.chunks)
    (h : uaSecureChannelAppendChunk memory channel id body = (uaStatuscodeGood, channel')) :
    TakenAs messageType channel { kind := .intermediate, id := id, body := body }
      (.done uaStatuscodeGood) channel' := by
  unfold uaSecureChannelAppendChunk at h
  cases hentry : hasEntry id channel.chunks with
  | true =>
    rw [hentry, if_pos rfl] at h
    obtain ⟨hstored, hids⟩ := appendChunk_good hentry h
    refine ⟨rfl, hstored, ?_⟩
    rw [Distinct, hids]
    exact hdistinct
  | false =>
    rw [hentry, if_neg Bool.false_ne_true] at h
    cases hmemory : memory.entry with
    | false =>
      rw [hmemory, if_neg Bool.false_ne_true] at h
      exact absurd (congrArg Prod.fst h) badoutofmemory_ne_good
    | true =>
      rw [hmemory, if_pos rfl] at h
      have hnone : channel.stored id = [] := storedBytes_of_not_hasEntry hentry
      have hnewEntry : hasEntry id ({ requestId := id, bytes := [] } :: channel.chunks) = true := by
        rw [hasEntry, List.any_cons, decide_eq_true rfl, Bool.true_or]
      have hnewStored : UaSecureChannel.stored { channel with
          chunks := { requestId := id, bytes := [] } :: channel.chunks } = channel.stored := by
        funext other
        by_cases hid : id = other
        · subst hid
          rw [hnone]
          exact if_pos rfl
        · exact if_neg hid
      have hnewDistinct : Distinct ({ requestId := id, bytes := [] } :: channel.chunks) := by
        refine List.nodup_cons.mpr ⟨fun hmem => ?_, hdistinct⟩
        rw [hasEntry_iff.mpr hmem] at hentry
        cases hentry
      obtain ⟨hstored, hids⟩ := appendChunk_good hnewEntry h
      refine ⟨rfl, ?_, ?_⟩
      · rw [hstored, hnewStored]
        rfl
      · rw [Distinct, hids]
        exact hnewDistinct

/-- A payload that is processed without an error is a piece of its message. -/
theorem processPayload_piece {memory : ChunkMemory} {channel channel' : UaSecureChannel}
    {messageType chunkType id : UInt32} {body : Bytes} {outcome : ChunkOutcome}
    (hdistinct : Distinct channel.chunks)
    (h : processPayload memory channel messageType chunkType id body = (outcome, channel'))
    (hgood : outcome.retval = uaStatuscodeGood) :
    TakenAs messageType channel { kind := kindOf chunkType, id := id, body := body } outcome
      channel' := by
  unfold processPayload at h
  unfold kindOf
  split_ifs at h with hfinal hintermediate habort
  · rw [if_pos hfinal]
    exact finalizeChunk_piece hdistinct h hgood
  · rw [if_neg hfinal, if_pos hintermediate]
    rcases hrun : uaSecureChannelAppendChunk memory channel id body with ⟨retval, appended⟩
    rw [hrun] at h
    cases h
    have hretval : retval = uaStatuscodeGood := hgood
    subst hretval
    exact appendChunk_piece hdistinct hrun
  · rw [if_neg hfinal, if_neg hintermediate]
    cases h
    exact ⟨rfl, removeChunks_stored hdistinct id, distinct_removeEntry hdistinct id⟩
  · cases h
    exact absurd hgood (by decide)

/-! ## A chunk as a piece -/

/-- Where the sequence header of a chunk is.  An error message has none. -/
def sequenceOffset (table : UaTypeTable) (heap : Heap) (chunk : Bytes) : Option Nat :=
  if h : uaSecureConversationMessageHeaderLength ≤ chunk.length then
    let messageType := uaUInt32At chunk 0 &&& uaBitmaskMessagetype
    if messageType = uaMessagetypeMsg ∨ messageType = uaMessagetypeClo then
      some (uaSecureConversationMessageHeaderLength + uaSymmetricAlgSecurityHeaderLength)
    else if messageType = uaMessagetypeOpn then (asymHeaderEnd table heap chunk h).toOption
    else none
  else none

def pieceOf (table : UaTypeTable) (heap : Heap) (chunk : Bytes) : Option (Piece UInt32 UInt8) :=
  (sequenceOffset table heap chunk).map fun offset =>
    { kind := kindOf (uaUInt32At chunk 0 &&& uaBitmaskChunktype),
      id := uaUInt32At chunk (offset + 4), body := chunk.drop (offset + uaSequenceHeaderLength) }

/-- The checks before the payload leave the entries of a channel as they are. -/
theorem checkSymHeader_chunks {channel channel' : UaSecureChannel} {tokenId : UInt32}
    (h : checkSymHeader channel tokenId = .ok channel') : channel'.chunks = channel.chunks := by
  unfold checkSymHeader uaSecureChannelRevolveTokens at h
  split_ifs at h <;> cases h <;> rfl

theorem checkSecurityHeader_chunks {table : UaTypeTable} {heap : Heap}
    {channel channel' : UaSecureChannel} {chunk : Bytes}
    {h : uaSecureConversationMessageHeaderLength ≤ chunk.length} {messageType chunkType : UInt32}
    {offset : Nat}
    (hcheck : checkSecurityHeader table heap channel chunk h messageType chunkType =
      .ok (channel', offset)) : channel'.chunks = channel.chunks := by
  unfold checkSecurityHeader at hcheck
  split_ifs at hcheck
  · rcases hsym : checkSymHeader channel
      (uaUInt32At chunk uaSecureConversationMessageHeaderLength) with retval | checked
    · rw [hsym] at hcheck
      cases hcheck
    · rw [hsym] at hcheck
      cases hcheck
      exact checkSymHeader_chunks hsym
  · rcases hasym : asymHeaderEnd table heap chunk h with retval | offset
    · rw [hasym] at hcheck
      cases hcheck
    · rw [hasym] at hcheck
      cases hcheck
      rfl

theorem processSequenceNumber_chunks {messageType sequenceNumber : UInt32}
    {channel channel' : UaSecureChannel}
    (h : processSequenceNumber messageType channel sequenceNumber = .ok channel') :
    channel'.chunks = channel.chunks := by
  unfold processSequenceNumber processSequenceNumberAsym processSequenceNumberSym at h
  split_ifs at h <;> cases h <;> rfl

theorem checkSecurityHeader_offset {table : UaTypeTable} {heap : Heap}
    {channel channel' : UaSecureChannel} {chunk : Bytes}
    {h : uaSecureConversationMessageHeaderLength ≤ chunk.length} {chunkType : UInt32}
    {offset : Nat}
    (hcheck : checkSecurityHeader table heap channel chunk h
      (uaUInt32At chunk 0 &&& uaBitmaskMessagetype) chunkType = .ok (channel', offset)) :
    sequenceOffset table heap chunk = some offset := by
  unfold sequenceOffset
  rw [dif_pos h]
  unfold checkSecurityHeader at hcheck
  split_ifs at hcheck with hsym hshort hopn hfinal
  · rcases hchecked : checkSymHeader channel
      (uaUInt32At chunk uaSecureConversationMessageHeaderLength) with retval | checked
    · rw [hchecked] at hcheck
      cases hcheck
    · rw [hchecked] at hcheck
      cases hcheck
      exact if_pos hsym
  · rcases hasym : asymHeaderEnd table heap chunk h with retval | endOffset
    · rw [hasym] at hcheck
      cases hcheck
    · rw [hasym] at hcheck
      cases hcheck
      rw [if_neg hsym, if_pos hopn]
      rfl

/-- What refuses a chunk does not say GOOD. -/
theorem checkSymHeader_error {channel : UaSecureChannel} {tokenId : UInt32}
    {retval : UaStatusCode} (h : checkSymHeader channel tokenId = .error retval) :
    retval ≠ uaStatuscodeGood := by
  unfold checkSymHeader uaSecureChannelRevolveTokens at h
  split_ifs at h <;> cases h <;> decide

theorem asymHeaderEnd_error {table : UaTypeTable} {heap : Heap} {chunk : Bytes}
    {h : uaSecureConversationMessageHeaderLength ≤ chunk.length} {retval : UaStatusCode}
    (herror : asymHeaderEnd table heap chunk h = .error retval) : retval ≠ uaStatuscodeGood := by
  unfold asymHeaderEnd at herror
  rcases hdecode : decodeBinary { message := chunk, table := table, heap := heap }
    (Nat.le_add_right_of_le h) (asymHeader_decodable table) with ret | asymHeader
  · rw [hdecode] at herror
    cases herror
    exact decodeBinary_error hdecode
  · rw [hdecode] at herror
    change ((checkAsymHeader asymHeader.values).bind fun _ => .ok asymHeader.endOffset) =
      .error retval at herror
    unfold checkAsymHeader at herror
    split_ifs at herror
    · cases herror
      decide
    · cases herror

theorem checkSecurityHeader_error {table : UaTypeTable} {heap : Heap} {channel : UaSecureChannel}
    {chunk : Bytes} {h : uaSecureConversationMessageHeaderLength ≤ chunk.length}
    {messageType chunkType : UInt32} {retval : UaStatusCode}
    (herror : checkSecurityHeader table heap channel chunk h messageType chunkType =
      .error retval) : retval ≠ uaStatuscodeGood := by
  unfold checkSecurityHeader at herror
  split_ifs at herror
  · cases herror
    exact baddecodingerror_ne_good
  · rcases hsym : checkSymHeader channel
      (uaUInt32At chunk uaSecureConversationMessageHeaderLength) with ret | checked
    · rw [hsym] at herror
      cases herror
      exact checkSymHeader_error hsym
    · rw [hsym] at herror
      cases herror
  · cases herror
    decide
  · rcases hasym : asymHeaderEnd table heap chunk h with ret | offset
    · rw [hasym] at herror
      cases herror
      exact asymHeaderEnd_error hasym
    · rw [hasym] at herror
      cases herror
  · cases herror
    decide

theorem decryptChunk_error {chunk : Bytes} {offset : Nat} {messageType : UInt32}
    {retval : UaStatusCode} (h : decryptChunk chunk offset messageType = .error retval) :
    retval ≠ uaStatuscodeGood := by
  unfold decryptChunk at h
  split_ifs at h <;> cases h <;> decide

theorem processSequenceNumber_error {messageType sequenceNumber : UInt32}
    {channel : UaSecureChannel} {retval : UaStatusCode}
    (h : processSequenceNumber messageType channel sequenceNumber = .error retval) :
    retval ≠ uaStatuscodeGood := by
  unfold processSequenceNumber processSequenceNumberAsym processSequenceNumberSym at h
  split_ifs at h
  cases h
  decide

/-- A chunk that passes its checks: what they make of it and of the channel. -/
structure Passes (table : UaTypeTable) (heap : Heap) (channel : UaSecureChannel) (chunk : Bytes)
    (sequenced : SequencedChunk) (checked : UaSecureChannel) : Prop where
  long : uaSecureConversationMessageHeaderLength ≤ chunk.length
  channelId : uaUInt32At chunk 8 = channel.securityToken.channelId ∨ channel.state = .fresh
  opened : ∃ offset secured,
    checkSecurityHeader table heap channel chunk long (uaUInt32At chunk 0 &&& uaBitmaskMessagetype)
        (uaUInt32At chunk 0 &&& uaBitmaskChunktype) = .ok (secured, offset) ∧
      decryptChunk chunk offset (uaUInt32At chunk 0 &&& uaBitmaskMessagetype) = .ok sequenced ∧
      processSequenceNumber (uaUInt32At chunk 0 &&& uaBitmaskMessagetype) secured
        sequenced.sequenceNumber = .ok checked

/-- A chunk that is taken is an error message, or it has passed its checks and its payload
is processed. -/
theorem takeChunk_cases {table : UaTypeTable} {memory : ChunkMemory}
    {channel channel' : UaSecureChannel} {chunk : Bytes} {outcome : ChunkOutcome}
    (h : takeChunk table memory channel chunk = (outcome, channel'))
    (hgood : outcome.retval = uaStatuscodeGood) :
    (uaUInt32At chunk 0 &&& uaBitmaskMessagetype = uaMessagetypeErr ∧ channel' = channel ∧
      outcome = .message
        { messageType := uaMessagetypeErr, requestId := 0,
          bytes := chunk.drop uaSecureConversationMessageHeaderLength }) ∨
    (uaUInt32At chunk 0 &&& uaBitmaskMessagetype ≠ uaMessagetypeErr ∧ ∃ sequenced checked,
      Passes table memory.header channel chunk sequenced checked ∧
      processPayload memory checked (uaUInt32At chunk 0 &&& uaBitmaskMessagetype)
        (uaUInt32At chunk 0 &&& uaBitmaskChunktype) sequenced.requestId sequenced.payload =
          (outcome, channel')) := by
  unfold takeChunk at h
  dsimp only at h
  split_ifs at h with hshort hid herr hfinal
  · cases h
    exact absurd hgood baddecodingerror_ne_good
  · cases h
    exact absurd hgood (by decide)
  · cases h
    exact absurd hgood (by decide)
  · cases h
    exact Or.inl ⟨herr, rfl, by rw [herr]⟩
  · right
    refine ⟨herr, ?_⟩
    have hid' : uaUInt32At chunk 8 = channel.securityToken.channelId ∨ channel.state = .fresh := by
      by_contra hnot
      rw [not_or] at hnot
      exact hid hnot
    generalize hheader : checkSecurityHeader table memory.header channel chunk
      (Nat.not_lt.mp hshort) (uaUInt32At chunk 0 &&& uaBitmaskMessagetype)
      (uaUInt32At chunk 0 &&& uaBitmaskChunktype) = header at h
    cases header with
    | error retval =>
      cases h
      exact absurd hgood (checkSecurityHeader_error hheader)
    | ok secured =>
      obtain ⟨secured, offset⟩ := secured
      dsimp only at h
      generalize hdecrypt : decryptChunk chunk offset
        (uaUInt32At chunk 0 &&& uaBitmaskMessagetype) = decrypted at h
      cases decrypted with
      | error retval =>
        cases h
        exact absurd hgood (decryptChunk_error hdecrypt)
      | ok sequenced =>
        dsimp only at h
        generalize hsequence : processSequenceNumber
          (uaUInt32At chunk 0 &&& uaBitmaskMessagetype) secured sequenced.sequenceNumber
          = counted at h
        cases counted with
        | error retval =>
          cases h
          exact absurd hgood (processSequenceNumber_error hsequence)
        | ok checked =>
          exact ⟨sequenced, checked, ⟨Nat.not_lt.mp hshort, hid',
            ⟨offset, secured, hheader, hdecrypt, hsequence⟩⟩, h⟩

/-- A chunk that is taken is an error message, or it is a piece of a message. -/
theorem takeChunk_piece {table : UaTypeTable} {memory : ChunkMemory}
    {channel channel' : UaSecureChannel} {chunk : Bytes} {outcome : ChunkOutcome}
    (hdistinct : Distinct channel.chunks)
    (h : takeChunk table memory channel chunk = (outcome, channel'))
    (hgood : outcome.retval = uaStatuscodeGood) :
    (pieceOf table memory.header chunk = none ∧ channel' = channel ∧
      ∃ bytes, outcome = .message (messageOf uaMessagetypeErr (0, bytes))) ∨
    ∃ p, pieceOf table memory.header chunk = some p ∧
      uaUInt32At chunk 0 &&& uaBitmaskMessagetype ≠ uaMessagetypeErr ∧
      TakenAs (uaUInt32At chunk 0 &&& uaBitmaskMessagetype) channel p outcome channel' := by
  rcases takeChunk_cases h hgood with ⟨herr, rfl, rfl⟩ | ⟨herr, sequenced, checked, hpasses, hrun⟩
  · left
    refine ⟨?_, rfl, _, rfl⟩
    unfold pieceOf sequenceOffset
    split_ifs
    · dsimp only
      rw [herr]
      rfl
    · rfl
  · right
    obtain ⟨offset, secured, hheader, hdecrypt, hsequence⟩ := hpasses.opened
    have hchunks : checked.chunks = channel.chunks :=
      (processSequenceNumber_chunks hsequence).trans (checkSecurityHeader_chunks hheader)
    have hstored : checked.stored = channel.stored := by
      unfold UaSecureChannel.stored
      rw [hchunks]
    have htaken := processPayload_piece (hchunks ▸ hdistinct) hrun hgood
    have hsequenced : sequenced.requestId = uaUInt32At chunk (offset + 4) ∧
        sequenced.payload = chunk.drop (offset + uaSequenceHeaderLength) := by
      unfold decryptChunk at hdecrypt
      split_ifs at hdecrypt
      cases hdecrypt
      exact ⟨rfl, rfl⟩
    rw [hsequenced.1, hsequenced.2] at htaken
    refine ⟨{ kind := kindOf (uaUInt32At chunk 0 &&& uaBitmaskChunktype),
              id := uaUInt32At chunk (offset + 4),
              body := chunk.drop (offset + uaSequenceHeaderLength) }, ?_, herr, ?_⟩
    · rw [pieceOf, checkSecurityHeader_offset hheader]
      rfl
    · exact ⟨hstored ▸ htaken.message, hstored ▸ htaken.stored, htaken.distinct⟩

/-! ## A run of chunks -/

/-- The pieces among some chunks. -/
def piecesIn (table : UaTypeTable) (chunks : List (ChunkMemory × Bytes)) :
    List (Piece UInt32 UInt8) :=
  chunks.filterMap fun c => pieceOf table c.1.header c.2

/-- The messages a run completes that are not errors of the server, as what was said to
which request. -/
def replies (messages : List UaMessage) : List (UInt32 × Bytes) :=
  (messages.filter fun m => m.messageType ≠ uaMessagetypeErr).map fun m => (m.requestId, m.bytes)

theorem replies_append (front back : List UaMessage) :
    replies (front ++ back) = replies front ++ replies back := by
  rw [replies, List.filter_append, List.map_append]
  rfl

theorem replies_messageOf {messageType : UInt32} (h : messageType ≠ uaMessagetypeErr)
    (m : Option (UInt32 × Bytes)) :
    replies (m.map (messageOf messageType)).toList = m.toList := by
  cases m with
  | none => rfl
  | some m =>
    have hkept : ([messageOf messageType m].filter fun m => m.messageType ≠ uaMessagetypeErr) =
        [messageOf messageType m] := List.filter_cons_of_pos (decide_eq_true h)
    show ([messageOf messageType m].filter fun m => m.messageType ≠ uaMessagetypeErr).map _ = [m]
    rw [hkept]
    rfl

theorem takeChunks_cons {table : UaTypeTable} {memory : ChunkMemory}
    {channel channel' : UaSecureChannel} {chunk : Bytes} {chunks : List (ChunkMemory × Bytes)}
    {messages : List UaMessage}
    (h : takeChunks table channel ((memory, chunk) :: chunks) = some (messages, channel')) :
    ∃ outcome taken rest, takeChunk table memory channel chunk = (outcome, taken) ∧
      outcome.retval = uaStatuscodeGood ∧
      takeChunks table taken chunks = some (rest, channel') ∧
      messages = outcome.message?.toList ++ rest := by
  rcases htake : takeChunk table memory channel chunk with ⟨outcome, taken⟩
  rw [takeChunks, htake] at h
  dsimp only at h
  by_cases hgood : outcome.retval = uaStatuscodeGood
  · rw [if_pos hgood] at h
    obtain ⟨⟨rest, last⟩, hrest, heq⟩ := Option.map_eq_some_iff.mp h
    cases heq
    exact ⟨outcome, taken, rest, rfl, hgood, hrest, rfl⟩
  · rw [if_neg hgood] at h
    cases h

/-- An open channel, for the runs below. -/
def sampleChannel : UaSecureChannel where
  state := .opened
  securityToken := { channelId := 7, tokenId := 3, createdAt := 0, revisedLifetime := 600000 }
  nextSecurityToken := .init
  receiveSequenceNumber := 51
  sendSequenceNumber := 50
  chunks := []

def sampleMemory : ChunkMemory := { header := ampleHeap, entry := true, bytes := true }

/-- Two messages, the one between the chunks of the other. -/
def samplePieces : List (Piece UInt32 UInt8) :=
  [{ kind := .intermediate, id := 8, body := [1, 2] }, { kind := .final, id := 9, body := [5] },
    { kind := .final, id := 8, body := [3] }]

def sampleChunks : List (ChunkMemory × Bytes) :=
  (symmetricChunks uaMessagetypeMsg sampleChannel.securityToken
    sampleChannel.receiveSequenceNumber samplePieces).map fun chunk => (sampleMemory, chunk)

/-- The chunks a channel takes come to the messages that their pieces make, and what it
still holds is what is pending of them. -/
theorem takeChunks_messages {table : UaTypeTable} {channel channel' : UaSecureChannel}
    {chunks : List (ChunkMemory × Bytes)} {messages : List UaMessage}
    (hdistinct : Distinct channel.chunks)
    (h : takeChunks table channel chunks = some (messages, channel')) :
    replies messages = messagesFrom channel.stored (piecesIn table chunks) ∧
      channel'.stored = pendingAfter channel.stored (piecesIn table chunks) ∧
      Distinct channel'.chunks := by
  induction chunks generalizing channel messages with
  | nil =>
    cases h
    exact ⟨rfl, rfl, hdistinct⟩
  | cons c chunks ih =>
    obtain ⟨memory, chunk⟩ := c
    obtain ⟨outcome, taken, rest, htake, hgood, hrest, rfl⟩ := takeChunks_cons h
    rw [replies_append]
    rcases takeChunk_piece hdistinct htake hgood with
      ⟨hpiece, rfl, bytes, rfl⟩ | ⟨p, hpiece, herr, htaken⟩
    · have hpieces : piecesIn table ((memory, chunk) :: chunks) = piecesIn table chunks :=
        List.filterMap_cons_none hpiece
      rw [hpieces]
      exact ih hdistinct hrest
    · have hpieces : piecesIn table ((memory, chunk) :: chunks) = p :: piecesIn table chunks :=
        List.filterMap_cons_some hpiece
      obtain ⟨hreplies, hstored, hdistinct'⟩ := ih htaken.distinct hrest
      rw [hpieces, messagesFrom_cons, pendingAfter_cons, ← htaken.stored]
      refine ⟨?_, hstored, hdistinct'⟩
      rw [htaken.message, replies_messageOf herr, hreplies]

theorem takeChunks_messages_interleaved :
    replies [messageOf uaMessagetypeMsg (9, [5]), messageOf uaMessagetypeMsg (8, [1, 2, 3])] =
        messagesFrom sampleChannel.stored (piecesIn uaTypesTable sampleChunks) ∧
      UaSecureChannel.stored { sampleChannel with receiveSequenceNumber := 54 } =
        pendingAfter sampleChannel.stored (piecesIn uaTypesTable sampleChunks) ∧
      Distinct sampleChannel.chunks :=
  takeChunks_messages (show Distinct sampleChannel.chunks from List.nodup_nil)
    (show takeChunks uaTypesTable sampleChannel sampleChunks = some (_,
      { sampleChannel with receiveSequenceNumber := 54 }) from rfl)

/-- A message that arrives whole, its chunks in their order with whatever else between
them, is handed over once and as it was sent. -/
theorem takeChunks_reply {table : UaTypeTable} {channel channel' : UaSecureChannel}
    {chunks : List (ChunkMemory × Bytes)} {messages : List UaMessage} {id : UInt32}
    {bodies : List Bytes} (hdistinct : Distinct channel.chunks)
    (h : takeChunks table channel chunks = some (messages, channel'))
    (hfresh : channel.stored id = []) (hbodies : bodies ≠ [])
    (hpieces : (piecesIn table chunks).filter (fun p => p.id = id) = piecesOf id bodies) :
    (replies messages).filter (fun m => m.1 = id) = [(id, bodies.flatten)] ∧
      channel'.stored id = [] := by
  obtain ⟨hreplies, hstored, -⟩ := takeChunks_messages hdistinct h
  constructor
  · rw [hreplies, messagesFrom_filter, hpieces, ← List.append_nil (piecesOf id bodies),
      messagesFrom_piecesOf _ _ hbodies, hfresh, List.nil_append, messagesFrom_nil]
  · rw [hstored, pendingAfter_filter rfl, hpieces, pendingAfter_piecesOf _ _ hbodies,
      Function.update_self]

theorem takeChunks_reply_interleaved :
    (replies [messageOf uaMessagetypeMsg (9, [5]), messageOf uaMessagetypeMsg (8, [1, 2, 3])]).filter
        (fun m => m.1 = 8) = [(8, [[1, 2], [3]].flatten)] ∧
      UaSecureChannel.stored { sampleChannel with receiveSequenceNumber := 54 } 8 = [] :=
  takeChunks_reply (show Distinct sampleChannel.chunks from List.nodup_nil)
    (show takeChunks uaTypesTable sampleChannel sampleChunks = some (_,
      { sampleChannel with receiveSequenceNumber := 54 }) from rfl)
    rfl (List.cons_ne_nil _ _) rfl

/-! ## The order of the chunks -/

/-- The rule of `processSequenceNumberSym`. -/
def sequenceRollover : Rollover where
  modulus := 2 ^ 32
  late := 4294966271
  early := 1024
  early_pos := by decide
  ordered := by decide
  late_lt := by decide

theorem processSequenceNumberSym_ok {channel channel' : UaSecureChannel} {sequenceNumber : UInt32}
    (h : processSequenceNumberSym channel sequenceNumber = .ok channel') :
    sequenceRollover.Accepts channel.receiveSequenceNumber.toNat sequenceNumber.toNat ∧
      channel' = { channel with receiveSequenceNumber := sequenceNumber } := by
  have hnext : (channel.receiveSequenceNumber + 1).toNat =
      (channel.receiveSequenceNumber.toNat + 1) % 2 ^ 32 := UInt32.toNat_add _ _
  unfold processSequenceNumberSym at h
  split_ifs at h with hne hroll
  · cases h
    refine ⟨Or.inr ⟨?_, ?_⟩, ?_⟩
    · rw [show sequenceRollover.modulus = 2 ^ 32 from rfl, ← hnext]
      exact UInt32.lt_iff_toNat_lt.mp hroll.1
    · exact UInt32.lt_iff_toNat_lt.mp hroll.2
    · rw [UInt32.sub_add_cancel]
  · cases h
    have heq := not_not.mp hne
    refine ⟨Or.inl ?_, ?_⟩
    · rw [heq]
      exact hnext
    · rw [heq]

/-- Processing a payload touches nothing but the entries. -/
theorem processPayload_frame (memory : ChunkMemory) (channel : UaSecureChannel)
    (messageType chunkType id : UInt32) (body : Bytes) :
    ∃ chunks, (processPayload memory channel messageType chunkType id body).2 =
      { channel with chunks := chunks } := by
  have happend : ∀ c : UaSecureChannel, ∃ chunks,
      (appendChunk memory c id body).2 = { c with chunks := chunks } := by
    intro c
    unfold appendChunk
    split_ifs <;> exact ⟨_, rfl⟩
  unfold processPayload
  split_ifs
  · unfold uaSecureChannelFinalizeChunk
    obtain ⟨chunks, happended⟩ := happend channel
    split_ifs
    · dsimp only
      rw [happended]
      split_ifs <;> exact ⟨_, rfl⟩
    · exact ⟨channel.chunks, rfl⟩
  · show ∃ chunks, (uaSecureChannelAppendChunk memory channel id body).2 = _
    unfold uaSecureChannelAppendChunk
    split_ifs
    · exact happend channel
    · exact happend _
    · exact ⟨channel.chunks, rfl⟩
  · exact ⟨_, rfl⟩
  · exact ⟨channel.chunks, rfl⟩

def messageTypeIn (chunk : Bytes) : UInt32 := uaUInt32At chunk 0 &&& uaBitmaskMessagetype

/-- A chunk under the symmetric header, which says its token. -/
def IsSymmetric (chunk : Bytes) : Prop :=
  messageTypeIn chunk = uaMessagetypeMsg ∨ messageTypeIn chunk = uaMessagetypeClo

instance (chunk : Bytes) : Decidable (IsSymmetric chunk) :=
  inferInstanceAs (Decidable (_ ∨ _))

def tokenIn (chunk : Bytes) : UInt32 := uaUInt32At chunk uaSecureConversationMessageHeaderLength

def sequenceNumberIn (chunk : Bytes) : UInt32 :=
  uaUInt32At chunk (uaSecureConversationMessageHeaderLength + uaSymmetricAlgSecurityHeaderLength)

theorem checkSecurityHeader_symmetric {table : UaTypeTable} {heap : Heap}
    {channel secured : UaSecureChannel} {chunk : Bytes}
    {h : uaSecureConversationMessageHeaderLength ≤ chunk.length} {chunkType : UInt32}
    {offset : Nat} (hsymmetric : IsSymmetric chunk)
    (hcheck : checkSecurityHeader table heap channel chunk h (messageTypeIn chunk) chunkType =
      .ok (secured, offset)) :
    offset = uaSecureConversationMessageHeaderLength + uaSymmetricAlgSecurityHeaderLength ∧
      checkSymHeader channel (tokenIn chunk) = .ok secured := by
  unfold checkSecurityHeader at hcheck
  split_ifs at hcheck with htype hshort hopn hfinal
  · rcases hsym : checkSymHeader channel
      (uaUInt32At chunk uaSecureConversationMessageHeaderLength) with retval | opened
    · rw [hsym] at hcheck
      cases hcheck
    · rw [hsym] at hcheck
      cases hcheck
      exact ⟨rfl, hsym⟩
  · exact absurd hsymmetric htype

/-- A symmetric chunk that is taken names the channel and a token of it, and has the
sequence number that is expected. -/
theorem takeChunk_symmetric {table : UaTypeTable} {memory : ChunkMemory}
    {channel channel' : UaSecureChannel} {chunk : Bytes} {outcome : ChunkOutcome}
    (h : takeChunk table memory channel chunk = (outcome, channel'))
    (hgood : outcome.retval = uaStatuscodeGood) (hsymmetric : IsSymmetric chunk) :
    (uaUInt32At chunk 8 = channel.securityToken.channelId ∨ channel.state = .fresh) ∧
    ∃ secured chunks, checkSymHeader channel (tokenIn chunk) = .ok secured ∧
      sequenceRollover.Accepts secured.receiveSequenceNumber.toNat
        (sequenceNumberIn chunk).toNat ∧
      channel' =
        { secured with receiveSequenceNumber := sequenceNumberIn chunk, chunks := chunks } := by
  rcases takeChunk_cases h hgood with ⟨herr, -, -⟩ | ⟨-, sequenced, checked, hpasses, hrun⟩
  · rw [IsSymmetric, messageTypeIn, herr] at hsymmetric
    exact absurd hsymmetric (by decide)
  · refine ⟨hpasses.channelId, ?_⟩
    obtain ⟨offset, secured, hheader, hdecrypt, hsequence⟩ := hpasses.opened
    obtain ⟨rfl, hsecured⟩ := checkSecurityHeader_symmetric hsymmetric hheader
    have hopn : uaUInt32At chunk 0 &&& uaBitmaskMessagetype ≠ uaMessagetypeOpn := by
      rcases hsymmetric with htype | htype <;> rw [messageTypeIn] at htype <;> rw [htype] <;>
        decide
    rw [processSequenceNumber, if_neg hopn] at hsequence
    unfold decryptChunk at hdecrypt
    split_ifs at hdecrypt
    cases hdecrypt
    obtain ⟨haccepts, rfl⟩ := processSequenceNumberSym_ok hsequence
    obtain ⟨chunks, hframe⟩ := processPayload_frame memory
      { secured with receiveSequenceNumber := sequenceNumberIn chunk } _ _ _ _
    exact ⟨secured, chunks, hsecured, haccepts, (congrArg Prod.snd hrun).symm.trans hframe⟩

/-- Any other chunk leaves the tokens as they are. -/
theorem takeChunk_other {table : UaTypeTable} {memory : ChunkMemory}
    {channel channel' : UaSecureChannel} {chunk : Bytes} {outcome : ChunkOutcome}
    (h : takeChunk table memory channel chunk = (outcome, channel'))
    (hgood : outcome.retval = uaStatuscodeGood) (hsymmetric : ¬IsSymmetric chunk) :
    ∃ sequenceNumber chunks,
      channel' = { channel with receiveSequenceNumber := sequenceNumber, chunks := chunks } ∧
      (messageTypeIn chunk ≠ uaMessagetypeOpn → sequenceNumber = channel.receiveSequenceNumber) := by
  rcases takeChunk_cases h hgood with ⟨-, rfl, -⟩ | ⟨-, sequenced, checked, hpasses, hrun⟩
  · exact ⟨channel'.receiveSequenceNumber, channel'.chunks, rfl, fun _ => rfl⟩
  · obtain ⟨offset, secured, hheader, hdecrypt, hsequence⟩ := hpasses.opened
    unfold checkSecurityHeader at hheader
    split_ifs at hheader with htype hshort hopn hfinal
    · exact absurd htype hsymmetric
    rcases hasym : asymHeaderEnd table memory.header chunk hpasses.long with retval | endOffset
    · rw [hasym] at hheader
      cases hheader
    · rw [hasym] at hheader
      cases hheader
      rw [processSequenceNumber, if_pos hopn] at hsequence
      cases hsequence
      obtain ⟨chunks, hframe⟩ := processPayload_frame memory
        { channel with receiveSequenceNumber := sequenced.sequenceNumber } _ _ _ _
      exact ⟨sequenced.sequenceNumber, chunks, (congrArg Prod.snd hrun).symm.trans hframe,
        fun hne => absurd hopn hne⟩

theorem checkSymHeader_ok {channel secured : UaSecureChannel} {tokenId : UInt32}
    (h : checkSymHeader channel tokenId = .ok secured) :
    (tokenId = channel.securityToken.tokenId ∧ secured = channel) ∨
    (tokenId = channel.nextSecurityToken.tokenId ∧ channel.nextSecurityToken.tokenId ≠ 0 ∧
      secured = { channel with
        securityToken := channel.nextSecurityToken, nextSecurityToken := .init }) := by
  unfold checkSymHeader uaSecureChannelRevolveTokens at h
  split_ifs at h with htoken hnext hzero
  · cases h
    exact Or.inr ⟨not_not.mp hnext, hzero, rfl⟩
  · cases h
    exact Or.inl ⟨not_not.mp htoken, rfl⟩

/-- All chunks under the symmetric header bear one token. -/
def UnderToken (tokenId : UInt32) (chunks : List (ChunkMemory × Bytes)) : Prop :=
  ∀ c ∈ chunks, IsSymmetric c.2 → tokenIn c.2 = tokenId

theorem UnderToken.cons {tokenId : UInt32} {c : ChunkMemory × Bytes}
    {chunks : List (ChunkMemory × Bytes)} (hc : IsSymmetric c.2 → tokenIn c.2 = tokenId)
    (h : UnderToken tokenId chunks) : UnderToken tokenId (c :: chunks) := by
  intro d hd
  rcases List.mem_cons.mp hd with rfl | hd
  · exact hc
  · exact h d hd

/-- The tokens do not mix: a channel takes chunks under its token, and once one under the
next token is among them it takes no more under the old one. -/
theorem takeChunks_tokens {table : UaTypeTable} {channel channel' : UaSecureChannel}
    {chunks : List (ChunkMemory × Bytes)} {messages : List UaMessage}
    (h : takeChunks table channel chunks = some (messages, channel')) :
    ∃ before after, chunks = before ++ after ∧
      UnderToken channel.securityToken.tokenId before ∧
      UnderToken channel.nextSecurityToken.tokenId after ∧
      (after ≠ [] → channel.nextSecurityToken.tokenId ≠ 0) := by
  induction chunks generalizing channel messages with
  | nil => exact ⟨[], [], rfl, nofun, nofun, fun hne => absurd rfl hne⟩
  | cons c chunks ih =>
    obtain ⟨memory, chunk⟩ := c
    obtain ⟨outcome, taken, rest, htake, hgood, hrest, rfl⟩ := takeChunks_cons h
    by_cases hsymmetric : IsSymmetric chunk
    · obtain ⟨-, secured, entries, hsecured, -, rfl⟩ :=
        takeChunk_symmetric htake hgood hsymmetric
      obtain ⟨before, after, rfl, hbefore, hafter, hzero⟩ := ih hrest
      rcases checkSymHeader_ok hsecured with ⟨htoken, rfl⟩ | ⟨htoken, hnext, rfl⟩
      · exact ⟨(memory, chunk) :: before, after, rfl, hbefore.cons fun _ => htoken, hafter, hzero⟩
      · -- there is no token behind the next one
        have hnone : after = [] := by
          by_contra hne
          exact hzero hne rfl
        subst hnone
        rw [List.append_nil]
        exact ⟨[], (memory, chunk) :: before, rfl, nofun, hbefore.cons fun _ => htoken,
          fun _ => hnext⟩
    · obtain ⟨sequenceNumber, entries, rfl, -⟩ := takeChunk_other htake hgood hsymmetric
      obtain ⟨before, after, rfl, hbefore, hafter, hzero⟩ := ih hrest
      exact ⟨(memory, chunk) :: before, after, rfl,
        hbefore.cons fun hsym => absurd hsym hsymmetric, hafter, hzero⟩

theorem takeChunks_tokens_interleaved :
    ∃ before after, sampleChunks = before ++ after ∧
      UnderToken sampleChannel.securityToken.tokenId before ∧
      UnderToken sampleChannel.nextSecurityToken.tokenId after ∧
      (after ≠ [] → sampleChannel.nextSecurityToken.tokenId ≠ 0) :=
  takeChunks_tokens
    (show takeChunks uaTypesTable sampleChannel sampleChunks =
      some ([messageOf uaMessagetypeMsg (9, [5]), messageOf uaMessagetypeMsg (8, [1, 2, 3])],
        { sampleChannel with receiveSequenceNumber := 54 }) from rfl)

/-- The sequence numbers of the chunks under the symmetric header. -/
def sequenceNumbersIn (chunks : List (ChunkMemory × Bytes)) : List Nat :=
  (chunks.filter fun c => IsSymmetric c.2).map fun c => (sequenceNumberIn c.2).toNat

theorem sequenceNumbersIn_lt (chunks : List (ChunkMemory × Bytes)) :
    ∀ n ∈ sequenceNumbersIn chunks, n < sequenceRollover.modulus := by
  intro n hn
  obtain ⟨c, -, rfl⟩ := List.mem_map.mp hn
  exact (sequenceNumberIn c.2).toNat_lt

theorem takeChunks_accepts {table : UaTypeTable} {channel channel' : UaSecureChannel}
    {chunks : List (ChunkMemory × Bytes)} {messages : List UaMessage}
    (hopened : ∀ c ∈ chunks, messageTypeIn c.2 ≠ uaMessagetypeOpn)
    (h : takeChunks table channel chunks = some (messages, channel')) :
    sequenceRollover.AcceptsAll channel.receiveSequenceNumber.toNat
      (sequenceNumbersIn chunks) := by
  induction chunks generalizing channel messages with
  | nil => trivial
  | cons c chunks ih =>
    obtain ⟨memory, chunk⟩ := c
    obtain ⟨outcome, taken, rest, htake, hgood, hrest, rfl⟩ := takeChunks_cons h
    have htail := fun c hc => hopened c (List.mem_cons_of_mem (memory, chunk) hc)
    by_cases hsymmetric : IsSymmetric chunk
    · obtain ⟨-, secured, entries, hsecured, haccepts, rfl⟩ :=
        takeChunk_symmetric htake hgood hsymmetric
      have hcounter : secured.receiveSequenceNumber = channel.receiveSequenceNumber := by
        rcases checkSymHeader_ok hsecured with ⟨-, rfl⟩ | ⟨-, -, rfl⟩ <;> rfl
      have hnumbers : sequenceNumbersIn ((memory, chunk) :: chunks) =
          (sequenceNumberIn chunk).toNat :: sequenceNumbersIn chunks :=
        congrArg (List.map _) (List.filter_cons_of_pos
          (p := fun c : ChunkMemory × Bytes => IsSymmetric c.2) (decide_eq_true hsymmetric))
      rw [hnumbers]
      exact ⟨hcounter ▸ haccepts, ih htail hrest⟩
    · obtain ⟨sequenceNumber, entries, rfl, hkept⟩ := takeChunk_other htake hgood hsymmetric
      have hnumbers : sequenceNumbersIn ((memory, chunk) :: chunks) = sequenceNumbersIn chunks :=
        congrArg (List.map _) (List.filter_cons_of_neg
          (p := fun c : ChunkMemory × Bytes => IsSymmetric c.2) (by simpa using hsymmetric))
      rw [hnumbers, ← hkept (hopened _ List.mem_cons_self)]
      exact ih htail hrest

/-- A channel that is not opened again takes no sequence number twice, until the numbers
between late and early are used up: a chunk that is played back is refused. -/
theorem takeChunks_no_replay {table : UaTypeTable} {channel channel' : UaSecureChannel}
    {chunks : List (ChunkMemory × Bytes)} {messages : List UaMessage}
    (hopened : ∀ c ∈ chunks, messageTypeIn c.2 ≠ uaMessagetypeOpn)
    (hlength : (chunks.filter fun c => IsSymmetric c.2).length ≤ sequenceRollover.span)
    (h : takeChunks table channel chunks = some (messages, channel')) :
    (sequenceNumbersIn chunks).Nodup := by
  refine Rollover.nodup_of_accepts (sequenceNumbersIn_lt chunks) (takeChunks_accepts hopened h) ?_
  rw [sequenceNumbersIn, List.length_map]
  exact hlength

theorem takeChunks_no_replay_interleaved : (sequenceNumbersIn sampleChunks).Nodup :=
  takeChunks_no_replay (by decide) (by decide)
    (show takeChunks uaTypesTable sampleChannel sampleChunks =
      some ([messageOf uaMessagetypeMsg (9, [5]), messageOf uaMessagetypeMsg (8, [1, 2, 3])],
        { sampleChannel with receiveSequenceNumber := 54 }) from rfl)

end Opcua
end OpcuaGateway
