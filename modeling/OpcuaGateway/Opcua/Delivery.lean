/-
A message from the stream of bytes to the callback.

What a peer lays out as chunks, each with the number that is next, the client hands over
as the messages they are pieces of, wherever the packets of the connection end
(`receivePackets_symmetricChunks`).
-/
import OpcuaGateway.Opcua.Assembly

namespace OpcuaGateway
namespace Opcua

open Text (Bytes)
open Framing Numeric

/-! ## Chunks go to the channel -/

/-- The channel, what its callback keeps, and how many chunks there have been. -/
structure ChannelState (σ : Type) where
  channel : UaSecureChannel
  application : σ
  chunk : Nat

variable {σ : Type}

/-- `client_processChunk`; `memory` is what there is for each chunk. -/
def clientProcessChunk (table : UaTypeTable) (memory : Nat → ChunkMemory)
    (callback : σ → UaSecureChannel → UaMessage → UaStatusCode × σ) :
    ProcessChunkCallback (ChannelState σ) where
  call s connection chunk :=
    let (retval, application, channel) :=
      uaSecureChannelProcessChunk table (memory s.chunk) callback s.application s.channel chunk
    (retval, { channel := channel, application := application, chunk := s.chunk + 1 }, connection)
  keeps _ _ _ := rfl

/-- A chunk completes a message for the callback, or the callback is not asked. -/
theorem clientProcessChunk_cases (table : UaTypeTable) (memory : Nat → ChunkMemory)
    (callback : σ → UaSecureChannel → UaMessage → UaStatusCode × σ) (s : ChannelState σ)
    (connection : UaConnection) (chunk : Bytes) :
    ((clientProcessChunk table memory callback).call s connection chunk).2.1.application =
        s.application ∨
      ∃ channel message,
        ((clientProcessChunk table memory callback).call s connection chunk).1 =
            (callback s.application channel message).1 ∧
          ((clientProcessChunk table memory callback).call s connection chunk).2.1.application =
            (callback s.application channel message).2 := by
  rcases htake : takeChunk table (memory s.chunk) s.channel chunk with ⟨retval | message, channel⟩
  · exact Or.inl (by simp only [clientProcessChunk, uaSecureChannelProcessChunk, htake])
  · exact Or.inr ⟨channel, message, by
      simp only [clientProcessChunk, uaSecureChannelProcessChunk, htake, and_self]⟩

/-! ## What a chunk says -/

theorem wordBytes_length (words : List UInt32) : (wordBytes words).length = 4 * words.length := by
  induction words with
  | nil => rfl
  | cons word words ih =>
    show (toBytes 4 word.toNat ++ wordBytes words).length = _
    rw [List.length_append, toBytes_length, ih, List.length_cons]
    omega

theorem uaUInt32At_words {words : List UInt32} {i : Nat} {word : UInt32}
    (h : words[i]? = some word) (body : Bytes) :
    uaUInt32At (wordBytes words ++ body) (4 * i) = word := by
  induction words generalizing i with
  | nil => cases h
  | cons first words ih =>
    have hlength : (toBytes 4 first.toNat).length = 4 := toBytes_length 4 _
    have hsplit : wordBytes (first :: words) ++ body =
        toBytes 4 first.toNat ++ (wordBytes words ++ body) := List.append_assoc _ _ _
    unfold uaUInt32At at ih ⊢
    rw [hsplit]
    cases i with
    | zero =>
      cases h
      rw [Nat.mul_zero, List.drop_zero, List.take_append_of_le_length (Nat.le_of_eq hlength.symm),
        List.take_of_length_le (Nat.le_of_eq hlength), ofBytes_toBytes_of_lt word.toNat_lt]
      exact UInt32.ofNat_toNat
    | succ i =>
      have hdrop : 4 * (i + 1) = (toBytes 4 first.toNat).length + 4 * i := by omega
      rw [hdrop, List.drop_length_add_append]
      exact ih h

theorem symmetricChunks_length (messageType : UInt32) (token : UaChannelSecurityToken)
    (last : UInt32) (pieces : List (Piece UInt32 UInt8)) :
    (symmetricChunks messageType token last pieces).length = pieces.length := by
  induction pieces generalizing last with
  | nil => rfl
  | cons p pieces ih => simp [symmetricChunks, ih]

section

variable (messageType : UInt32) (token : UaChannelSecurityToken) (sequenceNumber : UInt32)
  (p : Piece UInt32 UInt8)

theorem symmetricChunk_length :
    (symmetricChunk messageType token sequenceNumber p).length =
      uaSecureMessageHeaderLength + p.body.length := by
  rw [symmetricChunk, List.length_append, wordBytes_length]
  rfl

theorem symmetricChunk_drop :
    (symmetricChunk messageType token sequenceNumber p).drop uaSecureMessageHeaderLength = p.body :=
  List.drop_left' (wordBytes_length _)

theorem chunkTypeOf_kind : kindOf (chunkTypeOf p.kind) = p.kind := by
  cases p.kind <;> rfl

end

theorem symmetricChunk_types {messageType : UInt32}
    (h : messageType = uaMessagetypeMsg ∨ messageType = uaMessagetypeClo)
    (token : UaChannelSecurityToken) (sequenceNumber : UInt32) (p : Piece UInt32 UInt8) :
    uaUInt32At (symmetricChunk messageType token sequenceNumber p) 0 &&& uaBitmaskMessagetype =
        messageType ∧
      uaUInt32At (symmetricChunk messageType token sequenceNumber p) 0 &&& uaBitmaskChunktype =
        chunkTypeOf p.kind := by
  have hword : uaUInt32At (symmetricChunk messageType token sequenceNumber p) (4 * 0) =
      messageType + chunkTypeOf p.kind := uaUInt32At_words rfl _
  rw [Nat.mul_zero] at hword
  rw [hword]
  rcases h with rfl | rfl <;> cases p.kind <;> decide

/-! ## A chunk as the channel takes it -/

theorem processSequenceNumberSym_next (channel : UaSecureChannel) :
    processSequenceNumberSym channel (channel.receiveSequenceNumber + 1) =
      .ok { channel with receiveSequenceNumber := channel.receiveSequenceNumber + 1 } := by
  rw [processSequenceNumberSym, if_neg (not_not.mpr rfl)]

/-- What the headers of a laid out chunk say. -/
structure LaidOut (chunk : Bytes) (messageType : UInt32) (token : UaChannelSecurityToken)
    (sequenceNumber : UInt32) (p : Piece UInt32 UInt8) : Prop where
  messageType : uaUInt32At chunk 0 &&& uaBitmaskMessagetype = messageType
  chunkType : uaUInt32At chunk 0 &&& uaBitmaskChunktype = chunkTypeOf p.kind
  channelId : uaUInt32At chunk 8 = token.channelId
  tokenId : uaUInt32At chunk 12 = token.tokenId
  sequenceNumber : uaUInt32At chunk 16 = sequenceNumber
  requestId : uaUInt32At chunk 20 = p.id
  length : chunk.length = 24 + p.body.length
  body : chunk.drop 24 = p.body

theorem symmetricChunk_laidOut {messageType : UInt32}
    (h : messageType = uaMessagetypeMsg ∨ messageType = uaMessagetypeClo)
    (token : UaChannelSecurityToken) (sequenceNumber : UInt32) (p : Piece UInt32 UInt8) :
    LaidOut (symmetricChunk messageType token sequenceNumber p) messageType token sequenceNumber
      p := by
  have hword : ∀ {i word}, [messageType + chunkTypeOf p.kind,
      UInt32.ofNat (uaSecureMessageHeaderLength + p.body.length), token.channelId, token.tokenId,
      sequenceNumber, p.id][i]? = some word →
      uaUInt32At (symmetricChunk messageType token sequenceNumber p) (4 * i) = word :=
    fun h => uaUInt32At_words h _
  exact ⟨(symmetricChunk_types h token sequenceNumber p).1,
    (symmetricChunk_types h token sequenceNumber p).2, hword (i := 2) rfl, hword (i := 3) rfl,
    hword (i := 4) rfl, hword (i := 5) rfl, symmetricChunk_length _ _ _ p,
    symmetricChunk_drop _ _ _ p⟩

section

variable {chunk : Bytes} {messageType : UInt32} {channel : UaSecureChannel}
  {sequenceNumber : UInt32} {p : Piece UInt32 UInt8}

theorem LaidOut.checkSecurityHeader
    (h : LaidOut chunk messageType channel.securityToken sequenceNumber p)
    (htype : messageType = uaMessagetypeMsg ∨ messageType = uaMessagetypeClo)
    (table : UaTypeTable) (heap : Heap)
    (hlong : uaSecureConversationMessageHeaderLength ≤ chunk.length) (chunkType : UInt32) :
    checkSecurityHeader table heap channel chunk hlong messageType chunkType =
      .ok (channel, 16) := by
  have hlength := h.length
  have hshort : ¬chunk.length <
      uaSecureConversationMessageHeaderLength + uaSymmetricAlgSecurityHeaderLength := by
    simp only [uaSecureConversationMessageHeaderLength, uaSymmetricAlgSecurityHeaderLength]
    omega
  have htoken : checkSymHeader channel (uaUInt32At chunk uaSecureConversationMessageHeaderLength) =
      .ok channel := if_neg (not_not.mpr h.tokenId)
  rw [Opcua.checkSecurityHeader, if_pos htype, if_neg hshort, htoken]
  rfl

theorem LaidOut.decryptChunk
    (h : LaidOut chunk messageType channel.securityToken sequenceNumber p) (hbody : p.body ≠ []) :
    decryptChunk chunk 16 messageType =
      .ok { sequenceNumber := sequenceNumber, requestId := p.id, payload := p.body } := by
  have hlength := h.length
  have hpositive : 0 < p.body.length := List.length_pos_iff.mpr hbody
  have hopn : ¬(messageType = uaMessagetypeOpn ∧ chunk.length ≤ 16) := by omega
  rw [Opcua.decryptChunk, if_neg hopn, if_neg (by show ¬chunk.length < 16 + 8; omega),
    if_neg (by show ¬chunk.length ≤ 16 + 8; omega), h.sequenceNumber]
  show Except.ok (SequencedChunk.mk _ (uaUInt32At chunk 20) (chunk.drop 24)) = _
  rw [h.requestId, h.body]

/-- The chunk that is next is taken for its piece. -/
theorem LaidOut.takeChunk {table : UaTypeTable} {memory : ChunkMemory}
    (h : LaidOut chunk messageType channel.securityToken (channel.receiveSequenceNumber + 1) p)
    (htype : messageType = uaMessagetypeMsg ∨ messageType = uaMessagetypeClo)
    (hbody : p.body ≠ []) :
    takeChunk table memory channel chunk =
      processPayload memory
        { channel with receiveSequenceNumber := channel.receiveSequenceNumber + 1 } messageType
        (chunkTypeOf p.kind) p.id p.body := by
  have hlength := h.length
  have hlong : ¬chunk.length < uaSecureConversationMessageHeaderLength := by
    show ¬chunk.length < 12
    omega
  have herr : messageType ≠ uaMessagetypeErr := by
    rcases htype with rfl | rfl <;> decide
  have hopn : messageType ≠ uaMessagetypeOpn := by
    rcases htype with rfl | rfl <;> decide
  have hid : ¬(uaUInt32At chunk 8 ≠ channel.securityToken.channelId ∧ channel.state ≠ .fresh) :=
    fun hwrong => hwrong.1 h.channelId
  have hcheck := h.checkSecurityHeader htype table memory.header (Nat.not_lt.mp hlong)
    (chunkTypeOf p.kind)
  have hnumber : processSequenceNumber messageType channel (channel.receiveSequenceNumber + 1) =
      .ok { channel with receiveSequenceNumber := channel.receiveSequenceNumber + 1 } := by
    rw [processSequenceNumber, if_neg hopn]
    exact processSequenceNumberSym_next channel
  rw [Opcua.takeChunk, dif_neg hlong, if_neg hid]
  simp only [h.messageType, h.chunkType, if_neg herr, hcheck, h.decryptChunk hbody, hnumber]

end

/-! ## Chunks as the channel takes them -/

/-- Memory for a chunk and for what it adds to. -/
structure ChunkMemory.Ample (memory : ChunkMemory) : Prop where
  entry : memory.entry = true
  bytes : memory.bytes = true

theorem appendChunk_of_ample {memory : ChunkMemory} (h : memory.Ample) (channel : UaSecureChannel)
    (id : UInt32) (body : Bytes) : (appendChunk memory channel id body).1 = uaStatuscodeGood := by
  rw [appendChunk, if_pos h.bytes]

theorem processPayload_of_ample {memory : ChunkMemory} (h : memory.Ample)
    (channel : UaSecureChannel) (messageType id : UInt32) (kind : PieceKind) (body : Bytes) :
    (processPayload memory channel messageType (chunkTypeOf kind) id body).1.retval =
      uaStatuscodeGood := by
  have happend := fun channel => appendChunk_of_ample h channel id body
  cases kind with
  | final =>
    show (uaSecureChannelFinalizeChunk memory channel messageType id body).1.retval = _
    unfold uaSecureChannelFinalizeChunk
    split_ifs
    · simp only [happend channel, ne_eq, not_true_eq_false, if_false]
      rfl
    · rfl
  | intermediate =>
    show (uaSecureChannelAppendChunk memory channel id body).1 = _
    unfold uaSecureChannelAppendChunk
    split_ifs with hentry hmemory
    · exact happend channel
    · exact happend _
    · exact absurd h.entry hmemory
  | abort => rfl

/-- What the chunk that is next comes to, and what it leaves of the channel. -/
structure NextTaken (messageType : UInt32) (channel : UaSecureChannel) (p : Piece UInt32 UInt8)
    (outcome : ChunkOutcome) (taken : UaSecureChannel) : Prop where
  good : outcome.retval = uaStatuscodeGood
  piece : TakenAs messageType channel p outcome taken
  token : taken.securityToken = channel.securityToken
  number : taken.receiveSequenceNumber = channel.receiveSequenceNumber + 1

theorem takeChunk_symmetricChunk (table : UaTypeTable) {memory : ChunkMemory}
    {channel : UaSecureChannel} {messageType : UInt32} {p : Piece UInt32 UInt8}
    (htype : messageType = uaMessagetypeMsg ∨ messageType = uaMessagetypeClo)
    (hmemory : memory.Ample) (hdistinct : Distinct channel.chunks) (hbody : p.body ≠ []) :
    ∃ outcome taken,
      takeChunk table memory channel (symmetricChunk messageType channel.securityToken
        (channel.receiveSequenceNumber + 1) p) = (outcome, taken) ∧
      NextTaken messageType channel p outcome taken := by
  have htake : takeChunk table memory channel (symmetricChunk messageType
      channel.securityToken (channel.receiveSequenceNumber + 1) p) = _ :=
    (symmetricChunk_laidOut htype channel.securityToken _ p).takeChunk htype hbody
  have hgood := processPayload_of_ample hmemory
    { channel with receiveSequenceNumber := channel.receiveSequenceNumber + 1 } messageType p.id
    p.kind p.body
  obtain ⟨entries, hframe⟩ := processPayload_frame memory
    { channel with receiveSequenceNumber := channel.receiveSequenceNumber + 1 } messageType
    (chunkTypeOf p.kind) p.id p.body
  rcases hrun : processPayload memory
    { channel with receiveSequenceNumber := channel.receiveSequenceNumber + 1 } messageType
    (chunkTypeOf p.kind) p.id p.body with ⟨outcome, taken⟩
  rw [hrun] at htake hgood hframe
  dsimp only at hgood hframe
  have hpiece : TakenAs messageType
      { channel with receiveSequenceNumber := channel.receiveSequenceNumber + 1 }
      { kind := kindOf (chunkTypeOf p.kind), id := p.id, body := p.body } outcome taken :=
    processPayload_piece hdistinct hrun hgood
  rw [chunkTypeOf_kind] at hpiece
  refine ⟨outcome, taken, htake, hgood, ⟨hpiece.message, hpiece.stored, hpiece.distinct⟩, ?_, ?_⟩
  · rw [hframe]
  · rw [hframe]

/-- The channel hands over the messages of the pieces, and keeps what is pending of them. -/
structure Delivered (messageType : UInt32) (channel : UaSecureChannel)
    (pieces : List (Piece UInt32 UInt8)) (messages : List UaMessage)
    (channel' : UaSecureChannel) : Prop where
  messages : messages = (messagesFrom channel.stored pieces).map (messageOf messageType)
  stored : channel'.stored = pendingAfter channel.stored pieces
  token : channel'.securityToken = channel.securityToken

/-- Each chunk with the memory there is for it. -/
def numbered (memory : Nat → ChunkMemory) : Nat → List Bytes → List (ChunkMemory × Bytes)
  | _, [] => []
  | k, chunk :: chunks => (memory k, chunk) :: numbered memory (k + 1) chunks

theorem takeChunks_symmetricChunks (table : UaTypeTable) {memory : Nat → ChunkMemory}
    {channel : UaSecureChannel} {messageType : UInt32} {pieces : List (Piece UInt32 UInt8)}
    (htype : messageType = uaMessagetypeMsg ∨ messageType = uaMessagetypeClo)
    (hmemory : ∀ k, (memory k).Ample) (hdistinct : Distinct channel.chunks)
    (hbodies : ∀ p ∈ pieces, p.body ≠ []) (k : Nat) :
    ∃ messages channel',
      takeChunks table channel (numbered memory k (symmetricChunks messageType
        channel.securityToken channel.receiveSequenceNumber pieces)) = some (messages, channel') ∧
      Delivered messageType channel pieces messages channel' := by
  induction pieces generalizing channel k with
  | nil => exact ⟨[], channel, rfl, rfl, rfl, rfl⟩
  | cons p pieces ih =>
    obtain ⟨outcome, taken, htake, hnext⟩ := takeChunk_symmetricChunk table htype (hmemory k)
      hdistinct (hbodies p List.mem_cons_self)
    obtain ⟨messages, channel', hrest, hdelivered⟩ := ih hnext.piece.distinct
      (fun q hq => hbodies q (List.mem_cons_of_mem p hq)) (k + 1)
    rw [hnext.token, hnext.number] at hrest
    refine ⟨outcome.message?.toList ++ messages, channel', ?_, ?_, ?_, ?_⟩
    · rw [symmetricChunks, numbered, takeChunks, htake]
      dsimp only
      rw [if_pos hnext.good, hrest, Option.map_some]
    · rw [hdelivered.messages, hnext.piece.message, hnext.piece.stored, messagesFrom_cons,
        List.map_append, Option.toList_map]
    · rw [hdelivered.stored, hnext.piece.stored]
      rfl
    · rw [hdelivered.token, hnext.token]

/-! ## From the connection to the callback -/

/-- A callback that keeps what it is given. -/
def keepMessage (messages : List UaMessage) (_ : UaSecureChannel) (message : UaMessage) :
    UaStatusCode × List UaMessage := (uaStatuscodeGood, messages ++ [message])

theorem clientProcessChunk_keepMessage {table : UaTypeTable} {memory : Nat → ChunkMemory}
    {s : ChannelState (List UaMessage)} {chunk : Bytes} {outcome : ChunkOutcome}
    {channel : UaSecureChannel} (connection : UaConnection)
    (h : takeChunk table (memory s.chunk) s.channel chunk = (outcome, channel)) :
    (clientProcessChunk table memory keepMessage).call s connection chunk =
      (outcome.retval,
        { channel := channel, application := s.application ++ outcome.message?.toList,
          chunk := s.chunk + 1 }, connection) := by
  cases outcome with
  | done retval =>
    simp only [clientProcessChunk, uaSecureChannelProcessChunk, h, ChunkOutcome.message?,
      Option.toList_none, List.append_nil]
    rfl
  | message m =>
    simp only [clientProcessChunk, uaSecureChannelProcessChunk, h, ChunkOutcome.message?,
      Option.toList_some, keepMessage]
    rfl

/-- The chunks a connection hands on are those the channel takes. -/
theorem handedOn_of_takeChunks {table : UaTypeTable} {memory : Nat → ChunkMemory}
    {channel channel' : UaSecureChannel} {connection : UaConnection} {chunks : List Bytes}
    {messages : List UaMessage} {k : Nat} (before : List UaMessage)
    (hchunks : ∀ chunk ∈ chunks, IsChunk connection chunk)
    (h : takeChunks table channel (numbered memory k chunks) = some (messages, channel')) :
    HandedOn (clientProcessChunk table memory keepMessage)
      ({ channel := channel, application := before, chunk := k }, connection) chunks
      ({ channel := channel', application := before ++ messages, chunk := k + chunks.length },
        connection) := by
  induction chunks generalizing channel before messages k with
  | nil =>
    cases h
    rw [List.append_nil]
    exact .nil _
  | cons chunk chunks ih =>
    obtain ⟨outcome, taken, rest, htake, hgood, hrest, rfl⟩ := takeChunks_cons h
    have hcall := clientProcessChunk_keepMessage
      (s := { channel := channel, application := before, chunk := k }) connection htake
    have htail := ih (before ++ outcome.message?.toList)
      (fun c hc => hchunks c (List.mem_cons_of_mem chunk hc)) hrest
    rw [hgood] at hcall
    rw [List.append_assoc, Nat.add_right_comm, Nat.add_assoc] at htail
    exact .cons (hchunks chunk List.mem_cons_self) hcall htail

theorem symmetricChunk_isChunk {connection : UaConnection} {messageType : UInt32}
    (htype : messageType = uaMessagetypeMsg ∨ messageType = uaMessagetypeClo)
    (token : UaChannelSecurityToken) (sequenceNumber : UInt32) (p : Piece UInt32 UInt8)
    (hfits : uaSecureMessageHeaderLength + p.body.length ≤
      connection.localConf.recvBufferSize.toNat) :
    IsChunk connection (symmetricChunk messageType token sequenceNumber p) := by
  have hlength := symmetricChunk_length messageType token sequenceNumber p
  have hsize : chunkLengthOf (symmetricChunk messageType token sequenceNumber p) =
      uaSecureMessageHeaderLength + p.body.length := by
    have hword : uaUInt32At (symmetricChunk messageType token sequenceNumber p) (4 * 1) =
        UInt32.ofNat (uaSecureMessageHeaderLength + p.body.length) := uaUInt32At_words rfl _
    rw [chunkLengthOf, hword]
    exact UInt32.toNat_ofNat_of_lt'
      (Nat.lt_of_le_of_lt hfits connection.localConf.recvBufferSize.toNat_lt)
  have hfront : ∀ rest : Bytes,
      messageTypeOf (toBytes 4 (messageType + chunkTypeOf p.kind).toNat ++ rest) ∈ messageTypes ∧
        isFinalOf (toBytes 4 (messageType + chunkTypeOf p.kind).toNat ++ rest) ∈ chunkMarks := by
    intro rest
    rw [messageTypeOf_append (Nat.le_of_eq (toBytes_length 4 _).symm),
      isFinalOf_append (Nat.le_of_eq (toBytes_length 4 _).symm)]
    rcases htype with rfl | rfl <;> cases p.kind <;> decide
  have hsplit : symmetricChunk messageType token sequenceNumber p =
      toBytes 4 (messageType + chunkTypeOf p.kind).toNat ++
        (wordBytes [UInt32.ofNat (uaSecureMessageHeaderLength + p.body.length), token.channelId,
          token.tokenId, sequenceNumber, p.id] ++ p.body) := List.append_assoc _ _ _
  refine ⟨⟨?_, ?_, ?_, ?_, ?_⟩, ?_⟩
  · rw [hlength]
    simp only [uaSecureMessageHeaderLength]
    omega
  · rw [hsplit]
    exact (hfront _).1
  · rw [hsplit]
    exact (hfront _).2
  · rw [hsize]
    simp only [uaSecureMessageHeaderLength]
    omega
  · rw [hsize]
    exact hfits
  · rw [hlength, hsize]

/-- The chunks of some pieces are ones the connection takes. -/
theorem symmetricChunks_isChunk {connection : UaConnection} {messageType : UInt32}
    (htype : messageType = uaMessagetypeMsg ∨ messageType = uaMessagetypeClo)
    (token : UaChannelSecurityToken) {pieces : List (Piece UInt32 UInt8)}
    (hfits : ∀ p ∈ pieces, uaSecureMessageHeaderLength + p.body.length ≤
      connection.localConf.recvBufferSize.toNat) (last : UInt32) :
    ∀ chunk ∈ symmetricChunks messageType token last pieces, IsChunk connection chunk := by
  induction pieces generalizing last with
  | nil => exact nofun
  | cons p pieces ih =>
    intro chunk hchunk
    rcases List.mem_cons.mp hchunk with heq | hchunk
    · rw [heq]
      exact symmetricChunk_isChunk htype token _ p (hfits p List.mem_cons_self)
    · exact ih (fun q hq => hfits q (List.mem_cons_of_mem p hq)) _ chunk hchunk

/-- What a peer sends in chunks under the token of the channel arrives as the messages its
pieces make, in the order they are complete, wherever the packets end. -/
theorem receivePackets_symmetricChunks {table : UaTypeTable} {memory : Nat → ChunkMemory}
    {channel : UaSecureChannel} {connection : UaConnection} {messageType : UInt32}
    {pieces : List (Piece UInt32 UInt8)} {packet : Bytes} {packets : List Bytes}
    (htype : messageType = uaMessagetypeMsg ∨ messageType = uaMessagetypeClo)
    (hmemory : ∀ k, (memory k).Ample) (hdistinct : Distinct channel.chunks)
    (hbodies : ∀ p ∈ pieces, p.body ≠ [])
    (hfits : ∀ p ∈ pieces, uaSecureMessageHeaderLength + p.body.length ≤
      connection.localConf.recvBufferSize.toNat)
    (hclean : connection.incompleteMessage = [])
    (hstream : (packet :: packets).flatten =
      (symmetricChunks messageType channel.securityToken channel.receiveSequenceNumber
        pieces).flatten) :
    ∃ channel',
      receivePackets (clientProcessChunk table memory keepMessage)
          { channel := channel, application := [], chunk := 0 } connection
          (granted (packet :: packets)) =
        (uaStatuscodeGood,
          { channel := channel',
            application := (messagesFrom channel.stored pieces).map (messageOf messageType),
            chunk := pieces.length }, connection) ∧
      channel'.stored = pendingAfter channel.stored pieces := by
  obtain ⟨messages, channel', htake, hmessages, hstored, -⟩ :=
    takeChunks_symmetricChunks table htype hmemory hdistinct hbodies 0
  have hchunks := symmetricChunks_isChunk htype channel.securityToken hfits
    channel.receiveSequenceNumber
  have hcleared : connection.cleared = connection := by
    rw [UaConnection.cleared, ← hclean]
  have hhanded := handedOn_of_takeChunks [] hchunks htake
  rw [Nat.zero_add, symmetricChunks_length, List.nil_append, hmessages] at hhanded
  refine ⟨channel', ?_, hstored⟩
  have hrun := receivePackets_of_handedOn
    (show HandedOn _ (_, connection.cleared) _ (_, connection) by rw [hcleared]; exact hhanded)
    (show connection.incompleteMessage ++ (packet :: packets).flatten = _ by
      rw [hclean, List.nil_append]; exact hstream)
  rw [hrun, hcleared]

/-- The two messages, in packets of which the first ends within a header. -/
theorem receivePackets_symmetricChunks_interleaved :
    ∃ channel',
      receivePackets (clientProcessChunk uaTypesTable (fun _ => sampleMemory) keepMessage)
          { channel := sampleChannel, application := [], chunk := 0 } sampleConnection
          (granted [(sampleChunks.map Prod.snd).flatten.take 5,
            (sampleChunks.map Prod.snd).flatten.drop 5]) =
        (uaStatuscodeGood,
          { channel := channel',
            application :=
              (messagesFrom sampleChannel.stored samplePieces).map (messageOf uaMessagetypeMsg),
            chunk := 3 }, sampleConnection) ∧
      channel'.stored = pendingAfter sampleChannel.stored samplePieces :=
  receivePackets_symmetricChunks (Or.inl rfl) (fun _ => ⟨rfl, rfl⟩)
    (show Distinct sampleChannel.chunks from List.nodup_nil)
    (show ∀ p ∈ samplePieces, p.body ≠ [] by decide)
    (show ∀ p ∈ samplePieces, _ ≤ sampleConnection.localConf.recvBufferSize.toNat by decide) rfl
    (by decide)

end Opcua
end OpcuaGateway
