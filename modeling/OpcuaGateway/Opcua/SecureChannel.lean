/-
The secure channel, as the client has it: the policy is `None` and the mode is `NONE`,
so nothing is signed, encrypted or padded.

A chunk is checked against the channel, the token and the sequence number, and becomes a
piece of the message with its request id.
-/
import OpcuaGateway.Framing.Reassembly
import OpcuaGateway.Opcua.Connection
import OpcuaGateway.Opcua.DecodeSafety

namespace OpcuaGateway
namespace Opcua

open Text (Bytes ascii)
open Framing Numeric

def uaStatuscodeBadsecuritychecksfailed : UaStatusCode := 0x80130000
def uaStatuscodeBadsecurechannelidinvalid : UaStatusCode := 0x80220000
def uaStatuscodeBadsecuritypolicyrejected : UaStatusCode := 0x80550000
def uaStatuscodeBadsecurechanneltokenunknown : UaStatusCode := 0x80870000

def uaBitmaskMessagetype : UInt32 := 0x00FFFFFF
def uaBitmaskChunktype : UInt32 := 0xFF000000

def uaChunktypeFinal : UInt32 := 0x46000000
def uaChunktypeIntermediate : UInt32 := 0x43000000
def uaChunktypeAbort : UInt32 := 0x41000000

def uaSecureConversationMessageHeaderLength : Nat := 12
def uaSymmetricAlgSecurityHeaderLength : Nat := 4
def uaSequenceHeaderLength : Nat := 8

def uaSecurityPolicyNoneUri : Bytes := ascii "http://opcfoundation.org/UA/SecurityPolicy#None"

structure UaChannelSecurityToken where
  channelId : UInt32
  tokenId : UInt32
  createdAt : Int
  revisedLifetime : UInt32
deriving DecidableEq, Repr

def UaChannelSecurityToken.init : UaChannelSecurityToken :=
  { channelId := 0, tokenId := 0, createdAt := 0, revisedLifetime := 0 }

inductive UaSecureChannelState where
  | fresh
  | opened
  | closed
deriving DecidableEq, Repr

structure ChunkEntry where
  requestId : UInt32
  bytes : Bytes
deriving DecidableEq, Repr

structure UaSecureChannel where
  state : UaSecureChannelState
  securityToken : UaChannelSecurityToken
  nextSecurityToken : UaChannelSecurityToken
  receiveSequenceNumber : UInt32
  sendSequenceNumber : UInt32
  chunks : List ChunkEntry
deriving DecidableEq, Repr

/-- The memory for one chunk: for the strings of an asymmetric header, for an entry, and
for what the entry holds. -/
structure ChunkMemory where
  header : Heap
  entry : Bool
  bytes : Bool

/-- What a callback for complete messages is given. -/
structure UaMessage where
  messageType : UInt32
  requestId : UInt32
  bytes : Bytes
deriving DecidableEq, Repr

/-- A chunk is done with, or it completes a message, and then the callback has the last
word. -/
inductive ChunkOutcome where
  | done (retval : UaStatusCode)
  | message (message : UaMessage)
deriving DecidableEq, Repr

/-! ## The security headers -/

/-- The keys that go with the new token are those of the policy `None`, which cannot fail. -/
def uaSecureChannelRevolveTokens (channel : UaSecureChannel) :
    Except UaStatusCode UaSecureChannel :=
  if channel.nextSecurityToken.tokenId = 0 then .error uaStatuscodeBadsecurechanneltokenunknown
  else
    .ok { channel with
      securityToken := channel.nextSecurityToken, nextSecurityToken := .init }

def checkSymHeader (channel : UaSecureChannel) (tokenId : UInt32) :
    Except UaStatusCode UaSecureChannel :=
  if tokenId ≠ channel.securityToken.tokenId then
    if tokenId ≠ channel.nextSecurityToken.tokenId then
      .error uaStatuscodeBadsecurechanneltokenunknown
    else uaSecureChannelRevolveTokens channel
  else .ok channel

/-- `UA_AsymmetricAlgorithmSecurityHeader`: three byte strings. -/
def uaAsymmetricAlgorithmSecurityHeader : UaDataType where
  typeIdNamespace := 0
  typeIdNumeric := 0
  memSize := 24
  typeIndex := 7
  builtin := false
  overlayable := false
  binaryEncodingId := 0
  members := List.replicate 3 { memberTypeIndex := 14, isArray := false }

theorem asymHeader_decodable (table : UaTypeTable) :
    Decodable table uaAsymmetricAlgorithmSecurityHeader := by
  intro member hmember
  rw [List.eq_of_mem_replicate hmember]
  obtain ⟨type, htype, -⟩ := table.builtins 14 (by decide)
  exact (List.getElem?_eq_some_iff.mp htype).1

/-- The first member of a decoded header. -/
def securityPolicyUri : List UaValue → Bytes
  | .string uri :: _ => uri.getD []
  | _ => []

/-- The thumbprint of a certificate is not compared under the policy `None`. -/
def checkAsymHeader (asymHeader : List UaValue) : Except UaStatusCode Unit :=
  if securityPolicyUri asymHeader ≠ uaSecurityPolicyNoneUri then
    .error uaStatuscodeBadsecuritypolicyrejected
  else .ok ()

/-- The asymmetric header, and where it ends. -/
def asymHeaderEnd (table : UaTypeTable) (heap : Heap) (chunk : Bytes)
    (h : uaSecureConversationMessageHeaderLength ≤ chunk.length) : Except UaStatusCode Nat := do
  let asymHeader ← decodeBinary { message := chunk, table := table, heap := heap }
    (Nat.le_add_right_of_le h) (asymHeader_decodable table)
  checkAsymHeader asymHeader.values
  return asymHeader.endOffset

/-- The header between that of the message and that of the sequence: the channel after it,
and where it ends. -/
def checkSecurityHeader (table : UaTypeTable) (heap : Heap) (channel : UaSecureChannel)
    (chunk : Bytes) (h : uaSecureConversationMessageHeaderLength ≤ chunk.length)
    (messageType chunkType : UInt32) : Except UaStatusCode (UaSecureChannel × Nat) :=
  if messageType = uaMessagetypeMsg ∨ messageType = uaMessagetypeClo then
    if chunk.length < uaSecureConversationMessageHeaderLength + uaSymmetricAlgSecurityHeaderLength
    then .error uaStatuscodeBaddecodingerror
    else
      (checkSymHeader channel (uaUInt32At chunk uaSecureConversationMessageHeaderLength)).map
        fun channel =>
          (channel, uaSecureConversationMessageHeaderLength + uaSymmetricAlgSecurityHeaderLength)
  else if messageType = uaMessagetypeOpn then
    -- chunking is not allowed for OPN
    if chunkType ≠ uaChunktypeFinal then .error uaStatuscodeBadtcpmessagetypeinvalid
    else (asymHeaderEnd table heap chunk h).map fun offset => (channel, offset)
  else .error uaStatuscodeBadtcpmessagetypeinvalid

/-! ## The sequence header -/

structure SequencedChunk where
  sequenceNumber : UInt32
  requestId : UInt32
  payload : Bytes
deriving DecidableEq, Repr

/-- `decryptChunk` without keys, signatures and padding.  A chunk without payload is
refused. -/
def decryptChunk (chunk : Bytes) (offset : Nat) (messageType : UInt32) :
    Except UaStatusCode SequencedChunk :=
  if messageType = uaMessagetypeOpn ∧ chunk.length ≤ offset then
    .error uaStatuscodeBadsecuritychecksfailed
  else if chunk.length < offset + uaSequenceHeaderLength then
    .error uaStatuscodeBaddecodingerror
  else if chunk.length ≤ offset + uaSequenceHeaderLength then
    .error uaStatuscodeBadsecuritychecksfailed
  else
    .ok { sequenceNumber := uaUInt32At chunk offset, requestId := uaUInt32At chunk (offset + 4),
          payload := chunk.drop (offset + uaSequenceHeaderLength) }

def processSequenceNumberAsym (channel : UaSecureChannel) (sequenceNumber : UInt32) :
    Except UaStatusCode UaSecureChannel :=
  .ok { channel with receiveSequenceNumber := sequenceNumber }

def processSequenceNumberSym (channel : UaSecureChannel) (sequenceNumber : UInt32) :
    Except UaStatusCode UaSecureChannel :=
  if sequenceNumber ≠ channel.receiveSequenceNumber + 1 then
    if 4294966271 < channel.receiveSequenceNumber + 1 ∧ sequenceNumber < 1024 then
      -- one before the number, and then the increment
      .ok { channel with receiveSequenceNumber := sequenceNumber - 1 + 1 }
    else .error uaStatuscodeBadsecuritychecksfailed
  else .ok { channel with receiveSequenceNumber := channel.receiveSequenceNumber + 1 }

/-- The callback for the sequence number that goes with the header. -/
def processSequenceNumber (messageType : UInt32) (channel : UaSecureChannel)
    (sequenceNumber : UInt32) : Except UaStatusCode UaSecureChannel :=
  if messageType = uaMessagetypeOpn then processSequenceNumberAsym channel sequenceNumber
  else processSequenceNumberSym channel sequenceNumber

/-! ## The stored chunks -/

/-- What is stored of a request.  The first entry counts. -/
def storedBytes (requestId : UInt32) : List ChunkEntry → Bytes
  | [] => []
  | entry :: chunks => if entry.requestId = requestId then entry.bytes else storedBytes requestId chunks

def hasEntry (requestId : UInt32) (chunks : List ChunkEntry) : Bool :=
  chunks.any fun entry => entry.requestId = requestId

/-- The first entry of a request with other bytes. -/
def setBytes (requestId : UInt32) (bytes : Bytes) : List ChunkEntry → List ChunkEntry
  | [] => []
  | entry :: chunks =>
    if entry.requestId = requestId then { entry with bytes := bytes } :: chunks
    else entry :: setBytes requestId bytes chunks

def removeEntry (requestId : UInt32) (chunks : List ChunkEntry) : List ChunkEntry :=
  chunks.eraseP fun entry => entry.requestId = requestId

def uaSecureChannelRemoveChunks (channel : UaSecureChannel) (requestId : UInt32) :
    UaSecureChannel :=
  { channel with chunks := removeEntry requestId channel.chunks }

/-- `appendChunk` on the entry of a request.  Without memory the entry loses its bytes. -/
def appendChunk (memory : ChunkMemory) (channel : UaSecureChannel) (requestId : UInt32)
    (chunkBody : Bytes) : UaStatusCode × UaSecureChannel :=
  if memory.bytes then
    (uaStatuscodeGood, { channel with
      chunks := setBytes requestId (storedBytes requestId channel.chunks ++ chunkBody)
        channel.chunks })
  else (uaStatuscodeBadoutofmemory, { channel with chunks := setBytes requestId [] channel.chunks })

def uaSecureChannelAppendChunk (memory : ChunkMemory) (channel : UaSecureChannel)
    (requestId : UInt32) (chunkBody : Bytes) : UaStatusCode × UaSecureChannel :=
  if hasEntry requestId channel.chunks then appendChunk memory channel requestId chunkBody
  else if memory.entry then
    appendChunk memory
      { channel with chunks := { requestId := requestId, bytes := [] } :: channel.chunks }
      requestId chunkBody
  else (uaStatuscodeBadoutofmemory, channel)

def uaSecureChannelFinalizeChunk (memory : ChunkMemory) (channel : UaSecureChannel)
    (messageType requestId : UInt32) (chunkBody : Bytes) : ChunkOutcome × UaSecureChannel :=
  if hasEntry requestId channel.chunks then
    let (retval, appended) := appendChunk memory channel requestId chunkBody
    if retval ≠ uaStatuscodeGood then (.done retval, appended)
    else
      (.message { messageType := messageType, requestId := requestId,
                  bytes := storedBytes requestId appended.chunks },
        uaSecureChannelRemoveChunks appended requestId)
  else
    (.message { messageType := messageType, requestId := requestId, bytes := chunkBody }, channel)

/-! ## A chunk -/

def processPayload (memory : ChunkMemory) (channel : UaSecureChannel)
    (messageType chunkType requestId : UInt32) (payload : Bytes) :
    ChunkOutcome × UaSecureChannel :=
  if chunkType = uaChunktypeFinal then
    uaSecureChannelFinalizeChunk memory channel messageType requestId payload
  else if chunkType = uaChunktypeIntermediate then
    let (retval, channel) := uaSecureChannelAppendChunk memory channel requestId payload
    (.done retval, channel)
  else if chunkType = uaChunktypeAbort then
    (.done uaStatuscodeGood, uaSecureChannelRemoveChunks channel requestId)
  else (.done uaStatuscodeBadtcpmessagetypeinvalid, channel)

/-- `UA_SecureChannel_processChunk` up to the call of the callback, which is the last thing
it does. -/
def takeChunk (table : UaTypeTable) (memory : ChunkMemory) (channel : UaSecureChannel)
    (chunk : Bytes) : ChunkOutcome × UaSecureChannel :=
  if h : chunk.length < uaSecureConversationMessageHeaderLength then
    (.done uaStatuscodeBaddecodingerror, channel)
  -- a channel that is not open yet has the id zero
  else if uaUInt32At chunk 8 ≠ channel.securityToken.channelId ∧ channel.state ≠ .fresh then
    (.done uaStatuscodeBadsecurechannelidinvalid, channel)
  else
    let messageType := uaUInt32At chunk 0 &&& uaBitmaskMessagetype
    let chunkType := uaUInt32At chunk 0 &&& uaBitmaskChunktype
    if messageType = uaMessagetypeErr then
      if chunkType ≠ uaChunktypeFinal then (.done uaStatuscodeBadtcpmessagetypeinvalid, channel)
      else
        (.message { messageType := messageType, requestId := 0,
                    bytes := chunk.drop uaSecureConversationMessageHeaderLength }, channel)
    else
      match checkSecurityHeader table memory.header channel chunk (Nat.not_lt.mp h) messageType
          chunkType with
      | .error retval => (.done retval, channel)
      | .ok (channel, offset) =>
        match decryptChunk chunk offset messageType with
        | .error retval => (.done retval, channel)
        | .ok sequenced =>
          match processSequenceNumber messageType channel sequenced.sequenceNumber with
          | .error retval => (.done retval, channel)
          | .ok channel =>
            processPayload memory channel messageType chunkType sequenced.requestId
              sequenced.payload

def ChunkOutcome.retval : ChunkOutcome → UaStatusCode
  | .done retval => retval
  | .message _ => uaStatuscodeGood

def ChunkOutcome.message? : ChunkOutcome → Option UaMessage
  | .done _ => none
  | .message m => some m

/-- The messages some chunks complete, each with the memory for it, and the channel behind
them.  A chunk that is not taken ends the connection. -/
def takeChunks (table : UaTypeTable) (channel : UaSecureChannel) :
    List (ChunkMemory × Bytes) → Option (List UaMessage × UaSecureChannel)
  | [] => some ([], channel)
  | (memory, chunk) :: chunks =>
    let (outcome, channel) := takeChunk table memory channel chunk
    if outcome.retval = uaStatuscodeGood then
      (takeChunks table channel chunks).map fun (messages, channel) =>
        (outcome.message?.toList ++ messages, channel)
    else none

variable {σ : Type}

/-- `UA_SecureChannel_processChunk`. -/
def uaSecureChannelProcessChunk (table : UaTypeTable) (memory : ChunkMemory)
    (callback : σ → UaSecureChannel → UaMessage → UaStatusCode × σ) (application : σ)
    (channel : UaSecureChannel) (chunk : Bytes) : UaStatusCode × σ × UaSecureChannel :=
  match takeChunk table memory channel chunk with
  | (.done retval, channel) => (retval, application, channel)
  | (.message message, channel) =>
    let (retval, application) := callback application channel message
    (retval, application, channel)

/-! ## The layout of a chunk -/

def wordBytes (words : List UInt32) : Bytes := words.flatMap fun word => toBytes 4 word.toNat

def chunkTypeOf : PieceKind → UInt32
  | .intermediate => uaChunktypeIntermediate
  | .final => uaChunktypeFinal
  | .abort => uaChunktypeAbort

def uaSecureMessageHeaderLength : Nat := 24

/-- A chunk as `sendSymmetricChunk` lays it out. -/
def symmetricChunk (messageType : UInt32) (token : UaChannelSecurityToken)
    (sequenceNumber : UInt32) (p : Piece UInt32 UInt8) : Bytes :=
  wordBytes [messageType + chunkTypeOf p.kind,
    UInt32.ofNat (uaSecureMessageHeaderLength + p.body.length), token.channelId, token.tokenId,
    sequenceNumber, p.id] ++ p.body

/-- Chunks for some pieces, each numbered behind the one before. -/
def symmetricChunks (messageType : UInt32) (token : UaChannelSecurityToken) :
    UInt32 → List (Piece UInt32 UInt8) → List Bytes
  | _, [] => []
  | last, p :: pieces =>
    symmetricChunk messageType token (last + 1) p ::
      symmetricChunks messageType token (last + 1) pieces

end Opcua
end OpcuaGateway
