/-
The synchronous service call, from the request that was sent to the response.

The functions of the client run over what the clock, the socket and the heap answer.  When
the receive loop ends with GOOD, the last message its channel has completed is the reply
(`receiveService_receivedAs`).
-/
import OpcuaGateway.Opcua.Client
import OpcuaGateway.Opcua.DecodeEncoded
import OpcuaGateway.Opcua.Delivery
import OpcuaGateway.Opcua.Response
import OpcuaGateway.Opcua.Socket

namespace OpcuaGateway
namespace Opcua

open Text (Bytes)

def uaStatuscodeBadcommunicationerror : UaStatusCode := 0x80050000
def uaStatuscodeBadrequestheaderinvalid : UaStatusCode := 0x802A0000
def uaStatuscodeBadsecurechannelclosed : UaStatusCode := 0x80860000
def uaStatuscodeBadresponsetoolarge : UaStatusCode := 0x80B90000

def serviceFaultId : UaAnyNodeId := { namespaceIndex := 0, identifier := .numeric 397 }

/-- `UA_NODEID_NUMERIC(0, responseType->binaryEncodingId)`. -/
def UaDataType.encodingId (type : UaDataType) : UaAnyNodeId :=
  { namespaceIndex := 0, identifier := .numeric (UInt32.ofNat type.binaryEncodingId.toNat) }

/-! ## What is in a message -/

theorem nodeIdType_decodable : Decodable uaTypesTable (builtinType uaTypesNodeid) :=
  decodable_uaTypesTable (i := uaTypesNodeid) (uaTypesTable_getElem? (by decide))

theorem serviceFault_decodable : Decodable uaTypesTable serviceFaultType :=
  decodable_uaTypesTable (i := uaTypesServicefault) (uaTypesTable_getElem? (by decide))

def decodeEnv (heap : Heap) (bytes : Bytes) : DecodeEnv :=
  { message := bytes, table := uaTypesTable, heap := heap }

/-- The identifier a message begins with, and where it ends. -/
def decodeResponseId (heap : Heap) (bytes : Bytes) :
    Except UaStatusCode (Decoded (decodeEnv heap bytes) (builtinType uaTypesNodeid)) :=
  decodeBinary (decodeEnv heap bytes) (Nat.zero_le ((decodeEnv heap bytes).message.length + 4))
    nodeIdType_decodable

def decodedNodeId : List UaValue → UaAnyNodeId
  | [.nodeId id] => id
  | _ => .null

theorem readResponse_isSome {env : DecodeEnv} (htable : env.table = uaTypesTable)
    (decoded : Decoded env readResponseType) :
    (readResponseOf (.struct decoded.values)).isSome = true := by
  have htyped := decoded.typed
  rw [htable] at htyped
  obtain ⟨response, hresponse⟩ := readResponse_of_typed uaTypesTable_readTypes htyped
  exact Option.isSome_iff_exists.mpr ⟨response, hresponse.looked⟩

/-- The response a message was decoded as. -/
def readResponse {heap : Heap} {bytes : Bytes}
    (decoded : Decoded (decodeEnv heap bytes) readResponseType) : UaReadResponse :=
  (readResponseOf (.struct decoded.values)).get (readResponse_isSome rfl decoded)

/-- A response of which there is only the header. -/
def headerResponseOf : UaValue → Option UaReadResponse
  | .struct [header] =>
    (serviceResultOf header).map fun serviceResult =>
      { serviceResult := serviceResult, results := [], memberBlocks := header.blocks }
  | _ => none

theorem faultResponse_isSome {env : DecodeEnv} (htable : env.table = uaTypesTable)
    (decoded : Decoded env serviceFaultType) :
    (headerResponseOf (.struct decoded.values)).isSome = true := by
  have htyped := decoded.typed
  rw [htable] at htyped
  obtain ⟨headerType, header, values, hvalues, hheader, htyped, hrest⟩ := htyped.scalar_inv rfl
  rw [hvalues, hrest.nil_inv]
  have hheaderType : headerType = responseHeaderType :=
    Option.some.inj (hheader.symm.trans uaTypesTable_readTypes.responseHeader)
  have hresult := serviceResultOf_isSome (hheaderType ▸ htyped)
  simp [headerResponseOf, hresult]

/-- The response a fault is decoded as. -/
def faultResponse {heap : Heap} {bytes : Bytes}
    (decoded : Decoded (decodeEnv heap bytes) serviceFaultType) : UaReadResponse :=
  (headerResponseOf (.struct decoded.values)).get (faultResponse_isSome rfl decoded)

/-! ## A message -/

/-- `SyncResponseDescription`, for a response to a read.  `handed` are the messages that
have come to it, of which the source keeps no record. -/
structure SyncResponseDescription where
  received : Bool
  requestId : UInt32
  response : UaReadResponse
  handed : List UaMessage

/-- The clock when a message comes, and the heap for its identifier and its body. -/
structure MessageTurn where
  now : Int
  idHeap : Heap
  heap : Heap

def UaClientState.hasChannel : UaClientState → Bool
  | .disconnected | .connected => false
  | .securechannel | .session | .sessionRenewed => true

/-- The body of a response that was waited for, behind the identifier. -/
def decodeServiceResponse (turn : MessageTurn) (rd : SyncResponseDescription) (bytes : Bytes)
    (responseId : Decoded (decodeEnv turn.idHeap bytes) (builtinType uaTypesNodeid)) :
    UaStatusCode × SyncResponseDescription :=
  if decodedNodeId responseId.values ≠ readResponseType.encodingId then
    if decodedNodeId responseId.values = serviceFaultId then
      match decodeBinary (decodeEnv turn.heap bytes) responseId.within serviceFault_decodable with
      | .ok decoded => (uaStatuscodeGood, { rd with response := faultResponse decoded })
      | .error retval => (retval, { rd with response := .init })
    else (uaStatuscodeBadcommunicationerror, rd)
  else
    match decodeBinary (decodeEnv turn.heap bytes) responseId.within readResponse_decodable with
    | .ok decoded => (uaStatuscodeGood, { rd with response := readResponse decoded })
    | .error retval => (retval, { rd with response := .init })

/-- The part of `processServiceResponse` that goes to `finish`.  The client has no
asynchronous call that a message could be for. -/
def answerServiceResponse (turn : MessageTurn) (rd : SyncResponseDescription)
    (message : UaMessage) : UaStatusCode × SyncResponseDescription :=
  match decodeResponseId turn.idHeap message.bytes with
  | .error retval => (retval, rd)
  | .ok responseId =>
    if message.requestId ≠ rd.requestId then (uaStatuscodeBadrequestheaderinvalid, rd)
    else decodeServiceResponse turn { rd with received := true } message.bytes responseId

/-- What follows `finish`. -/
def finishServiceResponse (answer : UaStatusCode × SyncResponseDescription) :
    UaStatusCode × SyncResponseDescription :=
  if answer.1 ≠ uaStatuscodeGood then
    let retval :=
      if answer.1 = uaStatuscodeBadencodinglimitsexceeded then uaStatuscodeBadresponsetoolarge
      else answer.1
    (retval, { answer.2 with response := { answer.2.response with serviceResult := retval } })
  else answer

def processServiceResponse (state : UaClientState) (message : Nat → MessageTurn)
    (rd : SyncResponseDescription) (channel : UaSecureChannel) (m : UaMessage) :
    UaStatusCode × SyncResponseDescription :=
  let turn := message rd.handed.length
  let rd := { rd with handed := rd.handed ++ [m] }
  if m.messageType ≠ uaMessagetypeOpn ∧ m.messageType ≠ uaMessagetypeMsg then
    (uaStatuscodeBadtcpmessagetypeinvalid, rd)
  else if state.hasChannel ∧
      channel.securityToken.createdAt +
        channel.securityToken.revisedLifetime.toNat * uaDatetimeMsec < turn.now then
    (uaStatuscodeBadsecurechannelclosed, rd)
  else finishServiceResponse (answerServiceResponse turn rd m)

/-! ## The call -/

/-- The members of `UA_Client` that a call goes through. -/
structure ServiceClient where
  state : UaClientState
  connection : UaConnection
  channel : UaSecureChannel

/-- `UA_SecureChannel_deleteMembersCleanup`, without the connection.  A token has nothing
on the heap, and stays as it is. -/
def UaSecureChannel.cleaned (channel : UaSecureChannel) : UaSecureChannel :=
  { channel with chunks := [] }

/-- `UA_Client_close`. -/
def ServiceClient.close (client : ServiceClient) : ServiceClient where
  state := .disconnected
  connection := client.connection.close
  channel := if client.state.hasChannel then client.channel.cleaned else client.channel

/-- The memory for each chunk, and what there is for each message. -/
structure ServiceEnv where
  memory : Nat → ChunkMemory
  message : Nat → MessageTurn

/-- How the receive loop ended. -/
structure ServiceReceived where
  retval : UaStatusCode
  client : ServiceClient
  rd : SyncResponseDescription

/-- `client_processChunk` as the client hands it to its connection. -/
def serviceCallback (env : ServiceEnv) (state : UaClientState) :
    ProcessChunkCallback (ChannelState SyncResponseDescription) :=
  clientProcessChunk uaTypesTable env.memory (processServiceResponse state env.message)

/-- `receiveServiceResponse`. -/
def receiveService (env : ServiceEnv) (state : UaClientState) (maxDate : Int)
    (s : ChannelState SyncResponseDescription) (connection : UaConnection)
    (turns : List ReceiveTurn) : Option ServiceReceived :=
  match turns with
  | [] => none
  | turn :: later =>
    if maxDate ≤ turn.entered then
      some { retval := uaStatuscodeGoodnoncriticaltimeout,
             client := { state := state, connection := connection, channel := s.channel },
             rd := s.application }
    else
      match _h : uaConnectionReceiveChunksBlocking (serviceCallback env state) s connection
          (timeoutUntil maxDate turn.entered) (turn :: later) with
      | none => none
      | some got =>
        let client : ServiceClient :=
          { state := state, connection := got.connection, channel := got.application.channel }
        if got.retval ≠ uaStatuscodeGood ∧ got.retval ≠ uaStatuscodeGoodnoncriticaltimeout then
          some
            { retval := got.retval,
              client :=
                if got.retval = uaStatuscodeBadconnectionclosed then
                  { client with state := .disconnected }.close
                else client.close,
              rd := got.application.application }
        else if got.application.application.received then
          some { retval := got.retval, client := client, rd := got.application.application }
        else receiveService env state maxDate got.application got.connection got.turns
termination_by turns.length
decreasing_by exact receiveChunksBlocking_shorter _h

/-- What `sendSymmetricServiceRequest` has come to. -/
structure SentRequest where
  retval : UaStatusCode
  requestId : UInt32
  client : ServiceClient

structure ServiceResult where
  response : UaReadResponse
  client : ServiceClient
  handed : List UaMessage

/-- `__UA_Client_Service` behind the request.  `now` is the clock by then, and `timeout`
that of the configuration. -/
def serviceCall (env : ServiceEnv) (now : Int) (timeout : UInt32) (sent : SentRequest)
    (turns : List ReceiveTurn) : Option ServiceResult :=
  if sent.retval ≠ uaStatuscodeGood then
    let serviceResult :=
      if sent.retval = uaStatuscodeBadencodinglimitsexceeded then uaStatuscodeBadrequesttoolarge
      else sent.retval
    some { response := { UaReadResponse.init with serviceResult := serviceResult },
           client := sent.client.close, handed := [] }
  else
    let rd : SyncResponseDescription :=
      { received := false, requestId := sent.requestId, response := .init, handed := [] }
    let s : ChannelState SyncResponseDescription :=
      { channel := sent.client.channel, application := rd, chunk := 0 }
    (receiveService env sent.client.state (now + timeout.toNat * uaDatetimeMsec) s
      sent.client.connection turns).map fun got =>
        let late := got.retval = uaStatuscodeGoodnoncriticaltimeout
        let client := if late then got.client.close else got.client
        let retval := if late then uaStatuscodeBadconnectionclosed else got.retval
        { response :=
            if retval ≠ uaStatuscodeGood then { got.rd.response with serviceResult := retval }
            else got.rd.response,
          client := client, handed := got.rd.handed }

/-! ## The reply -/

/-- With that heap, a message decodes as that response. -/
inductive ReplyTo (turn : MessageTurn) (bytes : Bytes) : UaReadResponse → Prop
  | response {responseId : Decoded (decodeEnv turn.idHeap bytes) (builtinType uaTypesNodeid)}
      {decoded : Decoded (decodeEnv turn.heap bytes) readResponseType}
      (identifier : decodeResponseId turn.idHeap bytes = .ok responseId)
      (type : decodedNodeId responseId.values = readResponseType.encodingId)
      (body : decodeBinary (decodeEnv turn.heap bytes) responseId.within readResponse_decodable =
        .ok decoded) : ReplyTo turn bytes (readResponse decoded)
  | fault {responseId : Decoded (decodeEnv turn.idHeap bytes) (builtinType uaTypesNodeid)}
      {decoded : Decoded (decodeEnv turn.heap bytes) serviceFaultType}
      (identifier : decodeResponseId turn.idHeap bytes = .ok responseId)
      (type : decodedNodeId responseId.values = serviceFaultId)
      (body : decodeBinary (decodeEnv turn.heap bytes) responseId.within serviceFault_decodable =
        .ok decoded) : ReplyTo turn bytes (faultResponse decoded)

theorem decodeServiceResponse_good {turn : MessageTurn} {rd : SyncResponseDescription}
    {bytes : Bytes} {responseId : Decoded (decodeEnv turn.idHeap bytes) (builtinType uaTypesNodeid)}
    (hid : decodeResponseId turn.idHeap bytes = .ok responseId)
    (h : (decodeServiceResponse turn rd bytes responseId).1 = uaStatuscodeGood) :
    ∃ response, ReplyTo turn bytes response ∧
      (decodeServiceResponse turn rd bytes responseId).2 = { rd with response := response } := by
  unfold decodeServiceResponse at h ⊢
  split_ifs at h ⊢ with htype hfault
  · split at h
    · rename_i decoded hbody
      exact ⟨_, .fault hid hfault hbody, rfl⟩
    · rename_i retval hbody
      exact absurd h (decodeBinary_error hbody)
  · exact absurd h (show ¬uaStatuscodeBadcommunicationerror = uaStatuscodeGood by decide)
  · split at h
    · rename_i decoded hbody
      exact ⟨_, .response hid (not_not.mp htype) hbody, rfl⟩
    · rename_i retval hbody
      exact absurd h (decodeBinary_error hbody)

theorem answerServiceResponse_good {turn : MessageTurn} {rd : SyncResponseDescription}
    {m : UaMessage} (h : (answerServiceResponse turn rd m).1 = uaStatuscodeGood) :
    m.requestId = rd.requestId ∧ ∃ response, ReplyTo turn m.bytes response ∧
      (answerServiceResponse turn rd m).2 = { rd with received := true, response := response } := by
  unfold answerServiceResponse at h ⊢
  rcases hid : decodeResponseId turn.idHeap m.bytes with retval | responseId
  · rw [hid] at h
    exact absurd h (decodeBinary_error hid)
  · rw [hid] at h
    dsimp only at h ⊢
    split_ifs at h ⊢ with hrequest
    · exact absurd h (show ¬uaStatuscodeBadrequestheaderinvalid = uaStatuscodeGood by decide)
    · exact ⟨not_not.mp hrequest, decodeServiceResponse_good hid h⟩

/-- A reply to the request is decoded as what it is. -/
theorem answerServiceResponse_of_reply {turn : MessageTurn} (rd : SyncResponseDescription)
    {m : UaMessage} {response : UaReadResponse} (h : ReplyTo turn m.bytes response)
    (hrequest : m.requestId = rd.requestId) :
    answerServiceResponse turn rd m =
      (uaStatuscodeGood, { rd with received := true, response := response }) := by
  have hfault : serviceFaultId ≠ readResponseType.encodingId := by decide
  cases h with
  | response hid htype hbody =>
    simp only [answerServiceResponse, hid, hrequest, ne_eq, not_true_eq_false, if_false,
      decodeServiceResponse, htype, hbody]
  | fault hid htype hbody =>
    simp only [answerServiceResponse, hid, hrequest, ne_eq, not_true_eq_false, if_false,
      decodeServiceResponse, htype, hfault, not_false_eq_true, if_true, hbody]

theorem finishServiceResponse_good {answer : UaStatusCode × SyncResponseDescription}
    (h : (finishServiceResponse answer).1 = uaStatuscodeGood) :
    answer.1 = uaStatuscodeGood ∧ finishServiceResponse answer = answer := by
  unfold finishServiceResponse at h ⊢
  split_ifs at h ⊢ with hbad hlimits
  · exact absurd h (show ¬uaStatuscodeBadresponsetoolarge = uaStatuscodeGood by decide)
  · exact absurd h hbad
  · exact ⟨h, rfl⟩

/-- The last of some messages is the reply to a request. -/
def RepliedBy (message : Nat → MessageTurn) (requestId : UInt32) (handed : List UaMessage)
    (response : UaReadResponse) : Prop :=
  ∃ earlier m, handed = earlier ++ [m] ∧ m.requestId = requestId ∧
    (m.messageType = uaMessagetypeOpn ∨ m.messageType = uaMessagetypeMsg) ∧
    ReplyTo (message earlier.length) m.bytes response

/-- What there is to say of a response that was received. -/
def Answered (message : Nat → MessageTurn) (requestId : UInt32) (rd : SyncResponseDescription) :
    Prop :=
  rd.requestId = requestId ∧
    (rd.received = true → RepliedBy message requestId rd.handed rd.response)

section

variable {state : UaClientState} {message : Nat → MessageTurn} {rd : SyncResponseDescription}
  {requestId : UInt32}

/-- A message that is answered with GOOD has the number of the request, and is the reply. -/
theorem processServiceResponse_answered {channel : UaSecureChannel} {m : UaMessage}
    (hrd : rd.requestId = requestId)
    (h : (processServiceResponse state message rd channel m).1 = uaStatuscodeGood) :
    Answered message requestId (processServiceResponse state message rd channel m).2 := by
  unfold processServiceResponse at h ⊢
  dsimp only at h ⊢
  split_ifs at h ⊢ with htype hlifetime
  · exact absurd h (show ¬uaStatuscodeBadtcpmessagetypeinvalid = uaStatuscodeGood by decide)
  · exact absurd h (show ¬uaStatuscodeBadsecurechannelclosed = uaStatuscodeGood by decide)
  · obtain ⟨hgood, hanswer⟩ := finishServiceResponse_good h
    obtain ⟨hrequest, response, hreply, hrd'⟩ := answerServiceResponse_good hgood
    rw [hanswer, hrd']
    refine ⟨hrd, fun _ => ⟨rd.handed, m, rfl, hrequest.trans hrd, ?_, hreply⟩⟩
    by_cases hopn : m.messageType = uaMessagetypeOpn
    · exact Or.inl hopn
    · exact Or.inr (not_not.mp fun hmsg => htype ⟨hopn, hmsg⟩)

theorem answerServiceResponse_requestId (turn : MessageTurn) (rd : SyncResponseDescription)
    (m : UaMessage) : (answerServiceResponse turn rd m).2.requestId = rd.requestId := by
  unfold answerServiceResponse decodeServiceResponse
  split
  · rfl
  · split_ifs
    · rfl
    · split <;> rfl
    · rfl
    · split <;> rfl

theorem processServiceResponse_requestId (channel : UaSecureChannel) (m : UaMessage) :
    (processServiceResponse state message rd channel m).2.requestId = rd.requestId := by
  unfold processServiceResponse finishServiceResponse
  dsimp only
  split_ifs
  · rfl
  · rfl
  · exact answerServiceResponse_requestId _ _ m
  · exact answerServiceResponse_requestId _ _ m
  · exact answerServiceResponse_requestId _ _ m

end

/-- The messages of one wait. -/
theorem receiveChunks_answered {env : ServiceEnv} {state : UaClientState} {maxDate : Int}
    {timeout : UInt32} {s : ChannelState SyncResponseDescription} {connection : UaConnection}
    {turns : List ReceiveTurn} {got : ChunksReceived (ChannelState SyncResponseDescription)}
    {requestId : UInt32}
    (h : receiveChunks (serviceCallback env state) maxDate timeout s connection turns = some got)
    (hs : Answered env.message requestId s.application) :
    got.application.application.requestId = requestId ∧
      (got.retval = uaStatuscodeGood →
        Answered env.message requestId got.application.application) := by
  refine receiveChunks_keeps
    (P := fun s => Answered env.message requestId s.application)
    (Q := fun s => s.application.requestId = requestId) ?_ ?_ (fun _ hP => hP.1) h hs
  · intro s connection chunk hs hgood
    rcases clientProcessChunk_cases uaTypesTable env.memory
      (processServiceResponse state env.message) s connection chunk with
      hsame | ⟨channel, m, hretval, happlication⟩
    · show Answered env.message requestId (ChannelState.application _)
      rw [serviceCallback, hsame]
      exact hs
    · rw [serviceCallback] at hgood ⊢
      rw [happlication]
      exact processServiceResponse_answered hs.1 (hretval.symm.trans hgood)
  · intro s connection chunk hs
    rcases clientProcessChunk_cases uaTypesTable env.memory
      (processServiceResponse state env.message) s connection chunk with
      hsame | ⟨channel, m, hretval, happlication⟩
    · rw [serviceCallback, hsame]
      exact hs.1
    · rw [serviceCallback, happlication]
      exact (processServiceResponse_requestId channel m).trans hs.1

/-! ## The whole call -/

/-- What there is to say of the end of the receive loop. -/
structure ReceivedAs (message : Nat → MessageTurn) (requestId : UInt32) (state : UaClientState)
    (got : ServiceReceived) : Prop where
  kept : got.retval = uaStatuscodeGood ∨ got.retval = uaStatuscodeGoodnoncriticaltimeout →
    got.client.state = state
  closed : got.retval ≠ uaStatuscodeGood → got.retval ≠ uaStatuscodeGoodnoncriticaltimeout →
    got.client.state = .disconnected
  reply : got.retval = uaStatuscodeGood →
    got.rd.received = true ∧ Answered message requestId got.rd

theorem receiveService_receivedAs {env : ServiceEnv} {state : UaClientState} {maxDate : Int}
    {s : ChannelState SyncResponseDescription} {connection : UaConnection}
    {turns : List ReceiveTurn} {got : ServiceReceived}
    (h : receiveService env state maxDate s connection turns = some got)
    (hwaiting : s.application.received = false) :
    ReceivedAs env.message s.application.requestId state got := by
  induction hn : turns.length using Nat.strongRecOn generalizing s connection turns with
  | ind k ih =>
    cases turns with
    | nil =>
      rw [receiveService] at h
      cases h
    | cons turn later =>
      rw [receiveService] at h
      split_ifs at h with hlate
      · cases h
        exact ⟨fun _ => rfl, fun _ htimeout => absurd rfl htimeout, fun hgood => nomatch hgood⟩
      · split at h
        · cases h
        · rename_i got' hgot
          have hshorter := receiveChunksBlocking_shorter hgot
          obtain ⟨hid, hanswered⟩ := receiveChunks_answered hgot
            (show Answered env.message s.application.requestId s.application from
              ⟨rfl, fun hreceived => nomatch hwaiting.symm.trans hreceived⟩)
          dsimp only at h
          split_ifs at h with hbad hclosed hreceived
          · cases h
            exact ⟨fun hkept => absurd hkept (by simp [hbad]), fun _ _ => rfl,
              fun hgood => absurd hgood hbad.1⟩
          · cases h
            exact ⟨fun hkept => absurd hkept (by simp [hbad]), fun _ _ => rfl,
              fun hgood => absurd hgood hbad.1⟩
          · cases h
            refine ⟨fun _ => rfl, fun hgood htimeout => absurd ⟨hgood, htimeout⟩ hbad,
              fun hgood => ⟨hreceived, hanswered hgood⟩⟩
          · rw [← hid]
            exact ih got'.turns.length (hn ▸ hshorter) h (Bool.eq_false_iff.mpr hreceived) rfl

/-! ## A client -/

/-- A client in a session that has sent its request with the number 5. -/
def sampleSent : SentRequest where
  retval := uaStatuscodeGood
  requestId := 5
  client := { state := .session, connection := sampleConnection, channel := sampleChannel }

def sampleServiceEnv : ServiceEnv where
  memory _ := sampleMemory
  message _ := { now := 0, idHeap := ampleHeap, heap := ampleHeap }

end Opcua
end OpcuaGateway
