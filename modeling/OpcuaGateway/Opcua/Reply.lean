/-
A reply from the bytes on the socket to the response of the call.

A server that answers a request in time, in chunks under the token of the channel, is
answered for with GOOD, and the response is what its message decodes as, wherever the
packets of the socket end (`serviceCall_reply`).  Where the server sent an encoded
response, that response is returned (`serviceCall_encodedReply`).
-/
import OpcuaGateway.Opcua.EncodedReply

namespace OpcuaGateway
namespace Opcua

open Text (Bytes)
open Framing

variable {σ : Type}

/-! ## The chunks of a reply -/

section

variable {table : UaTypeTable} {memory : Nat → ChunkMemory}
  {callback : σ → UaSecureChannel → UaMessage → UaStatusCode × σ}

theorem clientProcessChunk_detached : (clientProcessChunk table memory callback).Detached :=
  fun _ _ _ => rfl

/-- A chunk that is taken, and what the framer of the connection makes of it. -/
theorem handle_of_takeChunk {s : ChannelState σ} {connection : UaConnection} {chunk : Bytes}
    {outcome : ChunkOutcome} {taken : UaSecureChannel} {application : σ}
    (htake : takeChunk table (memory s.chunk) s.channel chunk = (outcome, taken))
    (hgood : outcome.retval = uaStatuscodeGood)
    (hanswer : ∀ m, outcome.message? = some m →
      callback s.application taken m = (uaStatuscodeGood, application))
    (hnone : outcome.message? = none → application = s.application) :
    (chunkFramer (clientProcessChunk table memory callback)).handle (s, connection) chunk =
      (none, ({ channel := taken, application := application, chunk := s.chunk + 1 },
        connection)) := by
  simp only [chunkFramer, clientProcessChunk, uaSecureChannelProcessChunk, htake]
  cases outcome with
  | done retval =>
    have hretval : retval = uaStatuscodeGood := hgood
    rw [hnone rfl]
    simp [hretval]
  | message m =>
    simp [hanswer m rfl]

/-- The pieces of one message, as chunks each behind the one before, are chunks of which
the last is the one that its callback waits for. -/
theorem piecesOf_chunksUntil (table : UaTypeTable)
    (callback : σ → UaSecureChannel → UaMessage → UaStatusCode × σ) (done : σ → Prop)
    (s : ChannelState σ) (connection : UaConnection) (answer : σ) {messageType id : UInt32}
    {bodies : List Bytes}
    (htype : messageType = uaMessagetypeMsg ∨ messageType = uaMessagetypeClo)
    (hmemory : ∀ k, (memory k).Ample) (hdistinct : Distinct s.channel.chunks)
    (hbodies : bodies ≠ []) (hnonempty : ∀ body ∈ bodies, body ≠ [])
    (hfits : ∀ body ∈ bodies, uaSecureMessageHeaderLength + body.length ≤
      connection.localConf.recvBufferSize.toNat)
    (hbefore : ¬done s.application)
    (hanswer : ∀ channel : UaSecureChannel, channel.securityToken = s.channel.securityToken →
      callback s.application channel
          (messageOf messageType (id, s.channel.stored id ++ bodies.flatten)) =
        (uaStatuscodeGood, answer)) (hdone : done answer) :
    ∃ channel',
      ChunksUntil (clientProcessChunk table memory callback) (fun s => done s.application) s
          connection
          (symmetricChunks messageType s.channel.securityToken s.channel.receiveSequenceNumber
            (piecesOf id bodies))
          { channel := channel', application := answer, chunk := s.chunk + bodies.length } ∧
        channel'.securityToken = s.channel.securityToken := by
  induction bodies generalizing s with
  | nil => exact absurd rfl hbodies
  | cons body bodies ih =>
    have hbody := hnonempty body List.mem_cons_self
    have hchunk : ∀ kind, IsChunk connection (symmetricChunk messageType s.channel.securityToken
        (s.channel.receiveSequenceNumber + 1) { kind := kind, id := id, body := body }) :=
      fun kind => symmetricChunk_isChunk htype _ _ _ (hfits body List.mem_cons_self)
    cases bodies with
    | nil =>
      obtain ⟨outcome, taken, htake, hnext⟩ := takeChunk_symmetricChunk table htype
        (hmemory s.chunk) hdistinct (p := { kind := .final, id := id, body := body }) hbody
      have hmessage : outcome.message? =
          some (messageOf messageType (id, s.channel.stored id ++ body)) := hnext.piece.message
      rw [List.flatten_cons, List.flatten_nil, List.append_nil] at hanswer
      refine ⟨taken, .last (isChunk_iff.mp (hchunk .final))
        (handle_of_takeChunk htake hnext.good (fun m hm => ?_) fun hnone => ?_) hdone, hnext.token⟩
      · rw [hmessage] at hm
        cases hm
        exact hanswer taken hnext.token
      · rw [hmessage] at hnone
        cases hnone
    | cons body' bodies =>
      obtain ⟨outcome, taken, htake, hnext⟩ := takeChunk_symmetricChunk table htype
        (hmemory s.chunk) hdistinct (p := { kind := .intermediate, id := id, body := body }) hbody
      have hmessage : outcome.message? = none := hnext.piece.message
      have hstored : taken.stored id = s.channel.stored id ++ body := by
        rw [hnext.piece.stored]
        exact Piece.next_self _ _
      have htail : taken.stored id ++ (body' :: bodies).flatten =
          s.channel.stored id ++ (body :: body' :: bodies).flatten := by
        rw [hstored, List.append_assoc]
        rfl
      obtain ⟨channel', huntil, htoken⟩ := ih
        { channel := taken, application := s.application, chunk := s.chunk + 1 }
        hnext.piece.distinct (List.cons_ne_nil _ _)
        (fun b hb => hnonempty b (List.mem_cons_of_mem _ hb))
        (fun b hb => hfits b (List.mem_cons_of_mem _ hb)) hbefore
        (fun channel hchannel => by
          rw [htail]
          exact hanswer channel (hchannel.trans hnext.token))
      rw [hnext.token, hnext.number] at huntil
      have hcount : s.chunk + 1 + (body' :: bodies).length =
          s.chunk + (body :: body' :: bodies).length := by
        simp only [List.length_cons]
        omega
      rw [hcount] at huntil
      refine ⟨channel', .more (isChunk_iff.mp (hchunk .intermediate))
        (handle_of_takeChunk htake hnext.good (fun m hm => ?_) fun _ => rfl) hbefore huntil,
        htoken.trans hnext.token⟩
      rw [hmessage] at hm
      cases hm

end

/-! ## The receive loop -/

/-- The clock of a turn that is over before the deadline of the call. -/
structure ReceiveTurn.InTime (start maxDate : Int) (turn : ReceiveTurn) : Prop where
  entered : start ≤ turn.entered
  begun : turn.entered ≤ turn.begun
  early : turn.entered < maxDate
  now : turn.now < maxDate

/-- While the chunks come in time, the loop goes on up to the one it waits for. -/
theorem receiveService_until (env : ServiceEnv) (state : UaClientState) {start maxDate : Int}
    {s last : ChannelState SyncResponseDescription} {connection : UaConnection}
    {chunks packets : List Bytes} {turns : List ReceiveTurn}
    (hopen : connection.state ≠ .closed)
    (hserved : List.Forall₂ (Serves connection.localConf.recvBufferSize.toNat) turns packets)
    (htime : ∀ turn ∈ turns, turn.InTime start maxDate)
    (hlong : maxDate - start ≤ (2 ^ 32 - 1) * uaDatetimeMsec) (hturns : turns ≠ [])
    (huntil : ChunksUntil (serviceCallback env state) (fun s => s.application.received = true) s
      connection.cleared chunks last)
    (hlast : last.application.received = true)
    (hstream : connection.incompleteMessage ++ packets.flatten = chunks.flatten) :
    receiveService env state maxDate s connection turns =
      some { retval := uaStatuscodeGood,
             client := { state := state, connection := connection.cleared,
                         channel := last.channel },
             rd := last.application } := by
  induction hn : turns.length using Nat.strongRecOn generalizing s connection chunks packets turns
    with
  | ind k ih =>
    cases turns with
    | nil => exact absurd rfl hturns
    | cons turn later =>
      have hturn := htime turn List.mem_cons_self
      have hdate : maxDate ≤
          turn.begun + (timeoutUntil maxDate turn.entered).toNat * uaDatetimeMsec := by
        have hentered := hturn.entered
        have hbegun := hturn.begun
        have hfar : maxDate - turn.entered ≤
            (timeoutUntil maxDate turn.entered).toNat * uaDatetimeMsec :=
          le_timeoutUntil (by omega)
        omega
      obtain ⟨got, hgot, hgood, hsuffix, hend⟩ := receiveChunks_until clientProcessChunk_detached
        (timeoutUntil maxDate turn.entered) hopen hserved
        (fun t ht => Int.lt_of_lt_of_le (htime t ht).now hdate) hturns huntil hstream
      have hwait : uaConnectionReceiveChunksBlocking (serviceCallback env state) s connection
          (timeoutUntil maxDate turn.entered) (turn :: later) = some got := hgot
      have hshorter := receiveChunksBlocking_shorter hwait
      have hearly : ¬maxDate ≤ turn.entered := Int.not_le.mpr hturn.early
      rw [receiveService, if_neg hearly]
      split
      · rename_i hnone
        rw [hwait] at hnone
        cases hnone
      · rename_i got' hgot'
        cases hwait.symm.trans hgot'
        have hkept : ¬(got.retval ≠ uaStatuscodeGood ∧
            got.retval ≠ uaStatuscodeGoodnoncriticaltimeout) := fun h => h.1 hgood
        dsimp only
        rw [if_neg hkept]
        rcases hend with ⟨happlication, hconnection⟩ | ⟨hbefore, hsame, chunks', packets', hchunks,
          hpackets, hmore, hflatten⟩
        · rw [happlication, hconnection, hgood, if_pos hlast]
        · rw [if_neg hbefore]
          have hconf : got.connection.localConf = connection.localConf := by
            show got.connection.cleared.localConf = connection.cleared.localConf
            rw [hsame]
          have hstate : got.connection.state = connection.state := by
            show got.connection.cleared.state = connection.cleared.state
            rw [hsame]
          rw [← hsame] at hchunks ⊢
          rw [← hconf] at hpackets
          exact ih got.turns.length (hn ▸ hshorter) (hstate ▸ hopen) hpackets
            (fun t ht => htime t (hsuffix.subset ht)) hmore hchunks hflatten rfl

/-! ## The call -/

/-- A request that was sent by a client with an open connection, of which nothing is stored
that came before. -/
structure SentRequest.Ready (sent : SentRequest) : Prop where
  good : sent.retval = uaStatuscodeGood
  connection : sent.client.connection.state ≠ .closed
  clean : sent.client.connection.incompleteMessage = []
  distinct : Distinct sent.client.channel.chunks
  fresh : sent.client.channel.stored sent.requestId = []

/-- The token is valid when the message is looked at. -/
def UaChannelSecurityToken.ValidAt (token : UaChannelSecurityToken) (now : Int) : Prop :=
  now ≤ token.createdAt + token.revisedLifetime.toNat * uaDatetimeMsec

/-- The bodies are those of chunks that the connection takes. -/
structure ReplyBodies (connection : UaConnection) (bodies : List Bytes) : Prop where
  some : bodies ≠ []
  nonempty : ∀ body ∈ bodies, body ≠ []
  fits : ∀ body ∈ bodies, uaSecureMessageHeaderLength + body.length ≤
    connection.localConf.recvBufferSize.toNat

theorem processServiceResponse_of_reply {state : UaClientState} {message : Nat → MessageTurn}
    {rd : SyncResponseDescription} {channel : UaSecureChannel} {bytes : Bytes}
    {response : UaReadResponse} (hreply : ReplyTo (message rd.handed.length) bytes response)
    (hvalid : channel.securityToken.ValidAt (message rd.handed.length).now) :
    processServiceResponse state message rd channel
        (messageOf uaMessagetypeMsg (rd.requestId, bytes)) =
      (uaStatuscodeGood,
        { rd with received := true, response := response,
                  handed := rd.handed ++ [messageOf uaMessagetypeMsg (rd.requestId, bytes)] }) := by
  have htype : ¬((messageOf uaMessagetypeMsg (rd.requestId, bytes)).messageType ≠ uaMessagetypeOpn ∧
      (messageOf uaMessagetypeMsg (rd.requestId, bytes)).messageType ≠ uaMessagetypeMsg) :=
    fun h => h.2 rfl
  have hlifetime : ¬(state.hasChannel = true ∧ channel.securityToken.createdAt +
      channel.securityToken.revisedLifetime.toNat * uaDatetimeMsec <
        (message rd.handed.length).now) := fun h => absurd h.2 (Int.not_lt.mpr hvalid)
  let m := messageOf uaMessagetypeMsg (rd.requestId, bytes)
  have hbytes : ReplyTo (message rd.handed.length) m.bytes response := hreply
  have hanswer := answerServiceResponse_of_reply { rd with handed := rd.handed ++ [m] } hbytes rfl
  rw [processServiceResponse, if_neg htype, if_neg hlifetime, hanswer]
  rfl

/-- A reply that comes in time, in chunks under the token of the channel, is returned as what
its message decodes as, and leaves the client open, wherever the packets end. -/
theorem serviceCall_reply {env : ServiceEnv} {now : Int} {timeout : UInt32} {sent : SentRequest}
    {bodies packets : List Bytes} {turns : List ReceiveTurn} {response : UaReadResponse}
    (hready : sent.Ready) (hmemory : ∀ k, (env.memory k).Ample)
    (hbodies : ReplyBodies sent.client.connection bodies)
    (hserved : List.Forall₂ (Serves sent.client.connection.localConf.recvBufferSize.toNat) turns
      packets)
    (htime : ∀ turn ∈ turns, turn.InTime now (now + timeout.toNat * uaDatetimeMsec))
    (hvalid : sent.client.channel.securityToken.ValidAt (env.message 0).now)
    (hstream : packets.flatten = (symmetricChunks uaMessagetypeMsg
      sent.client.channel.securityToken sent.client.channel.receiveSequenceNumber
      (piecesOf sent.requestId bodies)).flatten)
    (hreply : ReplyTo (env.message 0) bodies.flatten response) :
    ∃ channel,
      serviceCall env now timeout sent turns =
        some { response := response, client := { sent.client with channel := channel },
               handed := [messageOf uaMessagetypeMsg (sent.requestId, bodies.flatten)] } ∧
      channel.securityToken = sent.client.channel.securityToken := by
  have hcleared : sent.client.connection.cleared = sent.client.connection := by
    rw [UaConnection.cleared, ← hready.clean]
  let s : ChannelState SyncResponseDescription :=
    { channel := sent.client.channel,
      application := { received := false, requestId := sent.requestId, response := .init,
                       handed := [] },
      chunk := 0 }
  let answer : SyncResponseDescription :=
    { received := true, requestId := sent.requestId, response := response,
      handed := [messageOf uaMessagetypeMsg (sent.requestId, bodies.flatten)] }
  obtain ⟨channel, huntil, htoken⟩ := piecesOf_chunksUntil
    uaTypesTable (processServiceResponse sent.client.state env.message)
    (fun rd => rd.received = true) s sent.client.connection.cleared answer
    (Or.inl rfl) hmemory hready.distinct hbodies.some hbodies.nonempty
    (by rw [hcleared]; exact hbodies.fits) Bool.false_ne_true
    (fun channel hchannel => by
      rw [hready.fresh, List.nil_append]
      exact processServiceResponse_of_reply hreply (hchannel ▸ hvalid)) rfl
  have hturns : turns ≠ [] := by
    intro hnil
    rw [hnil] at hserved
    cases hserved
    exact huntil.flatten_ne_nil hstream.symm
  have htimeout : timeout.toNat < 2 ^ 32 := timeout.toNat_lt
  have hreceived := receiveService_until env sent.client.state
    hready.connection hserved htime
    (show now + timeout.toNat * uaDatetimeMsec - now ≤ (2 ^ 32 - 1) * uaDatetimeMsec by
      simp only [uaDatetimeMsec]
      omega) hturns huntil rfl
    (by rw [hready.clean, List.nil_append]; exact hstream)
  refine ⟨channel, ?_, htoken⟩
  rw [serviceCall, if_neg (not_not.mpr hready.good)]
  show (receiveService env sent.client.state _ s sent.client.connection turns).map _ = _
  rw [hreceived, Option.map_some, hcleared]
  rfl

/-! ## A reply -/

/-- The message of a response with one number. -/
def sampleReply : Bytes :=
  [1, 0, 0x7A, 2] ++
    ([0, 0, 0, 0, 0, 0, 0, 0] ++ [1, 0, 0, 0] ++ [0, 0, 0, 0] ++ [0] ++ [255, 255, 255, 255] ++
      [0, 0, 0]) ++ ([1, 0, 0, 0] ++ [1, 10, 0, 0, 0x28, 0x42]) ++ [255, 255, 255, 255]

def sampleResponse : UaReadResponse where
  serviceResult := uaStatuscodeGood
  results := [{ value := .scalar (.float 0x42280000) }]
  memberBlocks := 2

theorem readResponseOf_sampleResponseValues :
    readResponseOf (.struct sampleResponseValues) = some sampleResponse := by
  have hcontent : contentOf 9 (.uint32 0x42280000) = some ⟨.float 0x42280000, rfl⟩ := rfl
  simp [readResponseOf, sampleResponseValues, serviceResultOf, dataValuesOf, dataValueOf, variantOf,
    hcontent, UaValue.blocks, UaValue.held, blocksOf, textBlocks, UaAnyNodeId.null,
    UaIdentifier.text, sampleResponse, UaVariant.scalar, UaContent.typeIndex]
  trivial

theorem sampleReply_encoded : ReplyEncoded sampleReply sampleResponse := by
  have hbytes : sampleReply = nodeIdBytes 0 readResponseType.encodingId ++ sampleResponseBytes := by
    decide
  rw [hbytes]
  exact .response sampleResponse_encoded readResponseOf_sampleResponseValues

/-- The reply in two chunks. -/
def sampleBodies : List Bytes := [sampleReply.take 10, sampleReply.drop 10]

/-- The bodies in chunks of the sample channel. -/
def replyChunks (bodies : List Bytes) : Bytes :=
  (symmetricChunks uaMessagetypeMsg sampleSent.client.channel.securityToken
    sampleSent.client.channel.receiveSequenceNumber (piecesOf sampleSent.requestId bodies)).flatten

/-- A pass in which the socket has a packet. -/
def packetTurn (now : Int) (packet : Bytes) : ReceiveTurn where
  entered := now
  begun := now
  socket := { select := .ready, buffer := true, recv := .received packet }
  grants := .all
  now := now

/-- Two packets, of which the first ends within a header. -/
def packetTurns (stream : Bytes) : List ReceiveTurn :=
  [packetTurn 10000 (stream.take 5), packetTurn 20000 (stream.drop 5)]

theorem sampleBodies_replyBodies : ReplyBodies sampleConnection sampleBodies where
  some := by decide
  nonempty := by decide
  fits := by decide

theorem sampleSent_ready : sampleSent.Ready := ⟨rfl, by decide, rfl, List.nodup_nil, rfl⟩

theorem sampleServiceEnv_memory (k : Nat) : (sampleServiceEnv.memory k).Ample := ⟨rfl, rfl⟩

theorem packetTurns_served {stream : Bytes} (hlong : 5 < stream.length)
    (hfits : stream.length ≤ sampleConnection.localConf.recvBufferSize.toNat) :
    List.Forall₂ (Serves sampleConnection.localConf.recvBufferSize.toNat) (packetTurns stream)
      [stream.take 5, stream.drop 5] := by
  have htake : (stream.take 5).length = 5 := List.length_take_of_le (Nat.le_of_lt hlong)
  have hdrop : (stream.drop 5).length = stream.length - 5 := List.length_drop
  refine .cons ⟨rfl, rfl, rfl, rfl, ?_, ?_⟩ (.cons ⟨rfl, rfl, rfl, rfl, ?_, ?_⟩ .nil)
  · exact List.ne_nil_of_length_pos (by omega)
  · omega
  · exact List.ne_nil_of_length_pos (by omega)
  · omega

theorem packetTurn_inTime {now maxDate : Int} (hnow : 0 ≤ now) (hearly : now < maxDate)
    (packet : Bytes) : (packetTurn now packet).InTime 0 maxDate :=
  ⟨hnow, Int.le_refl now, hearly, hearly⟩

theorem packetTurns_inTime (stream : Bytes) :
    ∀ turn ∈ packetTurns stream, turn.InTime 0 (0 + (5000 : UInt32).toNat * uaDatetimeMsec) := by
  intro turn hturn
  rcases List.mem_cons.mp hturn with rfl | hturn
  · exact packetTurn_inTime (by decide) (by decide) _
  · obtain rfl := List.mem_singleton.mp hturn
    exact packetTurn_inTime (by decide) (by decide) _

theorem sampleReply_served :
    List.Forall₂ (Serves sampleConnection.localConf.recvBufferSize.toNat)
      (packetTurns (replyChunks sampleBodies))
      [(replyChunks sampleBodies).take 5, (replyChunks sampleBodies).drop 5] :=
  packetTurns_served (by decide) (by decide)

theorem sampleToken_validAt :
    sampleChannel.securityToken.ValidAt (sampleServiceEnv.message 0).now := by
  simp only [UaChannelSecurityToken.ValidAt]
  decide

/-! ## A reply as it is encoded -/

/-- A response that the server encodes, or a fault that it encodes in its place, is the one
that is returned. -/
theorem serviceCall_encodedReply {env : ServiceEnv} {now : Int} {timeout : UInt32}
    {sent : SentRequest} {bodies packets : List Bytes} {turns : List ReceiveTurn}
    {response : UaReadResponse} (hready : sent.Ready) (hmemory : ∀ k, (env.memory k).Ample)
    (hidHeap : (env.message 0).idHeap.Ample) (hheap : (env.message 0).heap.Ample)
    (hbodies : ReplyBodies sent.client.connection bodies)
    (hserved : List.Forall₂ (Serves sent.client.connection.localConf.recvBufferSize.toNat) turns
      packets)
    (htime : ∀ turn ∈ turns, turn.InTime now (now + timeout.toNat * uaDatetimeMsec))
    (hvalid : sent.client.channel.securityToken.ValidAt (env.message 0).now)
    (hstream : packets.flatten = (symmetricChunks uaMessagetypeMsg
      sent.client.channel.securityToken sent.client.channel.receiveSequenceNumber
      (piecesOf sent.requestId bodies)).flatten)
    (hreply : ReplyEncoded bodies.flatten response) :
    ∃ channel,
      serviceCall env now timeout sent turns =
        some { response := response, client := { sent.client with channel := channel },
               handed := [messageOf uaMessagetypeMsg (sent.requestId, bodies.flatten)] } ∧
      channel.securityToken = sent.client.channel.securityToken :=
  serviceCall_reply hready hmemory hbodies hserved htime hvalid hstream
    (replyTo_of_encoded hidHeap hheap hreply)

theorem serviceCall_encodedReply_sample :
    ∃ channel,
      serviceCall sampleServiceEnv 0 5000 sampleSent (packetTurns (replyChunks sampleBodies)) =
        some { response := sampleResponse, client := { sampleSent.client with channel := channel },
               handed := [messageOf uaMessagetypeMsg (5, sampleReply)] } ∧
      channel.securityToken = sampleSent.client.channel.securityToken :=
  serviceCall_encodedReply sampleSent_ready sampleServiceEnv_memory ampleHeap_ample ampleHeap_ample
    sampleBodies_replyBodies sampleReply_served (packetTurns_inTime _) sampleToken_validAt
    (by decide) sampleReply_encoded

/-! ## What the poller sees -/

/-- The client of the poller, of which only the state is looked at. -/
def ServiceClient.client (client : ServiceClient) : UaClient := { state := client.state }

/-- Whatever the clock, the socket and the heap do, a call that comes back is one of the
outcomes that the poller is looked at for.  When it leaves the client open, the response
is what the last message of the channel decodes as, and that message has the number of the
request. -/
theorem serviceCall_refines {env : ServiceEnv} {now : Int} {timeout : UInt32} {sent : SentRequest}
    {turns : List ReceiveTurn} {result : ServiceResult}
    (h : serviceCall env now timeout sent turns = some result) :
    ∃ outcome : ServiceOutcome, outcome.send = sent.retval ∧
      uaClientService sent.client.client outcome = (result.response, result.client.client) ∧
      (outcome.closes = false →
        RepliedBy env.message sent.requestId result.handed result.response) := by
  by_cases hsend : sent.retval = uaStatuscodeGood
  · rw [serviceCall, if_neg (not_not.mpr hsend)] at h
    obtain ⟨got, hgot, rfl⟩ := Option.map_eq_some_iff.mp h
    obtain ⟨hkept, hclosed, hreply⟩ := receiveService_receivedAs hgot rfl
    refine ⟨{ send := sent.retval, receive := .chunks got.retval got.rd.response }, rfl, ?_, ?_⟩
    · rw [uaClientService, if_neg (not_not.mpr hsend)]
      by_cases hretval : got.retval = uaStatuscodeGood
      · have hstate := hkept (Or.inl hretval)
        simp [receiveServiceResponse, hretval, ServiceClient.client, hstate]
      · by_cases hlate : got.retval = uaStatuscodeGoodnoncriticaltimeout
        · simp [receiveServiceResponse, hlate, ServiceClient.client, ServiceClient.close,
            UaClient.close]
        · have hstate := hclosed hretval hlate
          simp [receiveServiceResponse, hretval, hlate, ServiceClient.client, UaClient.close, hstate]
    · intro hcloses
      have hretval : got.retval = uaStatuscodeGood := by
        simpa [ServiceOutcome.closes, hsend] using hcloses
      obtain ⟨hreceived, -, hlast⟩ := hreply hretval
      have hreplied : RepliedBy env.message sent.requestId got.rd.handed got.rd.response :=
        hlast hreceived
      simpa [hretval] using hreplied
  · rw [serviceCall, if_pos hsend] at h
    cases h
    refine ⟨{ send := sent.retval, receive := .deadline }, rfl, ?_, fun hcloses => ?_⟩
    · rw [uaClientService, if_pos hsend]
      rfl
    · simp [ServiceOutcome.closes, hsend] at hcloses

/-- What the call returns of the reply. -/
theorem serviceCall_sampleReply :
    ∃ channel,
      serviceCall sampleServiceEnv 0 5000 sampleSent (packetTurns (replyChunks sampleBodies)) =
        some { response := sampleResponse, client := { sampleSent.client with channel := channel },
               handed := [messageOf uaMessagetypeMsg (5, sampleReply)] } := by
  obtain ⟨channel, hcall, -⟩ := serviceCall_reply sampleSent_ready sampleServiceEnv_memory
    sampleBodies_replyBodies sampleReply_served (packetTurns_inTime _) sampleToken_validAt
    (by decide) (replyTo_of_encoded ampleHeap_ample ampleHeap_ample sampleReply_encoded)
  exact ⟨channel, hcall⟩

/-- What the poller sees of the reply. -/
theorem serviceCall_refines_reply :
    ∃ result : ServiceResult, ∃ outcome : ServiceOutcome, outcome.send = uaStatuscodeGood ∧
      uaClientService sampleSent.client.client outcome = (result.response, result.client.client) ∧
      (outcome.closes = false →
        RepliedBy sampleServiceEnv.message 5 result.handed result.response) := by
  obtain ⟨channel, hcall⟩ := serviceCall_sampleReply
  exact ⟨_, serviceCall_refines hcall⟩

end Opcua
end OpcuaGateway
