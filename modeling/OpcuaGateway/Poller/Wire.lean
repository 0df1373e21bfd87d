/-
From the bytes on the socket to the messages on the broker.

What the poller sees of a request is a service call over a socket.  When the server encodes
a name and a value for every node, and its answers come in time, a pass publishes for each
node a JSON text with that name and that number, however the answers are cut into chunks
and packets (`pollNodes_carries_encoded`).
-/
import OpcuaGateway.Opcua.Reply
import OpcuaGateway.Poller.Decoding

namespace OpcuaGateway
namespace Poller

open Effect Framing Opcua Rtc Text Json Idf Numeric

/-! ## Service calls over a socket -/

/-- `.timeout` of `UA_ClientConfig_default`. -/
def uaClientConfigTimeout : UInt32 := 5000

structure WireCall where
  env : ServiceEnv
  now : Int
  sent : SentRequest
  turns : List ReceiveTurn

namespace WireCall

def deadline (call : WireCall) : Int :=
  call.now + uaClientConfigTimeout.toNat * uaDatetimeMsec

def result (call : WireCall) : Option ServiceResult :=
  serviceCall call.env call.now uaClientConfigTimeout call.sent call.turns

/-- The outcome is what the poller sees of the call. -/
def SeenAs (call : WireCall) (outcome : ServiceOutcome) : Prop :=
  ∃ result, call.result = some result ∧
    uaClientService call.sent.client.client outcome = (result.response, result.client.client)

/-- The server encodes the response, and the chunks of its answer are what the socket
delivers. -/
structure Delivers (call : WireCall) (response : UaReadResponse) (bodies packets : List Bytes) :
    Prop where
  taken : ReplyBodies call.sent.client.connection bodies
  encoded : ReplyEncoded bodies.flatten response
  served : List.Forall₂ (Serves call.sent.client.connection.localConf.recvBufferSize.toNat)
    call.turns packets
  stream : packets.flatten = (symmetricChunks uaMessagetypeMsg
    call.sent.client.channel.securityToken call.sent.client.channel.receiveSequenceNumber
    (piecesOf call.sent.requestId bodies)).flatten

/-- The server answers the call with the response, in time. -/
structure Answered (call : WireCall) (response : UaReadResponse) : Prop where
  ready : call.sent.Ready
  memory : ∀ k, (call.env.memory k).Ample
  idHeap : (call.env.message 0).idHeap.Ample
  heap : (call.env.message 0).heap.Ample
  valid : call.sent.client.channel.securityToken.ValidAt (call.env.message 0).now
  inTime : ∀ turn ∈ call.turns, turn.InTime call.now call.deadline
  delivers : ∃ bodies packets, call.Delivers response bodies packets

variable {call : WireCall} {response : UaReadResponse} {outcome : ServiceOutcome}

theorem Answered.result (h : call.Answered response) :
    ∃ result, call.result = some result ∧ result.response = response ∧
      result.client.client = call.sent.client.client := by
  obtain ⟨bodies, packets, hdelivers⟩ := h.delivers
  obtain ⟨channel, hcall, -⟩ := serviceCall_reply h.ready h.memory hdelivers.taken
    hdelivers.served h.inTime h.valid hdelivers.stream
    (replyTo_of_encoded h.idHeap h.heap hdelivers.encoded)
  exact ⟨_, hcall, rfl, rfl⟩

/-- Whatever the poller sees of an answered call, the response is the one that the server
encoded. -/
theorem Answered.response_eq (h : call.Answered response) (hseen : call.SeenAs outcome) :
    outcome.response = response := by
  obtain ⟨seen, hseenCall, hservice⟩ := hseen
  obtain ⟨answered, hanswered, hresponse, -⟩ := h.result
  obtain rfl : seen = answered := Option.some.inj (hseenCall.symm.trans hanswered)
  rw [← uaClientService_fst call.sent.client.client outcome, hservice]
  exact hresponse

theorem Answered.seenAs_replied (h : call.Answered response) :
    call.SeenAs (ServiceOutcome.replied response) := by
  obtain ⟨answered, hanswered, hresponse, hclient⟩ := h.result
  refine ⟨answered, hanswered, ?_⟩
  rw [hresponse, hclient]
  rfl

end WireCall

/-! ## Nodes -/

/-- What is seen of the request is a call that the server answers with the response. -/
def OnWire (outcome : ServiceOutcome) (response : UaReadResponse) : Prop :=
  ∃ call : WireCall, call.SeenAs outcome ∧ call.Answered response

theorem OnWire.response_eq {outcome : ServiceOutcome} {response : UaReadResponse}
    (h : OnWire outcome response) : outcome.response = response := by
  obtain ⟨call, hseen, hanswered⟩ := h
  exact hanswered.response_eq hseen

/-- The server answers for node `i` with the name and with a value of the number, the clock
is read, and what is printed of them is short enough. -/
structure NodeAnswered (env : PassEnv) (i : Nat) (name : UaString) (q : ℚ) : Prop where
  granted : env.nameItem i = true ∧ env.nodeName i = true ∧ env.valueItem i = true
  text : ∃ response, OnWire (env.name i) response ∧ scalarText response = some name
  sample : ∃ response sample data, OnWire (env.value i) response ∧
    scalarSample response = some sample ∧ sample.number? = some q ∧
    timeRead (env.rtc i) I2cDev.zero = (espOk, data) ∧
    name.data.length + sample.width + timestampWidth (timeOfRegisters data) ≤ 64
  utf8 : Utf8 name.data
  plain : ∀ b ∈ name.data, isPlain b = true

/-- The message of node `i` says the name and the number. -/
structure NodeCarries (i : Nat) (name : UaString) (q : ℚ) (message : Message) : Prop where
  topic : message.topic = nodeTopic (nodeIds i)
  carries : Carries name.data q message.data

theorem carrying_of_scalarText {response : UaReadResponse} {name : UaString}
    (h : scalarText response = some name) : Carrying response := by
  intro hgood hnil
  rw [scalarText, if_pos hgood, firstContent, hnil] at h
  cases h

theorem carrying_of_scalarSample {response : UaReadResponse} {sample : Sample}
    (h : scalarSample response = some sample) : Carrying response := by
  intro hgood hnil
  rw [scalarSample, if_pos hgood, firstContent, hnil] at h
  cases h

theorem not_mem_zero_of_plain {name : Bytes} (h : ∀ b ∈ name, isPlain b = true) :
    (0 : UInt8) ∉ name := by
  intro hmem
  exact absurd (h 0 hmem) (by decide)

section

variable {env : PassEnv} {i : Nat} {name : UaString} {q : ℚ}

theorem NodeAnswered.carrying (h : NodeAnswered env i name q) :
    Carrying (env.name i).response ∧ Carrying (env.value i).response := by
  obtain ⟨response, hwire, htext⟩ := h.text
  obtain ⟨response', sample, -, hwire', hsample, -⟩ := h.sample
  rw [hwire.response_eq, hwire'.response_eq]
  exact ⟨carrying_of_scalarText htext, carrying_of_scalarSample hsample⟩

theorem NodeAnswered.message (h : NodeAnswered env i name q) (t : Tm) :
    ∃ message, nodeMessage env t i = some message ∧ NodeCarries i name q message := by
  obtain ⟨response, hwire, htext⟩ := h.text
  obtain ⟨response', sample, data, hwire', hsample, hnumber, hread, hfits⟩ := h.sample
  have htime : timeAfter (env.rtc i) (localTimeAt env t i) = timeOfRegisters data := by
    rw [timeAfter, hread, if_pos rfl]
  have hmessage : nodeMessage env t i =
      some (sampleMessage i name sample (timeOfRegisters data)) := by
    rw [nodeMessage, hwire.response_eq, hwire'.response_eq, htext, hsample, ← htime]
  refine ⟨_, hmessage, rfl, ?_⟩
  obtain ⟨hnumeral, hwidth⟩ := Sample.numeral hnumber
  have hshort : name.data.length + sample.valueText.length +
      (timestampText (timeOfRegisters data)).length ≤ 64 := by
    rw [hwidth, length_timestampText (timeOfRegisters_inRange data)]
    exact hfits
  show Carries name.data q (dataReceiverOpcua (name.data ++ [0]) sample.valueText _)
  rw [dataReceiverOpcua, cString_append_zero (not_mem_zero_of_plain h.plain)]
  exact carries_of_fits h.utf8 hnumeral h.plain hshort

end

/-! ## A pass -/

theorem forall₂_filterMap {α β : Type} {R : α → β → Prop} {f : α → Option β} {l : List α}
    (h : ∀ a ∈ l, ∃ b, f a = some b ∧ R a b) : List.Forall₂ R l (l.filterMap f) := by
  induction l with
  | nil => exact .nil
  | cons a l ih =>
    obtain ⟨b, hb, hR⟩ := h a List.mem_cons_self
    rw [List.filterMap_cons_some hb]
    exact .cons hR (ih fun a' ha' => h a' (List.mem_cons_of_mem a ha'))

/-- When the server answers for every node in time, a pass publishes one message for each, in
the order of the nodes, with the name and the number that the server encoded. -/
theorem pollNodes_carries_encoded {env : PassEnv} {name : Nat → UaString} {q : Nat → ℚ}
    (h : ∀ i, i < 10 → NodeAnswered env i (name i) (q i)) (s : TaskState) :
    ∃ log t, (pollNodes env).run s = { log := log, exit := .ok ((), t) } ∧
      List.Forall₂ (fun i message => NodeCarries i (name i) (q i) message) (List.range 10)
        (log.filterMap Event.message?) := by
  obtain ⟨log, t, hrun, hmessages⟩ := pollNodes_messages (fun i hi => (h i hi).granted)
    (fun i hi => (h i hi).carrying) s
  refine ⟨log, t, hrun, ?_⟩
  rw [hmessages]
  exact forall₂_filterMap fun i hi => (h i (List.mem_range.mp hi)).message s.localTime

/-! ## A pass over answered calls -/

def packetsCall (bodies : List Bytes) : WireCall where
  env := sampleServiceEnv
  now := 0
  sent := sampleSent
  turns := packetTurns (replyChunks bodies)

theorem packetsCall_answered {bodies : List Bytes} {response : UaReadResponse}
    (hbodies : ReplyBodies sampleConnection bodies) (hencoded : ReplyEncoded bodies.flatten response)
    (hlong : 5 < (replyChunks bodies).length)
    (hfits : (replyChunks bodies).length ≤ sampleConnection.localConf.recvBufferSize.toNat) :
    (packetsCall bodies).Answered response where
  ready := sampleSent_ready
  memory := sampleServiceEnv_memory
  idHeap := ampleHeap_ample
  heap := ampleHeap_ample
  valid := sampleToken_validAt
  inTime := packetTurns_inTime _
  delivers := by
    refine ⟨bodies, [(replyChunks bodies).take 5, (replyChunks bodies).drop 5], hbodies, hencoded,
      packetTurns_served hlong hfits, ?_⟩
    rw [List.flatten_cons, List.flatten_cons, List.flatten_nil, List.append_nil,
      List.take_append_drop]
    rfl

/-- The message of a response with the name `p`. -/
def nameReply : Bytes :=
  nodeIdBytes 0 readResponseType.encodingId ++ responseBytes [21, 2, 1, 0, 0, 0, 112]

def nameResponse : UaReadResponse where
  serviceResult := uaStatuscodeGood
  results := [{ value := .scalar (.localizedText { text := plainName }) }]
  memberBlocks := 3

theorem nameReply_encoded : ReplyEncoded nameReply nameResponse := by
  have hshort : TextTyped (some (ascii "p")) := by
    intro text htext
    cases htext
    decide
  have hvalue : VariantEncoded uaTypesTable filledArray 2
      (.variant (some 20) (.localizedText none (some (ascii "p"))) .nullArray)
      [21, 2, 1, 0, 0, 0, 112] :=
    .scalar (by decide) (by decide) (uaTypesTable_getElem? (by decide)) (by decide)
      (.plain ⟨nofun, hshort⟩ trivial)
  have hresponse : readResponseOf (.struct (responseValues
      (.variant (some 20) (.localizedText none (some (ascii "p"))) .nullArray))) =
        some nameResponse := by
    simp [readResponseOf, responseValues, serviceResultOf, dataValuesOf, dataValueOf, variantOf,
      UaValue.blocks, UaValue.held, blocksOf, textBlocks, UaAnyNodeId.null,
      UaIdentifier.text, nameResponse, UaVariant.scalar, UaContent.typeIndex, ascii]
    trivial
  exact .response (response_encoded hvalue (List.cons_ne_nil _ _)) hresponse

def nameBodies : List Bytes := [nameReply.take 10, nameReply.drop 10]

/-- Every node is answered with the name `p` and the number 42. -/
def wireEnv : PassEnv :=
  PassEnv.serving (fun _ => nameResponse) (fun _ => sampleResponse)
    (fun _ => steadyClock (Vector.replicate 7 1))

theorem nameCall_answered : (packetsCall nameBodies).Answered nameResponse :=
  packetsCall_answered ⟨by decide, by decide, by decide⟩ nameReply_encoded (by decide) (by decide)

theorem valueCall_answered : (packetsCall sampleBodies).Answered sampleResponse :=
  packetsCall_answered sampleBodies_replyBodies sampleReply_encoded (by decide) (by decide)

theorem number_fortyTwo : (Sample.floatValue 0x42280000).number? = some 42 := by
  have hfinite : binary32.isFinite (0x42280000 : UInt32).toNat = true := by decide
  have hnegative : binary32.negative (0x42280000 : UInt32).toNat = false := by decide
  have hmillionths : binary32.millionths (0x42280000 : UInt32).toNat = 42000000 := by decide
  rw [Sample.number?, if_pos hfinite, Format.sixPlaces, hnegative, hmillionths]
  norm_num

theorem wireEnv_clock (i : Nat) :
    timeRead (wireEnv.rtc i) I2cDev.zero = (espOk, Vector.replicate 7 1) := by
  show timeRead (steadyClock (Vector.replicate 7 1)) I2cDev.zero = _
  decide

theorem wireEnv_answered (i : Nat) : NodeAnswered wireEnv i plainName 42 where
  granted := ⟨rfl, rfl, rfl⟩
  text := ⟨nameResponse, ⟨_, nameCall_answered.seenAs_replied, nameCall_answered⟩, rfl⟩
  sample := ⟨sampleResponse, .floatValue 0x42280000, Vector.replicate 7 1,
    ⟨_, valueCall_answered.seenAs_replied, valueCall_answered⟩, rfl, number_fortyTwo,
    wireEnv_clock i, by decide⟩
  utf8 := utf8_of_ascii (by decide)
  plain := List.all_eq_true.mp (by decide)

theorem pollNodes_carries_encoded_fortyTwo :
    ∃ log t, (pollNodes wireEnv).run TaskState.start = { log := log, exit := .ok ((), t) } ∧
      List.Forall₂ (fun i message => NodeCarries i plainName 42 message) (List.range 10)
        (log.filterMap Event.message?) :=
  pollNodes_carries_encoded (fun i _ => wireEnv_answered i) TaskState.start

end Poller
end OpcuaGateway
