/-
The message of an encoded response.

A message that begins with the identifier of a response, and goes on with an encoded
response of that type, is what the service call takes for a reply (`replyTo_of_encoded`).
-/
import OpcuaGateway.Opcua.DecodeEncoded
import OpcuaGateway.Opcua.Service

namespace OpcuaGateway
namespace Opcua

open Text (Bytes)

theorem decodeEnv_roomy {heap : Heap} (h : heap.Ample) (bytes : Bytes) :
    (decodeEnv heap bytes).Roomy where
  heap := h
  sizes := uaTypesTable_sizes

/-- A reply as the server encodes it: the response, or a fault in its place, with filled
arrays. -/
inductive ReplyEncoded : Bytes → UaReadResponse → Prop
  | response {values : List UaValue} {body : Bytes} {response : UaReadResponse}
      (encoded : MembersEncoded uaTypesTable filledArray 1 readResponseType.members values body)
      (looked : readResponseOf (.struct values) = some response) :
      ReplyEncoded (nodeIdBytes 0 readResponseType.encodingId ++ body) response
  | fault {values : List UaValue} {body : Bytes} {response : UaReadResponse}
      (encoded : MembersEncoded uaTypesTable filledArray 1 serviceFaultType.members values body)
      (looked : headerResponseOf (.struct values) = some response) :
      ReplyEncoded (nodeIdBytes 0 serviceFaultId ++ body) response

section

variable {heap : Heap}

/-- The identifier is decoded, and the body begins where it ends. -/
theorem decodeResponseId_encoded (hheap : heap.Ample) (id : UaAnyNodeId)
    (typed : id.identifier.Typed) (body : Bytes) :
    ∃ responseId, decodeResponseId heap (nodeIdBytes 0 id ++ body) = .ok responseId ∧
      decodedNodeId responseId.values = id ∧
      responseId.endOffset = (nodeIdBytes 0 id).length := by
  have hencoded : MembersEncoded uaTypesTable filledArray 1 (builtinType uaTypesNodeid).members
      [.nodeId id] (nodeIdBytes 0 id ++ []) :=
    .scalar rfl (uaTypesTable_getElem? (by decide)) (.plain typed trivial) (.nil 1)
  rw [List.append_nil] at hencoded
  obtain ⟨ctx, hfinal, hpos⟩ := hencoded.decoded
    (decodeEnv_roomy hheap (nodeIdBytes 0 id ++ body))
    (show nodeIdBytes 0 id ++ body = [] ++ (nodeIdBytes 0 id ++ body) from rfl)
  obtain ⟨responseId, hdecoded, hvalues, hend⟩ :=
    decodeBinary_of_final (Nat.zero_le _) nodeIdType_decodable (uaDecodeBinary_of_internal hfinal)
  refine ⟨responseId, hdecoded, ?_, ?_⟩
  · rw [hvalues]
    rfl
  · rw [hend, hpos]
    exact Nat.zero_add _

/-- The body is decoded from where the identifier ends. -/
theorem decodeBinary_encoded {type : UaDataType} {values : List UaValue} {body : Bytes}
    {id : UaAnyNodeId} {offset : Nat} (hheap : heap.Ample) (htype : Decodable uaTypesTable type)
    (h : MembersEncoded uaTypesTable filledArray 1 type.members values body)
    (hoffset : offset = (nodeIdBytes 0 id).length)
    (hwithin : offset ≤ (decodeEnv heap (nodeIdBytes 0 id ++ body)).message.length + 4) :
    ∃ decoded, decodeBinary (decodeEnv heap (nodeIdBytes 0 id ++ body)) hwithin htype =
        .ok decoded ∧ decoded.values = values := by
  subst hoffset
  have hmessage : (decodeEnv heap (nodeIdBytes 0 id ++ body)).message =
      nodeIdBytes 0 id ++ (body ++ []) := by
    rw [List.append_nil]
    rfl
  obtain ⟨ctx, hfinal, -⟩ := h.decoded (decodeEnv_roomy hheap (nodeIdBytes 0 id ++ body)) hmessage
  obtain ⟨decoded, hdecoded, hvalues, -⟩ :=
    decodeBinary_of_final hwithin htype (uaDecodeBinary_of_internal hfinal)
  exact ⟨decoded, hdecoded, hvalues⟩

/-- Identifier and body are decoded one behind the other. -/
theorem decodeReply_encoded {idHeap : Heap} {type : UaDataType} {values : List UaValue}
    {body : Bytes} (hid : idHeap.Ample) (hheap : heap.Ample)
    (htype : Decodable uaTypesTable type) (id : UaAnyNodeId) (typed : id.identifier.Typed)
    (h : MembersEncoded uaTypesTable filledArray 1 type.members values body) :
    ∃ responseId, decodeResponseId idHeap (nodeIdBytes 0 id ++ body) = .ok responseId ∧
      decodedNodeId responseId.values = id ∧
      ∃ decoded, decodeBinary (decodeEnv heap (nodeIdBytes 0 id ++ body)) responseId.within htype =
          .ok decoded ∧ decoded.values = values := by
  obtain ⟨responseId, hdecodedId, hvalue, hend⟩ := decodeResponseId_encoded hid id typed body
  exact ⟨responseId, hdecodedId, hvalue,
    decodeBinary_encoded hheap htype h hend responseId.within⟩

end

theorem replyTo_of_encoded {turn : MessageTurn} {bytes : Bytes} {response : UaReadResponse}
    (hid : turn.idHeap.Ample) (hheap : turn.heap.Ample) (h : ReplyEncoded bytes response) :
    ReplyTo turn bytes response := by
  cases h with
  | @response values body response encoded looked =>
    obtain ⟨responseId, hdecodedId, hvalue, decoded, hdecoded, rfl⟩ :=
      decodeReply_encoded hid hheap readResponse_decodable readResponseType.encodingId trivial
        encoded
    have heq : readResponse decoded = response := by
      apply Option.some.inj
      rw [← looked, readResponse, Option.some_get]
    rw [← heq]
    exact .response hdecodedId hvalue hdecoded
  | @fault values body response encoded looked =>
    obtain ⟨responseId, hdecodedId, hvalue, decoded, hdecoded, rfl⟩ :=
      decodeReply_encoded hid hheap serviceFault_decodable serviceFaultId trivial encoded
    have heq : faultResponse decoded = response := by
      apply Option.some.inj
      rw [← looked, faultResponse, Option.some_get]
    rw [← heq]
    exact .fault hdecodedId hvalue hdecoded

end Opcua
end OpcuaGateway
