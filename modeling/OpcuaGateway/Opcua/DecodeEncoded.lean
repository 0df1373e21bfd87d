/-
The decoder reads what is encoded.

Every function of the decoder reads the bytes of what it decodes, and so a message that
begins with an encoded value is decoded as that value, whatever is behind it
(`uaDecodeBinary_encoded`).
-/
import OpcuaGateway.Opcua.DecodePlain
import OpcuaGateway.Opcua.Response

namespace OpcuaGateway
namespace Opcua

open Text (Bytes)
open Effect Effect.Action Numeric

section

variable {env : DecodeEnv} {d e : Nat} {α : Type} {a : α} {bytes first rest : Bytes}

/-! ## Recursion and objects -/

theorem uaTypes_reads {i : Nat} {type : UaDataType} (found : env.table.types[i]? = some type) :
    Reads env d [] (uaTypes env i) type :=
  fun ctx h => (meets_of_ok (uaTypes_run found ctx)).mpr ⟨rfl, rfl, h.depth⟩

theorem deeper_takes : Takes env d (d + 1) [] deeper () :=
  fun _ h => ⟨rfl, rfl, congrArg (· + 1) h.depth⟩

theorem shallower_takes : Takes env (d + 1) d [] shallower () :=
  fun _ h => ⟨rfl, rfl, congrArg (· - 1) h.depth⟩

theorem Takes.limit {failed m : Decode α} (hd : d ≤ uaEncodingMaxRecursion)
    (h : Takes env d e bytes m a) :
    Takes env d e bytes
      (Action.current >>= fun ctx => if uaEncodingMaxRecursion < ctx.depth then failed else m) a := by
  refine Takes.current fun ctx hctx => ?_
  rw [if_neg (Nat.not_lt.mpr (hctx.depth ▸ hd))]
  exact h

theorem recursing_reads {limit : α} {level : Decode (UaStatusCode × α)} {r : UaStatusCode × α}
    (hd : d ≤ uaEncodingMaxRecursion) (h : Reads env (d + 1) bytes level r) :
    Reads env d bytes (recursing limit level) r :=
  Takes.limit hd (deeper_takes.bind_nil (h.bind_ret (shallower_takes.bind_nil Takes.pure)))

theorem skipLength_reads (hlength : bytes.length = 4) : Reads env d bytes skipLength () := by
  intro ctx h
  exact ⟨rfl, by rw [hlength], h.depth⟩

theorem text_length {identifier : UaIdentifier} (typed : identifier.Typed) :
    identifier.text.length < 2 ^ 31 := by
  cases identifier with
  | numeric => exact Nat.two_pow_pos 31
  | guid => exact Nat.two_pow_pos 31
  | string text =>
    cases text with
    | none => exact Nat.two_pow_pos 31
    | some text => exact typed text rfl
  | byteString text =>
    cases text with
    | none => exact Nat.two_pow_pos 31
    | some text => exact typed text rfl

theorem nodeIdCopy_reads (hheap : env.heap.Ample) {id : UaAnyNodeId}
    (typed : id.identifier.Typed) : Reads env d [] (nodeIdCopy env id) id := by
  unfold nodeIdCopy
  split_ifs with htext
  · exact Takes.pure
  · have hsize : id.identifier.text.length < 2 ^ 32 := by
      have hshort := text_length typed
      omega
    exact (uaCalloc_reads hheap hsize).bind_nil Takes.pure

section

variable {jump : Nat → UaDataType → Decode (UaStatusCode × UaValue)}

theorem extensionObjectDecodeBinary_reads_encoded (hheap : env.heap.Ample) {encoding : UInt8}
    {typeId : UaAnyNodeId} {body : Option Bytes} (unfound : Unfound env.table encoding typeId)
    (encoded : BodyEncoded encoding body bytes) :
    Reads env d (nodeIdBytes 0 typeId ++ encoding :: bytes) (extensionObjectDecodeBinary env jump)
      (uaStatuscodeGood, .encodedObject encoding typeId body) := by
  have hid : Reads env d (nodeIdBytes 0 typeId) (nodeIdDecodeBinary env)
      (uaStatuscodeGood, typeId) := nodeIdDecodeBinary_reads hheap false false unfound.identifier
  refine hid.bind (Takes.byte (Takes.unless_failed ?_))
  cases encoded with
  | noBody => exact Takes.pure
  | byteString typed =>
    show Reads env d _ (extensionObjectDecodeBinaryContent env jump typeId) _
    unfold extensionObjectDecodeBinaryContent
    rw [unfound.unfound rfl]
    exact (nodeIdCopy_reads hheap unfound.identifier).bind_nil
      ((stringDecodeBinary_reads hheap typed).bind_ret Takes.pure)
  | xml typed => exact (stringDecodeBinary_reads hheap typed).bind_ret Takes.pure

/-- An object that is found by the identifier of its encoding, behind its length. -/
structure ContentReads (env : DecodeEnv) (d i : Nat) (content : UaDataType) (length bytes : Bytes)
    (jump : Nat → UaDataType → Decode (UaStatusCode × UaValue)) (value : UaValue) : Prop where
  found : env.table.types[i]? = some content
  named : env.table.findDataTypeByBinary content.binaryId = some i
  size : content.memSize < 2 ^ 32
  word : length.length = 4
  reads : Reads env d bytes (jump content.jumpIndex content) (uaStatuscodeGood, value)

theorem extensionObjectDecodeBinary_reads_decoded (hheap : env.heap.Ample) {i : Nat}
    {content : UaDataType} {length : Bytes} {value : UaValue}
    (h : ContentReads env d i content length bytes jump value) :
    Reads env d
      (nodeIdBytes 0 content.binaryId ++ uaExtensionobjectEncodedBytestring :: (length ++ bytes))
      (extensionObjectDecodeBinary env jump) (uaStatuscodeGood, .decodedObject i value) := by
  have hid : Reads env d (nodeIdBytes 0 content.binaryId) (nodeIdDecodeBinary env)
      (uaStatuscodeGood, content.binaryId) := nodeIdDecodeBinary_reads hheap false false trivial
  refine hid.bind (Takes.byte (Takes.unless_failed ?_))
  show Reads env d _ (extensionObjectDecodeBinaryContent env jump content.binaryId) _
  unfold extensionObjectDecodeBinaryContent
  rw [h.named]
  refine (uaTypes_reads h.found).bind_nil ((uaCalloc_reads hheap h.size).bind_nil ?_)
  exact (skipLength_reads h.word).bind (h.reads.bind_ret Takes.pure)

/-! ## Variants -/

theorem decodeScalar_reads (hheap : env.heap.Ample) {i : Nat} {type : UaDataType}
    {value : UaValue} (found : env.table.types[i]? = some type) (hsize : type.memSize < 2 ^ 32)
    (h : Reads env d bytes (jump type.jumpIndex type) (uaStatuscodeGood, value)) :
    Reads env d bytes (decodeScalar env jump i) (uaStatuscodeGood, i, value) :=
  (uaTypes_reads found).bind_nil
    ((uaCalloc_reads hheap hsize).bind_nil (h.bind_ret Takes.pure))

theorem variantDecodeBinaryUnwrapExtensionObject_reads_wrapped (hheap : env.heap.Ample) {i : Nat}
    {content : UaDataType} {length : Bytes} {value : UaValue}
    (h : ContentReads env d i content length bytes jump value) :
    Reads env d
      (nodeIdBytes 0 content.binaryId ++ uaExtensionobjectEncodedBytestring :: (length ++ bytes))
      (variantDecodeBinaryUnwrapExtensionObject env jump) (uaStatuscodeGood, i, value) := by
  have hid : Reads env d (nodeIdBytes 0 content.binaryId) (nodeIdDecodeBinary env)
      (uaStatuscodeGood, content.binaryId) := nodeIdDecodeBinary_reads hheap false false trivial
  refine Takes.current fun old _ => ?_
  refine hid.bind (Takes.unless_failed (Takes.byte (Takes.unless_failed ?_)))
  rw [h.named]
  exact (skipLength_reads h.word).bind (decodeScalar_reads hheap h.found h.size h.reads)

theorem variantDecodeBinaryUnwrapExtensionObject_reads_object (hheap : env.heap.Ample)
    {type : UaDataType} {encoding : UInt8} {typeId : UaAnyNodeId} {body : Option Bytes}
    (found : env.table.types[uaTypesExtensionobject]? = some type) (hsize : type.memSize < 2 ^ 32)
    (unfound : Unfound env.table encoding typeId)
    (h : Reads env d (nodeIdBytes 0 typeId ++ encoding :: bytes) (jump type.jumpIndex type)
      (uaStatuscodeGood, .encodedObject encoding typeId body)) :
    Reads env d (nodeIdBytes 0 typeId ++ encoding :: bytes)
      (variantDecodeBinaryUnwrapExtensionObject env jump)
      (uaStatuscodeGood, uaTypesExtensionobject, .encodedObject encoding typeId body) := by
  have hid : Reads env d (nodeIdBytes 0 typeId) (nodeIdDecodeBinary env)
      (uaStatuscodeGood, typeId) := nodeIdDecodeBinary_reads hheap false false unfound.identifier
  have hgood : ¬uaStatuscodeGood ≠ uaStatuscodeGood := not_not.mpr rfl
  intro ctx hctx
  -- the two are read once to look at them, and then again
  have hagain : ∀ ctx' : DecodeCtx, ctx'.depth = d →
      Meets (decodeScalar env jump uaTypesExtensionobject) { ctx' with pos := ctx.pos }
        (fun _ r ctx'' =>
          r = (uaStatuscodeGood, uaTypesExtensionobject, .encodedObject encoding typeId body) ∧
            ctx''.pos = ctx.pos + (nodeIdBytes 0 typeId ++ encoding :: bytes).length ∧
            ctx''.depth = d)
        fun _ _ => False :=
    fun ctx' hd => decodeScalar_reads hheap found hsize h _ ⟨hd, hctx.within, hctx.ahead⟩
  refine Meets.bind (hid.meets_bind hctx fun ctx1 _ hctx1 => ?_)
  dsimp only
  rw [if_neg hgood]
  refine (byteDecodeBinary_reads encoding).meets_bind hctx1 fun ctx2 _ hctx2 => ?_
  dsimp only
  rw [if_neg hgood]
  split
  · rename_i i hi
    have hencoding : ¬encoding = uaExtensionobjectEncodedBytestring := by
      intro hencoding
      rw [unfound.unfound hencoding] at hi
      cases hi
    rw [if_neg hencoding]
    exact Meets.bind (hagain ctx2 hctx2.depth)
  · exact Meets.bind (hagain ctx2 hctx2.depth)

/-- What `variantDecodeBinary` does once it has counted its level. -/
def variantContent (env : DecodeEnv) (jump : Nat → UaDataType → Decode (UaStatusCode × UaValue))
    (encodingByte : UInt8) (typeIndex : Nat) : Decode (UaStatusCode × UaValue) :=
  if encodingByte &&& uaVariantEncodingmasktypeArray ≠ 0 then do
    let type ← uaTypes env typeIndex
    let (ret1, data) ← arrayDecodeBinary env (jump type.jumpIndex type) type
    let (ret2, dimensions) ← decodeDimensions env jump encodingByte
    shallower
    pure (ret1 ||| ret2, .variant (some typeIndex) data dimensions)
  else if typeIndex ≠ uaTypesExtensionobject then do
    let type ← uaTypes env typeIndex
    let granted ← uaCalloc env type.memSize
    if !granted then
      pure (uaStatuscodeBadoutofmemory, .variant (some typeIndex) .nullArray .nullArray)
    else
      let (ret, data) ← jump typeIndex type
      shallower
      pure (ret, .variant (some typeIndex) data .nullArray)
  else do
    let (ret, i, data) ← variantDecodeBinaryUnwrapExtensionObject env jump
    shallower
    pure (ret, .variant (some i) data .nullArray)

/-- What the first byte of a variant says. -/
structure VariantFlags (encodingByte : UInt8) (i : Nat) (array dimensions : Bool) : Prop where
  some : encodingByte ≠ 0
  type : ((encodingByte &&& uaVariantEncodingmasktypeTypeidMask).toNat + (2 ^ 32 - 1)) % 2 ^ 32 = i
  array : encodingByte &&& uaVariantEncodingmasktypeArray ≠ 0 ↔ array = true
  dimensions : encodingByte &&& uaVariantEncodingmasktypeDimensions ≠ 0 ↔ dimensions = true

theorem variantByte_flags {i : Nat} (hi : i < uaBuiltinTypesCount) (array dimensions : Bool) :
    VariantFlags (variantByte i array dimensions) i array dimensions := by
  have hall : ∀ i < uaBuiltinTypesCount, ∀ array dimensions : Bool,
      variantByte i array dimensions ≠ 0 ∧
      ((variantByte i array dimensions &&& uaVariantEncodingmasktypeTypeidMask).toNat +
        (2 ^ 32 - 1)) % 2 ^ 32 = i ∧
      (variantByte i array dimensions &&& uaVariantEncodingmasktypeArray ≠ 0 ↔ array = true) ∧
      (variantByte i array dimensions &&& uaVariantEncodingmasktypeDimensions ≠ 0 ↔
        dimensions = true) := by decide
  obtain ⟨hsome, htype, harray, hdimensions⟩ := hall i hi array dimensions
  exact ⟨hsome, htype, harray, hdimensions⟩

theorem variantDecodeBinary_reads {i : Nat} {array dimensions : Bool} {value : UaValue}
    (hi : i < uaBuiltinTypesCount) (hvariant : i = uaTypesVariant → array = true)
    (hd : d ≤ uaEncodingMaxRecursion)
    (h : Takes env (d + 1) d bytes (variantContent env jump (variantByte i array dimensions) i)
      (uaStatuscodeGood, value)) :
    Reads env d (variantByte i array dimensions :: bytes) (variantDecodeBinary env jump)
      (uaStatuscodeGood, value) := by
  have hflags := variantByte_flags hi array dimensions
  have hbuiltin : ¬uaTypesDiagnosticinfo < i := by
    simp only [uaTypesDiagnosticinfo, uaBuiltinTypesCount] at hi ⊢
    omega
  have hscalar : ¬(i = uaTypesVariant ∧
      ¬variantByte i array dimensions &&& uaVariantEncodingmasktypeArray ≠ 0) :=
    fun hno => hno.2 (hflags.array.mpr (hvariant hno.1))
  refine Takes.byte (Takes.unless_failed ?_)
  dsimp only
  rw [if_neg hflags.some, hflags.type, if_neg hbuiltin, if_neg hscalar]
  exact Takes.limit hd (deeper_takes.bind_nil h)

theorem variantContent_reads_scalar (hheap : env.heap.Ample) {i : Nat} {type : UaDataType}
    {data : UaValue} (hi : i < uaBuiltinTypesCount) (hobject : i ≠ uaTypesExtensionobject)
    (found : env.table.types[i]? = some type) (hsize : type.memSize < 2 ^ 32)
    (h : Reads env (d + 1) bytes (jump i type) (uaStatuscodeGood, data)) :
    Takes env (d + 1) d bytes (variantContent env jump (variantByte i false false) i)
      (uaStatuscodeGood, .variant (some i) data .nullArray) := by
  have hflags := variantByte_flags hi false false
  unfold variantContent
  rw [if_neg (fun h => Bool.false_ne_true (hflags.array.mp h)), if_pos hobject]
  exact (uaTypes_reads found).bind_nil ((uaCalloc_reads hheap hsize).bind_nil
    (h.bind_ret (shallower_takes.bind_nil Takes.pure)))

theorem variantContent_reads_object {i : Nat} {data : UaValue}
    (h : Reads env (d + 1) bytes (variantDecodeBinaryUnwrapExtensionObject env jump)
      (uaStatuscodeGood, i, data)) :
    Takes env (d + 1) d bytes
      (variantContent env jump (variantByte uaTypesExtensionobject false false)
        uaTypesExtensionobject)
      (uaStatuscodeGood, .variant (some i) data .nullArray) :=
  h.bind_ret (shallower_takes.bind_nil Takes.pure)

theorem variantContent_reads_list {i : Nat} {type : UaDataType} {data : UaValue}
    (hi : i < uaBuiltinTypesCount) (found : env.table.types[i]? = some type)
    (h : Reads env (d + 1) bytes (arrayDecodeBinary env (jump type.jumpIndex type) type)
      (uaStatuscodeGood, data)) :
    Takes env (d + 1) d bytes (variantContent env jump (variantByte i true false) i)
      (uaStatuscodeGood, .variant (some i) data .nullArray) := by
  have hflags := variantByte_flags hi true false
  have hnone : Reads env (d + 1) [] (decodeDimensions env jump (variantByte i true false))
      (uaStatuscodeGood, .nullArray) := by
    unfold decodeDimensions
    rw [if_neg fun hbit => Bool.false_ne_true (hflags.dimensions.mp hbit)]
    exact Takes.pure
  unfold variantContent
  rw [if_pos (hflags.array.mpr rfl)]
  exact (uaTypes_reads found).bind_nil
    (h.bind_ret (hnone.bind_nil (shallower_takes.bind_nil Takes.pure)))

theorem variantContent_reads_matrix {i : Nat} {type int32 : UaDataType} {data value : UaValue}
    (hi : i < uaBuiltinTypesCount) (found : env.table.types[i]? = some type)
    (h : Reads env (d + 1) first (arrayDecodeBinary env (jump type.jumpIndex type) type)
      (uaStatuscodeGood, data))
    (foundInt32 : env.table.types[uaTypesInt32]? = some int32)
    (hdimensions : Reads env (d + 1) rest
      (arrayDecodeBinary env (jump int32.jumpIndex int32) int32) (uaStatuscodeGood, value)) :
    Takes env (d + 1) d (first ++ rest) (variantContent env jump (variantByte i true true) i)
      (uaStatuscodeGood, .variant (some i) data value) := by
  have hflags := variantByte_flags hi true true
  have hsome : Reads env (d + 1) rest (decodeDimensions env jump (variantByte i true true))
      (uaStatuscodeGood, value) := by
    unfold decodeDimensions
    rw [if_pos (hflags.dimensions.mpr rfl)]
    exact (uaTypes_reads foundInt32).bind_nil hdimensions
  unfold variantContent
  rw [if_pos (hflags.array.mpr rfl)]
  exact (uaTypes_reads found).bind_nil
    (h.bind (hsome.bind_ret (shallower_takes.bind_nil Takes.pure)))

/-! ## Data values and diagnostics -/

theorem picosecondsDecodeBinary_reads {n : UInt16} (h : n ≤ maxPicoSeconds) :
    Reads env d (toBytes 2 n.toNat) (picosecondsDecodeBinary env) (uaStatuscodeGood, n) := by
  have hn : (if maxPicoSeconds < n then maxPicoSeconds else n) = n :=
    if_neg (UInt16.not_lt.mpr h)
  have hcut : Reads env d [] (pure (uaStatuscodeGood,
      if maxPicoSeconds < n then maxPicoSeconds else n)) (uaStatuscodeGood, n) := by
    rw [hn]
    exact Takes.pure
  exact (uint16DecodeBinary_reads n).bind_ret hcut

/-- What the mask of a data value says. -/
structure DataValueFlags (mask : UInt8) (value status sourceTimestamp serverTimestamp
    sourcePicoseconds serverPicoseconds : Bool) : Prop where
  value : mask &&& 0x01 ≠ 0 ↔ value = true
  status : mask &&& 0x02 ≠ 0 ↔ status = true
  sourceTimestamp : mask &&& 0x04 ≠ 0 ↔ sourceTimestamp = true
  serverTimestamp : mask &&& 0x08 ≠ 0 ↔ serverTimestamp = true
  sourcePicoseconds : mask &&& 0x10 ≠ 0 ↔ sourcePicoseconds = true
  serverPicoseconds : mask &&& 0x20 ≠ 0 ↔ serverPicoseconds = true

theorem dataValueMask_flags (value status sourceTimestamp serverTimestamp sourcePicoseconds
    serverPicoseconds : Bool) :
    DataValueFlags (dataValueMask value status sourceTimestamp serverTimestamp sourcePicoseconds
      serverPicoseconds) value status sourceTimestamp serverTimestamp sourcePicoseconds
      serverPicoseconds := by
  have hall : ∀ a b c d e f : Bool,
      (dataValueMask a b c d e f &&& 0x01 ≠ 0 ↔ a = true) ∧
      (dataValueMask a b c d e f &&& 0x02 ≠ 0 ↔ b = true) ∧
      (dataValueMask a b c d e f &&& 0x04 ≠ 0 ↔ c = true) ∧
      (dataValueMask a b c d e f &&& 0x08 ≠ 0 ↔ d = true) ∧
      (dataValueMask a b c d e f &&& 0x10 ≠ 0 ↔ e = true) ∧
      (dataValueMask a b c d e f &&& 0x20 ≠ 0 ↔ f = true) := by decide
  obtain ⟨h1, h2, h3, h4, h5, h6⟩ := hall value status sourceTimestamp serverTimestamp
    sourcePicoseconds serverPicoseconds
  exact ⟨h1, h2, h3, h4, h5, h6⟩

theorem dataValueDecodeBinary_reads {value : Option UaValue} {status : Option UInt32}
    {sourceTimestamp serverTimestamp : Option UInt64}
    {sourcePicoseconds serverPicoseconds : Option UInt16} (hd : d ≤ uaEncodingMaxRecursion)
    (hvalue : Reads env (d + 1) bytes
      (announced (dataValueMask value.isSome status.isSome sourceTimestamp.isSome
          serverTimestamp.isSome sourcePicoseconds.isSome serverPicoseconds.isSome) 0x01
        (variantDecodeBinary env jump)) (uaStatuscodeGood, value))
    (source : ∀ n, sourcePicoseconds = some n → n ≤ maxPicoSeconds)
    (server : ∀ n, serverPicoseconds = some n → n ≤ maxPicoSeconds) :
    Reads env d
      (dataValueMask value.isSome status.isSome sourceTimestamp.isSome serverTimestamp.isSome
          sourcePicoseconds.isSome serverPicoseconds.isSome ::
        (bytes ++ (optionBytes (fun n => toBytes 4 n.toNat) status ++
          (optionBytes (fun n => toBytes 8 n.toNat) sourceTimestamp ++
            (optionBytes (fun n => toBytes 2 n.toNat) sourcePicoseconds ++
              (optionBytes (fun n => toBytes 8 n.toNat) serverTimestamp ++
                optionBytes (fun n => toBytes 2 n.toNat) serverPicoseconds))))))
      (dataValueDecodeBinary env jump)
      (uaStatuscodeGood,
        .dataValue value status sourceTimestamp sourcePicoseconds serverTimestamp
          serverPicoseconds) := by
  have hflags := dataValueMask_flags value.isSome status.isSome sourceTimestamp.isSome
    serverTimestamp.isSome sourcePicoseconds.isSome serverPicoseconds.isSome
  refine Takes.byte (Takes.unless_failed (recursing_reads hd ?_))
  exact hvalue.bind
    ((announced_reads hflags.status fun n _ => uint32DecodeBinary_reads n).bind
    ((announced_reads hflags.sourceTimestamp fun n _ => uint64DecodeBinary_reads n).bind
    ((announced_reads hflags.sourcePicoseconds fun n hn =>
      picosecondsDecodeBinary_reads (source n hn)).bind
    ((announced_reads hflags.serverTimestamp fun n _ => uint64DecodeBinary_reads n).bind
    ((announced_reads hflags.serverPicoseconds fun n hn =>
      picosecondsDecodeBinary_reads (server n hn)).bind_ret Takes.pure)))))

/-- What the mask of a `DiagnosticInfo` says.  It announces no inner parts. -/
structure DiagnosticFlags (mask : UInt8)
    (symbolicId namespaceUri localizedText locale additionalInfo : Bool) : Prop where
  symbolicId : mask &&& 0x01 ≠ 0 ↔ symbolicId = true
  namespaceUri : mask &&& 0x02 ≠ 0 ↔ namespaceUri = true
  localizedText : mask &&& 0x04 ≠ 0 ↔ localizedText = true
  locale : mask &&& 0x08 ≠ 0 ↔ locale = true
  additionalInfo : mask &&& 0x10 ≠ 0 ↔ additionalInfo = true
  innerStatusCode : ¬mask &&& 0x20 ≠ 0
  innerDiagnosticInfo : ¬mask &&& 0x40 ≠ 0

theorem diagnosticMask_flags (symbolicId namespaceUri localizedText locale additionalInfo : Bool) :
    DiagnosticFlags (diagnosticMask symbolicId namespaceUri localizedText locale additionalInfo)
      symbolicId namespaceUri localizedText locale additionalInfo := by
  have hall : ∀ a b c d e : Bool,
      (diagnosticMask a b c d e &&& 0x01 ≠ 0 ↔ a = true) ∧
      (diagnosticMask a b c d e &&& 0x02 ≠ 0 ↔ b = true) ∧
      (diagnosticMask a b c d e &&& 0x04 ≠ 0 ↔ c = true) ∧
      (diagnosticMask a b c d e &&& 0x08 ≠ 0 ↔ d = true) ∧
      (diagnosticMask a b c d e &&& 0x10 ≠ 0 ↔ e = true) ∧
      (¬diagnosticMask a b c d e &&& 0x20 ≠ 0) ∧
      (¬diagnosticMask a b c d e &&& 0x40 ≠ 0) := by decide
  obtain ⟨h1, h2, h3, h4, h5, h6, h7⟩ :=
    hall symbolicId namespaceUri localizedText locale additionalInfo
  exact ⟨h1, h2, h3, h4, h5, h6, h7⟩

theorem innerDiagnosticInfoDecodeBinary_reads_none {type : UaDataType} {mask : UInt8}
    {outer : UaStatusCode} (hmask : ¬mask &&& 0x40 ≠ 0) :
    Reads env d [] (innerDiagnosticInfoDecodeBinary env jump type mask outer) (outer, none) := by
  rw [innerDiagnosticInfoDecodeBinary, if_neg hmask]
  exact Takes.pure

theorem diagnosticInfoDecodeBinary_reads (hheap : env.heap.Ample) {type : UaDataType}
    {symbolicId namespaceUri localizedText locale : Option UInt32}
    {additionalInfo : Option (Option Bytes)}
    (typed : ∀ text, additionalInfo = some text → TextTyped text) :
    Reads env d
      (diagnosticMask symbolicId.isSome namespaceUri.isSome localizedText.isSome locale.isSome
          additionalInfo.isSome ::
        (optionBytes (fun n => toBytes 4 n.toNat) symbolicId ++
          (optionBytes (fun n => toBytes 4 n.toNat) namespaceUri ++
            (optionBytes (fun n => toBytes 4 n.toNat) localizedText ++
              (optionBytes (fun n => toBytes 4 n.toNat) locale ++
                optionBytes textBytes additionalInfo)))))
      (diagnosticInfoDecodeBinary env jump type)
      (uaStatuscodeGood,
        .diagnosticInfo symbolicId namespaceUri localizedText locale additionalInfo none none) := by
  have hflags := diagnosticMask_flags symbolicId.isSome namespaceUri.isSome localizedText.isSome
    locale.isSome additionalInfo.isSome
  refine Takes.byte (Takes.unless_failed ?_)
  refine (announced_reads hflags.symbolicId fun n _ => uint32DecodeBinary_reads n).bind
    ((announced_reads hflags.namespaceUri fun n _ => uint32DecodeBinary_reads n).bind
    ((announced_reads hflags.localizedText fun n _ => uint32DecodeBinary_reads n).bind
    ((announced_reads hflags.locale fun n _ => uint32DecodeBinary_reads n).bind
    ((announced_reads hflags.additionalInfo fun text htext =>
      stringDecodeBinary_reads hheap (typed text htext)).bind_ret
    ((announced_reads_none hflags.innerStatusCode).bind_nil
    ((innerDiagnosticInfoDecodeBinary_reads_none hflags.innerDiagnosticInfo).bind_nil
      Takes.pure))))))

/-! ## Elements and members -/

theorem decodeElements_reads_cons {element : Decode (UaStatusCode × UaValue)} {n : Nat}
    {value : UaValue} {values : List UaValue}
    (h : Reads env d first element (uaStatuscodeGood, value))
    (hs : Reads env d rest (decodeElements element n) (uaStatuscodeGood, values)) :
    Reads env d (first ++ rest) (decodeElements element (n + 1))
      (uaStatuscodeGood, value :: values) :=
  h.bind (Takes.unless_failed (hs.bind_ret Takes.pure))

theorem decodeMembers_reads_cons {member : UaDataTypeMember} {type : UaDataType}
    {members : List UaDataTypeMember} {value : UaValue} {values : List UaValue}
    (found : env.table.types[member.memberTypeIndex]? = some type)
    (h : Reads env d first
      (if member.isArray then arrayDecodeBinary env (jump type.jumpIndex type) type
        else jump type.jumpIndex type) (uaStatuscodeGood, value))
    (hs : Reads env d rest (decodeMembers env jump members) (uaStatuscodeGood, values)) :
    Reads env d (first ++ rest) (decodeMembers env jump (member :: members))
      (uaStatuscodeGood, value :: values) := by
  refine (uaTypes_reads found).bind_nil ?_
  dsimp only
  split_ifs at h ⊢
  · exact h.bind (Takes.unless_failed (hs.bind_ret Takes.pure))
  · exact h.bind (Takes.unless_failed (hs.bind_ret Takes.pure))

end

/-! ## Values -/

/-- The message can be decoded: there is memory, and no object is larger than it can be. -/
structure DecodeEnv.Roomy (env : DecodeEnv) : Prop where
  heap : env.heap.Ample
  sizes : ∀ type ∈ env.table.types, type.memSize < 2 ^ 32

theorem DecodeEnv.Roomy.size (h : env.Roomy) {i : Nat} {type : UaDataType}
    (found : env.table.types[i]? = some type) : type.memSize < 2 ^ 32 :=
  h.sizes type (List.mem_of_getElem? found)

theorem levels_le (type : UaDataType) (d : Nat) :
    levels type d ≤ 2 * (uaEncodingMaxRecursion + 2 - d) := by
  unfold levels
  split_ifs <;> omega

theorem fuel_eq_succ {type : UaDataType} {fuel : Nat} (hd : d ≤ uaEncodingMaxRecursion + 1)
    (h : levels type d ≤ fuel) : ∃ k, fuel = k + 1 := by
  cases fuel with
  | zero =>
    unfold levels at h
    split_ifs at h <;> omega
  | succ k => exact ⟨k, rfl⟩

/-- A level of the jump table is enough for one of recursion. -/
theorem levels_deeper {type : UaDataType} {fuel : Nat} (h : levels type d ≤ fuel + 1) :
    2 * (uaEncodingMaxRecursion + 2 - (d + 1)) ≤ fuel := by
  unfold levels at h
  split_ifs at h <;> omega

/-- An extension object goes on with its content at the same depth. -/
theorem levels_content {type content : UaDataType} {fuel : Nat} (hindex : type.jumpIndex = 21)
    (hgenerated : content.builtin = false) (h : levels type d ≤ fuel + 1) :
    levels content d ≤ fuel := by
  have hcontent : content.jumpIndex = 25 := by
    rw [UaDataType.jumpIndex, if_neg (Bool.eq_false_iff.mp hgenerated)]
    rfl
  have hobject : ¬(type.jumpIndex = 0 ∨ type.jumpIndex = 25) := by omega
  unfold levels at h ⊢
  rw [if_neg hobject] at h
  rw [if_pos (Or.inr hcontent)]
  omega

/-- The jump table reads the bytes as the value, if it has a level for each of recursion. -/
def ReadsValue (env : DecodeEnv) (d : Nat) (type : UaDataType) (value : UaValue) (bytes : Bytes) :
    Prop :=
  d ≤ uaEncodingMaxRecursion + 1 → ∀ fuel, levels type d ≤ fuel →
    Reads env d bytes (decodeBinaryJumpTable env fuel type.jumpIndex type)
      (uaStatuscodeGood, value)

def ReadsVariant (env : DecodeEnv) (d : Nat) (value : UaValue) (bytes : Bytes) : Prop :=
  d ≤ uaEncodingMaxRecursion + 1 → ∀ fuel, 2 * (uaEncodingMaxRecursion + 2 - (d + 1)) ≤ fuel →
    Reads env d bytes (variantDecodeBinary env (decodeBinaryJumpTable env fuel))
      (uaStatuscodeGood, value)

def ReadsOption (env : DecodeEnv) (d : Nat) (value : Option UaValue) (bytes : Bytes) : Prop :=
  d ≤ uaEncodingMaxRecursion + 1 → ∀ mask fuel,
    2 * (uaEncodingMaxRecursion + 2 - (d + 1)) ≤ fuel →
    (mask &&& 0x01 ≠ 0 ↔ value.isSome = true) →
    Reads env d bytes
      (announced mask 0x01 (variantDecodeBinary env (decodeBinaryJumpTable env fuel)))
      (uaStatuscodeGood, value)

def ReadsArray (env : DecodeEnv) (d : Nat) (type : UaDataType) (value : UaValue) (bytes : Bytes) :
    Prop :=
  d ≤ uaEncodingMaxRecursion + 1 → ∀ fuel, levels type d ≤ fuel →
    Reads env d bytes
      (arrayDecodeBinary env (decodeBinaryJumpTable env fuel type.jumpIndex type) type)
      (uaStatuscodeGood, value)

def ReadsElements (env : DecodeEnv) (d : Nat) (type : UaDataType) (values : List UaValue)
    (bytes : Bytes) : Prop :=
  d ≤ uaEncodingMaxRecursion + 1 → ∀ fuel, levels type d ≤ fuel →
    Reads env d bytes
      (decodeElements (decodeBinaryJumpTable env fuel type.jumpIndex type) values.length)
      (uaStatuscodeGood, values)

def ReadsMembers (env : DecodeEnv) (d : Nat) (members : List UaDataTypeMember)
    (values : List UaValue) (bytes : Bytes) : Prop :=
  d ≤ uaEncodingMaxRecursion + 1 → ∀ fuel, 2 * (uaEncodingMaxRecursion + 2 - d) ≤ fuel →
    Reads env d bytes (decodeMembers env (decodeBinaryJumpTable env fuel) members)
      (uaStatuscodeGood, values)

theorem ReadsValue.plain (henv : env.Roomy) {type : UaDataType} {value : UaValue}
    (typed : PlainTyped type.jumpIndex value) (expanded : value.Expanded) :
    ReadsValue env d type value (plainBytes value) := by
  intro hd fuel hfuel
  obtain ⟨fuel, rfl⟩ := fuel_eq_succ hd hfuel
  exact decodeBinaryJumpTable_reads_plain henv.heap typed expanded

theorem ReadsValue.struct {type : UaDataType} {values : List UaValue}
    (index : type.jumpIndex = 19 ∨ type.jumpIndex = 25) (limit : d ≤ uaEncodingMaxRecursion)
    (h : ReadsMembers env (d + 1) type.members values bytes) :
    ReadsValue env d type (.struct values) bytes := by
  intro hd fuel hfuel
  obtain ⟨fuel, rfl⟩ := fuel_eq_succ hd hfuel
  have hinternal : Reads env d bytes
      (decodeBinaryInternal env (decodeBinaryJumpTable env fuel) type)
      (uaStatuscodeGood, .struct values) :=
    recursing_reads limit ((h (Nat.succ_le_succ limit) fuel (levels_deeper hfuel)).bind_ret
      Takes.pure)
  rcases index with index | index
  · rw [index]
    exact hinternal
  · rw [index]
    exact hinternal

theorem ReadsValue.encodedObject (henv : env.Roomy) {type : UaDataType} {encoding : UInt8}
    {typeId : UaAnyNodeId} {body : Option Bytes} (index : type.jumpIndex = 21)
    (unfound : Unfound env.table encoding typeId) (encoded : BodyEncoded encoding body bytes) :
    ReadsValue env d type (.encodedObject encoding typeId body)
      (nodeIdBytes 0 typeId ++ encoding :: bytes) := by
  intro hd fuel hfuel
  obtain ⟨fuel, rfl⟩ := fuel_eq_succ hd hfuel
  rw [index]
  exact extensionObjectDecodeBinary_reads_encoded henv.heap unfound encoded

theorem ReadsValue.decodedObject (henv : env.Roomy) {i : Nat} {type content : UaDataType}
    {values : List UaValue} {length : Bytes} (index : type.jumpIndex = 21)
    (found : env.table.types[i]? = some content)
    (named : env.table.findDataTypeByBinary content.binaryId = some i)
    (generated : content.builtin = false) (word : length.length = 4)
    (h : ReadsValue env d content (.struct values) bytes) :
    ReadsValue env d type (.decodedObject i (.struct values))
      (nodeIdBytes 0 content.binaryId ++
        uaExtensionobjectEncodedBytestring :: (length ++ bytes)) := by
  intro hd fuel hfuel
  obtain ⟨fuel, rfl⟩ := fuel_eq_succ hd hfuel
  rw [index]
  exact extensionObjectDecodeBinary_reads_decoded henv.heap
    ⟨found, named, henv.size found, word, h hd fuel (levels_content index generated hfuel)⟩

theorem ReadsValue.variant {type : UaDataType} {value : UaValue} (index : type.jumpIndex = 23)
    (h : ReadsVariant env d value bytes) : ReadsValue env d type value bytes := by
  intro hd fuel hfuel
  obtain ⟨fuel, rfl⟩ := fuel_eq_succ hd hfuel
  rw [index]
  exact h hd fuel (levels_deeper hfuel)

theorem ReadsVariant.scalar (henv : env.Roomy) {i : Nat} {type : UaDataType} {data : UaValue}
    (builtin : i < uaBuiltinTypesCount) (plain : i ≠ uaTypesVariant ∧ i ≠ uaTypesExtensionobject)
    (found : env.table.types[i]? = some type) (limit : d ≤ uaEncodingMaxRecursion)
    (h : ReadsValue env (d + 1) type data bytes) :
    ReadsVariant env d (.variant (some i) data .nullArray) (variantByte i false false :: bytes) := by
  intro _ fuel hfuel
  have hdata := h (Nat.succ_le_succ limit) fuel (Nat.le_trans (levels_le _ _) hfuel)
  rw [jumpIndex_builtin builtin found] at hdata
  exact variantDecodeBinary_reads builtin (fun hno => absurd hno plain.1) limit
    (variantContent_reads_scalar henv.heap builtin plain.2 found (henv.size found) hdata)

/-- An object that is not found is read again as an object of its own. -/
theorem ReadsVariant.object (henv : env.Roomy) {type : UaDataType} {encoding : UInt8}
    {typeId : UaAnyNodeId} {body : Option Bytes} (limit : d ≤ uaEncodingMaxRecursion)
    (found : env.table.types[uaTypesExtensionobject]? = some type)
    (unfound : Unfound env.table encoding typeId) (encoded : BodyEncoded encoding body bytes) :
    ReadsVariant env d
      (.variant (some uaTypesExtensionobject) (.encodedObject encoding typeId body) .nullArray)
      (variantByte uaTypesExtensionobject false false ::
        (nodeIdBytes 0 typeId ++ encoding :: bytes)) := by
  intro _ fuel hfuel
  have hindex : type.jumpIndex = 21 := jumpIndex_builtin (by decide) found
  have hdata := ReadsValue.encodedObject henv hindex unfound encoded (Nat.succ_le_succ limit) fuel
    (Nat.le_trans (levels_le _ _) hfuel)
  exact variantDecodeBinary_reads (by decide) (fun hno => absurd hno (by decide)) limit
    (variantContent_reads_object (variantDecodeBinaryUnwrapExtensionObject_reads_object henv.heap
      found (henv.size found) unfound hdata))

theorem ReadsVariant.wrapped (henv : env.Roomy) {i : Nat} {content : UaDataType}
    {values : List UaValue} {length : Bytes} (limit : d ≤ uaEncodingMaxRecursion)
    (found : env.table.types[i]? = some content)
    (named : env.table.findDataTypeByBinary content.binaryId = some i) (word : length.length = 4)
    (h : ReadsValue env (d + 1) content (.struct values) bytes) :
    ReadsVariant env d (.variant (some i) (.struct values) .nullArray)
      (variantByte uaTypesExtensionobject false false ::
        (nodeIdBytes 0 content.binaryId ++
          uaExtensionobjectEncodedBytestring :: (length ++ bytes))) := by
  intro _ fuel hfuel
  have hdata := h (Nat.succ_le_succ limit) fuel (Nat.le_trans (levels_le _ _) hfuel)
  exact variantDecodeBinary_reads (by decide) (fun hno => absurd hno (by decide)) limit
    (variantContent_reads_object (variantDecodeBinaryUnwrapExtensionObject_reads_wrapped henv.heap
      ⟨found, named, henv.size found, word, hdata⟩))

theorem ReadsVariant.array {i : Nat} {type : UaDataType} {data : UaValue}
    (builtin : i < uaBuiltinTypesCount) (found : env.table.types[i]? = some type)
    (limit : d ≤ uaEncodingMaxRecursion) (h : ReadsArray env (d + 1) type data bytes) :
    ReadsVariant env d (.variant (some i) data .nullArray) (variantByte i true false :: bytes) := by
  intro _ fuel hfuel
  have hdata := h (Nat.succ_le_succ limit) fuel (Nat.le_trans (levels_le _ _) hfuel)
  exact variantDecodeBinary_reads builtin (fun _ => rfl) limit
    (variantContent_reads_list builtin found hdata)

theorem ReadsVariant.matrix {i length : Nat} {type int32 : UaDataType} {data : UaValue}
    {memory dimensions : Bytes} (builtin : i < uaBuiltinTypesCount)
    (found : env.table.types[i]? = some type) (limit : d ≤ uaEncodingMaxRecursion)
    (h : ReadsArray env (d + 1) type data bytes)
    (foundInt32 : env.table.types[uaTypesInt32]? = some int32)
    (hs : ReadsArray env (d + 1) int32 (.overlayableArray length memory) dimensions) :
    ReadsVariant env d (.variant (some i) data (.overlayableArray length memory))
      (variantByte i true true :: (bytes ++ dimensions)) := by
  intro _ fuel hfuel
  have hdata := h (Nat.succ_le_succ limit) fuel (Nat.le_trans (levels_le _ _) hfuel)
  have hdimensions := hs (Nat.succ_le_succ limit) fuel (Nat.le_trans (levels_le _ _) hfuel)
  exact variantDecodeBinary_reads builtin (fun _ => rfl) limit
    (variantContent_reads_matrix builtin found hdata foundInt32 hdimensions)

theorem ReadsOption.some {value : UaValue} (h : ReadsVariant env d value bytes) :
    ReadsOption env d (some value) bytes := by
  intro hd mask fuel hfuel hmask
  rw [announced, if_pos (hmask.mpr rfl)]
  exact (h hd fuel hfuel).bind_ret Takes.pure

theorem ReadsMembers.scalar {member : UaDataTypeMember} {type : UaDataType}
    {members : List UaDataTypeMember} {value : UaValue} {values : List UaValue}
    (single : member.isArray = false) (found : env.table.types[member.memberTypeIndex]? = some type)
    (h : ReadsValue env d type value first) (hs : ReadsMembers env d members values rest) :
    ReadsMembers env d (member :: members) (value :: values) (first ++ rest) := by
  intro hd fuel hfuel
  refine decodeMembers_reads_cons found ?_ (hs hd fuel hfuel)
  rw [if_neg (Bool.eq_false_iff.mp single)]
  exact h hd fuel (Nat.le_trans (levels_le _ _) hfuel)

theorem ReadsMembers.array {member : UaDataTypeMember} {type : UaDataType}
    {members : List UaDataTypeMember} {value : UaValue} {values : List UaValue}
    (several : member.isArray = true) (found : env.table.types[member.memberTypeIndex]? = some type)
    (h : ReadsArray env d type value first) (hs : ReadsMembers env d members values rest) :
    ReadsMembers env d (member :: members) (value :: values) (first ++ rest) := by
  intro hd fuel hfuel
  refine decodeMembers_reads_cons found ?_ (hs hd fuel hfuel)
  rw [if_pos several]
  exact h hd fuel (Nat.le_trans (levels_le _ _) hfuel)

/-- Encoded members are read, by induction on how their values are encoded: one case for each
way to encode a value, a variant, an array, its elements and some members. -/
theorem MembersEncoded.reads (henv : env.Roomy) {members : List UaDataTypeMember}
    {values : List UaValue} (h : MembersEncoded env.table filledArray d members values bytes) :
    ReadsMembers env d members values bytes := by
  refine @MembersEncoded.rec env.table filledArray
    (fun d type value bytes _ => ReadsValue env d type value bytes)
    (fun d value bytes _ => ReadsVariant env d value bytes)
    (fun d value bytes _ => ReadsOption env d value bytes)
    (fun d type value bytes _ => ReadsArray env d type value bytes)
    (fun d type values bytes _ => ReadsElements env d type values bytes)
    (fun d members values bytes _ => ReadsMembers env d members values bytes)
    (ReadsValue.plain henv) (fun index limit _ => ReadsValue.struct index limit)
    (ReadsValue.encodedObject henv)
    (fun index found named generated word _ =>
      ReadsValue.decodedObject henv index found named generated word)
    ?dataValue (fun index _ => ReadsValue.variant index) ?diagnosticInfo ?emptyVariant
    (fun builtin plain found limit _ => ReadsVariant.scalar henv builtin plain found limit)
    (ReadsVariant.object henv)
    (fun limit found named _ word _ => ReadsVariant.wrapped henv limit found named word)
    (fun builtin found limit _ => ReadsVariant.array builtin found limit)
    (fun builtin found limit _ foundInt32 _ ih =>
      ReadsVariant.matrix builtin found limit ih foundInt32)
    ?none (fun _ => ReadsOption.some) ?nullArray ?emptyArray ?overlayable ?elements ?nilElements
    ?consElements ?nilMembers (fun single found _ _ => ReadsMembers.scalar single found)
    (fun several found _ _ => ReadsMembers.array several found) d members values bytes h
  case dataValue =>
    intro d type value bytes status sourceTimestamp serverTimestamp sourcePicoseconds
      serverPicoseconds index limit _ source server ih hd fuel hfuel
    obtain ⟨fuel, rfl⟩ := fuel_eq_succ hd hfuel
    have hdeeper := levels_deeper hfuel
    rw [index]
    refine dataValueDecodeBinary_reads limit ?_ source server
    exact ih (Nat.succ_le_succ limit) _ fuel (by omega) (dataValueMask_flags _ _ _ _ _ _).value
  case diagnosticInfo =>
    intro d type symbolicId namespaceUri localizedText locale additionalInfo index typed hd fuel
      hfuel
    obtain ⟨fuel, rfl⟩ := fuel_eq_succ hd hfuel
    rw [index]
    exact diagnosticInfoDecodeBinary_reads henv.heap typed
  case emptyVariant =>
    intro d _ fuel _
    exact Takes.byte Takes.pure
  case none =>
    intro d _ mask fuel _ hmask
    exact announced_reads_none fun hbit => Bool.false_ne_true (hmask.mp hbit)
  case nullArray =>
    intro d type _ fuel _
    exact arrayDecodeBinary_reads_null
  case emptyArray =>
    intro d type _ fuel _
    exact arrayDecodeBinary_reads_empty
  case overlayable =>
    intro d length type memory overlayable room filled whole _ fuel _
    exact arrayDecodeBinary_reads henv.heap room filled
      (arrayContent_reads_overlayable overlayable room whole)
  case elements =>
    intro d type values bytes complex room filled _ ih hd fuel hfuel
    exact arrayDecodeBinary_reads henv.heap room filled
      (arrayContent_reads_elements complex (ih hd fuel hfuel))
  case nilElements =>
    intro d type _ fuel _
    exact Takes.pure
  case consElements =>
    intro d type value values first rest _ _ ih ihOthers hd fuel hfuel
    exact decodeElements_reads_cons (ih hd fuel hfuel) (ihOthers hd fuel hfuel)
  case nilMembers =>
    intro d _ fuel _
    exact Takes.pure

end

/-! ## `UA_decodeBinary` -/

theorem Takes.final {env : DecodeEnv} {d e : Nat} {α : Type} {a : α} {bytes : Bytes} {m : Decode α}
    {ctx : DecodeCtx} (h : Takes env d e bytes m a) (hctx : ctx.Facing env d bytes) :
    ∃ ctx', (m.run ctx).final? = some (a, ctx') ∧ ctx'.pos = ctx.pos + bytes.length := by
  have hmeets := h ctx hctx
  unfold Meets at hmeets
  split at hmeets
  · rename_i a' ctx' hexit
    obtain ⟨rfl, hpos, -⟩ := hmeets
    exact ⟨ctx', by rw [Run.final?, hexit]; rfl, hpos⟩
  · exact hmeets.elim

/-- Encoded members are read from where they stand in a message. -/
theorem MembersEncoded.decoded {env : DecodeEnv} (henv : env.Roomy) {type : UaDataType}
    {values : List UaValue} {before bytes behind : Bytes}
    (h : MembersEncoded env.table filledArray 1 type.members values bytes)
    (hmessage : env.message = before ++ (bytes ++ behind)) :
    ∃ ctx, ((decodeBinaryInternal env (decodeBinaryJumpTable env decodeFuel) type).run
        { pos := before.length, depth := 0, requests := 0 }).final? =
      some ((uaStatuscodeGood, .struct values), ctx) ∧ ctx.pos = before.length + bytes.length := by
  have hstart : DecodeCtx.Facing env 0 bytes { pos := before.length, depth := 0, requests := 0 } := by
    refine ⟨rfl, ?_, ?_⟩
    · rw [hmessage, List.length_append]
      exact Nat.le_add_right _ _
    · show bytes <+: env.message.drop before.length
      rw [hmessage, List.drop_left]
      exact List.prefix_append _ _
  have hmembers := h.reads henv (by decide) decodeFuel (by decide)
  have hinternal : Reads env 0 bytes
      (decodeBinaryInternal env (decodeBinaryJumpTable env decodeFuel) type)
      (uaStatuscodeGood, .struct values) :=
    recursing_reads (Nat.zero_le _) (hmembers.bind_ret Takes.pure)
  exact hinternal.final hstart

theorem uaDecodeBinary_of_internal {env : DecodeEnv} {type : UaDataType} {value : UaValue}
    {offset : Nat} {ctx : DecodeCtx}
    (h : ((decodeBinaryInternal env (decodeBinaryJumpTable env decodeFuel) type).run
        { pos := offset, depth := 0, requests := 0 }).final? =
      some ((uaStatuscodeGood, value), ctx)) :
    (uaDecodeBinary env offset type).final? =
      some ((uaStatuscodeGood, some (value, ctx.pos)), ctx) := by
  unfold uaDecodeBinary decodeValue
  rw [bind_final?, h]
  rfl

/-- Wherever an encoded value with filled arrays stands in a message, it is decoded as that
value, and nothing behind it is looked at. -/
theorem uaDecodeBinary_encoded {env : DecodeEnv} (henv : env.Roomy) {type : UaDataType}
    {values : List UaValue} {before bytes behind : Bytes}
    (h : MembersEncoded env.table filledArray 1 type.members values bytes)
    (hmessage : env.message = before ++ (bytes ++ behind)) :
    ∃ ctx, (uaDecodeBinary env before.length type).final? =
      some ((uaStatuscodeGood, some (.struct values, before.length + bytes.length)), ctx) := by
  obtain ⟨ctx, hfinal, hpos⟩ := h.decoded henv hmessage
  rw [← hpos]
  exact ⟨ctx, uaDecodeBinary_of_internal hfinal⟩

/-! ## An encoded response -/

theorem uaTypesTable_sizes : ∀ type ∈ uaTypesTable.types, type.memSize < 2 ^ 32 := by
  intro type htype
  obtain ⟨i, -, rfl⟩ := List.mem_map.mp htype
  unfold tableEntry
  split_ifs with hbuiltin
  · have hall : ∀ i < uaBuiltinTypesCount, (builtinType i).memSize < 2 ^ 32 := by decide
    exact hall i hbuiltin
  · rcases generatedType_cases i with hmem | heq
    · have hall : ∀ type ∈ generatedTypes, type.memSize < 2 ^ 32 := by decide +kernel
      exact hall _ hmem
    · rw [heq]
      exact Nat.two_pow_pos 32

theorem ampleHeap_ample : ampleHeap.Ample := fun _ _ h => decide_eq_true h

/-- A response with one value. -/
def responseValues (value : UaValue) : List UaValue :=
  [.struct [.uint64 0, .uint32 1, .uint32 0, .diagnosticInfo none none none none none none none,
      .nullArray, .encodedObject 0 .null none],
    .array [.dataValue (some value) none none none none none], .nullArray]

def responseHeaderBytes : Bytes :=
  [0, 0, 0, 0, 0, 0, 0, 0] ++ [1, 0, 0, 0] ++ [0, 0, 0, 0] ++ [0] ++ [255, 255, 255, 255] ++
    [0, 0, 0]

def responseBytes (bytes : Bytes) : Bytes :=
  responseHeaderBytes ++ ([1, 0, 0, 0] ++ 1 :: bytes ++ [255, 255, 255, 255])

theorem tableEntry_found {i : Nat} (hi : i < uaTypesCount) :
    uaTypesTable.types[i]? = some (tableEntry i) := uaTypesTable_getElem? hi

theorem responseHeader_encoded (admits : ArrayFilter) :
    MembersEncoded uaTypesTable admits 2 responseHeaderType.members
      [.uint64 0, .uint32 1, .uint32 0, .diagnosticInfo none none none none none none none,
        .nullArray, .encodedObject 0 .null none] responseHeaderBytes := by
  obtain ⟨bytes, hheader, rfl⟩ :
      ∃ bytes, MembersEncoded uaTypesTable admits 2 responseHeaderType.members
        [.uint64 0, .uint32 1, .uint32 0, .diagnosticInfo none none none none none none none,
          .nullArray, .encodedObject 0 .null none] bytes ∧ bytes = responseHeaderBytes :=
    ⟨_, .scalar rfl (tableEntry_found (by decide)) (.plain trivial trivial)
      (.scalar rfl (tableEntry_found (by decide)) (.plain trivial trivial)
        (.scalar rfl (tableEntry_found (by decide)) (.plain trivial trivial)
          (.scalar rfl (tableEntry_found (by decide)) (.diagnosticInfo rfl nofun)
            (.array rfl (tableEntry_found (by decide)) (.null _ _)
              (.scalar rfl (tableEntry_found (by decide))
                (.encodedObject rfl ⟨trivial, nofun⟩ .noBody) (.nil _)))))), by decide⟩
  exact hheader

/-- A response of some data values. -/
theorem results_encoded {admits : ArrayFilter} (values : List UaValue) {bytes : Bytes}
    (hroom : ArrayRoom (tableEntry 22) values.length)
    (hadmitted : admits (tableEntry 22) values.length bytes)
    (h : ElementsEncoded uaTypesTable admits 1 (tableEntry 22) values bytes) :
    MembersEncoded uaTypesTable admits 1 readResponseType.members
      [.struct [.uint64 0, .uint32 1, .uint32 0,
          .diagnosticInfo none none none none none none none, .nullArray,
          .encodedObject 0 .null none], .array values, .nullArray]
      (responseHeaderBytes ++ (toBytes 4 values.length ++ bytes ++ [255, 255, 255, 255])) := by
  have hmembers : MembersEncoded uaTypesTable admits 1 readResponseType.members _ _ :=
    .scalar rfl (tableEntry_found (by decide))
      (.struct (Or.inr rfl) (by decide) (responseHeader_encoded admits))
      (.array rfl (tableEntry_found (by decide)) (.elements (by decide) hroom hadmitted h)
        (.array rfl (tableEntry_found (by decide)) (.null _ _) (.nil _)))
  have hnull : toBytes 4 (2 ^ 32 - 1) = [255, 255, 255, 255] := by decide
  rwa [List.append_nil, hnull] at hmembers

theorem response_encoded {value : UaValue} {bytes : Bytes}
    (h : VariantEncoded uaTypesTable filledArray 2 value bytes) (hsome : bytes ≠ []) :
    MembersEncoded uaTypesTable filledArray 1 readResponseType.members (responseValues value)
      (responseBytes bytes) := by
  have hmask : dataValueMask true false false false false false = 1 := by decide
  obtain ⟨first, hvalue, hfirst⟩ :
      ∃ first, Encoded uaTypesTable filledArray 1 (tableEntry 22)
        (.dataValue (some value) none none none none none) first ∧ first = 1 :: bytes :=
    ⟨_, .dataValue rfl (by decide) (.some h) nofun nofun,
      congrArg₂ List.cons hmask (List.append_nil bytes)⟩
  have hroom : ArrayRoom (tableEntry 22) 1 := ⟨by decide, by decide, by decide⟩
  have hfilled : filledArray (tableEntry 22) 1 (first ++ []) := by
    unfold filledArray
    have hlength : 0 < bytes.length := List.length_pos_of_ne_nil hsome
    have hsize : (tableEntry 22).memSize * 1 / 32 = 2 := by decide
    rw [hsize, hfirst, List.append_nil, List.length_cons]
    omega
  have hmembers := results_encoded [_] hroom hfilled (.cons hvalue (.nil _ _))
  have hone : toBytes 4 1 = [1, 0, 0, 0] := by decide
  rw [hfirst, List.append_nil, List.length_singleton, hone] at hmembers
  exact hmembers

/-- The bytes of the response with one number. -/
def sampleResponseBytes : Bytes := responseBytes [10, 0, 0, 0x28, 0x42]

theorem sampleResponse_encoded :
    MembersEncoded uaTypesTable filledArray 1 readResponseType.members sampleResponseValues
      sampleResponseBytes := by
  have hvalue : VariantEncoded uaTypesTable filledArray 2
      (.variant (some 9) (.uint32 0x42280000) .nullArray) [10, 0, 0, 0x28, 0x42] :=
    .scalar (by decide) (by decide) (uaTypesTable_getElem? (by decide)) (by decide)
      (.plain trivial trivial)
  exact response_encoded hvalue (List.cons_ne_nil _ _)

/-- The response stands behind its identifier, which is four bytes, and before another
byte. -/
def sampleResponseEnv : DecodeEnv where
  message := [1, 0, 0x7A, 2] ++ (sampleResponseBytes ++ [7])
  table := uaTypesTable
  heap := ampleHeap

theorem uaDecodeBinary_encoded_response :
    ∃ ctx, (uaDecodeBinary sampleResponseEnv 4 readResponseType).final? =
      some ((uaStatuscodeGood, some (.struct sampleResponseValues, 42)), ctx) := by
  have hroomy : sampleResponseEnv.Roomy := ⟨ampleHeap_ample, uaTypesTable_sizes⟩
  have hmessage : sampleResponseEnv.message = [1, 0, 0x7A, 2] ++ (sampleResponseBytes ++ [7]) := rfl
  exact uaDecodeBinary_encoded hroomy sampleResponse_encoded hmessage

/-- The test of `Array_decodeBinary` is not one of the encoding: five empty data values are
encoded in too few bytes for it. -/
example :
    ∃ bytes, MembersEncoded uaTypesTable anyArray 1 readResponseType.members
        [.struct [.uint64 0, .uint32 1, .uint32 0,
            .diagnosticInfo none none none none none none none, .nullArray,
            .encodedObject 0 .null none],
          .array (List.replicate 5 (.dataValue none none none none none none)), .nullArray] bytes ∧
      ((uaDecodeBinary { message := bytes, table := uaTypesTable, heap := ampleHeap } 0
        readResponseType).final?.map fun result => result.1.1) =
          some uaStatuscodeBaddecodingerror := by
  have hempty : Encoded uaTypesTable anyArray 1 (tableEntry 22)
      (.dataValue none none none none none none) [0] :=
    .dataValue rfl (by decide) (.none _) nofun nofun
  refine ⟨_, results_encoded _ ⟨by decide, by decide, by decide⟩ trivial
    (.cons hempty (.cons hempty (.cons hempty (.cons hempty (.cons hempty (.nil _ _)))))), ?_⟩
  decide +kernel

end Opcua
end OpcuaGateway
