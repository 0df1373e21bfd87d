/-
The binary decoder, which every message from the server goes through.

A decoder reads the message at `pos` and counts in `depth` how often it has recursed.
Many of them go on after a part has failed and put the status codes of the parts
together, so each returns its status beside what it has decoded.  Reading outside the
message and recursing without end are faults.
-/
import OpcuaGateway.Effect.Action
import OpcuaGateway.Numeric.LittleEndian
import OpcuaGateway.Opcua.DataTypes

namespace OpcuaGateway
namespace Opcua

open Text (Bytes)
open Effect Effect.Action Numeric

def uaEncodingMaxRecursion : Nat := 20

/-- Which requests for memory succeed: the number of requests before it, and its size.
An object has an address for each of its bytes. -/
structure Heap where
  grants : Nat → Nat → Bool
  addressable : ∀ k size, grants k size = true → size < 2 ^ 32

/-- What a decoder runs with: the message, the types and the memory. -/
structure DecodeEnv where
  message : Bytes
  table : UaTypeTable
  heap : Heap

structure DecodeCtx where
  pos : Nat
  depth : Nat
  requests : Nat
deriving DecidableEq, Repr

/-- A request for memory, and whether it was granted. -/
structure Request where
  size : Nat
  granted : Bool
deriving DecidableEq, Repr

inductive DecodeFault where
  | outOfBounds
  | recursion
  | noType
deriving DecidableEq, Repr

abbrev Decode (α : Type) := Action DecodeCtx Request DecodeFault α

variable (env : DecodeEnv)

/-! ## Memory and the message -/

/-- `memcpy` of `n` bytes from `ctx->pos`, which is moved behind them. -/
def readBytes (n : Nat) : Decode Bytes := do
  let ctx ← current
  if ctx.pos + n ≤ env.message.length then
    update fun ctx => ((env.message.drop ctx.pos).take n, { ctx with pos := ctx.pos + n })
  else fail .outOfBounds

theorem readBytes_run {env : DecodeEnv} {n : Nat} {ctx : DecodeCtx}
    (h : ctx.pos + n ≤ env.message.length) :
    (readBytes env n).run ctx =
      { log := [],
        exit := .ok ((env.message.drop ctx.pos).take n, { ctx with pos := ctx.pos + n }) } := by
  rw [readBytes, bind_of_ok (current_run ctx), Run.after_nil, if_pos h]
  rfl

/-- `*ctx->pos`. -/
def peekByte : Decode UInt8 := do
  let ctx ← current
  match env.message[ctx.pos]? with
  | some b => pure b
  | none => fail .outOfBounds

def uaCalloc (size : Nat) : Decode Bool := do
  let ctx ← current
  let granted := env.heap.grants ctx.requests size
  emit { size := size, granted := granted }
  update fun ctx => (granted, { ctx with requests := ctx.requests + 1 })

/-- `UA_TYPES[i]`. -/
def uaTypes (i : Nat) : Decode UaDataType :=
  match env.table.types[i]? with
  | some type => pure type
  | none => fail .noType

theorem uaTypes_run {env : DecodeEnv} {i : Nat} {type : UaDataType}
    (h : env.table.types[i]? = some type) (ctx : DecodeCtx) :
    (uaTypes env i).run ctx = { log := [], exit := .ok (type, ctx) } := by
  rw [uaTypes, h]
  rfl

theorem uaCalloc_run (env : DecodeEnv) (size : Nat) (ctx : DecodeCtx) :
    (uaCalloc env size).run ctx =
      { log := [{ size := size, granted := env.heap.grants ctx.requests size }],
        exit := .ok (env.heap.grants ctx.requests size,
          { ctx with requests := ctx.requests + 1 }) } := rfl

/-! ## Numbers -/

/-- The little-endian number in the next `n` bytes; without them, what it is put into keeps
its zero. -/
def decodeNumber (n : Nat) : Decode (UaStatusCode × Nat) := do
  let ctx ← current
  if env.message.length < ctx.pos + n then pure (uaStatuscodeBaddecodingerror, 0)
  else
    let bytes ← readBytes env n
    pure (uaStatuscodeGood, ofBytes bytes)

theorem decodeNumber_run_of_lt {env : DecodeEnv} {n : Nat} {ctx : DecodeCtx}
    (h : env.message.length < ctx.pos + n) :
    (decodeNumber env n).run ctx =
      { log := [], exit := .ok ((uaStatuscodeBaddecodingerror, 0), ctx) } := by
  rw [decodeNumber, bind_of_ok (current_run ctx), Run.after_nil, if_pos h]
  rfl

theorem decodeNumber_run_of_le {env : DecodeEnv} {n : Nat} {ctx : DecodeCtx}
    (h : ctx.pos + n ≤ env.message.length) :
    (decodeNumber env n).run ctx =
      { log := [],
        exit := .ok ((uaStatuscodeGood, ofBytes ((env.message.drop ctx.pos).take n)),
          { ctx with pos := ctx.pos + n }) } := by
  rw [decodeNumber, bind_of_ok (current_run ctx), Run.after_nil, if_neg (Nat.not_lt.mpr h),
    bind_of_ok (readBytes_run h)]
  rfl

def decodeNumberAs {α : Type} (n : Nat) (f : Nat → α) : Decode (UaStatusCode × α) := do
  let (ret, number) ← decodeNumber env n
  pure (ret, f number)

def booleanDecodeBinary : Decode (UaStatusCode × Bool) := decodeNumberAs env 1 fun n => decide (0 < n)

def byteDecodeBinary : Decode (UaStatusCode × UInt8) := decodeNumberAs env 1 UInt8.ofNat

def uint16DecodeBinary : Decode (UaStatusCode × UInt16) := decodeNumberAs env 2 UInt16.ofNat

def uint32DecodeBinary : Decode (UaStatusCode × UInt32) := decodeNumberAs env 4 UInt32.ofNat

def uint64DecodeBinary : Decode (UaStatusCode × UInt64) := decodeNumberAs env 8 UInt64.ofNat

/-! ## Arrays -/

/-- The elements of an array, up to the first that fails. -/
def decodeElements (element : Decode (UaStatusCode × UaValue)) : Nat → Decode (UaStatusCode × List UaValue)
  | 0 => pure (uaStatuscodeGood, [])
  | n + 1 => do
    let (ret, value) ← element
    if ret ≠ uaStatuscodeGood then pure (ret, [])
    else
      let (ret, values) ← decodeElements element n
      pure (ret, value :: values)

/-- `Array_decodeBinary`; `element` is the function the jump table has for the type. -/
def arrayDecodeBinary (element : Decode (UaStatusCode × UaValue)) (type : UaDataType) :
    Decode (UaStatusCode × UaValue) := do
  let (ret, word) ← uint32DecodeBinary env
  if ret ≠ uaStatuscodeGood then pure (ret, .nullArray)
  else
    let signedLength := word.toBitVec.toInt
    if signedLength ≤ 0 then
      pure (uaStatuscodeGood, if signedLength < 0 then .nullArray else .emptyArray)
    else
      let length := signedLength.toNat
      -- a product of type size_t
      let memSize := type.memSize * length % 2 ^ 32
      let ctx ← current
      if env.message.length < ctx.pos + memSize / 32 then
        pure (uaStatuscodeBaddecodingerror, .nullArray)
      else
        let granted ← uaCalloc env (length * type.memSize)
        if !granted then pure (uaStatuscodeBadoutofmemory, .nullArray)
        else if type.overlayable then
          let ctx ← current
          if env.message.length < ctx.pos + memSize then
            pure (uaStatuscodeBaddecodingerror, .nullArray)
          else
            let memory ← readBytes env memSize
            pure (uaStatuscodeGood, .overlayableArray length memory)
        else
          let (ret, values) ← decodeElements element length
          if ret ≠ uaStatuscodeGood then pure (ret, .nullArray)
          else pure (uaStatuscodeGood, .array values)

def valued {α : Type} (f : α → UaValue) (part : Decode (UaStatusCode × α)) :
    Decode (UaStatusCode × UaValue) := do
  let (ret, value) ← part
  pure (ret, f value)

def stringDecodeBinary : Decode (UaStatusCode × Option Bytes) := do
  let (ret, value) ← arrayDecodeBinary env (valued .byte (byteDecodeBinary env)) uaByteType
  pure (ret, value.bytes)

/-! ## Identifiers and texts -/

def guidDecodeBinary : Decode (UaStatusCode × UaGuid) := do
  let (ret1, data1) ← uint32DecodeBinary env
  let (ret2, data2) ← uint16DecodeBinary env
  let (ret3, data3) ← uint16DecodeBinary env
  let ctx ← current
  if env.message.length < ctx.pos + 8 then
    pure (uaStatuscodeBaddecodingerror,
      { data1 := data1, data2 := data2, data3 := data3, data4 := List.replicate 8 0 })
  else
    let data4 ← readBytes env 8
    pure (ret1 ||| ret2 ||| ret3, { data1 := data1, data2 := data2, data3 := data3, data4 := data4 })

def uaExpandednodeidServerindexFlag : UInt8 := 0x40
def uaExpandednodeidNamespaceuriFlag : UInt8 := 0x80

def nodeIdDecodeBinary : Decode (UaStatusCode × UaAnyNodeId) := do
  let (ret, encodingByte) ← byteDecodeBinary env
  if ret ≠ uaStatuscodeGood then pure (ret, .null)
  else
    let encodingByte := encodingByte &&&
      ~~~(uaExpandednodeidServerindexFlag ||| uaExpandednodeidNamespaceuriFlag)
    if encodingByte = 0 then
      let (ret, id) ← byteDecodeBinary env
      pure (ret, { namespaceIndex := 0, identifier := .numeric id.toUInt32 })
    else if encodingByte = 1 then
      let (ret1, ns) ← byteDecodeBinary env
      let (ret2, id) ← uint16DecodeBinary env
      pure (ret1 ||| ret2, { namespaceIndex := ns.toUInt16, identifier := .numeric id.toUInt32 })
    else if encodingByte = 2 then
      let (ret1, ns) ← uint16DecodeBinary env
      let (ret2, id) ← uint32DecodeBinary env
      pure (ret1 ||| ret2, { namespaceIndex := ns, identifier := .numeric id })
    else if encodingByte = 3 then
      let (ret1, ns) ← uint16DecodeBinary env
      let (ret2, id) ← stringDecodeBinary env
      pure (ret1 ||| ret2, { namespaceIndex := ns, identifier := .string id })
    else if encodingByte = 4 then
      let (ret1, ns) ← uint16DecodeBinary env
      let (ret2, id) ← guidDecodeBinary env
      pure (ret1 ||| ret2, { namespaceIndex := ns, identifier := .guid id })
    else if encodingByte = 5 then
      let (ret1, ns) ← uint16DecodeBinary env
      let (ret2, id) ← stringDecodeBinary env
      pure (ret1 ||| ret2, { namespaceIndex := ns, identifier := .byteString id })
    else pure (uaStatuscodeBadinternalerror, .null)

/-- The part of a value that a bit of its mask announces. -/
def announced {α : Type} (mask bit : UInt8) (part : Decode (UaStatusCode × α)) :
    Decode (UaStatusCode × Option α) :=
  if mask &&& bit ≠ 0 then do
    let (ret, value) ← part
    pure (ret, some value)
  else pure (uaStatuscodeGood, none)

def expandedNodeIdDecodeBinary : Decode (UaStatusCode × UaValue) := do
  let ctx ← current
  if env.message.length ≤ ctx.pos then
    pure (uaStatuscodeBaddecodingerror, .expandedNodeId .null none 0)
  else
    let encoding ← peekByte env
    let (ret1, id) ← nodeIdDecodeBinary env
    let (ret2, uri) ← announced encoding uaExpandednodeidNamespaceuriFlag (stringDecodeBinary env)
    let (ret3, index) ← announced encoding uaExpandednodeidServerindexFlag (uint32DecodeBinary env)
    -- a namespace that is given by its URI has no index
    let id := if uri.isSome then { id with namespaceIndex := 0 } else id
    pure (ret1 ||| ret2 ||| ret3, .expandedNodeId id uri.join (index.getD 0))

def uaLocalizedtextEncodingmasktypeLocale : UInt8 := 0x01
def uaLocalizedtextEncodingmasktypeText : UInt8 := 0x02

def localizedTextDecodeBinary : Decode (UaStatusCode × UaValue) := do
  let (ret1, encoding) ← byteDecodeBinary env
  let (ret2, locale) ←
    announced encoding uaLocalizedtextEncodingmasktypeLocale (stringDecodeBinary env)
  let (ret3, text) ← announced encoding uaLocalizedtextEncodingmasktypeText (stringDecodeBinary env)
  pure (ret1 ||| ret2 ||| ret3, .localizedText locale.join text.join)

/-! ## Types that hold others

`jump` stands for `decodeBinaryJumpTable`. -/

variable (jump : Nat → UaDataType → Decode (UaStatusCode × UaValue))

/-- The members of a type, up to the first that fails. -/
def decodeMembers : List UaDataTypeMember → Decode (UaStatusCode × List UaValue)
  | [] => pure (uaStatuscodeGood, [])
  | member :: members => do
    let type ← uaTypes env member.memberTypeIndex
    let (ret, value) ←
      if member.isArray then arrayDecodeBinary env (jump type.jumpIndex type) type
      else jump type.jumpIndex type
    if ret ≠ uaStatuscodeGood then pure (ret, [value])
    else
      let (ret, values) ← decodeMembers members
      pure (ret, value :: values)

def deeper : Decode Unit := update fun ctx => ((), { ctx with depth := ctx.depth + 1 })

def shallower : Decode Unit := update fun ctx => ((), { ctx with depth := ctx.depth - 1 })

/-- One level of recursion, unless that is one too many.  `limit` is what the value is left
at then. -/
def recursing {α : Type} (limit : α) (level : Decode (UaStatusCode × α)) :
    Decode (UaStatusCode × α) := do
  let ctx ← current
  if uaEncodingMaxRecursion < ctx.depth then pure (uaStatuscodeBadencodingerror, limit)
  else
    deeper
    let result ← level
    shallower
    pure result

def decodeBinaryInternal (type : UaDataType) : Decode (UaStatusCode × UaValue) :=
  recursing (.struct []) (valued .struct (decodeMembers env jump type.members))

/-- `ctx->pos += 4`, over a length that is not looked at. -/
def skipLength : Decode Unit := update fun ctx => ((), { ctx with pos := ctx.pos + 4 })

def uaExtensionobjectEncodedNobody : UInt8 := 0
def uaExtensionobjectEncodedBytestring : UInt8 := 1
def uaExtensionobjectEncodedXml : UInt8 := 2

/-- `UA_NodeId_copy`.  An identifier that is text gets text of its own; without memory for
it the copy is null. -/
def nodeIdCopy (id : UaAnyNodeId) : Decode UaAnyNodeId :=
  if id.identifier.text = [] then pure id
  else do
    let granted ← uaCalloc env id.identifier.text.length
    pure (if granted then id else .null)

def extensionObjectDecodeBinaryContent (typeId : UaAnyNodeId) : Decode (UaStatusCode × UaValue) :=
  match env.table.findDataTypeByBinary typeId with
  | none => do
    let copy ← nodeIdCopy env typeId
    let (ret, body) ← stringDecodeBinary env
    pure (ret, .encodedObject uaExtensionobjectEncodedBytestring copy body)
  | some i => do
    let type ← uaTypes env i
    let granted ← uaCalloc env type.memSize
    if !granted then
      pure (uaStatuscodeBadoutofmemory, .encodedObject uaExtensionobjectEncodedNobody .null none)
    else
      skipLength
      let (ret, data) ← jump type.jumpIndex type
      pure (ret, .decodedObject i data)

def extensionObjectDecodeBinary : Decode (UaStatusCode × UaValue) := do
  let (ret1, typeId) ← nodeIdDecodeBinary env
  let (ret2, encoding) ← byteDecodeBinary env
  let ret := ret1 ||| ret2
  if ret ≠ uaStatuscodeGood then
    pure (ret, .encodedObject uaExtensionobjectEncodedNobody .null none)
  else if encoding = uaExtensionobjectEncodedBytestring then
    extensionObjectDecodeBinaryContent env jump typeId
  else if encoding = uaExtensionobjectEncodedNobody then
    pure (ret, .encodedObject encoding typeId none)
  else if encoding = uaExtensionobjectEncodedXml then
    let (ret, body) ← stringDecodeBinary env
    pure (ret, .encodedObject encoding typeId body)
  else pure (uaStatuscodeBaddecodingerror, .encodedObject uaExtensionobjectEncodedNobody .null none)

/-- The scalar of a variant, of the type `i`. -/
def decodeScalar (i : Nat) : Decode (UaStatusCode × Nat × UaValue) := do
  let type ← uaTypes env i
  let granted ← uaCalloc env type.memSize
  if !granted then pure (uaStatuscodeBadoutofmemory, (i, .nullArray))
  else
    let (ret, data) ← jump type.jumpIndex type
    pure (ret, (i, data))

/-- `Variant_decodeBinaryUnwrapExtensionObject`: the type of the variant, and its data. -/
def variantDecodeBinaryUnwrapExtensionObject : Decode (UaStatusCode × Nat × UaValue) := do
  let old ← current
  let (ret, typeId) ← nodeIdDecodeBinary env
  if ret ≠ uaStatuscodeGood then pure (ret, (uaTypesExtensionobject, .nullArray))
  else
    let (ret, encoding) ← byteDecodeBinary env
    if ret ≠ uaStatuscodeGood then pure (ret, (uaTypesExtensionobject, .nullArray))
    else
      match env.table.findDataTypeByBinary typeId with
      | some i =>
        if encoding = uaExtensionobjectEncodedBytestring then
          skipLength
          decodeScalar env jump i
        else
          update fun ctx => ((), { ctx with pos := old.pos })
          decodeScalar env jump uaTypesExtensionobject
      | none =>
        update fun ctx => ((), { ctx with pos := old.pos })
        decodeScalar env jump uaTypesExtensionobject

def uaVariantEncodingmasktypeTypeidMask : UInt8 := 0x3F
def uaVariantEncodingmasktypeDimensions : UInt8 := 0x40
def uaVariantEncodingmasktypeArray : UInt8 := 0x80

/-- The dimensions of an array, if the encoding byte announces them. -/
def decodeDimensions (encodingByte : UInt8) : Decode (UaStatusCode × UaValue) :=
  if encodingByte &&& uaVariantEncodingmasktypeDimensions ≠ 0 then do
    let int32 ← uaTypes env uaTypesInt32
    arrayDecodeBinary env (jump int32.jumpIndex int32) int32
  else pure (uaStatuscodeGood, .nullArray)

def variantDecodeBinary : Decode (UaStatusCode × UaValue) := do
  let (ret, encodingByte) ← byteDecodeBinary env
  if ret ≠ uaStatuscodeGood then pure (ret, .variant none .nullArray .nullArray)
  else if encodingByte = 0 then pure (uaStatuscodeGood, .variant none .nullArray .nullArray)
  else
    let isArray := encodingByte &&& uaVariantEncodingmasktypeArray ≠ 0
    -- a difference of type size_t
    let typeIndex :=
      ((encodingByte &&& uaVariantEncodingmasktypeTypeidMask).toNat + (2 ^ 32 - 1)) % 2 ^ 32
    if uaTypesDiagnosticinfo < typeIndex then
      pure (uaStatuscodeBaddecodingerror, .variant none .nullArray .nullArray)
    else if typeIndex = uaTypesVariant ∧ ¬isArray then
      pure (uaStatuscodeBaddecodingerror, .variant none .nullArray .nullArray)
    else
      let ctx ← current
      if uaEncodingMaxRecursion < ctx.depth then
        pure (uaStatuscodeBadencodingerror, .variant none .nullArray .nullArray)
      else
        deeper
        if isArray then
          let type ← uaTypes env typeIndex
          let (ret1, data) ← arrayDecodeBinary env (jump type.jumpIndex type) type
          let (ret2, dimensions) ← decodeDimensions env jump encodingByte
          shallower
          pure (ret1 ||| ret2, .variant (some typeIndex) data dimensions)
        else if typeIndex ≠ uaTypesExtensionobject then
          let type ← uaTypes env typeIndex
          let granted ← uaCalloc env type.memSize
          -- this way out leaves the depth as it is
          if !granted then
            pure (uaStatuscodeBadoutofmemory, .variant (some typeIndex) .nullArray .nullArray)
          else
            let (ret, data) ← jump typeIndex type
            shallower
            pure (ret, .variant (some typeIndex) data .nullArray)
        else
          let (ret, i, data) ← variantDecodeBinaryUnwrapExtensionObject env jump
          shallower
          pure (ret, .variant (some i) data .nullArray)

def maxPicoSeconds : UInt16 := 9999

/-- Picoseconds, cut off at the most a field can say. -/
def picosecondsDecodeBinary : Decode (UaStatusCode × UInt16) := do
  let (ret, n) ← uint16DecodeBinary env
  pure (ret, if maxPicoSeconds < n then maxPicoSeconds else n)

def dataValueDecodeBinary : Decode (UaStatusCode × UaValue) := do
  let (ret, mask) ← byteDecodeBinary env
  if ret ≠ uaStatuscodeGood then pure (ret, .dataValue none none none none none none)
  else
    recursing (.dataValue none none none none none none) do
      let (ret1, value) ← announced mask 0x01 (variantDecodeBinary env jump)
      let (ret2, status) ← announced mask 0x02 (uint32DecodeBinary env)
      let (ret3, sourceTimestamp) ← announced mask 0x04 (uint64DecodeBinary env)
      let (ret4, sourcePicoseconds) ← announced mask 0x10 (picosecondsDecodeBinary env)
      let (ret5, serverTimestamp) ← announced mask 0x08 (uint64DecodeBinary env)
      let (ret6, serverPicoseconds) ← announced mask 0x20 (picosecondsDecodeBinary env)
      pure (ret1 ||| ret2 ||| ret3 ||| ret4 ||| ret5 ||| ret6,
        .dataValue value status sourceTimestamp sourcePicoseconds serverTimestamp
          serverPicoseconds)

/-- The inner `DiagnosticInfo`, on the heap.  `outer` is the status of the parts before it,
which is dropped without memory and at the recursion limit. -/
def innerDiagnosticInfoDecodeBinary (type : UaDataType) (mask : UInt8) (outer : UaStatusCode) :
    Decode (UaStatusCode × Option UaValue) :=
  if mask &&& 0x40 ≠ 0 then do
    let granted ← uaCalloc env type.memSize
    if !granted then pure (uaStatuscodeBadoutofmemory, none)
    else
      recursing (some (.diagnosticInfo none none none none none none none))
        (do
          let (ret, inner) ← jump uaTypesDiagnosticinfo type
          pure (outer ||| ret, some inner))
  else pure (outer, none)

def diagnosticInfoDecodeBinary (type : UaDataType) : Decode (UaStatusCode × UaValue) := do
  let (ret, mask) ← byteDecodeBinary env
  if ret ≠ uaStatuscodeGood then pure (ret, .diagnosticInfo none none none none none none none)
  else
    let (ret1, symbolicId) ← announced mask 0x01 (uint32DecodeBinary env)
    let (ret2, namespaceUri) ← announced mask 0x02 (uint32DecodeBinary env)
    let (ret3, localizedText) ← announced mask 0x04 (uint32DecodeBinary env)
    let (ret4, locale) ← announced mask 0x08 (uint32DecodeBinary env)
    let (ret5, additionalInfo) ← announced mask 0x10 (stringDecodeBinary env)
    let (ret6, innerStatusCode) ← announced mask 0x20 (uint32DecodeBinary env)
    let (ret, inner) ← innerDiagnosticInfoDecodeBinary env jump type mask
      (ret1 ||| ret2 ||| ret3 ||| ret4 ||| ret5 ||| ret6)
    pure (ret,
      .diagnosticInfo symbolicId namespaceUri localizedText locale additionalInfo innerStatusCode
        inner)

/-! ## The jump table -/

/-- `decodeBinaryJumpTable[index]`.  Each of its functions is one level of `fuel`. -/
def decodeBinaryJumpTable : Nat → Nat → UaDataType → Decode (UaStatusCode × UaValue)
  | 0, _, _ => fail .recursion
  | fuel + 1, index, type =>
    let jump := decodeBinaryJumpTable fuel
    match index with
    | 0 => valued .boolean (booleanDecodeBinary env)
    | 1 | 2 => valued .byte (byteDecodeBinary env)
    | 3 | 4 => valued .uint16 (uint16DecodeBinary env)
    | 5 | 6 | 9 | 18 => valued .uint32 (uint32DecodeBinary env)
    | 7 | 8 | 10 | 12 => valued .uint64 (uint64DecodeBinary env)
    | 11 | 14 | 15 => valued .string (stringDecodeBinary env)
    | 13 => valued .guid (guidDecodeBinary env)
    | 16 => valued .nodeId (nodeIdDecodeBinary env)
    | 17 => expandedNodeIdDecodeBinary env
    | 19 | 25 => decodeBinaryInternal env jump type
    | 20 => localizedTextDecodeBinary env
    | 21 => extensionObjectDecodeBinary env jump
    | 22 => dataValueDecodeBinary env jump
    | 23 => variantDecodeBinary env jump
    | 24 => diagnosticInfoDecodeBinary env jump type
    | _ => fail .noType

/-- Two levels for each recursion the context allows: an extension object leads to its
content without counting it. -/
def decodeFuel : Nat := 2 * (uaEncodingMaxRecursion + 2)

/-- The decoding that `UA_decodeBinary` starts: the status, and on success the value and
where it ends. -/
def decodeValue (type : UaDataType) : Decode (UaStatusCode × Option (UaValue × Nat)) := do
  let (ret, value) ← decodeBinaryInternal env (decodeBinaryJumpTable env decodeFuel) type
  let ctx ← current
  if ret = uaStatuscodeGood then pure (ret, some (value, ctx.pos)) else pure (ret, none)

def uaDecodeBinary (offset : Nat) (type : UaDataType) :
    Run DecodeCtx Request DecodeFault (UaStatusCode × Option (UaValue × Nat)) :=
  (decodeValue env type).run { pos := offset, depth := 0, requests := 0 }

end Opcua
end OpcuaGateway
