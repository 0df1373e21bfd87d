/-
The encoding of values as bytes, apart from the functions that write and read it.

`Encoded table admits d type value bytes` says that the bytes are the value of the type, as
it stands `d` levels deep in a message whose arrays are all of those that `admits` says.
The relation leaves out what the two directions do not agree on: in a variant, an
enumeration (written as a number), a structure of one built-in member where it is written as
that member, an array of structures and an object of a known type; an object of a known type
with a body of bytes or of a type that has no encoding of its own (a built-in one, an
enumeration); more than 9999 picoseconds; a namespace by an empty URI or by both URI and
index; dimensions of a scalar or without an entry; and texts and arrays that are longer or
larger than an address space.  It also leaves out the inner parts of a `DiagnosticInfo`.
-/
import OpcuaGateway.Opcua.DecodeSafety

namespace OpcuaGateway
namespace Opcua

open Text (Bytes)
open Numeric

/-! ## Texts and identifiers -/

/-- The length of a text comes first, and that of `NULL` is -1. -/
def textBytes : Option Bytes → Bytes
  | none => toBytes 4 (2 ^ 32 - 1)
  | some text => toBytes 4 text.length ++ text

def guidBytes (id : UaGuid) : Bytes :=
  toBytes 4 id.data1.toNat ++ (toBytes 2 id.data2.toNat ++ (toBytes 2 id.data3.toNat ++ id.data4))

/-- An identifier under a byte that has the flags of an `ExpandedNodeId`. -/
def nodeIdBytes (mask : UInt8) (id : UaAnyNodeId) : Bytes :=
  match id.identifier with
  | .numeric n =>
    if 2 ^ 16 ≤ n.toNat ∨ 2 ^ 8 ≤ id.namespaceIndex.toNat then
      (mask ||| 2) :: (toBytes 2 id.namespaceIndex.toNat ++ toBytes 4 n.toNat)
    else if 2 ^ 8 ≤ n.toNat ∨ 0 < id.namespaceIndex.toNat then
      (mask ||| 1) :: (toBytes 1 id.namespaceIndex.toNat ++ toBytes 2 n.toNat)
    else (mask ||| 0) :: toBytes 1 n.toNat
  | .string text => (mask ||| 3) :: (toBytes 2 id.namespaceIndex.toNat ++ textBytes text)
  | .guid guid => (mask ||| 4) :: (toBytes 2 id.namespaceIndex.toNat ++ guidBytes guid)
  | .byteString text => (mask ||| 5) :: (toBytes 2 id.namespaceIndex.toNat ++ textBytes text)

/-- A bit of a mask, if what it announces is there. -/
def flag (bit : UInt8) (there : Bool) : UInt8 := if there then bit else 0

def expandedMask (uri index : Bool) : UInt8 :=
  flag uaExpandednodeidNamespaceuriFlag uri ||| flag uaExpandednodeidServerindexFlag index

/-- The part of a value that is only there with its bit. -/
def optionBytes {α : Type} (bytes : α → Bytes) : Option α → Bytes
  | none => []
  | some a => bytes a

/-- An index of zero is left out. -/
def givenIndex (index : UInt32) : Option UInt32 := if 0 < index.toNat then some index else none

def expandedNodeIdBytes (id : UaAnyNodeId) (uri : Option Bytes) (index : UInt32) : Bytes :=
  nodeIdBytes (expandedMask uri.isSome (givenIndex index).isSome) id ++
    (optionBytes textBytes (uri.map some) ++
      optionBytes (fun n => toBytes 4 n.toNat) (givenIndex index))

def localizedMask (locale text : Bool) : UInt8 :=
  flag uaLocalizedtextEncodingmasktypeLocale locale ||| flag uaLocalizedtextEncodingmasktypeText text

def localizedTextBytes (locale text : Option Bytes) : Bytes :=
  localizedMask locale.isSome text.isSome ::
    (optionBytes textBytes (locale.map some) ++ optionBytes textBytes (text.map some))

/-! ## Values that hold no others -/

def plainBytes : UaValue → Bytes
  | .boolean b => [flag 1 b]
  | .byte n => [n]
  | .uint16 n => toBytes 2 n.toNat
  | .uint32 n => toBytes 4 n.toNat
  | .uint64 n => toBytes 8 n.toNat
  | .string text => textBytes text
  | .guid id => guidBytes id
  | .nodeId id => nodeIdBytes 0 id
  | .expandedNodeId id uri index => expandedNodeIdBytes id uri index
  | .localizedText locale text => localizedTextBytes locale text
  | _ => []

/-- A namespace that is given by its URI has no index, and no URI is empty. -/
def UaValue.Expanded : UaValue → Prop
  | .expandedNodeId id uri _ => uri ≠ some [] ∧ (uri.isSome = true → id.namespaceIndex = 0)
  | _ => True

/-! ## Values that hold others -/

def dataValueMask (value status sourceTimestamp serverTimestamp sourcePicoseconds
    serverPicoseconds : Bool) : UInt8 :=
  flag 0x01 value ||| flag 0x02 status ||| flag 0x04 sourceTimestamp |||
    flag 0x08 serverTimestamp ||| flag 0x10 sourcePicoseconds ||| flag 0x20 serverPicoseconds

def diagnosticMask (symbolicId namespaceUri localizedText locale additionalInfo : Bool) : UInt8 :=
  flag 0x01 symbolicId ||| flag 0x02 namespaceUri ||| flag 0x04 localizedText |||
    flag 0x08 locale ||| flag 0x10 additionalInfo

/-- The type index of a variant begins with one. -/
def variantByte (i : Nat) (array dimensions : Bool) : UInt8 :=
  UInt8.ofNat (i + 1) ||| flag uaVariantEncodingmasktypeArray array |||
    flag uaVariantEncodingmasktypeDimensions dimensions

/-- What an object of the type is found by. -/
def UaDataType.binaryId (type : UaDataType) : UaAnyNodeId :=
  { namespaceIndex := type.typeIdNamespace,
    identifier := .numeric type.binaryEncodingId.toUInt32 }

/-- An object that is not taken for one of a type. -/
structure Unfound (table : UaTypeTable) (encoding : UInt8) (typeId : UaAnyNodeId) : Prop where
  identifier : typeId.identifier.Typed
  unfound : encoding = uaExtensionobjectEncodedBytestring → table.findDataTypeByBinary typeId = none

/-- The bytes of an encoded object that are behind its encoding. -/
inductive BodyEncoded : UInt8 → Option Bytes → Bytes → Prop
  | noBody : BodyEncoded uaExtensionobjectEncodedNobody none []
  | byteString {body : Option Bytes} (typed : TextTyped body) :
      BodyEncoded uaExtensionobjectEncodedBytestring body (textBytes body)
  | xml {body : Option Bytes} (typed : TextTyped body) :
      BodyEncoded uaExtensionobjectEncodedXml body (textBytes body)

/-- An array that is there and fits into memory. -/
structure ArrayRoom (type : UaDataType) (length : Nat) : Prop where
  positive : 0 < length
  short : length < 2 ^ 31
  addressable : type.memSize * length < 2 ^ 32

/-- The arrays of a message, by their type, their length and the bytes of their elements. -/
abbrev ArrayFilter := UaDataType → Nat → Bytes → Prop

/-- `Array_encodeBinary` writes any array. -/
def anyArray : ArrayFilter := fun _ _ _ => True

/-- `Array_decodeBinary` wants as many bytes behind the length as a 32nd of the memory the
array takes.  The elements of this one are enough for it, whatever else is behind them. -/
def filledArray : ArrayFilter := fun type length bytes =>
  type.memSize * length / 32 ≤ bytes.length

variable (table : UaTypeTable) (admits : ArrayFilter)

mutual

/-- The bytes are the value, `d` levels deep. -/
inductive Encoded : Nat → UaDataType → UaValue → Bytes → Prop
  | plain {d : Nat} {type : UaDataType} {value : UaValue}
      (typed : PlainTyped type.jumpIndex value) (expanded : value.Expanded) :
      Encoded d type value (plainBytes value)
  | struct {d : Nat} {type : UaDataType} {values : List UaValue} {bytes : Bytes}
      (index : type.jumpIndex = 19 ∨ type.jumpIndex = 25) (limit : d ≤ uaEncodingMaxRecursion)
      (members : MembersEncoded (d + 1) type.members values bytes) :
      Encoded d type (.struct values) bytes
  | encodedObject {d : Nat} {type : UaDataType} {encoding : UInt8} {typeId : UaAnyNodeId}
      {body : Option Bytes} {bytes : Bytes} (index : type.jumpIndex = 21)
      (unfound : Unfound table encoding typeId) (encoded : BodyEncoded encoding body bytes) :
      Encoded d type (.encodedObject encoding typeId body)
        (nodeIdBytes 0 typeId ++ encoding :: bytes)
  | decodedObject {d i : Nat} {type content : UaDataType} {values : List UaValue}
      {length bytes : Bytes} (index : type.jumpIndex = 21) (found : table.types[i]? = some content)
      (named : table.findDataTypeByBinary content.binaryId = some i)
      (generated : content.builtin = false) (word : length.length = 4)
      (encoded : Encoded d content (.struct values) bytes) :
      Encoded d type (.decodedObject i (.struct values))
        (nodeIdBytes 0 content.binaryId ++
          uaExtensionobjectEncodedBytestring :: (length ++ bytes))
  | dataValue {d : Nat} {type : UaDataType} {value : Option UaValue} {bytes : Bytes}
      {status : Option UInt32} {sourceTimestamp serverTimestamp : Option UInt64}
      {sourcePicoseconds serverPicoseconds : Option UInt16} (index : type.jumpIndex = 22)
      (limit : d ≤ uaEncodingMaxRecursion) (encoded : OptionEncoded (d + 1) value bytes)
      (source : ∀ n, sourcePicoseconds = some n → n ≤ maxPicoSeconds)
      (server : ∀ n, serverPicoseconds = some n → n ≤ maxPicoSeconds) :
      Encoded d type
        (.dataValue value status sourceTimestamp sourcePicoseconds serverTimestamp
          serverPicoseconds)
        (dataValueMask value.isSome status.isSome sourceTimestamp.isSome serverTimestamp.isSome
            sourcePicoseconds.isSome serverPicoseconds.isSome ::
          (bytes ++ (optionBytes (fun n => toBytes 4 n.toNat) status ++
            (optionBytes (fun n => toBytes 8 n.toNat) sourceTimestamp ++
              (optionBytes (fun n => toBytes 2 n.toNat) sourcePicoseconds ++
                (optionBytes (fun n => toBytes 8 n.toNat) serverTimestamp ++
                  optionBytes (fun n => toBytes 2 n.toNat) serverPicoseconds))))))
  | variant {d : Nat} {type : UaDataType} {value : UaValue} {bytes : Bytes}
      (index : type.jumpIndex = 23) (encoded : VariantEncoded d value bytes) :
      Encoded d type value bytes
  | diagnosticInfo {d : Nat} {type : UaDataType}
      {symbolicId namespaceUri localizedText locale : Option UInt32}
      {additionalInfo : Option (Option Bytes)} (index : type.jumpIndex = 24)
      (typed : ∀ text, additionalInfo = some text → TextTyped text) :
      Encoded d type
        (.diagnosticInfo symbolicId namespaceUri localizedText locale additionalInfo none none)
        (diagnosticMask symbolicId.isSome namespaceUri.isSome localizedText.isSome locale.isSome
            additionalInfo.isSome ::
          (optionBytes (fun n => toBytes 4 n.toNat) symbolicId ++
            (optionBytes (fun n => toBytes 4 n.toNat) namespaceUri ++
              (optionBytes (fun n => toBytes 4 n.toNat) localizedText ++
                (optionBytes (fun n => toBytes 4 n.toNat) locale ++
                  optionBytes textBytes additionalInfo)))))

inductive VariantEncoded : Nat → UaValue → Bytes → Prop
  | empty (d : Nat) : VariantEncoded d (.variant none .nullArray .nullArray) [0]
  | scalar {d i : Nat} {type : UaDataType} {data : UaValue} {bytes : Bytes}
      (builtin : i < uaBuiltinTypesCount) (plain : i ≠ uaTypesVariant ∧ i ≠ uaTypesExtensionobject)
      (found : table.types[i]? = some type) (limit : d ≤ uaEncodingMaxRecursion)
      (encoded : Encoded (d + 1) type data bytes) :
      VariantEncoded d (.variant (some i) data .nullArray) (variantByte i false false :: bytes)
  | object {d : Nat} {type : UaDataType} {encoding : UInt8} {typeId : UaAnyNodeId}
      {body : Option Bytes} {bytes : Bytes} (limit : d ≤ uaEncodingMaxRecursion)
      (found : table.types[uaTypesExtensionobject]? = some type)
      (unfound : Unfound table encoding typeId) (encoded : BodyEncoded encoding body bytes) :
      VariantEncoded d
        (.variant (some uaTypesExtensionobject) (.encodedObject encoding typeId body) .nullArray)
        (variantByte uaTypesExtensionobject false false ::
          (nodeIdBytes 0 typeId ++ encoding :: bytes))
  | wrapped {d i : Nat} {content : UaDataType} {values : List UaValue} {length bytes : Bytes}
      (limit : d ≤ uaEncodingMaxRecursion) (found : table.types[i]? = some content)
      (named : table.findDataTypeByBinary content.binaryId = some i)
      (generated : content.builtin = false) (word : length.length = 4)
      (encoded : Encoded (d + 1) content (.struct values) bytes) :
      VariantEncoded d (.variant (some i) (.struct values) .nullArray)
        (variantByte uaTypesExtensionobject false false ::
          (nodeIdBytes 0 content.binaryId ++
            uaExtensionobjectEncodedBytestring :: (length ++ bytes)))
  | array {d i : Nat} {type : UaDataType} {data : UaValue} {bytes : Bytes}
      (builtin : i < uaBuiltinTypesCount) (found : table.types[i]? = some type)
      (limit : d ≤ uaEncodingMaxRecursion) (encoded : ArrayEncoded (d + 1) type data bytes) :
      VariantEncoded d (.variant (some i) data .nullArray) (variantByte i true false :: bytes)
  | matrix {d i length : Nat} {type int32 : UaDataType} {data : UaValue}
      {memory bytes dimensions : Bytes} (builtin : i < uaBuiltinTypesCount)
      (found : table.types[i]? = some type) (limit : d ≤ uaEncodingMaxRecursion)
      (encoded : ArrayEncoded (d + 1) type data bytes)
      (foundInt32 : table.types[uaTypesInt32]? = some int32)
      (encodedDimensions :
        ArrayEncoded (d + 1) int32 (.overlayableArray length memory) dimensions) :
      VariantEncoded d (.variant (some i) data (.overlayableArray length memory))
        (variantByte i true true :: (bytes ++ dimensions))

inductive OptionEncoded : Nat → Option UaValue → Bytes → Prop
  | none (d : Nat) : OptionEncoded d none []
  | some {d : Nat} {value : UaValue} {bytes : Bytes} (encoded : VariantEncoded d value bytes) :
      OptionEncoded d (some value) bytes

inductive ArrayEncoded : Nat → UaDataType → UaValue → Bytes → Prop
  | null (d : Nat) (type : UaDataType) : ArrayEncoded d type .nullArray (toBytes 4 (2 ^ 32 - 1))
  | empty (d : Nat) (type : UaDataType) : ArrayEncoded d type .emptyArray (toBytes 4 0)
  | overlayable {d length : Nat} {type : UaDataType} {memory : Bytes}
      (overlayable : type.overlayable = true) (room : ArrayRoom type length)
      (admitted : admits type length memory)
      (whole : memory.length = type.memSize * length) :
      ArrayEncoded d type (.overlayableArray length memory) (toBytes 4 length ++ memory)
  | elements {d : Nat} {type : UaDataType} {values : List UaValue} {bytes : Bytes}
      (complex : type.overlayable = false) (room : ArrayRoom type values.length)
      (admitted : admits type values.length bytes)
      (encoded : ElementsEncoded d type values bytes) :
      ArrayEncoded d type (.array values) (toBytes 4 values.length ++ bytes)

inductive ElementsEncoded : Nat → UaDataType → List UaValue → Bytes → Prop
  | nil (d : Nat) (type : UaDataType) : ElementsEncoded d type [] []
  | cons {d : Nat} {type : UaDataType} {value : UaValue} {values : List UaValue}
      {first rest : Bytes} (encoded : Encoded d type value first)
      (others : ElementsEncoded d type values rest) :
      ElementsEncoded d type (value :: values) (first ++ rest)

inductive MembersEncoded : Nat → List UaDataTypeMember → List UaValue → Bytes → Prop
  | nil (d : Nat) : MembersEncoded d [] [] []
  | scalar {d : Nat} {member : UaDataTypeMember} {type : UaDataType}
      {members : List UaDataTypeMember} {value : UaValue} {values : List UaValue}
      {first rest : Bytes} (single : member.isArray = false)
      (found : table.types[member.memberTypeIndex]? = some type)
      (encoded : Encoded d type value first) (others : MembersEncoded d members values rest) :
      MembersEncoded d (member :: members) (value :: values) (first ++ rest)
  | array {d : Nat} {member : UaDataTypeMember} {type : UaDataType}
      {members : List UaDataTypeMember} {value : UaValue} {values : List UaValue}
      {first rest : Bytes} (several : member.isArray = true)
      (found : table.types[member.memberTypeIndex]? = some type)
      (encoded : ArrayEncoded d type value first) (others : MembersEncoded d members values rest) :
      MembersEncoded d (member :: members) (value :: values) (first ++ rest)

end

end Opcua
end OpcuaGateway
