/-
The values the binary encoding carries, and the table of types that describes them.

A value is what the decoder leaves in memory.  An array of an overlayable type is kept as
the memory it was copied into; a string is the same, `none` standing for `NULL`.
-/
import OpcuaGateway.Opcua.Types

namespace OpcuaGateway
namespace Opcua

open Text (Bytes)

structure UaGuid where
  data1 : UInt32
  data2 : UInt16
  data3 : UInt16
  data4 : Bytes
deriving DecidableEq, Repr

inductive UaIdentifier where
  | numeric (id : UInt32)
  | string (id : Option Bytes)
  | guid (id : UaGuid)
  | byteString (id : Option Bytes)
deriving DecidableEq, Repr

/-- The text of an identifier that has one. -/
def UaIdentifier.text : UaIdentifier → Bytes
  | .string (some id) | .byteString (some id) => id
  | _ => []

/-- `UA_NodeId` of every kind; `UaNodeId` is the numeric one. -/
structure UaAnyNodeId where
  namespaceIndex : UInt16
  identifier : UaIdentifier
deriving DecidableEq, Repr

/-- What `UA_NodeId_init` leaves. -/
def UaAnyNodeId.null : UaAnyNodeId := { namespaceIndex := 0, identifier := .numeric 0 }

/-- A `struct` of the types in the table is the list of its members, as far as the
decoder got. -/
inductive UaValue where
  | boolean (value : Bool)
  | byte (value : UInt8)
  | uint16 (value : UInt16)
  | uint32 (value : UInt32)
  | uint64 (value : UInt64)
  | string (data : Option Bytes)
  | guid (value : UaGuid)
  | nodeId (value : UaAnyNodeId)
  | expandedNodeId (id : UaAnyNodeId) (namespaceUri : Option Bytes) (serverIndex : UInt32)
  | localizedText (locale text : Option Bytes)
  | encodedObject (encoding : UInt8) (typeId : UaAnyNodeId) (body : Option Bytes)
  | decodedObject (type : Nat) (data : UaValue)
  | variant (type : Option Nat) (data dimensions : UaValue)
  | dataValue (value : Option UaValue) (status : Option UInt32)
      (sourceTimestamp : Option UInt64) (sourcePicoseconds : Option UInt16)
      (serverTimestamp : Option UInt64) (serverPicoseconds : Option UInt16)
  | diagnosticInfo (symbolicId namespaceUri localizedText locale : Option UInt32)
      (additionalInfo : Option (Option Bytes)) (innerStatusCode : Option UInt32)
      (innerDiagnosticInfo : Option UaValue)
  | struct (members : List UaValue)
  | nullArray
  | emptyArray
  | overlayableArray (length : Nat) (memory : Bytes)
  | array (elements : List UaValue)

/-- The bytes of an array of bytes, which is what a string is. -/
def UaValue.bytes : UaValue → Option Bytes
  | .emptyArray => some []
  | .overlayableArray _ memory => some memory
  | _ => none

/-! ## The table of types -/

structure UaDataTypeMember where
  memberTypeIndex : Nat
  isArray : Bool
deriving DecidableEq, Repr

/-- `UA_DataType`.  Every `typeId` of the table is numeric. -/
structure UaDataType where
  typeIdNamespace : UInt16
  typeIdNumeric : UInt32
  memSize : Nat
  typeIndex : Nat
  builtin : Bool
  overlayable : Bool
  binaryEncodingId : UInt16
  members : List UaDataTypeMember
deriving DecidableEq, Repr

def uaTypesByte : Nat := 2
def uaTypesInt32 : Nat := 5
def uaTypesQualifiedname : Nat := 19
def uaTypesExtensionobject : Nat := 21
def uaTypesDatavalue : Nat := 22
def uaTypesVariant : Nat := 23
def uaTypesDiagnosticinfo : Nat := 24
def uaBuiltinTypesCount : Nat := 25

/-- `UA_TYPES`: the 25 built-in types come first, each at its own index; the enumerations
are built-in types with the index of one of these; members are types of the table; and
no built-in type has an identifier of its own for its encoding. -/
structure UaTypeTable where
  types : List UaDataType
  builtins : ∀ i, i < uaBuiltinTypesCount →
    ∃ type, types[i]? = some type ∧ type.builtin = true ∧ type.typeIndex = i
  builtinIndex : ∀ type ∈ types, type.builtin = true → type.typeIndex < uaBuiltinTypesCount
  unencoded : ∀ type ∈ types, type.builtin = true →
    type.binaryEncodingId = 0 ∧ type.typeIdNamespace = 0
  memberIndex : ∀ type ∈ types, ∀ member ∈ type.members, member.memberTypeIndex < types.length

/-- Where the jump tables have the function of a type. -/
def UaDataType.jumpIndex (type : UaDataType) : Nat :=
  if type.builtin then type.typeIndex else uaBuiltinTypesCount

/-- `UA_TYPES[UA_TYPES_BYTE]`, which strings are arrays of. -/
def uaByteType : UaDataType where
  typeIdNamespace := 0
  typeIdNumeric := 3
  memSize := 1
  typeIndex := uaTypesByte
  builtin := true
  overlayable := true
  binaryEncodingId := 0
  members := [{ memberTypeIndex := uaTypesByte, isArray := false }]

/-- `UA_findDataTypeByBinaryInternal`, without custom types, of which the client has none. -/
def UaTypeTable.findDataTypeByBinary (table : UaTypeTable) (typeId : UaAnyNodeId) : Option Nat :=
  match typeId.identifier with
  | .numeric id =>
    table.types.findIdx? fun type =>
      type.binaryEncodingId.toUInt32 = id && type.typeIdNamespace = typeId.namespaceIndex
  | _ => none

/-- The only built-in type that is found by the identifier of an encoding is the first. -/
theorem UaTypeTable.found_builtin {table : UaTypeTable} {typeId : UaAnyNodeId} {i : Nat}
    {type : UaDataType} (h : table.findDataTypeByBinary typeId = some i)
    (htype : table.types[i]? = some type) (hbuiltin : type.builtin = true) : i = 0 := by
  unfold findDataTypeByBinary at h
  split at h
  · rename_i id hid
    obtain ⟨hlt, hp, hfirst⟩ := List.findIdx?_eq_some_iff_getElem.mp h
    have hget : table.types[i] = type := by
      rw [List.getElem?_eq_getElem hlt] at htype
      exact Option.some.inj htype
    rw [hget] at hp
    obtain ⟨hencoding, hnamespace⟩ :=
      table.unencoded type (hget ▸ List.getElem_mem hlt) hbuiltin
    obtain ⟨first, hfirstType, hfirstBuiltin, -⟩ := table.builtins 0 (by decide)
    have h0 : 0 < table.types.length := Nat.lt_of_le_of_lt (Nat.zero_le i) hlt
    have hget0 : table.types[0] = first := by
      rw [List.getElem?_eq_getElem h0] at hfirstType
      exact Option.some.inj hfirstType
    obtain ⟨hencoding0, hnamespace0⟩ :=
      table.unencoded first (hget0 ▸ List.getElem_mem h0) hfirstBuiltin
    by_contra hne
    have hno := hfirst 0 (Nat.pos_of_ne_zero hne)
    rw [hget0, hencoding0, hnamespace0] at hno
    rw [hencoding, hnamespace] at hp
    exact hno hp
  · cases h

end Opcua
end OpcuaGateway
