/-
The open62541 data types the poller handles.

A response arrives decoded.  The decoder reads an array length as a signed
32-bit integer, so no decoded string is longer than `2 ^ 31 - 1` bytes, and it
allocates the object behind a variant's data pointer at the variant's own type.
`UaString.decoded` and `UaVariant.typed` carry these two facts.
-/
import Mathlib.Algebra.Group.Nat.Defs
import OpcuaGateway.Text.Ascii

namespace OpcuaGateway
namespace Opcua

open Text (Bytes)

/-! ## Status codes, attributes and type indices -/

abbrev UaStatusCode := UInt32

def uaStatuscodeGood : UaStatusCode := 0x00
def uaStatuscodeGoodnoncriticaltimeout : UaStatusCode := 0x00AA0000
def uaStatuscodeBadinternalerror : UaStatusCode := 0x80020000
def uaStatuscodeBadoutofmemory : UaStatusCode := 0x80030000
def uaStatuscodeBadencodingerror : UaStatusCode := 0x80060000
def uaStatuscodeBaddecodingerror : UaStatusCode := 0x80070000
def uaStatuscodeBadencodinglimitsexceeded : UaStatusCode := 0x80080000
def uaStatuscodeBadrequesttoolarge : UaStatusCode := 0x80B80000
def uaStatuscodeBadconnectionclosed : UaStatusCode := 0x80AE0000

def uaAttributeidDisplayname : UInt32 := 4
def uaAttributeidValue : UInt32 := 13

/-- Positions in `UA_TYPES`.  The code compares the addresses of its entries. -/
def uaTypesUint16 : Nat := 4
def uaTypesFloat : Nat := 9
def uaTypesDouble : Nat := 10
def uaTypesLocalizedtext : Nat := 20

/-- A numeric `UA_NodeId`, the only kind the poller builds. -/
structure UaNodeId where
  namespaceIndex : UInt16
  numeric : UInt32
deriving DecidableEq, Repr

def uaNodeidNumeric (nsIndex : UInt16) (identifier : UInt32) : UaNodeId :=
  { namespaceIndex := nsIndex, numeric := identifier }

/-! ## Values -/

structure UaString where
  data : Bytes
  decoded : data.length < 2 ^ 31
deriving DecidableEq

/-- `UA_LocalizedText`, of which only the text is read. -/
structure UaLocalizedText where
  text : UaString
deriving DecidableEq

/-- The object behind a data pointer: one of the four types the poller casts to,
or an object of a type it never looks into. -/
inductive UaContent where
  | localizedText (value : UaLocalizedText)
  | float (bits : UInt32)
  | double (bits : UInt64)
  | uint16 (value : UInt16)
  | other (type : Nat)
      (unread : type ∉ [uaTypesLocalizedtext, uaTypesFloat, uaTypesDouble, uaTypesUint16])
deriving DecidableEq

def UaContent.typeIndex : UaContent → Nat
  | .localizedText _ => uaTypesLocalizedtext
  | .float _ => uaTypesFloat
  | .double _ => uaTypesDouble
  | .uint16 _ => uaTypesUint16
  | .other type _ => type

/-- A `void *`: `NULL`, `UA_EMPTY_ARRAY_SENTINEL`, or the address of an object. -/
inductive UaPointer where
  | null
  | emptyArraySentinel
  | object (content : UaContent)
deriving DecidableEq

/-- `UA_Variant`.  With a positive `arrayLength`, `data` is the address of the
first element. -/
structure UaVariant where
  type : Option Nat
  arrayLength : Nat
  data : UaPointer
  typed : ∀ content, data = .object content → type = some content.typeIndex
deriving DecidableEq

def UaVariant.isScalar (v : UaVariant) : Bool :=
  v.arrayLength == 0 &&
    match v.data with
    | .object _ => true
    | _ => false

/-- `UA_Variant_hasScalarType(v, &UA_TYPES[type])`. -/
def UaVariant.hasScalarType (v : UaVariant) (type : Nat) : Bool :=
  v.isScalar && v.type == some type

def UaVariant.scalar (content : UaContent) : UaVariant where
  type := some content.typeIndex
  arrayLength := 0
  data := .object content
  typed := by
    intro c hc
    cases hc
    rfl

/-- The variant `UA_init` leaves, which is also what an absent value decodes to. -/
def UaVariant.empty : UaVariant where
  type := none
  arrayLength := 0
  data := .null
  typed := by
    intro c hc
    cases hc

def UaVariant.content? (v : UaVariant) : Option UaContent :=
  match v.arrayLength, v.data with
  | 0, .object content => some content
  | _, _ => none

theorem UaVariant.data_of_content? {v : UaVariant} {content : UaContent}
    (h : v.content? = some content) : v.data = .object content := by
  obtain ⟨type, arrayLength, data, typed⟩ := v
  cases arrayLength with
  | zero =>
    cases data with
    | null => cases h
    | emptyArraySentinel => cases h
    | object c =>
      show UaPointer.object c = UaPointer.object content
      rw [Option.some.inj (show some c = some content from h)]
  | succ n => cases h

/-- The type test of a variant looks at the object it holds. -/
theorem UaVariant.hasScalarType_of_content? {v : UaVariant} {content : UaContent}
    (h : v.content? = some content) (type : Nat) :
    v.hasScalarType type = (content.typeIndex == type) := by
  have hdata := data_of_content? h
  have htype := v.typed content hdata
  obtain ⟨vtype, arrayLength, data, typed⟩ := v
  subst hdata htype
  cases arrayLength with
  | zero => simp [hasScalarType, isScalar]
  | succ n => cases h

theorem UaVariant.hasScalarType_of_content?_none {v : UaVariant} (h : v.content? = none)
    (type : Nat) : v.hasScalarType type = false := by
  obtain ⟨vtype, arrayLength, data, typed⟩ := v
  cases arrayLength with
  | zero =>
    cases data with
    | null => rfl
    | emptyArraySentinel => rfl
    | object c => cases h
  | succ n => rfl

/-! ## Requests and responses -/

structure UaReadValueId where
  nodeId : UaNodeId
  attributeId : UInt32
deriving DecidableEq, Repr

/-- `UA_ReadRequest`; `nodesToReadSize` is the length of the list. -/
structure UaReadRequest where
  nodesToRead : List UaReadValueId
deriving DecidableEq, Repr

structure UaDataValue where
  value : UaVariant
deriving DecidableEq

/-- `UA_ReadResponse`; `resultsSize` is the length of `results`.  `memberBlocks`
is the number of heap blocks the response owns through its members, which are
the ones `UA_ReadResponse_deleteMembers` frees. -/
structure UaReadResponse where
  serviceResult : UaStatusCode
  results : List UaDataValue
  memberBlocks : Nat
deriving DecidableEq

def UaReadResponse.init : UaReadResponse :=
  { serviceResult := uaStatuscodeGood, results := [], memberBlocks := 0 }

end Opcua
end OpcuaGateway
