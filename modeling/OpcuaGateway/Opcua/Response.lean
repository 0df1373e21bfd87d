/-
A decoded `UA_ReadResponse`, as the poller looks at it.

The poller's types carry what the decoder has checked: the length of a text, and that the
object behind a variant's pointer is of the variant's type.  `readResponseOf` has to be
given these facts, and for a response that was decoded with GOOD it always is
(`uaDecodeBinary_readResponse`).
-/
import OpcuaGateway.Opcua.DecodeSafety
import OpcuaGateway.Opcua.TypeTable

namespace OpcuaGateway
namespace Opcua

open Text (Bytes)
open Numeric

/-! ## Contents -/

def unreadTypes : List Nat :=
  [uaTypesLocalizedtext, uaTypesFloat, uaTypesDouble, uaTypesUint16]

/-- The object of one of these types that was decoded to a value. -/
def readContentOf (i : Nat) : UaValue → Option {content : UaContent // content.typeIndex = i}
  | .localizedText _ text =>
    if hi : uaTypesLocalizedtext = i then
      if hlength : (text.getD []).length < 2 ^ 31 then
        some ⟨.localizedText { text := { data := text.getD [], decoded := hlength } }, hi⟩
      else none
    else none
  | .uint32 bits => if hi : uaTypesFloat = i then some ⟨.float bits, hi⟩ else none
  | .uint64 bits => if hi : uaTypesDouble = i then some ⟨.double bits, hi⟩ else none
  | .uint16 value => if hi : uaTypesUint16 = i then some ⟨.uint16 value, hi⟩ else none
  | _ => none

/-- The object behind a pointer of type `i`. -/
def contentOf (i : Nat) (data : UaValue) : Option {content : UaContent // content.typeIndex = i} :=
  if h : i ∉ unreadTypes then some ⟨.other i h, rfl⟩ else readContentOf i data

/-- The first number in the memory of an array. -/
def firstNumber (i : Nat) (memory : Bytes) : UaValue :=
  if i = uaTypesUint16 then .uint16 (UInt16.ofNat (ofBytes (memory.take 2)))
  else if i = uaTypesFloat then .uint32 (UInt32.ofNat (ofBytes (memory.take 4)))
  else .uint64 (UInt64.ofNat (ofBytes (memory.take 8)))

def UaVariant.holding {i : Nat} (arrayLength : Nat)
    (content : {content : UaContent // content.typeIndex = i}) : UaVariant where
  type := some i
  arrayLength := arrayLength
  data := .object content.1
  typed := by
    intro c hc
    cases hc
    rw [content.2]

def UaVariant.vacant (i : Nat) : UaVariant where
  type := some i
  arrayLength := 0
  data := .null
  typed := nofun

def UaVariant.sentinel (i : Nat) : UaVariant where
  type := some i
  arrayLength := 0
  data := .emptyArraySentinel
  typed := nofun

def UaValue.isArray : UaValue → Bool
  | .nullArray | .emptyArray | .overlayableArray _ _ | .array _ => true
  | _ => false

def variantOf : UaValue → Option UaVariant
  | .variant none _ _ => some .empty
  | .variant (some i) .nullArray _ => some (.vacant i)
  | .variant (some i) .emptyArray _ => some (.sentinel i)
  | .variant (some i) (.overlayableArray length memory) _ =>
    (contentOf i (firstNumber i memory)).map (.holding length)
  | .variant (some i) (.array (element :: elements)) _ =>
    (contentOf i element).map (.holding (elements.length + 1))
  | .variant (some i) data _ => (contentOf i data).map (.holding 0)
  | _ => none

/-- The poller reads the variant of a data value whether or not it has one. -/
def dataValueOf : UaValue → Option UaDataValue
  | .dataValue none _ _ _ _ _ => some { value := .empty }
  | .dataValue (some value) _ _ _ _ _ => (variantOf value).map fun variant => { value := variant }
  | _ => none

def dataValuesOf : UaValue → Option (List UaDataValue)
  | .nullArray | .emptyArray => some []
  | .array elements => elements.mapM dataValueOf
  | _ => none

def serviceResultOf : UaValue → Option UaStatusCode
  | .struct (_ :: _ :: .uint32 serviceResult :: _) => some serviceResult
  | _ => none

/-! ## The memory of a value -/

def textBlocks : Option Bytes → Nat
  | some (_ :: _) => 1
  | _ => 0

mutual

/-- The heap blocks a value owns. -/
def UaValue.blocks : UaValue → Nat
  | .boolean _ | .byte _ | .uint16 _ | .uint32 _ | .uint64 _ | .guid _ => 0
  | .string data => textBlocks data
  | .nodeId id => textBlocks (some id.identifier.text)
  | .expandedNodeId id namespaceUri _ =>
    textBlocks (some id.identifier.text) + textBlocks namespaceUri
  | .localizedText locale text => textBlocks locale + textBlocks text
  | .encodedObject _ typeId body => textBlocks (some typeId.identifier.text) + textBlocks body
  | .decodedObject _ data => 1 + data.blocks
  | .variant none _ _ => 0
  | .variant (some _) data dimensions => data.held + dimensions.blocks
  | .dataValue none _ _ _ _ _ => 0
  | .dataValue (some value) _ _ _ _ _ => value.blocks
  | .diagnosticInfo _ _ _ _ additionalInfo _ none => textBlocks additionalInfo.join
  | .diagnosticInfo _ _ _ _ additionalInfo _ (some inner) =>
    textBlocks additionalInfo.join + (1 + inner.blocks)
  | .struct members => blocksOf members
  | .nullArray | .emptyArray => 0
  | .overlayableArray _ _ => 1
  | .array elements => 1 + blocksOf elements

/-- The blocks behind a pointer: an array is one with its elements, and so is any other
object. -/
def UaValue.held : UaValue → Nat
  | .nullArray => UaValue.nullArray.blocks
  | .emptyArray => UaValue.emptyArray.blocks
  | .overlayableArray length memory => (UaValue.overlayableArray length memory).blocks
  | .array elements => (UaValue.array elements).blocks
  | data => 1 + data.blocks

def blocksOf : List UaValue → Nat
  | [] => 0
  | value :: values => value.blocks + blocksOf values

end

/-- The response in memory.  Its header comes first, which `serviceResult` is a member of. -/
def readResponseOf : UaValue → Option UaReadResponse
  | .struct [header, results, diagnosticInfos] =>
    match serviceResultOf header, dataValuesOf results with
    | some serviceResult, some dataValues =>
      some { serviceResult := serviceResult, results := dataValues,
             memberBlocks := header.blocks + results.blocks + diagnosticInfos.blocks }
    | _, _ => none
  | _ => none

/-! ## What is decoded can be looked at -/

/-- The entries of the table that a response to a read goes through. -/
structure ReadTypes (table : UaTypeTable) : Prop where
  responseHeader : table.types[uaTypesResponseheader]? = some responseHeaderType
  localizedText : table.types[uaTypesLocalizedtext]? = some (builtinType uaTypesLocalizedtext)
  dataValue : table.types[uaTypesDatavalue]? = some (builtinType uaTypesDatavalue)

theorem uaTypesTable_readTypes : ReadTypes uaTypesTable where
  responseHeader := uaTypesTable_getElem? (by decide)
  localizedText := uaTypesTable_getElem? (by decide)
  dataValue := uaTypesTable_getElem? (by decide)

section

variable {table : UaTypeTable}

theorem jumpIndex_builtin {i : Nat} {type : UaDataType} (hi : i < uaBuiltinTypesCount)
    (h : table.types[i]? = some type) : type.jumpIndex = i := by
  obtain ⟨entry, hentry, hbuiltin, hindex⟩ := table.builtins i hi
  rw [hentry] at h
  cases h
  simp [UaDataType.jumpIndex, hbuiltin, hindex]

/-- Types that hold no others. -/
def plainIndices : List Nat := [0, 1, 2, 3, 4, 5, 6, 7, 8, 9, 10, 11, 12, 13, 14, 15, 16, 17, 18, 20]

theorem Typed.plainTyped {type : UaDataType} {value : UaValue} (h : Typed table type value)
    (hindex : type.jumpIndex ∈ plainIndices) : PlainTyped type.jumpIndex value := by
  cases h with
  | plain h => exact h
  | struct index _ =>
    rcases index with index | index <;> rw [index] at hindex <;> exact absurd hindex (by decide)
  | encodedObject index => rw [index] at hindex; exact absurd hindex (by decide)
  | decodedObject index => rw [index] at hindex; exact absurd hindex (by decide)
  | dataValue index => rw [index] at hindex; exact absurd hindex (by decide)
  | variant index => rw [index] at hindex; exact absurd hindex (by decide)
  | diagnosticInfo index => rw [index] at hindex; exact absurd hindex (by decide)

theorem plainTyped_builtin {i : Nat} {type : UaDataType} {value : UaValue}
    (hi : i ∈ plainIndices) (hfound : table.types[i]? = some type) (h : Typed table type value) :
    PlainTyped i value := by
  have hlt : i < uaBuiltinTypesCount := by
    have hall : ∀ i ∈ plainIndices, i < uaBuiltinTypesCount := by decide
    exact hall i hi
  have hjump := jumpIndex_builtin hlt hfound
  rw [← hjump] at hi ⊢
  exact h.plainTyped hi

theorem contentOf_of_unread {i : Nat} (hi : i ∉ unreadTypes) (data : UaValue) :
    (contentOf i data).isSome = true := by
  rw [contentOf, dif_pos hi]
  rfl

theorem unreadTypes_cases {i : Nat} (hi : i ∈ unreadTypes) :
    i = uaTypesLocalizedtext ∨ i = uaTypesFloat ∨ i = uaTypesDouble ∨ i = uaTypesUint16 := by
  simpa [unreadTypes] using hi

theorem readContentOf_isSome {i : Nat} {data : UaValue} (hi : i ∈ unreadTypes)
    (h : PlainTyped i data) : (readContentOf i data).isSome = true := by
  rcases unreadTypes_cases hi with rfl | rfl | rfl | rfl
  · cases data with
    | localizedText locale text =>
      have hlength : (text.getD []).length < 2 ^ 31 := by
        cases text with
        | none => exact Nat.two_pow_pos 31
        | some t => exact h.2 t rfl
      rw [readContentOf, dif_pos rfl, dif_pos hlength]
      rfl
    | _ => exact h.elim
  · cases data with
    | uint32 bits => rfl
    | _ => exact h.elim
  · cases data with
    | uint64 bits => rfl
    | _ => exact h.elim
  · cases data with
    | uint16 value => rfl
    | _ => exact h.elim

theorem contentOf_isSome {i : Nat} {type : UaDataType} {data : UaValue}
    (hfound : table.types[i]? = some type) (h : Typed table type data) :
    (contentOf i data).isSome = true := by
  by_cases hi : i ∉ unreadTypes
  · exact contentOf_of_unread hi data
  · have hplain : ∀ i ∈ unreadTypes, i ∈ plainIndices := by decide
    rw [contentOf, dif_neg hi]
    have hunread := not_not.mp hi
    exact readContentOf_isSome hunread (plainTyped_builtin (hplain i hunread) hfound h)

theorem contentOf_firstNumber {i : Nat} (hi : i ≠ uaTypesLocalizedtext) (memory : Bytes) :
    (contentOf i (firstNumber i memory)).isSome = true := by
  by_cases hunread : i ∉ unreadTypes
  · exact contentOf_of_unread hunread _
  · rw [contentOf, dif_neg hunread]
    rcases unreadTypes_cases (not_not.mp hunread) with rfl | rfl | rfl | rfl
    · exact absurd rfl hi
    · rfl
    · rfl
    · rfl

theorem PlainTyped.not_array {index : Nat} {value : UaValue} (h : PlainTyped index value) :
    value.isArray = false := by
  unfold PlainTyped at h
  split at h <;> first | rfl | exact h.elim

theorem VariantTyped.not_array {value : UaValue} (h : VariantTyped table value) :
    value.isArray = false := by
  cases h <;> rfl

theorem Typed.not_array {type : UaDataType} {value : UaValue} (h : Typed table type value) :
    value.isArray = false := by
  cases h with
  | plain h => exact h.not_array
  | variant _ h => exact h.not_array
  | _ => rfl

theorem variantOf_scalar (i : Nat) {data : UaValue} (h : data.isArray = false)
    (dimensions : UaValue) :
    variantOf (.variant (some i) data dimensions) = (contentOf i data).map (.holding 0) := by
  cases data with
  | nullArray => cases h
  | emptyArray => cases h
  | overlayableArray _ _ => cases h
  | array _ => cases h
  | _ => rfl

theorem variantOf_array (htypes : ReadTypes table) {i : Nat} {type : UaDataType}
    {data : UaValue} (hfound : table.types[i]? = some type) (h : ArrayTyped table type data)
    (dimensions : UaValue) : (variantOf (.variant (some i) data dimensions)).isSome = true := by
  cases h with
  | null => rfl
  | empty => rfl
  | overlayable hoverlayable _ _ _ =>
    have hi : i ≠ uaTypesLocalizedtext := by
      intro hi
      rw [hi, htypes.localizedText] at hfound
      cases hfound
      exact absurd hoverlayable (by decide)
    show ((contentOf i (firstNumber i _)).map _).isSome = true
    rw [Option.isSome_map]
    exact contentOf_firstNumber hi _
  | @elements _ values hpositive _ helements =>
    cases values with
    | nil => exact absurd hpositive (Nat.lt_irrefl 0)
    | cons element elements =>
      show ((contentOf i element).map _).isSome = true
      rw [Option.isSome_map]
      exact contentOf_isSome hfound (helements element List.mem_cons_self)

theorem variantOf_isSome (htypes : ReadTypes table) {value : UaValue}
    (h : VariantTyped table value) : (variantOf value).isSome = true := by
  cases h with
  | empty => rfl
  | scalar hfound htyped =>
    rw [variantOf_scalar _ htyped.not_array, Option.isSome_map]
    exact contentOf_isSome hfound htyped
  | array hfound htyped _ _ => exact variantOf_array htypes hfound htyped _

theorem dataValueOf_isSome (htypes : ReadTypes table) {type : UaDataType} {value : UaValue}
    (hindex : type.jumpIndex = uaTypesDatavalue) (h : Typed table type value) :
    (dataValueOf value).isSome = true := by
  obtain ⟨variant, _, _, _, _, _, rfl, hvariant⟩ := h.dataValue_inv hindex
  cases variant with
  | none => rfl
  | some v =>
    show ((variantOf v).map _).isSome = true
    rw [Option.isSome_map]
    exact variantOf_isSome htypes (hvariant v rfl)

theorem mapM_isSome {α β : Type} {f : α → Option β} {xs : List α}
    (h : ∀ x ∈ xs, (f x).isSome = true) : (xs.mapM f).isSome = true := by
  induction xs with
  | nil => rfl
  | cons x xs ih =>
    obtain ⟨y, hy⟩ := Option.isSome_iff_exists.mp (h x List.mem_cons_self)
    obtain ⟨ys, hys⟩ :=
      Option.isSome_iff_exists.mp (ih fun z hz => h z (List.mem_cons_of_mem x hz))
    simp [List.mapM_cons, hy, hys]

theorem dataValuesOf_isSome (htypes : ReadTypes table) {type : UaDataType} {value : UaValue}
    (hfound : table.types[uaTypesDatavalue]? = some type) (h : ArrayTyped table type value) :
    (dataValuesOf value).isSome = true := by
  have hindex := jumpIndex_builtin (by decide) hfound
  cases h with
  | null => rfl
  | empty => rfl
  | overlayable hoverlayable _ _ _ =>
    rw [htypes.dataValue] at hfound
    cases hfound
    exact absurd hoverlayable (by decide)
  | elements _ _ helements =>
    exact mapM_isSome fun v hv => dataValueOf_isSome htypes hindex (helements v hv)

/-- The third member of the header is the result of the service. -/
theorem serviceResultOf_isSome {value : UaValue} (h : Typed table responseHeaderType value) :
    (serviceResultOf value).isSome = true := by
  obtain ⟨values, rfl, hvalues⟩ := h.struct_inv rfl
  obtain ⟨_, timestamp, values, rfl, -, -, hvalues⟩ := hvalues.scalar_inv rfl
  obtain ⟨_, requestHandle, values, rfl, -, -, hvalues⟩ := hvalues.scalar_inv rfl
  obtain ⟨_, result, values, rfl, hfound, hresult, -⟩ := hvalues.scalar_inv rfl
  have htyped : PlainTyped uaTypesStatuscode result := plainTyped_builtin (by decide) hfound hresult
  cases result with
  | uint32 serviceResult => rfl
  | _ => exact htyped.elim

/-- The elements of an array that is there. -/
def UaValue.elements : UaValue → List UaValue
  | .array values => values
  | _ => []

/-- The variant of a data value, if it has one. -/
def UaValue.variant? : UaValue → Option UaValue
  | .dataValue v _ _ _ _ _ => v
  | _ => none

/-- A data value, as it was decoded and as the poller looks at it.  All that is in the
variant is of the type that the variant names. -/
structure ReadAs (table : UaTypeTable) (value : UaValue) (dataValue : UaDataValue) : Prop where
  looked : dataValueOf value = some dataValue
  typed : ∀ variant, value.variant? = some variant → VariantTyped table variant

theorem readAs_of_typed {type : UaDataType} {value : UaValue}
    {dataValue : UaDataValue} (hindex : type.jumpIndex = uaTypesDatavalue)
    (h : Typed table type value) (hlooked : dataValueOf value = some dataValue) :
    ReadAs table value dataValue := by
  obtain ⟨variant, _, _, _, _, _, rfl, hvariant⟩ := h.dataValue_inv hindex
  exact ⟨hlooked, hvariant⟩

theorem mapM_forall₂ {α β : Type} {f : α → Option β} {R : α → β → Prop} {xs : List α} {ys : List β}
    (h : xs.mapM f = some ys) (hR : ∀ x ∈ xs, ∀ y, f x = some y → R x y) :
    List.Forall₂ R xs ys := by
  induction xs generalizing ys with
  | nil =>
    cases h
    exact .nil
  | cons x xs ih =>
    rw [List.mapM_cons] at h
    obtain ⟨y, hy, h⟩ := Option.bind_eq_some_iff.mp h
    obtain ⟨ys', hys, h⟩ := Option.bind_eq_some_iff.mp h
    cases h
    exact .cons (hR x List.mem_cons_self y hy)
      (ih hys fun z hz => hR z (List.mem_cons_of_mem x hz))

theorem dataValuesOf_readAs {type : UaDataType} {value : UaValue}
    {dataValues : List UaDataValue} (hfound : table.types[uaTypesDatavalue]? = some type)
    (h : ArrayTyped table type value) (hlooked : dataValuesOf value = some dataValues) :
    List.Forall₂ (ReadAs table) value.elements dataValues := by
  have hindex := jumpIndex_builtin (by decide) hfound
  cases h with
  | null =>
    cases hlooked
    exact .nil
  | empty =>
    cases hlooked
    exact .nil
  | overlayable _ _ _ _ => cases hlooked
  | elements _ _ helements =>
    exact mapM_forall₂ hlooked fun v hv _ hdataValue =>
      readAs_of_typed hindex (helements v hv) hdataValue

/-- The members of a response have what the poller looks at. -/
structure ReadResponse (table : UaTypeTable) (values : List UaValue) (response : UaReadResponse) :
    Prop where
  looked : readResponseOf (.struct values) = some response
  results : ∃ header results diagnosticInfos, values = [header, results, diagnosticInfos] ∧
    List.Forall₂ (ReadAs table) results.elements response.results

theorem readResponse_of_typed (htypes : ReadTypes table) {values : List UaValue}
    (h : MembersTyped table readResponseType.members values) :
    ∃ response, ReadResponse table values response := by
  obtain ⟨headerType, header, values, rfl, hheader, htyped, hvalues⟩ := h.scalar_inv rfl
  obtain ⟨_, results, values, rfl, hdataValue, hresults, hvalues⟩ := hvalues.array_inv rfl
  obtain ⟨_, diagnosticInfos, values, rfl, -, -, hvalues⟩ := hvalues.array_inv rfl
  have hlast := hvalues.nil_inv
  subst hlast
  have hheaderType : headerType = responseHeaderType :=
    Option.some.inj (hheader.symm.trans htypes.responseHeader)
  obtain ⟨serviceResult, hserviceResult⟩ :=
    Option.isSome_iff_exists.mp (serviceResultOf_isSome (hheaderType ▸ htyped))
  obtain ⟨dataValues, hdataValues⟩ :=
    Option.isSome_iff_exists.mp (dataValuesOf_isSome htypes hdataValue hresults)
  obtain ⟨response, hresponse, heq⟩ : ∃ response,
      readResponseOf (.struct [header, results, diagnosticInfos]) = some response ∧
        response.results = dataValues := by
    simp only [readResponseOf, hserviceResult, hdataValues, Option.some.injEq, exists_eq_left']
  refine ⟨response, hresponse, header, results, diagnosticInfos, rfl, ?_⟩
  rw [heq]
  exact dataValuesOf_readAs hdataValue hresults hdataValues

end

/-- Whatever a server has sent, a response to a read that is decoded with GOOD is one the
poller can look at: all that is in a variant is of the type that the variant names, and so
each text is as short as its length was read. -/
theorem uaDecodeBinary_readResponse (message : Bytes) (heap : Heap) {offset : Nat}
    {got : Option (UaValue × Nat)} {ctx : DecodeCtx} (hoffset : offset ≤ message.length + 4)
    (h : (uaDecodeBinary { message := message, table := uaTypesTable, heap := heap } offset
      readResponseType).final? = some ((uaStatuscodeGood, got), ctx)) :
    ∃ values endOffset response, got = some (.struct values, endOffset) ∧
      ReadResponse uaTypesTable values response := by
  have hdecodable : Decodable (DecodeEnv.mk message uaTypesTable heap).table readResponseType :=
    readResponse_decodable
  obtain ⟨result, ctx', hfinal, hgood⟩ := uaDecodeBinary_final? hoffset hdecodable
  rw [hfinal] at h
  cases h
  obtain ⟨values, endOffset, hvalues, htyped, -⟩ := hgood rfl
  obtain ⟨response, hresponse⟩ := readResponse_of_typed uaTypesTable_readTypes htyped
  exact ⟨values, endOffset, response, hvalues, hresponse⟩

/-- The members of the response with one number. -/
def sampleResponseValues : List UaValue :=
  [.struct [.uint64 0, .uint32 1, .uint32 0, .diagnosticInfo none none none none none none none,
      .nullArray, .encodedObject 0 .null none],
    .array [.dataValue (some (.variant (some 9) (.uint32 0x42280000) .nullArray)) none none none
      none none],
    .nullArray]

theorem uaDecodeBinary_readResponse_float :
    ∃ values endOffset response,
      some (UaValue.struct sampleResponseValues, 38) = some (.struct values, endOffset) ∧
        ReadResponse uaTypesTable values response :=
  uaDecodeBinary_readResponse sampleDecodeEnv.message ampleHeap (Nat.zero_le _)
    (show (uaDecodeBinary sampleDecodeEnv 0 readResponseType).final? = some _ from rfl)

end Opcua
end OpcuaGateway
