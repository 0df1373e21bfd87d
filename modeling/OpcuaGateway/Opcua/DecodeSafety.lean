/-
What the decoder keeps to, whatever the message and the memory.

It reads no byte outside the message, looks up no type outside the table, recurses at
most as often as its limit allows, and asks for no more memory than the message is long.
What it decodes with the status GOOD has the type that was asked for.
-/
import OpcuaGateway.Opcua.DecodeBinary
import OpcuaGateway.Opcua.TypeTable

namespace OpcuaGateway
namespace Opcua

open Text (Bytes)
open Effect Effect.Action Numeric

/-! ## Status codes put together -/

theorem or_eq_good {a b : UaStatusCode} :
    a ||| b = uaStatuscodeGood ↔ a = uaStatuscodeGood ∧ b = uaStatuscodeGood := by
  show a ||| b = 0 ↔ a = 0 ∧ b = 0
  constructor
  · intro h
    have hbits : a.toBitVec ||| b.toBitVec = 0#32 := congrArg UInt32.toBitVec h
    obtain ⟨ha, hb⟩ := BitVec.or_eq_zero_iff.mp hbits
    exact ⟨UInt32.toBitVec_inj.mp ha, UInt32.toBitVec_inj.mp hb⟩
  · rintro ⟨rfl, rfl⟩
    rfl

theorem baddecodingerror_ne_good : uaStatuscodeBaddecodingerror ≠ uaStatuscodeGood := by decide

theorem badoutofmemory_ne_good : uaStatuscodeBadoutofmemory ≠ uaStatuscodeGood := by decide

theorem badencodingerror_ne_good : uaStatuscodeBadencodingerror ≠ uaStatuscodeGood := by decide

theorem badinternalerror_ne_good : uaStatuscodeBadinternalerror ≠ uaStatuscodeGood := by decide

/-! ## Values of a type -/

/-- A text whose length fits the signed length of its encoding. -/
def TextTyped (text : Option Bytes) : Prop := ∀ t, text = some t → t.length < 2 ^ 31

def UaIdentifier.Typed : UaIdentifier → Prop
  | .numeric _ => True
  | .string text | .byteString text => TextTyped text
  | .guid id => id.data4.length = 8

/-- What the functions of the jump table that call no other one come to. -/
def PlainTyped : Nat → UaValue → Prop
  | 0, .boolean _ => True
  | 1, .byte _ | 2, .byte _ => True
  | 3, .uint16 _ | 4, .uint16 _ => True
  | 5, .uint32 _ | 6, .uint32 _ | 9, .uint32 _ | 18, .uint32 _ => True
  | 7, .uint64 _ | 8, .uint64 _ | 10, .uint64 _ | 12, .uint64 _ => True
  | 11, .string text | 14, .string text | 15, .string text => TextTyped text
  | 13, .guid value => value.data4.length = 8
  | 16, .nodeId id => id.identifier.Typed
  | 17, .expandedNodeId id uri _ => id.identifier.Typed ∧ TextTyped uri
  | 20, .localizedText locale text => TextTyped locale ∧ TextTyped text
  | _, _ => False

mutual

/-- The value is one of the type. -/
inductive Typed (table : UaTypeTable) : UaDataType → UaValue → Prop
  | plain {type : UaDataType} {value : UaValue} (h : PlainTyped type.jumpIndex value) :
      Typed table type value
  | struct {type : UaDataType} {values : List UaValue}
      (index : type.jumpIndex = 19 ∨ type.jumpIndex = 25)
      (members : MembersTyped table type.members values) : Typed table type (.struct values)
  | encodedObject {type : UaDataType} {typeId : UaAnyNodeId} {body : Option Bytes}
      (index : type.jumpIndex = 21) (encoding : UInt8) (identifier : typeId.identifier.Typed)
      (text : TextTyped body) : Typed table type (.encodedObject encoding typeId body)
  | decodedObject {type content : UaDataType} {i : Nat} {data : UaValue}
      (index : type.jumpIndex = 21) (found : table.types[i]? = some content)
      (typed : Typed table content data) : Typed table type (.decodedObject i data)
  | dataValue {type : UaDataType} {value : Option UaValue} (index : type.jumpIndex = 22)
      (typed : ∀ v, value = some v → VariantTyped table v) (status : Option UInt32)
      (sourceTimestamp : Option UInt64) (sourcePicoseconds : Option UInt16)
      (serverTimestamp : Option UInt64) (serverPicoseconds : Option UInt16) :
      Typed table type (.dataValue value status sourceTimestamp sourcePicoseconds serverTimestamp
        serverPicoseconds)
  | variant {type : UaDataType} {value : UaValue} (index : type.jumpIndex = 23)
      (typed : VariantTyped table value) : Typed table type value
  | diagnosticInfo {type : UaDataType} {inner : Option UaValue} (index : type.jumpIndex = 24)
      (symbolicId namespaceUri localizedText locale : Option UInt32)
      {additionalInfo : Option (Option Bytes)} (text : ∀ t, additionalInfo = some t → TextTyped t)
      (innerStatusCode : Option UInt32) (typed : ∀ v, inner = some v → Typed table type v) :
      Typed table type (.diagnosticInfo symbolicId namespaceUri localizedText locale
        additionalInfo innerStatusCode inner)

/-- The variant holds what its type says. -/
inductive VariantTyped (table : UaTypeTable) : UaValue → Prop
  | empty : VariantTyped table (.variant none .nullArray .nullArray)
  | scalar {type : UaDataType} {i : Nat} {data : UaValue} (found : table.types[i]? = some type)
      (typed : Typed table type data) : VariantTyped table (.variant (some i) data .nullArray)
  | array {type int32 : UaDataType} {i : Nat} {data dimensions : UaValue}
      (found : table.types[i]? = some type) (typed : ArrayTyped table type data)
      (foundInt32 : table.types[uaTypesInt32]? = some int32)
      (typedDimensions : ArrayTyped table int32 dimensions) :
      VariantTyped table (.variant (some i) data dimensions)

inductive ArrayTyped (table : UaTypeTable) : UaDataType → UaValue → Prop
  | null (type : UaDataType) : ArrayTyped table type .nullArray
  | empty (type : UaDataType) : ArrayTyped table type .emptyArray
  | overlayable {type : UaDataType} {length : Nat} {memory : Bytes} (h : type.overlayable = true)
      (positive : 0 < length) (short : length < 2 ^ 31)
      (whole : memory.length = type.memSize * length) :
      ArrayTyped table type (.overlayableArray length memory)
  | elements {type : UaDataType} {values : List UaValue} (positive : 0 < values.length)
      (short : values.length < 2 ^ 31) (typed : ∀ v ∈ values, Typed table type v) :
      ArrayTyped table type (.array values)

inductive MembersTyped (table : UaTypeTable) : List UaDataTypeMember → List UaValue → Prop
  | nil : MembersTyped table [] []
  | scalar {member : UaDataTypeMember} {type : UaDataType} {members : List UaDataTypeMember}
      {value : UaValue} {values : List UaValue} (single : member.isArray = false)
      (found : table.types[member.memberTypeIndex]? = some type) (typed : Typed table type value)
      (rest : MembersTyped table members values) :
      MembersTyped table (member :: members) (value :: values)
  | array {member : UaDataTypeMember} {type : UaDataType} {members : List UaDataTypeMember}
      {value : UaValue} {values : List UaValue} (several : member.isArray = true)
      (found : table.types[member.memberTypeIndex]? = some type)
      (typed : ArrayTyped table type value) (rest : MembersTyped table members values) :
      MembersTyped table (member :: members) (value :: values)

end

section

variable {table : UaTypeTable} {type : UaDataType} {value : UaValue}

theorem Typed.struct_inv (hindex : type.jumpIndex = 25) (h : Typed table type value) :
    ∃ values, value = .struct values ∧ MembersTyped table type.members values := by
  cases h with
  | plain h => rw [hindex] at h; cases value <;> exact h.elim
  | struct _ hmembers => exact ⟨_, rfl, hmembers⟩
  | encodedObject index => rw [hindex] at index; exact absurd index (by decide)
  | decodedObject index => rw [hindex] at index; exact absurd index (by decide)
  | dataValue index => rw [hindex] at index; exact absurd index (by decide)
  | variant index => rw [hindex] at index; exact absurd index (by decide)
  | diagnosticInfo index => rw [hindex] at index; exact absurd index (by decide)

theorem Typed.dataValue_inv (hindex : type.jumpIndex = 22) (h : Typed table type value) :
    ∃ variant status sourceTimestamp sourcePicoseconds serverTimestamp serverPicoseconds,
      value = .dataValue variant status sourceTimestamp sourcePicoseconds serverTimestamp
        serverPicoseconds ∧ ∀ v, variant = some v → VariantTyped table v := by
  cases h with
  | plain h => rw [hindex] at h; cases value <;> exact h.elim
  | struct index _ => rw [hindex] at index; exact absurd index (by decide)
  | encodedObject index => rw [hindex] at index; exact absurd index (by decide)
  | decodedObject index => rw [hindex] at index; exact absurd index (by decide)
  | variant index => rw [hindex] at index; exact absurd index (by decide)
  | diagnosticInfo index => rw [hindex] at index; exact absurd index (by decide)
  | dataValue _ hvariant => exact ⟨_, _, _, _, _, _, rfl, hvariant⟩

variable {m : UaDataTypeMember} {members : List UaDataTypeMember} {values : List UaValue}

theorem MembersTyped.nil_inv (h : MembersTyped table [] values) : values = [] := by
  cases h
  rfl

theorem MembersTyped.scalar_inv (hsingle : m.isArray = false)
    (h : MembersTyped table (m :: members) values) :
    ∃ type first rest, values = first :: rest ∧
      table.types[m.memberTypeIndex]? = some type ∧ Typed table type first ∧
      MembersTyped table members rest := by
  cases h with
  | scalar _ found typed rest => exact ⟨_, _, _, rfl, found, typed, rest⟩
  | array several => rw [hsingle] at several; cases several

theorem MembersTyped.array_inv (hseveral : m.isArray = true)
    (h : MembersTyped table (m :: members) values) :
    ∃ type first rest, values = first :: rest ∧
      table.types[m.memberTypeIndex]? = some type ∧ ArrayTyped table type first ∧
      MembersTyped table members rest := by
  cases h with
  | scalar single => rw [hseveral] at single; cases single
  | array _ found typed rest => exact ⟨_, _, _, rfl, found, typed, rest⟩

end

/-! ## Safe runs -/

/-- A request the message accounts for, or one for a single object. -/
def Fits (env : DecodeEnv) (r : Request) : Prop :=
  r.granted = true →
    r.size < 32 * (env.message.length + 1) ∨ ∃ type ∈ env.table.types, r.size = type.memSize

/-- No fault, every request fits, and what the run comes to is as `R` says. -/
def Safe {α : Type} (env : DecodeEnv) (m : Decode α) (ctx : DecodeCtx)
    (R : α → DecodeCtx → Prop) : Prop :=
  Meets m ctx (fun log a ctx' => (∀ r ∈ log, Fits env r) ∧ R a ctx') (fun _ _ => False)

section

variable {env : DecodeEnv} {α β : Type} {ctx : DecodeCtx}

theorem Safe.pure {R : α → DecodeCtx → Prop} {a : α} (h : R a ctx) :
    Safe env (Pure.pure a) ctx R :=
  ⟨fun _ hr => absurd hr List.not_mem_nil, h⟩

theorem Safe.current {R : DecodeCtx → DecodeCtx → Prop} (h : R ctx ctx) :
    Safe env Action.current ctx R :=
  ⟨fun _ hr => absurd hr List.not_mem_nil, h⟩

theorem Safe.update {f : DecodeCtx → α × DecodeCtx} {R : α → DecodeCtx → Prop}
    (h : R (f ctx).1 (f ctx).2) : Safe env (Action.update f) ctx R :=
  ⟨fun _ hr => absurd hr List.not_mem_nil, h⟩

theorem Safe.bind {m : Decode α} {f : α → Decode β} {R : β → DecodeCtx → Prop}
    (h : Safe env m ctx fun a ctx' => Safe env (f a) ctx' R) : Safe env (m >>= f) ctx R := by
  refine Meets.bind (h.mono ?_ fun _ _ hfalse => hfalse)
  rintro log a ctx' ⟨hlog, hsafe⟩
  refine hsafe.mono ?_ fun _ _ hfalse => hfalse
  rintro log' b ctx'' ⟨hlog', hR⟩
  refine ⟨?_, hR⟩
  intro r hr
  rcases List.mem_append.mp hr with hr | hr
  · exact hlog r hr
  · exact hlog' r hr

theorem Safe.mono {m : Decode α} {R R' : α → DecodeCtx → Prop} (h : Safe env m ctx R)
    (hR : ∀ a ctx', R a ctx' → R' a ctx') : Safe env m ctx R' :=
  Meets.mono h (fun _ _ _ hkept => ⟨hkept.1, hR _ _ hkept.2⟩) fun _ _ hfalse => hfalse

/-- A safe run returns. -/
theorem Safe.returns {m : Decode α} {R : α → DecodeCtx → Prop} (h : Safe env m ctx R) :
    ∃ a ctx', (m.run ctx).exit = .ok (a, ctx') ∧ R a ctx' ∧ ∀ r ∈ (m.run ctx).log, Fits env r := by
  unfold Safe Meets at h
  split at h
  · rename_i a ctx' hexit
    exact ⟨a, ctx', hexit, h.2, h.1⟩
  · exact h.elim

/-- The position stays next to the message, and the depth within the limit. -/
structure DecodeCtx.Within (env : DecodeEnv) (ctx : DecodeCtx) : Prop where
  pos : ctx.pos ≤ env.message.length + 4
  depth : ctx.depth ≤ uaEncodingMaxRecursion + 1

theorem decodeNumberAs_safe (n : Nat) {f : Nat → α} {P : α → Prop} (hP : ∀ k, P (f k))
    (h : ctx.Within env) :
    Safe env (decodeNumberAs env n f) ctx fun r ctx' =>
      ctx'.Within env ∧ ctx'.depth = ctx.depth ∧
        (r.1 = uaStatuscodeGood → ctx'.pos ≤ env.message.length) ∧ P r.2 := by
  by_cases hn : ctx.pos + n ≤ env.message.length
  · refine Safe.bind ((meets_of_ok (decodeNumber_run_of_le hn)).mpr
      ⟨fun _ hr => absurd hr List.not_mem_nil,
        Safe.pure ⟨⟨?_, h.depth⟩, rfl, fun _ => hn, hP _⟩⟩)
    exact Nat.le_trans hn (Nat.le_add_right _ 4)
  · exact Safe.bind ((meets_of_ok (decodeNumber_run_of_lt (Nat.lt_of_not_le hn))).mpr
      ⟨fun _ hr => absurd hr List.not_mem_nil,
        Safe.pure ⟨h, rfl, fun hgood => absurd hgood baddecodingerror_ne_good, hP _⟩⟩)

/-- What every decoder keeps when it starts at a depth of at least `d`: the run is safe,
the depth is no less afterwards, and what it has decoded with GOOD is as `P` says. -/
def Decodes (env : DecodeEnv) (d : Nat) (P : α → Prop) (m : Decode (UaStatusCode × α)) : Prop :=
  ∀ ctx, ctx.Within env → d ≤ ctx.depth →
    Safe env m ctx fun r ctx' =>
      ctx'.Within env ∧ d ≤ ctx'.depth ∧ (r.1 = uaStatuscodeGood → P r.2)

variable {d : Nat} {P : α → Prop} {Q : β → Prop}

theorem Decodes.safe {m : Decode (UaStatusCode × α)} (h : Decodes env d P m)
    (hctx : ctx.Within env) (hd : d ≤ ctx.depth) :
    Safe env m ctx fun r ctx' =>
      ctx'.Within env ∧ d ≤ ctx'.depth ∧ (r.1 = uaStatuscodeGood → P r.2) :=
  h ctx hctx hd

theorem Decodes.ret {ret : UaStatusCode} {a : α} (h : ret = uaStatuscodeGood → P a) :
    Decodes env d P (Pure.pure (ret, a)) :=
  fun _ hctx hd => Safe.pure ⟨hctx, hd, h⟩

theorem Decodes.bind {m : Decode (UaStatusCode × α)}
    {f : UaStatusCode × α → Decode (UaStatusCode × β)} (hm : Decodes env d P m)
    (hf : ∀ ret a, (ret = uaStatuscodeGood → P a) → Decodes env d Q (f (ret, a))) :
    Decodes env d Q (m >>= f) := by
  intro ctx hctx hd
  refine Safe.bind ((hm ctx hctx hd).mono ?_)
  rintro ⟨ret, a⟩ ctx' ⟨hctx', hd', hP⟩
  exact hf ret a hP ctx' hctx' hd'

theorem Decodes.mono {m : Decode (UaStatusCode × α)} {P' : α → Prop} (h : Decodes env d P m)
    (hP : ∀ a, P a → P' a) : Decodes env d P' m :=
  fun ctx hctx hd => (h ctx hctx hd).mono fun _ _ ⟨hctx', hd', hgood⟩ =>
    ⟨hctx', hd', fun hret => hP _ (hgood hret)⟩

/-- What has failed is returned as it is. -/
theorem Decodes.unless_failed {ret : UaStatusCode} {a : α} {m : Decode (UaStatusCode × α)}
    (h : ret = uaStatuscodeGood → Decodes env d P m) :
    Decodes env d P (if ret ≠ uaStatuscodeGood then Pure.pure (ret, a) else m) := by
  by_cases hret : ret ≠ uaStatuscodeGood
  · rw [if_pos hret]
    exact Decodes.ret fun hgood => absurd hgood hret
  · rw [if_neg hret]
    exact h (not_not.mp hret)

/-- Nothing is deeper than the limit. -/
theorem Decodes.of_deep {m : Decode (UaStatusCode × α)} (h : uaEncodingMaxRecursion + 1 < d) :
    Decodes env d P m :=
  fun _ hctx hd => absurd (Nat.le_trans hd hctx.depth) (Nat.not_le.mpr h)

theorem decodeNumberAs_decodes (n : Nat) {f : Nat → α} (h : ∀ k, P (f k)) :
    Decodes env d P (decodeNumberAs env n f) :=
  fun _ hctx hd => (decodeNumberAs_safe n h hctx).mono fun _ _ ⟨hctx', hdepth, _, hP⟩ =>
    ⟨hctx', hdepth ▸ hd, fun _ => hP⟩

theorem uaCalloc_safe {size : Nat} {R : Bool → DecodeCtx → Prop}
    (hfits : Fits env { size := size, granted := env.heap.grants ctx.requests size })
    (h : R (env.heap.grants ctx.requests size) { ctx with requests := ctx.requests + 1 }) :
    Safe env (uaCalloc env size) ctx R := by
  refine (meets_of_ok (uaCalloc_run env size ctx)).mpr ⟨?_, h⟩
  intro r hr
  rw [List.mem_singleton.mp hr]
  exact hfits

theorem readBytes_safe {n : Nat} {R : Bytes → DecodeCtx → Prop}
    (h : ctx.pos + n ≤ env.message.length)
    (hR : R ((env.message.drop ctx.pos).take n) { ctx with pos := ctx.pos + n }) :
    Safe env (readBytes env n) ctx R :=
  (meets_of_ok (readBytes_run h)).mpr ⟨fun _ hr => absurd hr List.not_mem_nil, hR⟩

/-- Memory for one object. -/
theorem Decodes.calloc_object {type : UaDataType} {f : Bool → Decode (UaStatusCode × β)}
    (htype : type ∈ env.table.types) (hf : ∀ granted, Decodes env d Q (f granted)) :
    Decodes env d Q (uaCalloc env type.memSize >>= f) := by
  intro ctx hctx hd
  refine Safe.bind (uaCalloc_safe (fun _ => Or.inr ⟨type, htype, rfl⟩) ?_)
  exact hf _ _ ⟨hctx.pos, hctx.depth⟩ hd

theorem uaTypes_safe {i : Nat} {type : UaDataType} {R : UaDataType → DecodeCtx → Prop}
    (found : env.table.types[i]? = some type) (h : R type ctx) :
    Safe env (uaTypes env i) ctx R :=
  (meets_of_ok (uaTypes_run found ctx)).mpr ⟨fun _ hr => absurd hr List.not_mem_nil, h⟩

theorem Decodes.types {i : Nat} {type : UaDataType} {f : UaDataType → Decode (UaStatusCode × β)}
    (found : env.table.types[i]? = some type) (hf : Decodes env d Q (f type)) :
    Decodes env d Q (uaTypes env i >>= f) :=
  fun ctx hctx hd => Safe.bind (uaTypes_safe found (hf ctx hctx hd))

/-! ## Arrays and texts -/

theorem decodeElements_decodes {element : Decode (UaStatusCode × UaValue)} {P : UaValue → Prop}
    (h : Decodes env d P element) (n : Nat) :
    Decodes env d (fun values => values.length = n ∧ ∀ v ∈ values, P v)
      (decodeElements element n) := by
  induction n with
  | zero => exact Decodes.ret fun _ => ⟨rfl, fun v hv => absurd hv List.not_mem_nil⟩
  | succ n ih =>
    refine h.bind fun ret value hvalue => Decodes.unless_failed fun hret => ?_
    refine ih.bind fun ret' values hvalues => Decodes.ret fun hgood => ?_
    obtain ⟨hlength, hall⟩ := hvalues hgood
    refine ⟨by rw [List.length_cons, hlength], fun v hv => ?_⟩
    rcases List.mem_cons.mp hv with rfl | hv
    · exact hvalue hret
    · exact hall v hv

/-- An array of the type, and its memory was in the message. -/
def ArrayFits (env : DecodeEnv) (type : UaDataType) (value : UaValue) : Prop :=
  ArrayTyped env.table type value ∧
    ∀ length memory, value = .overlayableArray length memory →
      memory.length ≤ env.message.length

theorem arrayFits_of_notOverlayable {type : UaDataType} {value : UaValue}
    (h : ArrayTyped env.table type value)
    (hvalue : ∀ length memory, value ≠ .overlayableArray length memory) :
    ArrayFits env type value :=
  ⟨h, fun length memory heq => absurd heq (hvalue length memory)⟩

/-- The message is at least a thirty-second of the memory that is asked for, and then the
product of type `size_t` has not wrapped. -/
theorem arrayRequest_fits {type : UaDataType} {length : Nat}
    (h : ctx.pos + type.memSize * length % 2 ^ 32 / 32 ≤ env.message.length) (k : Nat) :
    Fits env { size := length * type.memSize, granted := env.heap.grants k (length * type.memSize) } := by
  intro hgranted
  have haddressable : length * type.memSize < 2 ^ 32 := env.heap.addressable _ _ hgranted
  have hwhole : type.memSize * length % 2 ^ 32 = length * type.memSize := by
    rw [Nat.mul_comm type.memSize length, Nat.mod_eq_of_lt haddressable]
  rw [hwhole] at h
  left
  show length * type.memSize < 32 * (env.message.length + 1)
  generalize length * type.memSize = size at *
  omega

theorem arrayDecodeBinary_decodes {element : Decode (UaStatusCode × UaValue)} {type : UaDataType}
    (h : Decodes env d (Typed env.table type) element) :
    Decodes env d (ArrayFits env type) (arrayDecodeBinary env element type) := by
  refine (decodeNumberAs_decodes (P := fun _ => True) 4 fun _ => trivial).bind fun ret word _ =>
    Decodes.unless_failed fun _ => ?_
  dsimp only
  by_cases hsign : word.toBitVec.toInt ≤ 0
  · rw [if_pos hsign]
    refine Decodes.ret fun _ => ?_
    by_cases hnegative : word.toBitVec.toInt < 0
    · rw [if_pos hnegative]
      exact arrayFits_of_notOverlayable (.null type) fun _ _ heq => by cases heq
    · rw [if_neg hnegative]
      exact arrayFits_of_notOverlayable (.empty type) fun _ _ heq => by cases heq
  rw [if_neg hsign]
  have hpositive : 0 < word.toBitVec.toInt.toNat := by omega
  have hshort : word.toBitVec.toInt.toNat < 2 ^ 31 := by
    have := word.toBitVec.toInt_lt
    omega
  generalize word.toBitVec.toInt.toNat = length at hpositive hshort ⊢
  intro ctx hctx hd
  refine Safe.bind (Safe.current ?_)
  by_cases hbogus : env.message.length < ctx.pos + type.memSize * length % 2 ^ 32 / 32
  · rw [if_pos hbogus]
    exact Safe.pure ⟨hctx, hd, fun hgood => absurd hgood baddecodingerror_ne_good⟩
  rw [if_neg hbogus]
  have hfits := arrayRequest_fits (Nat.not_lt.mp hbogus) ctx.requests
  refine Safe.bind (uaCalloc_safe hfits ?_)
  rcases hgranted : env.heap.grants ctx.requests (length * type.memSize) with _ | _
  · exact Safe.pure ⟨⟨hctx.pos, hctx.depth⟩, hd, fun hgood => absurd hgood badoutofmemory_ne_good⟩
  have haddressable : length * type.memSize < 2 ^ 32 := env.heap.addressable _ _ hgranted
  have hwhole : type.memSize * length % 2 ^ 32 = type.memSize * length := by
    rw [Nat.mod_eq_of_lt]
    rwa [Nat.mul_comm]
  show Safe env (if type.overlayable = true then _ else _) _ _
  by_cases hoverlayable : type.overlayable = true
  · rw [if_pos hoverlayable]
    refine Safe.bind (Safe.current ?_)
    rw [hwhole]
    by_cases hshorter : env.message.length < ctx.pos + type.memSize * length
    · rw [if_pos hshorter]
      exact Safe.pure ⟨⟨hctx.pos, hctx.depth⟩, hd,
        fun hgood => absurd hgood baddecodingerror_ne_good⟩
    · rw [if_neg hshorter]
      have hle : ctx.pos + type.memSize * length ≤ env.message.length := Nat.not_lt.mp hshorter
      refine Safe.bind (readBytes_safe hle (Safe.pure ⟨⟨?_, hctx.depth⟩, hd, fun _ => ?_⟩))
      · exact Nat.le_trans hle (Nat.le_add_right _ 4)
      · have hlength : ((env.message.drop ctx.pos).take (type.memSize * length)).length =
            type.memSize * length := by
          rw [List.length_take, List.length_drop]
          omega
        refine ⟨.overlayable hoverlayable hpositive hshort hlength, fun _ _ heq => ?_⟩
        cases heq
        rw [hlength]
        omega
  · rw [if_neg hoverlayable]
    refine (decodeElements_decodes h length).bind (fun ret values hvalues =>
      Decodes.unless_failed fun hret => Decodes.ret fun _ => ?_) _ ⟨hctx.pos, hctx.depth⟩ hd
    obtain ⟨hlength, hall⟩ := hvalues hret
    exact arrayFits_of_notOverlayable (.elements (hlength ▸ hpositive) (hlength ▸ hshort) hall)
      fun _ _ heq => by cases heq

/-- A text that was in the message. -/
def TextFits (env : DecodeEnv) (text : Option Bytes) : Prop :=
  ∀ t, text = some t → t.length < 2 ^ 31 ∧ t.length ≤ env.message.length

theorem TextFits.typed {text : Option Bytes} (h : TextFits env text) : TextTyped text :=
  fun t ht => (h t ht).1

theorem bytes_fits {value : UaValue} (h : ArrayFits env uaByteType value) :
    TextFits env value.bytes := by
  obtain ⟨htyped, hmemory⟩ := h
  intro t ht
  cases htyped with
  | null => cases ht
  | empty =>
    cases ht
    exact ⟨by decide, Nat.zero_le _⟩
  | @overlayable _ length memory _ _ short whole =>
    cases ht
    refine ⟨?_, hmemory _ _ rfl⟩
    rw [whole]
    show 1 * length < 2 ^ 31
    omega
  | elements => cases ht

theorem stringDecodeBinary_decodes : Decodes env d (TextFits env) (stringDecodeBinary env) := by
  have hbyte : Decodes env d (Typed env.table uaByteType) (valued .byte (byteDecodeBinary env)) :=
    (decodeNumberAs_decodes (P := fun _ => True) 1 fun _ => trivial).bind
      fun ret b _ => Decodes.ret fun _ => .plain trivial
  exact (arrayDecodeBinary_decodes hbyte).bind
    fun ret value hvalue => Decodes.ret fun hgood => bytes_fits (hvalue hgood)

/-! ## Identifiers -/

theorem guidDecodeBinary_decodes :
    Decodes env d (fun id => id.data4.length = 8) (guidDecodeBinary env) := by
  refine (decodeNumberAs_decodes (P := fun _ => True) 4 fun _ => trivial).bind fun ret1 data1 _ =>
    (decodeNumberAs_decodes (P := fun _ => True) 2 fun _ => trivial).bind fun ret2 data2 _ =>
    (decodeNumberAs_decodes (P := fun _ => True) 2 fun _ => trivial).bind fun ret3 data3 _ => ?_
  intro ctx hctx hd
  refine Safe.bind (Safe.current ?_)
  by_cases hend : env.message.length < ctx.pos + 8
  · rw [if_pos hend]
    exact Safe.pure ⟨hctx, hd, fun hgood => absurd hgood baddecodingerror_ne_good⟩
  · rw [if_neg hend]
    have hle : ctx.pos + 8 ≤ env.message.length := Nat.not_lt.mp hend
    refine Safe.bind (readBytes_safe hle (Safe.pure ⟨⟨?_, hctx.depth⟩, hd, fun _ => ?_⟩))
    · exact Nat.le_trans hle (Nat.le_add_right _ 4)
    · show ((env.message.drop ctx.pos).take 8).length = 8
      rw [List.length_take, List.length_drop]
      omega

/-- An identifier whose text, if it has one, was in the message. -/
def IdFits (env : DecodeEnv) (id : UaAnyNodeId) : Prop :=
  id.identifier.Typed ∧ id.identifier.text.length ≤ env.message.length

theorem idFits_string {ns : UInt16} {text : Option Bytes} (h : TextFits env text) :
    IdFits env { namespaceIndex := ns, identifier := .string text } ∧
      IdFits env { namespaceIndex := ns, identifier := .byteString text } := by
  cases text with
  | none => exact ⟨⟨h.typed, Nat.zero_le _⟩, ⟨h.typed, Nat.zero_le _⟩⟩
  | some t => exact ⟨⟨h.typed, (h t rfl).2⟩, ⟨h.typed, (h t rfl).2⟩⟩

theorem nodeIdDecodeBinary_decodes : Decodes env d (IdFits env) (nodeIdDecodeBinary env) := by
  have hplain : ∀ ns id, IdFits env { namespaceIndex := ns, identifier := .numeric id } :=
    fun _ _ => ⟨trivial, Nat.zero_le _⟩
  refine (decodeNumberAs_decodes (P := fun _ => True) 1 fun _ => trivial).bind fun ret byte _ =>
    Decodes.unless_failed fun _ => ?_
  dsimp only
  generalize byte &&& ~~~(uaExpandednodeidServerindexFlag ||| uaExpandednodeidNamespaceuriFlag)
    = encodingByte
  split_ifs
  · exact (decodeNumberAs_decodes (P := fun _ => True) 1 fun _ => trivial).bind
      fun _ _ _ => Decodes.ret fun _ => hplain _ _
  · exact (decodeNumberAs_decodes (P := fun _ => True) 1 fun _ => trivial).bind fun _ _ _ =>
      (decodeNumberAs_decodes (P := fun _ => True) 2 fun _ => trivial).bind
        fun _ _ _ => Decodes.ret fun _ => hplain _ _
  · exact (decodeNumberAs_decodes (P := fun _ => True) 2 fun _ => trivial).bind fun _ _ _ =>
      (decodeNumberAs_decodes (P := fun _ => True) 4 fun _ => trivial).bind
        fun _ _ _ => Decodes.ret fun _ => hplain _ _
  · exact (decodeNumberAs_decodes (P := fun _ => True) 2 fun _ => trivial).bind fun _ _ _ =>
      stringDecodeBinary_decodes.bind fun _ _ htext => Decodes.ret fun hgood =>
        (idFits_string (htext (or_eq_good.mp hgood).2)).1
  · exact (decodeNumberAs_decodes (P := fun _ => True) 2 fun _ => trivial).bind fun _ _ _ =>
      guidDecodeBinary_decodes.bind fun _ _ hguid => Decodes.ret fun hgood =>
        ⟨hguid (or_eq_good.mp hgood).2, Nat.zero_le _⟩
  · exact (decodeNumberAs_decodes (P := fun _ => True) 2 fun _ => trivial).bind fun _ _ _ =>
      stringDecodeBinary_decodes.bind fun _ _ htext => Decodes.ret fun hgood =>
        (idFits_string (htext (or_eq_good.mp hgood).2)).2
  · exact Decodes.ret fun hgood => absurd hgood badinternalerror_ne_good

theorem announced_decodes {mask bit : UInt8} {part : Decode (UaStatusCode × α)}
    (h : Decodes env d P part) :
    Decodes env d (fun value => ∀ a, value = some a → P a) (announced mask bit part) := by
  unfold announced
  by_cases hbit : mask &&& bit ≠ 0
  · rw [if_pos hbit]
    refine h.bind fun ret a ha => Decodes.ret fun hgood b hb => ?_
    cases hb
    exact ha hgood
  · rw [if_neg hbit]
    exact Decodes.ret fun _ a ha => by cases ha

theorem announcedText_typed {text : Option (Option Bytes)}
    (h : ∀ t, text = some t → TextFits env t) : TextTyped text.join := by
  intro t ht
  cases text with
  | none => cases ht
  | some text => exact (h text rfl).typed t ht

theorem expandedNodeIdDecodeBinary_decodes {type : UaDataType} (hindex : type.jumpIndex = 17) :
    Decodes env d (Typed env.table type) (expandedNodeIdDecodeBinary env) := by
  intro ctx hctx hd
  refine Safe.bind (Safe.current ?_)
  by_cases hend : env.message.length ≤ ctx.pos
  · rw [if_pos hend]
    exact Safe.pure ⟨hctx, hd, fun hgood => absurd hgood baddecodingerror_ne_good⟩
  rw [if_neg hend]
  have hlt : ctx.pos < env.message.length := Nat.lt_of_not_le hend
  have hpeek : (peekByte env).run ctx =
      { log := [], exit := .ok (env.message[ctx.pos], ctx) } := by
    rw [peekByte, bind_of_ok (current_run ctx), Run.after_nil, List.getElem?_eq_getElem hlt]
    rfl
  refine Safe.bind ((meets_of_ok hpeek).mpr ⟨fun _ hr => absurd hr List.not_mem_nil, ?_⟩)
  refine nodeIdDecodeBinary_decodes.bind (fun ret1 id hid => ?_) ctx hctx hd
  refine (announced_decodes stringDecodeBinary_decodes).bind fun ret2 uri huri => ?_
  refine (announced_decodes (decodeNumberAs_decodes (P := fun _ => True) 4 fun _ => trivial)).bind
    fun ret3 index _ => Decodes.ret fun hgood => ?_
  obtain ⟨h12, -⟩ := or_eq_good.mp hgood
  obtain ⟨h1, h2⟩ := or_eq_good.mp h12
  refine .plain ?_
  rw [hindex]
  refine ⟨?_, announcedText_typed (huri h2)⟩
  split_ifs
  · exact (hid h1).1
  · exact (hid h1).1

theorem localizedTextDecodeBinary_decodes {type : UaDataType} (hindex : type.jumpIndex = 20) :
    Decodes env d (Typed env.table type) (localizedTextDecodeBinary env) := by
  refine (decodeNumberAs_decodes (P := fun _ => True) 1 fun _ => trivial).bind fun ret1 mask _ => ?_
  refine (announced_decodes stringDecodeBinary_decodes).bind fun ret2 locale hlocale => ?_
  refine (announced_decodes stringDecodeBinary_decodes).bind fun ret3 text htext =>
    Decodes.ret fun hgood => ?_
  obtain ⟨h12, h3⟩ := or_eq_good.mp hgood
  obtain ⟨-, h2⟩ := or_eq_good.mp h12
  refine .plain ?_
  rw [hindex]
  exact ⟨announcedText_typed (hlocale h2), announcedText_typed (htext h3)⟩

/-! ## Types that hold others -/

theorem shallower_safe {r : UaStatusCode × α} (hctx : ctx.Within env) (hd : d + 1 ≤ ctx.depth)
    (h : r.1 = uaStatuscodeGood → P r.2) :
    Safe env (shallower >>= fun _ => Pure.pure r) ctx fun r ctx' =>
      ctx'.Within env ∧ d ≤ ctx'.depth ∧ (r.1 = uaStatuscodeGood → P r.2) :=
  Safe.bind (Safe.update (Safe.pure
    ⟨⟨hctx.pos, Nat.le_trans (Nat.sub_le _ 1) hctx.depth⟩, Nat.le_sub_one_of_lt hd, h⟩))

/-- What a level of recursion keeps one level deeper, it keeps here. -/
theorem recursing_decodes {limit : α} {level : Decode (UaStatusCode × α)}
    (h : Decodes env (d + 1) P level) : Decodes env d P (recursing limit level) := by
  intro ctx hctx hd
  refine Safe.bind (Safe.current ?_)
  by_cases hlimit : uaEncodingMaxRecursion < ctx.depth
  · rw [if_pos hlimit]
    exact Safe.pure ⟨hctx, hd, fun hgood => absurd hgood badencodingerror_ne_good⟩
  rw [if_neg hlimit]
  have hdeeper : DecodeCtx.Within env { ctx with depth := ctx.depth + 1 } :=
    ⟨hctx.pos, Nat.succ_le_succ (Nat.not_lt.mp hlimit)⟩
  refine Safe.bind (Safe.update (Safe.bind ((h _ hdeeper (Nat.succ_le_succ hd)).mono ?_)))
  rintro r ctx' ⟨hctx', hd', hgood⟩
  exact shallower_safe hctx' hd' hgood

section

variable {jump : Nat → UaDataType → Decode (UaStatusCode × UaValue)}

theorem decodeMembers_decodes
    (hjump : ∀ type ∈ env.table.types, Decodes env d (Typed env.table type)
      (jump type.jumpIndex type)) (members : List UaDataTypeMember)
    (hmembers : ∀ member ∈ members, member.memberTypeIndex < env.table.types.length) :
    Decodes env d (MembersTyped env.table members) (decodeMembers env jump members) := by
  induction members with
  | nil => exact Decodes.ret fun _ => .nil
  | cons member members ih =>
    have hlt := hmembers member List.mem_cons_self
    have hmem : env.table.types[member.memberTypeIndex] ∈ env.table.types := List.getElem_mem hlt
    have hrest := ih fun m hm => hmembers m (List.mem_cons_of_mem member hm)
    refine Decodes.types (List.getElem?_eq_getElem hlt) ?_
    cases harray : member.isArray with
    | true =>
      refine (arrayDecodeBinary_decodes (hjump _ hmem)).bind fun ret value hvalue =>
        Decodes.unless_failed fun hret => hrest.bind fun ret' values hvalues =>
          Decodes.ret fun hgood => ?_
      exact .array harray (List.getElem?_eq_getElem hlt) (hvalue hret).1 (hvalues hgood)
    | false =>
      refine (hjump _ hmem).bind fun _ value hvalue =>
        Decodes.unless_failed fun hret => hrest.bind fun _ values hvalues =>
          Decodes.ret fun hgood => ?_
      exact .scalar harray (List.getElem?_eq_getElem hlt) (hvalue hret) (hvalues hgood)

/-- The members of a type, one level deeper. -/
theorem decodeBinaryInternal_decodes
    (hjump : ∀ type ∈ env.table.types, Decodes env (d + 1) (Typed env.table type)
      (jump type.jumpIndex type)) {type : UaDataType}
    (hmembers : ∀ member ∈ type.members, member.memberTypeIndex < env.table.types.length) :
    Decodes env d (fun value => ∃ values, value = .struct values ∧
      MembersTyped env.table type.members values) (decodeBinaryInternal env jump type) :=
  recursing_decodes ((decodeMembers_decodes hjump type.members hmembers).bind
    fun _ values hvalues => Decodes.ret fun hgood => ⟨values, rfl, hvalues hgood⟩)

theorem nodeIdCopy_decodes {id : UaAnyNodeId} {f : UaAnyNodeId → Decode (UaStatusCode × β)}
    (hid : IdFits env id) (hf : ∀ copy, copy.identifier.Typed → Decodes env d Q (f copy)) :
    Decodes env d Q (nodeIdCopy env id >>= f) := by
  unfold nodeIdCopy
  by_cases htext : id.identifier.text = []
  · rw [if_pos htext]
    exact fun ctx hctx hd => Safe.bind (Safe.pure (hf id hid.1 ctx hctx hd))
  · rw [if_neg htext]
    intro ctx hctx hd
    refine Safe.bind (Safe.bind (uaCalloc_safe (fun _ => Or.inl ?_) (Safe.pure ?_)))
    · have hlength := hid.2
      show id.identifier.text.length < 32 * (env.message.length + 1)
      omega
    · refine hf _ ?_ _ ⟨hctx.pos, hctx.depth⟩ hd
      split_ifs
      · exact hid.1
      · exact trivial

/-- The types a decoder finds by the identifier of an encoding: the only built-in one is
`Boolean`. -/
theorem jumpIndex_of_found {i : Nat} {type : UaDataType} {typeId : UaAnyNodeId}
    (h : env.table.findDataTypeByBinary typeId = some i)
    (htype : env.table.types[i]? = some type) : type.jumpIndex = 0 ∨ type.jumpIndex = 25 := by
  unfold UaDataType.jumpIndex
  by_cases hbuiltin : type.builtin = true
  · left
    rw [if_pos hbuiltin]
    have hzero := UaTypeTable.found_builtin h htype hbuiltin
    subst hzero
    obtain ⟨first, hfirst, -, hindex⟩ := env.table.builtins 0 (by decide)
    rw [htype] at hfirst
    cases hfirst
    exact hindex
  · right
    rw [if_neg hbuiltin]
    rfl

theorem found_type {i : Nat} {typeId : UaAnyNodeId}
    (h : env.table.findDataTypeByBinary typeId = some i) :
    ∃ type, env.table.types[i]? = some type ∧ type ∈ env.table.types ∧
      (type.jumpIndex = 0 ∨ type.jumpIndex = 25) := by
  have hlt : i < env.table.types.length := by
    unfold UaTypeTable.findDataTypeByBinary at h
    split at h
    · exact (List.findIdx?_eq_some_iff_getElem.mp h).1
    · cases h
  have hget : env.table.types[i]? = some env.table.types[i] := List.getElem?_eq_getElem hlt
  exact ⟨_, hget, List.getElem_mem hlt, jumpIndex_of_found h hget⟩

/-- The length that is jumped over lies behind a byte that was read, so the position gets
no further than four bytes behind the message. -/
theorem skipLength_safe {R : Unit → DecodeCtx → Prop} (hctx : ctx.Within env)
    (hpos : ctx.pos ≤ env.message.length)
    (h : ∀ ctx', ctx'.Within env → ctx'.depth = ctx.depth → R () ctx') :
    Safe env skipLength ctx R :=
  Safe.update (h _ ⟨Nat.add_le_add_right hpos 4, hctx.depth⟩ rfl)

theorem extensionObjectDecodeBinaryContent_safe
    (hcontent : ∀ type ∈ env.table.types, type.jumpIndex = 0 ∨ type.jumpIndex = 25 →
      Decodes env d (Typed env.table type) (jump type.jumpIndex type)) {type : UaDataType}
    (hindex : type.jumpIndex = 21) {typeId : UaAnyNodeId} (hid : IdFits env typeId)
    (hctx : ctx.Within env) (hd : d ≤ ctx.depth) (hpos : ctx.pos ≤ env.message.length) :
    Safe env (extensionObjectDecodeBinaryContent env jump typeId) ctx fun r ctx' =>
      ctx'.Within env ∧ d ≤ ctx'.depth ∧ (r.1 = uaStatuscodeGood → Typed env.table type r.2) := by
  unfold extensionObjectDecodeBinaryContent
  rcases hfind : env.table.findDataTypeByBinary typeId with _ | i
  · refine Decodes.safe ?_ hctx hd
    exact nodeIdCopy_decodes hid fun copy hcopy => stringDecodeBinary_decodes.bind
      fun _ body hbody => Decodes.ret fun hgood =>
        .encodedObject hindex _ hcopy (hbody hgood).typed
  · obtain ⟨content, hfound, hmem, hcontentIndex⟩ := found_type hfind
    refine Safe.bind (uaTypes_safe hfound (Safe.bind (uaCalloc_safe
      (fun _ => Or.inr ⟨content, hmem, rfl⟩) ?_)))
    cases env.heap.grants ctx.requests content.memSize with
    | false =>
      exact Safe.pure ⟨⟨hctx.pos, hctx.depth⟩, hd,
        fun hgood => absurd hgood badoutofmemory_ne_good⟩
    | true =>
      refine Safe.bind (skipLength_safe ⟨hctx.pos, hctx.depth⟩ hpos fun ctx' hctx' hdepth => ?_)
      refine Decodes.safe ?_ hctx' (hdepth ▸ hd)
      exact (hcontent content hmem hcontentIndex).bind
        fun _ data hdata => Decodes.ret fun hgood => .decodedObject hindex hfound (hdata hgood)

theorem extensionObjectDecodeBinary_decodes
    (hcontent : ∀ type ∈ env.table.types, type.jumpIndex = 0 ∨ type.jumpIndex = 25 →
      Decodes env d (Typed env.table type) (jump type.jumpIndex type)) {type : UaDataType}
    (hindex : type.jumpIndex = 21) :
    Decodes env d (Typed env.table type) (extensionObjectDecodeBinary env jump) := by
  refine nodeIdDecodeBinary_decodes.bind fun ret1 typeId hid => ?_
  intro ctx hctx hd
  refine Safe.bind ((decodeNumberAs_safe (P := fun _ => True) 1 (fun _ => trivial) hctx).mono ?_)
  rintro ⟨ret2, encoding⟩ ctx1 ⟨hctx1, hdepth1, hpos1, -⟩
  have hd1 : d ≤ ctx1.depth := hdepth1 ▸ hd
  dsimp only
  by_cases hret : ret1 ||| ret2 ≠ uaStatuscodeGood
  · rw [if_pos hret]
    exact Safe.pure ⟨hctx1, hd1, fun hgood => absurd hgood hret⟩
  rw [if_neg hret]
  obtain ⟨hgood1, hgood2⟩ := or_eq_good.mp (not_not.mp hret)
  split_ifs
  · exact extensionObjectDecodeBinaryContent_safe hcontent hindex (hid hgood1) hctx1 hd1
      (hpos1 hgood2)
  · exact Safe.pure ⟨hctx1, hd1, fun _ => .encodedObject hindex _ (hid hgood1).1 nofun⟩
  · refine Decodes.safe ?_ hctx1 hd1
    exact stringDecodeBinary_decodes.bind fun _ body hbody => Decodes.ret fun hgood =>
      .encodedObject hindex encoding (hid hgood1).1 (hbody hgood).typed
  · exact Safe.pure ⟨hctx1, hd1, fun hgood => absurd hgood baddecodingerror_ne_good⟩

/-- The type of a scalar, and a value of that type. -/
def ScalarTyped (table : UaTypeTable) (scalar : Nat × UaValue) : Prop :=
  ∃ type, table.types[scalar.1]? = some type ∧ Typed table type scalar.2

theorem decodeScalar_decodes
    (hjump : ∀ type ∈ env.table.types, Decodes env d (Typed env.table type)
      (jump type.jumpIndex type)) {i : Nat} (hi : i < env.table.types.length) :
    Decodes env d (ScalarTyped env.table) (decodeScalar env jump i) := by
  have hfound : env.table.types[i]? = some env.table.types[i] := List.getElem?_eq_getElem hi
  have hmem : env.table.types[i] ∈ env.table.types := List.getElem_mem hi
  refine Decodes.types hfound (Decodes.calloc_object hmem fun granted => ?_)
  cases granted with
  | false => exact Decodes.ret fun hgood => absurd hgood badoutofmemory_ne_good
  | true =>
    exact (hjump _ hmem).bind fun _ data hdata => Decodes.ret fun hgood =>
      ⟨_, hfound, hdata hgood⟩

theorem builtin_lt {i : Nat} (h : i < uaBuiltinTypesCount) : i < env.table.types.length := by
  obtain ⟨type, htype, -⟩ := env.table.builtins i h
  exact (List.getElem?_eq_some_iff.mp htype).1

theorem variantDecodeBinaryUnwrapExtensionObject_decodes
    (hjump : ∀ type ∈ env.table.types, Decodes env d (Typed env.table type)
      (jump type.jumpIndex type)) :
    Decodes env d (ScalarTyped env.table) (variantDecodeBinaryUnwrapExtensionObject env jump) := by
  intro old hold hd
  refine Safe.bind (Safe.current (Safe.bind ((nodeIdDecodeBinary_decodes old hold hd).mono ?_)))
  rintro ⟨ret1, typeId⟩ ctx1 ⟨hctx1, hd1, -⟩
  dsimp only
  by_cases hret1 : ret1 ≠ uaStatuscodeGood
  · rw [if_pos hret1]
    exact Safe.pure ⟨hctx1, hd1, fun hgood => absurd hgood hret1⟩
  rw [if_neg hret1]
  refine Safe.bind ((decodeNumberAs_safe (P := fun _ => True) 1 (fun _ => trivial) hctx1).mono ?_)
  rintro ⟨ret2, encoding⟩ ctx2 ⟨hctx2, hdepth2, hpos2, -⟩
  have hd2 : d ≤ ctx2.depth := hdepth2 ▸ hd1
  dsimp only
  by_cases hret2 : ret2 ≠ uaStatuscodeGood
  · rw [if_pos hret2]
    exact Safe.pure ⟨hctx2, hd2, fun hgood => absurd hgood hret2⟩
  rw [if_neg hret2]
  have hextension : Decodes env d (ScalarTyped env.table)
      (decodeScalar env jump uaTypesExtensionobject) :=
    decodeScalar_decodes hjump (builtin_lt (by decide))
  have hold2 : DecodeCtx.Within env { ctx2 with pos := old.pos } := ⟨hold.pos, hctx2.depth⟩
  rcases hfind : env.table.findDataTypeByBinary typeId with _ | i
  · exact Safe.bind (Safe.update (hextension.safe hold2 hd2))
  · obtain ⟨type, hfound, -, -⟩ := found_type hfind
    show Safe env (if encoding = uaExtensionobjectEncodedBytestring then _ else _) _ _
    split_ifs
    · refine Safe.bind (skipLength_safe hctx2 (hpos2 (not_not.mp hret2)) fun ctx' hctx' hdepth => ?_)
      exact (decodeScalar_decodes hjump (List.getElem?_eq_some_iff.mp hfound).1).safe hctx'
        (hdepth ▸ hd2)
    · exact Safe.bind (Safe.update (hextension.safe hold2 hd2))

theorem variantDecodeBinary_decodes
    (hjump : ∀ type ∈ env.table.types, Decodes env (d + 1) (Typed env.table type)
      (jump type.jumpIndex type)) :
    Decodes env d (VariantTyped env.table) (variantDecodeBinary env jump) := by
  refine (decodeNumberAs_decodes (P := fun _ => True) 1 fun _ => trivial).bind
    fun ret encodingByte _ => Decodes.unless_failed fun _ => ?_
  dsimp only
  by_cases hempty : encodingByte = 0
  · rw [if_pos hempty]
    exact Decodes.ret fun _ => .empty
  rw [if_neg hempty]
  generalize ((encodingByte &&& uaVariantEncodingmasktypeTypeidMask).toNat + (2 ^ 32 - 1)) % 2 ^ 32
    = typeIndex
  by_cases hmost : uaTypesDiagnosticinfo < typeIndex
  · rw [if_pos hmost]
    exact Decodes.ret fun hgood => absurd hgood baddecodingerror_ne_good
  rw [if_neg hmost]
  have hlt : typeIndex < env.table.types.length :=
    builtin_lt (Nat.lt_succ_of_le (Nat.not_lt.mp hmost))
  have hfound : env.table.types[typeIndex]? = some env.table.types[typeIndex] :=
    List.getElem?_eq_getElem hlt
  have hmem : env.table.types[typeIndex] ∈ env.table.types := List.getElem_mem hlt
  by_cases hnested : typeIndex = uaTypesVariant ∧
      ¬(encodingByte &&& uaVariantEncodingmasktypeArray ≠ 0)
  · rw [if_pos hnested]
    exact Decodes.ret fun hgood => absurd hgood baddecodingerror_ne_good
  rw [if_neg hnested]
  intro ctx hctx hd
  refine Safe.bind (Safe.current ?_)
  by_cases hlimit : uaEncodingMaxRecursion < ctx.depth
  · rw [if_pos hlimit]
    exact Safe.pure ⟨hctx, hd, fun hgood => absurd hgood badencodingerror_ne_good⟩
  rw [if_neg hlimit]
  have hdeeper : DecodeCtx.Within env { ctx with depth := ctx.depth + 1 } :=
    ⟨hctx.pos, Nat.succ_le_succ (Nat.not_lt.mp hlimit)⟩
  have hd1 : d + 1 ≤ ctx.depth + 1 := Nat.succ_le_succ hd
  refine Safe.bind (Safe.update ?_)
  by_cases harray : encodingByte &&& uaVariantEncodingmasktypeArray ≠ 0
  · rw [if_pos harray]
    obtain ⟨int32, hint32, -⟩ := env.table.builtins uaTypesInt32 (by decide)
    have hmemInt32 : int32 ∈ env.table.types := List.mem_of_getElem? hint32
    refine Safe.bind (uaTypes_safe hfound (Safe.bind
      ((arrayDecodeBinary_decodes (hjump _ hmem) _ hdeeper hd1).mono ?_)))
    rintro ⟨ret1, data⟩ ctx1 ⟨hctx1, hdepth1, hdata⟩
    have hdimensions : Decodes env (d + 1) (ArrayTyped env.table int32)
        (decodeDimensions env jump encodingByte) := by
      unfold decodeDimensions
      split_ifs
      · exact Decodes.types hint32
          ((arrayDecodeBinary_decodes (hjump _ hmemInt32)).mono fun _ h => h.1)
      · exact Decodes.ret fun _ => .null int32
    refine Safe.bind ((hdimensions ctx1 hctx1 hdepth1).mono ?_)
    rintro ⟨ret2, dimensions⟩ ctx2 ⟨hctx2, hdepth2, hdims⟩
    refine shallower_safe hctx2 hdepth2 fun hgood => ?_
    obtain ⟨hgood1, hgood2⟩ := or_eq_good.mp hgood
    exact .array hfound (hdata hgood1).1 hint32 (hdims hgood2)
  rw [if_neg harray]
  by_cases hextension : typeIndex ≠ uaTypesExtensionobject
  · rw [if_pos hextension]
    refine Safe.bind (uaTypes_safe hfound (Safe.bind (uaCalloc_safe
      (fun _ => Or.inr ⟨_, hmem, rfl⟩) ?_)))
    cases env.heap.grants ctx.requests env.table.types[typeIndex].memSize with
    | false =>
      exact Safe.pure ⟨⟨hdeeper.pos, hdeeper.depth⟩, Nat.le_succ_of_le hd,
        fun hgood => absurd hgood badoutofmemory_ne_good⟩
    | true =>
      have hindex : env.table.types[typeIndex].jumpIndex = typeIndex := by
        obtain ⟨type, htype, hbuiltin, htypeIndex⟩ :=
          env.table.builtins typeIndex (Nat.lt_succ_of_le (Nat.not_lt.mp hmost))
        rw [hfound] at htype
        cases htype
        rw [UaDataType.jumpIndex, if_pos hbuiltin, htypeIndex]
      have hscalar := hjump _ hmem
      rw [hindex] at hscalar
      refine Safe.bind (Safe.mono (hscalar.safe ⟨hdeeper.pos, hdeeper.depth⟩ hd1) ?_)
      rintro ⟨ret, data⟩ ctx1 ⟨hctx1, hdepth1, hdata⟩
      exact shallower_safe hctx1 hdepth1 fun hgood => .scalar hfound (hdata hgood)
  · rw [if_neg hextension]
    refine Safe.bind ((variantDecodeBinaryUnwrapExtensionObject_decodes hjump _ hdeeper hd1).mono ?_)
    rintro ⟨ret, i, data⟩ ctx1 ⟨hctx1, hdepth1, hdata⟩
    refine shallower_safe hctx1 hdepth1 fun hgood => ?_
    obtain ⟨type, htype, htyped⟩ := hdata hgood
    exact .scalar htype htyped

theorem dataValueDecodeBinary_decodes
    (hjump : ∀ type ∈ env.table.types, Decodes env (d + 2) (Typed env.table type)
      (jump type.jumpIndex type)) {type : UaDataType} (hindex : type.jumpIndex = 22) :
    Decodes env d (Typed env.table type) (dataValueDecodeBinary env jump) := by
  have hnumber : ∀ {β : Type} (n : Nat) (f : Nat → β),
      Decodes env (d + 1) (fun _ => True) (decodeNumberAs env n f) :=
    fun n f => decodeNumberAs_decodes n fun _ => trivial
  have hpicoseconds : Decodes env (d + 1) (fun _ => True) (picosecondsDecodeBinary env) :=
    (hnumber 2 UInt16.ofNat).bind fun _ _ _ => Decodes.ret fun _ => trivial
  refine (decodeNumberAs_decodes (P := fun _ => True) 1 fun _ => trivial).bind
    fun ret mask _ => Decodes.unless_failed fun _ => recursing_decodes ?_
  refine (announced_decodes (variantDecodeBinary_decodes hjump)).bind fun ret1 value hvalue => ?_
  refine (announced_decodes (hnumber 4 UInt32.ofNat)).bind fun ret2 status _ => ?_
  refine (announced_decodes (hnumber 8 UInt64.ofNat)).bind fun ret3 sourceTimestamp _ => ?_
  refine (announced_decodes hpicoseconds).bind fun ret4 sourcePicoseconds _ => ?_
  refine (announced_decodes (hnumber 8 UInt64.ofNat)).bind fun ret5 serverTimestamp _ => ?_
  refine (announced_decodes hpicoseconds).bind fun ret6 serverPicoseconds _ => ?_
  refine Decodes.ret fun hgood => .dataValue hindex (hvalue ?_) _ _ _ _ _
  simp only [or_eq_good] at hgood
  exact hgood.1.1.1.1.1

theorem diagnosticInfoDecodeBinary_decodes {type : UaDataType}
    (hjump : Decodes env (d + 1) (Typed env.table type) (jump uaTypesDiagnosticinfo type))
    (hmem : type ∈ env.table.types) (hindex : type.jumpIndex = 24) :
    Decodes env d (Typed env.table type) (diagnosticInfoDecodeBinary env jump type) := by
  have hnumber : Decodes env d (fun _ => True) (uint32DecodeBinary env) :=
    decodeNumberAs_decodes 4 fun _ => trivial
  have hinner (mask : UInt8) (outer : UaStatusCode) :
      Decodes env d
        (fun inner => outer = uaStatuscodeGood ∧ ∀ v, inner = some v → Typed env.table type v)
        (innerDiagnosticInfoDecodeBinary env jump type mask outer) := by
    unfold innerDiagnosticInfoDecodeBinary
    split
    · refine Decodes.calloc_object hmem fun granted => ?_
      cases granted with
      | false => exact Decodes.ret fun hgood => absurd hgood badoutofmemory_ne_good
      | true =>
        refine recursing_decodes (hjump.bind fun _ inner hinner => Decodes.ret fun hgood => ?_)
        obtain ⟨houter, hret⟩ := or_eq_good.mp hgood
        refine ⟨houter, fun v hv => ?_⟩
        cases hv
        exact hinner hret
    · exact Decodes.ret fun hgood => ⟨hgood, fun v hv => nomatch hv⟩
  refine (decodeNumberAs_decodes (P := fun _ => True) 1 fun _ => trivial).bind
    fun ret mask _ => Decodes.unless_failed fun _ => ?_
  refine (announced_decodes hnumber).bind fun ret1 symbolicId _ => ?_
  refine (announced_decodes hnumber).bind fun ret2 namespaceUri _ => ?_
  refine (announced_decodes hnumber).bind fun ret3 localizedText _ => ?_
  refine (announced_decodes hnumber).bind fun ret4 locale _ => ?_
  refine (announced_decodes stringDecodeBinary_decodes).bind fun ret5 additionalInfo htext => ?_
  refine (announced_decodes hnumber).bind fun ret6 innerStatusCode _ => ?_
  refine (hinner mask _).bind fun ret inner hvalue => Decodes.ret fun hgood => ?_
  obtain ⟨houter, htyped⟩ := hvalue hgood
  simp only [or_eq_good] at houter
  exact .diagnosticInfo hindex _ _ _ _ (fun t ht => (htext houter.1.2 t ht).typed) _ htyped

end

/-! ## The jump table -/

theorem valued_decodes {m : Decode (UaStatusCode × α)} {f : α → UaValue} {type : UaDataType}
    {index : Nat} (hindex : type.jumpIndex = index) (hm : Decodes env d P m)
    (hf : ∀ a, P a → PlainTyped index (f a)) : Decodes env d (Typed env.table type) (valued f m) :=
  hm.bind fun _ a ha => Decodes.ret fun hgood => .plain (hindex ▸ hf a (ha hgood))

/-- How many levels of the jump table a type takes at depth `d`.  A type found by the
identifier of its encoding has one to spare: it is what an extension object goes on with
without counting it. -/
def levels (type : UaDataType) (d : Nat) : Nat :=
  if type.jumpIndex = 0 ∨ type.jumpIndex = 25 then 2 * (uaEncodingMaxRecursion + 2 - d) - 1
  else 2 * (uaEncodingMaxRecursion + 2 - d)

theorem jumpIndex_le {type : UaDataType} (h : type ∈ env.table.types) : type.jumpIndex ≤ 25 := by
  unfold UaDataType.jumpIndex
  split_ifs with hbuiltin
  · exact Nat.le_of_lt (env.table.builtinIndex type h hbuiltin)
  · exact Nat.le_refl _

theorem decodeBinaryJumpTable_decodes (fuel : Nat) {type : UaDataType}
    (hmem : type ∈ env.table.types) (hfuel : levels type d ≤ fuel) :
    Decodes env d (Typed env.table type) (decodeBinaryJumpTable env fuel type.jumpIndex type) := by
  induction fuel generalizing d type with
  | zero =>
    refine Decodes.of_deep ?_
    unfold levels at hfuel
    split_ifs at hfuel <;> omega
  | succ fuel ih =>
    by_cases hdeep : uaEncodingMaxRecursion + 1 < d
    · exact Decodes.of_deep hdeep
    have hall : ∀ e, d < e → ∀ t ∈ env.table.types, Decodes env e (Typed env.table t)
        (decodeBinaryJumpTable env fuel t.jumpIndex t) := by
      intro e he t ht
      refine ih ht ?_
      unfold levels at hfuel ⊢
      split_ifs at hfuel ⊢ <;> omega
    have hmembers := env.table.memberIndex type hmem
    have hnumber : ∀ {β : Type} (n : Nat) (f : Nat → β),
        Decodes env d (fun _ => True) (decodeNumberAs env n f) :=
      fun n f => decodeNumberAs_decodes n fun _ => trivial
    have hle : type.jumpIndex ≤ 25 := jumpIndex_le hmem
    generalize hindex : type.jumpIndex = index at hle
    match index, hle with
    | 0, _ => exact valued_decodes hindex (hnumber 1 _) fun _ _ => trivial
    | 1, _ | 2, _ => exact valued_decodes hindex (hnumber 1 _) fun _ _ => trivial
    | 3, _ | 4, _ => exact valued_decodes hindex (hnumber 2 _) fun _ _ => trivial
    | 5, _ | 6, _ | 9, _ | 18, _ => exact valued_decodes hindex (hnumber 4 _) fun _ _ => trivial
    | 7, _ | 8, _ | 10, _ | 12, _ => exact valued_decodes hindex (hnumber 8 _) fun _ _ => trivial
    | 11, _ | 14, _ | 15, _ =>
      exact valued_decodes hindex stringDecodeBinary_decodes fun _ htext => htext.typed
    | 13, _ => exact valued_decodes hindex guidDecodeBinary_decodes fun _ hguid => hguid
    | 16, _ => exact valued_decodes hindex nodeIdDecodeBinary_decodes fun _ hid => hid.1
    | 17, _ => exact expandedNodeIdDecodeBinary_decodes hindex
    | 19, _ =>
      refine (decodeBinaryInternal_decodes (hall (d + 1) (Nat.lt_succ_self d)) hmembers).mono ?_
      rintro _ ⟨values, rfl, hvalues⟩
      exact .struct (Or.inl hindex) hvalues
    | 20, _ => exact localizedTextDecodeBinary_decodes hindex
    | 21, _ =>
      refine extensionObjectDecodeBinary_decodes (fun t ht htype => ih ht ?_) hindex
      unfold levels at hfuel ⊢
      rw [if_pos htype]
      rw [hindex, if_neg (by decide)] at hfuel
      omega
    | 22, _ =>
      exact dataValueDecodeBinary_decodes (hall (d + 2) (Nat.lt_add_of_pos_right Nat.two_pos)) hindex
    | 23, _ =>
      exact (variantDecodeBinary_decodes (hall (d + 1) (Nat.lt_succ_self d))).mono
        fun _ htyped => .variant hindex htyped
    | 24, _ =>
      have hinner := hall (d + 1) (Nat.lt_succ_self d) type hmem
      rw [hindex] at hinner
      exact diagnosticInfoDecodeBinary_decodes hinner hmem hindex
    | 25, _ =>
      refine (decodeBinaryInternal_decodes (hall (d + 1) (Nat.lt_succ_self d)) hmembers).mono ?_
      rintro _ ⟨values, rfl, hvalues⟩
      exact .struct (Or.inr hindex) hvalues
    | _ + 26, hle => exact absurd hle (by omega)

end

/-! ## `UA_decodeBinary` -/

/-- What a decoder may be asked for: a type whose members are in the table. -/
def Decodable (table : UaTypeTable) (type : UaDataType) : Prop :=
  ∀ member ∈ type.members, member.memberTypeIndex < table.types.length

/-- What a decoding has come to: with GOOD it has the members of the type. -/
def DecodedSafely (env : DecodeEnv) (type : UaDataType)
    (result : UaStatusCode × Option (UaValue × Nat)) : Prop :=
  result.1 = uaStatuscodeGood → ∃ values endOffset,
    result.2 = some (.struct values, endOffset) ∧
    MembersTyped env.table type.members values ∧ endOffset ≤ env.message.length + 4

theorem decodeValue_safe {env : DecodeEnv} {offset : Nat} {type : UaDataType}
    (hoffset : offset ≤ env.message.length + 4) (htype : Decodable env.table type) :
    Safe env (decodeValue env type) { pos := offset, depth := 0, requests := 0 }
      fun result _ => DecodedSafely env type result := by
  have hjump : ∀ t ∈ env.table.types, Decodes env (0 + 1) (Typed env.table t)
      (decodeBinaryJumpTable env decodeFuel t.jumpIndex t) := by
    intro t ht
    refine decodeBinaryJumpTable_decodes decodeFuel ht ?_
    unfold levels decodeFuel
    split_ifs <;> omega
  have hstart : DecodeCtx.Within env { pos := offset, depth := 0, requests := 0 } :=
    ⟨hoffset, Nat.zero_le _⟩
  have hinternal := decodeBinaryInternal_decodes hjump htype _ hstart (Nat.zero_le _)
  unfold decodeValue
  refine Safe.bind (hinternal.mono ?_)
  rintro ⟨ret, value⟩ ctx ⟨hctx, -, htyped⟩
  refine Safe.bind (Safe.current ?_)
  by_cases hret : ret = uaStatuscodeGood
  · rw [if_pos hret]
    obtain ⟨values, hvalue, hmembers⟩ := htyped hret
    exact Safe.pure fun _ =>
      ⟨values, ctx.pos, congrArg (fun v => some (v, ctx.pos)) hvalue, hmembers, hctx.pos⟩
  · rw [if_neg hret]
    exact Safe.pure fun hgood => absurd hgood hret

/-- Whatever the message, the memory and the table, decoding reads nothing outside the
message and comes to an end within the limit of its recursion; it is given no more memory
than thirty-two times the message, or one object of a type; and a value it decodes with
GOOD has the type, and ends at most four bytes behind the message. -/
theorem uaDecodeBinary_safe (env : DecodeEnv) {offset : Nat} {type : UaDataType}
    (hoffset : offset ≤ env.message.length + 4) (htype : Decodable env.table type) :
    ∃ ret value ctx, (uaDecodeBinary env offset type).exit = .ok ((ret, value), ctx) ∧
      (ret = uaStatuscodeGood → ∃ values endOffset, value = some (.struct values, endOffset) ∧
        MembersTyped env.table type.members values ∧ endOffset ≤ env.message.length + 4) ∧
      ∀ r ∈ (uaDecodeBinary env offset type).log, Fits env r := by
  obtain ⟨⟨ret, value⟩, ctx, hexit, hgood, hlog⟩ := (decodeValue_safe hoffset htype).returns
  exact ⟨ret, value, ctx, hexit, hgood, hlog⟩

/-- A heap that grants what has addresses. -/
def ampleHeap : Heap where
  grants _ size := decide (size < 2 ^ 32)
  addressable _ _ h := of_decide_eq_true h

/-- A response to a read, with one FLOAT of 42. -/
def sampleDecodeEnv : DecodeEnv where
  message :=
    [0, 0, 0, 0, 0, 0, 0, 0, 1, 0, 0, 0, 0, 0, 0, 0, 0, 255, 255, 255, 255, 0, 0, 0,
      1, 0, 0, 0, 1, 10, 0, 0, 0x28, 0x42, 255, 255, 255, 255]
  table := uaTypesTable
  heap := ampleHeap

theorem decodable_uaTypesTable {i : Nat} {type : UaDataType}
    (h : uaTypesTable.types[i]? = some type) : Decodable uaTypesTable type :=
  uaTypesTable.memberIndex type (List.mem_of_getElem? h)

theorem readResponse_decodable : Decodable uaTypesTable readResponseType :=
  decodable_uaTypesTable (i := uaTypesReadresponse) (uaTypesTable_getElem? (by decide))

theorem uaDecodeBinary_safe_response :
    ∃ ret value ctx, (uaDecodeBinary sampleDecodeEnv 0 readResponseType).exit =
        .ok ((ret, value), ctx) ∧
      (ret = uaStatuscodeGood → ∃ values endOffset, value = some (.struct values, endOffset) ∧
        MembersTyped uaTypesTable readResponseType.members values ∧ endOffset ≤ 38 + 4) ∧
      ∀ r ∈ (uaDecodeBinary sampleDecodeEnv 0 readResponseType).log, Fits sampleDecodeEnv r :=
  uaDecodeBinary_safe sampleDecodeEnv (Nat.zero_le _) readResponse_decodable

/-- Memory for the array, and for the FLOAT in its one variant. -/
example : (uaDecodeBinary sampleDecodeEnv 0 readResponseType).log =
    [{ size := 64, granted := true }, { size := 4, granted := true }] := by decide +kernel

/-- What `UA_decodeBinary` comes to with GOOD. -/
structure Decoded (env : DecodeEnv) (type : UaDataType) where
  values : List UaValue
  typed : MembersTyped env.table type.members values
  endOffset : Nat
  within : endOffset ≤ env.message.length + 4

/-- The members in a result. -/
def decodedMembers : Option (UaValue × Nat) → Option (List UaValue × Nat)
  | some (.struct values, endOffset) => some (values, endOffset)
  | _ => none

theorem uaDecodeBinary_final? {env : DecodeEnv} {offset : Nat} {type : UaDataType}
    (hoffset : offset ≤ env.message.length + 4) (htype : Decodable env.table type) :
    ∃ result ctx, (uaDecodeBinary env offset type).final? = some (result, ctx) ∧
      DecodedSafely env type result := by
  obtain ⟨result, ctx, hexit, hgood, -⟩ := (decodeValue_safe hoffset htype).returns
  refine ⟨result, ctx, ?_, hgood⟩
  rw [Run.final?, uaDecodeBinary, hexit]
  rfl

theorem uaDecodeBinary_final {env : DecodeEnv} {offset : Nat} {type : UaDataType}
    (hoffset : offset ≤ env.message.length + 4) (htype : Decodable env.table type) :
    ∃ ret value ctx, (uaDecodeBinary env offset type).final? = some ((ret, value), ctx) ∧
      (ret = uaStatuscodeGood → ∃ values endOffset,
        decodedMembers value = some (values, endOffset) ∧
        MembersTyped env.table type.members values ∧ endOffset ≤ env.message.length + 4) := by
  obtain ⟨⟨ret, value⟩, ctx, hfinal, hgood⟩ := uaDecodeBinary_final? hoffset htype
  refine ⟨ret, value, ctx, hfinal, fun hret => ?_⟩
  obtain ⟨values, endOffset, rfl, htyped⟩ := hgood hret
  exact ⟨values, endOffset, rfl, htyped⟩

/-- `UA_decodeBinary` as its callers see it.  A run of it can come to nothing else. -/
def decodeBinary (env : DecodeEnv) {offset : Nat} {type : UaDataType}
    (hoffset : offset ≤ env.message.length + 4) (htype : Decodable env.table type) :
    Except UaStatusCode (Decoded env type) :=
  match hfinal : (uaDecodeBinary env offset type).final? with
  | none => absurd hfinal (by
      obtain ⟨_, _, _, hsome, -⟩ := uaDecodeBinary_final hoffset htype
      rw [hsome]
      exact nofun)
  | some ((ret, value), _) =>
    if hgood : ret = uaStatuscodeGood then
      have hdecoded : ∃ values endOffset, decodedMembers value = some (values, endOffset) ∧
          MembersTyped env.table type.members values ∧ endOffset ≤ env.message.length + 4 := by
        obtain ⟨_, _, _, hsome, htyped⟩ := uaDecodeBinary_final hoffset htype
        rw [hfinal] at hsome
        cases hsome
        exact htyped hgood
      match hvalue : decodedMembers value with
      | some (values, endOffset) =>
        .ok { values := values, endOffset := endOffset,
              typed := by
                obtain ⟨_, _, heq, htyped, -⟩ := hdecoded
                rw [hvalue] at heq
                cases heq
                exact htyped,
              within := by
                obtain ⟨_, _, heq, -, hwithin⟩ := hdecoded
                rw [hvalue] at heq
                cases heq
                exact hwithin }
      | none => absurd hdecoded (by
          rintro ⟨_, _, heq, -⟩
          rw [hvalue] at heq
          cases heq)
    else .error ret

theorem decodeBinary_error {env : DecodeEnv} {offset : Nat} {type : UaDataType}
    {hoffset : offset ≤ env.message.length + 4} {htype : Decodable env.table type}
    {retval : UaStatusCode} (h : decodeBinary env hoffset htype = .error retval) :
    retval ≠ uaStatuscodeGood := by
  unfold decodeBinary at h
  split at h
  · rename_i hnone
    obtain ⟨_, _, _, hsome, -⟩ := uaDecodeBinary_final hoffset htype
    rw [hnone] at hsome
    cases hsome
  · split_ifs at h with hgood
    · dsimp only at h
      split at h
      · cases h
      · rename_i ret value ctx hfinal hnone
        obtain ⟨_, _, _, hsome, htyped⟩ := uaDecodeBinary_final hoffset htype
        rw [hfinal] at hsome
        cases hsome
        obtain ⟨_, _, heq, -⟩ := htyped hgood
        rw [hnone] at heq
        cases heq
    · cases h
      exact hgood

/-- The result of a decoding that is known as a run. -/
theorem decodeBinary_of_final {env : DecodeEnv} {offset : Nat} {type : UaDataType}
    (hoffset : offset ≤ env.message.length + 4) (htype : Decodable env.table type)
    {values : List UaValue} {endOffset : Nat} {ctx : DecodeCtx}
    (h : (uaDecodeBinary env offset type).final? =
      some ((uaStatuscodeGood, some (.struct values, endOffset)), ctx)) :
    ∃ decoded, decodeBinary env hoffset htype = .ok decoded ∧ decoded.values = values ∧
      decoded.endOffset = endOffset := by
  unfold decodeBinary
  split
  · rename_i hnone
    rw [h] at hnone
    cases hnone
  · rename_i hsome
    rw [h] at hsome
    cases hsome
    exact ⟨_, rfl, rfl, rfl⟩

end Opcua
end OpcuaGateway
