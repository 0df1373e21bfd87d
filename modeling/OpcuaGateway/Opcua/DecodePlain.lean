/-
The decoder on values that hold no others.

`Reads env d bytes m a` is the contract of a decoder in front of the bytes of `a`: it takes
them and no others, and comes back to the depth it started at.  Numbers, texts and
identifiers have one for the bytes of `Encoding` each, and so does the jump table on them
(`decodeBinaryJumpTable_reads_plain`).
-/
import OpcuaGateway.Opcua.Encoding

namespace OpcuaGateway
namespace Opcua

open Text (Bytes)
open Effect Effect.Action Numeric

/-- Every request is granted. -/
def Heap.Ample (heap : Heap) : Prop := ∀ k size, size < 2 ^ 32 → heap.grants k size = true

/-! ## Reading some bytes -/

/-- The decoder stands at depth `d` in front of the bytes. -/
structure DecodeCtx.Facing (env : DecodeEnv) (d : Nat) (bytes : Bytes) (ctx : DecodeCtx) :
    Prop where
  depth : ctx.depth = d
  within : ctx.pos ≤ env.message.length
  ahead : bytes <+: env.message.drop ctx.pos

/-- In front of the bytes at depth `d`, the decoder takes them and comes to `a` at depth
`e`. -/
def Takes {α : Type} (env : DecodeEnv) (d e : Nat) (bytes : Bytes) (m : Decode α) (a : α) : Prop :=
  ∀ ctx, ctx.Facing env d bytes →
    Meets m ctx
      (fun _ a' ctx' => a' = a ∧ ctx'.pos = ctx.pos + bytes.length ∧ ctx'.depth = e)
      fun _ _ => False

/-- The decoder comes back to the depth it started at. -/
abbrev Reads {α : Type} (env : DecodeEnv) (d : Nat) (bytes : Bytes) (m : Decode α) (a : α) : Prop :=
  Takes env d d bytes m a

section

variable {env : DecodeEnv} {d e : Nat} {α β : Type} {a : α} {b : β} {bytes first rest : Bytes}
  {ctx ctx' : DecodeCtx}

theorem DecodeCtx.Facing.end_le (h : ctx.Facing env d bytes) :
    ctx.pos + bytes.length ≤ env.message.length := by
  have hle := h.ahead.length_le
  have hwithin := h.within
  rw [List.length_drop] at hle
  omega

/-- Behind the first of some bytes there are the others. -/
theorem DecodeCtx.Facing.next (h : ctx.Facing env d (first ++ rest))
    (hpos : ctx'.pos = ctx.pos + first.length) (he : ctx'.depth = e) :
    ctx'.Facing env e rest := by
  have hend := h.end_le
  rw [List.length_append] at hend
  obtain ⟨behind, hbehind⟩ := h.ahead
  refine ⟨he, ?_, ?_⟩
  · rw [hpos]
    omega
  · rw [hpos, ← List.drop_drop, ← hbehind, List.append_assoc, List.drop_left]
    exact List.prefix_append _ _

theorem Takes.pure : Takes env d d [] (Pure.pure a) a :=
  fun _ h => ⟨rfl, rfl, h.depth⟩

/-- What the first part leaves, for a second part that goes its own way. -/
theorem Takes.meets_bind {m : Decode α} {f : α → Decode β} {Q : β → DecodeCtx → Prop}
    (hm : Takes env d e first m a) (h : ctx.Facing env d (first ++ rest))
    (hf : ∀ ctx', ctx'.pos = ctx.pos + first.length → ctx'.Facing env e rest →
      Meets (f a) ctx' (fun _ => Q) fun _ _ => False) :
    Meets (m >>= f) ctx (fun _ => Q) fun _ _ => False := by
  have hfirst : ctx.Facing env d first := ⟨h.depth, h.within, (List.prefix_append _ _).trans h.ahead⟩
  refine Meets.bind ((hm ctx hfirst).mono ?_ fun _ _ hfalse => hfalse)
  rintro _ a' ctx' ⟨rfl, hpos, he⟩
  exact hf ctx' hpos (h.next hpos he)

theorem Takes.bind {e' : Nat} {m : Decode α} {f : α → Decode β} (hm : Takes env d e first m a)
    (hf : Takes env e e' rest (f a) b) : Takes env d e' (first ++ rest) (m >>= f) b := by
  intro ctx h
  refine hm.meets_bind h fun ctx' hpos hctx' => (hf ctx' hctx').mono ?_ fun _ _ hfalse => hfalse
  rintro _ b' ctx'' ⟨hb, hpos', he'⟩
  refine ⟨hb, ?_, he'⟩
  rw [hpos', hpos, List.length_append, Nat.add_assoc]

/-- The first part takes nothing. -/
theorem Takes.bind_nil {e' : Nat} {m : Decode α} {f : α → Decode β} (hm : Takes env d e [] m a)
    (hf : Takes env e e' bytes (f a) b) : Takes env d e' bytes (m >>= f) b :=
  hm.bind hf

/-- The last part takes nothing. -/
theorem Takes.bind_ret {e' : Nat} {m : Decode α} {f : α → Decode β} (hm : Takes env d e bytes m a)
    (hf : Takes env e e' [] (f a) b) : Takes env d e' bytes (m >>= f) b := by
  have h := hm.bind hf
  rwa [List.append_nil] at h

/-- A decoder that looks where it is. -/
theorem Takes.current {f : DecodeCtx → Decode β}
    (h : ∀ ctx, ctx.Facing env d bytes → Takes env d e bytes (f ctx) b) :
    Takes env d e bytes (Action.current >>= f) b :=
  fun ctx hctx => Meets.bind (h ctx hctx ctx hctx)

/-- A part that has not failed goes on. -/
theorem Takes.unless_failed {m failed : Decode α} (h : Takes env d e bytes m a) :
    Takes env d e bytes (if uaStatuscodeGood ≠ uaStatuscodeGood then failed else m) a := by
  rw [if_neg (not_not.mpr rfl)]
  exact h

theorem readBytes_reads : Reads env d bytes (readBytes env bytes.length) bytes := by
  intro ctx h
  refine (meets_of_ok (readBytes_run h.end_le)).mpr ⟨?_, rfl, h.depth⟩
  exact (List.prefix_iff_eq_take.mp h.ahead).symm

/-! ## Numbers -/

theorem decodeNumberAs_reads {n : Nat} {f : Nat → α} (hlength : bytes.length = n) :
    Reads env d bytes (decodeNumberAs env n f) (uaStatuscodeGood, f (ofBytes bytes)) := by
  subst hlength
  have hnumber : Reads env d bytes (decodeNumber env bytes.length)
      (uaStatuscodeGood, ofBytes bytes) := by
    refine Takes.current fun ctx h => ?_
    rw [if_neg (Nat.not_lt.mpr h.end_le)]
    exact readBytes_reads.bind_ret Takes.pure
  exact hnumber.bind_ret Takes.pure

theorem booleanDecodeBinary_reads (there : Bool) :
    Reads env d [flag 1 there] (booleanDecodeBinary env) (uaStatuscodeGood, there) := by
  have h : Reads env d [flag 1 there] (booleanDecodeBinary env)
      (uaStatuscodeGood, decide (0 < ofBytes [flag 1 there])) :=
    decodeNumberAs_reads rfl
  cases there <;> exact h

theorem byteDecodeBinary_reads (n : UInt8) :
    Reads env d [n] (byteDecodeBinary env) (uaStatuscodeGood, n) := by
  have h : Reads env d [n] (byteDecodeBinary env)
      (uaStatuscodeGood, UInt8.ofNat (ofBytes [n])) := decodeNumberAs_reads rfl
  have hbyte : UInt8.ofNat (ofBytes [n]) = n := by simp [ofBytes]
  rwa [hbyte] at h

theorem uint16DecodeBinary_reads (n : UInt16) :
    Reads env d (toBytes 2 n.toNat) (uint16DecodeBinary env) (uaStatuscodeGood, n) := by
  have h : Reads env d (toBytes 2 n.toNat) (uint16DecodeBinary env)
      (uaStatuscodeGood, UInt16.ofNat (ofBytes (toBytes 2 n.toNat))) :=
    decodeNumberAs_reads (toBytes_length _ _)
  rwa [ofBytes_toBytes_of_lt n.toNat_lt, UInt16.ofNat_toNat] at h

theorem uint32DecodeBinary_reads (n : UInt32) :
    Reads env d (toBytes 4 n.toNat) (uint32DecodeBinary env) (uaStatuscodeGood, n) := by
  have h : Reads env d (toBytes 4 n.toNat) (uint32DecodeBinary env)
      (uaStatuscodeGood, UInt32.ofNat (ofBytes (toBytes 4 n.toNat))) :=
    decodeNumberAs_reads (toBytes_length _ _)
  rwa [ofBytes_toBytes_of_lt n.toNat_lt, UInt32.ofNat_toNat] at h

theorem uint64DecodeBinary_reads (n : UInt64) :
    Reads env d (toBytes 8 n.toNat) (uint64DecodeBinary env) (uaStatuscodeGood, n) := by
  have h : Reads env d (toBytes 8 n.toNat) (uint64DecodeBinary env)
      (uaStatuscodeGood, UInt64.ofNat (ofBytes (toBytes 8 n.toNat))) :=
    decodeNumberAs_reads (toBytes_length _ _)
  rwa [ofBytes_toBytes_of_lt n.toNat_lt, UInt64.ofNat_toNat] at h

theorem Takes.byte {n : UInt8} {f : UaStatusCode × UInt8 → Decode β}
    (hf : Takes env d e bytes (f (uaStatuscodeGood, n)) b) :
    Takes env d e (n :: bytes) (byteDecodeBinary env >>= f) b :=
  (byteDecodeBinary_reads n).bind hf

/-! ## Parts under a mask -/

theorem announced_reads {mask bit : UInt8} {part : Decode (UaStatusCode × α)} {o : Option α}
    {encode : α → Bytes} (hmask : mask &&& bit ≠ 0 ↔ o.isSome = true)
    (h : ∀ a, o = some a → Reads env d (encode a) part (uaStatuscodeGood, a)) :
    Reads env d (optionBytes encode o) (announced mask bit part) (uaStatuscodeGood, o) := by
  cases o with
  | none =>
    rw [announced, if_neg (fun hbit => Bool.false_ne_true (hmask.mp hbit))]
    exact Takes.pure
  | some a =>
    rw [announced, if_pos (hmask.mpr rfl)]
    exact (h a rfl).bind_ret Takes.pure

theorem announced_reads_none {mask bit : UInt8} {part : Decode (UaStatusCode × α)}
    (hmask : ¬mask &&& bit ≠ 0) :
    Reads env d [] (announced mask bit part) (uaStatuscodeGood, none) := by
  rw [announced, if_neg hmask]
  exact Takes.pure

/-! ## Arrays and texts -/

theorem toInt_ofNat {length : Nat} (h : length < 2 ^ 31) :
    (UInt32.ofNat length).toBitVec.toInt = length := by
  have hnat : (UInt32.ofNat length).toBitVec.toNat = length := by
    show (UInt32.ofNat length).toNat = length
    rw [UInt32.toNat_ofNat_of_lt' (Nat.lt_trans h (by decide))]
  rw [BitVec.toInt_eq_toNat_of_lt (by rw [hnat]; omega), hnat]

section

variable {element : Decode (UaStatusCode × UaValue)} {type : UaDataType}

theorem arrayDecodeBinary_reads_null :
    Reads env d (toBytes 4 (2 ^ 32 - 1)) (arrayDecodeBinary env element type)
      (uaStatuscodeGood, .nullArray) :=
  (uint32DecodeBinary_reads 0xFFFFFFFF).bind_ret Takes.pure

theorem arrayDecodeBinary_reads_empty :
    Reads env d (toBytes 4 0) (arrayDecodeBinary env element type)
      (uaStatuscodeGood, .emptyArray) :=
  (uint32DecodeBinary_reads 0).bind_ret Takes.pure

theorem uaCalloc_reads (hheap : env.heap.Ample) {size : Nat} (hsize : size < 2 ^ 32) :
    Reads env d [] (uaCalloc env size) true := by
  intro ctx h
  exact (meets_of_ok (uaCalloc_run env size ctx)).mpr ⟨hheap ctx.requests size hsize, rfl, h.depth⟩

/-- What `arrayDecodeBinary` does once there is memory for that many elements. -/
def arrayContent (env : DecodeEnv) (element : Decode (UaStatusCode × UaValue)) (type : UaDataType)
    (length : Nat) : Decode (UaStatusCode × UaValue) :=
  let memSize := type.memSize * length % 2 ^ 32
  if type.overlayable then do
    let ctx ← current
    if env.message.length < ctx.pos + memSize then
      pure (uaStatuscodeBaddecodingerror, .nullArray)
    else
      let memory ← readBytes env memSize
      pure (uaStatuscodeGood, .overlayableArray length memory)
  else do
    let (ret, values) ← decodeElements element length
    if ret ≠ uaStatuscodeGood then pure (ret, .nullArray)
    else pure (uaStatuscodeGood, .array values)

theorem arrayDecodeBinary_reads (hheap : env.heap.Ample) {length : Nat} {value : UaValue}
    (room : ArrayRoom type length) (filled : filledArray type length bytes)
    (h : Reads env d bytes (arrayContent env element type length) (uaStatuscodeGood, value)) :
    Reads env d (toBytes 4 length ++ bytes) (arrayDecodeBinary env element type)
      (uaStatuscodeGood, value) := by
  have hlength : (UInt32.ofNat length).toNat = length :=
    UInt32.toNat_ofNat_of_lt' (Nat.lt_trans room.short (by decide))
  have hword : Reads env d (toBytes 4 (UInt32.ofNat length).toNat) (uint32DecodeBinary env)
      (uaStatuscodeGood, UInt32.ofNat length) := uint32DecodeBinary_reads _
  rw [hlength] at hword
  refine hword.bind ?_
  have hpositive : ¬(UInt32.ofNat length).toBitVec.toInt ≤ 0 := by
    rw [toInt_ofNat room.short]
    have := room.positive
    omega
  have hnat : (UInt32.ofNat length).toBitVec.toInt.toNat = length := by
    rw [toInt_ofNat room.short, Int.toNat_natCast]
  have hsize : length * type.memSize < 2 ^ 32 := by
    rw [Nat.mul_comm]
    exact room.addressable
  dsimp only
  rw [if_neg (not_not.mpr rfl), if_neg hpositive, hnat]
  refine Takes.current fun ctx hctx => ?_
  have hbogus : ¬env.message.length < ctx.pos + type.memSize * length % 2 ^ 32 / 32 := by
    have hfilled : type.memSize * length / 32 ≤ bytes.length := filled
    have hend := hctx.end_le
    rw [Nat.mod_eq_of_lt room.addressable]
    omega
  rw [if_neg hbogus]
  exact Takes.bind_nil (uaCalloc_reads hheap hsize) h

theorem arrayContent_reads_overlayable {length : Nat} (hoverlayable : type.overlayable = true)
    (room : ArrayRoom type length) (whole : bytes.length = type.memSize * length) :
    Reads env d bytes (arrayContent env element type length)
      (uaStatuscodeGood, .overlayableArray length bytes) := by
  have hsize : type.memSize * length % 2 ^ 32 = bytes.length := by
    rw [whole, Nat.mod_eq_of_lt room.addressable]
  unfold arrayContent
  rw [if_pos hoverlayable, hsize]
  refine Takes.current fun ctx h => ?_
  rw [if_neg (Nat.not_lt.mpr h.end_le)]
  exact readBytes_reads.bind_ret Takes.pure

theorem arrayContent_reads_elements {values : List UaValue} (hcomplex : type.overlayable = false)
    (h : Reads env d bytes (decodeElements element values.length) (uaStatuscodeGood, values)) :
    Reads env d bytes (arrayContent env element type values.length)
      (uaStatuscodeGood, .array values) := by
  unfold arrayContent
  rw [if_neg (Bool.eq_false_iff.mp hcomplex)]
  exact h.bind_ret (Takes.unless_failed Takes.pure)

end

theorem stringDecodeBinary_reads (hheap : env.heap.Ample) {text : Option Bytes}
    (typed : TextTyped text) :
    Reads env d (textBytes text) (stringDecodeBinary env) (uaStatuscodeGood, text) := by
  rcases text with _ | _ | ⟨first, rest⟩
  · exact arrayDecodeBinary_reads_null.bind_ret Takes.pure
  · exact arrayDecodeBinary_reads_empty.bind_ret Takes.pure
  · have hlength : (first :: rest).length < 2 ^ 31 := typed _ rfl
    have room : ArrayRoom uaByteType (first :: rest).length := by
      constructor
      · exact Nat.succ_pos _
      · exact hlength
      · show 1 * (first :: rest).length < 2 ^ 32
        omega
    have filled : filledArray uaByteType (first :: rest).length (first :: rest) := by
      show 1 * (first :: rest).length / 32 ≤ _
      omega
    have harray : Reads env d (toBytes 4 (first :: rest).length ++ first :: rest)
        (arrayDecodeBinary env (valued .byte (byteDecodeBinary env)) uaByteType)
        (uaStatuscodeGood, .overlayableArray (first :: rest).length (first :: rest)) :=
      arrayDecodeBinary_reads hheap room filled
        (arrayContent_reads_overlayable rfl room (Nat.one_mul _).symm)
    exact harray.bind_ret Takes.pure

theorem announcedText_reads (hheap : env.heap.Ample) {mask bit : UInt8} {text : Option Bytes}
    (hmask : mask &&& bit ≠ 0 ↔ text.isSome = true) (typed : TextTyped text) :
    Reads env d (optionBytes textBytes (text.map some))
      (announced mask bit (stringDecodeBinary env)) (uaStatuscodeGood, text.map some) := by
  refine announced_reads (by rw [Option.isSome_map]; exact hmask) fun t ht => ?_
  obtain ⟨u, rfl, rfl⟩ := Option.map_eq_some_iff.mp ht
  exact stringDecodeBinary_reads hheap typed

theorem guidDecodeBinary_reads {id : UaGuid} (h : id.data4.length = 8) :
    Reads env d (guidBytes id) (guidDecodeBinary env) (uaStatuscodeGood, id) := by
  refine (uint32DecodeBinary_reads id.data1).bind ((uint16DecodeBinary_reads id.data2).bind
    ((uint16DecodeBinary_reads id.data3).bind (Takes.current fun ctx hctx => ?_)))
  have hend := hctx.end_le
  rw [h] at hend
  rw [if_neg (Nat.not_lt.mpr hend), ← h]
  exact readBytes_reads.bind_ret Takes.pure

/-! ## Identifiers -/

/-- What `nodeIdDecodeBinary` does once it has the encoding. -/
def nodeIdContent (env : DecodeEnv) (encodingByte : UInt8) : Decode (UaStatusCode × UaAnyNodeId) :=
  if encodingByte = 0 then do
    let (ret, id) ← byteDecodeBinary env
    pure (ret, { namespaceIndex := 0, identifier := .numeric id.toUInt32 })
  else if encodingByte = 1 then do
    let (ret1, ns) ← byteDecodeBinary env
    let (ret2, id) ← uint16DecodeBinary env
    pure (ret1 ||| ret2, { namespaceIndex := ns.toUInt16, identifier := .numeric id.toUInt32 })
  else if encodingByte = 2 then do
    let (ret1, ns) ← uint16DecodeBinary env
    let (ret2, id) ← uint32DecodeBinary env
    pure (ret1 ||| ret2, { namespaceIndex := ns, identifier := .numeric id })
  else if encodingByte = 3 then do
    let (ret1, ns) ← uint16DecodeBinary env
    let (ret2, id) ← stringDecodeBinary env
    pure (ret1 ||| ret2, { namespaceIndex := ns, identifier := .string id })
  else if encodingByte = 4 then do
    let (ret1, ns) ← uint16DecodeBinary env
    let (ret2, id) ← guidDecodeBinary env
    pure (ret1 ||| ret2, { namespaceIndex := ns, identifier := .guid id })
  else if encodingByte = 5 then do
    let (ret1, ns) ← uint16DecodeBinary env
    let (ret2, id) ← stringDecodeBinary env
    pure (ret1 ||| ret2, { namespaceIndex := ns, identifier := .byteString id })
  else pure (uaStatuscodeBadinternalerror, .null)

/-- The two flags and the kind of an identifier do not share a bit of its first byte. -/
theorem expandedMask_or (uri index : Bool) {k : UInt8}
    (hk : k ∈ ([0, 1, 2, 3, 4, 5] : List UInt8)) :
    (expandedMask uri index ||| k) &&&
        ~~~(uaExpandednodeidServerindexFlag ||| uaExpandednodeidNamespaceuriFlag) = k ∧
      ((expandedMask uri index ||| k) &&& uaExpandednodeidNamespaceuriFlag ≠ 0 ↔ uri = true) ∧
      ((expandedMask uri index ||| k) &&& uaExpandednodeidServerindexFlag ≠ 0 ↔ index = true) := by
  simp only [List.mem_cons, List.not_mem_nil, or_false] at hk
  rcases hk with rfl | rfl | rfl | rfl | rfl | rfl <;> cases uri <;> cases index <;> decide

theorem nodeIdDecodeBinary_reads_byte {uri index : Bool} {k : UInt8} {id : UaAnyNodeId}
    (hk : k ∈ [0, 1, 2, 3, 4, 5])
    (h : Reads env d bytes (nodeIdContent env k) (uaStatuscodeGood, id)) :
    Reads env d ((expandedMask uri index ||| k) :: bytes) (nodeIdDecodeBinary env)
      (uaStatuscodeGood, id) := by
  refine Takes.byte (Takes.unless_failed ?_)
  dsimp only
  rw [(expandedMask_or uri index hk).1]
  exact h

theorem toUInt16_ofNat {n : UInt16} (h : n.toNat < 2 ^ 8) : (UInt8.ofNat n.toNat).toUInt16 = n := by
  apply UInt16.toNat_inj.mp
  rw [UInt8.toNat_toUInt16, UInt8.toNat_ofNat_of_lt' h]

theorem toUInt32_ofNat {n : UInt32} (h : n.toNat < 2 ^ 8) : (UInt8.ofNat n.toNat).toUInt32 = n := by
  apply UInt32.toNat_inj.mp
  rw [UInt8.toNat_toUInt32, UInt8.toNat_ofNat_of_lt' h]

theorem toUInt32_ofNat16 {n : UInt32} (h : n.toNat < 2 ^ 16) :
    (UInt16.ofNat n.toNat).toUInt32 = n := by
  apply UInt32.toNat_inj.mp
  rw [UInt16.toNat_toUInt32, UInt16.toNat_ofNat_of_lt' h]

theorem nodeIdDecodeBinary_reads (hheap : env.heap.Ample) (uri index : Bool) {id : UaAnyNodeId}
    (typed : id.identifier.Typed) :
    Reads env d (nodeIdBytes (expandedMask uri index) id) (nodeIdDecodeBinary env)
      (uaStatuscodeGood, id) := by
  obtain ⟨ns, identifier⟩ := id
  cases identifier with
  | numeric n =>
    unfold nodeIdBytes
    dsimp only
    split_ifs with hcomplete hfour
    · refine nodeIdDecodeBinary_reads_byte (by decide) ?_
      exact (uint16DecodeBinary_reads ns).bind ((uint32DecodeBinary_reads n).bind_ret Takes.pure)
    · obtain ⟨hn, hns⟩ := not_or.mp hcomplete
      rw [Nat.not_le] at hn hns
      have hid : UaAnyNodeId.mk (UInt8.ofNat ns.toNat).toUInt16
          (.numeric (UInt16.ofNat n.toNat).toUInt32) = ⟨ns, .numeric n⟩ := by
        rw [toUInt16_ofNat hns, toUInt32_ofNat16 hn]
      have hword : Reads env d (toBytes 2 (UInt16.ofNat n.toNat).toNat) (uint16DecodeBinary env)
          (uaStatuscodeGood, UInt16.ofNat n.toNat) := uint16DecodeBinary_reads _
      rw [UInt16.toNat_ofNat_of_lt' hn] at hword
      rw [← hid]
      refine nodeIdDecodeBinary_reads_byte (by decide) ?_
      exact Takes.byte (hword.bind_ret Takes.pure)
    · obtain ⟨hn, hns⟩ := not_or.mp hfour
      rw [Nat.not_le] at hn
      have hzero : ns = 0 := UInt16.toNat_inj.mp (Nat.eq_zero_of_not_pos hns)
      have hid : UaAnyNodeId.mk 0 (.numeric (UInt8.ofNat n.toNat).toUInt32) =
          ⟨ns, .numeric n⟩ := by
        rw [hzero, toUInt32_ofNat hn]
      rw [← hid]
      refine nodeIdDecodeBinary_reads_byte (by decide) ?_
      exact Takes.byte Takes.pure
  | string text =>
    refine nodeIdDecodeBinary_reads_byte (by decide) ?_
    exact (uint16DecodeBinary_reads ns).bind
      ((stringDecodeBinary_reads hheap typed).bind_ret Takes.pure)
  | guid guid =>
    refine nodeIdDecodeBinary_reads_byte (by decide) ?_
    exact (uint16DecodeBinary_reads ns).bind ((guidDecodeBinary_reads typed).bind_ret Takes.pure)
  | byteString text =>
    refine nodeIdDecodeBinary_reads_byte (by decide) ?_
    exact (uint16DecodeBinary_reads ns).bind
      ((stringDecodeBinary_reads hheap typed).bind_ret Takes.pure)

/-- The flags of an `ExpandedNodeId` are in the byte that its identifier begins with. -/
theorem expandedMask_flags (uri index : Bool) {id : UaAnyNodeId} {first : UInt8} {others : Bytes}
    (h : nodeIdBytes (expandedMask uri index) id = first :: others) :
    (first &&& uaExpandednodeidNamespaceuriFlag ≠ 0 ↔ uri = true) ∧
      (first &&& uaExpandednodeidServerindexFlag ≠ 0 ↔ index = true) := by
  obtain ⟨k, hk, hfirst⟩ : ∃ k ∈ ([0, 1, 2, 3, 4, 5] : List UInt8),
      first = expandedMask uri index ||| k := by
    unfold nodeIdBytes at h
    split at h
    · split_ifs at h
      · exact ⟨2, by decide, (List.cons.inj h).1.symm⟩
      · exact ⟨1, by decide, (List.cons.inj h).1.symm⟩
      · exact ⟨0, by decide, (List.cons.inj h).1.symm⟩
    · exact ⟨3, by decide, (List.cons.inj h).1.symm⟩
    · exact ⟨4, by decide, (List.cons.inj h).1.symm⟩
    · exact ⟨5, by decide, (List.cons.inj h).1.symm⟩
  rw [hfirst]
  exact (expandedMask_or uri index hk).2

theorem nodeIdBytes_eq_cons (mask : UInt8) (id : UaAnyNodeId) :
    ∃ first others, nodeIdBytes mask id = first :: others := by
  unfold nodeIdBytes
  split
  · split_ifs <;> exact ⟨_, _, rfl⟩
  · exact ⟨_, _, rfl⟩
  · exact ⟨_, _, rfl⟩
  · exact ⟨_, _, rfl⟩

theorem peekByte_reads {first : UInt8} {others : Bytes} {f : UInt8 → Decode β}
    (h : Reads env d (first :: others) (f first) b) :
    Reads env d (first :: others) (peekByte env >>= f) b := by
  intro ctx hctx
  have hget : env.message[ctx.pos]? = some first := by
    obtain ⟨behind, hbehind⟩ := hctx.ahead
    have := congrArg List.head? hbehind
    rw [List.head?_drop] at this
    rw [← this]
    rfl
  have hpeek : (peekByte env).run ctx = { log := [], exit := .ok (first, ctx) } := by
    unfold peekByte
    rw [bind_of_ok (current_run ctx), hget]
    rfl
  exact Meets.bind ((meets_of_ok hpeek).mpr (h ctx hctx))

theorem join_map_some (text : Option Bytes) : (text.map some).join = text := by
  cases text <;> rfl

theorem givenIndex_getD (index : UInt32) : (givenIndex index).getD 0 = index := by
  unfold givenIndex
  split_ifs with h
  · rfl
  · exact (UInt32.toNat_inj.mp (Nat.eq_zero_of_not_pos h)).symm

theorem expanded_id {id : UaAnyNodeId} {uri : Option Bytes} {index : UInt32}
    (h : (UaValue.expandedNodeId id uri index).Expanded) :
    (if (uri.map some).isSome then { id with namespaceIndex := 0 } else id) = id := by
  cases uri with
  | none => rfl
  | some text =>
    have hns : id.namespaceIndex = 0 := h.2 rfl
    rw [Option.map_some, Option.isSome_some, if_pos rfl, ← hns]

theorem expandedNodeIdDecodeBinary_reads (hheap : env.heap.Ample) {id : UaAnyNodeId}
    {uri : Option Bytes} {index : UInt32} (typed : id.identifier.Typed) (htext : TextTyped uri)
    (expanded : (UaValue.expandedNodeId id uri index).Expanded) :
    Reads env d (expandedNodeIdBytes id uri index) (expandedNodeIdDecodeBinary env)
      (uaStatuscodeGood, .expandedNodeId id uri index) := by
  have hid : Reads env d (nodeIdBytes (expandedMask uri.isSome (givenIndex index).isSome) id)
      (nodeIdDecodeBinary env) (uaStatuscodeGood, id) := nodeIdDecodeBinary_reads hheap _ _ typed
  obtain ⟨first, others, hfirst⟩ :=
    nodeIdBytes_eq_cons (expandedMask uri.isSome (givenIndex index).isSome) id
  obtain ⟨huriFlag, hindexFlag⟩ := expandedMask_flags _ _ hfirst
  have huri : Reads env d (optionBytes textBytes (uri.map some))
      (announced first uaExpandednodeidNamespaceuriFlag (stringDecodeBinary env))
      (uaStatuscodeGood, uri.map some) := announcedText_reads hheap huriFlag htext
  have hindex : Reads env d (optionBytes (fun n => toBytes 4 n.toNat) (givenIndex index))
      (announced first uaExpandednodeidServerindexFlag (uint32DecodeBinary env))
      (uaStatuscodeGood, givenIndex index) :=
    announced_reads hindexFlag fun n _ => uint32DecodeBinary_reads n
  have hvalue : UaValue.expandedNodeId
      (if (uri.map some).isSome then { id with namespaceIndex := 0 } else id) (uri.map some).join
      ((givenIndex index).getD 0) = .expandedNodeId id uri index := by
    rw [expanded_id expanded, join_map_some, givenIndex_getD]
  rw [← hvalue]
  unfold expandedNodeIdBytes
  rw [hfirst] at hid ⊢
  refine Takes.current fun ctx hctx => ?_
  have hsome : ¬env.message.length ≤ ctx.pos := by
    have hend := hctx.end_le
    rw [List.length_append, List.length_cons] at hend
    omega
  rw [if_neg hsome]
  refine peekByte_reads ?_
  exact hid.bind (huri.bind (hindex.bind_ret Takes.pure))

theorem localizedTextDecodeBinary_reads (hheap : env.heap.Ample) {locale text : Option Bytes}
    (hlocale : TextTyped locale) (htext : TextTyped text) :
    Reads env d (localizedTextBytes locale text) (localizedTextDecodeBinary env)
      (uaStatuscodeGood, .localizedText locale text) := by
  have hflags : ∀ locale text : Bool,
      (localizedMask locale text &&& uaLocalizedtextEncodingmasktypeLocale ≠ 0 ↔
          locale = true) ∧
        (localizedMask locale text &&& uaLocalizedtextEncodingmasktypeText ≠ 0 ↔
          text = true) := by decide
  obtain ⟨hlocaleFlag, htextFlag⟩ := hflags locale.isSome text.isSome
  have hvalue : UaValue.localizedText (locale.map some).join (text.map some).join =
      .localizedText locale text := by
    rw [join_map_some, join_map_some]
  rw [← hvalue]
  exact Takes.byte ((announcedText_reads hheap hlocaleFlag hlocale).bind
    ((announcedText_reads hheap htextFlag htext).bind_ret Takes.pure))

/-! ## The jump table on values that hold no others -/

theorem decodeBinaryJumpTable_reads_plain (hheap : env.heap.Ample) {fuel index : Nat}
    {type : UaDataType} {value : UaValue} (typed : PlainTyped index value)
    (expanded : value.Expanded) :
    Reads env d (plainBytes value) (decodeBinaryJumpTable env (fuel + 1) index type)
      (uaStatuscodeGood, value) := by
  unfold PlainTyped at typed
  split at typed
  · exact (booleanDecodeBinary_reads _).bind_ret Takes.pure
  · exact (byteDecodeBinary_reads _).bind_ret Takes.pure
  · exact (byteDecodeBinary_reads _).bind_ret Takes.pure
  · exact (uint16DecodeBinary_reads _).bind_ret Takes.pure
  · exact (uint16DecodeBinary_reads _).bind_ret Takes.pure
  · exact (uint32DecodeBinary_reads _).bind_ret Takes.pure
  · exact (uint32DecodeBinary_reads _).bind_ret Takes.pure
  · exact (uint32DecodeBinary_reads _).bind_ret Takes.pure
  · exact (uint32DecodeBinary_reads _).bind_ret Takes.pure
  · exact (uint64DecodeBinary_reads _).bind_ret Takes.pure
  · exact (uint64DecodeBinary_reads _).bind_ret Takes.pure
  · exact (uint64DecodeBinary_reads _).bind_ret Takes.pure
  · exact (uint64DecodeBinary_reads _).bind_ret Takes.pure
  · exact (stringDecodeBinary_reads hheap typed).bind_ret Takes.pure
  · exact (stringDecodeBinary_reads hheap typed).bind_ret Takes.pure
  · exact (stringDecodeBinary_reads hheap typed).bind_ret Takes.pure
  · exact (guidDecodeBinary_reads typed).bind_ret Takes.pure
  · exact (nodeIdDecodeBinary_reads hheap false false typed).bind_ret Takes.pure
  · exact expandedNodeIdDecodeBinary_reads hheap typed.1 typed.2 expanded
  · exact localizedTextDecodeBinary_reads hheap typed.1 typed.2
  · exact typed.elim

end

end Opcua
end OpcuaGateway
