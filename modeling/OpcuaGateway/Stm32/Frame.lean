/-
`processing_string_Receive_i2c`: the name and the value out of a frame of the STM32.

The stores the function makes are events, so that what it wrote can be told from what
was there before, also where printing an unterminated buffer stops it.
-/
import OpcuaGateway.Effect.Monitor
import OpcuaGateway.Text.CString

namespace OpcuaGateway
namespace Stm32

open Effect Effect.Action Text

/-- The two buffers the caller passes. -/
inductive Output where
  | name
  | value
deriving DecidableEq, Repr

structure Buffers where
  name : Bytes
  value : Bytes
deriving DecidableEq, Repr

namespace Buffers

def get (b : Buffers) : Output → Bytes
  | .name => b.name
  | .value => b.value

def put (b : Buffers) (text : Bytes) : Output → Buffers
  | .name => { b with name := text }
  | .value => { b with value := text }

@[simp] theorem get_put (b : Buffers) (text : Bytes) (out : Output) :
    (b.put text out).get out = text := by
  cases out <;> rfl

@[simp] theorem put_put (b : Buffers) (text text' : Bytes) (out : Output) :
    (b.put text out).put text' out = b.put text' out := by
  cases out <;> rfl

end Buffers

structure Store where
  out : Output
  offset : Nat
  byte : UInt8
deriving DecidableEq, Repr

inductive FrameEvent where
  | store (s : Store)
  | printf (text : Bytes)
deriving DecidableEq, Repr

inductive FrameFault where
  | overrun
  | unterminated
deriving DecidableEq, Repr

abbrev FrameM := Action Buffers FrameEvent FrameFault

/-! ## The function -/

/-- `out[offset] = byte`. -/
def storeByte (out : Output) (offset : Nat) (byte : UInt8) : FrameM Unit where
  run b :=
    if offset < (b.get out).length then
      { log := [.store { out := out, offset := offset, byte := byte }]
        exit := .ok ((), b.put ((b.get out).set offset byte) out) }
    else { log := [], exit := .error .overrun }

def storeFrom (out : Output) (offset : Nat) : Bytes → FrameM Unit
  | [] => pure ()
  | byte :: rest => storeByte out offset byte >>= fun _ => storeFrom out (offset + 1) rest

def strncpy (out : Output) (src : Bytes) (n : Nat) : FrameM Unit :=
  storeFrom out 0 (strncpyBytes src n)

/-- The argument of a `%s`. -/
def readString (out : Output) : FrameM Bytes where
  run b :=
    if 0 ∈ b.get out then { log := [], exit := .ok (cString (b.get out), b) }
    else { log := [], exit := .error .unterminated }

/-- The nested searches and the copies they guard.  58 is the colon and 35 the hash. -/
def copyFields (inputStrings : Bytes) : FrameM Unit :=
  match strchr inputStrings 0 58 with
  | none => pure ()
  | some colonPosition1 =>
    match strchr inputStrings (colonPosition1 + 1) 58 with
    | none => pure ()
    | some colonPosition2 =>
      match strchr inputStrings colonPosition2 35 with
      | none => pure ()
      | some hashPosition => do
        let valueLength := hashPosition - (colonPosition2 + 1)
        let nameLength := colonPosition2 - (colonPosition1 + 1)
        strncpy .name (inputStrings.drop (colonPosition1 + 1)) nameLength
        storeByte .name nameLength 0
        strncpy .value (inputStrings.drop (colonPosition2 + 1)) valueLength
        storeByte .value valueLength 0

/-- What is printed in any case. -/
def report : FrameM Unit := do
  let name ← readString .name
  emit (.printf (ascii "name: " ++ name ++ ascii "\n"))
  let value ← readString .value
  emit (.printf (ascii "value: " ++ value ++ ascii "\n"))
  if strstrFound name (ascii "MACHITIETXONG") then emit (.printf (ascii "VO DAY ROI NHA...."))
  else pure ()

def processingStringReceiveI2c (inputStrings : Bytes) : FrameM Unit := do
  copyFields inputStrings
  report

/-! ## What was written -/

def FrameEvent.store? : FrameEvent → Option Store
  | .store s => some s
  | .printf _ => none

def stores (log : List FrameEvent) : List Store := log.filterMap FrameEvent.store?

def Store.apply (b : Buffers) (s : Store) : Buffers :=
  b.put ((b.get s.out).set s.offset s.byte) s.out

/-- What some stores make of the buffers. -/
def Buffers.written (b : Buffers) (l : List Store) : Buffers := l.foldl Store.apply b

def storesFrom (out : Output) (offset : Nat) : Bytes → List Store
  | [] => []
  | byte :: rest =>
    { out := out, offset := offset, byte := byte } :: storesFrom out (offset + 1) rest

def fieldStores (out : Output) (text : Bytes) : List Store := storesFrom out 0 (text ++ [0])

theorem storesFrom_append (out : Output) (offset : Nat) (text text' : Bytes) :
    storesFrom out offset (text ++ text') =
      storesFrom out offset text ++ storesFrom out (offset + text.length) text' := by
  induction text generalizing offset with
  | nil => rfl
  | cons byte text ih =>
    rw [List.cons_append, storesFrom, ih, storesFrom, List.length_cons, List.cons_append,
      Nat.add_assoc offset 1, Nat.add_comm 1]

theorem stores_append (log log' : List FrameEvent) :
    stores (log ++ log') = stores log ++ stores log' :=
  List.filterMap_append

theorem stores_map (l : List Store) : stores (l.map FrameEvent.store) = l := by
  rw [stores, List.filterMap_map]
  exact List.filterMap_some

namespace Buffers

theorem written_append (b : Buffers) (l l' : List Store) :
    b.written (l ++ l') = (b.written l).written l' := List.foldl_append

/-- A text stored in one buffer replaces as many of its bytes and no others. -/
theorem written_storesFrom {b : Buffers} {out : Output} {offset : Nat} {text : Bytes}
    (h : offset + text.length ≤ (b.get out).length) :
    b.written (storesFrom out offset text) =
      b.put ((b.get out).take offset ++ (text ++ (b.get out).drop (offset + text.length))) out := by
  induction text generalizing b offset with
  | nil =>
    show b = _
    rw [List.nil_append, List.length_nil, Nat.add_zero, List.take_append_drop]
    cases out <;> rfl
  | cons byte text ih =>
    rw [List.length_cons] at h
    have hroom : offset + 1 + text.length ≤
        ((b.put ((b.get out).set offset byte) out).get out).length := by
      rw [get_put, List.length_set]
      omega
    show (b.put ((b.get out).set offset byte) out).written _ = _
    rw [ih hroom, get_put, put_put, List.drop_set_of_lt (by omega),
      List.take_add_one, List.take_set_of_le (Nat.le_refl _), List.getElem?_set_self (by omega),
      List.length_cons, Option.toList_some, List.append_assoc, List.singleton_append,
      Nat.add_assoc offset 1, Nat.add_comm 1, List.cons_append]

/-- A string and its terminator at the front of a buffer. -/
theorem written_fieldStores {b : Buffers} {out : Output} {text : Bytes}
    (h : text.length < (b.get out).length) :
    b.written (fieldStores out text) =
      b.put (text ++ 0 :: (b.get out).drop (text.length + 1)) out := by
  have hlen : (text ++ [0]).length = text.length + 1 := List.length_append
  rw [fieldStores, written_storesFrom (by omega), hlen, Nat.zero_add, List.take_zero,
    List.nil_append, List.append_assoc, List.singleton_append]

end Buffers

/-! ## Runs of the copies -/

theorem storeByte_run {b : Buffers} {out : Output} {offset : Nat} (byte : UInt8)
    (h : offset < (b.get out).length) :
    (storeByte out offset byte).run b =
      { log := [.store { out := out, offset := offset, byte := byte }]
        exit := .ok ((), b.written (storesFrom out offset [byte])) } := if_pos h

theorem storeFrom_run {b : Buffers} {out : Output} {offset : Nat} {text : Bytes}
    (h : offset + text.length ≤ (b.get out).length) :
    (storeFrom out offset text).run b =
      { log := (storesFrom out offset text).map FrameEvent.store
        exit := .ok ((), b.written (storesFrom out offset text)) } := by
  induction text generalizing b offset with
  | nil => rfl
  | cons byte text ih =>
    rw [List.length_cons] at h
    have hroom : offset + 1 + text.length ≤
        ((b.written (storesFrom out offset [byte])).get out).length := by
      show _ ≤ ((b.put ((b.get out).set offset byte) out).get out).length
      rw [Buffers.get_put, List.length_set]
      omega
    rw [storeFrom, bind_of_ok (storeByte_run byte (by omega)), ih hroom]
    rfl

/-- A field of the frame, copied with `strncpy` and terminated. -/
theorem copyField_run {s front text more : Bytes} {start : Nat} (hzero : (0 : UInt8) ∉ s)
    (beyond : Bytes) (hs : s = front ++ (text ++ more)) (hstart : front.length = start)
    {b : Buffers} {out : Output} (hroom : text.length < (b.get out).length) :
    (strncpy out ((s ++ 0 :: beyond).drop start) text.length >>= fun _ =>
        storeByte out text.length 0).run b =
      { log := (fieldStores out text).map FrameEvent.store
        exit := .ok ((), b.written (fieldStores out text)) } := by
  have hcopy : (strncpy out ((s ++ 0 :: beyond).drop start) text.length).run b =
      { log := (storesFrom out 0 text).map FrameEvent.store
        exit := .ok ((), b.written (storesFrom out 0 text)) } := by
    rw [strncpy, ← hstart, strncpyBytes_drop hzero beyond hs]
    exact storeFrom_run (by omega)
  have hterminator : text.length < ((b.written (storesFrom out 0 text)).get out).length := by
    rw [Buffers.written_storesFrom (by omega), Buffers.get_put, List.length_append,
      List.length_append, List.length_drop, List.length_take]
    omega
  have hstores : fieldStores out text =
      storesFrom out 0 text ++ storesFrom out text.length [0] := by
    rw [fieldStores, storesFrom_append, Nat.zero_add]
  rw [bind_of_ok hcopy, storeByte_run 0 hterminator, hstores, Buffers.written_append,
    List.map_append]
  rfl

/-! ## Frames -/

/-- `s` splits at its first two colons and the first hash after them. -/
structure Splits (s p n v r : Bytes) : Prop where
  eq : s = p ++ 58 :: (n ++ 58 :: (v ++ 35 :: r))
  lead : (58 : UInt8) ∉ p
  name : (58 : UInt8) ∉ n
  value : (35 : UInt8) ∉ v

theorem Splits.unique {s p n v r p' n' v' r' : Bytes} (h : Splits s p n v r)
    (h' : Splits s p' n' v' r') : p = p' ∧ n = n' ∧ v = v' ∧ r = r' := by
  obtain ⟨hp, hafter⟩ := split_unique (h.eq.symm.trans h'.eq) h.lead h'.lead
  obtain ⟨hn, hafter⟩ := split_unique hafter h.name h'.name
  obtain ⟨hv, hr⟩ := split_unique hafter h.value h'.value
  exact ⟨hp, hn, hv, hr⟩

theorem Splits.length {s p n v r : Bytes} (h : Splits s p n v r) :
    n.length + v.length + 3 ≤ s.length := by
  rw [h.eq]
  simp only [List.length_append, List.length_cons]
  omega

/-- The buffers hold what the frame has for them. -/
def Buffers.Roomy (b : Buffers) (s : Bytes) : Prop :=
  ∀ p n v r, Splits s p n v r → n.length < b.name.length ∧ v.length < b.value.length

theorem Buffers.roomy_of_length {b : Buffers} {s : Bytes} (hname : s.length ≤ b.name.length)
    (hvalue : s.length ≤ b.value.length) : b.Roomy s := by
  intro p n v r h
  have hlen := h.length
  omega

/-- A frame's name and value, each with its terminator. -/
def frameStores (n v : Bytes) : List Store := fieldStores .name n ++ fieldStores .value v

section Searches

variable {s p n v r : Bytes} (hzero : (0 : UInt8) ∉ s) (beyond : Bytes) (h : Splits s p n v r)
include hzero h

theorem Splits.firstColon : strchr (s ++ 0 :: beyond) 0 58 = some p.length := by
  have hsplit : s = [] ++ (p ++ 58 :: (n ++ 58 :: (v ++ 35 :: r))) := h.eq
  have hfound := strchr_some hzero beyond hsplit h.lead
  rwa [List.length_nil, Nat.zero_add] at hfound

theorem Splits.secondColon :
    strchr (s ++ 0 :: beyond) (p.length + 1) 58 = some (p.length + 1 + n.length) := by
  have hsplit : s = (p ++ [58]) ++ (n ++ 58 :: (v ++ 35 :: r)) := by
    rw [h.eq, List.append_assoc, List.singleton_append]
  have hfound := strchr_some hzero beyond hsplit h.name
  rwa [List.length_append, List.length_singleton] at hfound

/-- The search starts at the second colon itself. -/
theorem Splits.hash :
    strchr (s ++ 0 :: beyond) (p.length + 1 + n.length) 35 =
      some (p.length + 1 + n.length + (v.length + 1)) := by
  have hsplit : s = (p ++ 58 :: n) ++ ((58 :: v) ++ 35 :: r) := by
    rw [h.eq, List.append_assoc, List.cons_append, List.cons_append]
  have habsent : (35 : UInt8) ∉ 58 :: v := by
    intro hmem
    rcases List.mem_cons.mp hmem with heq | hmem
    · exact absurd heq (by decide)
    · exact h.value hmem
  have hfound := strchr_some hzero beyond hsplit habsent
  rw [List.length_append, List.length_cons, List.length_cons] at hfound
  rwa [Nat.add_assoc p.length 1, Nat.add_comm 1]

end Searches

theorem copyFields_of_splits {s p n v r : Bytes} (hzero : (0 : UInt8) ∉ s) (beyond : Bytes)
    (h : Splits s p n v r) {b : Buffers} (hname : n.length < b.name.length)
    (hvalue : v.length < b.value.length) :
    (copyFields (s ++ 0 :: beyond)).run b =
      { log := (frameStores n v).map FrameEvent.store
        exit := .ok ((), b.written (frameStores n v)) } := by
  have hnameLength : p.length + 1 + n.length - (p.length + 1) = n.length := by omega
  have hvalueLength : p.length + 1 + n.length + (v.length + 1) -
      (p.length + 1 + n.length + 1) = v.length := by omega
  have hnameAt : s = (p ++ [58]) ++ (n ++ (58 :: (v ++ 35 :: r))) := by
    rw [h.eq, List.append_assoc, List.singleton_append]
  have hvalueAt : s = (p ++ 58 :: (n ++ [58])) ++ (v ++ (35 :: r)) := by
    rw [h.eq]
    simp only [List.append_assoc, List.cons_append, List.nil_append]
  have hvalueRoom : v.length < ((b.written (fieldStores .name n)).get .value).length := by
    have hnameRoom : n.length < (b.get .name).length := hname
    rw [Buffers.written_fieldStores hnameRoom]
    exact hvalue
  have hvalueStart : (p ++ 58 :: (n ++ [58])).length = p.length + 1 + n.length + 1 := by
    simp only [List.length_append, List.length_cons, List.length_nil]
    omega
  have hnameStart : (p ++ [58]).length = p.length + 1 := List.length_append
  have hnameRoom : n.length < (b.get .name).length := hname
  have hnameRun := copyField_run hzero beyond hnameAt hnameStart hnameRoom
  have hvalueRun := copyField_run hzero beyond hvalueAt hvalueStart hvalueRoom
  unfold copyFields
  simp only [h.firstColon hzero beyond, h.secondColon hzero beyond, h.hash hzero beyond,
    hnameLength, hvalueLength]
  rw [← bind_assoc_run, bind_of_ok hnameRun, hvalueRun, frameStores, Buffers.written_append,
    List.map_append]
  rfl

theorem copyFields_of_not_splits {s : Bytes} (hzero : (0 : UInt8) ∉ s) (beyond : Bytes)
    (h : ∀ p n v r, ¬ Splits s p n v r) (b : Buffers) :
    (copyFields (s ++ 0 :: beyond)).run b = { log := [], exit := .ok ((), b) } := by
  unfold copyFields
  by_cases hfirst : (58 : UInt8) ∈ s
  · obtain ⟨p, after, hs, hp⟩ := List.eq_append_cons_of_mem hfirst
    have hstart : s = [] ++ (p ++ 58 :: after) := hs
    have hcolon1 := strchr_some hzero beyond hstart hp
    rw [List.length_nil, Nat.zero_add] at hcolon1
    have hs' : s = (p ++ [58]) ++ after := by
      rw [hs, List.append_assoc, List.singleton_append]
    have hlen : (p ++ [58]).length = p.length + 1 := List.length_append
    rw [hcolon1]
    by_cases hsecond : (58 : UInt8) ∈ after
    · obtain ⟨n, after', hafter, hn⟩ := List.eq_append_cons_of_mem hsecond
      have hcolon2 := strchr_some hzero beyond (hafter ▸ hs') hn
      have hnohash : (35 : UInt8) ∉ 58 :: after' := by
        intro hmem
        have hhash : (35 : UInt8) ∈ after' := by
          rcases List.mem_cons.mp hmem with heq | hmem
          · exact absurd heq (by decide)
          · exact hmem
        obtain ⟨v, r, hvr, hv⟩ := List.eq_append_cons_of_mem hhash
        exact h p n v r ⟨by rw [hs, hafter, hvr], hp, hn, hv⟩
      have hs'' : s = (p ++ 58 :: n) ++ 58 :: after' := by
        rw [hs, hafter, List.append_assoc, List.cons_append]
      have hnone := strchr_none hzero beyond hs'' hnohash
      rw [hlen] at hcolon2
      rw [List.length_append, List.length_cons, Nat.add_comm n.length, ← Nat.add_assoc] at hnone
      simp only [hcolon2, hnone]
      rfl
    · have hnone := strchr_none hzero beyond hs' hsecond
      rw [hlen] at hnone
      simp only [hnone]
      rfl
  · have hstart : s = [] ++ s := rfl
    have hnone := strchr_none hzero beyond hstart hfirst
    rw [List.length_nil] at hnone
    rw [hnone]
    rfl

/-! ## The language of the parser -/

def storeless : LogProperty FrameEvent where
  holds log := stores log = []
  nil := rfl
  append h h' := by rw [stores_append, h, h', List.append_nil]

theorem readString_logs (out : Output) : Logs (readString out) storeless := by
  intro b
  show stores (if 0 ∈ b.get out then _ else _ : Run Buffers FrameEvent FrameFault Bytes).log = []
  split_ifs <;> rfl

theorem report_logs : Logs report storeless := by
  have hprintf : ∀ text, Logs (emit (.printf text) : FrameM Unit) storeless :=
    fun text => logs_emit rfl
  refine (readString_logs .name).bind fun name => (hprintf _).bind fun _ =>
    (readString_logs .value).bind fun value => (hprintf _).bind fun _ => ?_
  split_ifs
  · exact hprintf _
  · exact logs_pure storeless ()

theorem readString_run {b : Buffers} {out : Output} (h : 0 ∈ b.get out) :
    (readString out).run b = { log := [], exit := .ok (cString (b.get out), b) } := if_pos h

theorem readString_final {b t : Buffers} {out : Output} {text : Bytes}
    (h : ((readString out).run b).final? = some (text, t)) : t = b := by
  by_cases hzero : 0 ∈ b.get out
  · rw [readString_run hzero] at h
    exact (congrArg Prod.snd (Option.some.inj h)).symm
  · have hstop : (readString out).run b = { log := [], exit := .error .unterminated } :=
      if_neg hzero
    rw [hstop] at h
    cases h

theorem report_final {b t : Buffers} (h : (report.run b).final? = some ((), t)) : t = b := by
  obtain ⟨name, b₁, hname, h⟩ := bind_returns.mp h
  obtain ⟨_, b₂, hprinted, h⟩ := bind_returns.mp h
  obtain ⟨value, b₃, hvalue, h⟩ := bind_returns.mp h
  obtain ⟨_, b₄, hprinted', h⟩ := bind_returns.mp h
  have h₁ : b₁ = b := readString_final hname
  have h₂ : b₁ = b₂ := congrArg Prod.snd (Option.some.inj hprinted)
  have h₃ : b₃ = b₂ := readString_final hvalue
  have h₄ : b₃ = b₄ := congrArg Prod.snd (Option.some.inj hprinted')
  have hlast : b₄ = t := by
    split_ifs at h
    · exact congrArg Prod.snd (Option.some.inj h)
    · exact congrArg Prod.snd (Option.some.inj h)
  rw [← hlast, ← h₄, h₃, ← h₂, h₁]

theorem report_returns {b : Buffers} (hname : 0 ∈ b.name) (hvalue : 0 ∈ b.value) :
    (report.run b).final? = some ((), b) := by
  have hnameRead : 0 ∈ b.get .name := hname
  have hvalueRead : 0 ∈ b.get .value := hvalue
  rw [report, bind_of_ok (readString_run hnameRead), bind_of_ok (emit_run _ _),
    bind_of_ok (readString_run hvalueRead), bind_of_ok (emit_run _ _)]
  split_ifs <;> rfl

theorem processing_stores (inputStrings : Bytes) (b : Buffers) :
    stores ((processingStringReceiveI2c inputStrings).run b).log =
      stores ((copyFields inputStrings).run b).log := by
  obtain ⟨l, hlog, hstoreless⟩ := Logs.bind_log (fun _ => report_logs) (copyFields inputStrings) b
  rw [processingStringReceiveI2c, hlog, stores_append, hstoreless, List.append_nil]

/-- The buffers once a name and a value are in them. -/
def Buffers.filled (b : Buffers) (n v : Bytes) : Buffers where
  name := n ++ 0 :: b.name.drop (n.length + 1)
  value := v ++ 0 :: b.value.drop (v.length + 1)

theorem written_frameStores {b : Buffers} {n v : Bytes} (hname : n.length < b.name.length)
    (hvalue : v.length < b.value.length) : b.written (frameStores n v) = b.filled n v := by
  have hnameRoom : n.length < (b.get .name).length := hname
  rw [frameStores, Buffers.written_append, Buffers.written_fieldStores hnameRoom]
  exact Buffers.written_fieldStores hvalue

/-- A name and a value are what the function wrote, and it came to its end. -/
def Yields (inputStrings : Bytes) (b : Buffers) (n v : Bytes) : Prop :=
  stores ((processingStringReceiveI2c inputStrings).run b).log = frameStores n v ∧
    ((processingStringReceiveI2c inputStrings).run b).final? = some ((), b.filled n v)

def LeavesAlone (inputStrings : Bytes) (b : Buffers) : Prop :=
  stores ((processingStringReceiveI2c inputStrings).run b).log = [] ∧
    ∀ t, ((processingStringReceiveI2c inputStrings).run b).final? = some ((), t) → t = b

theorem yields_of_splits {s p n v r : Bytes} (hzero : (0 : UInt8) ∉ s) (beyond : Bytes)
    (h : Splits s p n v r) {b : Buffers} (hroom : b.Roomy s) : Yields (s ++ 0 :: beyond) b n v := by
  obtain ⟨hname, hvalue⟩ := hroom p n v r h
  have hcopy := copyFields_of_splits hzero beyond h hname hvalue
  constructor
  · rw [processing_stores, hcopy, stores_map]
  · have hreport := report_returns (b := b.filled n v)
      (List.mem_append_right n List.mem_cons_self) (List.mem_append_right v List.mem_cons_self)
    rw [processingStringReceiveI2c, bind_of_ok hcopy, Run.final?_after,
      written_frameStores hname hvalue]
    exact hreport

theorem leavesAlone_of_not_splits {s : Bytes} (hzero : (0 : UInt8) ∉ s) (beyond : Bytes)
    (h : ∀ p n v r, ¬ Splits s p n v r) (b : Buffers) : LeavesAlone (s ++ 0 :: beyond) b := by
  have hcopy := copyFields_of_not_splits hzero beyond h b
  constructor
  · rw [processing_stores, hcopy]
    rfl
  · intro t hreturns
    rw [processingStringReceiveI2c, bind_of_ok hcopy, Run.final?_after] at hreturns
    exact report_final hreturns

theorem frameStores_ne_nil (n v : Bytes) : frameStores n v ≠ [] := by
  rw [frameStores, fieldStores]
  cases n <;> exact List.cons_ne_nil _ _

/-- The function takes exactly the strings that split, and its outputs are the parts. -/
theorem processing_language {s : Bytes} (hzero : (0 : UInt8) ∉ s) (beyond : Bytes) {b : Buffers}
    (hroom : b.Roomy s) :
    (stores ((processingStringReceiveI2c (s ++ 0 :: beyond)).run b).log ≠ [] ↔
        ∃ p n v r, Splits s p n v r) ∧
      (∀ p n v r, Splits s p n v r →
        Yields (s ++ 0 :: beyond) b n v ∧ n.length + v.length + 3 ≤ s.length ∧
          ∀ p' n' v' r', Splits s p' n' v' r' → p = p' ∧ n = n' ∧ v = v' ∧ r = r') ∧
      ((∀ p n v r, ¬ Splits s p n v r) → LeavesAlone (s ++ 0 :: beyond) b) ∧
      ∀ p n v : Bytes, (58 : UInt8) ∉ p → (58 : UInt8) ∉ n → (35 : UInt8) ∉ v →
        s = p ++ 58 :: (n ++ 58 :: (v ++ [35])) → Yields (s ++ 0 :: beyond) b n v := by
  refine ⟨⟨?_, ?_⟩, ?_, ?_, ?_⟩
  · intro hwrites
    by_contra hnone
    have hnot : ∀ p n v r, ¬ Splits s p n v r := fun p n v r h => hnone ⟨p, n, v, r, h⟩
    exact hwrites (leavesAlone_of_not_splits hzero beyond hnot b).1
  · rintro ⟨p, n, v, r, h⟩
    rw [(yields_of_splits hzero beyond h hroom).1]
    exact frameStores_ne_nil n v
  · exact fun p n v r h =>
      ⟨yields_of_splits hzero beyond h hroom, h.length, fun p' n' v' r' h' => h.unique h'⟩
  · exact fun h => leavesAlone_of_not_splits hzero beyond h b
  · exact fun p n v hp hn hv hs => yields_of_splits hzero beyond ⟨hs, hp, hn, hv⟩ hroom

def Buffers.blank : Buffers := { name := List.replicate 20 0, value := List.replicate 20 0 }

theorem processing_language_temperature :
    Yields (ascii "t:T1:20#" ++ 0 :: []) Buffers.blank (ascii "T1") (ascii "20") :=
  have hroom : Buffers.blank.Roomy (ascii "t:T1:20#") :=
    Buffers.roomy_of_length (by decide) (by decide)
  (processing_language (by decide) [] hroom).2.2.2 (ascii "t") (ascii "T1") (ascii "20")
    (by decide) (by decide) (by decide) rfl

end Stm32
end OpcuaGateway
