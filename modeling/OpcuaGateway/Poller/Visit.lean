/-
What one iteration of the node loop does, by the way it goes through its
branches.

`visit` sorts an environment into the ways an iteration can go, looking only at
what the responses say, and `visitRun` is the run each of them makes.
`nodeBody_run` is the theorem this file exists for: the iteration makes exactly
the run of its visit.  Every later property of the loop is read off `visitRun`.
-/
import OpcuaGateway.Poller.Task

namespace OpcuaGateway
namespace Poller

open Effect Effect.Action Heap Opcua Rtc Text Numeric Idf

/-! ## What a response offers -/

/-- The object in the first value of a response, if that value is a scalar. -/
def firstContent (response : UaReadResponse) : Option UaContent :=
  response.results.head?.bind fun result => result.value.content?

def textOf : UaContent → Option UaString
  | .localizedText value => some value.text
  | _ => none

def sampleOf : UaContent → Option Sample
  | .float bits => some (.floatValue bits)
  | .double bits => some (.doubleValue bits)
  | .uint16 value => some (.intValue value)
  | _ => none

/-- The text of a GOOD response whose first value is a scalar `UA_LocalizedText`. -/
def scalarText (response : UaReadResponse) : Option UaString :=
  if response.serviceResult = uaStatuscodeGood then (firstContent response).bind textOf else none

/-- The sample of a GOOD response whose first value is a scalar FLOAT, DOUBLE or
UINT16. -/
def scalarSample (response : UaReadResponse) : Option Sample :=
  if response.serviceResult = uaStatuscodeGood then (firstContent response).bind sampleOf else none

/-- The variable a node stands for, which names its topic. -/
def variableName (node : UaNodeId) : String :=
  if node.namespaceIndex = 4 then
    match node.numeric with
    | 7 => "tmInjTime"
    | 8 => "tmClpOpnTime"
    | 9 => "tmChargeTime"
    | 10 => "tmClpClsTime"
    | 11 => "NozzleTemp"
    | 12 => "counterShot"
    | 13 => "SwitchOverPos"
    | 14 => "cycleTime"
    | 15 => "tmCoolingTime"
    | 16 => "InjectionPeakPressure"
    | _ => ""
  else ""

def nodeTopic (node : UaNodeId) : String := "HAITHIEN/I1/Metric/" ++ variableName node

theorem floatTopic_eq {i : Nat} (h : i < 10) : floatTopic i = some (nodeTopic (nodeIds i)) := by
  interval_cases i <;> decide

theorem doubleTopic_eq {i : Nat} (h : i < 10) : doubleTopic i = some (nodeTopic (nodeIds i)) := by
  interval_cases i <;> decide

theorem uint16Topic_eq {i : Nat} (h : i < 10) : uint16Topic i = some (nodeTopic (nodeIds i)) := by
  interval_cases i <;> decide

/-! ## States along the way -/

namespace TaskState

def acquire (s : TaskState) (blocks : Nat) : TaskState :=
  { s with heap := (s.heap.acquire blocks).2 }

def drop (s : TaskState) (id : Nat) : TaskState := { s with heap := s.heap.drop id }

/-- After a service call with the given outcome. -/
def served (s : TaskState) (outcome : ServiceOutcome) : TaskState :=
  { client := (uaClientService s.client outcome).2
    localTime := s.localTime
    heap := (s.heap.acquire outcome.response.memberBlocks).2 }

def withTime (s : TaskState) (t : Tm) : TaskState := { s with localTime := t }

end TaskState

/-- The content of `local_time` after a reading of the clock. -/
def timeAfter (bus : I2cBus) (t : Tm) : Tm :=
  if (timeRead bus I2cDev.zero).1 = espOk then timeOfRegisters (timeRead bus I2cDev.zero).2 else t

/-! ## Runs of the parts -/

theorem allocate_true (s : TaskState) :
    (allocate true).run s = { log := [], exit := .ok (some s.heap.next, s.acquire 1) } := rfl

theorem allocate_false (s : TaskState) :
    (allocate false).run s = { log := [], exit := .ok (none, s) } := rfl

theorem clientServiceRead_run (network : UaReadRequest → ServiceOutcome)
    (request : UaReadRequest) (s : TaskState) :
    (clientServiceRead network request).run s =
      { log := [.serviceRead request (network request)]
        exit := .ok ({ response := (network request).response, members := s.heap.next },
          s.served (network request)) } := by
  rw [clientServiceRead, bind_of_ok (emit_run _ _), update_run, Run.after_mk,
    ← uaClientService_fst s.client (network request)]
  show _ = Run.mk _ (Except.ok (_, TaskState.mk _ _ _))
  rw [← uaClientService_fst s.client (network request)]
  rfl

theorem deleteMembers_run {s : TaskState} {response : OwnedResponse}
    (h : s.heap.holds response.members) :
    (deleteMembers response).run s = { log := [], exit := .ok ((), s.drop response.members) } := by
  simp only [deleteMembers, Ledger.release_of_holds h]
  rfl

theorem castInt_length (text : UaString) : castInt text.data.length = text.data.length := by
  have h := text.decoded
  have hnat : (BitVec.ofNat 32 text.data.length).toNat = text.data.length := by
    rw [BitVec.toNat_ofNat]
    omega
  rw [castInt, BitVec.toInt_eq_toNat_of_lt (by omega), hnat]

theorem copyText_run (text : UaString) (s : TaskState) :
    (copyText true text).run s =
      { log := [], exit := .ok (text.data ++ [0], s.acquire 1) } := by
  have h := text.decoded
  have hsize : castSize text.data.length = text.data.length := by
    rw [castSize, BitVec.ofInt_natCast, BitVec.toNat_ofNat]
    omega
  have hroom : castSize (text.data.length + 1) = text.data.length + 1 := by
    rw [castSize, ← Int.natCast_succ, BitVec.ofInt_natCast, BitVec.toNat_ofNat]
    omega
  rw [copyText, bind_of_ok (allocate_true s)]
  simp only [castInt_length, hsize, hroom]
  rw [if_pos ⟨by omega, by omega, by omega⟩, List.take_length]
  rfl

theorem copyText_null (text : UaString) (s : TaskState) :
    (copyText false text).run s = { log := [], exit := .error .nullDereference } := by
  rw [copyText, bind_of_ok (allocate_false s)]
  rfl

theorem readLocalTime_run (bus : I2cBus) (s : TaskState) :
    (readLocalTime bus).run s =
      { log := [.rtcRead (timeRead bus I2cDev.zero).1 (timeRead bus I2cDev.zero).2]
        exit := .ok (timeAfter bus s.localTime, s.withTime (timeAfter bus s.localTime)) } := by
  have htime : (ds3231GetTime bus (some I2cDev.zero) (some s.localTime)).2.getD s.localTime =
      timeAfter bus s.localTime := by
    by_cases h : (timeRead bus I2cDev.zero).1 = espOk
    · rw [ds3231GetTime_of_ok h, timeAfter, if_pos h]
      rfl
    · rw [ds3231GetTime_of_error h, timeAfter, if_neg h]
      rfl
  rw [readLocalTime, bind_of_ok (emit_run _ _), update_run, htime]
  rfl

/-- The events of a published sample, `t` being the time it is stamped with. -/
def sampleLog (bus : I2cBus) (topic : String) (nodeName value : Bytes) (t : Tm) : List Event :=
  [.rtcRead (timeRead bus I2cDev.zero).1 (timeRead bus I2cDev.zero).2,
    .printf (dataReceiverOpcua nodeName value t),
    .publish
      { topic := topic, data := dataReceiverOpcua nodeName value t, len := 0, qos := 0,
        retain := 1 }]

theorem publishSample_run (bus : I2cBus) (topic : String) (nodeName value : Bytes)
    (s : TaskState) :
    (publishSample bus (some topic) nodeName value).run s =
      { log := sampleLog bus topic nodeName value (timeAfter bus s.localTime)
        exit := .ok ((), s.withTime (timeAfter bus s.localTime)) } := by
  rw [publishSample, bind_of_ok (readLocalTime_run bus s), bind_of_ok (emit_run _ _), emit_run]
  rfl

/-! ## The branches on the type -/

def unsupportedLog (i : Nat) : List Event :=
  [.printf (ascii "Unsupported data type for Node " ++ formatInt 0 (i + 1) ++ ascii "\n")]

theorem castLocalizedText_run {v : UaVariant} {content : UaContent} {text : UaString}
    (hcontent : v.content? = some content) (htext : textOf content = some text) (s : TaskState) :
    (castLocalizedText v.data).run s = { log := [], exit := .ok ({ text := text }, s) } := by
  rw [UaVariant.data_of_content? hcontent]
  cases content with
  | localizedText value =>
    rw [← Option.some.inj htext]
    rfl
  | float bits => cases htext
  | double bits => cases htext
  | uint16 value => cases htext
  | other type unread => cases htext

/-- The name is taken exactly when the variant holds a text. -/
theorem hasScalarType_localizedtext (v : UaVariant) :
    v.hasScalarType uaTypesLocalizedtext = (v.content?.bind textOf).isSome := by
  cases hv : v.content? with
  | none => rw [UaVariant.hasScalarType_of_content?_none hv]; rfl
  | some content =>
    rw [UaVariant.hasScalarType_of_content? hv]
    cases content with
    | localizedText value => rfl
    | float bits => rfl
    | double bits => rfl
    | uint16 value => rfl
    | other type unread =>
      have hne : type ≠ uaTypesLocalizedtext := fun h => unread (by simp [h])
      simpa [UaContent.typeIndex, textOf] using hne

theorem publishValue_sampled (env : PassEnv) {i : Nat} (hi : i < 10) (nodeName : Bytes)
    {v : UaVariant} {sample : Sample} (h : v.content?.bind sampleOf = some sample)
    (s : TaskState) :
    (publishValue env i nodeName v).run s =
      { log := sampleLog (env.rtc i) (nodeTopic (nodeIds i)) nodeName sample.valueText
          (timeAfter (env.rtc i) s.localTime)
        exit := .ok ((), s.withTime (timeAfter (env.rtc i) s.localTime)) } := by
  obtain ⟨content, hcontent, hsample⟩ := Option.bind_eq_some_iff.mp h
  have hdata := UaVariant.data_of_content? hcontent
  have htype := UaVariant.hasScalarType_of_content? hcontent
  unfold publishValue
  cases content with
  | localizedText value => cases hsample
  | float bits =>
    have hfloat : v.hasScalarType uaTypesFloat = true := htype uaTypesFloat
    rw [← Option.some.inj hsample, if_pos hfloat, hdata, floatTopic_eq hi]
    exact publishSample_run (env.rtc i) (nodeTopic (nodeIds i)) nodeName
      (formatFixed binary32 bits.toNat) s
  | double bits =>
    have hfloat : v.hasScalarType uaTypesFloat = false := htype uaTypesFloat
    have hdouble : v.hasScalarType uaTypesDouble = true := htype uaTypesDouble
    rw [← Option.some.inj hsample, hfloat, if_neg Bool.false_ne_true, if_pos hdouble, hdata,
      doubleTopic_eq hi]
    exact publishSample_run (env.rtc i) (nodeTopic (nodeIds i)) nodeName
      (formatFixed binary32 bits.toUInt32.toNat) s
  | uint16 value =>
    have hfloat : v.hasScalarType uaTypesFloat = false := htype uaTypesFloat
    have hdouble : v.hasScalarType uaTypesDouble = false := htype uaTypesDouble
    have huint16 : v.hasScalarType uaTypesUint16 = true := htype uaTypesUint16
    rw [← Option.some.inj hsample, hfloat, if_neg Bool.false_ne_true, hdouble,
      if_neg Bool.false_ne_true, if_pos huint16, hdata, uint16Topic_eq hi]
    exact publishSample_run (env.rtc i) (nodeTopic (nodeIds i)) nodeName
      (formatInt 0 value.toNat) s
  | other type unread => cases hsample

/-- A value is taken exactly when the variant holds a sample. -/
theorem hasScalarType_sample (v : UaVariant) :
    (∃ type ∈ [uaTypesFloat, uaTypesDouble, uaTypesUint16], v.hasScalarType type = true) ↔
      (v.content?.bind sampleOf).isSome = true := by
  cases hv : v.content? with
  | none => simp [UaVariant.hasScalarType_of_content?_none hv]
  | some content =>
    have htype := UaVariant.hasScalarType_of_content? hv
    simp only [htype, beq_iff_eq, exists_eq_right', Option.bind_some]
    cases content with
    | localizedText value =>
      have hunsupported : uaTypesLocalizedtext ∉ [uaTypesFloat, uaTypesDouble, uaTypesUint16] := by
        decide
      simpa [UaContent.typeIndex, sampleOf] using hunsupported
    | float bits => simp [UaContent.typeIndex, sampleOf]
    | double bits => simp [UaContent.typeIndex, sampleOf]
    | uint16 value => simp [UaContent.typeIndex, sampleOf]
    | other type unread =>
      have hunsupported : type ∉ [uaTypesFloat, uaTypesDouble, uaTypesUint16] :=
        fun h => unread (List.mem_cons_of_mem _ h)
      simpa [UaContent.typeIndex, sampleOf] using hunsupported

theorem publishValue_unsupported (env : PassEnv) (i : Nat) (nodeName : Bytes) {v : UaVariant}
    (h : v.content?.bind sampleOf = none) (s : TaskState) :
    (publishValue env i nodeName v).run s = { log := unsupportedLog i, exit := .ok ((), s) } := by
  have hnot : ∀ type ∈ [uaTypesFloat, uaTypesDouble, uaTypesUint16],
      v.hasScalarType type = false := by
    intro type htype
    have hnone := (not_congr (hasScalarType_sample v)).mpr (by rw [h]; exact Bool.false_ne_true)
    exact Bool.eq_false_iff.mpr fun htrue => hnone ⟨type, htype, htrue⟩
  rw [publishValue, hnot uaTypesFloat (by simp), if_neg Bool.false_ne_true,
    hnot uaTypesDouble (by simp), if_neg Bool.false_ne_true,
    hnot uaTypesUint16 (by simp), if_neg Bool.false_ne_true, emit_run]
  rfl

/-! ## Visits -/

def nameRequest (i : Nat) : UaReadRequest :=
  { nodesToRead := [{ nodeId := nodeIds i, attributeId := uaAttributeidDisplayname }] }

def valueRequest (i : Nat) : UaReadRequest :=
  { nodesToRead := [{ nodeId := nodeIds i, attributeId := uaAttributeidValue }] }

namespace PassEnv

def name (env : PassEnv) (i : Nat) : ServiceOutcome := env.network (nameRequest i)

def value (env : PassEnv) (i : Nat) : ServiceOutcome := env.network (valueRequest i)

end PassEnv

def nameRead (env : PassEnv) (i : Nat) : Event := .serviceRead (nameRequest i) (env.name i)

def valueRead (env : PassEnv) (i : Nat) : Event := .serviceRead (valueRequest i) (env.value i)

/-- The ways an iteration can go.  `faulted` counts the reads made before it. -/
inductive NodeVisit where
  | faulted (fault : Fault) (reads : Nat)
  | nameBad
  | nameMistyped
  | valueBad
  | valueMistyped
  | sampled (name : UaString) (sample : Sample)

/-- The part of a visit that follows a usable name. -/
def valueVisit (env : PassEnv) (i : Nat) (name : UaString) : NodeVisit :=
  if env.valueItem i then
    if (env.value i).response.serviceResult = uaStatuscodeGood then
      if (env.value i).response.results = [] then .faulted .resultsOutOfRange 2
      else
        match scalarSample (env.value i).response with
        | none => .valueMistyped
        | some sample => .sampled name sample
    else .valueBad
  else .faulted .nullDereference 1

def visit (env : PassEnv) (i : Nat) : NodeVisit :=
  if env.nameItem i then
    if (env.name i).response.serviceResult = uaStatuscodeGood then
      if (env.name i).response.results = [] then .faulted .resultsOutOfRange 1
      else
        match scalarText (env.name i).response with
        | none => .nameMistyped
        | some name =>
          if env.nodeName i then valueVisit env i name else .faulted .nullDereference 1
    else .nameBad
  else .faulted .nullDereference 0

/-! ## The run of a visit

The holdings of an iteration that starts with `n` as the next identity are `n`
(the first request), `n + 1` (the response to it), `n + 2` (the copy of the
name), `n + 3` (the second request) and `n + 4` (the response to that). -/

def nameServed (env : PassEnv) (i : Nat) (s : TaskState) : TaskState :=
  (s.acquire 1).served (env.name i)

/-- After the name was copied and the value read. -/
def valueServed (env : PassEnv) (i : Nat) (s : TaskState) : TaskState :=
  (((nameServed env i s).acquire 1).acquire 1).served (env.value i)

/-- After both responses were given back. -/
def settled (env : PassEnv) (i : Nat) (s : TaskState) : TaskState :=
  ((valueServed env i s).drop (s.heap.next + 4)).drop (s.heap.next + 1)

def visitState (env : PassEnv) (i : Nat) (s : TaskState) : NodeVisit → TaskState
  | .faulted _ _ => s
  | .nameBad => nameServed env i s
  | .nameMistyped => (nameServed env i s).drop (s.heap.next + 1)
  | .valueBad => (valueServed env i s).drop (s.heap.next + 1)
  | .valueMistyped => settled env i s
  | .sampled _ _ => (settled env i s).withTime (timeAfter (env.rtc i) s.localTime)

def visitLog (env : PassEnv) (i : Nat) (t : Tm) : NodeVisit → List Event
  | .faulted _ reads => [nameRead env i, valueRead env i].take reads
  | .nameBad => [nameRead env i]
  | .nameMistyped => [nameRead env i]
  | .valueBad => [nameRead env i, valueRead env i]
  | .valueMistyped => [nameRead env i, valueRead env i] ++ unsupportedLog i
  | .sampled name sample => [nameRead env i, valueRead env i] ++
      sampleLog (env.rtc i) (nodeTopic (nodeIds i)) (name.data ++ [0]) sample.valueText
        (timeAfter (env.rtc i) t)

def visitExit (env : PassEnv) (i : Nat) (s : TaskState) :
    NodeVisit → Except Fault (Unit × TaskState)
  | .faulted fault _ => .error fault
  | v => .ok ((), visitState env i s v)

def visitRun (env : PassEnv) (i : Nat) (s : TaskState) : Run TaskState Event Fault Unit where
  log := visitLog env i s.localTime (visit env i)
  exit := visitExit env i s (visit env i)

/-! ## The iteration makes the run of its visit -/

theorem readRequest_name (item i : Nat) (s : TaskState) :
    (readRequest (some item) (nodeIds i) uaAttributeidDisplayname).run s =
      { log := [], exit := .ok (nameRequest i, s) } := rfl

theorem readRequest_value (item i : Nat) (s : TaskState) :
    (readRequest (some item) (nodeIds i) uaAttributeidValue).run s =
      { log := [], exit := .ok (valueRequest i, s) } := rfl

theorem resultValue_cons {response : UaReadResponse} {first : UaDataValue}
    {rest : List UaDataValue} (h : response.results = first :: rest) (s : TaskState) :
    (resultValue response 0).run s = { log := [], exit := .ok (first.value, s) } := by
  rw [resultValue, h]
  rfl

theorem resultValue_nil {response : UaReadResponse} (h : response.results = []) (s : TaskState) :
    (resultValue response 0).run s = { log := [], exit := .error .resultsOutOfRange } := by
  rw [resultValue, h]
  rfl

theorem scalarSample_cons {response : UaReadResponse} {first : UaDataValue}
    {rest : List UaDataValue} (hgood : response.serviceResult = uaStatuscodeGood)
    (h : response.results = first :: rest) :
    scalarSample response = first.value.content?.bind sampleOf := by
  rw [scalarSample, if_pos hgood, firstContent, h]
  rfl

theorem scalarText_cons {response : UaReadResponse} {first : UaDataValue}
    {rest : List UaDataValue} (hgood : response.serviceResult = uaStatuscodeGood)
    (h : response.results = first :: rest) :
    scalarText response = first.value.content?.bind textOf := by
  rw [scalarText, if_pos hgood, firstContent, h]
  rfl

theorem holds_served (s : TaskState) (outcome : ServiceOutcome) :
    (s.served outcome).heap.holds s.heap.next :=
  Ledger.holds_acquire.mpr (Or.inr rfl)

theorem holds_served_of_holds {s : TaskState} {id : Nat} (h : s.heap.holds id)
    (outcome : ServiceOutcome) : (s.served outcome).heap.holds id :=
  Ledger.holds_acquire.mpr (Or.inl h)

theorem holds_acquire_of_holds {s : TaskState} {id : Nat} (h : s.heap.holds id) (blocks : Nat) :
    (s.acquire blocks).heap.holds id :=
  Ledger.holds_acquire.mpr (Or.inl h)

theorem holds_drop_of_ne {s : TaskState} {id id' : Nat} (h : s.heap.holds id) (hne : id ≠ id') :
    (s.drop id').heap.holds id :=
  Ledger.holds_drop.mpr ⟨h, hne⟩

theorem holds_withTime {s : TaskState} {id : Nat} (h : s.heap.holds id) (t : Tm) :
    (s.withTime t).heap.holds id := h

theorem nameServed_holds (env : PassEnv) (i : Nat) (s : TaskState) :
    (nameServed env i s).heap.holds (s.heap.next + 1) :=
  holds_served (s.acquire 1) (env.name i)

theorem valueServed_holds_name (env : PassEnv) (i : Nat) (s : TaskState) :
    (valueServed env i s).heap.holds (s.heap.next + 1) :=
  holds_served_of_holds
    (holds_acquire_of_holds (holds_acquire_of_holds (nameServed_holds env i s) 1) 1) _

theorem valueServed_holds_value (env : PassEnv) (i : Nat) (s : TaskState) :
    (valueServed env i s).heap.holds (s.heap.next + 4) :=
  holds_served (((nameServed env i s).acquire 1).acquire 1) (env.value i)

/-- What the second half of an iteration does, from the state the copied name is in. -/
theorem readValue_run (env : PassEnv) {i : Nat} (hi : i < 10) (name : UaString)
    (s : TaskState) :
    (readValue env i (name.data ++ [0])).run ((nameServed env i s).acquire 1) =
      match valueVisit env i name with
      | .faulted fault reads =>
        { log := [valueRead env i].take (reads - 1), exit := .error fault }
      | .valueMistyped =>
        { log := [valueRead env i] ++ unsupportedLog i
          exit := .ok ((), (valueServed env i s).drop (s.heap.next + 4)) }
      | .sampled _ sample =>
        { log := [valueRead env i] ++
            sampleLog (env.rtc i) (nodeTopic (nodeIds i)) (name.data ++ [0]) sample.valueText
              (timeAfter (env.rtc i) s.localTime)
          exit := .ok ((), ((valueServed env i s).drop (s.heap.next + 4)).withTime
            (timeAfter (env.rtc i) s.localTime)) }
      | _ => { log := [valueRead env i], exit := .ok ((), valueServed env i s) } := by
  have hread : (clientServiceRead env.network (valueRequest i)).run
      (((nameServed env i s).acquire 1).acquire 1) =
        { log := [valueRead env i]
          exit := .ok ({ response := (env.value i).response, members := s.heap.next + 4 },
            valueServed env i s) } :=
    clientServiceRead_run env.network (valueRequest i) _
  have hdelete : ∀ t : TaskState, t.heap.holds (s.heap.next + 4) →
      (deleteMembers { response := (env.value i).response, members := s.heap.next + 4 }).run t =
        { log := [], exit := .ok ((), t.drop (s.heap.next + 4)) } :=
    fun t ht => deleteMembers_run ht
  unfold readValue valueVisit
  cases hitem : env.valueItem i with
  | false => rfl
  | true =>
    rw [uaReadValueIdNew, bind_of_ok (allocate_true _), bind_of_ok (readRequest_value _ i _),
      bind_of_ok hread]
    by_cases hgood : (env.value i).response.serviceResult = uaStatuscodeGood
    · rw [if_pos hgood, if_pos hgood, if_pos rfl]
      cases hresults : (env.value i).response.results with
      | nil =>
        rw [if_pos rfl, bind_of_error (resultValue_nil hresults _)]
        rfl
      | cons first rest =>
        rw [if_neg (List.cons_ne_nil _ _), bind_of_ok (resultValue_cons hresults _),
          scalarSample_cons hgood hresults]
        cases hsample : first.value.content?.bind sampleOf with
        | none =>
          rw [bind_of_ok (publishValue_unsupported env i _ hsample _),
            hdelete _ (valueServed_holds_value env i s)]
          rfl
        | some sample =>
          rw [bind_of_ok (publishValue_sampled env hi _ hsample _),
            hdelete _ (holds_withTime (valueServed_holds_value env i s) _)]
          rfl
    · rw [if_neg hgood, if_neg hgood, if_pos rfl]
      rfl

/-- The block after the name was accepted. -/
theorem readNamed_run (env : PassEnv) (i : Nat) {v : UaVariant} {name : UaString}
    (hname : v.content?.bind textOf = some name) (s : TaskState) :
    (readNamed env i v).run (nameServed env i s) =
      if env.nodeName i then
        (readValue env i (name.data ++ [0])).run ((nameServed env i s).acquire 1)
      else { log := [], exit := .error .nullDereference } := by
  obtain ⟨content, hcontent, htext⟩ := Option.bind_eq_some_iff.mp hname
  have haccept : v.hasScalarType uaTypesLocalizedtext = true := by
    rw [hasScalarType_localizedtext, hname]
    rfl
  rw [readNamed, if_pos haccept, bind_of_ok (castLocalizedText_run hcontent htext _)]
  cases hgrant : env.nodeName i with
  | false =>
    rw [bind_of_error (copyText_null name _)]
    rfl
  | true =>
    rw [bind_of_ok (copyText_run name _)]
    rfl

/-- The visits that got as far as accepting `name`. -/
def NodeVisit.Named (name : UaString) : NodeVisit → Prop
  | .faulted _ reads => 1 ≤ reads
  | .nameBad => False
  | .nameMistyped => False
  | .valueBad => True
  | .valueMistyped => True
  | .sampled name' _ => name' = name

theorem valueVisit_named (env : PassEnv) (i : Nat) (name : UaString) :
    (valueVisit env i name).Named name := by
  unfold valueVisit
  split_ifs
  · exact Nat.le_succ 1
  · cases scalarSample (env.value i).response with
    | none => exact trivial
    | some sample => rfl
  · exact trivial
  · exact Nat.le_refl 1

theorem deleteName_run (env : PassEnv) (i : Nat) {s t : TaskState}
    (h : t.heap.holds (s.heap.next + 1)) :
    (deleteMembers { response := (env.name i).response, members := s.heap.next + 1 }).run t =
      { log := [], exit := .ok ((), t.drop (s.heap.next + 1)) } := deleteMembers_run h

/-- The block after a name that was copied, and what gives its response back. -/
theorem readNamed_visit (env : PassEnv) {i : Nat} (hi : i < 10) {v : UaVariant} {name : UaString}
    (hname : v.content?.bind textOf = some name) (hgrant : env.nodeName i = true)
    (s : TaskState) :
    Run.after [nameRead env i]
        ((readNamed env i v >>= fun _ =>
          deleteMembers { response := (env.name i).response, members := s.heap.next + 1 }).run
            (nameServed env i s)) =
      { log := visitLog env i s.localTime (valueVisit env i name)
        exit := visitExit env i s (valueVisit env i name) } := by
  have hrest := readNamed_run env i hname s
  have hnamed := valueVisit_named env i name
  rw [hgrant, if_pos rfl, readValue_run env hi name s] at hrest
  cases hvisit : valueVisit env i name <;> rw [hvisit] at hnamed hrest
  case nameBad => exact hnamed.elim
  case nameMistyped => exact hnamed.elim
  case faulted fault reads =>
    obtain ⟨n, rfl⟩ := Nat.exists_eq_succ_of_ne_zero (Nat.one_le_iff_ne_zero.mp hnamed)
    rw [bind_of_error hrest]
    rfl
  case valueBad =>
    rw [bind_of_ok hrest, deleteName_run env i (valueServed_holds_name env i s)]
    rfl
  case valueMistyped =>
    have hheld := holds_drop_of_ne (valueServed_holds_name env i s)
      (show s.heap.next + 1 ≠ s.heap.next + 4 by omega)
    rw [bind_of_ok hrest, deleteName_run env i hheld]
    rfl
  case sampled name' sample =>
    obtain rfl : name' = name := hnamed
    have hheld := holds_drop_of_ne (valueServed_holds_name env i s)
      (show s.heap.next + 1 ≠ s.heap.next + 4 by omega)
    rw [bind_of_ok hrest, deleteName_run env i (holds_withTime hheld _)]
    rfl

theorem nodeBody_run (env : PassEnv) {i : Nat} (hi : i < 10) (s : TaskState) :
    (nodeBody env i).run s = visitRun env i s := by
  have hread : (clientServiceRead env.network (nameRequest i)).run (s.acquire 1) =
      { log := [nameRead env i]
        exit := .ok ({ response := (env.name i).response, members := s.heap.next + 1 },
          nameServed env i s) } :=
    clientServiceRead_run env.network (nameRequest i) _
  unfold nodeBody visitRun visit
  cases hitem : env.nameItem i with
  | false => rfl
  | true =>
    rw [uaReadValueIdNew, bind_of_ok (allocate_true _), bind_of_ok (readRequest_name _ i _),
      bind_of_ok hread, if_pos rfl]
    by_cases hgood : (env.name i).response.serviceResult = uaStatuscodeGood
    · rw [if_pos hgood, if_pos hgood]
      cases hresults : (env.name i).response.results with
      | nil =>
        rw [if_pos rfl, bind_of_error (resultValue_nil hresults _)]
        rfl
      | cons first rest =>
        rw [if_neg (List.cons_ne_nil _ _), bind_of_ok (resultValue_cons hresults _),
          scalarText_cons hgood hresults]
        cases hname : first.value.content?.bind textOf with
        | none =>
          have hreject : first.value.hasScalarType uaTypesLocalizedtext = false := by
            rw [hasScalarType_localizedtext, hname]
            rfl
          rw [readNamed, hreject, if_neg Bool.false_ne_true, bind_of_ok (pure_run _ _),
            deleteName_run env i (nameServed_holds env i s)]
          rfl
        | some name =>
          cases hgrant : env.nodeName i with
          | false =>
            have hnull : (readNamed env i first.value).run (nameServed env i s) =
                { log := [], exit := .error .nullDereference } := by
              rw [readNamed_run env i hname, hgrant, if_neg Bool.false_ne_true]
            rw [bind_of_error hnull]
            rfl
          | true => exact readNamed_visit env hi hname hgrant s
    · rw [if_neg hgood, if_neg hgood]
      rfl

end Poller
end OpcuaGateway
