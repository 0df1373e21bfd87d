/-
One pass over the ten nodes.

When no iteration stops, the pass goes through the states `passState env s i` and
its log is the logs of the visits in order.  What it publishes is then one message
for each node that offered both a name and a value, in the order of the nodes.
-/
import OpcuaGateway.Effect.Monitor
import OpcuaGateway.Poller.Visit

namespace OpcuaGateway
namespace Poller

open Effect Effect.Action Heap Opcua Rtc Text Numeric Idf

/-! ## The states of a pass -/

def NodeVisit.fault? : NodeVisit → Option Fault
  | .faulted fault _ => some fault
  | _ => none

def passState (env : PassEnv) (s : TaskState) : Nat → TaskState
  | 0 => s
  | i + 1 => visitState env i (passState env s i) (visit env i)

/-- The content of `local_time` before iteration `i`. -/
def localTimeAt (env : PassEnv) (t : Tm) : Nat → Tm
  | 0 => t
  | i + 1 =>
    match visit env i with
    | .sampled _ _ => timeAfter (env.rtc i) (localTimeAt env t i)
    | _ => localTimeAt env t i

theorem passState_localTime (env : PassEnv) (s : TaskState) (i : Nat) :
    (passState env s i).localTime = localTimeAt env s.localTime i := by
  induction i with
  | zero => rfl
  | succ i ih =>
    rw [passState, localTimeAt]
    cases visit env i with
    | faulted fault reads => exact ih
    | nameBad => exact ih
    | nameMistyped => exact ih
    | valueBad => exact ih
    | valueMistyped => exact ih
    | sampled name sample => exact congrArg (timeAfter (env.rtc i)) ih

theorem visitRun_of_not_faulted {env : PassEnv} {i : Nat} (h : (visit env i).fault? = none)
    (s : TaskState) :
    visitRun env i s =
      { log := visitLog env i s.localTime (visit env i)
        exit := .ok ((), visitState env i s (visit env i)) } := by
  unfold visitRun
  cases hv : visit env i with
  | faulted fault reads => rw [hv] at h; cases h
  | nameBad => rfl
  | nameMistyped => rfl
  | valueBad => rfl
  | valueMistyped => rfl
  | sampled name sample => rfl

theorem visitRun_exit_error {env : PassEnv} {i : Nat} {s : TaskState} {fault : Fault} :
    (visitRun env i s).exit = .error fault ↔ (visit env i).fault? = some fault := by
  show visitExit env i s (visit env i) = .error fault ↔ _
  cases visit env i with
  | faulted fault' reads => simp [visitExit, NodeVisit.fault?]
  | nameBad => simp [visitExit, NodeVisit.fault?]
  | nameMistyped => simp [visitExit, NodeVisit.fault?]
  | valueBad => simp [visitExit, NodeVisit.fault?]
  | valueMistyped => simp [visitExit, NodeVisit.fault?]
  | sampled name sample => simp [visitExit, NodeVisit.fault?]

/-- An iteration reaches its end in the state of its visit, or stops with the fault. -/
theorem nodeBody_meets {env : PassEnv} {i : Nat} (hi : i < 10) {s : TaskState}
    {Q : List Event → Unit → TaskState → Prop} {E : List Event → Fault → Prop}
    (hend : (visit env i).fault? = none →
      Q (visitLog env i s.localTime (visit env i)) () (visitState env i s (visit env i)))
    (hstop : ∀ fault l, (visit env i).fault? = some fault → E l fault) :
    Meets (nodeBody env i) s Q E := by
  cases hfault : (visit env i).fault? with
  | none =>
    have hrun := (nodeBody_run env hi s).trans (visitRun_of_not_faulted hfault s)
    exact (meets_of_ok hrun).mpr (hend hfault)
  | some fault =>
    have hexit := visitRun_exit_error (s := s).mpr hfault
    rw [← nodeBody_run env hi s] at hexit
    exact (meets_of_error hexit).mpr (hstop fault _ hfault)

theorem pollNodes_run {env : PassEnv} (h : ∀ i, i < 10 → (visit env i).fault? = none)
    (s : TaskState) :
    (pollNodes env).run s =
      { log := (List.range 10).flatMap fun i =>
          visitLog env i (localTimeAt env s.localTime i) (visit env i)
        exit := .ok ((), passState env s 10) } := by
  refine forRange_of_ok (passState env s) fun i hi => ?_
  rw [nodeBody_run env hi, visitRun_of_not_faulted (h i hi), passState_localTime]
  rfl

/-! ## The events of a pass -/

def Event.OfNode : Event → Prop
  | .serviceRead _ _ => True
  | .rtcRead _ _ => True
  | .printf _ => True
  | .publish _ => True
  | _ => False

theorem visitLog_ofNode (env : PassEnv) (i : Nat) (t : Tm) (v : NodeVisit) :
    ∀ e ∈ visitLog env i t v, e.OfNode := by
  have hreads : ∀ e ∈ [nameRead env i, valueRead env i], e.OfNode := by
    intro e he
    simp only [List.mem_cons, List.not_mem_nil, or_false] at he
    rcases he with rfl | rfl <;> exact trivial
  have hname : ∀ e ∈ [nameRead env i], e.OfNode :=
    fun e he => hreads e (List.mem_cons.mpr (Or.inl (List.mem_singleton.mp he)))
  cases v with
  | faulted fault reads => exact fun e he => hreads e (List.mem_of_mem_take he)
  | nameBad => exact hname
  | nameMistyped => exact hname
  | valueBad => exact hreads
  | valueMistyped =>
    refine List.forall_mem_append.mpr ⟨hreads, ?_⟩
    intro e he
    rw [List.mem_singleton.mp he]
    exact trivial
  | sampled name sample =>
    refine List.forall_mem_append.mpr ⟨hreads, ?_⟩
    intro e he
    simp only [sampleLog, List.mem_cons, List.not_mem_nil, or_false] at he
    rcases he with rfl | rfl | rfl <;> exact trivial

theorem pollNodes_logs {p : LogProperty Event} {env : PassEnv}
    (hvisit : ∀ i t, p.holds (visitLog env i t (visit env i))) : Logs (pollNodes env) p := by
  refine Logs.forRange fun i hi s => ?_
  rw [nodeBody_run env hi]
  exact hvisit i s.localTime

theorem pollNodes_ofNode (env : PassEnv) :
    Logs (pollNodes env) (LogProperty.every Event.OfNode) :=
  pollNodes_logs fun i t => visitLog_ofNode env i t (visit env i)

/-! ## One evaluation of the guard -/

theorem cycle_run_idle {env : TaskEnv} {k : Nat} (h : env.ethernetConnected k ≠ 1)
    (s : TaskState) :
    (cycle env k).run s =
      { log := [.guard (env.ethernetConnected k)], exit := .ok ((), s) } := by
  rw [cycle, bind_of_ok (emit_run _ _), if_neg h]
  rfl

theorem cycle_run_polling {env : TaskEnv} {k : Nat} (h : env.ethernetConnected k = 1)
    (s : TaskState) :
    (cycle env k).run s =
      Run.after [.guard (env.ethernetConnected k)]
        ((pollNodes (env.pass k) >>= fun _ => do
          emit (.printf (ascii "\n\n"))
          emit (.vTaskDelay (500 / portTickPeriodMs))).run s) := by
  rw [cycle, bind_of_ok (emit_run _ _), if_pos h]

/-- The rule of one evaluation of the guard: what it leaves without a pass, and what
a pass leaves once the two events after it are logged. -/
theorem cycle_meets {env : TaskEnv} {k : Nat} {s : TaskState}
    {Q : List Event → TaskState → Prop}
    (hidle : env.ethernetConnected k ≠ 1 → Q [.guard (env.ethernetConnected k)] s)
    (hpolled : env.ethernetConnected k = 1 →
      Meets (pollNodes (env.pass k)) s
        (fun l _ t => Q (.guard (env.ethernetConnected k) :: (l ++
          [.printf (ascii "\n\n"), .vTaskDelay (500 / portTickPeriodMs)])) t)
        (fun _ _ => True)) :
    Meets (cycle env k) s (fun l _ t => Q l t) (fun _ _ => True) := by
  by_cases h : env.ethernetConnected k = 1
  · rw [meets_of_after (cycle_run_polling h s)]
    refine Meets.bind ((hpolled h).mono ?_ (fun _ _ _ => trivial))
    intro l _ t hQ
    exact hQ
  · rw [meets_of_ok (cycle_run_idle h s)]
    exact hidle h

/-- A property of the visits and of the events around a pass is one of the loop. -/
theorem cycle_logs {p : LogProperty Event}
    (hvisit : ∀ env i t, p.holds (visitLog env i t (visit env i)))
    (hguard : ∀ seen, p.holds [.guard seen]) (hprintf : ∀ text, p.holds [.printf text])
    (hdelay : ∀ ticks, p.holds [.vTaskDelay ticks]) (env : TaskEnv) (k : Nat) :
    Logs (cycle env k) p := by
  refine (logs_emit (hguard _)).bind fun _ => ?_
  split
  · have hpass : Logs (pollNodes (env.pass k)) p := pollNodes_logs (hvisit (env.pass k))
    exact hpass.bind fun _ => (logs_emit (hprintf _)).bind fun _ => logs_emit (hdelay _)
  · exact logs_pure p ()

/-- A property of the connect and of the evaluations of the guard is one of the task. -/
theorem opcuaTask_logs {p : LogProperty Event} {env : TaskEnv}
    (hconnect : ∀ endpoint, p.holds [.connect endpoint env.connect])
    (hcycle : ∀ k, Logs (cycle env k) p) (n : Nat) : Logs (opcuaTask env n) p := by
  have hclient : Logs (uaClientConnect env.connect "opc.tcp://192.168.1.15:4840") p :=
    (logs_emit (hconnect _)).bind fun _ => logs_update p _
  refine (logs_update p _).bind fun _ => hclient.bind fun status => ?_
  split_ifs
  · exact (Logs.forRange fun k _ => hcycle k).bind fun _ => logs_pure p _
  · exact logs_pure p _

/-! ## What a pass publishes -/

def Event.message? : Event → Option Message
  | .publish message => some message
  | _ => none

/-- The scalar test of the first value of a GOOD response. -/
def offers (types : List Nat) (response : UaReadResponse) : Prop :=
  response.serviceResult = uaStatuscodeGood ∧
    ∃ result ∈ response.results.head?, ∃ type ∈ types, result.value.hasScalarType type = true

def OffersName (env : PassEnv) (i : Nat) : Prop :=
  offers [uaTypesLocalizedtext] (env.name i).response

def OffersValue (env : PassEnv) (i : Nat) : Prop :=
  offers [uaTypesFloat, uaTypesDouble, uaTypesUint16] (env.value i).response

/-- The message of node `i` when `t` is in `local_time` after its reading of the clock. -/
def sampleMessage (i : Nat) (name : UaString) (sample : Sample) (t : Tm) : Message :=
  { topic := nodeTopic (nodeIds i)
    data := dataReceiverOpcua (name.data ++ [0]) sample.valueText t
    len := 0
    qos := 0
    retain := 1 }

/-- What node `i` publishes in a pass that starts with `t` in `local_time`. -/
def nodeMessage (env : PassEnv) (t : Tm) (i : Nat) : Option Message :=
  match scalarText (env.name i).response, scalarSample (env.value i).response with
  | some name, some sample =>
    some (sampleMessage i name sample (timeAfter (env.rtc i) (localTimeAt env t i)))
  | _, _ => none

theorem scalarText_isSome (response : UaReadResponse) :
    (scalarText response).isSome ↔ offers [uaTypesLocalizedtext] response := by
  unfold scalarText offers
  by_cases hgood : response.serviceResult = uaStatuscodeGood
  · rw [if_pos hgood, firstContent]
    cases response.results with
    | nil => simp
    | cons first rest =>
      have htest := hasScalarType_localizedtext first.value
      simp [hgood, htest]
  · simp [hgood]

theorem scalarSample_isSome (response : UaReadResponse) :
    (scalarSample response).isSome ↔
      offers [uaTypesFloat, uaTypesDouble, uaTypesUint16] response := by
  unfold scalarSample offers
  by_cases hgood : response.serviceResult = uaStatuscodeGood
  · rw [if_pos hgood, firstContent]
    cases response.results with
    | nil => simp
    | cons first rest =>
      have htest := hasScalarType_sample first.value
      simp only [hgood, true_and, List.head?_cons, Option.mem_some_iff, exists_eq_left',
        Option.bind_some, htest]
  · simp [hgood]

theorem nodeMessage_isSome (env : PassEnv) (t : Tm) (i : Nat) :
    (nodeMessage env t i).isSome ↔ OffersName env i ∧ OffersValue env i := by
  rw [OffersName, OffersValue, ← scalarText_isSome, ← scalarSample_isSome, nodeMessage]
  cases scalarText (env.name i).response with
  | none => simp
  | some name =>
    cases scalarSample (env.value i).response with
    | none => simp
    | some sample => simp

/-! ## Passes in which nothing stops -/

/-- Every allocation of the pass succeeds. -/
def Granted (env : PassEnv) : Prop :=
  ∀ i, i < 10 → env.nameItem i = true ∧ env.nodeName i = true ∧ env.valueItem i = true

/-- A GOOD response carries at least one result. -/
def Carrying (response : UaReadResponse) : Prop :=
  response.serviceResult = uaStatuscodeGood → response.results ≠ []

theorem scalarText_of_bad {response : UaReadResponse}
    (h : response.serviceResult ≠ uaStatuscodeGood) : scalarText response = none := if_neg h

theorem scalarSample_of_bad {response : UaReadResponse}
    (h : response.serviceResult ≠ uaStatuscodeGood) : scalarSample response = none := if_neg h

theorem visit_of_granted {env : PassEnv} {i : Nat}
    (hgranted : env.nameItem i = true ∧ env.nodeName i = true ∧ env.valueItem i = true)
    (hname : Carrying (env.name i).response) (hvalue : Carrying (env.value i).response) :
    visit env i =
      if (env.name i).response.serviceResult = uaStatuscodeGood then
        match scalarText (env.name i).response, scalarSample (env.value i).response with
        | none, _ => .nameMistyped
        | some name, some sample => .sampled name sample
        | some _, none =>
          if (env.value i).response.serviceResult = uaStatuscodeGood then .valueMistyped
          else .valueBad
      else .nameBad := by
  obtain ⟨hnameItem, hnodeName, hvalueItem⟩ := hgranted
  rw [visit, if_pos hnameItem]
  by_cases hgood : (env.name i).response.serviceResult = uaStatuscodeGood
  · rw [if_pos hgood, if_pos hgood, if_neg (hname hgood)]
    cases scalarText (env.name i).response with
    | none => rfl
    | some name =>
      simp only [hnodeName, if_true, valueVisit, hvalueItem]
      by_cases hgood' : (env.value i).response.serviceResult = uaStatuscodeGood
      · rw [if_pos hgood', if_neg (hvalue hgood')]
        cases scalarSample (env.value i).response with
        | none => exact (if_pos hgood').symm
        | some sample => rfl
      · rw [if_neg hgood', scalarSample_of_bad hgood']
        exact (if_neg hgood').symm
  · rw [if_neg hgood, if_neg hgood]

theorem visit_fault_of_granted {env : PassEnv} {i : Nat}
    (hgranted : env.nameItem i = true ∧ env.nodeName i = true ∧ env.valueItem i = true)
    (hname : Carrying (env.name i).response) (hvalue : Carrying (env.value i).response) :
    (visit env i).fault? = none := by
  rw [visit_of_granted hgranted hname hvalue]
  split_ifs with hgood hgood'
  · cases scalarText (env.name i).response with
    | none => rfl
    | some name => cases scalarSample (env.value i).response <;> rfl
  · cases scalarText (env.name i).response with
    | none => rfl
    | some name => cases scalarSample (env.value i).response <;> rfl
  · rfl

/-- The publish calls among the events of a visit. -/
theorem visitLog_messages (env : PassEnv) (i : Nat) (t : Tm) (v : NodeVisit) :
    (visitLog env i t v).filterMap Event.message? =
      match v with
      | .sampled name sample => [sampleMessage i name sample (timeAfter (env.rtc i) t)]
      | _ => [] := by
  cases v with
  | faulted fault reads =>
    have hreads : ∀ e ∈ [nameRead env i, valueRead env i].take reads, e.message? = none := by
      intro e he
      have hmem := List.mem_of_mem_take he
      simp only [List.mem_cons, List.not_mem_nil, or_false] at hmem
      rcases hmem with rfl | rfl <;> rfl
    exact List.filterMap_eq_nil_iff.mpr hreads
  | nameBad => rfl
  | nameMistyped => rfl
  | valueBad => rfl
  | valueMistyped => rfl
  | sampled name sample => rfl

theorem visit_messages {env : PassEnv} {i : Nat}
    (hgranted : env.nameItem i = true ∧ env.nodeName i = true ∧ env.valueItem i = true)
    (hname : Carrying (env.name i).response) (hvalue : Carrying (env.value i).response) (t : Tm) :
    (visitLog env i (localTimeAt env t i) (visit env i)).filterMap Event.message? =
      (nodeMessage env t i).toList := by
  rw [visitLog_messages, visit_of_granted hgranted hname hvalue, nodeMessage]
  by_cases hgood : (env.name i).response.serviceResult = uaStatuscodeGood
  · rw [if_pos hgood]
    cases scalarText (env.name i).response with
    | none => rfl
    | some name =>
      cases scalarSample (env.value i).response with
      | none =>
        show (match (if _ then NodeVisit.valueMistyped else NodeVisit.valueBad) with
          | .sampled name sample => _
          | _ => _) = _
        split_ifs <;> rfl
      | some sample => rfl
  · rw [if_neg hgood, scalarText_of_bad hgood]
    rfl

/-! ## A server that always replies -/

/-- A GOOD response with one result. -/
def goodResponse (value : UaVariant) : UaReadResponse :=
  { serviceResult := uaStatuscodeGood, results := [{ value := value }], memberBlocks := 2 }

/-- All allocations succeed, and every request is answered by its attribute. -/
def PassEnv.serving (name value : UaNodeId → UaReadResponse) (rtc : Nat → I2cBus) : PassEnv where
  nameItem _ := true
  nodeName _ := true
  valueItem _ := true
  network request :=
    match request.nodesToRead.head? with
    | none => { send := uaStatuscodeGood, receive := .deadline }
    | some item =>
      ServiceOutcome.replied
        (if item.attributeId = uaAttributeidDisplayname then name item.nodeId
          else value item.nodeId)
  rtc := rtc

theorem serving_granted (name value : UaNodeId → UaReadResponse) (rtc : Nat → I2cBus) :
    Granted (PassEnv.serving name value rtc) := fun _ _ => ⟨rfl, rfl, rfl⟩

/-- A clock that answers every read with the same registers. -/
def steadyClock (data : Vector UInt8 7) : I2cBus := fun _ _ n =>
  (espOk, Vector.ofFn fun k : Fin n => data.toArray.getD k 0)

/-! ## The messages of a pass -/

/-- With all allocations and a result in every GOOD response, the pass comes to its end. -/
theorem pollNodes_messages {env : PassEnv} (hgranted : Granted env)
    (hcarrying : ∀ i, i < 10 → Carrying (env.name i).response ∧ Carrying (env.value i).response)
    (s : TaskState) :
    ∃ log t, (pollNodes env).run s = { log := log, exit := .ok ((), t) } ∧
      log.filterMap Event.message? = (List.range 10).filterMap (nodeMessage env s.localTime) := by
  have hvisits : ∀ i, i < 10 → (visit env i).fault? = none := fun i hi =>
    visit_fault_of_granted (hgranted i hi) (hcarrying i hi).1 (hcarrying i hi).2
  refine ⟨_, _, pollNodes_run hvisits s, ?_⟩
  rw [List.filterMap_flatMap, List.filterMap_eq_flatMap_toList]
  apply List.flatMap_congr
  intro i hi
  have hlt : i < 10 := List.mem_range.mp hi
  exact visit_messages (hgranted i hlt) (hcarrying i hlt).1 (hcarrying i hlt).2 s.localTime

/-- A pass publishes one message for each node that offers a name and a value, in
the order of the nodes, and nothing else. -/
theorem pollNodes_publishes (env : PassEnv) (hgranted : Granted env)
    (hcarrying : ∀ i, i < 10 → Carrying (env.name i).response ∧ Carrying (env.value i).response)
    (s : TaskState) :
    (∃ log t, (pollNodes env).run s = { log := log, exit := .ok ((), t) } ∧
      log.filterMap Event.message? = (List.range 10).filterMap (nodeMessage env s.localTime)) ∧
    ∀ i, (nodeMessage env s.localTime i).isSome ↔ OffersName env i ∧ OffersValue env i :=
  ⟨pollNodes_messages hgranted hcarrying s, fun i => nodeMessage_isSome env s.localTime i⟩

def plainName : UaString := { data := ascii "p", decoded := by decide }

/-- The first node has no usable name, the others read as the number 7. -/
def pickyEnv : PassEnv :=
  PassEnv.serving
    (fun node =>
      if node = nodeIds 0 then goodResponse UaVariant.empty
      else goodResponse (UaVariant.scalar (.localizedText { text := plainName })))
    (fun _ => goodResponse (UaVariant.scalar (.uint16 7)))
    (fun _ => steadyClock (Vector.replicate 7 1))

theorem pollNodes_publishes_picky :
    (∃ log t, (pollNodes pickyEnv).run TaskState.start = { log := log, exit := .ok ((), t) } ∧
      log.filterMap Event.message? = (List.range 10).filterMap (nodeMessage pickyEnv Tm.zero)) ∧
    ∀ i, (nodeMessage pickyEnv Tm.zero i).isSome ↔ OffersName pickyEnv i ∧ OffersValue pickyEnv i :=
  pollNodes_publishes pickyEnv (serving_granted _ _ _)
    (fun i hi => by constructor <;> intro _ <;> interval_cases i <;> decide) TaskState.start

end Poller
end OpcuaGateway
