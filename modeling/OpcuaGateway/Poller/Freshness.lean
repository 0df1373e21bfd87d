/-
Whether a published time was read for the sample it is published with.

The time goes through the global `local_time`, which keeps what it had when a reading
fails, and through a buffer that may end before it.  `freshness` watches the log for the
name, the value and the time of the sample at hand, and wants all of them in its message.
-/
import OpcuaGateway.Network.StartUp
import OpcuaGateway.Poller.Decoding
import OpcuaGateway.Poller.Reach
import OpcuaGateway.Poller.Timestamp

namespace OpcuaGateway
namespace Poller

open Effect Effect.Action Heap Opcua Rtc Text Numeric Idf Network

/-! ## The law -/

/-- A request for a name, which begins a sample. -/
def beginsSample (request : UaReadRequest) : Bool :=
  request.nodesToRead.any fun item => item.attributeId = uaAttributeidDisplayname

/-- What was read so far for the sample at hand. -/
structure Sampling where
  name : Option UaString
  value : Option Sample
  time : Option Tm

def Sampling.nothing : Sampling := { name := none, value := none, time := none }

/-- The message is that of a sample of this name and value up to its time, and has the
whole text of that. -/
def StampedWith (name : UaString) (value : Sample) (t : Tm) (message : Message) : Prop :=
  payloadHead (cString name.data) value.valueText ++ timestampText t <+: message.data

/-- Lets a message pass only if it is stamped with the time of a successful reading since
the name of its sample was asked for, and no reading has failed after that. -/
def freshness : Monitor Event Sampling where
  next
    | sampling, .serviceRead request outcome =>
      if beginsSample request then
        { name := scalarText outcome.response, value := none, time := none }
      else { sampling with value := scalarSample outcome.response }
    | sampling, .rtcRead res data =>
      { sampling with time := if res = espOk then some (timeOfRegisters data) else none }
    | sampling, _ => sampling
  allows
    | sampling, .publish message =>
      ∃ name ∈ sampling.name, ∃ value ∈ sampling.value, ∃ t ∈ sampling.time,
        StampedWith name value t message
    | _, _ => True

/-! ## Which samples keep it -/

/-- What a sample needs to be stamped: the reading of the clock succeeds, and name, value
and time leave the buffer its last 33 bytes. -/
structure Stampable (bus : I2cBus) (name : UaString) (value : Sample) : Prop where
  answers : (timeRead bus I2cDev.zero).1 = espOk
  fits : (cString name.data).length + value.valueText.length +
    timestampWidth (timeOfRegisters (timeRead bus I2cDev.zero).2) ≤ 66

/-- The sample of the node, if it offers one, can be stamped. -/
def StampsSample (env : PassEnv) (i : Nat) : Prop :=
  Sound env i → ∀ name ∈ scalarText (env.name i).response,
    ∀ value ∈ scalarSample (env.value i).response, Stampable (env.rtc i) name value

theorem length_payloadHead (name value : Bytes) :
    (payloadHead name value).length = 33 + name.length + value.length := by
  simp only [payloadHead, List.length_append]
  show 9 + name.length + 10 + value.length + 14 = _
  omega

/-- The time of the sample is in the buffer as far as there is room for it. -/
theorem stampedWith_iff (name : UaString) (value : Sample) {t : Tm} (ht : t.InRange)
    (topic : String) :
    StampedWith name value t
        { topic := topic, data := dataReceiverOpcua (name.data ++ [0]) value.valueText t
          len := 0, qos := 0, retain := 1 } ↔
      (cString name.data).length + value.valueText.length + timestampWidth t ≤ 66 := by
  unfold StampedWith
  rw [dataReceiverOpcua, cString_append_nul, snprintf, payloadText_eq, ← List.append_assoc,
    List.prefix_take_iff, List.length_append, length_payloadHead, length_timestampText ht]
  constructor
  · rintro ⟨-, hlen⟩
    omega
  · intro hlen
    exact ⟨List.prefix_append _ _, by omega⟩

/-! ## The visits -/

theorem plain_rules {l : List Event} (h : ∀ e ∈ l, e.message? = none) :
    freshness.Rules True l := by
  induction l with
  | nil => exact Monitor.rules_nil
  | cons e l ih =>
    have hrest := ih fun e' he' => h e' (List.mem_cons_of_mem e he')
    have hplain := h e List.mem_cons_self
    intro t
    rw [freshness.accepts_cons, hrest]
    cases e with
    | publish message => cases hplain
    | rtcRead res data => exact and_iff_left trivial
    | connect endpoint status => exact and_iff_left trivial
    | guard ethernetConnected => exact and_iff_left trivial
    | serviceRead request outcome => exact and_iff_left trivial
    | printf text => exact and_iff_left trivial
    | vTaskDelay ticks => exact and_iff_left trivial

/-- The reading of the name forgets all that was there before it. -/
theorem nameRead_begins (env : PassEnv) (i : Nat) (sampling : Sampling) :
    freshness.next sampling (nameRead env i) =
      { name := scalarText (env.name i).response, value := none, time := none } := rfl

theorem valueRead_continues (env : PassEnv) (i : Nat) (sampling : Sampling) :
    freshness.next sampling (valueRead env i) =
      { sampling with value := scalarSample (env.value i).response } := rfl

theorem sampled_rules (env : PassEnv) (i : Nat) {name : UaString} {value : Sample}
    (hname : scalarText (env.name i).response = some name)
    (hvalue : scalarSample (env.value i).response = some value) (topic : String) (t : Tm) :
    freshness.Rules (Stampable (env.rtc i) name value) ([nameRead env i, valueRead env i] ++
      sampleLog (env.rtc i) topic (name.data ++ [0]) value.valueText
        (timeAfter (env.rtc i) t)) := by
  intro sampling
  simp only [sampleLog, List.cons_append, List.nil_append, freshness.accepts_cons,
    nameRead_begins, valueRead_continues, freshness.accepts_nil, hname, hvalue]
  by_cases hread : (timeRead (env.rtc i) I2cDev.zero).1 = espOk
  · have hstamped := stampedWith_iff name value
      (timeOfRegisters_inRange (timeRead (env.rtc i) I2cDev.zero).2) topic
    rw [timeAfter, if_pos hread]
    constructor
    · intro h
      obtain ⟨name', hname', value', hvalue', time, htime, hwhole⟩ := h.2.2.2.2.1
      cases hname'
      cases hvalue'
      cases (if_pos hread).symm.trans htime
      exact ⟨hread, hstamped.mp hwhole⟩
    · intro h
      exact ⟨trivial, trivial, trivial, trivial,
        ⟨name, rfl, value, rfl, _, if_pos hread, hstamped.mpr h.fits⟩, trivial⟩
  · refine iff_of_false ?_ fun h => hread h.answers
    intro h
    obtain ⟨name', -, value', -, time, htime, -⟩ := h.2.2.2.2.1
    cases (if_neg hread).symm.trans htime

/-- The value half ends in a sample exactly of what its response offers. -/
theorem valueVisit_sampled {env : PassEnv} {i : Nat} {name name' : UaString} {value : Sample}
    (h : valueVisit env i name = .sampled name' value) :
    name' = name ∧ scalarSample (env.value i).response = some value := by
  unfold valueVisit at h
  split_ifs at h
  cases hsample : scalarSample (env.value i).response with
  | none =>
    rw [hsample] at h
    cases h
  | some value' =>
    rw [hsample] at h
    cases h
    exact ⟨rfl, rfl⟩

/-- The node publishes a sample exactly if it is sound and offers one. -/
theorem visit_sampled_iff {env : PassEnv} {i : Nat} {name : UaString} {value : Sample} :
    visit env i = .sampled name value ↔
      Sound env i ∧ scalarText (env.name i).response = some name ∧
        scalarSample (env.value i).response = some value := by
  constructor
  · intro h
    refine ⟨visit_fault?_eq_none.mp (by rw [h]; rfl), ?_⟩
    unfold visit at h
    split_ifs at h
    · cases htext : scalarText (env.name i).response with
      | none =>
        rw [htext] at h
        cases h
      | some name' =>
        rw [htext] at h
        obtain ⟨rfl, hvalue⟩ := valueVisit_sampled h
        exact ⟨rfl, hvalue⟩
    · cases htext : scalarText (env.name i).response <;> rw [htext] at h <;> cases h
  · rintro ⟨⟨hitem, hcarrying, hoffers⟩, hname, hvalue⟩
    have hgood : (env.name i).response.serviceResult = uaStatuscodeGood := by
      by_contra hbad
      rw [scalarText_of_bad hbad] at hname
      cases hname
    have hoffered : OffersName env i := (scalarText_isSome _).mp (by rw [hname]; rfl)
    obtain ⟨hcopy, hitem', hcarrying'⟩ := hoffers hoffered
    rw [visit_of_granted ⟨hitem, hcopy, hitem'⟩ hcarrying hcarrying', if_pos hgood, hname, hvalue]

theorem visitLog_rules (env : PassEnv) (i : Nat) (t : Tm) :
    freshness.Rules (StampsSample env i) (visitLog env i t (visit env i)) := by
  by_cases hsampled : ∃ name value, visit env i = .sampled name value
  · obtain ⟨name, value, hvisit⟩ := hsampled
    obtain ⟨hsound, hname, hvalue⟩ := visit_sampled_iff.mp hvisit
    rw [hvisit]
    refine (sampled_rules env i hname hvalue _ t).congr ⟨?_, ?_⟩
    · intro hstampable _ name' hname' value' hvalue'
      cases hname.symm.trans hname'
      cases hvalue.symm.trans hvalue'
      exact hstampable
    · exact fun h => h hsound name hname value hvalue
  · have hnone : StampsSample env i := fun hsound name hname value hvalue =>
      absurd ⟨name, value, visit_sampled_iff.mpr ⟨hsound, hname, hvalue⟩⟩ hsampled
    have hmessages := visitLog_messages env i t (visit env i)
    cases hvisit : visit env i with
    | sampled name value => exact absurd ⟨name, value, hvisit⟩ hsampled
    | faulted fault reads | nameBad | nameMistyped | valueBad | valueMistyped =>
      rw [hvisit] at hmessages
      exact (plain_rules (List.filterMap_eq_nil_iff.mp hmessages)).congr
        (iff_of_true trivial hnone)

/-! ## The task -/

/-- Every published time is that of its sample exactly if every sample the task comes to
can be stamped. -/
theorem opcuaTask_fresh_iff (env : TaskEnv) (n : Nat) (s : TaskState) (sampling : Sampling) :
    freshness.Accepts sampling ((opcuaTask env n).run s).log ↔
      ∀ k i, k < n → env.Reaches k i → StampsSample (env.pass k) i := by
  have hplain : ∀ e : Event, e.message? = none → freshness.Rules True [e] := by
    intro e he
    refine plain_rules fun e' he' => ?_
    rw [List.mem_singleton.mp he']
    exact he
  have hpause : freshness.Rules True pauseLog := by
    refine plain_rules fun e he => ?_
    simp only [pauseLog, List.mem_cons, List.not_mem_nil, or_false] at he
    rcases he with rfl | rfl <;> rfl
  exact opcuaTask_rules (fun _ _ => hplain _ rfl) (fun _ => hplain _ rfl) hpause
    (fun k i t => visitLog_rules (env.pass k) i t) n s sampling

/-! ## Runs from `app_main` -/

/-- What the poller does in a run of the device, up to its `n`-th look at the guard.
Nothing the start-up does reaches `local_time` or `rtc_i2c`. -/
def deviceLog (platform : Platform) (boot : BootOutcomes) (env : TaskEnv) (n : Nat) : List Event :=
  match ((appMain platform boot).run FwState.boot).final? with
  | some (true, _) => ((opcuaTask env n).run TaskState.start).log
  | _ => []

/-- `app_main` gets as far as creating the task, and that succeeds. -/
def TaskStarts (platform : Platform) (boot : BootOutcomes) : Prop :=
  BootReturns platform boot ∧ boot.main .xTaskCreate = espOk

theorem deviceLog_of_starts {platform : Platform} {boot : BootOutcomes}
    (h : TaskStarts platform boot) (env : TaskEnv) (n : Nat) :
    deviceLog platform boot env n = ((opcuaTask env n).run TaskState.start).log := by
  have hboot : ((appMain platform boot).run FwState.boot).final? =
      some (true, started (beforeEthernet boot)) :=
    appMain_returns.mpr ⟨h.1, (decide_eq_true h.2).symm, rfl⟩
  rw [deviceLog, hboot]

theorem deviceLog_of_not_starts {platform : Platform} {boot : BootOutcomes}
    (h : ¬ TaskStarts platform boot) (env : TaskEnv) (n : Nat) :
    deviceLog platform boot env n = [] := by
  unfold deviceLog
  split
  · rename_i t hboot
    obtain ⟨hreturns, hcreated, -⟩ := appMain_returns.mp hboot
    exact absurd ⟨hreturns, of_decide_eq_true hcreated.symm⟩ h
  · rfl

/-- In a run from `app_main` every message has the time that was read for its sample
exactly if the task is not started or every sample it comes to can be stamped. -/
theorem published_fresh_iff (platform : Platform) (boot : BootOutcomes) (env : TaskEnv) (n : Nat) :
    freshness.Accepts Sampling.nothing (deviceLog platform boot env n) ↔
      (TaskStarts platform boot →
        ∀ k i, k < n → env.Reaches k i → StampsSample (env.pass k) i) := by
  by_cases h : TaskStarts platform boot
  · rw [deviceLog_of_starts h, opcuaTask_fresh_iff]
    exact ⟨fun hstamps _ => hstamps, fun hstamps => hstamps h⟩
  · rw [deviceLog_of_not_starts h]
    exact iff_of_true trivial fun hstarts => absurd hstarts h

/-- The machine answers, the clock does not: its descriptor was never set up. -/
def clocklessEnv : TaskEnv where
  connect := uaStatuscodeGood
  ethernetConnected _ := 1
  pass _ := PassEnv.serving
    (fun _ => goodResponse (UaVariant.scalar (.localizedText { text := plainName })))
    (fun _ => goodResponse (UaVariant.scalar (.uint16 7)))
    (fun _ _ _ n => (espErrInvalidState, Vector.replicate n 0))

/-- Every call of the start-up succeeds. -/
def smoothBoot : BootOutcomes :=
  { main := fun _ => espOk, wifi := fun _ => espOk, mqtt := fun _ => espOk,
    ethernet := fun _ => espOk }

/-- Where the default loop may be created twice, the start-up gets to the task. -/
theorem smoothBoot_starts : TaskStarts idempotentLoop smoothBoot :=
  ⟨⟨⟨rfl, rfl⟩, ⟨fun _ => rfl, fun _ => rfl⟩, fun _ _ => rfl⟩, rfl⟩

/-- The task publishes the zero time, by itself and where a platform without the abort of
the second default loop starts it. -/
theorem clockless_stale :
    ¬ freshness.Accepts Sampling.nothing ((opcuaTask clocklessEnv 1).run TaskState.start).log ∧
      ¬ ∀ (boot : BootOutcomes) (env : TaskEnv) (n : Nat),
        freshness.Accepts Sampling.nothing (deviceLog idempotentLoop boot env n) := by
  have hreaches : clocklessEnv.Reaches 0 0 :=
    ⟨rfl, fun j hj => absurd hj (Nat.not_lt_zero j), rfl, by decide,
      fun j hj => absurd hj (Nat.not_lt_zero j)⟩
  have hstale : ¬ freshness.Accepts Sampling.nothing
      ((opcuaTask clocklessEnv 1).run TaskState.start).log := by
    intro h
    have hstamps := (opcuaTask_fresh_iff clocklessEnv 1 TaskState.start Sampling.nothing).mp h
      0 0 Nat.one_pos hreaches
    have hanswers := (hstamps (by decide) plainName rfl (.intValue 7) rfl).answers
    revert hanswers
    decide
  refine ⟨hstale, fun h => hstale ?_⟩
  rw [← deviceLog_of_starts smoothBoot_starts]
  exact h smoothBoot clocklessEnv 1

end Poller
end OpcuaGateway
