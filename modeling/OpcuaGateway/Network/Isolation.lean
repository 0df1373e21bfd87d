/-
What the Wi-Fi side of the application does, apart from MQTT.

`WifiSide` is the part of a run that the Wi-Fi side is about: how often it asked for a
connection and the two globals it keeps.  `wifiStep` says how an event moves it; an
MQTT event that is quiet does not.
-/
import Mathlib.Data.List.Induction
import OpcuaGateway.Network.Handlers

namespace OpcuaGateway
namespace Network

open Effect Effect.Action Idf Text

/-! ## The Wi-Fi side -/

structure WifiSide where
  connects : Nat
  wifiConnected : Int
  retryCnt : Int32
deriving DecidableEq, Repr

def FwState.wifiSide (s : FwState) (connects : Nat) : WifiSide :=
  { connects := connects, wifiConnected := s.wifiConnected, retryCnt := s.retryCnt }

def connects (l : List FwEvent) : Nat := l.count (.called .espWifiConnect)

/-- How an event moves the Wi-Fi side. -/
def wifiStep (w : WifiSide) (input : FwInput) : WifiSide :=
  if input.base = .wifiEvent then
    if input.id = wifiEventStaStart then { w with connects := w.connects + 1 }
    else if input.id = wifiEventStaConnected then { w with wifiConnected := 1 }
    else if input.id = wifiEventStaDisconnected then
      { connects := if w.retryCnt < maxRetry then w.connects + 1 else w.connects
        wifiConnected := 0
        retryCnt := w.retryCnt + 1 }
    else w
  else w

/-! ## One event -/

theorem wifiSide_wifiHandled (s : FwState) (n : Nat) {input : FwInput}
    (hbase : input.base = .wifiEvent) :
    (wifiHandled s input.id).wifiSide (n + connects (wifiCalls s input.id)) =
      wifiStep (s.wifiSide n) input := by
  unfold wifiHandled wifiCalls wifiStep
  rw [if_pos hbase]
  by_cases hstart : input.id = wifiEventStaStart
  · simp only [if_pos hstart]
    rfl
  · simp only [if_neg hstart]
    by_cases hconnected : input.id = wifiEventStaConnected
    · rw [hconnected]
      rfl
    · simp only [if_neg hconnected]
      by_cases hdisconnected : input.id = wifiEventStaDisconnected
      · by_cases hretry : s.retryCnt < maxRetry
        · simp [hdisconnected, hretry, FwState.wifiSide, connects]
        · simp [hdisconnected, hretry, FwState.wifiSide, connects]
      · simp only [hdisconnected, false_and, if_false]
        rfl

/-- An MQTT event the Wi-Fi side does not notice. -/
def QuietMqtt (id : Int32) (event : MqttEvent) : Prop :=
  id ≠ mqttEventDisconnected ∧ (id = mqttEventData → event.Fits)

theorem connects_mqttCalls {id : Int32} (h : id ≠ mqttEventDisconnected) :
    connects (mqttCalls id) = 0 := by
  unfold mqttCalls
  rw [if_neg h]
  split_ifs <;> rfl

/-! ## Runs of events -/

def FwInput.isMqtt (input : FwInput) : Bool := input.base = .mqttEvent

def FwInput.Quiet (input : FwInput) : Prop :=
  input.base = .mqttEvent → QuietMqtt input.id input.mqtt

theorem wifiStep_of_mqtt {input : FwInput} (h : input.base = .mqttEvent) (w : WifiSide) :
    wifiStep w input = w := by
  rw [wifiStep, h]
  rfl

theorem connects_append (l l' : List FwEvent) : connects (l ++ l') = connects l + connects l' :=
  List.count_append

/-- A quiet event moves the Wi-Fi side as `wifiStep` says. -/
theorem deliver_quiet (platform : Platform) {input : FwInput} {s : FwState} {mqtt : Bool}
    (hregistered : s.registrations = registered mqtt) (hbase : input.base ≠ .ethEvent)
    (hquiet : input.Quiet) :
    ∃ l t, (deliver platform input).run s = { log := l, exit := .ok ((), t) } ∧
      t.registrations = registered mqtt ∧
      ∀ n, t.wifiSide (n + connects l) = wifiStep (s.wifiSide n) input := by
  cases hb : input.base with
  | wifiEvent =>
    refine ⟨wifiCalls s input.id, wifiHandled s input.id, ?_, ?_, ?_⟩
    · exact deliver_wifi (handlersFor_wifi hregistered hb)
    · rw [← hregistered, wifiHandled]
      split_ifs <;> rfl
    · exact fun n => wifiSide_wifiHandled s n hb
  | ipEvent =>
    have hstill : ∀ w : WifiSide, wifiStep w input = w := by
      intro w
      rw [wifiStep, hb]
      rfl
    refine ⟨[], s, ?_, hregistered, fun n => (hstill _).symm⟩
    have hhandlers := handlersFor_ip hregistered hb
    split_ifs at hhandlers with hsta heth
    · rw [deliver_wifi hhandlers, hsta]
      rfl
    · rw [deliver_of_handler hhandlers]
      rfl
    · exact deliver_unheard hhandlers
  | ethEvent => exact absurd hb hbase
  | mqttEvent =>
    cases mqtt with
    | false =>
      refine ⟨[], s, ?_, hregistered, fun n => (wifiStep_of_mqtt hb _).symm⟩
      exact deliver_unheard (handlersFor_mqtt hregistered hb)
    | true =>
      obtain ⟨hid, hfits⟩ := hquiet hb
      obtain ⟨t, ht⟩ := Option.isSome_iff_exists.mp
        ((mqttHandled_isSome s input.id input.mqtt).mpr hfits)
      obtain ⟨_, hkept, _, hwifi, hretry⟩ := mqttHandled_frame ht
      refine ⟨mqttCalls input.id, t, ?_, hkept.trans hregistered, ?_⟩
      · rw [deliver_mqtt hregistered hb, ht]
        rfl
      · intro n
        rw [connects_mqttCalls hid, wifiStep_of_mqtt hb, FwState.wifiSide, hwifi, hretry]
        rfl

theorem deliverAll_quiet (platform : Platform) {inputs : List FwInput} {s : FwState}
    {mqtt : Bool} (hregistered : s.registrations = registered mqtt)
    (hbase : ∀ input ∈ inputs, input.base ≠ .ethEvent)
    (hquiet : ∀ input ∈ inputs, input.Quiet) :
    ∃ l t, (deliverAll platform inputs).run s = { log := l, exit := .ok ((), t) } ∧
      t.registrations = registered mqtt ∧
      ∀ n, t.wifiSide (n + connects l) = inputs.foldl wifiStep (s.wifiSide n) := by
  induction inputs generalizing s with
  | nil => exact ⟨[], s, rfl, hregistered, fun _ => rfl⟩
  | cons input rest ih =>
    obtain ⟨l, t, hrun, hkept, hside⟩ := deliver_quiet platform hregistered
      (hbase input List.mem_cons_self) (hquiet input List.mem_cons_self)
    obtain ⟨l', u, hrest, hkept', hside'⟩ := ih hkept
      (fun x hx => hbase x (List.mem_cons_of_mem input hx))
      (fun x hx => hquiet x (List.mem_cons_of_mem input hx))
    refine ⟨l ++ l', u, ?_, hkept', ?_⟩
    · rw [deliverAll, forEach_cons, bind_of_ok hrun, ← deliverAll, hrest]
      rfl
    · intro n
      rw [connects_append, ← Nat.add_assoc, hside', hside]
      rfl

/-! ## Isolation -/

def wifiView (r : Run FwState FwEvent FwFault Unit) : Option WifiSide :=
  match r.exit with
  | .ok (_, t) => some (t.wifiSide (connects r.log))
  | .error _ => none

/-- Events delivered to the application's handlers. -/
structure AppRun where
  platform : Platform
  start : FwState
  inputs : List FwInput
  registered : start.registrations = registered true
  ofApplication : ∀ input ∈ inputs, input.base ≠ .ethEvent

namespace AppRun

/-- The Wi-Fi side after the first events of the run, `inputs` being those. -/
def viewAfter (run : AppRun) (inputs : List FwInput) : Option WifiSide :=
  wifiView ((deliverAll run.platform inputs).run run.start)

/-- At every point of the run the Wi-Fi side stands as if no MQTT event had come, and a
connection is asked for only in handling a WIFI_EVENT. -/
structure Isolated (run : AppRun) : Prop where
  unseen : ∀ inputs, inputs <+: run.inputs →
    (run.viewAfter inputs).isSome ∧
      run.viewAfter inputs = run.viewAfter (inputs.filter fun input => !input.isMqtt)
  onlyWifi : ∀ inputs input, inputs ++ [input] <+: run.inputs → input.base ≠ .wifiEvent →
    (run.viewAfter (inputs ++ [input])).map WifiSide.connects =
      (run.viewAfter inputs).map WifiSide.connects

end AppRun

theorem foldl_wifiStep_filter (inputs : List FwInput) (w : WifiSide) :
    (inputs.filter fun input => !input.isMqtt).foldl wifiStep w = inputs.foldl wifiStep w := by
  induction inputs generalizing w with
  | nil => rfl
  | cons input rest ih =>
    by_cases hmqtt : input.base = .mqttEvent
    · rw [List.filter_cons_of_neg (by simpa [FwInput.isMqtt] using hmqtt), ih, List.foldl_cons,
        wifiStep_of_mqtt hmqtt]
    · rw [List.filter_cons_of_pos (by simpa [FwInput.isMqtt] using hmqtt), List.foldl_cons,
        List.foldl_cons, ih]

theorem viewAfter_quiet (run : AppRun) {inputs : List FwInput}
    (hbase : ∀ input ∈ inputs, input.base ≠ .ethEvent)
    (hquiet : ∀ input ∈ inputs, input.Quiet) :
    run.viewAfter inputs = some (inputs.foldl wifiStep (run.start.wifiSide 0)) := by
  obtain ⟨l, t, hrun, _, hside⟩ := deliverAll_quiet run.platform run.registered hbase hquiet
  have h := hside 0
  rw [Nat.zero_add] at h
  rw [AppRun.viewAfter, hrun, wifiView, ← h]

theorem wifiStep_of_ne_wifi {input : FwInput} (h : input.base ≠ .wifiEvent) (w : WifiSide) :
    wifiStep w input = w := if_neg h

theorem isolated_of_quiet (run : AppRun) (h : ∀ input ∈ run.inputs, input.Quiet) :
    run.Isolated := by
  have hview : ∀ inputs, inputs <+: run.inputs →
      run.viewAfter inputs = some (inputs.foldl wifiStep (run.start.wifiSide 0)) := fun inputs hp =>
    viewAfter_quiet run (fun x hx => run.ofApplication x (hp.subset hx))
      (fun x hx => h x (hp.subset hx))
  constructor
  · intro inputs hp
    have hfilter : run.viewAfter (inputs.filter fun input => !input.isMqtt) =
        some ((inputs.filter fun input => !input.isMqtt).foldl wifiStep (run.start.wifiSide 0)) :=
      viewAfter_quiet run (fun x hx => run.ofApplication x (hp.subset (List.mem_of_mem_filter hx)))
        (fun x hx => h x (hp.subset (List.mem_of_mem_filter hx)))
    rw [hview inputs hp, hfilter, foldl_wifiStep_filter]
    exact ⟨rfl, rfl⟩
  · intro inputs input hp hbase
    have hinitial : inputs <+: run.inputs := (List.prefix_append inputs [input]).trans hp
    rw [hview _ hp, hview inputs hinitial, List.foldl_append, List.foldl_cons, List.foldl_nil,
      wifiStep_of_ne_wifi hbase]

/-- After quiet events, an MQTT event that is not quiet either stops the run or asks for
a connection. -/
theorem viewAfter_loud (run : AppRun) {inputs : List FwInput} {input : FwInput}
    (hbase : ∀ x ∈ inputs, x.base ≠ .ethEvent) (hquiet : ∀ x ∈ inputs, x.Quiet)
    (hmqtt : input.base = .mqttEvent) (hloud : ¬ QuietMqtt input.id input.mqtt) :
    run.viewAfter (inputs ++ [input]) = none ∨
      (run.viewAfter (inputs ++ [input])).map WifiSide.connects =
        some ((inputs.foldl wifiStep (run.start.wifiSide 0)).connects + 1) := by
  obtain ⟨l, t, hrun, hkept, hside⟩ := deliverAll_quiet run.platform run.registered hbase hquiet
  have hlast : run.viewAfter (inputs ++ [input]) = wifiView (Run.after l
      { log := mqttCalls input.id, exit := mqttExit (mqttHandled t input.id input.mqtt) }) := by
    have hdeliver : (deliverAll run.platform [input]).run t =
        { log := mqttCalls input.id, exit := mqttExit (mqttHandled t input.id input.mqtt) } := by
      rw [deliverAll, forEach_singleton]
      exact deliver_mqtt hkept hmqtt
    rw [AppRun.viewAfter, deliverAll, forEach_append, ← deliverAll, bind_of_ok hrun, hdeliver]
  rw [hlast]
  by_cases hid : input.id = mqttEventDisconnected
  · right
    have hconnects : 0 + connects l = (inputs.foldl wifiStep (run.start.wifiSide 0)).connects :=
      congrArg WifiSide.connects (hside 0)
    rw [Nat.zero_add] at hconnects
    rw [hid]
    show some (connects (l ++ [.called .espWifiConnect])) = _
    rw [connects_append, hconnects]
    rfl
  · left
    have hdata : ¬ (input.id = mqttEventData → input.mqtt.Fits) := fun h => hloud ⟨hid, h⟩
    rw [← mqttHandled_isSome t, Option.not_isSome_iff_eq_none] at hdata
    rw [hdata]
    rfl

theorem quiet_of_isolated (run : AppRun) (h : run.Isolated) (inputs : List FwInput)
    (hp : inputs <+: run.inputs) : ∀ input ∈ inputs, input.Quiet := by
  induction inputs using List.reverseRecOn with
  | nil => exact fun _ hmem => absurd hmem List.not_mem_nil
  | append_singleton inputs input ih =>
    have hinitial : inputs <+: run.inputs := (List.prefix_append inputs [input]).trans hp
    have hquiet := ih hinitial
    have hbase : ∀ x ∈ inputs, x.base ≠ .ethEvent :=
      fun x hx => run.ofApplication x (hinitial.subset hx)
    intro x hx
    rcases List.mem_append.mp hx with hold | hnew
    · exact hquiet x hold
    · rw [List.mem_singleton.mp hnew]
      intro hmqtt
      by_contra hloud
      have hsame := h.onlyWifi inputs input hp (by rw [hmqtt]; decide)
      have hsome := (h.unseen _ hp).1
      rcases viewAfter_loud run hbase hquiet hmqtt hloud with hnone | hmore
      · rw [hnone] at hsome
        cases hsome
      · rw [hmore, viewAfter_quiet run hbase hquiet] at hsame
        have hnat := Option.some.inj hsame
        omega

/-- The Wi-Fi side is isolated from MQTT exactly in the runs without an
MQTT_EVENT_DISCONNECTED, whose id the handler takes for WIFI_EVENT_STA_START, and
without data that overruns its array. -/
theorem isolated_iff (run : AppRun) :
    run.Isolated ↔ ∀ input ∈ run.inputs, input.base = .mqttEvent →
      input.id ≠ mqttEventDisconnected ∧ (input.id = mqttEventData → input.mqtt.Fits) :=
  ⟨fun h => quiet_of_isolated run h run.inputs (List.prefix_refl _), isolated_of_quiet run⟩

/-- The broker's connection is lost once. -/
def brokerLost : AppRun where
  platform := idf43
  start := { FwState.boot with registrations := registered true }
  inputs :=
    [{ base := .mqttEvent, id := mqttEventDisconnected, mqtt := { topic := [], data := [] },
       outcomes := fun _ => espOk }]
  registered := rfl
  ofApplication input hinput := by
    rw [List.mem_singleton.mp hinput]
    decide

theorem brokerLost_not_isolated : ¬ ∀ run : AppRun, run.Isolated := by
  intro h
  have hsame := (h brokerLost).onlyWifi [] _ (List.prefix_refl _) (by decide)
  revert hsame
  decide

end Network
end OpcuaGateway
