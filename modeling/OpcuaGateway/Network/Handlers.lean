/-
What the handlers of the application do, one run lemma for each, and which of them an
event reaches.
-/
import OpcuaGateway.Network.Main

namespace OpcuaGateway
namespace Network

open Effect Effect.Action Idf Text

/-! ## `wifi_event_handler` -/

/-- The state after a Wi-Fi event. -/
def wifiHandled (s : FwState) (id : Int32) : FwState :=
  if id = wifiEventStaStart then s
  else if id = wifiEventStaConnected then { s with wifiConnected := 1 }
  else if id = wifiEventStaDisconnected then
    { s with wifiConnected := 0, retryCnt := s.retryCnt + 1 }
  else s

/-- The calls made for a Wi-Fi event. -/
def wifiCalls (s : FwState) (id : Int32) : List FwEvent :=
  if id = wifiEventStaStart then [.called .espWifiConnect]
  else if id = wifiEventStaDisconnected ∧ s.retryCnt < maxRetry then [.called .espWifiConnect]
  else []

theorem wifiEventHandler_run (o : Outcomes) (id : Int32) (s : FwState) :
    (wifiEventHandler o id).run s =
      { log := wifiCalls s id, exit := .ok ((), wifiHandled s id) } := by
  unfold wifiEventHandler wifiCalls wifiHandled
  by_cases hstart : id = wifiEventStaStart
  · simp only [if_pos hstart, espWifiConnect, bind_of_ok (callPlain_run _ _ _)]
    rfl
  · simp only [if_neg hstart]
    by_cases hconnected : id = wifiEventStaConnected
    · subst hconnected
      rfl
    · simp only [if_neg hconnected]
      by_cases hgotIp : id = ipEventStaGotIp
      · subst hgotIp
        rfl
      · simp only [if_neg hgotIp]
        by_cases hdisconnected : id = wifiEventStaDisconnected
        · have hstore :
              (update fun s : FwState => (s.retryCnt, { s with retryCnt := s.retryCnt + 1 }) :
                FwM Int32).run { s with wifiConnected := 0 } =
              { log := [], exit := .ok (s.retryCnt, { s with
                  wifiConnected := 0, retryCnt := s.retryCnt + 1 }) } := rfl
          have hclear : (update fun s : FwState => ((), { s with wifiConnected := 0 }) :
              FwM Unit).run s =
                { log := [], exit := .ok ((), { s with wifiConnected := 0 }) } := rfl
          rw [if_pos hdisconnected, if_pos hdisconnected, bind_of_ok hclear, bind_of_ok hstore]
          by_cases hretry : s.retryCnt < maxRetry
          · rw [if_pos hretry, if_pos ⟨hdisconnected, hretry⟩, espWifiConnect,
              bind_of_ok (callPlain_run _ _ _)]
            rfl
          · rw [if_neg hretry, if_neg fun h => hretry h.2]
            rfl
        · simp only [hdisconnected, false_and, if_false]
          rfl

/-! ## `mqtt_event_handler` -/

/-- The state after an MQTT event, unless its data overruns an array. -/
def mqttHandled (s : FwState) (id : Int32) (event : MqttEvent) : Option FwState :=
  if id = mqttEventDisconnected then some { s with reconnectTime := 0 }
  else if id = mqttEventConnected then some { s with bootToReconnect := false }
  else if id = mqttEventData then
    match sprintf12 s.topicSub (lineText event.topic), sprintf12 s.dataSub (lineText event.data) with
    | some topicSub, some dataSub => some { s with topicSub := topicSub, dataSub := dataSub }
    | _, _ => none
  else some s

/-- The calls made for an MQTT event.  MQTT_EVENT_DISCONNECTED has the id the handler
compares to WIFI_EVENT_STA_START. -/
def mqttCalls (id : Int32) : List FwEvent :=
  if id = mqttEventDisconnected then [.called .espWifiConnect]
  else if id = mqttEventConnected then [.called .xTimerStop]
  else []

def mqttExit : Option FwState → Except FwFault (Unit × FwState)
  | some t => .ok ((), t)
  | none => .error .bufferOverflow

theorem mqttEventData_run (o : Outcomes) (event : MqttEvent) (s : FwState) :
    (mqttEventHandler o mqttEventData event).run s =
      { log := [], exit := mqttExit (mqttHandled s mqttEventData event) } := by
  have hhandler : (mqttEventHandler o mqttEventData event).run s =
      (sprintfTopicSub event.topic >>= fun _ => sprintfDataSub event.data).run s := rfl
  have hhandled : mqttHandled s mqttEventData event =
      match sprintf12 s.topicSub (lineText event.topic),
        sprintf12 s.dataSub (lineText event.data) with
      | some topicSub, some dataSub => some { s with topicSub := topicSub, dataSub := dataSub }
      | _, _ => none := rfl
  rw [hhandler, hhandled]
  cases htopic : sprintf12 s.topicSub (lineText event.topic) with
  | none =>
    have hrun : (sprintfTopicSub event.topic).run s =
        { log := [], exit := .error .bufferOverflow } := by
      simp only [sprintfTopicSub, htopic]
    rw [bind_of_error hrun]
    rfl
  | some topicSub =>
    have hrun : (sprintfTopicSub event.topic).run s =
        { log := [], exit := .ok ((), { s with topicSub := topicSub }) } := by
      simp only [sprintfTopicSub, htopic]
    rw [bind_of_ok hrun]
    cases hdata : sprintf12 s.dataSub (lineText event.data) with
    | none =>
      simp only [sprintfDataSub, hdata]
      rfl
    | some dataSub =>
      simp only [sprintfDataSub, hdata]
      rfl

theorem mqttEventHandler_run (o : Outcomes) (id : Int32) (event : MqttEvent) (s : FwState) :
    (mqttEventHandler o id event).run s =
      { log := mqttCalls id, exit := mqttExit (mqttHandled s id event) } := by
  by_cases hdata : id = mqttEventData
  · rw [hdata]
    exact mqttEventData_run o event s
  · unfold mqttEventHandler mqttCalls mqttHandled
    by_cases hdisconnected : id = mqttEventDisconnected
    · have hclash : id = wifiEventStaStart := hdisconnected
      rw [if_pos hclash, if_pos hdisconnected, if_pos hdisconnected, espWifiConnect,
        bind_of_ok (callPlain_run _ _ _)]
      rfl
    · have hclash : id ≠ wifiEventStaStart := hdisconnected
      rw [if_neg hclash, if_neg hdisconnected, if_neg hdisconnected]
      by_cases hconnected : id = mqttEventConnected
      · have hboot : (update fun s : FwState => ((), { s with bootToReconnect := false }) :
            FwM Unit).run s =
              { log := [], exit := .ok ((), { s with bootToReconnect := false }) } := rfl
        rw [if_pos hconnected, if_pos hconnected, if_pos hconnected, bind_of_ok hboot,
          bind_of_ok (callPlain_run _ _ _)]
        rfl
      · rw [if_neg hconnected, if_neg hconnected, if_neg hconnected, if_neg hdata, if_neg hdata]
        split_ifs <;> rfl

/-- Both lines fit their arrays. -/
def MqttEvent.Fits (event : MqttEvent) : Prop :=
  (cString event.topic).length ≤ 9 ∧ (cString event.data).length ≤ 9

theorem sprintf12_isSome (buffer : Vector UInt8 12) (text : Bytes) :
    (sprintf12 buffer (lineText text)).isSome ↔ (cString text).length ≤ 9 := by
  have hlength : (lineText text).length = (cString text).length + 2 := by
    rw [lineText, List.length_append]
    rfl
  unfold sprintf12
  split_ifs with h
  · simp only [Option.isSome_some, true_iff]
    omega
  · simp only [Option.isSome_none, Bool.false_eq_true, false_iff]
    omega

/-- The handler returns unless the event is data that does not fit. -/
theorem mqttHandled_isSome (s : FwState) (id : Int32) (event : MqttEvent) :
    (mqttHandled s id event).isSome ↔ (id = mqttEventData → event.Fits) := by
  by_cases hdata : id = mqttEventData
  · have htopic := sprintf12_isSome s.topicSub event.topic
    have hdataSub := sprintf12_isSome s.dataSub event.data
    rw [hdata]
    unfold MqttEvent.Fits
    rw [← htopic, ← hdataSub]
    show (match sprintf12 s.topicSub _, sprintf12 s.dataSub _ with
      | some topicSub, some dataSub => some _
      | _, _ => none).isSome ↔ _
    cases sprintf12 s.topicSub (lineText event.topic) with
    | none => simp
    | some topicSub =>
      cases sprintf12 s.dataSub (lineText event.data) with
      | none => simp
      | some dataSub => simp
  · unfold mqttHandled
    rw [if_neg hdata]
    simp only [hdata, false_implies, iff_true]
    split_ifs <;> rfl

/-- What an MQTT event does not touch. -/
theorem mqttHandled_frame {s t : FwState} {id : Int32} {event : MqttEvent}
    (h : mqttHandled s id event = some t) :
    t.defaultLoop = s.defaultLoop ∧ t.registrations = s.registrations ∧ t.held = s.held ∧
      t.wifiConnected = s.wifiConnected ∧ t.retryCnt = s.retryCnt := by
  unfold mqttHandled at h
  split_ifs at h
  · rw [← Option.some.inj h]
    exact ⟨rfl, rfl, rfl, rfl, rfl⟩
  · rw [← Option.some.inj h]
    exact ⟨rfl, rfl, rfl, rfl, rfl⟩
  · cases htopic : sprintf12 s.topicSub (lineText event.topic) with
    | none => rw [htopic] at h; cases h
    | some topicSub =>
      cases hdata : sprintf12 s.dataSub (lineText event.data) with
      | none => rw [htopic, hdata] at h; cases h
      | some dataSub =>
        rw [htopic, hdata] at h
        rw [← Option.some.inj h]
        exact ⟨rfl, rfl, rfl, rfl, rfl⟩
  · rw [← Option.some.inj h]
    exact ⟨rfl, rfl, rfl, rfl, rfl⟩

/-! ## Who hears an event -/

/-- What `app_main` has registered when it is through, by whether the MQTT client took
its handler. -/
def registered (mqtt : Bool) : List Registration :=
  [wifiRegistration, ipRegistration] ++ (if mqtt then [mqttRegistration] else []) ++
    [ethRegistration, ethGotIpRegistration]

theorem handlersFor_wifi {s : FwState} {mqtt : Bool} (h : s.registrations = registered mqtt)
    {input : FwInput} (hbase : input.base = .wifiEvent) :
    handlersFor s input = [.wifiEventHandler] := by
  cases mqtt <;>
    simp [handlersFor, h, registered, Registration.covers, wifiRegistration, ipRegistration,
      mqttRegistration, ethRegistration, ethGotIpRegistration, hbase]

theorem handlersFor_eth {s : FwState} {mqtt : Bool} (h : s.registrations = registered mqtt)
    {input : FwInput} (hbase : input.base = .ethEvent) :
    handlersFor s input = [.ethEventHandler] := by
  cases mqtt <;>
    simp [handlersFor, h, registered, Registration.covers, wifiRegistration, ipRegistration,
      mqttRegistration, ethRegistration, ethGotIpRegistration, hbase]

theorem handlersFor_mqtt {s : FwState} {mqtt : Bool} (h : s.registrations = registered mqtt)
    {input : FwInput} (hbase : input.base = .mqttEvent) :
    handlersFor s input = if mqtt then [.mqttEventHandler] else [] := by
  cases mqtt <;>
    simp [handlersFor, h, registered, Registration.covers, wifiRegistration, ipRegistration,
      mqttRegistration, ethRegistration, ethGotIpRegistration, hbase]

theorem handlersFor_ip {s : FwState} {mqtt : Bool} (h : s.registrations = registered mqtt)
    {input : FwInput} (hbase : input.base = .ipEvent) :
    handlersFor s input =
      if input.id = ipEventStaGotIp then [.wifiEventHandler]
      else if input.id = ipEventEthGotIp then [.gotIpEventHandler]
      else [] := by
  have hcovers : ∀ r ∈ registered mqtt, r.covers input.base input.id =
      (decide (r = ipRegistration) && decide (input.id = ipEventStaGotIp) ||
        decide (r = ethGotIpRegistration) && decide (input.id = ipEventEthGotIp)) := by
    intro r hr
    have hfive : r = wifiRegistration ∨ r = ipRegistration ∨ r = mqttRegistration ∨
        r = ethRegistration ∨ r = ethGotIpRegistration := by
      cases mqtt <;> simp [registered] at hr <;> tauto
    rcases hfive with rfl | rfl | rfl | rfl | rfl <;>
      simp [Registration.covers, wifiRegistration, ipRegistration, mqttRegistration,
        ethRegistration, ethGotIpRegistration, hbase, eq_comm]
  rw [handlersFor, h, List.filter_congr hcovers]
  by_cases hsta : input.id = ipEventStaGotIp
  · rw [hsta]
    cases mqtt <;> decide
  · rw [if_neg hsta]
    by_cases heth : input.id = ipEventEthGotIp
    · rw [heth]
      cases mqtt <;> decide
    · simp [hsta, heth]

/-! ## What an event comes to -/

theorem deliver_wifi {platform : Platform} {input : FwInput} {s : FwState}
    (h : handlersFor s input = [.wifiEventHandler]) :
    (deliver platform input).run s =
      { log := wifiCalls s input.id, exit := .ok ((), wifiHandled s input.id) } := by
  rw [deliver_of_handler h]
  exact wifiEventHandler_run input.outcomes input.id s

theorem deliver_mqtt {platform : Platform} {input : FwInput} {s : FwState}
    (h : s.registrations = registered true) (hbase : input.base = .mqttEvent) :
    (deliver platform input).run s =
      { log := mqttCalls input.id, exit := mqttExit (mqttHandled s input.id input.mqtt) } := by
  have hhears : handlersFor s input = [.mqttEventHandler] := handlersFor_mqtt h hbase
  rw [deliver_of_handler hhears]
  exact mqttEventHandler_run input.outcomes input.id input.mqtt s

theorem deliver_eth {mqtt : Bool} {platform : Platform} {input : FwInput} {s : FwState}
    (h : s.registrations = registered mqtt) (hbase : input.base = .ethEvent) :
    (deliver platform input).run s =
      (ethEventHandler platform input.outcomes input.id).run s :=
  deliver_of_handler (handlersFor_eth h hbase)

end Network
end OpcuaGateway
