import OpcuaGateway.Network.Ethernet

namespace OpcuaGateway
namespace Network

open Effect Effect.Action Idf Text

/-! ## Event ids -/

def wifiEventStaStart : Int32 := 2
def wifiEventStaConnected : Int32 := 4
def wifiEventStaDisconnected : Int32 := 5

def ipEventStaGotIp : Int32 := 0

def mqttEventError : Int32 := 0
def mqttEventConnected : Int32 := 1
def mqttEventDisconnected : Int32 := 2
def mqttEventSubscribed : Int32 := 3
def mqttEventData : Int32 := 6

def maxRetry : Int32 := 10

def wifiRegistration : Registration :=
  { base := .wifiEvent, id := none, handler := .wifiEventHandler }

def ipRegistration : Registration :=
  { base := .ipEvent, id := some ipEventStaGotIp, handler := .wifiEventHandler }

def mqttRegistration : Registration :=
  { base := .mqttEvent, id := none, handler := .mqttEventHandler }

/-! ## Handlers -/

def espWifiConnect (o : Outcomes) : FwM EspErr := callPlain o .espWifiConnect

def wifiEventHandler (o : Outcomes) (eventId : Int32) : FwM Unit :=
  if eventId = wifiEventStaStart then do
    let _ ← espWifiConnect o
    pure ()
  else if eventId = wifiEventStaConnected then
    update fun s => ((), { s with wifiConnected := 1 })
  else if eventId = ipEventStaGotIp then pure ()
  else if eventId = wifiEventStaDisconnected then do
    update fun s => ((), { s with wifiConnected := 0 })
    -- the old count is compared and the new one stored, whatever comes of it
    let retryCnt ← update fun s => (s.retryCnt, { s with retryCnt := s.retryCnt + 1 })
    if retryCnt < maxRetry then do
      let _ ← espWifiConnect o
      pure ()
    else pure ()
  else pure ()

/-- What an MQTT event brings along: as much of the topic and of the data as their
lengths say. -/
structure MqttEvent where
  topic : Bytes
  data : Bytes
deriving DecidableEq, Repr

/-- The text of `"%.*s\r\n"`. -/
def lineText (text : Bytes) : Bytes := cString text ++ [13, 10]

/-- `sprintf` of a text and its terminator into an array of 12 bytes. -/
def sprintf12 (buffer : Vector UInt8 12) (text : Bytes) : Option (Vector UInt8 12) :=
  if text.length < 12 then
    some (Vector.ofFn fun k : Fin 12 => (text ++ [0]).getD k buffer[k])
  else none

/-- `sprintf(topic_Sub, "%.*s\r\n", event->topic_len, event->topic)`. -/
def sprintfTopicSub (topic : Bytes) : FwM Unit where
  run s :=
    match sprintf12 s.topicSub (lineText topic) with
    | some topicSub => { log := [], exit := .ok ((), { s with topicSub := topicSub }) }
    | none => { log := [], exit := .error .bufferOverflow }

def sprintfDataSub (data : Bytes) : FwM Unit where
  run s :=
    match sprintf12 s.dataSub (lineText data) with
    | some dataSub => { log := [], exit := .ok ((), { s with dataSub := dataSub }) }
    | none => { log := [], exit := .error .bufferOverflow }

def mqttEventHandler (o : Outcomes) (eventId : Int32) (event : MqttEvent) : FwM Unit :=
  if eventId = wifiEventStaStart then do
    let _ ← espWifiConnect o
    update fun s => ((), { s with reconnectTime := 0 })
  else if eventId = mqttEventConnected then do
    update fun s => ((), { s with bootToReconnect := false })
    let _ ← callPlain o .xTimerStop
    pure ()
  else if eventId = mqttEventSubscribed then pure ()
  else if eventId = mqttEventError then pure ()
  else if eventId = mqttEventData then do
    sprintfTopicSub event.topic
    sprintfDataSub event.data
  else pure ()

/-! ## Start-up -/

def wifiInit (platform : Platform) (o : Outcomes) : FwM Unit := do
  let _ ← espEventLoopCreateDefault platform o
  espErrorCheck (.espEventHandlerRegister wifiRegistration)
    (espEventHandlerRegister o wifiRegistration)
  espErrorCheck (.espEventHandlerRegister ipRegistration)
    (espEventHandlerRegister o ipRegistration)
  let _ ← callPlain o .espNetifInit
  let _ ← callPlain o .espNetifCreateDefaultWifiSta
  let _ ← callPlain o .espWifiInit
  let _ ← callPlain o .espWifiSetMode
  let _ ← callPlain o .espWifiSetConfig
  let _ ← callPlain o .espWifiStart
  pure ()

def mqttAppStart (o : Outcomes) : FwM Unit := do
  let _ ← callPlain o .espMqttClientInit
  let _ ← call o .espMqttClientRegisterEvent (fun _ => none)
    (fun s => { s with registrations := s.registrations ++ [mqttRegistration] })
  let _ ← callPlain o .espMqttClientStart
  pure ()

/-- What the calls of the start-up come to, function by function. -/
structure BootOutcomes where
  main : Outcomes
  wifi : Outcomes
  mqtt : Outcomes
  ethernet : Outcomes

/-- `app_main`, and whether the poller's task was created. -/
def appMain (platform : Platform) (o : BootOutcomes) : FwM Bool := do
  let _ ← callPlain o.main .nvsFlashInit
  wifiInit platform o.wifi
  mqttAppStart o.mqtt
  startConnectEthernet platform o.ethernet
  let err ← callPlain o.main .xTaskCreate
  pure (err = espOk)

/-! ## Delivery -/

/-- An event posted to the application, with what the calls made in handling it come to. -/
structure FwInput where
  base : EventBase
  id : Int32
  mqtt : MqttEvent
  outcomes : Outcomes

def runHandler (platform : Platform) (input : FwInput) : Handler → FwM Unit
  | .wifiEventHandler => wifiEventHandler input.outcomes input.id
  | .ethEventHandler => ethEventHandler platform input.outcomes input.id
  | .gotIpEventHandler => gotIpEventHandler
  | .mqttEventHandler => mqttEventHandler input.outcomes input.id input.mqtt

/-- The handlers registered for the event, in the order of their registration. -/
def handlersFor (s : FwState) (input : FwInput) : List Handler :=
  (s.registrations.filter fun r => r.covers input.base input.id).map Registration.handler

def runHandlers (platform : Platform) (input : FwInput) : List Handler → FwM Unit :=
  forEach (runHandler platform input)

def deliver (platform : Platform) (input : FwInput) : FwM Unit := do
  let s ← current
  runHandlers platform input (handlersFor s input)

def deliverAll (platform : Platform) : List FwInput → FwM Unit := forEach (deliver platform)

/-- A run of the firmware: the start-up, then the events. -/
def firmware (platform : Platform) (o : BootOutcomes) (inputs : List FwInput) : FwM Unit := do
  let _ ← appMain platform o
  deliverAll platform inputs

theorem deliver_run (platform : Platform) (input : FwInput) (s : FwState) :
    (deliver platform input).run s = (runHandlers platform input (handlersFor s input)).run s :=
  rfl

theorem runHandlers_singleton (platform : Platform) (input : FwInput) (h : Handler)
    (s : FwState) :
    (runHandlers platform input [h]).run s = (runHandler platform input h).run s :=
  forEach_singleton _ h s

/-- An event that one handler hears is what that handler does. -/
theorem deliver_of_handler {platform : Platform} {input : FwInput} {h : Handler} {s : FwState}
    (hhears : handlersFor s input = [h]) :
    (deliver platform input).run s = (runHandler platform input h).run s := by
  rw [deliver_run, hhears, runHandlers_singleton]

theorem deliver_unheard {platform : Platform} {input : FwInput} {s : FwState}
    (hhears : handlersFor s input = []) :
    (deliver platform input).run s = { log := [], exit := .ok ((), s) } := by
  rw [deliver_run, hhears]
  rfl

end Network
end OpcuaGateway
