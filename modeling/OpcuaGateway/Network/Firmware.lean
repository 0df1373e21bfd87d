/-
The firmware below the application: the state it keeps for the process, and the calls
the application makes into it.

The result of a call is an input, `Outcomes` giving one for each call of a function,
except where the state already decides it: an existing default loop, netif or SPI bus,
and a `NULL` argument.
-/
import OpcuaGateway.Effect.Loop
import OpcuaGateway.Idf.Basic
import OpcuaGateway.Text.Ascii

namespace OpcuaGateway
namespace Network

open Effect Effect.Action Idf Text

/-! ## Events and handlers -/

inductive EventBase where
  | wifiEvent
  | ipEvent
  | ethEvent
  | mqttEvent
deriving DecidableEq, Repr

inductive Handler where
  | wifiEventHandler
  | ethEventHandler
  | gotIpEventHandler
  | mqttEventHandler
deriving DecidableEq, Repr

/-- A registration; without an `id` it is for any of the base. -/
structure Registration where
  base : EventBase
  id : Option Int32
  handler : Handler
deriving DecidableEq, Repr

def Registration.covers (r : Registration) (base : EventBase) (id : Int32) : Bool :=
  r.base = base && (r.id = none || r.id = some id)

inductive IdfCall where
  | nvsFlashInit
  | espEventLoopCreateDefault
  | espEventHandlerRegister (r : Registration)
  | espNetifInit
  | espNetifCreateDefaultWifiSta
  | espWifiInit
  | espWifiSetMode
  | espWifiSetConfig
  | espWifiStart
  | espWifiConnect
  | espMqttClientInit
  | espMqttClientRegisterEvent
  | espMqttClientStart
  | espNetifNew
  | espEthSetDefaultHandlers
  | espNetifDhcpcStop
  | espNetifSetIpInfo
  | gpioInstallIsrService
  | spiBusInitialize
  | spiBusAddDevice
  | espEthMacNewW5500
  | espEthPhyNewW5500
  | espEthDriverInstall
  | espEthIoctl
  | espEthNewNetifGlue
  | espNetifAttach
  | espEthStart
  | xTimerStop
  | xTaskCreate
deriving DecidableEq, Repr

/-- What the calls of one function come to where the state leaves it open. -/
abbrev Outcomes := IdfCall → EspErr

/-- What creating the default event loop comes to when it exists. -/
structure Platform where
  existingLoop : EspErr

/-- ESP-IDF 4.3. -/
def idf43 : Platform := { existingLoop := espErrInvalidState }

/-- A platform on which creating the default event loop again does nothing. -/
def idempotentLoop : Platform := { existingLoop := espOk }

/-! ## State -/

/-- What the Ethernet driver holds.  There is one key for the default netif and one
SPI host. -/
structure Held where
  netifs : Nat
  spiBuses : Nat
  spiDevices : Nat
  macs : Nat
  phys : Nat
  installed : Nat
  started : Nat
deriving DecidableEq, Repr

def Held.none : Held :=
  { netifs := 0, spiBuses := 0, spiDevices := 0, macs := 0, phys := 0, installed := 0,
    started := 0 }

def Held.one : Held :=
  { netifs := 1, spiBuses := 1, spiDevices := 1, macs := 1, phys := 1, installed := 1,
    started := 1 }

structure FwState where
  defaultLoop : Bool
  registrations : List Registration
  held : Held
  ethernetConnected : Int
  wifiConnected : Int
  retryCnt : Int32
  reconnectTime : Int
  bootToReconnect : Bool
  topicSub : Vector UInt8 12
  dataSub : Vector UInt8 12
deriving DecidableEq, Repr

/-- The globals as the loader leaves them, and nothing acquired yet. -/
def FwState.boot : FwState where
  defaultLoop := false
  registrations := []
  held := Held.none
  ethernetConnected := 0
  wifiConnected := 0
  retryCnt := 0
  reconnectTime := 0
  bootToReconnect := false
  topicSub := Vector.replicate 12 0
  dataSub := Vector.replicate 12 0

inductive FwFault where
  | abort (call : IdfCall) (err : EspErr)
  | bufferOverflow
deriving DecidableEq, Repr

inductive FwEvent where
  | checked (call : IdfCall) (defaultLoop : Bool)
  | called (call : IdfCall)
  | vTaskDelay (ticks : Nat)
deriving DecidableEq, Repr

abbrev FwM := Action FwState FwEvent FwFault

/-! ## Calls -/

/-- A call that `refused` rules out in some states, and that has an effect when it
succeeds. -/
def call (o : Outcomes) (c : IdfCall) (refused : FwState → Option EspErr)
    (effect : FwState → FwState) : FwM EspErr := do
  emit (.called c)
  update fun s =>
    match refused s with
    | some err => (err, s)
    | none => if o c = espOk then (espOk, effect s) else (o c, s)

/-- A call without an effect on the state modelled here. -/
def callPlain (o : Outcomes) (c : IdfCall) : FwM EspErr := call o c (fun _ => none) id

/-- `ESP_ERROR_CHECK`, with assertions enabled. -/
def espErrorCheck (c : IdfCall) (m : FwM EspErr) : FwM Unit := do
  let s ← current
  emit (.checked c s.defaultLoop)
  let err ← m
  if err = espOk then pure () else fail (.abort c err)

def espEventLoopCreateDefault (platform : Platform) (o : Outcomes) : FwM EspErr :=
  call o .espEventLoopCreateDefault
    (fun s => if s.defaultLoop then some platform.existingLoop else none)
    (fun s => { s with defaultLoop := true })

/-- Registering a handler again replaces its registration. -/
def register (r : Registration) (rs : List Registration) : List Registration :=
  if r ∈ rs then rs else rs ++ [r]

def espEventHandlerRegister (o : Outcomes) (r : Registration) : FwM EspErr :=
  call o (.espEventHandlerRegister r) (fun _ => none)
    (fun s => { s with registrations := register r s.registrations })

abbrev Handle := Option Unit

def handle (err : EspErr) : Handle := if err = espOk then some () else none

def espNetifNew (o : Outcomes) : FwM Handle := do
  let err ← call o .espNetifNew (fun s => if s.held.netifs ≠ 0 then some espFail else none)
    (fun s => { s with held := { s.held with netifs := s.held.netifs + 1 } })
  pure (handle err)

def espEthSetDefaultHandlers (o : Outcomes) (ethNetif : Handle) : FwM EspErr :=
  call o .espEthSetDefaultHandlers
    (fun _ => if ethNetif = none then some espErrInvalidArg else none) id

def spiBusInitialize (o : Outcomes) : FwM EspErr :=
  call o .spiBusInitialize
    (fun s => if s.held.spiBuses ≠ 0 then some espErrInvalidState else none)
    (fun s => { s with held := { s.held with spiBuses := s.held.spiBuses + 1 } })

def spiBusAddDevice (o : Outcomes) : FwM EspErr :=
  call o .spiBusAddDevice (fun _ => none)
    (fun s => { s with held := { s.held with spiDevices := s.held.spiDevices + 1 } })

def espEthMacNewW5500 (o : Outcomes) : FwM Handle := do
  let err ← call o .espEthMacNewW5500 (fun _ => none)
    (fun s => { s with held := { s.held with macs := s.held.macs + 1 } })
  pure (handle err)

def espEthPhyNewW5500 (o : Outcomes) : FwM Handle := do
  let err ← call o .espEthPhyNewW5500 (fun _ => none)
    (fun s => { s with held := { s.held with phys := s.held.phys + 1 } })
  pure (handle err)

def espEthDriverInstall (o : Outcomes) (mac phy : Handle) : FwM EspErr :=
  call o .espEthDriverInstall
    (fun _ => if mac = none ∨ phy = none then some espErrInvalidArg else none)
    (fun s => { s with held := { s.held with installed := s.held.installed + 1 } })

def espEthNewNetifGlue (o : Outcomes) : FwM Handle := do
  let err ← callPlain o .espEthNewNetifGlue
  pure (handle err)

def espNetifAttach (o : Outcomes) (ethNetif glue : Handle) : FwM EspErr :=
  call o .espNetifAttach
    (fun _ => if ethNetif = none ∨ glue = none then some espErrInvalidArg else none) id

def espEthStart (o : Outcomes) : FwM EspErr :=
  call o .espEthStart (fun _ => none)
    (fun s => { s with held := { s.held with started := s.held.started + 1 } })

/-! ## Runs of the calls -/

theorem callPlain_run (o : Outcomes) (c : IdfCall) (s : FwState) :
    (callPlain o c).run s = { log := [.called c], exit := .ok (o c, s) } := by
  rw [callPlain, call, bind_of_ok (emit_run _ _), update_run]
  by_cases h : o c = espOk
  · simp only [h, if_true]
    rfl
  · simp only [if_neg h]
    rfl

theorem call_final? (o : Outcomes) (c : IdfCall) (refused : FwState → Option EspErr)
    (effect : FwState → FwState) (s : FwState) :
    ((call o c refused effect).run s).final? =
      some (match refused s with
        | some err => (err, s)
        | none => if o c = espOk then (espOk, effect s) else (o c, s)) := rfl

theorem espErrorCheck_run (c : IdfCall) (m : FwM EspErr) (s : FwState) :
    (espErrorCheck c m).run s = Run.after [.checked c s.defaultLoop]
      ((m >>= fun err => if err = espOk then pure () else fail (.abort c err)).run s) := by
  rw [espErrorCheck, bind_of_ok (current_run s), bind_of_ok (emit_run _ _)]
  rfl

theorem espErrorCheck_final? (c : IdfCall) (m : FwM EspErr) (s : FwState) :
    ((espErrorCheck c m).run s).final? =
      (m.run s).final?.bind fun x => if x.1 = espOk then some ((), x.2) else none := by
  rw [espErrorCheck_run, Run.final?_after, bind_final?]
  congr 1
  funext x
  by_cases hok : x.1 = espOk
  · rw [if_pos hok, if_pos hok]
    rfl
  · rw [if_neg hok, if_neg hok]
    rfl

/-- A checked call that the state does not refuse. -/
theorem checked_final? (o : Outcomes) (c : IdfCall) {refused : FwState → Option EspErr}
    {effect : FwState → FwState} {s : FwState} (h : refused s = none) :
    ((espErrorCheck c (call o c refused effect)).run s).final? =
      if o c = espOk then some ((), effect s) else none := by
  rw [espErrorCheck_final?, call_final?, h, Option.bind_some]
  by_cases hok : o c = espOk
  · simp only [if_pos hok, if_true]
  · simp only [if_neg hok]

end Network
end OpcuaGateway
