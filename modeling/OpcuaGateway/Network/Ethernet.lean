import OpcuaGateway.Network.Firmware

namespace OpcuaGateway
namespace Network

open Effect Effect.Action Idf Text

/-! ## Event ids -/

def ethernetEventStart : Int32 := 0
def ethernetEventStop : Int32 := 1
def ethernetEventConnected : Int32 := 2
def ethernetEventDisconnected : Int32 := 3

def ipEventEthGotIp : Int32 := 4

def ethRegistration : Registration :=
  { base := .ethEvent, id := none, handler := .ethEventHandler }

def ethGotIpRegistration : Registration :=
  { base := .ipEvent, id := some ipEventEthGotIp, handler := .gotIpEventHandler }

/-! ## `start_connect_ethernet` -/

/-- The part that sets up the interface. -/
def startNetif (platform : Platform) (o : Outcomes) : FwM Handle := do
  espErrorCheck .espNetifInit (callPlain o .espNetifInit)
  espErrorCheck .espEventLoopCreateDefault (espEventLoopCreateDefault platform o)
  let ethNetif ← espNetifNew o
  espErrorCheck .espEthSetDefaultHandlers (espEthSetDefaultHandlers o ethNetif)
  let _ ← callPlain o .espNetifDhcpcStop
  let _ ← callPlain o .espNetifSetIpInfo
  pure ethNetif

/-- The part that sets up the W5500 on its SPI bus. -/
def startDriver (o : Outcomes) (ethNetif : Handle) : FwM Unit := do
  let _ ← callPlain o .gpioInstallIsrService
  espErrorCheck .spiBusInitialize (spiBusInitialize o)
  espErrorCheck .spiBusAddDevice (spiBusAddDevice o)
  let mac ← espEthMacNewW5500 o
  let phy ← espEthPhyNewW5500 o
  espErrorCheck .espEthDriverInstall (espEthDriverInstall o mac phy)
  espErrorCheck .espEthIoctl (callPlain o .espEthIoctl)
  let glue ← espEthNewNetifGlue o
  espErrorCheck .espNetifAttach (espNetifAttach o ethNetif glue)
  espErrorCheck .espEthStart (espEthStart o)

def startConnectEthernet (platform : Platform) (o : Outcomes) : FwM Unit := do
  let ethNetif ← startNetif platform o
  espErrorCheck (.espEventHandlerRegister ethRegistration)
    (espEventHandlerRegister o ethRegistration)
  espErrorCheck (.espEventHandlerRegister ethGotIpRegistration)
    (espEventHandlerRegister o ethGotIpRegistration)
  startDriver o ethNetif

/-! ## Handlers -/

def ethEventHandler (platform : Platform) (o : Outcomes) (eventId : Int32) : FwM Unit :=
  if eventId = ethernetEventConnected then do
    update fun s => ((), { s with ethernetConnected := 1 })
    let _ ← callPlain o .espEthIoctl
    pure ()
  else if eventId = ethernetEventDisconnected then do
    update fun s => ((), { s with ethernetConnected := 0 })
    emit (.vTaskDelay (1500 / portTickPeriodMs))
    startConnectEthernet platform o
  else if eventId = ethernetEventStart then pure ()
  else if eventId = ethernetEventStop then pure ()
  else pure ()

/-- `got_ip_event_handler` only prints. -/
def gotIpEventHandler : FwM Unit := pure ()

/-! ## The link -/

/-- The two events on which `eth_event_handler` writes the flag. -/
inductive LinkEvent where
  | up
  | down
deriving DecidableEq, Repr

namespace LinkEvent

def id : LinkEvent → Int32
  | .up => ethernetEventConnected
  | .down => ethernetEventDisconnected

def flag : LinkEvent → Int
  | .up => 1
  | .down => 0

end LinkEvent

theorem ethEventHandler_other {platform : Platform} {o : Outcomes} {eventId : Int32} {s : FwState}
    (hup : eventId ≠ ethernetEventConnected) (hdown : eventId ≠ ethernetEventDisconnected) :
    (ethEventHandler platform o eventId).run s = { log := [], exit := .ok ((), s) } := by
  rw [ethEventHandler, if_neg hup, if_neg hdown]
  split
  · rfl
  · split <;> rfl

theorem ethEventHandler_up (platform : Platform) (o : Outcomes) (s : FwState) :
    (ethEventHandler platform o LinkEvent.up.id).run s =
      { log := [.called .espEthIoctl]
        exit := .ok ((), { s with ethernetConnected := LinkEvent.up.flag }) } := by
  have hflag :
      (update fun s : FwState => ((), { s with ethernetConnected := 1 }) : FwM Unit).run s =
        { log := [], exit := .ok ((), { s with ethernetConnected := 1 }) } := rfl
  have hid : LinkEvent.up.id = ethernetEventConnected := rfl
  rw [ethEventHandler, if_pos hid, bind_of_ok hflag, bind_of_ok (callPlain_run _ _ _)]
  rfl

/-- On link-down the interface is started again, whatever is held. -/
theorem ethEventHandler_down (platform : Platform) (o : Outcomes) (s : FwState) :
    (ethEventHandler platform o LinkEvent.down.id).run s =
      Run.after [.vTaskDelay (1500 / portTickPeriodMs)] ((startConnectEthernet platform o).run
        { s with ethernetConnected := LinkEvent.down.flag }) := rfl

end Network
end OpcuaGateway
