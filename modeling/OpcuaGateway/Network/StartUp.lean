/-
When `start_connect_ethernet` returns, and what it leaves.

From a state that holds nothing of the Ethernet driver it returns exactly when every
call it depends on succeeds, and then holds one of each resource.
-/
import OpcuaGateway.Network.Handlers

namespace OpcuaGateway
namespace Network

open Effect Effect.Action Idf Text

/-! ## The calls -/

/-- The check of the default loop is passed. -/
def LoopPassed (platform : Platform) (o : Outcomes) (s : FwState) : Prop :=
  (s.defaultLoop = true → platform.existingLoop = espOk) ∧
    (s.defaultLoop = false → o .espEventLoopCreateDefault = espOk)

theorem plain_returns {o : Outcomes} {c : IdfCall} {s t : FwState} {err : EspErr} :
    ((callPlain o c).run s).final? = some (err, t) ↔ err = o c ∧ t = s := by
  have hfinal : ((callPlain o c).run s).final? = some (o c, s) := by
    rw [callPlain_run]
    rfl
  rw [hfinal]
  simp [eq_comm]

theorem checked_returns {o : Outcomes} {c : IdfCall} {refused : FwState → Option EspErr}
    {effect : FwState → FwState} {s t : FwState} {a : Unit} (h : refused s = none) :
    ((espErrorCheck c (call o c refused effect)).run s).final? = some (a, t) ↔
      o c = espOk ∧ t = effect s := by
  rw [checked_final? o c h]
  split_ifs with hok
  · simp [hok, eq_comm]
  · simp [hok]

theorem checkedPlain_returns {o : Outcomes} {c : IdfCall} {s t : FwState} {a : Unit} :
    ((espErrorCheck c (callPlain o c)).run s).final? = some (a, t) ↔ o c = espOk ∧ t = s :=
  checked_returns rfl

theorem checkedLoop_returns {platform : Platform} {o : Outcomes} {s t : FwState} {a : Unit} :
    ((espErrorCheck .espEventLoopCreateDefault
        (espEventLoopCreateDefault platform o)).run s).final? = some (a, t) ↔
      LoopPassed platform o s ∧ t = { s with defaultLoop := true } := by
  rw [espErrorCheck_final?, espEventLoopCreateDefault, call_final?, Option.bind_some, LoopPassed]
  cases hloop : s.defaultLoop with
  | true =>
    have hsame : { s with defaultLoop := true } = s := by rw [← hloop]
    simp [hsame, eq_comm]
  | false =>
    by_cases hok : o .espEventLoopCreateDefault = espOk
    · simp [hok, eq_comm]
    · simp [hok]

theorem checkedHandlers_returns {o : Outcomes} {ethNetif : Handle} {s t : FwState} {a : Unit} :
    ((espErrorCheck .espEthSetDefaultHandlers (espEthSetDefaultHandlers o ethNetif)).run s).final? =
        some (a, t) ↔ ethNetif ≠ none ∧ o .espEthSetDefaultHandlers = espOk ∧ t = s := by
  rw [espErrorCheck_final?, espEthSetDefaultHandlers, call_final?]
  cases ethNetif with
  | none => simp [espErrInvalidArg, espOk]
  | some _ =>
    by_cases hok : o .espEthSetDefaultHandlers = espOk
    · simp [hok, eq_comm]
    · simp [hok]

theorem checkedInstall_returns {o : Outcomes} {mac phy : Handle} {s t : FwState} {a : Unit} :
    ((espErrorCheck .espEthDriverInstall (espEthDriverInstall o mac phy)).run s).final? =
        some (a, t) ↔ (mac ≠ none ∧ phy ≠ none) ∧ o .espEthDriverInstall = espOk ∧
          t = { s with held := { s.held with installed := s.held.installed + 1 } } := by
  rw [espErrorCheck_final?, espEthDriverInstall, call_final?]
  by_cases hnull : mac = none ∨ phy = none
  · simp [hnull, espErrInvalidArg, espOk]
    tauto
  · rw [not_or] at hnull
    by_cases hok : o .espEthDriverInstall = espOk
    · simp [hnull.1, hnull.2, hok, eq_comm]
    · simp [hnull.1, hnull.2, hok]

theorem checkedAttach_returns {o : Outcomes} {ethNetif glue : Handle} {s t : FwState} {a : Unit} :
    ((espErrorCheck .espNetifAttach (espNetifAttach o ethNetif glue)).run s).final? =
        some (a, t) ↔ (ethNetif ≠ none ∧ glue ≠ none) ∧ o .espNetifAttach = espOk ∧ t = s := by
  rw [espErrorCheck_final?, espNetifAttach, call_final?]
  by_cases hnull : ethNetif = none ∨ glue = none
  · simp [hnull, espErrInvalidArg, espOk]
    tauto
  · rw [not_or] at hnull
    by_cases hok : o .espNetifAttach = espOk
    · simp [hnull.1, hnull.2, hok, eq_comm]
    · simp [hnull.1, hnull.2, hok]

/-- A call that returns a handle. -/
theorem new_returns {o : Outcomes} {c : IdfCall} {refused : FwState → Option EspErr}
    {effect : FwState → FwState} {s t : FwState} {h : Handle} (hs : refused s = none) :
    ((call o c refused effect >>= fun err => pure (handle err)).run s).final? = some (h, t) ↔
      (o c = espOk ∧ h = some () ∧ t = effect s) ∨ (o c ≠ espOk ∧ h = none ∧ t = s) := by
  rw [bind_final?, call_final?, Option.bind_some, hs]
  by_cases hok : o c = espOk
  · simp only [hok, if_true, handle, ne_eq, not_true, false_and, or_false, true_and]
    show some (some (), effect s) = some (h, t) ↔ _
    simp [eq_comm]
  · simp only [hok, if_false, handle, false_and, false_or, ne_eq, not_false_eq_true, true_and]
    show some (none, s) = some (h, t) ↔ _
    simp [eq_comm]

/-! ## The two halves -/

def netifCalls : List IdfCall := [.espNetifInit, .espNetifNew, .espEthSetDefaultHandlers]

def driverCalls : List IdfCall :=
  [.spiBusInitialize, .spiBusAddDevice, .espEthMacNewW5500, .espEthPhyNewW5500,
    .espEthDriverInstall, .espEthIoctl, .espEthNewNetifGlue, .espNetifAttach, .espEthStart]

theorem startNetif_returns {platform : Platform} {o : Outcomes} {s t : FwState} {n : Handle}
    (hs : s.held.netifs = 0) :
    ((startNetif platform o).run s).final? = some (n, t) ↔
      LoopPassed platform o s ∧ (∀ c ∈ netifCalls, o c = espOk) ∧ n = some () ∧
        t = { s with defaultLoop := true, held := { s.held with netifs := 1 } } := by
  have hnew : ∀ {t' : FwState} {n' : Handle},
      ((espNetifNew o).run { s with defaultLoop := true }).final? = some (n', t') ↔
        (o .espNetifNew = espOk ∧ n' = some () ∧
          t' = { s with defaultLoop := true, held := { s.held with netifs := 1 } }) ∨
        (o .espNetifNew ≠ espOk ∧ n' = none ∧ t' = { s with defaultLoop := true }) := by
    intro t' n'
    rw [espNetifNew, new_returns (by simp [hs])]
    simp only [hs]
  simp only [startNetif, bind_returns, checkedPlain_returns, checkedLoop_returns, plain_returns,
    checkedHandlers_returns]
  constructor
  · intro h
    obtain ⟨_, _, ⟨hinit, rfl⟩, _, _, ⟨hloop, rfl⟩, n', _, hnetif, _, _, ⟨hnull, hhandlers, rfl⟩,
      _, _, ⟨rfl, rfl⟩, _, _, ⟨rfl, rfl⟩, hpure⟩ := h
    rcases hnew.mp hnetif with ⟨hok, rfl, rfl⟩ | ⟨_, rfl, _⟩
    · cases hpure
      exact ⟨hloop, by simp [netifCalls, hinit, hok, hhandlers], rfl, rfl⟩
    · exact absurd rfl hnull
  · intro h
    obtain ⟨hloop, hcalls, rfl, rfl⟩ := h
    simp only [netifCalls, List.forall_mem_cons] at hcalls
    obtain ⟨hinit, hok, hhandlers, _⟩ := hcalls
    exact ⟨(), _, ⟨hinit, rfl⟩, (), _, ⟨hloop, rfl⟩, some (), _, hnew.mpr (Or.inl ⟨hok, rfl, rfl⟩),
      (), _, ⟨Option.some_ne_none (), hhandlers, rfl⟩, _, _, ⟨rfl, rfl⟩, _, _, ⟨rfl, rfl⟩, rfl⟩

/-- One of each, over what the interface half left. -/
def Held.driven (h : Held) : Held :=
  { h with
    spiBuses := 1
    spiDevices := h.spiDevices + 1
    macs := h.macs + 1
    phys := h.phys + 1
    installed := h.installed + 1
    started := h.started + 1 }

theorem startDriver_returns {o : Outcomes} {s t : FwState} {a : Unit}
    (hs : s.held.spiBuses = 0) :
    ((startDriver o (some ())).run s).final? = some (a, t) ↔
      (∀ c ∈ driverCalls, o c = espOk) ∧ t = { s with held := s.held.driven } := by
  have hbus : ∀ {t' : FwState} {b : Unit},
      ((espErrorCheck .spiBusInitialize (spiBusInitialize o)).run s).final? = some (b, t') ↔
        o .spiBusInitialize = espOk ∧ t' = { s with held := { s.held with spiBuses := 1 } } := by
    intro t' b
    rw [spiBusInitialize, checked_returns (by simp [hs])]
    simp only [hs]
  simp only [startDriver, bind_returns, checkedPlain_returns, plain_returns,
    checkedInstall_returns, checkedAttach_returns]
  constructor
  · intro h
    obtain ⟨_, _, ⟨rfl, rfl⟩, _, _, hbus', _, _, hdevice, mac, _, hmac, phy, _, hphy, _, _,
      ⟨⟨hmacNull, hphyNull⟩, hinstall, rfl⟩, _, _, ⟨hioctl, rfl⟩, glue, _, hglue, _, _,
      ⟨⟨_, hglueNull⟩, hattach, rfl⟩, hstart⟩ := h
    obtain ⟨hbusOk, rfl⟩ := hbus.mp hbus'
    obtain ⟨hdeviceOk, rfl⟩ := (checked_returns rfl).mp hdevice
    rcases (new_returns rfl).mp hmac with ⟨hmacOk, rfl, rfl⟩ | ⟨_, rfl, _⟩
    · rcases (new_returns rfl).mp hphy with ⟨hphyOk, rfl, rfl⟩ | ⟨_, rfl, _⟩
      · rcases (new_returns rfl).mp hglue with ⟨hglueOk, rfl, rfl⟩ | ⟨_, rfl, _⟩
        · obtain ⟨hstartOk, rfl⟩ := (checked_returns rfl).mp hstart
          exact ⟨by simp [driverCalls, *], rfl⟩
        · exact absurd rfl hglueNull
      · exact absurd rfl hphyNull
    · exact absurd rfl hmacNull
  · intro h
    obtain ⟨hcalls, rfl⟩ := h
    simp only [driverCalls, List.forall_mem_cons] at hcalls
    obtain ⟨hbusOk, hdeviceOk, hmacOk, hphyOk, hinstall, hioctl, hglueOk, hattach, hstartOk, _⟩ :=
      hcalls
    have hsome : (some () : Handle) ≠ none := Option.some_ne_none ()
    exact ⟨_, _, ⟨rfl, rfl⟩, (), _, hbus.mpr ⟨hbusOk, rfl⟩, (), _,
      (checked_returns rfl).mpr ⟨hdeviceOk, rfl⟩, some (), _,
      (new_returns rfl).mpr (Or.inl ⟨hmacOk, rfl, rfl⟩), some (), _,
      (new_returns rfl).mpr (Or.inl ⟨hphyOk, rfl, rfl⟩), (), _, ⟨⟨hsome, hsome⟩, hinstall, rfl⟩,
      (), _, ⟨hioctl, rfl⟩, some (), _, (new_returns rfl).mpr (Or.inl ⟨hglueOk, rfl, rfl⟩), (), _,
      ⟨⟨hsome, hsome⟩, hattach, rfl⟩, (checked_returns rfl).mpr ⟨hstartOk, rfl⟩⟩

/-! ## The whole -/

def startCalls : List IdfCall :=
  netifCalls ++
    [.espEventHandlerRegister ethRegistration, .espEventHandlerRegister ethGotIpRegistration] ++
    driverCalls

/-- The state a successful start leaves. -/
def started (s : FwState) : FwState :=
  { s with
    defaultLoop := true
    registrations := register ethGotIpRegistration (register ethRegistration s.registrations)
    held := Held.one }

theorem startConnectEthernet_returns {platform : Platform} {o : Outcomes} {s t : FwState}
    {a : Unit} (hs : s.held = Held.none) :
    ((startConnectEthernet platform o).run s).final? = some (a, t) ↔
      LoopPassed platform o s ∧ (∀ c ∈ startCalls, o c = espOk) ∧ t = started s := by
  have hnetifs : s.held.netifs = 0 := by rw [hs]; rfl
  have hregister : ∀ {u v : FwState} {r : Registration} {b : Unit},
      ((espErrorCheck (.espEventHandlerRegister r) (espEventHandlerRegister o r)).run u).final? =
        some (b, v) ↔ o (.espEventHandlerRegister r) = espOk ∧
          v = { u with registrations := register r u.registrations } :=
    checked_returns rfl
  have hbuses : ({ s.held with netifs := 1 } : Held).spiBuses = 0 := by rw [hs]; rfl
  have hdriven : ({ s.held with netifs := 1 } : Held).driven = Held.one := by rw [hs]; rfl
  simp only [startConnectEthernet, bind_returns, startNetif_returns hnetifs, hregister]
  constructor
  · intro h
    obtain ⟨_, _, ⟨hloop, hnetif, rfl, rfl⟩, _, _, ⟨heth, rfl⟩, _, _, ⟨hgotIp, rfl⟩, hdriver⟩ := h
    obtain ⟨hcalls, rfl⟩ := (startDriver_returns (by exact hbuses)).mp hdriver
    refine ⟨hloop, ?_, ?_⟩
    · intro c hc
      simp only [startCalls, List.mem_append, List.mem_cons, List.not_mem_nil, or_false] at hc
      rcases hc with (hc | rfl | rfl) | hc
      · exact hnetif c hc
      · exact heth
      · exact hgotIp
      · exact hcalls c hc
    · rw [started, ← hdriven]
  · intro h
    obtain ⟨hloop, hcalls, rfl⟩ := h
    simp only [startCalls, List.forall_mem_append, List.forall_mem_cons] at hcalls
    obtain ⟨⟨hnetif, heth, hgotIp, _⟩, hdriver⟩ := hcalls
    refine ⟨_, _, ⟨hloop, hnetif, rfl, rfl⟩, (), _, ⟨heth, rfl⟩, (), _, ⟨hgotIp, rfl⟩, ?_⟩
    refine (startDriver_returns (by exact hbuses)).mpr ⟨hdriver, ?_⟩
    rw [started, ← hdriven]

/-! ## `app_main` -/

/-- The state `wifi_init` leaves. -/
def wifiStarted (o : Outcomes) : FwState :=
  { FwState.boot with
    defaultLoop := decide (o .espEventLoopCreateDefault = espOk)
    registrations := [wifiRegistration, ipRegistration] }

/-- `wifi_init` gets past its two checks. -/
def WifiReturns (o : Outcomes) : Prop :=
  o (.espEventHandlerRegister wifiRegistration) = espOk ∧
    o (.espEventHandlerRegister ipRegistration) = espOk

theorem wifiInit_returns {platform : Platform} {o : Outcomes} {t : FwState} {a : Unit} :
    ((wifiInit platform o).run FwState.boot).final? = some (a, t) ↔
      WifiReturns o ∧ t = wifiStarted o := by
  have hloop : ((espEventLoopCreateDefault platform o).run FwState.boot).final? =
      some (o .espEventLoopCreateDefault, { FwState.boot with
        defaultLoop := decide (o .espEventLoopCreateDefault = espOk) }) := by
    rw [espEventLoopCreateDefault, call_final?]
    by_cases hok : o .espEventLoopCreateDefault = espOk
    · simp [hok, FwState.boot]
    · simp [hok, FwState.boot]
  have hregister : ∀ {u v : FwState} {r : Registration} {b : Unit},
      ((espErrorCheck (.espEventHandlerRegister r) (espEventHandlerRegister o r)).run u).final? =
        some (b, v) ↔ o (.espEventHandlerRegister r) = espOk ∧
          v = { u with registrations := register r u.registrations } :=
    checked_returns rfl
  simp only [wifiInit, bind_returns, hloop, hregister, plain_returns, WifiReturns]
  constructor
  · intro h
    obtain ⟨_, _, hcreate, _, _, ⟨hwifi, rfl⟩, _, _, ⟨hip, rfl⟩, _, _, ⟨_, rfl⟩, _, _, ⟨_, rfl⟩,
      _, _, ⟨_, rfl⟩, _, _, ⟨_, rfl⟩, _, _, ⟨_, rfl⟩, _, _, ⟨_, rfl⟩, hpure⟩ := h
    cases hcreate
    cases hpure
    exact ⟨⟨hwifi, hip⟩, rfl⟩
  · intro h
    obtain ⟨⟨hwifi, hip⟩, rfl⟩ := h
    exact ⟨_, _, rfl, (), _, ⟨hwifi, rfl⟩, (), _, ⟨hip, rfl⟩, _, _, ⟨rfl, rfl⟩, _, _, ⟨rfl, rfl⟩,
      _, _, ⟨rfl, rfl⟩, _, _, ⟨rfl, rfl⟩, _, _, ⟨rfl, rfl⟩, _, _, ⟨rfl, rfl⟩, rfl⟩

/-- The MQTT client took the handler. -/
def MqttRegisters (o : Outcomes) : Bool := o .espMqttClientRegisterEvent = espOk

theorem mqttAppStart_final? (o : Outcomes) (s : FwState) :
    ((mqttAppStart o).run s).final? = some ((), { s with
      registrations :=
        s.registrations ++ if MqttRegisters o then [mqttRegistration] else [] }) := by
  have hplain : ∀ (c : IdfCall) (u : FwState), ((callPlain o c).run u).final? = some (o c, u) := by
    intro c u
    rw [callPlain_run]
    rfl
  simp only [mqttAppStart, bind_final?, hplain, call_final?, Option.bind_some]
  by_cases hok : o .espMqttClientRegisterEvent = espOk
  · simp only [if_pos hok, MqttRegisters, decide_eq_true hok, if_true]
    rfl
  · simp only [if_neg hok, MqttRegisters, decide_eq_false hok, Bool.false_eq_true, if_false,
      List.append_nil]
    rfl

/-- The state in which `app_main` calls `start_connect_ethernet`. -/
def beforeEthernet (o : BootOutcomes) : FwState :=
  { wifiStarted o.wifi with
    registrations := [wifiRegistration, ipRegistration] ++
      if MqttRegisters o.mqtt then [mqttRegistration] else [] }

/-- `app_main` gets through. -/
def BootReturns (platform : Platform) (o : BootOutcomes) : Prop :=
  WifiReturns o.wifi ∧ LoopPassed platform o.ethernet (beforeEthernet o) ∧
    ∀ c ∈ startCalls, o.ethernet c = espOk

theorem started_beforeEthernet_registrations (o : BootOutcomes) :
    (started (beforeEthernet o)).registrations = registered (MqttRegisters o.mqtt) := by
  have hregister : ∀ mqtt : Bool, register ethGotIpRegistration (register ethRegistration
      ([wifiRegistration, ipRegistration] ++ if mqtt then [mqttRegistration] else [])) =
        registered mqtt := by decide
  exact hregister (MqttRegisters o.mqtt)

theorem appMain_returns {platform : Platform} {o : BootOutcomes} {t : FwState} {created : Bool} :
    ((appMain platform o).run FwState.boot).final? = some (created, t) ↔
      BootReturns platform o ∧ created = decide (o.main .xTaskCreate = espOk) ∧
        t = started (beforeEthernet o) := by
  have hheld : (beforeEthernet o).held = Held.none := rfl
  have hmqtt : ∀ {u : FwState} {b : Unit},
      ((mqttAppStart o.mqtt).run (wifiStarted o.wifi)).final? = some (b, u) ↔
        u = beforeEthernet o := by
    intro u b
    rw [mqttAppStart_final?]
    show some ((), beforeEthernet o) = some (b, u) ↔ u = beforeEthernet o
    simp [eq_comm]
  simp only [appMain, bind_returns, plain_returns, BootReturns]
  constructor
  · intro h
    obtain ⟨_, _, ⟨_, rfl⟩, _, _, hwifi, _, _, hmqtt', _, _, hstart, _, _, ⟨rfl, rfl⟩, hpure⟩ := h
    obtain ⟨hwifiOk, rfl⟩ := wifiInit_returns.mp hwifi
    rw [hmqtt.mp hmqtt'] at hstart
    obtain ⟨hloop, hcalls, rfl⟩ := (startConnectEthernet_returns hheld).mp hstart
    cases hpure
    exact ⟨⟨hwifiOk, hloop, hcalls⟩, rfl, rfl⟩
  · intro h
    obtain ⟨⟨hwifiOk, hloop, hcalls⟩, rfl, rfl⟩ := h
    exact ⟨_, _, ⟨rfl, rfl⟩, (), _, wifiInit_returns.mpr ⟨hwifiOk, rfl⟩, (), _, hmqtt.mpr rfl,
      (), _, (startConnectEthernet_returns hheld).mpr ⟨hloop, hcalls, rfl⟩, _, _, ⟨rfl, rfl⟩, rfl⟩

end Network
end OpcuaGateway
