import OpcuaGateway.Effect.Monitor
import OpcuaGateway.Network.StartUp

namespace OpcuaGateway
namespace Network

open Effect Effect.Action Idf Text

/-! ## The law -/

/-- A check of creating the default loop while it exists. -/
def loopClash : FwEvent := .checked .espEventLoopCreateDefault true

/-- The default loop is never created under `ESP_ERROR_CHECK` when it exists. -/
def clashFree : LogProperty FwEvent where
  holds l := loopClash ∉ l
  nil := List.not_mem_nil
  append hl hr h := (List.mem_append.mp h).elim hl hr

theorem clashFree_append (l l' : List FwEvent) :
    clashFree.holds (l ++ l') ↔ clashFree.holds l ∧ clashFree.holds l' := by
  show loopClash ∉ l ++ l' ↔ loopClash ∉ l ∧ loopClash ∉ l'
  rw [List.mem_append, not_or]

theorem logs_call (o : Outcomes) (c : IdfCall) (refused : FwState → Option EspErr)
    (effect : FwState → FwState) : Logs (call o c refused effect) clashFree :=
  (logs_emit (by simp [clashFree, loopClash])).bind fun _ => logs_update clashFree _

theorem logs_callPlain (o : Outcomes) (c : IdfCall) : Logs (callPlain o c) clashFree :=
  logs_call o c _ _

theorem logs_fail {α : Type} (fault : FwFault) : Logs (fail fault : FwM α) clashFree :=
  fun _ => clashFree.nil

/-- Only the check of the default loop can clash. -/
theorem logs_check {c : IdfCall} (hc : c ≠ .espEventLoopCreateDefault) {m : FwM EspErr}
    (hm : Logs m clashFree) : Logs (espErrorCheck c m) clashFree := by
  have hcurrent : Logs (current : FwM FwState) clashFree := fun _ => clashFree.nil
  refine hcurrent.bind fun s => (logs_emit ?_).bind fun _ => hm.bind fun err => ?_
  · simp [clashFree, loopClash, hc.symm]
  · split_ifs
    · exact logs_pure clashFree ()
    · exact logs_fail _

theorem logs_new (o : Outcomes) (c : IdfCall) (refused : FwState → Option EspErr)
    (effect : FwState → FwState) :
    Logs (call o c refused effect >>= fun err => pure (handle err)) clashFree :=
  (logs_call o c refused effect).bind fun _ => logs_pure clashFree _

theorem startDriver_clashFree (o : Outcomes) (ethNetif : Handle) :
    Logs (startDriver o ethNetif) clashFree := by
  refine (logs_callPlain o _).bind fun _ => ?_
  refine (logs_check (by decide) (logs_call o _ _ _)).bind fun _ => ?_
  refine (logs_check (by decide) (logs_call o _ _ _)).bind fun _ => ?_
  refine (logs_new o _ _ _).bind fun mac => (logs_new o _ _ _).bind fun phy => ?_
  refine (logs_check (by decide) (logs_call o _ _ _)).bind fun _ => ?_
  refine (logs_check (by decide) (logs_callPlain o _)).bind fun _ => ?_
  refine (logs_new o _ _ _).bind fun glue => ?_
  refine (logs_check (by decide) (logs_call o _ _ _)).bind fun _ => ?_
  exact logs_check (by decide) (logs_call o _ _ _)

/-! ## `start_connect_ethernet` -/

theorem checkedPlain_run (o : Outcomes) (c : IdfCall) (s : FwState) :
    (espErrorCheck c (callPlain o c)).run s =
      { log := [.checked c s.defaultLoop, .called c]
        exit := if o c = espOk then .ok ((), s) else .error (.abort c (o c)) } := by
  rw [espErrorCheck_run, bind_of_ok (callPlain_run o c s)]
  by_cases hok : o c = espOk
  · rw [if_pos hok, if_pos hok]
    rfl
  · rw [if_neg hok, if_neg hok]
    rfl

theorem checkedLoop_log (platform : Platform) (o : Outcomes) (s : FwState) :
    ((espErrorCheck .espEventLoopCreateDefault (espEventLoopCreateDefault platform o)).run s).log =
      [.checked .espEventLoopCreateDefault s.defaultLoop, .called .espEventLoopCreateDefault] := by
  have hquiet : ∀ (err : EspErr) (t : FwState),
      ((if err = espOk then pure () else fail (.abort .espEventLoopCreateDefault err) :
        FwM Unit).run t).log = [] := by
    intro err t
    split_ifs <;> rfl
  have hcall : ∃ err t, (espEventLoopCreateDefault platform o).run s =
      { log := [.called .espEventLoopCreateDefault], exit := .ok (err, t) } := ⟨_, _, rfl⟩
  obtain ⟨err, t, hrun⟩ := hcall
  rw [espErrorCheck_run, bind_of_ok hrun, Run.after_log, Run.after_log, hquiet]
  rfl

theorem startNetif_clash (platform : Platform) (o : Outcomes) (s : FwState) :
    clashFree.holds ((startNetif platform o).run s).log ↔
      ¬ (o .espNetifInit = espOk ∧ s.defaultLoop = true) := by
  have hinit := checkedPlain_run o .espNetifInit s
  by_cases hok : o .espNetifInit = espOk
  · rw [if_pos hok] at hinit
    have hrest : ∀ a : Unit, Logs (do
        let ethNetif ← espNetifNew o
        espErrorCheck .espEthSetDefaultHandlers (espEthSetDefaultHandlers o ethNetif)
        let _ ← callPlain o .espNetifDhcpcStop
        let _ ← callPlain o .espNetifSetIpInfo
        pure ethNetif) clashFree := by
      intro _
      refine (logs_new o _ _ _).bind fun ethNetif => ?_
      refine (logs_check (by decide) (logs_call o _ _ _)).bind fun _ => ?_
      refine (logs_callPlain o _).bind fun _ => (logs_callPlain o _).bind fun _ => ?_
      exact logs_pure clashFree _
    obtain ⟨l, hlog, hl⟩ := Logs.bind_log hrest
      (espErrorCheck .espEventLoopCreateDefault (espEventLoopCreateDefault platform o)) s
    rw [startNetif, bind_of_ok hinit, Run.after_log, hlog, checkedLoop_log, clashFree_append,
      clashFree_append, and_iff_left hl]
    cases s.defaultLoop with
    | true => simp [clashFree, loopClash, hok]
    | false => simp [clashFree, loopClash]
  · rw [if_neg hok] at hinit
    rw [startNetif, bind_of_error hinit]
    simp [clashFree, loopClash, hok]

/-- A start clashes exactly when it gets past `esp_netif_init` with the loop there. -/
theorem startConnectEthernet_clash (platform : Platform) (o : Outcomes) (s : FwState) :
    clashFree.holds ((startConnectEthernet platform o).run s).log ↔
      ¬ (o .espNetifInit = espOk ∧ s.defaultLoop = true) := by
  have hrest : ∀ ethNetif : Handle, Logs (do
      espErrorCheck (.espEventHandlerRegister ethRegistration)
        (espEventHandlerRegister o ethRegistration)
      espErrorCheck (.espEventHandlerRegister ethGotIpRegistration)
        (espEventHandlerRegister o ethGotIpRegistration)
      startDriver o ethNetif) clashFree := by
    intro ethNetif
    refine (logs_check (by decide) (logs_call o _ _ _)).bind fun _ => ?_
    refine (logs_check (by decide) (logs_call o _ _ _)).bind fun _ => ?_
    exact startDriver_clashFree o ethNetif
  obtain ⟨l, hlog, hl⟩ := Logs.bind_log hrest (startNetif platform o) s
  rw [startConnectEthernet, hlog, clashFree_append, and_iff_left hl, startNetif_clash]

/-! ## The start-up -/

theorem wifiInit_clashFree (platform : Platform) (o : Outcomes) :
    Logs (wifiInit platform o) clashFree := by
  refine (logs_call o _ _ _).bind fun _ => ?_
  refine (logs_check (by decide) (logs_call o _ _ _)).bind fun _ => ?_
  refine (logs_check (by decide) (logs_call o _ _ _)).bind fun _ => ?_
  iterate 6 refine (logs_callPlain o _).bind fun _ => ?_
  exact logs_pure clashFree ()

theorem mqttAppStart_clashFree (o : Outcomes) : Logs (mqttAppStart o) clashFree := by
  refine (logs_callPlain o _).bind fun _ => (logs_call o _ _ _).bind fun _ => ?_
  exact (logs_callPlain o _).bind fun _ => logs_pure clashFree ()

/-- The start-up reaches `start_connect_ethernet` and creates the loop there again. -/
def BootClash (o : BootOutcomes) : Prop :=
  WifiReturns o.wifi ∧ o.ethernet .espNetifInit = espOk ∧
    o.wifi .espEventLoopCreateDefault = espOk

theorem appMain_clash (platform : Platform) (o : BootOutcomes) :
    clashFree.holds ((appMain platform o).run FwState.boot).log ↔ ¬ BootClash o := by
  have hnvs : (callPlain o.main .nvsFlashInit).run FwState.boot =
      { log := [.called .nvsFlashInit], exit := .ok (o.main .nvsFlashInit, FwState.boot) } :=
    callPlain_run _ _ _
  have hfirst : clashFree.holds [.called .nvsFlashInit] := by simp [clashFree, loopClash]
  have hwifi := wifiInit_clashFree platform o.wifi FwState.boot
  have hmqtt := mqttAppStart_clashFree o.mqtt (wifiStarted o.wifi)
  have hstart := startConnectEthernet_clash platform o.ethernet (beforeEthernet o)
  have hcreate : ∀ a : Unit, Logs (do
      let err ← callPlain o.main .xTaskCreate
      pure (decide (err = espOk))) clashFree :=
    fun _ => (logs_callPlain o.main _).bind fun _ => logs_pure clashFree _
  obtain ⟨l, hlog, hl⟩ := Logs.bind_log hcreate (startConnectEthernet platform o.ethernet)
    (beforeEthernet o)
  rw [appMain, bind_of_ok hnvs, Run.after_log, clashFree_append, and_iff_right hfirst, bind_log,
    clashFree_append, and_iff_right hwifi]
  by_cases hreturns : WifiReturns o.wifi
  · have hfinal : ((wifiInit platform o.wifi).run FwState.boot).final? =
        some ((), wifiStarted o.wifi) := wifiInit_returns.mpr ⟨hreturns, rfl⟩
    rw [hfinal]
    show clashFree.holds (Action.run (mqttAppStart o.mqtt >>= _) (wifiStarted o.wifi)).log ↔ _
    rw [bind_log, clashFree_append, and_iff_right hmqtt, mqttAppStart_final?]
    show clashFree.holds (Action.run (startConnectEthernet platform o.ethernet >>= _)
      (beforeEthernet o)).log ↔ _
    rw [hlog, clashFree_append, and_iff_left hl, hstart, BootClash, and_iff_right hreturns]
    show ¬ (_ ∧ decide (o.wifi .espEventLoopCreateDefault = espOk) = true) ↔ _
    rw [decide_eq_true_iff]
  · have hnone : ((wifiInit platform o.wifi).run FwState.boot).final? = none := by
      apply Run.final?_eq_none
      intro a t hsome
      exact hreturns (wifiInit_returns.mp hsome).1
    rw [hnone]
    exact iff_of_true clashFree.nil fun h => hreturns h.1

/-! ## Events -/

/-- An event on which `eth_event_handler` starts the interface again. -/
def FwInput.LinkDown (input : FwInput) : Prop :=
  input.base = .ethEvent ∧ input.id = ethernetEventDisconnected

def FwInput.Overruns (input : FwInput) : Prop :=
  input.base = .mqttEvent ∧ input.id = mqttEventData ∧ ¬ input.mqtt.Fits

/-- The state in which the firmware waits for events. -/
structure Running (mqtt : Bool) (s : FwState) : Prop where
  loop : s.defaultLoop = true
  handlers : s.registrations = registered mqtt

theorem wifiHandled_running {mqtt : Bool} {s : FwState} (h : Running mqtt s) (id : Int32) :
    Running mqtt (wifiHandled s id) := by
  unfold wifiHandled
  split_ifs
  · exact h
  · exact ⟨h.loop, h.handlers⟩
  · exact ⟨h.loop, h.handlers⟩
  · exact h

theorem wifiCalls_clashFree (s : FwState) (id : Int32) : clashFree.holds (wifiCalls s id) := by
  unfold wifiCalls
  split_ifs <;> simp [clashFree, loopClash]

theorem mqttCalls_clashFree (id : Int32) : clashFree.holds (mqttCalls id) := by
  unfold mqttCalls
  split_ifs <;> simp [clashFree, loopClash]

theorem wifiEventHandler_deliver {mqtt : Bool} {s : FwState} (h : Running mqtt s)
    (platform : Platform) {input : FwInput}
    (hhandlers : handlersFor s input = [.wifiEventHandler]) :
    ∃ l t, (deliver platform input).run s = { log := l, exit := .ok ((), t) } ∧
      clashFree.holds l ∧ Running mqtt t := by
  exact ⟨wifiCalls s input.id, wifiHandled s input.id, deliver_wifi hhandlers,
    wifiCalls_clashFree s input.id, wifiHandled_running h input.id⟩

/-- Any other event is handled without a clash, and the firmware goes on waiting. -/
theorem deliver_steady {mqtt : Bool} {s : FwState} (h : Running mqtt s) (platform : Platform)
    {input : FwInput} (hdown : ¬ input.LinkDown) (hfits : ¬ (mqtt = true ∧ input.Overruns)) :
    ∃ l t, (deliver platform input).run s = { log := l, exit := .ok ((), t) } ∧
      clashFree.holds l ∧ Running mqtt t := by
  cases hbase : input.base with
  | wifiEvent => exact wifiEventHandler_deliver h platform (handlersFor_wifi h.handlers hbase)
  | ipEvent =>
    have hhandlers := handlersFor_ip h.handlers hbase
    split_ifs at hhandlers
    · exact wifiEventHandler_deliver h platform hhandlers
    · refine ⟨[], s, ?_, clashFree.nil, h⟩
      rw [deliver_of_handler hhandlers]
      rfl
    · exact ⟨[], s, deliver_unheard hhandlers, clashFree.nil, h⟩
  | ethEvent =>
    have hid : input.id ≠ ethernetEventDisconnected := fun hid => hdown ⟨hbase, hid⟩
    by_cases hup : input.id = ethernetEventConnected
    · refine ⟨[.called .espEthIoctl], { s with ethernetConnected := 1 }, ?_,
        by simp [clashFree, loopClash], ⟨h.loop, h.handlers⟩⟩
      rw [deliver_eth h.handlers hbase, hup]
      exact ethEventHandler_up platform input.outcomes s
    · refine ⟨[], s, ?_, clashFree.nil, h⟩
      rw [deliver_eth h.handlers hbase]
      exact ethEventHandler_other hup hid
  | mqttEvent =>
    cases mqtt with
    | false =>
      have hunheard : handlersFor s input = [] := handlersFor_mqtt h.handlers hbase
      exact ⟨[], s, deliver_unheard hunheard, clashFree.nil, h⟩
    | true =>
      have hlines : input.id = mqttEventData → input.mqtt.Fits := by
        intro hdata
        by_contra hnot
        exact hfits ⟨rfl, hbase, hdata, hnot⟩
      obtain ⟨t, ht⟩ := Option.isSome_iff_exists.mp
        ((mqttHandled_isSome s input.id input.mqtt).mpr hlines)
      obtain ⟨hloop, hregistrations, _⟩ := mqttHandled_frame ht
      refine ⟨mqttCalls input.id, t, ?_, mqttCalls_clashFree input.id,
        ⟨hloop.trans h.loop, hregistrations.trans h.handlers⟩⟩
      rw [deliver_mqtt h.handlers hbase, ht]
      rfl

theorem deliver_overruns {s : FwState} (h : Running true s) (platform : Platform)
    {input : FwInput} (hover : input.Overruns) :
    (deliver platform input).run s = { log := [], exit := .error .bufferOverflow } := by
  obtain ⟨hbase, hdata, hfits⟩ := hover
  have hnone : mqttHandled s input.id input.mqtt = none := by
    rw [← Option.not_isSome_iff_eq_none, mqttHandled_isSome]
    exact fun hlines => hfits (hlines hdata)
  rw [deliver_mqtt h.handlers hbase, hnone, hdata]
  rfl

/-- Where creating the loop again fails, a start does not return once it exists. -/
theorem startConnectEthernet_refused {platform : Platform}
    (hplatform : platform.existingLoop ≠ espOk) (o : Outcomes) {s : FwState}
    (h : s.defaultLoop = true) :
    ((startConnectEthernet platform o).run s).final? = none := by
  apply Run.final?_eq_none
  intro a t hreturns
  simp only [startConnectEthernet, startNetif, bind_returns, checkedPlain_returns,
    checkedLoop_returns] at hreturns
  obtain ⟨_, _, ⟨_, _, ⟨_, rfl⟩, _, _, ⟨hloop, _⟩, _⟩, _⟩ := hreturns
  exact hplatform (hloop.1 h)

theorem deliver_down_run {mqtt : Bool} {s : FwState} (h : Running mqtt s) (platform : Platform)
    {input : FwInput} (hdown : input.LinkDown) :
    (deliver platform input).run s =
      Run.after [.vTaskDelay (1500 / portTickPeriodMs)]
        ((startConnectEthernet platform input.outcomes).run
          { s with ethernetConnected := LinkEvent.down.flag }) := by
  rw [deliver_eth h.handlers hdown.1, hdown.2]
  exact ethEventHandler_down platform input.outcomes s

theorem deliver_down_clash {mqtt : Bool} {s : FwState} (h : Running mqtt s) (platform : Platform)
    {input : FwInput} (hdown : input.LinkDown) :
    clashFree.holds ((deliver platform input).run s).log ↔
      input.outcomes .espNetifInit ≠ espOk := by
  have hdelay : clashFree.holds [.vTaskDelay (1500 / portTickPeriodMs)] := by
    simp [clashFree, loopClash]
  rw [deliver_down_run h platform hdown, Run.after_log, clashFree_append, and_iff_right hdelay,
    startConnectEthernet_clash]
  show ¬ (_ ∧ s.defaultLoop = true) ↔ _
  rw [h.loop, and_iff_left rfl]

/-- The first link-down of the events, if the firmware gets to one, finds
`esp_netif_init` failing. -/
def Spared (mqtt : Bool) : List FwInput → Prop
  | [] => True
  | input :: rest =>
    (input.LinkDown → input.outcomes .espNetifInit ≠ espOk) ∧
      (¬ input.LinkDown → ¬ (mqtt = true ∧ input.Overruns) → Spared mqtt rest)

theorem deliverAll_clash {mqtt : Bool} {s : FwState} (h : Running mqtt s)
    (inputs : List FwInput) :
    clashFree.holds ((deliverAll idf43 inputs).run s).log ↔ Spared mqtt inputs := by
  induction inputs generalizing s with
  | nil => exact iff_of_true clashFree.nil trivial
  | cons input rest ih =>
    rw [deliverAll, forEach_cons, ← deliverAll, bind_log, clashFree_append, Spared]
    by_cases hdown : input.LinkDown
    · have hfinal : ((deliver idf43 input).run s).final? = none := by
        rw [deliver_down_run h idf43 hdown, Run.final?_after]
        exact startConnectEthernet_refused (by decide) input.outcomes h.loop
      rw [deliver_down_clash h idf43 hdown, hfinal]
      exact ⟨fun hsafe => ⟨fun _ => hsafe.1, fun hnot => absurd hdown hnot⟩,
        fun hsafe => ⟨hsafe.1 hdown, clashFree.nil⟩⟩
    · by_cases hover : mqtt = true ∧ input.Overruns
      · obtain ⟨rfl, hover'⟩ := hover
        rw [deliver_overruns h idf43 hover']
        exact iff_of_true ⟨clashFree.nil, clashFree.nil⟩
          ⟨fun hyes => absurd hyes hdown, fun _ hnot => absurd ⟨rfl, hover'⟩ hnot⟩
      · obtain ⟨l, t, hrun, hl, ht⟩ := deliver_steady h idf43 hdown hover
        rw [hrun]
        show clashFree.holds l ∧ clashFree.holds ((deliverAll idf43 rest).run t).log ↔ _
        rw [and_iff_right hl, ih ht]
        exact ⟨fun hrest => ⟨fun hyes => absurd hyes hdown, fun _ _ => hrest⟩,
          fun hrest => hrest.2 hdown hover⟩

/-! ## Whole runs -/

/-- The default loop is created once in a run from `app_main`, on ESP-IDF 4.3, exactly
when the start-up does not get to creating it again and, if it gets through, the first
link-down finds `esp_netif_init` failing. -/
theorem loop_created_once_iff (o : BootOutcomes) (inputs : List FwInput) :
    clashFree.holds ((firmware idf43 o inputs).run FwState.boot).log ↔
      ¬ BootClash o ∧ (BootReturns idf43 o → Spared (MqttRegisters o.mqtt) inputs) := by
  rw [firmware, bind_log, clashFree_append, appMain_clash]
  refine and_congr_right fun _ => ?_
  by_cases hreturns : BootReturns idf43 o
  · have hfinal := appMain_returns.mpr ⟨hreturns, rfl, rfl⟩
    have hrunning : Running (MqttRegisters o.mqtt) (started (beforeEthernet o)) :=
      ⟨rfl, started_beforeEthernet_registrations o⟩
    rw [hfinal]
    show clashFree.holds ((deliverAll idf43 inputs).run (started (beforeEthernet o))).log ↔ _
    rw [deliverAll_clash hrunning]
    exact ⟨fun hspared _ => hspared, fun hspared => hspared hreturns⟩
  · have hnone : ((appMain idf43 o).run FwState.boot).final? = none := by
      apply Run.final?_eq_none
      intro a t hsome
      exact hreturns (appMain_returns.mp hsome).1
    rw [hnone]
    exact iff_of_true clashFree.nil fun hyes => absurd hyes hreturns

theorem smooth_boot_clashes :
    ¬ ∀ (o : BootOutcomes) (inputs : List FwInput),
      clashFree.holds ((firmware idf43 o inputs).run FwState.boot).log := by
  intro h
  let smooth : BootOutcomes :=
    { main := fun _ => espOk, wifi := fun _ => espOk, mqtt := fun _ => espOk,
      ethernet := fun _ => espOk }
  have hlog := h smooth []
  rw [firmware, bind_log, clashFree_append, appMain_clash] at hlog
  exact hlog.1 ⟨⟨rfl, rfl⟩, rfl, rfl⟩

end Network
end OpcuaGateway
