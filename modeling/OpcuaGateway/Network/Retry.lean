/-
How often the Wi-Fi side tries to connect again.

An outage is a maximal stretch of events from a disconnect on in which no connect comes.
The handler counts the disconnects of the whole run in `retry_cnt` and compares that to
`MAX_RETRY`, so what an outage gets depends on the ones before it.
-/
import Mathlib.Data.List.DropRight
import OpcuaGateway.Network.Isolation
import OpcuaGateway.Numeric.Counter

namespace OpcuaGateway
namespace Network

open Effect Effect.Action Idf Text Numeric

/-! ## Runs and outages -/

def FwInput.isDrop (input : FwInput) : Bool :=
  input.base = .wifiEvent && input.id = wifiEventStaDisconnected

def FwInput.isUp (input : FwInput) : Bool :=
  input.base = .wifiEvent && input.id = wifiEventStaConnected

def drops (inputs : List FwInput) : Nat := inputs.countP FwInput.isDrop

/-- Wi-Fi and IP events delivered to the application, from a start at which no disconnect
has been counted. -/
structure WifiRun where
  platform : Platform
  mqtt : Bool
  start : FwState
  inputs : List FwInput
  registered : start.registrations = registered mqtt
  uncounted : start.retryCnt = 0
  wifiOrIp : ∀ input ∈ inputs, input.base = .wifiEvent ∨ input.base = .ipEvent

/-- An outage of a run: it begins with a disconnect, no connect is in it, and it goes as
far in both directions as that allows. -/
structure Outage (inputs : List FwInput) where
  before : List FwInput
  during : List FwInput
  after : List FwInput
  whole : before ++ (during ++ after) = inputs
  begins : (during.head?.any FwInput.isDrop) = true
  unconnected : ∀ input ∈ during, input.isUp = false
  firstDrop : ∀ input ∈ before.rtakeWhile (fun x => !x.isUp), input.isDrop = false
  lastEvent : after.head?.all FwInput.isUp = true

/-- The connection attempts made in handling the disconnects among some events. -/
def retries (platform : Platform) : FwState → List FwInput → Nat
  | _, [] => 0
  | s, input :: rest =>
    (if input.isDrop then connects ((deliver platform input).run s).log else 0) +
      match ((deliver platform input).run s).final? with
      | some (_, t) => retries platform t rest
      | none => 0

/-- The outage gets its whole budget and no more. -/
def Budgeted (run : WifiRun) (outage : Outage run.inputs) : Prop :=
  ∃ t, ((deliverAll run.platform outage.before).run run.start).final? = some ((), t) ∧
    retries run.platform t outage.during = min (drops outage.during) maxRetry.toInt.toNat

/-! ## The counter -/

/-- The state after `count` disconnects, in a run with the handlers registered. -/
structure Counted (mqtt : Bool) (count : Nat) (s : FwState) : Prop where
  registered : s.registrations = registered mqtt
  retryCnt : s.retryCnt = Int32.ofNat count

theorem lt_maxRetry_iff (count : Nat) : Int32.ofNat count < maxRetry ↔ Below 10 count :=
  ofNat_lt_iff (by decide) count

theorem not_eth_of_wifiOrIp {input : FwInput}
    (h : input.base = .wifiEvent ∨ input.base = .ipEvent) : input.base ≠ .ethEvent := by
  rcases h with h | h <;> rw [h] <;> decide

theorem quiet_of_wifiOrIp {input : FwInput}
    (h : input.base = .wifiEvent ∨ input.base = .ipEvent) : input.Quiet := by
  intro hmqtt
  rcases h with h | h <;> rw [hmqtt] at h <;> cases h

theorem wifiStep_drop {input : FwInput} (h : input.isDrop = true) (w : WifiSide) :
    wifiStep w input =
      { connects := if w.retryCnt < maxRetry then w.connects + 1 else w.connects
        wifiConnected := 0
        retryCnt := w.retryCnt + 1 } := by
  obtain ⟨hbase, hid⟩ := (Bool.and_eq_true_iff.mp h)
  rw [wifiStep, if_pos (of_decide_eq_true hbase), of_decide_eq_true hid]
  rfl

theorem wifiStep_retryCnt {input : FwInput} (h : input.isDrop = false) (w : WifiSide) :
    (wifiStep w input).retryCnt = w.retryCnt := by
  by_cases hbase : input.base = .wifiEvent
  · have hdrop : input.id ≠ wifiEventStaDisconnected := by
      intro hid
      rw [FwInput.isDrop, hbase, hid] at h
      cases h
    rw [wifiStep, if_pos hbase]
    simp only [hdrop, if_false]
    split_ifs <;> rfl
  · rw [wifiStep_of_ne_wifi hbase]

/-- What one event comes to: it is handled, a disconnect is counted, and it gets an
attempt while the counter is below the limit. -/
theorem deliver_counted (platform : Platform) {input : FwInput} {s : FwState} {mqtt : Bool}
    {count : Nat} (hcounted : Counted mqtt count s)
    (hbase : input.base = .wifiEvent ∨ input.base = .ipEvent) :
    ∃ l t, (deliver platform input).run s = { log := l, exit := .ok ((), t) } ∧
      Counted mqtt (if input.isDrop then count + 1 else count) t ∧
      (input.isDrop = true → connects l = if Below 10 count then 1 else 0) := by
  obtain ⟨l, t, hrun, hregistered, hside⟩ := deliver_quiet platform hcounted.registered
    (not_eth_of_wifiOrIp hbase) (quiet_of_wifiOrIp hbase)
  have hstep := hside 0
  rw [Nat.zero_add] at hstep
  have hretry : t.retryCnt = (wifiStep (s.wifiSide 0) input).retryCnt :=
    congrArg WifiSide.retryCnt hstep
  refine ⟨l, t, hrun, ⟨hregistered, ?_⟩, ?_⟩
  · cases hdrop : input.isDrop with
    | true =>
      rw [hretry, wifiStep_drop hdrop, if_pos rfl, Int32.ofNat_add]
      exact congrArg (· + 1) hcounted.retryCnt
    | false =>
      rw [hretry, wifiStep_retryCnt hdrop, if_neg Bool.false_ne_true]
      exact hcounted.retryCnt
  · intro hdrop
    have hconnects := congrArg WifiSide.connects hstep
    rw [wifiStep_drop hdrop] at hconnects
    show (t.wifiSide (connects l)).connects = _
    rw [hconnects]
    show (if s.retryCnt < maxRetry then 0 + 1 else 0) = _
    rw [hcounted.retryCnt]
    exact if_congr (lt_maxRetry_iff count) rfl rfl

/-! ## Runs -/

theorem drops_cons (input : FwInput) (rest : List FwInput) :
    drops (input :: rest) = drops rest + if input.isDrop then 1 else 0 := List.countP_cons

theorem deliverAll_counted (platform : Platform) {inputs : List FwInput} {s : FwState}
    {mqtt : Bool} {count : Nat} (hcounted : Counted mqtt count s)
    (hbase : ∀ input ∈ inputs, input.base = .wifiEvent ∨ input.base = .ipEvent) :
    ∃ t, ((deliverAll platform inputs).run s).final? = some ((), t) ∧
      Counted mqtt (count + drops inputs) t := by
  induction inputs generalizing s count with
  | nil => exact ⟨s, rfl, hcounted⟩
  | cons input rest ih =>
    obtain ⟨l, t, hrun, hnext, -⟩ :=
      deliver_counted platform hcounted (hbase input List.mem_cons_self)
    obtain ⟨u, hrest, hlast⟩ := ih hnext fun x hx => hbase x (List.mem_cons_of_mem input hx)
    refine ⟨u, ?_, ?_⟩
    · rw [deliverAll, forEach_cons, bind_of_ok hrun, Run.final?_after]
      exact hrest
    · rw [drops_cons]
      split_ifs at hlast ⊢
      · rwa [Nat.add_comm (drops rest), ← Nat.add_assoc]
      · exact hlast

/-- The attempts are what the counter grants, a step being a disconnect. -/
theorem retries_eq (platform : Platform) {inputs : List FwInput} {s : FwState} {mqtt : Bool}
    {count : Nat} (hcounted : Counted mqtt count s)
    (hbase : ∀ input ∈ inputs, input.base = .wifiEvent ∨ input.base = .ipEvent) :
    retries platform s inputs = granted 10 count (drops inputs) := by
  induction inputs generalizing s count with
  | nil => exact (granted_zero count).symm
  | cons input rest ih =>
    obtain ⟨l, t, hrun, hnext, hattempt⟩ :=
      deliver_counted platform hcounted (hbase input List.mem_cons_self)
    have hrest := ih hnext fun x hx => hbase x (List.mem_cons_of_mem input hx)
    have hretries : retries platform s (input :: rest) =
        (if input.isDrop then connects l else 0) + retries platform t rest := by
      simp only [retries, hrun]
      rfl
    rw [hretries, hrest, drops_cons]
    cases hdrop : input.isDrop with
    | true =>
      rw [if_pos rfl, if_pos rfl, if_pos rfl, granted_succ, hattempt hdrop]
    | false =>
      rw [if_neg Bool.false_ne_true, if_neg Bool.false_ne_true, if_neg Bool.false_ne_true]
      exact Nat.zero_add _

/-! ## Budgets -/

theorem Outage.drops_pos {inputs : List FwInput} (outage : Outage inputs) :
    0 < drops outage.during := by
  have hbegins := outage.begins
  cases hfirst : outage.during.head? with
  | none =>
    rw [hfirst] at hbegins
    cases hbegins
  | some first =>
    rw [hfirst] at hbegins
    exact List.countP_pos_iff.mpr ⟨first, List.mem_of_mem_head? hfirst, hbegins⟩

/-- The attempts of an outage are what the counter grants where the disconnects before it
have left it. -/
theorem outage_retries (run : WifiRun) (outage : Outage run.inputs) :
    ∃ t, ((deliverAll run.platform outage.before).run run.start).final? = some ((), t) ∧
      retries run.platform t outage.during =
        granted 10 (drops outage.before) (drops outage.during) := by
  have hmem : ∀ input ∈ outage.before ++ (outage.during ++ outage.after),
      input.base = .wifiEvent ∨ input.base = .ipEvent := by
    rw [outage.whole]
    exact run.wifiOrIp
  have hstart : Counted run.mqtt 0 run.start := ⟨run.registered, run.uncounted⟩
  obtain ⟨t, hbefore, hcounted⟩ := deliverAll_counted run.platform hstart fun input hinput =>
    hmem input (List.mem_append_left _ hinput)
  rw [Nat.zero_add] at hcounted
  refine ⟨t, hbefore, retries_eq run.platform hcounted fun input hinput => ?_⟩
  exact hmem input (List.mem_append_right outage.before (List.mem_append_left outage.after hinput))

theorem budgeted_iff_granted (run : WifiRun) (outage : Outage run.inputs) :
    Budgeted run outage ↔
      granted 10 (drops outage.before) (drops outage.during) = min (drops outage.during) 10 := by
  obtain ⟨t, hbefore, hretries⟩ := outage_retries run outage
  rw [← hretries]
  constructor
  · rintro ⟨t', hfinal, hbudget⟩
    rw [hbefore] at hfinal
    cases hfinal
    exact hbudget
  · exact fun hbudget => ⟨t, hbefore, hbudget⟩

/-- An outage gets its budget exactly if the disconnects before it have left the counter
where the ones in it find as much as that. -/
theorem budgeted_iff (run : WifiRun) (outage : Outage run.inputs) :
    Budgeted run outage ↔ OneBudget 10 (drops outage.before) (drops outage.during) := by
  rw [budgeted_iff_granted, granted_eq_min_iff (by decide) (by decide) _ outage.drops_pos]

def wifiInput (id : Int32) : FwInput :=
  { base := .wifiEvent, id := id, mqtt := { topic := [], data := [] }, outcomes := fun _ => espOk }

def drop : FwInput := wifiInput wifiEventStaDisconnected

def up : FwInput := wifiInput wifiEventStaConnected

/-- The application with all its handlers, before any event. -/
def listening : FwState := { FwState.boot with registrations := registered true }

/-- The station is dropped and connects again, and then the access point goes away. -/
def secondRun : WifiRun where
  platform := idf43
  mqtt := true
  start := listening
  inputs := [drop, up] ++ List.replicate 10 drop
  registered := rfl
  uncounted := rfl
  wifiOrIp := by decide

def secondOutage : Outage secondRun.inputs where
  before := [drop, up]
  during := List.replicate 10 drop
  after := []
  whole := rfl
  begins := rfl
  unconnected := by decide
  firstDrop := by decide
  lastEvent := rfl

/-- It tries nine times then. -/
theorem secondOutage_short :
    granted 10 (drops secondOutage.before) (drops secondOutage.during) = 9 ∧
      ¬ ∀ (run : WifiRun) (outage : Outage run.inputs), Budgeted run outage := by
  refine ⟨by decide, ?_⟩
  intro h
  have hbudget := (budgeted_iff_granted secondRun secondOutage).mp (h secondRun secondOutage)
  revert hbudget
  decide

end Network
end OpcuaGateway
