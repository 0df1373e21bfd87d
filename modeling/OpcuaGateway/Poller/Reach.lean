/-
Which iterations a run of the task comes to, and what it logs there.

Whether an iteration is reached depends on the environment alone: the connect, the flag
at each look at the guard, and what the iterations before it met.  The log of the task is
then the logs of the reached iterations in order.
-/
import OpcuaGateway.Poller.Safety

namespace OpcuaGateway
namespace Poller

open Effect Effect.Action Heap Opcua Rtc Text Numeric Idf

instance (env : PassEnv) (i : Nat) : Decidable (Sound env i) :=
  decidable_of_iff _ visit_fault?_eq_none

instance (env : TaskEnv) (k : Nat) : Decidable (Completes env k) :=
  inferInstanceAs (Decidable (_ → ∀ i : Fin 10, Sound (env.pass k) i))

/-- The task comes to node `i` in its `k`-th evaluation of the guard. -/
structure TaskEnv.Reaches (env : TaskEnv) (k i : Nat) : Prop where
  connected : env.connect = uaStatuscodeGood
  returned : ∀ j, j < k → Completes env j
  polled : env.ethernetConnected k = 1
  node : i < 10
  sound : ∀ j, j < i → Sound (env.pass k) j

/-! ## A pass -/

theorem visitRun_final? (env : PassEnv) (i : Nat) (s : TaskState) :
    (visitRun env i s).final? =
      if Sound env i then some ((), visitState env i s (visit env i)) else none := by
  by_cases hsound : Sound env i
  · rw [if_pos hsound, visitRun_of_not_faulted (visit_fault?_eq_none.mpr hsound)]
    rfl
  · rw [if_neg hsound]
    obtain ⟨fault, hfault⟩ := Option.ne_none_iff_exists'.mp (mt visit_fault?_eq_none.mp hsound)
    rw [Run.final?, visitRun_exit_error.mpr hfault]
    rfl

/-- What a pass logs that begins with `t` in `local_time`. -/
def passLog (env : PassEnv) (t : Tm) : List Event :=
  (List.range 10).flatMap fun i =>
    if ∀ j, j < i → Sound env j then visitLog env i (localTimeAt env t i) (visit env i) else []

theorem pollNodes_log (env : PassEnv) (s : TaskState) :
    ((pollNodes env).run s).log = passLog env s.localTime := by
  refine forRange_log_of_goes (passState env s) (Sound env) ?_ ?_
  · intro i hi
    rw [nodeBody_run env hi, ← passState_localTime]
    rfl
  · intro i hi
    rw [nodeBody_run env hi, visitRun_final?]
    rfl

theorem pollNodes_final? (env : PassEnv) (s : TaskState) :
    ((pollNodes env).run s).final? =
      if ∀ i : Nat, i < 10 → Sound env i then some ((), passState env s 10) else none := by
  refine forRange_final?_of_goes (passState env s) (Sound env) ?_
  intro i hi
  rw [nodeBody_run env hi, visitRun_final?]
  rfl

/-! ## The loop -/

/-- The state before the `k`-th evaluation of the guard. -/
def cycleState (env : TaskEnv) (s : TaskState) : Nat → TaskState
  | 0 => s
  | k + 1 =>
    if env.ethernetConnected k = 1 then passState (env.pass k) (cycleState env s k) 10
    else cycleState env s k

/-- The end of a pass. -/
def pauseLog : List Event := [.printf (ascii "\n\n"), .vTaskDelay (500 / portTickPeriodMs)]

def cycleLog (env : TaskEnv) (k : Nat) (t : Tm) : List Event :=
  [.guard (env.ethernetConnected k)] ++
    if env.ethernetConnected k = 1 then
      passLog (env.pass k) t ++ if ∀ i : Nat, i < 10 → Sound (env.pass k) i then pauseLog else []
    else []

theorem completes_iff {env : TaskEnv} {k : Nat} (h : env.ethernetConnected k = 1) :
    Completes env k ↔ ∀ i, i < 10 → Sound (env.pass k) i :=
  ⟨fun hcompletes i hi => hcompletes h ⟨i, hi⟩, fun hsound _ i => hsound i i.isLt⟩

theorem cycle_log (env : TaskEnv) (k : Nat) (s : TaskState) :
    ((cycle env k).run s).log = cycleLog env k s.localTime := by
  unfold cycleLog
  by_cases h : env.ethernetConnected k = 1
  · rw [cycle_run_polling h, Run.after_log, bind_log, pollNodes_log, pollNodes_final?, if_pos h]
    by_cases hsound : ∀ i, i < 10 → Sound (env.pass k) i
    · rw [if_pos hsound, if_pos hsound]
      rfl
    · rw [if_neg hsound, if_neg hsound]
      rfl
  · rw [cycle_run_idle h, if_neg h]
    rfl

theorem cycle_final? (env : TaskEnv) (k : Nat) (s : TaskState) :
    ((cycle env k).run s).final? =
      if Completes env k then
        some ((), if env.ethernetConnected k = 1 then passState (env.pass k) s 10 else s)
      else none := by
  by_cases h : env.ethernetConnected k = 1
  · rw [cycle_run_polling h, Run.final?_after, bind_final?, pollNodes_final?, if_pos h]
    by_cases hsound : ∀ i, i < 10 → Sound (env.pass k) i
    · rw [if_pos hsound, if_pos ((completes_iff h).mpr hsound)]
      rfl
    · rw [if_neg hsound, if_neg (mt (completes_iff h).mp hsound)]
      rfl
  · have hcompletes : Completes env k := fun hguard => absurd hguard h
    rw [cycle_run_idle h, if_pos hcompletes, if_neg h]
    rfl

theorem loop_log (env : TaskEnv) (n : Nat) (s : TaskState) :
    ((forRange (cycle env) n).run s).log =
      (List.range n).flatMap fun k =>
        if ∀ j, j < k → Completes env j then cycleLog env k (cycleState env s k).localTime
        else [] := by
  refine forRange_log_of_goes (cycleState env s) (Completes env) ?_ ?_
  · exact fun k _ => cycle_log env k (cycleState env s k)
  · exact fun k _ => cycle_final? env k (cycleState env s k)

/-! ## The task -/

theorem uaClientConnect_run (status : UaStatusCode) (endpoint : String) {s : TaskState}
    (h : s.client = UaClient.new) :
    (uaClientConnect status endpoint).run s =
      { log := [.connect endpoint status]
        exit := .ok (status, { s with
          client :=
            if status = uaStatuscodeGood then { state := .session } else UaClient.new }) } := by
  rw [uaClientConnect, bind_of_ok (emit_run _ _), update_run, h]
  by_cases hgood : status = uaStatuscodeGood
  · rw [if_pos hgood, hgood]
    rfl
  · simp only [UaClient.connect, if_neg hgood]
    rfl

/-- The state the loop begins in. -/
def TaskState.connected (s : TaskState) : TaskState := { s with client := { state := .session } }

theorem opcuaTask_run (env : TaskEnv) (n : Nat) (s : TaskState) :
    (opcuaTask env n).run s =
      Run.after [.connect "opc.tcp://192.168.1.15:4840" env.connect]
        (if env.connect = uaStatuscodeGood then
          (forRange (cycle env) n >>= fun _ => (pure .looping : TaskM TaskEnd)).run s.connected
        else { log := [], exit := .ok (.returned, { s with client := UaClient.new }) }) := by
  have hnew : (update fun s : TaskState => ((), { s with client := UaClient.new }) : TaskM Unit).run
      s = { log := [], exit := .ok ((), { s with client := UaClient.new }) } := rfl
  rw [opcuaTask, bind_of_ok hnew, bind_of_ok (uaClientConnect_run _ _ rfl)]
  by_cases hgood : env.connect = uaStatuscodeGood
  · rw [if_pos hgood, if_pos hgood, if_pos hgood]
    rfl
  · rw [if_neg hgood, if_neg hgood, if_neg hgood]
    rfl

/-- The task connects first and once, and does nothing more if that fails. -/
theorem opcuaTask_log (env : TaskEnv) (n : Nat) (s : TaskState) :
    ((opcuaTask env n).run s).log =
      [.connect "opc.tcp://192.168.1.15:4840" env.connect] ++
        if env.connect = uaStatuscodeGood then ((forRange (cycle env) n).run s.connected).log
        else [] := by
  rw [opcuaTask_run, Run.after_log]
  by_cases hgood : env.connect = uaStatuscodeGood
  · rw [if_pos hgood, if_pos hgood, bind_log]
    have hlast : (((forRange (cycle env) n).run s.connected).final?.elim [] fun x =>
        ((pure .looping : TaskM TaskEnd).run x.2).log) = [] := by
      cases ((forRange (cycle env) n).run s.connected).final? <;> rfl
    rw [hlast, List.append_nil]
  · rw [if_neg hgood, if_neg hgood]

/-! ## What a monitor rules on the task -/

section Rules

variable {τ : Type} {m : Monitor Event τ}

theorem passLog_rules {env : PassEnv} {P : Nat → Prop}
    (hvisit : ∀ i t, m.Rules (P i) (visitLog env i t (visit env i))) (t : Tm) :
    m.Rules (∀ i, i < 10 → (∀ j, j < i → Sound env j) → P i) (passLog env t) := by
  refine (Monitor.rules_flatMap fun i _ => (hvisit i (localTimeAt env t i)).of_ite).congr ?_
  simp only [List.mem_range]

/-- A monitor that rules on every visit by itself, and has nothing against what the task
logs between them, rules on the iterations the task reaches. -/
theorem opcuaTask_rules {env : TaskEnv} {P : Nat → Nat → Prop}
    (hconnect : ∀ endpoint status, m.Rules True [.connect endpoint status])
    (hguard : ∀ seen, m.Rules True [.guard seen]) (hpause : m.Rules True pauseLog)
    (hvisit : ∀ k i t, m.Rules (P k i) (visitLog (env.pass k) i t (visit (env.pass k) i)))
    (n : Nat) (s : TaskState) :
    m.Rules (∀ k i, k < n → env.Reaches k i → P k i) ((opcuaTask env n).run s).log := by
  have hcycle : ∀ k t, m.Rules
      (env.ethernetConnected k = 1 → ∀ i, i < 10 → (∀ j, j < i → Sound (env.pass k) j) → P k i)
      (cycleLog env k t) := by
    intro k t
    have hpass := (passLog_rules (hvisit k) t).append
      (hpause.of_ite (c := ∀ i : Nat, i < 10 → Sound (env.pass k) i))
    refine ((hguard _).append (hpass.of_ite (c := env.ethernetConnected k = 1))).congr ?_
    simp only [true_and, implies_true, and_true]
  rw [opcuaTask_log, loop_log]
  have hloop := Monitor.rules_flatMap (l := List.range n) fun k _ =>
    (hcycle k (cycleState env s.connected k).localTime).of_ite
      (c := ∀ j : Nat, j < k → Completes env j)
  refine ((hconnect _ _).append (hloop.of_ite (c := env.connect = uaStatuscodeGood))).congr ?_
  simp only [true_and, List.mem_range]
  constructor
  · intro h k i hk hreaches
    exact h hreaches.connected k hk hreaches.returned hreaches.polled i hreaches.node hreaches.sound
  · intro h hgood k hk hreturned hpolled i hi hsound
    exact h k i hk ⟨hgood, hreturned, hpolled, hi, hsound⟩

end Rules

end Poller
end OpcuaGateway
