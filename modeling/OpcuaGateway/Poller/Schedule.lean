/-
How the task shares the processor.

A FreeRTOS task must not return, and one that neither blocks nor delays itself keeps
every task of a lower priority from running.
-/
import OpcuaGateway.Poller.Safety
import OpcuaGateway.Poller.Session

namespace OpcuaGateway
namespace Poller

open Effect Effect.Action Heap Opcua Rtc Text Numeric Idf

/-! ## The law -/

/-- Remembers whether the task has delayed itself since it last looked at the flag. -/
def spacing : Monitor Event Bool where
  next
    | _, .guard _ => false
    | _, .vTaskDelay _ => true
    | delayed, _ => delayed
  allows
    | delayed, .guard _ => delayed = true
    | _, _ => True

def Event.isGuard : Event → Bool
  | .guard _ => true
  | _ => false

def Event.isDelay : Event → Bool
  | .vTaskDelay _ => true
  | _ => false

/-- The iterations of the loop begun in a log. -/
def iterations (l : List Event) : Nat := l.countP Event.isGuard

def delays (l : List Event) : Nat := l.countP Event.isDelay

/-- The task never reaches the end of its function, and delays itself between any two
evaluations of the guard. -/
structure Scheduled (env : TaskEnv) : Prop where
  endless : ∀ n t, ((opcuaTask env n).run TaskState.start).final? ≠ some (.returned, t)
  spaced : ∀ n l, l <+: ((opcuaTask env n).run TaskState.start).log →
    spacing.Accepts true l ∧ iterations l ≤ delays l + 1

theorem iterations_le {l : List Event} {delayed : Bool} (h : spacing.Accepts delayed l) :
    iterations l ≤ delays l + if delayed then 1 else 0 := by
  induction l generalizing delayed with
  | nil => exact Nat.zero_le _
  | cons e l ih =>
    obtain ⟨hallowed, hrest⟩ := h
    have hcount := ih hrest
    unfold iterations delays at hcount ⊢
    rw [List.countP_cons, List.countP_cons]
    cases e with
    | guard ethernetConnected =>
      rw [show delayed = true from hallowed]
      exact Nat.succ_le_succ hcount
    | vTaskDelay ticks => exact hcount.trans (Nat.le_add_right _ _)
    | connect endpoint status => exact hcount
    | serviceRead request outcome => exact hcount
    | rtcRead res data => exact hcount
    | printf text => exact hcount
    | publish message => exact hcount

/-- The body of the node loop neither looks at the flag nor delays the task. -/
theorem spacing_of_node {l : List Event} (h : ∀ e ∈ l, e.OfNode) (delayed : Bool) :
    spacing.Accepts delayed l ∧ spacing.after delayed l = delayed := by
  induction l with
  | nil => exact ⟨trivial, rfl⟩
  | cons e l ih =>
    have hrest := ih fun e' he' => h e' (List.mem_cons_of_mem e he')
    have hnode := h e List.mem_cons_self
    cases e with
    | connect endpoint status => exact hnode.elim
    | guard ethernetConnected => exact hnode.elim
    | vTaskDelay ticks => exact hnode.elim
    | serviceRead request outcome => exact ⟨⟨trivial, hrest.1⟩, hrest.2⟩
    | rtcRead res data => exact ⟨⟨trivial, hrest.1⟩, hrest.2⟩
    | printf text => exact ⟨⟨trivial, hrest.1⟩, hrest.2⟩
    | publish message => exact ⟨⟨trivial, hrest.1⟩, hrest.2⟩

/-! ## The loop -/

/-- A polled pass that is not stopped leaves the task delayed. -/
theorem cycle_spaced {env : TaskEnv} {k : Nat} (h : env.ethernetConnected k = 1) (s : TaskState) :
    Meets (cycle env k) s
      (fun l _ _ => spacing.Accepts true l ∧ spacing.after true l = true)
      (fun l _ => spacing.Accepts true l) := by
  have hpass : Meets (pollNodes (env.pass k)) s (fun l _ _ => ∀ e ∈ l, e.OfNode)
      (fun l _ => ∀ e ∈ l, e.OfNode) := meets_log_iff.mpr (pollNodes_ofNode (env.pass k) s)
  rw [meets_of_after (cycle_run_polling h s)]
  refine Meets.bind (hpass.mono ?_ ?_)
  · intro l _ t hnode
    have hkept := spacing_of_node hnode false
    refine ⟨⟨rfl, ?_⟩, ?_⟩
    · show spacing.Accepts false (l ++ _)
      rw [spacing.accepts_append]
      exact ⟨hkept.1, trivial, trivial, trivial⟩
    · show spacing.after false (l ++ _) = true
      rw [spacing.after_append]
      rfl
  · exact fun l _ hnode => ⟨rfl, (spacing_of_node hnode false).1⟩

theorem cycle_log_guard (env : TaskEnv) (k : Nat) (s : TaskState) :
    ∃ rest, ((cycle env k).run s).log = .guard (env.ethernetConnected k) :: rest := by
  by_cases h : env.ethernetConnected k = 1
  · exact ⟨_, by rw [cycle_run_polling h s]; rfl⟩
  · exact ⟨[], by rw [cycle_run_idle h s]⟩

/-- While the guard sees 1 wherever the task gets to, every iteration but the last has
delayed the task. -/
theorem loop_spaced {env : TaskEnv}
    (h : ∀ k, (∀ j, j < k → Completes env j) → env.ethernetConnected k = 1)
    (n : Nat) (s : TaskState) :
    spacing.Accepts true ((forRange (cycle env) n).run s).log := by
  have hloop : Meets (forRange (cycle env) n) s
      (fun l _ _ => (∀ j, j < n → Completes env j) ∧ spacing.Accepts true l ∧
        spacing.after true l = true)
      (fun l _ => spacing.Accepts true l) := by
    refine forRange_meets
      (I := fun k l _ => (∀ j, j < k → Completes env j) ∧ spacing.Accepts true l ∧
        spacing.after true l = true)
      ⟨fun j hj => absurd hj (Nat.not_lt_zero j), trivial, rfl⟩ ?_
    rintro k l t - ⟨hbefore, haccepts, hafter⟩
    have hcycle := (cycle_meets_completes env k t).and (cycle_spaced (h k hbefore) t)
    refine hcycle.mono ?_ ?_
    · rintro l' _ u ⟨hlast, haccepts', hafter'⟩
      refine ⟨?_, ?_, ?_⟩
      · intro j hj
        rcases Nat.lt_succ_iff_lt_or_eq.mp hj with hlt | rfl
        · exact hbefore j hlt
        · exact hlast
      · rw [spacing.accepts_append, hafter]
        exact ⟨haccepts, haccepts'⟩
      · rw [spacing.after_append, hafter, hafter']
    · rintro l' _ ⟨-, haccepts'⟩
      rw [spacing.accepts_append, hafter]
      exact ⟨haccepts, haccepts'⟩
  exact meets_log_iff.mp (hloop.mono (fun _ _ _ hI => hI.2.1) (fun _ _ hE => hE))

/-- Once the guard has seen the link down, the next evaluation follows at once. -/
theorem loop_crowded {env : TaskEnv} {k : Nat} (hdown : env.ethernetConnected k ≠ 1)
    (h : ∀ j, j < k → Completes env j) (s : TaskState) :
    ¬ spacing.Accepts true ((forRange (cycle env) (k + 2)).run s).log := by
  obtain ⟨l, t, hrun⟩ := loop_returns h s
  obtain ⟨rest, hnext⟩ := cycle_log_guard env (k + 1) t
  have hfirst : (forRange (cycle env) (k + 1)).run s =
      { log := l ++ [.guard (env.ethernetConnected k)], exit := .ok ((), t) } := by
    rw [forRange_succ, bind_of_ok hrun, cycle_run_idle hdown]
    rfl
  rw [forRange_succ, bind_of_ok hfirst, Run.after_log, hnext, List.append_assoc,
    spacing.accepts_append]
  rintro ⟨-, -, hguard, -⟩
  cases hguard

/-! ## The contract -/

theorem opcuaTask_log_of_good {env : TaskEnv} (hgood : env.connect = uaStatuscodeGood) (n : Nat)
    (s : TaskState) :
    ((opcuaTask env n).run s).log =
      .connect "opc.tcp://192.168.1.15:4840" env.connect ::
        ((forRange (cycle env) n).run s.connected).log := by
  rw [opcuaTask_log, if_pos hgood]
  rfl

theorem opcuaTask_endless_iff (env : TaskEnv) :
    (∀ n t, ((opcuaTask env n).run TaskState.start).final? ≠ some (.returned, t)) ↔
      env.connect = uaStatuscodeGood := by
  constructor
  · intro h
    by_contra hbad
    refine h 0 { TaskState.start with client := UaClient.new } ?_
    rw [opcuaTask_run, if_neg hbad]
    rfl
  · intro hgood n t hreturned
    rw [opcuaTask_run, if_pos hgood, Run.final?_after, bind_returns] at hreturned
    obtain ⟨_, _, -, hend⟩ := hreturned
    cases hend

/-- The task keeps the contract exactly if its connect is good and the guard sees 1 at
every evaluation that it gets to: the cycles before it return. -/
theorem scheduled_iff (env : TaskEnv) :
    Scheduled env ↔ env.connect = uaStatuscodeGood ∧
      ∀ k, (∀ j, j < k → Completes env j) → env.ethernetConnected k = 1 := by
  constructor
  · intro h
    have hgood := (opcuaTask_endless_iff env).mp h.endless
    refine ⟨hgood, ?_⟩
    intro k hcompletes
    by_contra hdown
    have haccepts := (h.spaced (k + 2) _ (List.prefix_refl _)).1
    rw [opcuaTask_log_of_good hgood] at haccepts
    exact loop_crowded hdown hcompletes _ haccepts.2
  · rintro ⟨hgood, hconnected⟩
    refine ⟨(opcuaTask_endless_iff env).mpr hgood, ?_⟩
    rintro n l ⟨rest, hlog⟩
    have hwhole : spacing.Accepts true ((opcuaTask env n).run TaskState.start).log := by
      rw [opcuaTask_log_of_good hgood]
      exact ⟨trivial, loop_spaced hconnected n _⟩
    rw [← hlog, spacing.accepts_append] at hwhole
    exact ⟨hwhole.1, iterations_le hwhole.1⟩

/-- The cable is not plugged in. -/
def unpluggedEnv : TaskEnv := { silentEnv with ethernetConnected := fun _ => 0 }

/-- The machine closes the connection at once. -/
def refusedEnv : TaskEnv := { silentEnv with connect := uaStatuscodeBadconnectionclosed }

/-- With the cable out the task never delays itself, and without a session it returns. -/
theorem unplugged_not_scheduled :
    ¬ spacing.Accepts true ((opcuaTask unpluggedEnv 2).run TaskState.start).log ∧
      ¬ Scheduled unpluggedEnv ∧ ¬ Scheduled refusedEnv := by
  have hcrowded : ¬ spacing.Accepts true ((opcuaTask unpluggedEnv 2).run TaskState.start).log := by
    have hdown : unpluggedEnv.ethernetConnected 0 ≠ 1 := by decide
    rw [opcuaTask_log_of_good rfl]
    exact fun h => loop_crowded hdown (fun j hj => absurd hj (Nat.not_lt_zero j)) _ h.2
  refine ⟨hcrowded, ?_, ?_⟩
  · exact fun h => hcrowded (h.spaced 2 _ (List.prefix_refl _)).1
  · intro h
    have hgood := (opcuaTask_endless_iff refusedEnv).mp h.endless
    revert hgood
    decide

end Poller
end OpcuaGateway
