/-
What is still polled after the link is lost.

The flag is looked at once for ten nodes.  `allowance` keeps what the pass at hand may
still do; the runs of the task stay within it, and a guard that sees the flag at 0 takes
all of it away.
-/
import OpcuaGateway.Poller.Session

namespace OpcuaGateway
namespace Poller

open Effect Effect.Action Heap Opcua Rtc Text Numeric Idf
open Network (LinkEvent)

def Event.isRead : Event → Bool
  | .serviceRead _ _ => true
  | _ => false

def Event.isPublish : Event → Bool
  | .publish _ => true
  | _ => false

def reads (l : List Event) : Nat := l.countP Event.isRead

def publishes (l : List Event) : Nat := l.countP Event.isPublish

theorem reads_append (l l' : List Event) : reads (l ++ l') = reads l + reads l' :=
  List.countP_append

theorem publishes_append (l l' : List Event) : publishes (l ++ l') = publishes l + publishes l' :=
  List.countP_append

/-! ## The allowance of a pass -/

/-- How many reads and messages are left. -/
structure Allowance where
  reads : Nat
  publishes : Nat

def Allowance.none : Allowance := { reads := 0, publishes := 0 }

/-- Two reads and a message for each of the ten nodes. -/
def Allowance.pass : Allowance := { reads := 20, publishes := 10 }

/-- A guard that sees 1 grants a pass, one that does not leaves nothing. -/
def allowance : Monitor Event Allowance where
  next
    | _, .guard seen => if seen = 1 then Allowance.pass else Allowance.none
    | left, .serviceRead _ _ => { left with reads := left.reads - 1 }
    | left, .publish _ => { left with publishes := left.publishes - 1 }
    | left, _ => left
  allows
    | left, .serviceRead _ _ => 0 < left.reads
    | left, .publish _ => 0 < left.publishes
    | _, _ => True

/-- Between two guards the allowance is a matter of counting. -/
theorem allowance_of_node {l : List Event} (h : ∀ e ∈ l, e.OfNode) {left : Allowance}
    (hreads : reads l ≤ left.reads) (hpublishes : publishes l ≤ left.publishes) :
    allowance.Accepts left l := by
  induction l generalizing left with
  | nil => exact trivial
  | cons e l ih =>
    have hrest := fun e' he' => h e' (List.mem_cons_of_mem e he')
    have hnode := h e List.mem_cons_self
    unfold reads at hreads
    unfold publishes at hpublishes
    rw [List.countP_cons] at hreads hpublishes
    cases e with
    | connect endpoint status => exact hnode.elim
    | guard ethernetConnected => exact hnode.elim
    | vTaskDelay ticks => exact hnode.elim
    | rtcRead res data => exact ⟨trivial, ih hrest hreads hpublishes⟩
    | printf text => exact ⟨trivial, ih hrest hreads hpublishes⟩
    | serviceRead request outcome =>
      refine ⟨Nat.lt_of_lt_of_le (Nat.succ_pos _) hreads, ih hrest ?_ hpublishes⟩
      exact Nat.le_sub_of_add_le hreads
    | publish message =>
      refine ⟨Nat.lt_of_lt_of_le (Nat.succ_pos _) hpublishes, ih hrest hreads ?_⟩
      exact Nat.le_sub_of_add_le hpublishes

/-! ## The task stays within it -/

theorem visitLog_bounded (env : PassEnv) (i : Nat) (t : Tm) (v : NodeVisit) :
    reads (visitLog env i t v) ≤ 2 ∧ publishes (visitLog env i t v) ≤ 1 := by
  cases v with
  | faulted fault n =>
    have hsub := List.take_sublist n [nameRead env i, valueRead env i]
    exact ⟨hsub.countP_le, (hsub.countP_le (p := Event.isPublish)).trans (Nat.zero_le 1)⟩
  | nameBad => exact ⟨Nat.le_succ 1, Nat.zero_le 1⟩
  | nameMistyped => exact ⟨Nat.le_succ 1, Nat.zero_le 1⟩
  | valueBad => exact ⟨Nat.le_refl 2, Nat.zero_le 1⟩
  | valueMistyped => exact ⟨Nat.le_refl 2, Nat.zero_le 1⟩
  | sampled name sample => exact ⟨Nat.le_refl 2, Nat.le_refl 1⟩

theorem pollNodes_bounded (env : PassEnv) (s : TaskState) :
    reads ((pollNodes env).run s).log ≤ 20 ∧ publishes ((pollNodes env).run s).log ≤ 10 := by
  rw [← meets_log_iff (P := fun l => reads l ≤ 20 ∧ publishes l ≤ 10)]
  refine forRange_meets (I := fun i l _ => reads l ≤ 2 * i ∧ publishes l ≤ i)
    ⟨Nat.le_refl 0, Nat.le_refl 0⟩ ?_
  rintro i l t hi ⟨hreads, hpublishes⟩
  have hvisit := visitLog_bounded env i t.localTime (visit env i)
  have hlog : ((nodeBody env i).run t).log = visitLog env i t.localTime (visit env i) := by
    rw [nodeBody_run env hi]
    rfl
  rw [← hlog] at hvisit
  refine (meets_log_iff (P := fun l => reads l ≤ 2 ∧ publishes l ≤ 1).mpr hvisit).mono ?_ ?_
  · rintro l' _ u ⟨hreads', hpublishes'⟩
    rw [reads_append, publishes_append]
    omega
  · rintro l' _ ⟨hreads', hpublishes'⟩
    rw [reads_append, publishes_append]
    omega

/-- A stretch of log that stays within the allowance whatever is left of it. -/
def allowed : LogProperty Event where
  holds l := ∀ left, allowance.Accepts left l
  nil left := allowance.accepts_nil left
  append hl hr left := (allowance.accepts_append left _ _).mpr ⟨hl left, hr _⟩

theorem cycle_allowed (env : TaskEnv) (k : Nat) : Logs (cycle env k) allowed := by
  intro s
  by_cases h : env.ethernetConnected k = 1
  · have hrest : ∀ _ : Unit, Logs (do
        emit (.printf (ascii "\n\n"))
        emit (.vTaskDelay (500 / portTickPeriodMs)) : TaskM Unit) allowed := fun _ => by
      refine (logs_emit ?_).bind fun _ => logs_emit ?_ <;> exact fun _ => ⟨trivial, trivial⟩
    obtain ⟨l, hlog, hl⟩ := Logs.bind_log hrest (pollNodes (env.pass k)) s
    obtain ⟨hreads, hpublishes⟩ := pollNodes_bounded (env.pass k) s
    rw [cycle_run_polling h s, Run.after_log, hlog]
    intro left
    refine ⟨trivial, ?_⟩
    show allowance.Accepts (if env.ethernetConnected k = 1 then Allowance.pass else _) (_ ++ l)
    rw [if_pos h, allowance.accepts_append]
    exact ⟨allowance_of_node (pollNodes_ofNode (env.pass k) s) hreads hpublishes, hl _⟩
  · rw [cycle_run_idle h s]
    exact fun _ => ⟨trivial, trivial⟩

theorem opcuaTask_allowed (env : TaskEnv) (n : Nat) : Logs (opcuaTask env n) allowed :=
  opcuaTask_logs (fun _ _ => ⟨trivial, trivial⟩) (cycle_allowed env) n

/-! ## Runs with link events -/

/-- The allowance over the steps of a run, in which the link events leave it alone. -/
def runAllowance : Monitor StepEvent Allowance := allowance.lift StepEvent.task?

theorem runAllowance_accepts (run : PollerRun) :
    runAllowance.Accepts Allowance.none run.steps := by
  rw [runAllowance, Monitor.lift_accepts]
  obtain ⟨rest, hlog⟩ := run.ofTask
  have hwhole := opcuaTask_allowed run.env run.evaluations TaskState.start Allowance.none
  rw [← hlog, allowance.accepts_append] at hwhole
  exact hwhole.1

def StepEvent.isGuard : StepEvent → Bool
  | .task (.guard _) => true
  | _ => false

theorem StepEvent.exists_of_isGuard {e : StepEvent} (h : e.isGuard = true) :
    ∃ seen, e = .task (.guard seen) := by
  cases e with
  | link e => cases h
  | task e =>
    cases e with
    | guard seen => exact ⟨seen, rfl⟩
    | connect endpoint status => cases h
    | serviceRead request outcome => cases h
    | rtcRead res data => cases h
    | printf text => cases h
    | publish message => cases h
    | vTaskDelay ticks => cases h

/-- Only a guard renews the allowance. -/
theorem runAllowance_next_le {e : StepEvent} (h : e.isGuard = false) (left : Allowance) :
    (runAllowance.next left e).reads ≤ left.reads ∧
      (runAllowance.next left e).publishes ≤ left.publishes := by
  cases e with
  | link e => exact ⟨Nat.le_refl _, Nat.le_refl _⟩
  | task e =>
    cases e with
    | guard seen => cases h
    | serviceRead request outcome => exact ⟨Nat.sub_le _ _, Nat.le_refl _⟩
    | publish message => exact ⟨Nat.le_refl _, Nat.sub_le _ _⟩
    | connect endpoint status => exact ⟨Nat.le_refl _, Nat.le_refl _⟩
    | rtcRead res data => exact ⟨Nat.le_refl _, Nat.le_refl _⟩
    | printf text => exact ⟨Nat.le_refl _, Nat.le_refl _⟩
    | vTaskDelay ticks => exact ⟨Nat.le_refl _, Nat.le_refl _⟩

theorem runAllowance_next_guard (left : Allowance) (seen : Int) :
    runAllowance.next left (.task (.guard seen)) =
      if seen = 1 then Allowance.pass else Allowance.none := rfl

/-- There is never more left than a pass has. -/
theorem runAllowance_le (l : List StepEvent) :
    (runAllowance.after Allowance.none l).reads ≤ 20 ∧
      (runAllowance.after Allowance.none l).publishes ≤ 10 := by
  refine runAllowance.after_invariant (P := fun left => left.reads ≤ 20 ∧ left.publishes ≤ 10)
    ?_ ⟨Nat.zero_le _, Nat.zero_le _⟩ l
  rintro left e ⟨hreads, hpublishes⟩
  cases hguard : e.isGuard with
  | false =>
    obtain ⟨hreads', hpublishes'⟩ := runAllowance_next_le hguard left
    exact ⟨hreads'.trans hreads, hpublishes'.trans hpublishes⟩
  | true =>
    obtain ⟨seen, rfl⟩ := e.exists_of_isGuard hguard
    rw [runAllowance_next_guard]
    split_ifs
    · exact ⟨Nat.le_refl _, Nat.le_refl _⟩
    · exact ⟨Nat.zero_le _, Nat.zero_le _⟩

def taskSteps (l : List StepEvent) : List Event := l.filterMap StepEvent.task?

def StepEvent.isUp : StepEvent → Bool
  | .link .up => true
  | _ => false

theorem flag_of_notUp {l : List StepEvent} (hup : ∀ e ∈ l, e.isUp = false) :
    linkView.after 0 l = 0 := by
  induction l with
  | nil => rfl
  | cons e l ih =>
    have hrest := ih fun e' he' => hup e' (List.mem_cons_of_mem e he')
    have hnotUp := hup e List.mem_cons_self
    cases e with
    | task e => exact hrest
    | link e =>
      cases e with
      | up => cases hnotUp
      | down => exact hrest

/-- While the flag stays at 0, no guard renews what was left. -/
theorem period_bounded {l : List StepEvent} (hup : ∀ e ∈ l, e.isUp = false)
    (hflag : linkView.Accepts 0 l) {left : Allowance} (hleft : runAllowance.Accepts left l) :
    reads (taskSteps l) ≤ left.reads ∧ publishes (taskSteps l) ≤ left.publishes := by
  induction l generalizing left with
  | nil => exact ⟨Nat.zero_le _, Nat.zero_le _⟩
  | cons e l ih =>
    have hrest := fun e' he' => hup e' (List.mem_cons_of_mem e he')
    have hnotUp := hup e List.mem_cons_self
    obtain ⟨hallowed, hleft⟩ := hleft
    cases e with
    | link e =>
      cases e with
      | up => cases hnotUp
      | down => exact ih hrest hflag.2 hleft
    | task e =>
      have hbound := ih hrest hflag.2 hleft
      cases e with
      | guard seen =>
        obtain rfl : seen = 0 := hflag.1
        exact ⟨hbound.1.trans (Nat.zero_le _), hbound.2.trans (Nat.zero_le _)⟩
      | serviceRead request outcome =>
        have hone : 0 < left.reads := hallowed _ rfl
        refine ⟨?_, hbound.2⟩
        have hreads : reads (taskSteps l) ≤ left.reads - 1 := hbound.1
        show reads (.serviceRead request outcome :: taskSteps l) ≤ left.reads
        rw [reads, List.countP_cons]
        exact Nat.add_le_of_le_sub hone hreads
      | publish message =>
        have hone : 0 < left.publishes := hallowed _ rfl
        refine ⟨hbound.1, ?_⟩
        have hpublishes : publishes (taskSteps l) ≤ left.publishes - 1 := hbound.2
        show publishes (.publish message :: taskSteps l) ≤ left.publishes
        rw [publishes, List.countP_cons]
        exact Nat.add_le_of_le_sub hone hpublishes
      | connect endpoint status => exact hbound
      | rtcRead res data => exact hbound
      | printf text => exact hbound
      | vTaskDelay ticks => exact hbound

/-- Where reads are left, the last guard saw the link up. -/
theorem lastGuard_of_reads {l : List StepEvent}
    (h : 0 < (runAllowance.after Allowance.none l).reads) :
    ∃ before since, l = before ++ .task (.guard 1) :: since ∧
      ∀ e ∈ since, e.isGuard = false := by
  induction l using List.reverseRecOn with
  | nil => cases h
  | append_singleton l e ih =>
    rw [runAllowance.after_append] at h
    cases hguard : e.isGuard with
    | false =>
      have hkept := (runAllowance_next_le hguard (runAllowance.after Allowance.none l)).1
      obtain ⟨before, since, rfl, hsince⟩ := ih (Nat.lt_of_lt_of_le h hkept)
      refine ⟨before, since ++ [e], by simp, ?_⟩
      intro e' he'
      rcases List.mem_append.mp he' with hmem | hmem
      · exact hsince e' hmem
      · rwa [List.mem_singleton.mp hmem]
    | true =>
      obtain ⟨seen, rfl⟩ := e.exists_of_isGuard hguard
      refine ⟨l, [], ?_, fun _ hmem => absurd hmem List.not_mem_nil⟩
      by_cases hseen : seen = 1
      · rw [hseen]
      · rw [runAllowance.after_cons, runAllowance_next_guard, if_neg hseen] at h
        cases h

/-! ## Periods without a link -/

/-- A stretch of a run in which the flag is 0 throughout. -/
structure LinkDown (run : PollerRun) where
  before : List StepEvent
  during : List StepEvent
  after : List StepEvent
  whole : before ++ (during ++ after) = run.steps
  down : linkView.after 0 before = 0
  notUp : ∀ e ∈ during, e.isUp = false

/-- What is polled without a link, and under what guard anything is. -/
structure LossBounded (run : PollerRun) : Prop where
  bounded : ∀ period : LinkDown run,
    reads (taskSteps period.during) ≤ 20 ∧ publishes (taskSteps period.during) ≤ 10
  stopped : ∀ (period : LinkDown run) (done : List StepEvent) (seen : Int)
    (since : List StepEvent), period.during = done ++ .task (.guard seen) :: since →
      reads (taskSteps since) = 0 ∧ publishes (taskSteps since) = 0
  covered : ∀ (done : List StepEvent) (request : UaReadRequest) (outcome : ServiceOutcome)
    (rest : List StepEvent), run.steps = done ++ .task (.serviceRead request outcome) :: rest →
      ∃ before since, done = before ++ .task (.guard 1) :: since ∧
        ∀ e ∈ since, e.isGuard = false

theorem lossBounded (run : PollerRun) : LossBounded run := by
  have hallowed := runAllowance_accepts run
  have hseen := run.seesFlag
  refine ⟨?_, ?_, ?_⟩
  · intro period
    rw [← period.whole, runAllowance.accepts_append, runAllowance.accepts_append] at hallowed
    rw [← period.whole, linkView.accepts_append, linkView.accepts_append, period.down] at hseen
    obtain ⟨hreads, hpublishes⟩ := period_bounded period.notUp hseen.2.1 hallowed.2.1
    obtain ⟨hmost, hmost'⟩ := runAllowance_le period.before
    exact ⟨hreads.trans hmost, hpublishes.trans hmost'⟩
  · intro period done seen since hduring
    have hnotUp := period.notUp
    rw [hduring] at hnotUp
    obtain ⟨hdone, hlast⟩ := List.forall_mem_append.mp hnotUp
    rw [← period.whole, hduring, runAllowance.accepts_append, runAllowance.accepts_append,
      runAllowance.accepts_append] at hallowed
    rw [← period.whole, hduring, linkView.accepts_append, linkView.accepts_append,
      linkView.accepts_append, period.down, flag_of_notUp hdone] at hseen
    obtain rfl : seen = 0 := hseen.2.1.2.1
    have hbound := period_bounded (fun e he => hlast e (List.mem_cons_of_mem _ he))
      hseen.2.1.2.2 hallowed.2.1.2.2
    exact ⟨Nat.le_zero.mp hbound.1, Nat.le_zero.mp hbound.2⟩
  · intro done request outcome rest hsteps
    rw [hsteps, runAllowance.accepts_append] at hallowed
    exact lastGuard_of_reads (hallowed.2.1 _ rfl)

end Poller
end OpcuaGateway
