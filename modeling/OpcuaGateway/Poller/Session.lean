/-
The session of the poller.

The task connects once, before its loop, and never again.  The link events of the
Ethernet driver only decide what the guard sees, so a read that closes the client costs
the session of every read after it.  `sessionKept_iff` says in which environments no such
read comes: `TaskEnv.due` has the reads that an environment makes the task issue.
-/
import OpcuaGateway.Effect.Monitor
import OpcuaGateway.Network.Ethernet
import OpcuaGateway.Poller.Reach

namespace OpcuaGateway
namespace Poller

open Effect Effect.Action Heap Opcua Rtc Text Numeric Idf
open Network (LinkEvent)

/-! ## The task among the link events -/

inductive StepEvent where
  | task (e : Event)
  | link (e : LinkEvent)

def StepEvent.task? : StepEvent → Option Event
  | .task e => some e
  | .link _ => none

/-- The flag, and that every evaluation of the guard sees it as it stands. -/
def linkView : Monitor StepEvent Int where
  next
    | _, .link e => e.flag
    | flag, .task _ => flag
  allows
    | flag, .task (.guard seen) => seen = flag
    | _, _ => True

/-- A run of the task, as far as it has got, with link events anywhere in it. -/
structure PollerRun where
  env : TaskEnv
  evaluations : Nat
  steps : List StepEvent
  ofTask : steps.filterMap StepEvent.task? <+:
    ((opcuaTask env evaluations).run TaskState.start).log
  seesFlag : linkView.Accepts 0 steps

/-! ## The law -/

/-- Remembers whether the session is established; a read needs it to be. -/
def session : Monitor Event Bool where
  next
    | _, .connect _ status => status = uaStatuscodeGood
    | established, .serviceRead _ outcome => established && !outcome.closes
    | established, _ => established
  allows
    | established, .serviceRead _ _ => established = true
    | _, _ => True

def Event.outcome? : Event → Option ServiceOutcome
  | .serviceRead _ outcome => some outcome
  | _ => none

/-- The outcomes of the service reads of a log, in order. -/
def outcomes (l : List Event) : List ServiceOutcome := l.filterMap Event.outcome?

/-- No read ends with the client closed that another one comes after. -/
def OpenBetween (l : List ServiceOutcome) : Prop := l.Pairwise fun outcome _ => outcome.closes = false

def Event.isConnect : Event → Bool
  | .connect _ _ => true
  | _ => false

/-- Without a connect in between, the session lasts as long as no read closes it. -/
theorem session_accepts_iff {l : List Event} (h : ∀ e ∈ l, e.isConnect = false)
    (established : Bool) :
    session.Accepts established l ↔
      (outcomes l = [] ∨ established = true) ∧ OpenBetween (outcomes l) := by
  induction l generalizing established with
  | nil => exact iff_of_true trivial ⟨Or.inl rfl, List.Pairwise.nil⟩
  | cons e l ih =>
    have hrest := ih fun e' he' => h e' (List.mem_cons_of_mem e he')
    have hhead := h e List.mem_cons_self
    rw [session.accepts_cons, hrest]
    cases e with
    | connect endpoint status => cases hhead
    | guard ethernetConnected => exact and_iff_right trivial
    | rtcRead res data => exact and_iff_right trivial
    | printf text => exact and_iff_right trivial
    | publish message => exact and_iff_right trivial
    | vTaskDelay ticks => exact and_iff_right trivial
    | serviceRead request outcome =>
      have houtcomes : outcomes (.serviceRead request outcome :: l) = outcome :: outcomes l := rfl
      have hcons : OpenBetween (outcome :: outcomes l) ↔
          (∀ outcome' ∈ outcomes l, outcome.closes = false) ∧ OpenBetween (outcomes l) :=
        List.pairwise_cons
      show established = true ∧ (outcomes l = [] ∨ (established && !outcome.closes) = true) ∧ _ ↔ _
      rw [houtcomes, hcons]
      cases established with
      | false => simp
      | true =>
        cases outcomes l with
        | nil => simp
        | cons outcome' rest =>
          have hsome : (∀ next ∈ outcome' :: rest, outcome.closes = false) ↔
              outcome.closes = false :=
            ⟨fun h => h outcome' List.mem_cons_self, fun h _ _ => h⟩
          rw [hsome]
          simp

/-! ## The reads that are due -/

/-- The outcomes of the reads of a node: that of its name and, if that offers one and the
memory is there, that of its value. -/
def nodeReads (env : PassEnv) (i : Nat) : List ServiceOutcome :=
  if env.nameItem i then
    env.name i ::
      if (scalarText (env.name i).response).isSome ∧ env.nodeName i ∧ env.valueItem i then
        [env.value i]
      else []
  else []

theorem outcomes_valueVisit (env : PassEnv) (i : Nat) (t : Tm) (name : UaString) :
    outcomes (visitLog env i t (valueVisit env i name)) =
      env.name i :: if env.valueItem i then [env.value i] else [] := by
  unfold valueVisit
  cases env.valueItem i with
  | false => rfl
  | true =>
    rw [if_pos rfl, if_pos rfl]
    by_cases hgood : (env.value i).response.serviceResult = uaStatuscodeGood
    · rw [if_pos hgood]
      by_cases hempty : (env.value i).response.results = []
      · rw [if_pos hempty]
        rfl
      · rw [if_neg hempty]
        cases scalarSample (env.value i).response <;> rfl
    · rw [if_neg hgood]
      rfl

theorem outcomes_visitLog (env : PassEnv) (i : Nat) (t : Tm) :
    outcomes (visitLog env i t (visit env i)) = nodeReads env i := by
  unfold visit nodeReads
  by_cases hitem : env.nameItem i = true
  · rw [if_pos hitem, if_pos hitem]
    by_cases hgood : (env.name i).response.serviceResult = uaStatuscodeGood
    · rw [if_pos hgood]
      by_cases hempty : (env.name i).response.results = []
      · have hnone : scalarText (env.name i).response = none := by
          rw [scalarText, if_pos hgood, firstContent, hempty]
          rfl
        rw [if_pos hempty, hnone]
        rfl
      · rw [if_neg hempty]
        cases scalarText (env.name i).response with
        | none => rfl
        | some name =>
          cases hcopy : env.nodeName i with
          | false => rfl
          | true =>
            show outcomes (visitLog env i t (valueVisit env i name)) = _
            rw [outcomes_valueVisit]
            simp
    · rw [if_neg hgood, scalarText_of_bad hgood]
      rfl
  · rw [if_neg hitem, if_neg hitem]
    rfl

/-- A name whose read closes the client is not followed by a value. -/
theorem nodeReads_openBetween (env : PassEnv) (i : Nat) : OpenBetween (nodeReads env i) := by
  unfold nodeReads
  by_cases hitem : env.nameItem i = true
  · rw [if_pos hitem]
    split_ifs with hvalue
    · refine List.pairwise_pair.mpr ?_
      by_contra hcloses
      have hcloses := Bool.eq_true_of_not_eq_false hcloses
      have hbad : (env.name i).response.serviceResult ≠ uaStatuscodeGood :=
        (uaClientService_of_closes hcloses).2
      have hnone : scalarText (env.name i).response = none := scalarText_of_bad hbad
      rw [hnone] at hvalue
      cases hvalue.1
    · exact List.pairwise_singleton _ _
  · rw [if_neg hitem]
    exact List.Pairwise.nil

instance (env : TaskEnv) (k i : Nat) : Decidable (env.Reaches k i) :=
  decidable_of_iff
    (env.connect = uaStatuscodeGood ∧ (∀ j : Nat, j < k → Completes env j) ∧
      env.ethernetConnected k = 1 ∧ i < 10 ∧ ∀ j : Nat, j < i → Sound (env.pass k) j)
    ⟨fun ⟨hgood, hreturned, hpolled, hi, hsound⟩ => ⟨hgood, hreturned, hpolled, hi, hsound⟩,
      fun h => ⟨h.connected, h.returned, h.polled, h.node, h.sound⟩⟩

/-- The reads of node `i` in the `k`-th evaluation of the guard, if the task comes to it. -/
def TaskEnv.due (env : TaskEnv) (k i : Nat) : List ServiceOutcome :=
  if env.Reaches k i then nodeReads (env.pass k) i else []

theorem outcomes_append (l l' : List Event) : outcomes (l ++ l') = outcomes l ++ outcomes l' :=
  List.filterMap_append

theorem outcomes_flatMap_range (n : Nat) (f : Nat → List Event) :
    outcomes ((List.range n).flatMap f) = (List.range n).flatMap fun i => outcomes (f i) :=
  List.filterMap_flatMap

theorem outcomes_ite (c : Prop) [Decidable c] (l : List Event) :
    outcomes (if c then l else []) = if c then outcomes l else [] := apply_ite outcomes c l []

/-- The task issues the reads that are due, in the order of its iterations. -/
theorem outcomes_opcuaTask (env : TaskEnv) (n : Nat) (s : TaskState) :
    outcomes ((opcuaTask env n).run s).log =
      (List.range n).flatMap fun k => (List.range 10).flatMap fun i => env.due k i := by
  have hpause : outcomes pauseLog = [] := rfl
  have hguard : ∀ seen, outcomes [.guard seen] = [] := fun _ => rfl
  have hconnect : ∀ endpoint status, outcomes [.connect endpoint status] = [] := fun _ _ => rfl
  rw [opcuaTask_log, outcomes_append, hconnect, List.nil_append, outcomes_ite, loop_log,
    outcomes_flatMap_range]
  by_cases hgood : env.connect = uaStatuscodeGood
  · rw [if_pos hgood]
    refine List.flatMap_congr fun k _ => ?_
    rw [outcomes_ite, cycleLog, outcomes_append, hguard, List.nil_append, outcomes_ite,
      outcomes_append, outcomes_ite, hpause, ite_self, List.append_nil, passLog,
      outcomes_flatMap_range]
    by_cases hreturned : ∀ j, j < k → Completes env j
    · by_cases hpolled : env.ethernetConnected k = 1
      · rw [if_pos hreturned, if_pos hpolled]
        refine List.flatMap_congr fun i hi => ?_
        have hreaches : env.Reaches k i ↔ ∀ j, j < i → Sound (env.pass k) j :=
          ⟨fun h => h.sound, fun h => ⟨hgood, hreturned, hpolled, List.mem_range.mp hi, h⟩⟩
        rw [outcomes_ite, outcomes_visitLog, TaskEnv.due]
        simp only [hreaches]
      · rw [if_neg hpolled, ite_self]
        exact (List.flatMap_eq_nil_iff.mpr fun i _ => if_neg fun h => hpolled h.polled).symm
    · rw [if_neg hreturned]
      exact (List.flatMap_eq_nil_iff.mpr fun i _ => if_neg fun h => hreturned h.returned).symm
  · rw [if_neg hgood]
    refine (List.flatMap_eq_nil_iff.mpr fun k _ => ?_).symm
    exact List.flatMap_eq_nil_iff.mpr fun i _ => if_neg fun h => hgood h.connected

/-! ## Without a closing read in between -/

theorem pairwise_range_iff {R : Nat → Nat → Prop} {n : Nat} :
    (List.range n).Pairwise R ↔ ∀ a b, a < b → b < n → R a b := by
  rw [List.pairwise_iff_getElem]
  constructor
  · intro h a b hab hb
    have hpair := h a b (by rw [List.length_range]; omega) (by rw [List.length_range]; omega) hab
    rwa [List.getElem_range, List.getElem_range] at hpair
  · intro h a b ha hb hab
    rw [List.getElem_range, List.getElem_range]
    exact h a b hab (by rwa [List.length_range] at hb)

/-- The task issues the read of the name of node `i` in its `k`-th evaluation of the guard,
in a history of the flag that the handler can write. -/
structure TaskEnv.Issues (env : TaskEnv) (k i : Nat) : Prop where
  reaches : env.Reaches k i
  item : (env.pass k).nameItem i = true
  flag : ∀ j, j ≤ k → env.ethernetConnected j = 0 ∨ env.ethernetConnected j = 1

/-- Node `i` of evaluation `k` comes before node `i'` of evaluation `k'`. -/
def Before (k i k' i' : Nat) : Prop := k < k' ∨ k = k' ∧ i < i'

/-- No read that is due closes the client if another iteration comes to its read after it. -/
def SessionSafe (env : TaskEnv) : Prop :=
  ∀ k i k' i', Before k i k' i' → env.Reaches k i → env.Issues k' i' →
    ∀ outcome ∈ nodeReads (env.pass k) i, outcome.closes = false

theorem due_of_reaches {env : TaskEnv} {k i : Nat} (h : env.Reaches k i) :
    env.due k i = nodeReads (env.pass k) i := if_pos h

theorem reaches_of_mem_due {env : TaskEnv} {k i : Nat} {outcome : ServiceOutcome}
    (h : outcome ∈ env.due k i) : env.Reaches k i := by
  by_contra hnot
  rw [TaskEnv.due, if_neg hnot] at h
  cases h

theorem nameItem_of_mem_due {env : TaskEnv} {k i : Nat} {outcome : ServiceOutcome}
    (h : outcome ∈ env.due k i) : (env.pass k).nameItem i = true := by
  have hreaches := reaches_of_mem_due h
  rw [due_of_reaches hreaches, nodeReads] at h
  by_contra hitem
  rw [if_neg hitem] at h
  cases h

theorem name_mem_due {env : TaskEnv} {k i : Nat} (h : env.Reaches k i)
    (hitem : (env.pass k).nameItem i = true) : (env.pass k).name i ∈ env.due k i := by
  rw [due_of_reaches h, nodeReads, if_pos hitem]
  exact List.mem_cons_self

theorem openBetween_due_iff (env : TaskEnv) (n : Nat) :
    OpenBetween ((List.range n).flatMap fun k => (List.range 10).flatMap fun i => env.due k i) ↔
      ∀ k i k' i', k' < n → Before k i k' i' → ∀ outcome ∈ env.due k i, env.due k' i' ≠ [] →
        outcome.closes = false := by
  have hnode : ∀ k i, OpenBetween (env.due k i) := by
    intro k i
    unfold TaskEnv.due
    split_ifs
    · exact nodeReads_openBetween (env.pass k) i
    · exact List.Pairwise.nil
  have hreached : ∀ {k i : Nat}, env.due k i ≠ [] → i < 10 := by
    intro k i hdue
    obtain ⟨outcome, hmem⟩ := List.exists_mem_of_ne_nil _ hdue
    exact (reaches_of_mem_due hmem).node
  unfold OpenBetween
  simp only [List.pairwise_flatMap, pairwise_range_iff, List.mem_flatMap, List.mem_range]
  constructor
  · rintro ⟨hwithin, hacross⟩ k i k' i' hk' hbefore outcome hmem hdue
    obtain ⟨next, hnext⟩ := List.exists_mem_of_ne_nil _ hdue
    rcases hbefore with hlt | ⟨rfl, hlt⟩
    · exact hacross k k' hlt hk' outcome ⟨i, (reaches_of_mem_due hmem).node, hmem⟩ next
        ⟨i', hreached hdue, hnext⟩
    · exact (hwithin k hk').2 i i' hlt (hreached hdue) outcome hmem next hnext
  · intro h
    refine ⟨fun k hk => ⟨fun i _ => hnode k i, ?_⟩, ?_⟩
    · intro i i' hlt _ outcome hmem next hnext
      exact h k i k i' hk (Or.inr ⟨rfl, hlt⟩) outcome hmem (List.ne_nil_of_mem hnext)
    · rintro k k' hlt hk' outcome ⟨i, -, hmem⟩ next ⟨i', -, hnext⟩
      exact h k i k' i' hk' (Or.inl hlt) outcome hmem (List.ne_nil_of_mem hnext)

/-! ## What the task logs -/

/-- No event of the log is a connect. -/
def connectless : LogProperty Event where
  holds l := ∀ e ∈ l, e.isConnect = false
  nil _ hmem := absurd hmem List.not_mem_nil
  append hl hr := List.forall_mem_append.mpr ⟨hl, hr⟩

theorem visitLog_connectless (env : PassEnv) (i : Nat) (t : Tm) (v : NodeVisit) :
    connectless.holds (visitLog env i t v) := by
  intro e he
  have hnode := visitLog_ofNode env i t v e he
  cases e with
  | connect endpoint status => exact hnode.elim
  | guard ethernetConnected => rfl
  | serviceRead request outcome => rfl
  | rtcRead res data => rfl
  | printf text => rfl
  | publish message => rfl
  | vTaskDelay ticks => rfl

theorem cycle_connectless (env : TaskEnv) (k : Nat) : Logs (cycle env k) connectless := by
  have hsingle : ∀ e : Event, e.isConnect = false → connectless.holds [e] := by
    intro e he e' he'
    rw [List.mem_singleton.mp he']
    exact he
  exact cycle_logs (fun env i t => visitLog_connectless env i t (visit env i))
    (fun _ => hsingle _ rfl) (fun _ => hsingle _ rfl) (fun _ => hsingle _ rfl) env k

/-- The law holds of every stretch of the task's log from its beginning in which no read
closes the client before another. -/
theorem prefix_session_iff {env : TaskEnv} {n : Nat} {s : TaskState} {l : List Event}
    (h : l <+: ((opcuaTask env n).run s).log) :
    session.Accepts false l ↔ OpenBetween (outcomes l) := by
  have hloop : ∀ t : TaskState, connectless.holds ((forRange (cycle env) n).run t).log :=
    Logs.forRange fun k _ => cycle_connectless env k
  rw [opcuaTask_log] at h
  cases l with
  | nil => exact iff_of_true trivial List.Pairwise.nil
  | cons e l =>
    obtain ⟨rfl, hl⟩ := List.cons_prefix_cons.mp h
    have houtcomes : outcomes (.connect "opc.tcp://192.168.1.15:4840" env.connect :: l) =
        outcomes l := rfl
    rw [session.accepts_cons, houtcomes]
    show True ∧ session.Accepts (decide (env.connect = uaStatuscodeGood)) l ↔ _
    by_cases hgood : env.connect = uaStatuscodeGood
    · rw [if_pos hgood] at hl
      have hrest : ∀ e ∈ l, e.isConnect = false := fun e he =>
        hloop s.connected e (hl.subset he)
      rw [true_and, session_accepts_iff hrest, decide_eq_true hgood]
      simp
    · rw [if_neg hgood] at hl
      have hnil : l = [] := List.prefix_nil.mp hl
      subst hnil
      exact iff_of_true ⟨trivial, trivial⟩ List.Pairwise.nil

/-! ## How far a run has got -/

theorem opcuaTask_log_succ (env : TaskEnv) (n : Nat) (s : TaskState) :
    ((opcuaTask env (n + 1)).run s).log = ((opcuaTask env n).run s).log ++
      if env.connect = uaStatuscodeGood ∧ ∀ j : Nat, j < n → Completes env j then
        cycleLog env n (cycleState env s.connected n).localTime
      else [] := by
  rw [opcuaTask_log, opcuaTask_log, loop_log, loop_log, List.range_succ, List.flatMap_append,
    List.flatMap_singleton]
  by_cases hgood : env.connect = uaStatuscodeGood
  · rw [if_pos hgood, if_pos hgood, List.append_assoc]
    simp only [hgood, true_and]
  · rw [if_neg hgood, if_neg hgood, if_neg fun h => hgood h.1, List.append_nil, List.append_nil]

theorem guard_mem_log {env : TaskEnv} (hgood : env.connect = uaStatuscodeGood) {j n : Nat}
    (hj : j < n) (hreturned : ∀ i, i < j → Completes env i) (s : TaskState) :
    Event.guard (env.ethernetConnected j) ∈ ((opcuaTask env n).run s).log := by
  rw [opcuaTask_log, if_pos hgood, loop_log]
  refine List.mem_append_right _ (List.mem_flatMap.mpr ⟨j, List.mem_range.mpr hj, ?_⟩)
  rw [if_pos hreturned]
  exact List.mem_cons_self

theorem guard_of_mem_cycleLog {env : TaskEnv} {k : Nat} {t : Tm} {seen : Int}
    (h : Event.guard seen ∈ cycleLog env k t) : seen = env.ethernetConnected k := by
  have hpass : Event.guard seen ∉ passLog (env.pass k) t := by
    intro hmem
    obtain ⟨i, -, hvisit⟩ := List.mem_flatMap.mp hmem
    exact (visitLog_ofNode (env.pass k) i _ _ _ (List.mem_ite_nil_right.mp hvisit).2).elim
  have hpause : Event.guard seen ∉ pauseLog := by simp [pauseLog]
  rcases List.mem_append.mp h with hguard | hrest
  · cases List.mem_singleton.mp hguard
    rfl
  · rcases List.mem_append.mp (List.mem_ite_nil_right.mp hrest).2 with hmem | hmem
    · exact absurd hmem hpass
    · exact absurd (List.mem_ite_nil_right.mp hmem).2 hpause

theorem guard_of_mem_log {env : TaskEnv} {n : Nat} {s : TaskState} {seen : Int}
    (h : Event.guard seen ∈ ((opcuaTask env n).run s).log) :
    ∃ j, j < n ∧ seen = env.ethernetConnected j := by
  rw [opcuaTask_log, loop_log] at h
  rcases List.mem_append.mp h with hconnect | hloop
  · cases List.mem_singleton.mp hconnect
  · obtain ⟨j, hj, hcycle⟩ := List.mem_flatMap.mp (List.mem_ite_nil_right.mp hloop).2
    exact ⟨j, List.mem_range.mp hj, guard_of_mem_cycleLog (List.mem_ite_nil_right.mp hcycle).2⟩

/-- A run that has seen only flags the handler writes is one of no more evaluations than
it has seen. -/
theorem prefix_flags {env : TaskEnv} {n : Nat} {s : TaskState} {l : List Event}
    (h : l <+: ((opcuaTask env n).run s).log)
    (hflags : ∀ seen, Event.guard seen ∈ l → seen = 0 ∨ seen = 1) :
    ∃ m, l <+: ((opcuaTask env m).run s).log ∧ ∀ k i, k < m → env.Reaches k i →
      ∀ j, j ≤ k → env.ethernetConnected j = 0 ∨ env.ethernetConnected j = 1 := by
  induction n with
  | zero => exact ⟨0, h, fun k _ hk => absurd hk (Nat.not_lt_zero k)⟩
  | succ n ih =>
    have hlog := opcuaTask_log_succ env n s
    rcases List.prefix_or_prefix_of_prefix h (hlog ▸ List.prefix_append _ _) with hshort | hlong
    · exact ih hshort
    · obtain ⟨more, rfl⟩ := hlong
      cases more with
      | nil => exact ih (List.append_nil _ ▸ List.prefix_refl _)
      | cons e more =>
        -- The run has begun the last evaluation, so it has seen all the flags.
        refine ⟨n + 1, h, fun k i hk hreaches j hj => hflags _ ?_⟩
        rw [hlog, List.prefix_append_right_inj] at h
        by_cases hlast : env.connect = uaStatuscodeGood ∧ ∀ j : Nat, j < n → Completes env j
        · rw [if_pos hlast] at h
          rcases Nat.lt_or_eq_of_le (Nat.le_trans hj (Nat.lt_succ_iff.mp hk)) with hlt | rfl
          · exact List.mem_append_left _
              (guard_mem_log hlast.1 hlt (fun i hi => hlast.2 i (Nat.lt_trans hi hlt)) s)
          · obtain ⟨rfl, -⟩ := List.cons_prefix_cons.mp h
            exact List.mem_append_right _ List.mem_cons_self
        · rw [if_neg hlast] at h
          cases List.prefix_nil.mp h

/-- The handler writes 0 or 1, so the guard sees no other flag. -/
theorem guards_of_linkView {steps : List StepEvent} {flag : Int} (hflag : flag = 0 ∨ flag = 1)
    (h : linkView.Accepts flag steps) :
    ∀ seen, Event.guard seen ∈ steps.filterMap StepEvent.task? → seen = 0 ∨ seen = 1 := by
  induction steps generalizing flag with
  | nil => exact fun _ hmem => absurd hmem List.not_mem_nil
  | cons e steps ih =>
    intro seen hmem
    cases e with
    | link e =>
      have hnext : e.flag = 0 ∨ e.flag = 1 := by
        cases e with
        | up => exact Or.inr rfl
        | down => exact Or.inl rfl
      exact ih hnext h.2 seen hmem
    | task e =>
      rcases List.mem_cons.mp hmem with rfl | hrest
      · rw [show seen = flag from h.1]
        exact hflag
      · exact ih hflag h.2 seen hrest

/-! ## The session over whole runs -/

namespace PollerRun

/-- What the task did in the run. -/
def log (run : PollerRun) : List Event := run.steps.filterMap StepEvent.task?

/-- Whenever a read is issued, the last connect returned GOOD and no read since then
has ended with the client closed. -/
def SessionKept (run : PollerRun) : Prop := (session.lift StepEvent.task?).Accepts false run.steps

end PollerRun

theorem sessionKept_iff_openBetween (run : PollerRun) :
    run.SessionKept ↔ OpenBetween (outcomes run.log) := by
  rw [PollerRun.SessionKept, Monitor.lift_accepts]
  exact prefix_session_iff run.ofTask

/-- The steps of the task with the link event before each guard that makes it see what it
sees. -/
def withLinks (l : List Event) : List StepEvent :=
  l.flatMap fun e =>
    match e with
    | .guard seen => [.link (if seen = 1 then .up else .down), .task (.guard seen)]
    | e => [.task e]

theorem withLinks_task (l : List Event) : (withLinks l).filterMap StepEvent.task? = l := by
  induction l with
  | nil => rfl
  | cons e l ih =>
    rw [withLinks, List.flatMap_cons, List.filterMap_append]
    have hrest : ((l.flatMap _).filterMap StepEvent.task?) = l := ih
    rw [hrest]
    cases e <;> rfl

theorem withLinks_linkView {l : List Event}
    (h : ∀ seen, Event.guard seen ∈ l → seen = 0 ∨ seen = 1) (flag : Int) :
    linkView.Accepts flag (withLinks l) := by
  induction l generalizing flag with
  | nil => exact trivial
  | cons e l ih =>
    have hrest := ih fun seen hmem => h seen (List.mem_cons_of_mem e hmem)
    rw [withLinks, List.flatMap_cons, linkView.accepts_append]
    refine ⟨?_, hrest _⟩
    cases e with
    | guard seen =>
      refine ⟨trivial, ?_, trivial⟩
      rcases h seen List.mem_cons_self with rfl | rfl <;> rfl
    | connect endpoint status => exact ⟨trivial, trivial⟩
    | serviceRead request outcome => exact ⟨trivial, trivial⟩
    | rtcRead res data => exact ⟨trivial, trivial⟩
    | printf text => exact ⟨trivial, trivial⟩
    | publish message => exact ⟨trivial, trivial⟩
    | vTaskDelay ticks => exact ⟨trivial, trivial⟩

/-- In every run of an environment, stopped anywhere and with link events anywhere in it,
the reads find the session exactly if none that is due closes the client before another
is issued. -/
theorem sessionKept_iff (env : TaskEnv) :
    (∀ run : PollerRun, run.env = env → run.SessionKept) ↔ SessionSafe env := by
  constructor
  · intro h k i k' i' hbefore hreaches hissues outcome hmem
    have hflags : ∀ seen, Event.guard seen ∈ ((opcuaTask env (k' + 1)).run TaskState.start).log →
        seen = 0 ∨ seen = 1 := by
      intro seen hseen
      obtain ⟨j, hj, rfl⟩ := guard_of_mem_log hseen
      exact hissues.flag j (Nat.lt_succ_iff.mp hj)
    let run : PollerRun :=
      { env := env
        evaluations := k' + 1
        steps := withLinks ((opcuaTask env (k' + 1)).run TaskState.start).log
        ofTask := by rw [withLinks_task]
        seesFlag := withLinks_linkView hflags 0 }
    have hkept := (sessionKept_iff_openBetween run).mp (h run rfl)
    rw [PollerRun.log, withLinks_task, outcomes_opcuaTask, openBetween_due_iff] at hkept
    rw [← due_of_reaches hreaches] at hmem
    exact hkept k i k' i' (Nat.lt_succ_self k') hbefore outcome hmem
      (List.ne_nil_of_mem (name_mem_due hissues.reaches hissues.item))
  · rintro h run rfl
    obtain ⟨m, hlog, hflags⟩ := prefix_flags run.ofTask
      (guards_of_linkView (Or.inl rfl) run.seesFlag)
    rw [sessionKept_iff_openBetween]
    have hwhole : OpenBetween (outcomes ((opcuaTask run.env m).run TaskState.start).log) := by
      rw [outcomes_opcuaTask, openBetween_due_iff]
      intro k i k' i' hk' hbefore outcome hmem hdue
      obtain ⟨next, hnext⟩ := List.exists_mem_of_ne_nil _ hdue
      have hreaches := reaches_of_mem_due hmem
      have hreaches' := reaches_of_mem_due hnext
      rw [due_of_reaches hreaches] at hmem
      exact h k i k' i' hbefore hreaches
        ⟨hreaches', nameItem_of_mem_due hnext, hflags k' i' hk' hreaches'⟩ outcome hmem
    exact hwhole.sublist (hlog.filterMap _).sublist

/-- With memory and a link that keeps coming back, no read may close the client at all. -/
theorem sessionSafe_iff_of_recurring {env : TaskEnv}
    (hflag : ∀ j, env.ethernetConnected j = 0 ∨ env.ethernetConnected j = 1)
    (hagain : ∀ k, ∃ m, k ≤ m ∧ env.ethernetConnected m = 1)
    (hsound : ∀ k i, Sound (env.pass k) i) :
    SessionSafe env ↔ (env.connect = uaStatuscodeGood → ∀ k i, env.ethernetConnected k = 1 → i < 10 →
      ∀ outcome ∈ nodeReads (env.pass k) i, outcome.closes = false) := by
  have hreaches : env.connect = uaStatuscodeGood → ∀ {k i : Nat}, env.ethernetConnected k = 1 →
      i < 10 → env.Reaches k i := fun hgood {k i} hpolled hi =>
    ⟨hgood, fun j _ _ i => hsound j i, hpolled, hi, fun j _ => hsound k j⟩
  constructor
  · intro h hgood k i hpolled hi outcome hmem
    obtain ⟨m, hm, hpolled'⟩ := hagain (k + 1)
    exact h k i m 0 (Or.inl hm) (hreaches hgood hpolled hi)
      ⟨hreaches hgood hpolled' (by decide), (hsound m 0).1, fun j _ => hflag j⟩ outcome hmem
  · exact fun h k i _ _ _ hreached _ =>
      h hreached.connected k i hreached.polled hreached.node

/-- The link is up and nothing answers. -/
def silentEnv : TaskEnv where
  connect := uaStatuscodeGood
  ethernetConnected _ := 1
  pass _ :=
    { nameItem := fun _ => true
      nodeName := fun _ => true
      valueItem := fun _ => true
      network := fun _ => { send := uaStatuscodeGood, receive := .deadline }
      rtc := fun _ => steadyClock (Vector.replicate 7 0) }

/-- The first two reads of a pass in which nothing answers. -/
def silentRun : PollerRun where
  env := silentEnv
  evaluations := 1
  steps :=
    [.task (.connect "opc.tcp://192.168.1.15:4840" uaStatuscodeGood), .link .up, .task (.guard 1),
      .task (nameRead (silentEnv.pass 0) 0), .task (nameRead (silentEnv.pass 0) 1)]
  ofTask := by decide
  seesFlag := ⟨trivial, trivial, rfl, trivial, trivial, trivial⟩

theorem silentRun_sessionLost : ¬ ∀ run : PollerRun, run.SessionKept := by
  intro h
  have hsecond : session.allows false (nameRead (silentEnv.pass 0) 1) :=
    (h silentRun).2.2.2.2.1 _ rfl
  cases hsecond

end Poller
end OpcuaGateway
