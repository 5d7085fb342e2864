import RolloutWatch.Proofs.Watcher.Acting
import RolloutWatch.Proofs.Watcher.History

/-!
# Collects that do not succeed

A collect can fail in three ways: the describer reports a fault, the question is
given up, or some deployment of the answer has a task definition that cannot be
read. None of them leaves a trace in the watcher. A run without its failed collects
therefore ends where the run itself ends, and all that is left in it has the effects
that it had before.
-/

namespace RolloutWatch

namespace Deployment

/-- The task definition of a described deployment cannot be read. -/
def Malformed (d : DeploymentDescription) (fault : TaskDefinitionFault) : Prop :=
  TaskDefinition.parseRevision d.taskDefinition = .error fault

theorem ofDescription_of_malformed {d : DeploymentDescription} {fault : TaskDefinitionFault}
    (bad : Malformed d fault) : ofDescription d = .error fault := by
  rw [ofDescription, bad]
  rfl

/-- The first malformed task definition decides the fault. -/
theorem ofDescriptions_of_first {good rest : List DeploymentDescription}
    {bad : DeploymentDescription} {fault : TaskDefinitionFault}
    (before : ∀ d ∈ good, ∀ other, ¬Malformed d other) (malformed : Malformed bad fault) :
    ofDescriptions (good ++ bad :: rest) = .error fault := by
  induction good with
  | nil =>
      rw [List.nil_append, ofDescriptions, ofDescription_of_malformed malformed]
      rfl
  | cons d good ih =>
      have later := ih fun other member => before other (List.mem_cons_of_mem d member)
      rw [List.cons_append, ofDescriptions, later, ofDescription]
      cases parsed : TaskDefinition.parseRevision d.taskDefinition with
      | error other => exact absurd parsed (before d List.mem_cons_self other)
      | ok revision => rfl

/-- Among deployments of which one is malformed there is a first one. -/
theorem exists_first_malformed {descriptions : List DeploymentDescription}
    (found : ∃ d ∈ descriptions, ∃ fault, Malformed d fault) :
    ∃ good bad rest fault, descriptions = good ++ bad :: rest ∧
      (∀ d ∈ good, ∀ other, ¬Malformed d other) ∧ Malformed bad fault := by
  induction descriptions with
  | nil =>
      obtain ⟨d, member, _⟩ := found
      cases member
  | cons d rest ih =>
      cases parsed : TaskDefinition.parseRevision d.taskDefinition with
      | error fault => exact ⟨[], d, rest, fault, rfl, nofun, parsed⟩
      | ok revision =>
          have fine : ∀ other, ¬Malformed d other := by
            intro other bad
            cases parsed.symm.trans bad
          obtain ⟨e, member, fault, bad⟩ := found
          have behind : e ∈ rest := by
            obtain rfl | behind := List.mem_cons.mp member
            · exact absurd bad (fine fault)
            · exact behind
          obtain ⟨good, first, last, fault, split, before, malformed⟩ := ih ⟨e, behind, fault, bad⟩
          refine ⟨d :: good, first, last, fault, by rw [split, List.cons_append], ?_, malformed⟩
          intro other member
          obtain rfl | inside := List.mem_cons.mp member
          · exact fine
          · exact before other inside

end Deployment

/-- The outcome of a collect that gave no snapshot. -/
def Outcome.isFailedCollect : Outcome → Bool
  | .collected (.error _) => true
  | _ => false

namespace Watcher

/-- The actions of a run without the collects that gave no snapshot. -/
def successful (w : Watcher) (actions : List Action) : List Action :=
  ((w.steps actions).filter fun step => !step.2.isFailedCollect).map (·.1)

theorem collect_of_first {w : Watcher} {description : ServiceDescription}
    {good rest : List DeploymentDescription} {bad : DeploymentDescription}
    {fault : TaskDefinitionFault} (split : description.deployments = good ++ bad :: rest)
    (before : ∀ d ∈ good, ∀ other, ¬Deployment.Malformed d other)
    (malformed : Deployment.Malformed bad fault) :
    w.collect (.described description) = { watcher := w, result := .error (.malformed fault) } := by
  rw [collect, split, Deployment.ofDescriptions_of_first before malformed]

theorem watcher_act_of_failed {w : Watcher} {action : Action}
    (failed : (w.act action).result.isFailedCollect = true) : (w.act action).watcher = w := by
  have happens := happens_act w action
  generalize (w.act action).watcher = after at happens ⊢
  generalize (w.act action).result = outcome at happens failed
  cases happens with
  | uncollected => rfl
  | _ => cases failed

theorem successful_cons_of_failed {w : Watcher} {action : Action} {rest : List Action}
    (failed : (w.act action).result.isFailedCollect = true) :
    w.successful (action :: rest) = w.successful rest := by
  rw [successful, steps_cons, List.filter_cons_of_neg (by simp [failed]),
    watcher_act_of_failed failed, successful]

theorem successful_cons_of_kept {w : Watcher} {action : Action} {rest : List Action}
    (kept : (w.act action).result.isFailedCollect = false) :
    w.successful (action :: rest) = action :: (w.act action).watcher.successful rest := by
  rw [successful, steps_cons, List.filter_cons_of_pos (by simp [kept]), List.map_cons, successful]

/-- Collects that failed can be erased, together with the replies that they used up. -/
theorem run_successful (w : Watcher) (actions : List Action) :
    w.run (w.successful actions) =
      ((w.run actions).1, (w.run actions).2.filter fun effect => !effect.result.isFailedCollect) := by
  induction actions generalizing w with
  | nil => rfl
  | cons action rest ih =>
      cases failed : (w.act action).result.isFailedCollect with
      | true =>
          have same := watcher_act_of_failed failed
          rw [successful_cons_of_failed failed, ih, run_cons, same,
            List.filter_cons_of_neg (by simp [failed])]
      | false =>
          rw [successful_cons_of_kept failed, run_cons, ih, run_cons,
            List.filter_cons_of_pos (by simp [failed])]

theorem steps_successful (w : Watcher) (actions : List Action) :
    w.steps (w.successful actions) =
      (w.steps actions).filter fun step => !step.2.isFailedCollect := by
  induction actions generalizing w with
  | nil => rfl
  | cons action rest ih =>
      cases failed : (w.act action).result.isFailedCollect with
      | true =>
          have same := watcher_act_of_failed failed
          rw [successful_cons_of_failed failed, ih, steps_cons, same,
            List.filter_cons_of_neg (by simp [failed])]
      | false =>
          rw [successful_cons_of_kept failed, steps_cons, ih, steps_cons,
            List.filter_cons_of_pos (by simp [failed])]

theorem note_of_failed {step : Step} (failed : step.2.isFailedCollect = true) (h : History) :
    h.note step = h := by
  obtain ⟨action, outcome⟩ := step
  cases outcome with
  | collected result =>
      cases result with
      | error fault => rfl
      | ok snapshot => cases failed
  | _ => cases failed

theorem foldl_note_filter (steps : List Step) :
    ∀ h : History, (steps.filter fun step => !step.2.isFailedCollect).foldl .note h =
      steps.foldl .note h := by
  induction steps with
  | nil =>
      intro h
      rfl
  | cons step rest ih =>
      intro h
      cases failed : step.2.isFailedCollect with
      | true =>
          rw [List.filter_cons_of_neg (by simp [failed]), List.foldl_cons, note_of_failed failed, ih]
      | false =>
          rw [List.filter_cons_of_pos (by simp [failed]), List.foldl_cons, List.foldl_cons, ih]

/-- Collects that failed are not part of the past. -/
theorem history_successful (w : Watcher) (actions : List Action) :
    w.history (w.successful actions) = w.history actions := by
  rw [history, history, steps_successful]
  exact foldl_note_filter (w.steps actions) {}

/-- In every reachable state, a collect leaves the watcher exactly as it was if the describer
reports a fault, if the question is given up, or if some deployment of the answer is malformed,
whatever else is in the answer. The first malformed deployment is the one that is complained of.
Erasing such collects from a run changes neither its end, nor the effect of any other action, nor
what any listener has read. -/
theorem failed_collect_leaves_no_trace (plan : Plan) (actions : List Action) :
    let w := ((create plan).run actions).1
    (∀ fault, ∃ error, error.fault = fault ∧
      (w.collect (.failed fault)).result = .error (.fetch error) ∧
      (w.collect (.failed fault)).watcher = w) ∧
    ((w.collect .unanswered).result = .error .unanswered ∧
      (w.collect .unanswered).watcher = w) ∧
    (∀ description, (∃ d ∈ description.deployments, ∃ fault, Deployment.Malformed d fault) →
      ∃ good bad rest fault, description.deployments = good ++ bad :: rest ∧
        (∀ d ∈ good, ∀ other, ¬Deployment.Malformed d other) ∧ Deployment.Malformed bad fault ∧
        (w.collect (.described description)).result = .error (.malformed fault) ∧
        (CollectFault.malformed fault).breach? =
          some ("describer returned a malformed task definition: " ++ fault.message) ∧
        (w.collect (.described description)).watcher = w) ∧
    (create plan).run ((create plan).successful actions) =
      (w, ((create plan).run actions).2.filter fun effect => !effect.result.isFailedCollect) ∧
    (create plan).history ((create plan).successful actions) =
      (create plan).history actions := by
  intro w
  refine ⟨?_, ⟨rfl, rfl⟩, ?_, run_successful (create plan) actions,
    history_successful (create plan) actions⟩
  · intro fault
    exact ⟨_, rfl, rfl, rfl⟩
  · intro description malformed
    obtain ⟨good, bad, rest, fault, split, before, first⟩ :=
      Deployment.exists_first_malformed malformed
    have collected := collect_of_first (w := w) split before first
    refine ⟨good, bad, rest, fault, split, before, first, ?_, rfl, ?_⟩
    · rw [collected]
    · rw [collected]

/-- A run with a collect that fails on each side of one that succeeds, while the front snapshot is
half delivered. -/
def interrupted : List Action :=
  [.owner (.collect (.failed (.throttled "rate exceeded"))), .owner .subscribe, .owner .subscribe,
    .owner (.collect (.sample 1)), .owner .publish, .reader (.receive 0),
    .owner (.collect (.sample 2)), .owner .publish, .abandon, .owner (.collect .unanswered)]

/-- A steady primary deployment in front of one whose task definition has no revision. -/
def steadyThenMalformed : ServiceDescription :=
  let steady : DeploymentDescription := {
    status := "PRIMARY"
    taskDefinition := "task-definition/frontend:7"
    desiredCount := 3
    runningCount := 3
    pendingCount := 0
    failedCount := 0
    rolloutState := "COMPLETED" }
  { deployments := [steady, { steady with taskDefinition := "task-definition/frontend" }]
    events := [{ id := ⟨"e1"⟩, message := "task failed", createdAt := { seconds := 200 } }] }

theorem failed_collect_leaves_no_trace_interrupted :
    let w := ((create .sample).run interrupted).1
    (w.delivered = 1 ∧ w.gate.signaled = false) ∧
      (∃ d ∈ steadyThenMalformed.deployments, ∃ fault, Deployment.Malformed d fault) ∧
      (∃ good bad rest fault, steadyThenMalformed.deployments = good ++ bad :: rest ∧
        (∀ d ∈ good, ∀ other, ¬Deployment.Malformed d other) ∧ Deployment.Malformed bad fault ∧
        (w.collect (.described steadyThenMalformed)).result = .error (.malformed fault) ∧
        (CollectFault.malformed fault).breach? =
          some ("describer returned a malformed task definition: " ++ fault.message) ∧
        (w.collect (.described steadyThenMalformed)).watcher = w) ∧
      ((create .sample).successful interrupted).length = 8 := by
  have malformed : ∃ d ∈ steadyThenMalformed.deployments, ∃ fault, Deployment.Malformed d fault :=
    ⟨_, List.mem_cons_of_mem _ List.mem_cons_self, _, rfl⟩
  exact ⟨by decide +kernel, malformed,
    (failed_collect_leaves_no_trace .sample interrupted).2.2.1 _ malformed, by decide +kernel⟩

end Watcher

end RolloutWatch
