import RolloutWatch.Watcher.Basic

/-!
# Collecting

One observation of the rollout. The describer is asked once, and only an answer
whose deployments can all be read changes the watcher: a complete rollout signals
the gate, the new events enter the ledger, and a snapshot enters the buffer. What
can go wrong is looked at before anything changes.
-/

namespace RolloutWatch

/-- What comes of asking the describer. -/
inductive Reply where
  | described (description : ServiceDescription)
  | failed (fault : DescribeFault)
  /-- The question was given up before the answer came. -/
  | unanswered
deriving DecidableEq, Repr

/-- Why there is no snapshot. -/
inductive CollectFault where
  | fetch (error : FetchError)
  /-- The task definition of some deployment cannot be read. -/
  | malformed (fault : TaskDefinitionFault)
  | unanswered
deriving DecidableEq, Repr

namespace CollectFault

/-- What is said about a description that breaks the describer's promise. -/
def breach? : CollectFault → Option String
  | malformed fault => some ("describer returned a malformed task definition: " ++ fault.message)
  | _ => none

end CollectFault

namespace Watcher

/-- The snapshot and the ledger that a description leads to. -/
def observe (w : Watcher) (deployments : List Deployment) (events : List ServiceEvent) :
    Snapshot × Ledger :=
  let (seen, ledger) := Ledger.scan w.plan.target.createdAt w.ledger events
  let failures := (seen.map (·.message)).filter w.plan.keywords.matchesText
  ({ deployments, failures }, ledger)

/-- Takes a description whose deployments have been read. -/
def record (w : Watcher) (deployments : List Deployment) (events : List ServiceEvent) :
    Effect Snapshot :=
  let target := w.plan.target
  let (gate, first) :=
    if deployments.any fun d => d.isPrimary && d.isSteady then w.gate.signal
    else (w.gate, false)
  let (snapshot, ledger) := w.observe deployments events
  { watcher := { w with gate, ledger, pending := w.pending ++ [snapshot] }
    result := snapshot
    logs :=
      (if first then [.desiredCountReached target.cluster target.service] else [])
        ++ [.collected deployments.length snapshot.failures.length ledger.size] }

/-- Takes a reply of the describer. -/
def collect (w : Watcher) (reply : Reply) : Effect (Except CollectFault Snapshot) :=
  match reply with
  | .unanswered => { watcher := w, result := .error .unanswered }
  | .failed fault =>
    let error : FetchError := {
      cluster := w.plan.target.cluster
      service := w.plan.target.service
      fault }
    { watcher := w, result := .error (.fetch error), logs := [.collectFailed error] }
  | .described description =>
    match Deployment.ofDescriptions description.deployments with
    | .error fault => { watcher := w, result := .error (.malformed fault) }
    | .ok deployments =>
      let effect := w.record deployments description.events
      { watcher := effect.watcher, result := .ok effect.result, logs := effect.logs }

end Watcher

end RolloutWatch
