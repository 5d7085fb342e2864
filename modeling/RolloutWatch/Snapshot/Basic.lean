import RolloutWatch.Service.Description
import RolloutWatch.TaskDefinition

/-!
# Snapshots of a rollout

A snapshot holds the deployments of one description, one for one and in order,
and the failure messages that were new in it. A deployment keeps the revision of
its task definition and no other part of it, so a description whose task
definition cannot be read has no snapshot.

The rollout is complete when some primary deployment runs as many tasks as it
should.
-/

namespace RolloutWatch

/-- One deployment of a service. -/
structure Deployment where
  status : String
  revision : String
  desiredCount : Nat
  runningCount : Nat
  failedCount : Nat
  pendingCount : Nat
  rolloutState : String
deriving DecidableEq, Repr

namespace Deployment

/-- The status of the deployment that the service converges to. -/
def primaryStatus : String := "PRIMARY"

/-- Reads the revision of the task definition and copies the rest. -/
def ofDescription (d : DeploymentDescription) : Except TaskDefinitionFault Deployment := do
  let revision ← TaskDefinition.parseRevision d.taskDefinition
  return {
    status := d.status
    revision
    desiredCount := d.desiredCount
    runningCount := d.runningCount
    failedCount := d.failedCount
    pendingCount := d.pendingCount
    rolloutState := d.rolloutState }

/-- Reads a list of deployments. The first one that cannot be read decides the fault. -/
def ofDescriptions : List DeploymentDescription → Except TaskDefinitionFault (List Deployment)
  | [] => .ok []
  | d :: rest => do
    let deployment ← ofDescription d
    let deployments ← ofDescriptions rest
    return deployment :: deployments

def isPrimary (d : Deployment) : Bool :=
  d.status == primaryStatus

/-- Every task that should run is running. -/
def isSteady (d : Deployment) : Bool :=
  d.desiredCount == d.runningCount

end Deployment

/-- One observation of a rollout. -/
structure Snapshot where
  deployments : List Deployment
  /-- The failure messages first seen in this observation, newest first. -/
  failures : List String
deriving DecidableEq, Repr

namespace Snapshot

/-- The first primary deployment. -/
def primary? (s : Snapshot) : Option Deployment :=
  s.deployments.find? (·.isPrimary)

/-- Some primary deployment is steady. -/
def isComplete (s : Snapshot) : Bool :=
  s.deployments.any fun d => d.isPrimary && d.isSteady

end Snapshot

end RolloutWatch
