import RolloutWatch.Identifier.Basic
import RolloutWatch.Instant.Basic

/-!
# Descriptions of a service

What a describer hands back: the active deployments in an order of its own, and
the events of the service, newest first.
-/

namespace RolloutWatch

/-- One active deployment as the describer reports it. -/
structure DeploymentDescription where
  status : String
  /-- The full identifier of the task definition. -/
  taskDefinition : String
  desiredCount : Nat
  runningCount : Nat
  pendingCount : Nat
  failedCount : Nat
  rolloutState : String
deriving DecidableEq, Repr

/-- A message of the service. -/
structure ServiceEvent where
  id : Identifier .event
  message : String
  createdAt : Instant
deriving DecidableEq, Repr

/-- The state of a service at one time. -/
structure ServiceDescription where
  deployments : List DeploymentDescription := []
  /-- The events, newest first. -/
  events : List ServiceEvent := []
deriving DecidableEq, Repr

end RolloutWatch
