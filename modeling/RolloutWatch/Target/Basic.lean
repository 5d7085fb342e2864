import RolloutWatch.Identifier.Basic
import RolloutWatch.Instant.Basic

/-!
# Targets

The rollout that is watched: a service in a cluster, and when its deployment was
created. Events before that time belong to earlier rollouts.
-/

namespace RolloutWatch

/-- One rollout. -/
structure Target where
  cluster : Identifier .cluster
  service : Identifier .service
  createdAt : Instant
deriving DecidableEq, Repr

end RolloutWatch
