/-!
# Warnings

Problems that do not stop a publish and that a caller should know about.
-/

namespace RolloutWatch

/-- A problem that was noticed while publishing. -/
inductive Warning where
  /-- The reading end of the listener with this number went away. -/
  | listenerDropped (index : Nat)
deriving DecidableEq, Repr

namespace Warning

/-- The name of the warning's class. -/
def label : Warning → String
  | listenerDropped _ => "ListenerDropped"

def message : Warning → String
  | listenerDropped index =>
    "listener #" ++ toString index ++ " was dropped before receiving a snapshot"

end Warning

end RolloutWatch
