import RolloutWatch.Identifier.Basic

/-!
# Failed descriptions

A describer reports why it could not describe a service, with an error of its own
or with a foreign one, which is passed on as it is together with its causes.
`FetchError` adds which service was meant. Its causes begin with the describer's
error, and for a foreign error they are exactly the texts of the foreign chain.
-/

namespace RolloutWatch

/-- Why a describer could not describe a service. -/
inductive DescribeFault where
  | serviceNotFound (cluster service : String)
  | throttled (text : String)
  | accessDenied (text : String)
  | requestFailed (text : String)
  /-- A foreign error with the texts of its chain of causes, the nearest first. -/
  | foreign (text : String) (causes : List String)
deriving DecidableEq, Repr

namespace DescribeFault

def message : DescribeFault → String
  | serviceNotFound cluster service =>
    "service " ++ service ++ " not found in cluster " ++ cluster
  | throttled text => "request throttled: " ++ text
  | accessDenied text => "access denied: " ++ text
  | requestFailed text => "describe request failed: " ++ text
  | foreign text _ => text

/-- The causes below the fault itself. -/
def causes : DescribeFault → List String
  | foreign _ causes => causes
  | _ => []

/-- The classes of faults that a caller tells apart. -/
inductive Kind where
  | notFound
  | throttled
  | accessDenied
  | request
deriving DecidableEq, Repr

def Kind.label : Kind → String
  | notFound => "NotFound"
  | throttled => "Throttled"
  | accessDenied => "AccessDenied"
  | request => "Request"

/-- A foreign error counts as a failed request. -/
def kind : DescribeFault → Kind
  | serviceNotFound .. => .notFound
  | throttled _ => .throttled
  | accessDenied _ => .accessDenied
  | requestFailed _ => .request
  | foreign .. => .request

end DescribeFault

/-- A failed attempt to fetch the description of a service. -/
structure FetchError where
  cluster : Identifier .cluster
  service : Identifier .service
  fault : DescribeFault
deriving DecidableEq, Repr

namespace FetchError

def message (error : FetchError) : String :=
  "fetch service description for " ++ error.service.text ++ " in " ++ error.cluster.text ++ ": "
    ++ error.fault.message

def kind (error : FetchError) : DescribeFault.Kind :=
  error.fault.kind

/-- The texts of the chain of causes below the error. -/
def causes (error : FetchError) : List String :=
  error.fault.message :: error.fault.causes

end FetchError

end RolloutWatch
