import RolloutWatch.Proofs.Watcher.History

/-!
# The causes of a failed collect

Three kinds of errors stand above one another when a collect fails: the fetch error, the fault of
the describer, and foreign errors. `Failure.cause?` says for each of them which one is right below
it. A foreign error that a describer passes on shows itself in place of the describer's fault, so
the cause of that fault is the cause of the foreign error.

Going down from the fetch error, one cause after the other, the fault of the describer is met first
and then, for a foreign error, everything that is below that. The texts met on the way are the
causes that a fetch error and a fault are said to have.
-/

namespace RolloutWatch

/-- An error of any kind. -/
inductive Failure where
  | fetch (error : FetchError)
  | describe (fault : DescribeFault)
  /-- A foreign error with the texts of its chain of causes, the nearest first. -/
  | foreign (text : String) (causes : List String)
deriving DecidableEq, Repr

namespace Failure

/-- What the error says of itself. -/
def text : Failure → String
  | fetch error => error.message
  | describe fault => fault.message
  | foreign text _ => text

/-- The foreign error whose text comes first, with the causes that follow. -/
def ofTexts? : List String → Option Failure
  | [] => none
  | text :: causes => some (foreign text causes)

/-- The error right below an error. -/
def cause? : Failure → Option Failure
  | fetch error => some (describe error.fault)
  | describe (.foreign _ causes) => ofTexts? causes
  | describe _ => none
  | foreign _ causes => ofTexts? causes

/-- Going down from an error along its causes, one meets errors with these texts, and the last of
them has no cause. -/
inductive LeadsTo : Failure → List String → Prop where
  | bottom {failure : Failure} (last : failure.cause? = none) : LeadsTo failure []
  | step {failure cause : Failure} {texts : List String} (next : failure.cause? = some cause)
      (below : LeadsTo cause texts) : LeadsTo failure (cause.text :: texts)

variable {failure : Failure} {texts others causes : List String}

/-- There is one way down only. -/
theorem LeadsTo.unique (down : LeadsTo failure texts) (other : LeadsTo failure others) :
    texts = others := by
  induction down generalizing others with
  | bottom last =>
      cases other with
      | bottom _ => rfl
      | step next _ => cases last.symm.trans next
  | step next _ ih =>
      cases other with
      | bottom last => cases last.symm.trans next
      | step next' below =>
          cases next.symm.trans next'
          rw [ih below]

/-- Below a foreign error one meets its causes, by induction on them for every error that has
them. -/
theorem leadsTo_of_texts (below : failure.cause? = ofTexts? causes) : LeadsTo failure causes := by
  induction causes generalizing failure with
  | nil => exact .bottom below
  | cons text causes ih => exact .step below (ih rfl)

theorem leadsTo_describe (fault : DescribeFault) : LeadsTo (describe fault) fault.causes := by
  cases fault with
  | foreign text causes => exact leadsTo_of_texts rfl
  | _ => exact .bottom rfl

theorem leadsTo_fetch_iff {error : FetchError} :
    LeadsTo (fetch error) texts ↔ texts = error.causes := by
  have down : LeadsTo (fetch error) error.causes := .step rfl (leadsTo_describe error.fault)
  constructor
  · intro other
    exact other.unique down
  · rintro rfl
    exact down

end Failure

/-- No two kinds of faults have one name. -/
theorem DescribeFault.Kind.label_inj {kind other : DescribeFault.Kind} :
    other.label = kind.label ↔ other = kind := by
  cases kind <;> cases other <;> decide

namespace Watcher

/-- A collect whose describer fails returns an error that names the service and the cluster of the
target and tells what the describer says. Below it one meets the describer's fault and nothing
else, or for a foreign error the texts of the foreign chain, and these are the causes that the error
is said to have. The one log entry, a warning, has the text of the returned error and the name of
its kind. -/
theorem fetch_error_keeps_cause (w : Watcher) (fault : DescribeFault) :
    ∃ error : FetchError, (w.collect (.failed fault)).result = .error (.fetch error) ∧
      error.cluster = w.plan.target.cluster ∧ error.service = w.plan.target.service ∧
      error.message = "fetch service description for " ++ w.plan.target.service.text ++ " in "
        ++ w.plan.target.cluster.text ++ ": " ++ fault.message ∧
      (∀ texts, Failure.LeadsTo (.fetch error) texts ↔
        match fault with
        | .foreign text causes => texts = text :: causes
        | own => texts = [own.message]) ∧
      Failure.LeadsTo (.fetch error) error.causes ∧
      ∃ entry : LogEntry, (w.collect (.failed fault)).logs = [entry] ∧
        entry.level = .warn ∧ entry.message = "collect failed" ∧
        entry.fields = [("error", .text error.message), ("kind", .text error.kind.label)] ∧
        ∀ kind : DescribeFault.Kind, kind.label = error.kind.label ↔ kind = error.kind := by
  refine ⟨{ cluster := w.plan.target.cluster, service := w.plan.target.service, fault }, rfl, rfl,
    rfl, rfl, ?_, Failure.leadsTo_fetch_iff.mpr rfl, _, rfl, rfl, rfl, rfl,
    fun kind => DescribeFault.Kind.label_inj⟩
  intro texts
  rw [Failure.leadsTo_fetch_iff]
  cases fault <;> exact Iff.rfl

/-- A foreign error with two causes. -/
def brokenPipe : DescribeFault :=
  .foreign "broken pipe" ["timed out", "no route"]

/-- Faults of all kinds. -/
def everyFault : List DescribeFault :=
  [.serviceNotFound "prod" "frontend", .throttled "slow down", .accessDenied "expired token",
    .requestFailed "connection reset", brokenPipe]

theorem fetch_error_keeps_cause_brokenPipe :
    everyFault.map (fun fault => (fault.message, fault.kind.label)) =
      [("service frontend not found in cluster prod", "NotFound"),
        ("request throttled: slow down", "Throttled"),
        ("access denied: expired token", "AccessDenied"),
        ("describe request failed: connection reset", "Request"),
        ("broken pipe", "Request")] ∧
      ∃ error entry, ((create .sample).collect (.failed brokenPipe)).result =
          .error (.fetch error) ∧
        error.message = "fetch service description for frontend in prod: broken pipe" ∧
        (∀ texts, Failure.LeadsTo (.fetch error) texts ↔
          texts = ["broken pipe", "timed out", "no route"]) ∧
        ((create .sample).collect (.failed brokenPipe)).logs = [entry] ∧
        entry.fields =
          [("error", .text "fetch service description for frontend in prod: broken pipe"),
            ("kind", .text "Request")] := by
  obtain ⟨error, failed, _, _, message, down, _, entry, logs, _, _, fields, _⟩ :=
    fetch_error_keeps_cause (create .sample) brokenPipe
  have said : error.message = "fetch service description for frontend in prod: broken pipe" :=
    message.trans (by decide +kernel)
  cases failed
  rw [said] at fields
  exact ⟨by decide +kernel, _, entry, rfl, said, down, logs, fields⟩

end Watcher

end RolloutWatch
