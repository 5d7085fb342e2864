import RolloutWatch.Proofs.Duration.Overrun
import RolloutWatch.Proofs.Settings.Source

/-!
# Where reading settings breaks off

What comes of a source are settings or a fault to be told, unless the reading of an
interval breaks off. The main result says for which texts it does. Nothing else in a
document or a directory can do that, whatever it holds.
-/

namespace RolloutWatch.Settings

/-- The reading of a source breaks off exactly if the source holds a text, the reading of that text
comes to the value of the interval, and the terms of this duration lead one full second beyond the
largest number of seconds. -/
theorem breaks_off_iff (source : Source) :
    source.outcome = .error (.settings (.unread .breakdown)) ↔
      ∃ text draft key part rest word, source.Holds text ∧
        Comes (.ofText text) draft .fetchInterval key (part :: rest) ∧
        ((Yaml.Document.ofText text).head part).word (.field key) "a duration" = .ok word ∧
        Duration.zero.Overruns word.toList := by
  rw [Source.outcome_eq_unread_iff (fun _ => SettingsFault.noConfusion)]
  constructor
  · rintro ⟨text, draft, field, key, value, holds, comes, refuses⟩
    cases refuses with
    | @interval part rest word written broken =>
        have overruns := Duration.parse_eq_breakdown_iff.mp broken
        exact ⟨text, draft, key, part, rest, word, holds, comes, written, overruns⟩
  · rintro ⟨text, draft, key, part, rest, word, holds, comes, written, overruns⟩
    have broken := Duration.parse_eq_breakdown_iff.mpr overruns
    exact ⟨text, draft, .fetchInterval, key, part :: rest, holds, comes, .interval written broken⟩

/-- A text for which there is neither an interval nor a fault to be told. -/
theorem breaks_off_at_full_second :
    Source.outcome (.text "fetch_interval: 18446744073709551615s 1000000000ns") =
      .error (.settings (.unread .breakdown)) := by
  decide +kernel

/-- One nanosecond less is the longest interval. -/
example : ofYaml "fetch_interval: 18446744073709551615s 999999999ns" =
    .ok { fetchInterval := { seconds := Duration.maxSeconds, nanos := 999999999 } } := by
  decide +kernel

end RolloutWatch.Settings
