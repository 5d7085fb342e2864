import RolloutWatch.Duration.Text
import RolloutWatch.Proofs.Fallible

/-!
# Where reading a duration breaks off

All sums in the reading of a duration are checked, and what does not fit is a fault of
the text. One sum escapes the checks: the seconds stand at their largest number, and the
nanoseconds come to one full second, which is carried into the seconds too late. Only an
addition of nanoseconds can lead there, because a sum that has been reached has less than
a full second of them.
-/

namespace RolloutWatch.Duration

/-- So many nanoseconds more lead from the duration to one full second beyond the largest number
of seconds. -/
def Overshoots (d : Duration) (nanos : Nat) : Prop :=
  d.seconds = maxSeconds ∧ d.nanos + nanos = nanosPerSecond

/-- A check that fails is a fault of the text, so what breaks off is what follows a check that
holds. -/
theorem checked_bind_eq_breakdown_iff {count : Nat} {α : Type}
    {next : Nat → Except DurationFault α} :
    (checked count >>= next) = .error .breakdown ↔
      count ≤ maxCount ∧ next count = .error .breakdown := by
  by_cases held : count ≤ maxCount
  · rw [checked, if_pos held]
    exact (and_iff_right held).symm
  · rw [checked, if_neg held]
    exact ⟨nofun, fun ⟨fits, _⟩ => absurd fits held⟩

theorem ofParts?_eq_none_iff {seconds nanos : Nat} :
    ofParts? seconds nanos = none ↔ maxSeconds < seconds + nanos / nanosPerSecond := by
  unfold ofParts? nanosPerSecond
  simp

/-- What is carried from nanoseconds into seconds. A full second alone is not. -/
def carry (nanos : Nat) : Nat :=
  if nanosPerSecond < nanos then nanos / nanosPerSecond else 0

theorem carry_nanosPerSecond : carry nanosPerSecond = 0 :=
  if_neg (Nat.lt_irrefl _)

/-- Where the seconds fit with what is carried into them, they are exceeded by what is left of the
nanoseconds at one sum only. -/
theorem exceeded_iff {seconds nanos : Nat} (fits : seconds + carry nanos ≤ maxSeconds) :
    maxSeconds < seconds + carry nanos + (nanos - carry nanos * nanosPerSecond) / nanosPerSecond ↔
      seconds = maxSeconds ∧ nanos = nanosPerSecond := by
  have second : nanosPerSecond = 1000000000 := rfl
  by_cases carried : nanosPerSecond < nanos
  · -- Less than a second is left behind a carry.
    rw [carry, if_pos carried, second] at fits ⊢
    rw [second] at carried
    omega
  · rw [carry, if_neg carried] at fits ⊢
    rw [second] at carried ⊢
    omega

/-- Adding seconds and nanoseconds breaks off at one sum only. -/
theorem extend_eq_breakdown_iff {d : Duration} {seconds nanos : Nat} :
    d.extend seconds nanos = .error .breakdown ↔
      d.seconds + seconds = maxSeconds ∧ d.nanos + nanos = nanosPerSecond := by
  constructor
  · intro broken
    obtain ⟨_, broken⟩ := checked_bind_eq_breakdown_iff.mp broken
    obtain ⟨_, broken⟩ := checked_bind_eq_breakdown_iff.mp broken
    obtain ⟨fits, broken⟩ := checked_bind_eq_breakdown_iff.mp broken
    split at broken
    · cases broken
    · next none =>
        rw [← Nat.add_assoc] at fits none
        exact (exceeded_iff fits).mp (ofParts?_eq_none_iff.mp none)
  · rintro ⟨full, reached⟩
    have fits : d.seconds + seconds + carry (d.nanos + nanos) ≤ maxSeconds := by
      rw [reached, carry_nanosPerSecond, full]
      exact Nat.le_refl _
    have none := ofParts?_eq_none_iff.mpr ((exceeded_iff fits).mpr ⟨full, reached⟩)
    have small : d.nanos + nanos ≤ maxCount := by
      rw [reached]
      decide
    rw [Nat.add_assoc] at fits none
    have added : seconds + carry (d.nanos + nanos) ≤ maxCount :=
      Nat.le_trans (Nat.le_add_left ..) fits
    apply checked_bind_eq_breakdown_iff.mpr ⟨small, ?_⟩
    apply checked_bind_eq_breakdown_iff.mpr ⟨added, ?_⟩
    apply checked_bind_eq_breakdown_iff.mpr ⟨fits, ?_⟩
    split
    · next sum some => cases none.symm.trans some
    · rfl

/-- A division that does not come out is a fault of the text too. -/
theorem divided_eq_breakdown_iff {remainder : Nat} {next : Except DurationFault Duration} :
    (if remainder ≠ 0 then .error .malformed else next) = .error .breakdown ↔
      remainder = 0 ∧ next = .error .breakdown := by
  by_cases divides : remainder = 0
  · rw [if_neg (not_not_intro divides)]
    exact (and_iff_right divides).symm
  · rw [if_pos divides]
    exact ⟨nofun, fun ⟨zero, _⟩ => absurd zero divides⟩

/-- Only a measure in nanoseconds can break off, and only if its count is read without a fault. -/
theorem extendBy_eq_breakdown_iff {d : Duration} {count divisor : Nat} {measure : Measure} :
    d.extendBy count divisor measure = .error .breakdown ↔
      ∃ per, measure = .nanos per ∧ count * per ≤ maxCount ∧ divisor ∣ count * per ∧
        d.Overshoots (count * per / divisor) := by
  constructor
  · intro broken
    cases measure with
    | nanos per =>
        obtain ⟨bound, broken⟩ := checked_bind_eq_breakdown_iff.mp broken
        obtain ⟨divides, broken⟩ := divided_eq_breakdown_iff.mp broken
        have overshoots := extend_eq_breakdown_iff.mp broken
        exact ⟨per, rfl, bound, Nat.dvd_of_mod_eq_zero divides, overshoots⟩
    | seconds per =>
        obtain ⟨_, broken⟩ := checked_bind_eq_breakdown_iff.mp broken
        obtain ⟨_, broken⟩ := divided_eq_breakdown_iff.mp broken
        have full : d.nanos = nanosPerSecond := (extend_eq_breakdown_iff.mp broken).2
        exact absurd full (Nat.ne_of_lt d.nanos_lt)
  · rintro ⟨per, rfl, bound, divides, overshoots⟩
    apply checked_bind_eq_breakdown_iff.mpr ⟨bound, ?_⟩
    apply divided_eq_breakdown_iff.mpr ⟨Nat.mod_eq_zero_of_dvd divides, ?_⟩
    exact extend_eq_breakdown_iff.mpr overshoots

/-- Adding the term breaks off, either at its whole units or, behind these, at its fraction. -/
inductive BreaksAt (d : Duration) (term : Term) : Prop where
  | whole {per : Nat}
      (counted : term.unit.whole = .nanos per)
      (held : term.whole * per ≤ maxCount)
      (overshoots : d.Overshoots (term.whole * per))
  | fraction {sum : Duration} {count divisor per : Nat}
      (begun : d.extendBy term.whole 1 term.unit.whole = .ok sum)
      (written : term.fraction = some (count, divisor))
      (divided : term.unit.divisible? = some (.nanos per))
      (held : count * per ≤ maxCount)
      (divides : divisor ∣ count * per)
      (overshoots : sum.Overshoots (count * per / divisor))

theorem addTerm_eq_breakdown_iff {d : Duration} {term : Term} :
    d.addTerm term = .error .breakdown ↔ d.BreaksAt term := by
  constructor
  · intro broken
    obtain broken | ⟨sum, begun, broken⟩ := bind_eq_error.mp broken
    · obtain ⟨per, counted, held, _, overshoots⟩ := extendBy_eq_breakdown_iff.mp broken
      rw [Nat.div_one] at overshoots
      exact .whole counted held overshoots
    · split at broken
      · cases broken
      · next count divisor written =>
          split at broken
          · cases broken
          · next measure divided =>
              obtain ⟨per, rfl, held, divides, overshoots⟩ := extendBy_eq_breakdown_iff.mp broken
              exact .fraction begun written divided held divides overshoots
  · intro breaks
    cases breaks with
    | whole counted held overshoots =>
        refine bind_eq_error.mpr (.inl (extendBy_eq_breakdown_iff.mpr ?_))
        exact ⟨_, counted, held, Nat.one_dvd _, by rwa [Nat.div_one]⟩
    | fraction begun written divided held divides overshoots =>
        refine bind_eq_error.mpr (.inr ⟨_, begun, ?_⟩)
        simp only [written, divided]
        exact extendBy_eq_breakdown_iff.mpr ⟨_, rfl, held, divides, overshoots⟩

/-- The text begins with a term, behind blanks, and `after` follows it. -/
def NextTerm (text : List Char) (term : Term) (after : List Char) : Prop :=
  ∃ c rest, Text.trimLeft text = c :: rest ∧ c.isDigit = true ∧
    readTerm? (c :: rest) = some (term, after)

/-- The first term of a text is added first. -/
theorem addTerms_of_next {d : Duration} {text after : List Char} {term : Term}
    (next : NextTerm text term after) :
    d.addTerms text = d.addTerm term >>= fun sum => sum.addTerms after := by
  obtain ⟨c, rest, trimmed, digit, read⟩ := next
  rw [addTerms]
  split
  · next blank =>
      rw [trimmed] at blank
      cases blank
  · next c' rest' trimmed' =>
      rw [trimmed] at trimmed'
      cases trimmed'
      rw [dif_pos digit]
      split
      · next unread =>
          rw [read] at unread
          cases unread
      · next term' after' read' =>
          rw [read] at read'
          cases read'
          rfl

/-- Adding the terms of a text breaks off at one of them. -/
inductive Overruns : Duration → List Char → Prop where
  | here {d : Duration} {text after : List Char} {term : Term}
      (next : NextTerm text term after)
      (breaks : d.BreaksAt term) :
      Overruns d text
  | later {d sum : Duration} {text after : List Char} {term : Term}
      (next : NextTerm text term after)
      (added : d.addTerm term = .ok sum)
      (rest : Overruns sum after) :
      Overruns d text

/-- A term has to be there for an addition of terms to break off. -/
theorem next_of_breakdown {d : Duration} {text : List Char}
    (broken : d.addTerms text = .error .breakdown) : ∃ term after, NextTerm text term after := by
  rw [addTerms] at broken
  split at broken
  · cases broken
  · next c rest trimmed =>
      split at broken
      · next digit =>
          split at broken
          · cases broken
          · next term after read => exact ⟨term, after, c, rest, trimmed, digit, read⟩
      · cases broken

theorem overruns_of_breakdown {d : Duration} {text : List Char}
    (broken : d.addTerms text = .error .breakdown) : d.Overruns text := by
  obtain ⟨term, after, next⟩ := next_of_breakdown broken
  rw [addTerms_of_next next] at broken
  obtain broken | ⟨sum, added, broken⟩ := bind_eq_error.mp broken
  · exact .here next (addTerm_eq_breakdown_iff.mp broken)
  · exact .later next added (overruns_of_breakdown broken)
termination_by text.length
decreasing_by
  obtain ⟨c, rest, trimmed, digit, read⟩ := next
  exact length_lt_of_trimLeft trimmed digit read

theorem addTerms_eq_breakdown_iff {d : Duration} {text : List Char} :
    d.addTerms text = .error .breakdown ↔ d.Overruns text := by
  constructor
  · exact overruns_of_breakdown
  · intro overruns
    induction overruns with
    | here next breaks =>
        rw [addTerms_of_next next, addTerm_eq_breakdown_iff.mpr breaks]
        rfl
    | later next added _ ih =>
        rw [addTerms_of_next next, added]
        exact ih

/-- A text with a first term is not blank. -/
theorem Overruns.not_blank {d : Duration} {text : List Char} (overruns : d.Overruns text) :
    (Text.trimLeft text).isEmpty = false := by
  cases overruns with
  | here next _ | later next _ _ =>
      obtain ⟨c, rest, trimmed, _⟩ := next
      rw [trimmed]
      rfl

/-- The reading of a duration breaks off exactly if a term leads one full second beyond the largest
number of seconds, from there where the terms before it have led. -/
theorem parse_eq_breakdown_iff {text : String} :
    Duration.parse text = .error .breakdown ↔ zero.Overruns text.toList := by
  unfold parse
  split
  · next zeroed =>
      subst zeroed
      rw [← addTerms_eq_breakdown_iff]
      decide +kernel
  · split
    · next blank =>
        constructor
        · nofun
        · intro overruns
          rw [overruns.not_blank] at blank
          cases blank
    · exact addTerms_eq_breakdown_iff

end RolloutWatch.Duration
