import Mathlib.Data.List.TakeWhile
import RolloutWatch.Watcher.Collect

/-!
# How task definitions are written

A family and a revision are written in a text behind its first slash, with a colon
between them. Neither of them has a slash or a colon in it, and behind the revision
the text ends or goes on with one of the two. `Writes` says this without any reading
of the text, and the main result is that the texts that are written so are exactly
those that can be read, with the same family and revision. All other texts have no
slash, or no colon between the first slash and the next.
-/

namespace RolloutWatch.TaskDefinition

section Marks

variable {mark : Char} {text front rest segment : List Char}

theorem forall_bne_iff : (∀ c ∈ text, (c != mark) = true) ↔ mark ∉ text := by
  constructor
  · intro passed present
    exact bne_iff_ne.mp (passed mark present) rfl
  · intro absent c member
    exact bne_iff_ne.mpr fun same => absent (same ▸ member)

theorem before_append (absent : mark ∉ front) (rest : List Char) :
    before mark (front ++ rest) = front ++ before mark rest :=
  List.takeWhile_append_of_pos (forall_bne_iff.mpr absent)

/-- Where a mark comes first, or nothing at all, nothing is in front of it. -/
theorem before_eq_nil (stop : ∀ c ∈ text.head?, c = mark) : before mark text = [] := by
  cases text with
  | nil => rfl
  | cons c rest =>
      obtain rfl := stop c rfl
      exact List.takeWhile_cons_of_neg (by simp)

theorem after?_append (absent : mark ∉ front) (rest : List Char) :
    after? mark (front ++ mark :: rest) = some rest := by
  rw [after?, List.dropWhile_append_of_pos (forall_bne_iff.mpr absent)]
  simp

/-- Nothing is behind a mark that is not there. -/
theorem after?_eq_none_iff : after? mark text = none ↔ mark ∉ text := by
  rw [← forall_bne_iff, ← List.dropWhile_eq_nil_iff, after?]
  split <;> simp_all

/-- What is behind the first mark makes up the text, together with the mark and a part in front of
it. -/
theorem exists_of_after? (found : after? mark text = some rest) :
    ∃ front, mark ∉ front ∧ text = front ++ mark :: rest := by
  have present : mark ∈ text := by
    rw [← not_not (a := mark ∈ text), ← after?_eq_none_iff, found]
    nofun
  obtain ⟨front, behind, rfl, absent⟩ := List.eq_append_cons_of_mem present
  rw [after?_append absent] at found
  cases found
  exact ⟨front, absent, rfl⟩

/-- Behind the part in front of a mark the text ends, or the mark comes. -/
theorem exists_of_before (mark : Char) (text : List Char) :
    ∃ segment behind, before mark text = segment ∧ mark ∉ segment ∧ text = segment ++ behind ∧
      ∀ c ∈ behind.head?, c = mark := by
  cases found : after? mark text with
  | none =>
      have absent := after?_eq_none_iff.mp found
      have whole : before mark text = text := by
        rwa [before, List.takeWhile_eq_self_iff, forall_bne_iff]
      exact ⟨text, [], whole, absent, (List.append_nil text).symm, nofun⟩
  | some rest =>
      obtain ⟨front, absent, rfl⟩ := exists_of_after? found
      refine ⟨front, mark :: rest, ?_, absent, rfl, by simp⟩
      rw [before_append absent, before_eq_nil (by simp), List.append_nil]

end Marks

/-- A text without a slash and a colon. -/
def IsName (text : String) : Prop :=
  '/' ∉ text.toList ∧ ':' ∉ text.toList

/-- The text writes a family and a revision. -/
def Writes (text family revision : String) : Prop :=
  ∃ front behind : String, text = front ++ "/" ++ family ++ ":" ++ revision ++ behind ∧
    '/' ∉ front.toList ∧ IsName family ∧ IsName revision ∧
    ∀ c ∈ behind.toList.head?, c = '/' ∨ c = ':'

/-- There is no colon between the first slash of the text and the next one, or the end. -/
def LacksColon (text : String) : Prop :=
  ∃ front segment behind : String, text = front ++ "/" ++ segment ++ behind ∧
    '/' ∉ front.toList ∧ IsName segment ∧ ∀ c ∈ behind.toList.head?, c = '/'

variable {text family revision : String} {d : TaskDefinition} {fault : TaskDefinitionFault}

theorem parse_of_no_slash (absent : '/' ∉ text.toList) :
    parse text = .error (.missingFamily text) := by
  rw [parse, after?_eq_none_iff.mpr absent]

theorem parse_of_lacksColon (lacks : LacksColon text) :
    parse text = .error (.missingRevision text) := by
  obtain ⟨front, segment, behind, rfl, absent, ⟨slashless, colonless⟩, stop⟩ := lacks
  have spelled : (front ++ "/" ++ segment ++ behind).toList =
      front.toList ++ '/' :: (segment.toList ++ behind.toList) := by simp
  have found := after?_append absent (segment.toList ++ behind.toList)
  have piece : before '/' (segment.toList ++ behind.toList) = segment.toList := by
    rw [before_append slashless, before_eq_nil stop, List.append_nil]
  simp only [parse, spelled, found, piece, after?_eq_none_iff.mpr colonless]

theorem parse_of_writes (written : Writes text family revision) :
    parse text = .ok { text, family, revision } := by
  obtain ⟨front, behind, rfl, absent, ⟨slashless, colonless⟩, ⟨unslashed, plain⟩, stop⟩ := written
  have spelled : (front ++ "/" ++ family ++ ":" ++ revision ++ behind).toList =
      front.toList ++ '/' :: (family.toList ++ ':' :: (revision.toList ++ behind.toList)) := by simp
  have found := after?_append absent (family.toList ++ ':' :: (revision.toList ++ behind.toList))
  have piece : before '/' (family.toList ++ ':' :: (revision.toList ++ behind.toList)) =
      family.toList ++ ':' :: (revision.toList ++ before '/' behind.toList) := by
    have colon : '/' ∉ [':'] := by decide
    rw [before_append slashless, ← List.singleton_append, before_append colon,
      before_append unslashed, List.singleton_append]
  have first : before ':' (family.toList ++ ':' :: (revision.toList ++ before '/' behind.toList)) =
      family.toList := by
    rw [before_append colonless, before_eq_nil (by simp), List.append_nil]
  -- Behind the revision the segment ends or a colon comes.
  have rest : ∀ c ∈ (before '/' behind.toList).head?, c = ':' := by
    intro c begins
    cases behind_eq : behind.toList with
    | nil =>
        rw [behind_eq] at begins
        cases begins
    | cons d later =>
        rw [behind_eq] at stop begins
        obtain rfl | rfl := stop d rfl
        · rw [before_eq_nil (by simp)] at begins
          cases begins
        · rw [before, List.takeWhile_cons_of_pos (by decide)] at begins
          cases begins
          rfl
  have second : before ':' (revision.toList ++ before '/' behind.toList) = revision.toList := by
    rw [before_append plain, before_eq_nil rest, List.append_nil]
  simp only [parse, spelled, found, piece, after?_append colonless, first, second,
    String.ofList_toList]

/-- There are no other texts. -/
theorem writes_or_lacks (text : String) :
    '/' ∉ text.toList ∨ LacksColon text ∨ ∃ family revision, Writes text family revision := by
  cases found : after? '/' text.toList with
  | none => exact .inl (after?_eq_none_iff.mp found)
  | some rest =>
      obtain ⟨front, absent, text_eq⟩ := exists_of_after? found
      obtain ⟨segment, behind, _, slashless, rfl, stop⟩ := exists_of_before '/' rest
      cases colon : after? ':' segment with
      | none =>
          refine .inr (.inl ⟨.ofList front, .ofList segment, .ofList behind, ?_, ?_, ⟨?_, ?_⟩, ?_⟩)
          · apply String.toList_inj.mp
            simp [text_eq]
          · simpa using absent
          · simpa using slashless
          · simpa using after?_eq_none_iff.mp colon
          · simpa using stop
      | some tail =>
          obtain ⟨family, colonless, rfl⟩ := exists_of_after? colon
          obtain ⟨revision, remainder, _, plain, rfl, ends⟩ := exists_of_before ':' tail
          simp only [List.mem_append, List.mem_cons, not_or] at slashless
          obtain ⟨unslashed, _, bare, _⟩ := slashless
          refine .inr (.inr ⟨.ofList family, .ofList revision, .ofList front,
            .ofList (remainder ++ behind), ?_, ?_, ⟨?_, ?_⟩, ⟨?_, ?_⟩, ?_⟩)
          · apply String.toList_inj.mp
            simp [text_eq]
          · simpa using absent
          · simpa using unslashed
          · simpa using colonless
          · simpa using bare
          · simpa using plain
          · intro c begins
            rw [String.toList_ofList] at begins
            cases remainder with
            | nil => exact .inl (stop c begins)
            | cons d later => exact .inr (ends c begins)

theorem parse_eq_ok_iff :
    parse text = .ok d ↔ Writes text d.family d.revision ∧ d.text = text := by
  constructor
  · intro read
    obtain absent | lacks | ⟨family, revision, written⟩ := writes_or_lacks text
    · cases (parse_of_no_slash absent).symm.trans read
    · cases (parse_of_lacksColon lacks).symm.trans read
    · cases (parse_of_writes written).symm.trans read
      exact ⟨written, rfl⟩
  · rintro ⟨written, rfl⟩
    exact parse_of_writes written

theorem parse_eq_error_iff :
    parse text = .error fault ↔
      (fault = .missingFamily text ∧ '/' ∉ text.toList) ∨
        (fault = .missingRevision text ∧ LacksColon text) := by
  constructor
  · intro failed
    obtain absent | lacks | ⟨family, revision, written⟩ := writes_or_lacks text
    · cases (parse_of_no_slash absent).symm.trans failed
      exact .inl ⟨rfl, absent⟩
    · cases (parse_of_lacksColon lacks).symm.trans failed
      exact .inr ⟨rfl, lacks⟩
    · cases (parse_of_writes written).symm.trans failed
  · rintro (⟨rfl, absent⟩ | ⟨rfl, lacks⟩)
    · exact parse_of_no_slash absent
    · exact parse_of_lacksColon lacks

theorem LacksColon.mem_slash (lacks : LacksColon text) : '/' ∈ text.toList := by
  obtain ⟨front, segment, behind, rfl, _⟩ := lacks
  simp

/-- What is said about a text ends with the text, and names the first of the two marks that it does
not have in its place. -/
theorem message_of_parse_eq_error (failed : parse text = .error fault) :
    fault.message = (if '/' ∈ text.toList then
        "task definition identifier has no ':' separated revision: "
      else "task definition identifier has no '/' separated family segment: ") ++ text := by
  obtain ⟨rfl, absent⟩ | ⟨rfl, lacks⟩ := parse_eq_error_iff.mp failed
  · rw [if_neg absent]
    rfl
  · rw [if_pos lacks.mem_slash]
    rfl

/-- The identifiers of task definitions are exactly the texts that write a family and a revision.
These two are unique, and the text itself is kept. A text without a slash lacks the family, and one
without a colon between its first slash and the next one lacks the revision; there are no other
faults, and they keep the text as well. The revision alone is read from the same texts. Any other
text breaks the promise of the describer, and what is said then ends with the fault. -/
theorem parse_accepts_grammar (text : String) :
    (∀ family revision, (∃ d, parse text = .ok d ∧ d.family = family ∧ d.revision = revision) ↔
      Writes text family revision) ∧
    (∀ family revision family' revision', Writes text family revision →
      Writes text family' revision' → family = family' ∧ revision = revision') ∧
    (∀ d, parse text = .ok d → d.text = text ∧ toString d = text) ∧
    (∀ fault, parse text = .error fault ↔
      (fault = .missingFamily text ∧ '/' ∉ text.toList) ∨
        (fault = .missingRevision text ∧ LacksColon text)) ∧
    (∀ revision, parseRevision text = .ok revision ↔ ∃ family, Writes text family revision) ∧
    ∀ fault, parse text = .error fault → parseRevision text = .error fault ∧
      (CollectFault.malformed fault).breach? =
        some ("describer returned a malformed task definition: " ++ fault.message) := by
  refine ⟨?_, ?_, ?_, fun fault => parse_eq_error_iff, ?_, ?_⟩
  · intro family revision
    constructor
    · rintro ⟨d, read, rfl, rfl⟩
      exact (parse_eq_ok_iff.mp read).1
    · intro written
      exact ⟨_, parse_of_writes written, rfl, rfl⟩
  · intro family revision family' revision' written other
    have same := (parse_of_writes written).symm.trans (parse_of_writes other)
    cases same
    exact ⟨rfl, rfl⟩
  · intro d read
    obtain ⟨_, kept⟩ := parse_eq_ok_iff.mp read
    exact ⟨kept, kept⟩
  · intro revision
    rw [parseRevision]
    constructor
    · intro read
      cases parsed : parse text with
      | error fault =>
          rw [parsed] at read
          cases read
      | ok d =>
          rw [parsed] at read
          cases read
          exact ⟨d.family, (parse_eq_ok_iff.mp parsed).1⟩
    · rintro ⟨family, written⟩
      rw [parse_of_writes written]
      rfl
  · intro fault failed
    rw [parseRevision, failed]
    exact ⟨rfl, rfl⟩

/-- A family without letters in front of segments and components that are ignored, and a text whose
only colon comes too early. -/
theorem parse_accepts_grammar_emptyFamily :
    (Writes "ecs:1/:7:8/b:9" "" "7" ∧
      ∀ family revision, Writes "ecs:1/:7:8/b:9" family revision → family = "" ∧ revision = "7") ∧
    (parse "ecs:1/:7:8/b:9" = .ok { text := "ecs:1/:7:8/b:9", family := "", revision := "7" } ∧
      parseRevision "ecs:1/:7:8/b:9" = .ok "7") ∧
    (parse "ecs:1/b" = .error (.missingRevision "ecs:1/b") ∧
      parseRevision "ecs:1/b" = .error (.missingRevision "ecs:1/b") ∧
      (CollectFault.malformed (.missingRevision "ecs:1/b")).breach? =
        some ("describer returned a malformed task definition: "
          ++ "task definition identifier has no ':' separated revision: ecs:1/b")) := by
  obtain ⟨accepted, unique, _, _, revisions, _⟩ := parse_accepts_grammar "ecs:1/:7:8/b:9"
  obtain ⟨_, _, _, refused, _, broken⟩ := parse_accepts_grammar "ecs:1/b"
  have read : parse "ecs:1/:7:8/b:9" =
      .ok { text := "ecs:1/:7:8/b:9", family := "", revision := "7" } := by decide +kernel
  have written : Writes "ecs:1/:7:8/b:9" "" "7" := (accepted "" "7").mp ⟨_, read, rfl, rfl⟩
  have failed : parse "ecs:1/b" = .error (.missingRevision "ecs:1/b") := by decide +kernel
  have message := message_of_parse_eq_error failed
  rw [if_pos (by decide)] at message
  refine ⟨⟨written, fun family revision other => ?_⟩, ⟨read, ?_⟩, failed, (broken _ failed).1,
    (broken _ failed).2.trans (congrArg some ?_)⟩
  · exact unique family revision "" "7" other written
  · exact (revisions "7").mpr ⟨"", written⟩
  · rw [message]
    decide +kernel

end RolloutWatch.TaskDefinition
