import RolloutWatch.Keywords

/-!
# Which messages report a failure

A message reports a failure exactly if it can be cut into three parts of which the one in
the middle is a keyword. So it does not matter in which order the keywords are given, or how
often, more keywords find no fewer failures, and whatever a message that reports a failure is
put into reports it as well.
-/

namespace RolloutWatch

/-- A word occurs in a text exactly if the text can be cut in front of it and behind it. -/
theorem Text.occurs_iff_exists_append {word text : String} :
    occurs word.toList text.toList = true ↔
      ∃ front behind : String, text = front ++ word ++ behind := by
  rw [occurs_iff]
  constructor
  · rintro ⟨front, behind, spelled⟩
    refine ⟨.ofList front, .ofList behind, String.toList_inj.mp ?_⟩
    simp [← spelled]
  · rintro ⟨front, behind, rfl⟩
    exact ⟨front.toList, behind.toList, by simp⟩

namespace Keywords

variable {keywords other : Keywords} {words : List String} {message : String}

theorem ofList?_eq_some_iff : ofList? words = some keywords ↔ keywords.toList = words := by
  constructor
  · intro made
    cases words with
    | nil => cases made
    | cons first rest =>
        cases made
        rfl
  · rintro rfl
    exact ofList?_toList keywords

/-- Any list of keywords will do, unless it is empty. -/
theorem exists_ofList?_iff : (∃ keywords, ofList? words = some keywords) ↔ words ≠ [] := by
  cases words with
  | nil => simp [ofList?]
  | cons first rest => simp [ofList?]

theorem matchesText_iff :
    keywords.matchesText message = true ↔
      ∃ word ∈ keywords.toList, ∃ front behind : String, message = front ++ word ++ behind := by
  simp only [matchesText, List.any_eq_true, Text.occurs_iff_exists_append]

theorem matchesText_mono (more : keywords.toList ⊆ other.toList)
    (found : keywords.matchesText message = true) : other.matchesText message = true := by
  obtain ⟨word, member, place⟩ := matchesText_iff.mp found
  exact matchesText_iff.mpr ⟨word, more member, place⟩

/-- Only which words there are matters. -/
theorem matchesText_congr (same : ∀ word, word ∈ other.toList ↔ word ∈ keywords.toList)
    (message : String) : other.matchesText message = keywords.matchesText message := by
  rw [Bool.eq_iff_iff]
  constructor
  · exact matchesText_mono fun word member => (same word).mp member
  · exact matchesText_mono fun word member => (same word).mpr member

theorem matchesText_append (found : keywords.matchesText message = true) (front behind : String) :
    keywords.matchesText (front ++ message ++ behind) = true := by
  obtain ⟨word, member, before, after, rfl⟩ := matchesText_iff.mp found
  refine matchesText_iff.mpr ⟨word, member, front ++ before, after ++ behind, ?_⟩
  simp only [String.append_assoc]

/-- The keywords of a list that has some report exactly the messages that contain a word of the
list. What they report does not depend on the order and the repetition of the words, grows with
them, and stays reported in every longer message. -/
theorem matches_containing_messages (words : List String) :
    (words ≠ [] ↔ ∃ keywords, ofList? words = some keywords) ∧
    ∀ keywords, ofList? words = some keywords → ∀ message,
      (keywords.matchesText message = true ↔
        ∃ word ∈ words, ∃ front behind : String, message = front ++ word ++ behind) ∧
      (∀ words' other, ofList? words' = some other → (∀ word, word ∈ words' ↔ word ∈ words) →
        other.matchesText message = keywords.matchesText message) ∧
      (∀ words' other, ofList? words' = some other → words ⊆ words' →
        keywords.matchesText message = true → other.matchesText message = true) ∧
      ∀ front behind : String, keywords.matchesText message = true →
        keywords.matchesText (front ++ message ++ behind) = true := by
  refine ⟨exists_ofList?_iff.symm, fun keywords made message => ?_⟩
  obtain rfl := ofList?_eq_some_iff.mp made
  refine ⟨matchesText_iff, ?_, ?_, fun front behind found => matchesText_append found front behind⟩
  · intro words' other made' same
    obtain rfl := ofList?_eq_some_iff.mp made'
    exact matchesText_congr same message
  · intro words' other made' more found
    obtain rfl := ofList?_eq_some_iff.mp made'
    exact matchesText_mono more found

/-- A keyword whose beginning is repeated in front of it, next to one outside of ASCII; then both of
them the other way round and one of them twice, and an empty one in addition. -/
theorem matches_containing_messages_overlapping :
    (ofList? ["aab", "é!"] = some { first := "aab", rest := ["é!"] } ∧
      (∃ word ∈ ["aab", "é!"], ∃ front behind : String, "aaab" = front ++ word ++ behind) ∧
      ¬∃ word ∈ ["aab", "é!"], ∃ front behind : String, "aé b" = front ++ word ++ behind) ∧
    ((Keywords.mk "é!" ["aab", "é!"]).matchesText "aaab" = true ∧
      (Keywords.mk "" ["aab", "é!"]).matchesText "aaab" = true) ∧
    (Keywords.mk "aab" ["é!"]).matchesText ("aa" ++ "aaab" ++ "b") = true := by
  have made : ofList? ["aab", "é!"] = some { first := "aab", rest := ["é!"] } := rfl
  obtain ⟨_, all⟩ := matches_containing_messages ["aab", "é!"]
  obtain ⟨contains, unordered, more, longer⟩ := all _ made "aaab"
  have found : (Keywords.mk "aab" ["é!"]).matchesText "aaab" = true := by decide +kernel
  have missing : ¬(Keywords.mk "aab" ["é!"]).matchesText "aé b" = true := by decide +kernel
  refine ⟨⟨made, contains.mp found, fun place => ?_⟩, ⟨?_, ?_⟩, longer "aa" "b" found⟩
  · exact missing ((all _ made "aé b").1.mpr place)
  · have same : ∀ word, word ∈ ["é!", "aab", "é!"] ↔ word ∈ ["aab", "é!"] := by
      intro word
      simpa using Or.inr
    rw [unordered _ _ rfl same, found]
  · exact more ["", "aab", "é!"] _ rfl (by simp) found

end Keywords

end RolloutWatch
