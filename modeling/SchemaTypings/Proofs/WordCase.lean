import SchemaTypings.Proofs.MemberNames

/-! That names in the usual style are put together from their words does not show. Word by word
or character by character, the capitals are those that begin a word, and the underscores between
the words go away. All that is asked of a conversion of words is what it makes of such names. -/
namespace SchemaTypings.Name

/-- What the usual names consist of: at least one word, and none without characters. -/
structure PlainWords (words : List (List Char)) : Prop where
  filled : words ≠ []
  each : ∀ word ∈ words, isPlainWord word = true

def joined (words : List (List Char)) : String := .ofList (['_'].intercalate words)

theorem toList_joined (words : List (List Char)) :
    (joined words).toList = ['_'].intercalate words := by
  rw [joined, String.toList_ofList]

theorem words_of_plainWords? {name : String} {words : List (List Char)}
    (plain : plainWords? name.toList = some words) : PlainWords words ∧ name = joined words := by
  unfold plainWords? at plain
  simp only [Option.ite_none_right_eq_some, Option.some.injEq] at plain
  obtain ⟨each, rfl⟩ := plain
  refine ⟨⟨List.splitOn_ne_nil _ _, List.all_eq_true.mp each⟩, ?_⟩
  rw [joined, List.intercalate_splitOn, String.ofList_toList]

theorem exists_of_isPlainWord {word : List Char} (plain : isPlainWord word = true) :
    ∃ c rest, word = c :: rest ∧ ∀ d ∈ word, (d.isLower || d.isDigit) = true := by
  obtain ⟨filled, letters⟩ := (Bool.and_eq_true _ _).mp plain
  cases word with
  | nil => cases filled
  | cons c rest => exact ⟨c, rest, rfl, List.all_eq_true.mp letters⟩

section Characters

variable {c : Char} (plain : (c.isLower || c.isDigit) = true)
include plain

theorem isSeparator_of_plain : isSeparator c = false := by
  apply Bool.eq_false_iff.mpr
  intro separates
  rcases (Bool.or_eq_true _ _).mp separates with hyphen | underscore
  · cases eq_of_beq hyphen
    exact absurd plain (by decide)
  · cases eq_of_beq underscore
    exact absurd plain (by decide)

theorem isWordChar_of_plain : isWordChar c = true := by
  have letter : c.isAlphanum = true := by
    change (c.isUpper || c.isLower || c.isDigit) = true
    rw [Bool.or_assoc, plain, Bool.or_true]
  rw [isWordChar, letter, Bool.true_or]

end Characters

theorem capitalizeRest_cons {c : Char} (inside : isSeparator c = false) (rest : List Char) :
    capitalizeRest (c :: rest) = c :: capitalizeRest rest := by
  cases rest with
  | nil => rfl
  | cons d rest => rw [capitalizeRest, inside, Bool.false_and, if_neg Bool.false_ne_true]

theorem capitalizeRest_append {word : List Char} (inside : ∀ c ∈ word, isSeparator c = false)
    (rest : List Char) : capitalizeRest (word ++ rest) = word ++ capitalizeRest rest := by
  induction word with
  | nil => rfl
  | cons c word ih =>
    obtain ⟨first, others⟩ := List.forall_mem_cons.mp inside
    rw [List.cons_append, capitalizeRest_cons first, ih others, List.cons_append]

theorem capitalizeRest_pair {separator c : Char} (separates : isSeparator separator = true)
    (starts : isWordChar c = true) (rest : List Char) :
    capitalizeRest (separator :: c :: rest) = c.toUpper :: capitalizeRest rest := by
  rw [capitalizeRest, separates, starts, Bool.and_self, if_pos rfl]

theorem capitalizeRest_word {word : List Char} (plain : isPlainWord word = true)
    (rest : List Char) :
    capitalizeRest ('_' :: (word ++ rest)) = capitalizeWord word ++ capitalizeRest rest := by
  obtain ⟨c, tail, rfl, letters⟩ := exists_of_isPlainWord plain
  obtain ⟨first, others⟩ := List.forall_mem_cons.mp letters
  have inside : ∀ d ∈ tail, isSeparator d = false :=
    fun d member => isSeparator_of_plain (others d member)
  rw [List.cons_append, capitalizeRest_pair rfl (isWordChar_of_plain first),
    capitalizeRest_append inside]
  rfl

theorem capitalizeRest_joined {words : List (List Char)}
    (plain : ∀ word ∈ words, isPlainWord word = true) (filled : words ≠ []) :
    capitalizeRest ('_' :: ['_'].intercalate words) = words.flatMap capitalizeWord := by
  induction words with
  | nil => contradiction
  | cons word words ih =>
    obtain ⟨first, others⟩ := List.forall_mem_cons.mp plain
    cases words with
    | nil =>
      have last := capitalizeRest_word first []
      rw [List.append_nil] at last
      rw [List.intercalate_singleton, last, List.flatMap_cons]
      rfl
    | cons next words =>
      rw [List.intercalate_cons_cons, List.append_assoc, capitalizeRest_word first,
        List.flatMap_cons, ← ih others (List.cons_ne_nil _ _)]
      rfl

theorem PlainWords.splitOn_joined {words : List (List Char)} (plain : PlainWords words) :
    (joined words).toList.splitOn '_' = words := by
  rw [toList_joined]
  refine List.splitOn_intercalate '_' ?_ plain.filled
  intro word member underscore
  obtain ⟨_, _, _, letters⟩ := exists_of_isPlainWord (plain.each word member)
  exact absurd (letters '_' underscore) (by decide)

theorem PlainWords.exists_start {words : List (List Char)} (plain : PlainWords words) :
    ∃ c rest, ['_'].intercalate words = c :: rest ∧ isWordChar c = true := by
  obtain ⟨filled, each⟩ := plain
  cases words with
  | nil => contradiction
  | cons word words =>
    obtain ⟨c, tail, rfl, letters⟩ := exists_of_isPlainWord (each word List.mem_cons_self)
    have starts := isWordChar_of_plain (letters c List.mem_cons_self)
    cases words with
    | nil => exact ⟨c, tail, List.intercalate_singleton, starts⟩
    | cons next words => exact ⟨c, _, List.intercalate_cons_cons, starts⟩

theorem PlainWords.capitalizeWords_eq {words : List (List Char)} (plain : PlainWords words) :
    capitalizeWords (['_'].intercalate words) = words.flatMap capitalizeWord := by
  -- the first word is as if it had an underscore before it, as all others have
  obtain ⟨c, rest, name, starts⟩ := plain.exists_start
  rw [← capitalizeRest_joined plain.each plain.filled, name, capitalizeWords, if_pos starts,
    capitalizeRest_pair rfl starts]

theorem capitalized_eq (name : String) :
    capitalized name = .ofList (capitalizeWords name.toList) := by
  unfold capitalized
  cases usual : plainWords? name.toList with
  | none => rfl
  | some words =>
    obtain ⟨plain, rfl⟩ := words_of_plainWords? usual
    rw [toList_joined, plain.capitalizeWords_eq]

theorem uncapitalized_eq (name : String) :
    uncapitalized name = .ofList (lowerFirst (capitalized name).toList) := by
  rw [← toList_uncapitalized, String.ofList_toList]

/-- Conversions of which nothing is known but what they make of the usual names: the first
character of each word becomes a capital, or that of each word but the first. -/
structure WordCase where
  upper : String → String
  lower : String → String
  upper_joined : ∀ words, PlainWords words →
    upper (joined words) = .ofList (words.flatMap capitalizeWord)
  lower_joined : ∀ word words, PlainWords (word :: words) →
    lower (joined (word :: words)) = .ofList (word ++ words.flatMap capitalizeWord)

namespace WordCase

def capitalized (convert : WordCase) (name : String) : String :=
  if (plainWords? name.toList).isSome then convert.upper name
  else .ofList (capitalizeWords name.toList)

def uncapitalized (convert : WordCase) (name : String) : String :=
  if (plainWords? name.toList).isSome then convert.lower name
  else .ofList (lowerFirst (capitalizeWords name.toList))

variable (convert : WordCase) (name : String)

theorem capitalized_eq : convert.capitalized name = Name.capitalized name := by
  unfold capitalized Name.capitalized
  cases usual : plainWords? name.toList with
  | none => rfl
  | some words =>
    obtain ⟨plain, rfl⟩ := words_of_plainWords? usual
    exact convert.upper_joined words plain

theorem uncapitalized_eq : convert.uncapitalized name = Name.uncapitalized name := by
  unfold uncapitalized Name.uncapitalized
  cases usual : plainWords? name.toList with
  | none => rfl
  | some words =>
    obtain ⟨plain, rfl⟩ := words_of_plainWords? usual
    cases words with
    | nil => exact absurd rfl plain.filled
    | cons word words => exact convert.lower_joined word words plain

def bySplitting : WordCase where
  upper name := .ofList ((name.toList.splitOn '_').flatMap capitalizeWord)
  lower name := match name.toList.splitOn '_' with
    | [] => ""
    | word :: words => .ofList (word ++ words.flatMap capitalizeWord)
  upper_joined words plain := by rw [plain.splitOn_joined]
  lower_joined word words plain := by rw [plain.splitOn_joined]

end WordCase

/-- Both names of a member come from the characters of the field's name alone, also where it is
left to a conversion of words to make them. -/
theorem names_by_characters (name : String) :
    capitalized name = .ofList (capitalizeWords name.toList) ∧
      uncapitalized name = .ofList (lowerFirst (capitalized name).toList) ∧
      ∀ convert : WordCase,
        convert.capitalized name = capitalized name ∧
          convert.uncapitalized name = uncapitalized name :=
  ⟨capitalized_eq name, uncapitalized_eq name, fun convert =>
    ⟨convert.capitalized_eq name, convert.uncapitalized_eq name⟩⟩

/-- A name of three words, of which the last starts with a digit. -/
theorem display_name_by_splitting :
    (plainWords? "display_name_2nd".toList).isSome = true ∧
      WordCase.bySplitting.capitalized "display_name_2nd" = "DisplayName2nd" ∧
      WordCase.bySplitting.uncapitalized "display_name_2nd" = "displayName2nd" := by
  obtain ⟨pascal, camel, either⟩ := names_by_characters "display_name_2nd"
  obtain ⟨upper, lower⟩ := either .bySplitting
  rw [upper, lower, camel, pascal]
  decide +kernel

end SchemaTypings.Name
