import SchemaTypings.Proofs.WordCase

/-! Names put together at a separator. A separator takes away the character after it, and then
neither of the two can be part of another pair; so a name can be cut at each separator that no
other one comes before, and its parts be converted apart. Of the characters that are no
separators none goes away and none comes in. -/
namespace SchemaTypings.Name

/-- The text does not end with a separator, which could take the next character away. -/
def Closed (text : List Char) : Prop := ∀ c ∈ text.getLast?, isSeparator c = false

theorem Closed.tail {c : Char} {text : List Char} (closed : Closed (c :: text)) : Closed text := by
  intro d last
  apply closed d
  rw [List.getLast?_cons, Option.mem_def.mp last]
  rfl

section Join

variable {separator next : Char} (separates : isSeparator separator = true)
  (starts : isWordChar next = true)
include separates starts

theorem capitalizeRest_join {text : List Char} (closed : Closed text) (rest : List Char) :
    capitalizeRest (text ++ separator :: next :: rest) =
      capitalizeRest text ++ next.toUpper :: capitalizeRest rest := by
  -- pair by pair, as the conversion takes them: the last character may end a pair, not open one
  fun_induction capitalizeRest text with
  | case1 c d text pair ih =>
    rw [List.cons_append, List.cons_append, capitalizeRest, if_pos pair, ih closed.tail.tail,
      List.cons_append]
  | case2 c d text apart ih =>
    rw [List.cons_append, List.cons_append, capitalizeRest, if_neg apart, ← List.cons_append,
      ih closed.tail, List.cons_append]
  | case3 text short =>
    rcases text with _ | ⟨c, _ | ⟨d, text⟩⟩
    · exact capitalizeRest_pair separates starts rest
    · rw [List.singleton_append, capitalizeRest_cons (closed c rfl),
        capitalizeRest_pair separates starts, List.singleton_append]
    · exact (short c d text rfl).elim

theorem capitalizeWords_join {text : List Char} (filled : text ≠ []) (closed : Closed text)
    (rest : List Char) :
    capitalizeWords (text ++ separator :: next :: rest) =
      capitalizeWords text ++ capitalizeWords (next :: rest) := by
  obtain ⟨c, text, rfl⟩ := List.exists_cons_of_ne_nil filled
  rw [List.cons_append, capitalizeWords, capitalizeWords, capitalizeWords, if_pos starts]
  split
  next => rw [capitalizeRest_join separates starts closed.tail, List.cons_append]
  next => rw [← List.cons_append, capitalizeRest_join separates starts closed]

end Join

theorem toUpper_cases (c : Char) : c.toUpper = c ∨ ∃ n < 26, c = Char.ofNat (97 + n) := by
  cases lower : c.isLower with
  | true => exact .inr (exists_letter lower)
  | false =>
    have letter : (c.val ≥ 'a'.val && c.val ≤ 'z'.val) = false := lower
    have outside : ¬ ('a'.val ≤ c.val ∧ c.val ≤ 'z'.val) := by
      simpa using letter
    exact .inl (dif_neg outside)

theorem isSeparator_toUpper (c : Char) : isSeparator c.toUpper = isSeparator c := by
  have letters : ∀ n < 26, isSeparator (Char.ofNat (97 + n)).toUpper =
      isSeparator (Char.ofNat (97 + n)) := by decide
  rcases toUpper_cases c with same | ⟨n, bound, rfl⟩
  · rw [same]
  · exact letters n bound

theorem toLower_toUpper (c : Char) : c.toUpper.toLower = c.toLower := by
  have letters : ∀ n < 26, (Char.ofNat (97 + n)).toUpper.toLower =
      (Char.ofNat (97 + n)).toLower := by decide
  rcases toUpper_cases c with same | ⟨n, bound, rfl⟩
  · rw [same]
  · exact letters n bound

/-- What is left of a text without its separators and without the case of its letters. -/
def bare (text : List Char) : List Char := (text.filter (!isSeparator ·)).map Char.toLower

theorem bare_cons (c : Char) (text : List Char) :
    bare (c :: text) = if isSeparator c then bare text else c.toLower :: bare text := by
  unfold bare
  rw [List.filter_cons]
  cases isSeparator c <;> rfl

theorem bare_toUpper (c : Char) (text : List Char) :
    bare (c.toUpper :: text) = bare (c :: text) := by
  rw [bare_cons, bare_cons, isSeparator_toUpper, toLower_toUpper]

theorem bare_congr (c : Char) {text other : List Char} (same : bare text = bare other) :
    bare (c :: text) = bare (c :: other) := by
  rw [bare_cons, bare_cons, same]

theorem bare_capitalizeRest (text : List Char) : bare (capitalizeRest text) = bare text := by
  fun_induction capitalizeRest text with
  | case1 c d text pair ih =>
    have separates : isSeparator c = true := ((Bool.and_eq_true _ _).mp pair).1
    rw [bare_toUpper, bare_cons c, if_pos separates, bare_congr d ih]
  | case2 c d text apart ih => exact bare_congr c ih
  | case3 => rfl

theorem bare_capitalizeWords (text : List Char) : bare (capitalizeWords text) = bare text := by
  cases text with
  | nil => rfl
  | cons c text =>
    rw [capitalizeWords]
    split
    next => rw [bare_toUpper, bare_congr c (bare_capitalizeRest text)]
    next => exact bare_capitalizeRest (c :: text)

/-- Two parts of a name that a separator, which they do not affect, holds together. -/
structure Joint (first : String) (separator : Char) (second : String) : Prop where
  ends : ∃ c, first.toList.getLast? = some c ∧ isSeparator c = false
  separates : isSeparator separator = true
  starts : ∃ c, second.toList.head? = some c ∧ isWordChar c = true

theorem Joint.capitalized_eq {first second : String} {separator : Char}
    (joint : Joint first separator second) :
    capitalized (first ++ String.singleton separator ++ second) =
      capitalized first ++ capitalized second := by
  obtain ⟨⟨last, ends, kept⟩, separates, next, opens, starts⟩ := joint
  obtain ⟨rest, second_eq⟩ := List.head?_eq_some_iff.mp opens
  have filled : first.toList ≠ [] := by
    intro empty
    rw [empty] at ends
    cases ends
  have closed : Closed first.toList := by
    intro c member
    cases ends.symm.trans member
    exact kept
  have whole : (first ++ String.singleton separator ++ second).toList =
      first.toList ++ separator :: next :: rest := by
    rw [String.toList_append, String.toList_append, String.toList_singleton, second_eq,
      List.append_assoc, List.singleton_append]
  rw [Name.capitalized_eq, Name.capitalized_eq, Name.capitalized_eq, whole, second_eq,
    capitalizeWords_join separates starts filled closed, String.ofList_append]

theorem capitalized_eq_empty_iff (name : String) : capitalized name = "" ↔ name = "" := by
  constructor
  · intro empty
    apply Decidable.byContradiction
    intro filled
    exact toList_capitalized_ne_nil filled (congrArg String.toList empty)
  · rintro rfl
    rfl

/-- The capitals of a name are made part by part, whichever way each part is converted in, and
nothing is lost but separators. -/
theorem capitalized_by_parts :
    (∀ (first second : String) (separator : Char), Joint first separator second →
      capitalized (first ++ String.singleton separator ++ second) =
        capitalized first ++ capitalized second) ∧
    ∀ name : String, bare (capitalized name).toList = bare name.toList ∧
      (capitalized name = "" ↔ name = "") := by
  refine ⟨fun _ _ _ joint => joint.capitalized_eq, fun name => ⟨?_, capitalized_eq_empty_iff name⟩⟩
  rw [Name.capitalized_eq, String.toList_ofList, bare_capitalizeWords]

/-- A part with a hyphen that stays, and one that starts with a separator itself. -/
theorem user_id_by_parts :
    Joint "user-É" '-' "_id" ∧ capitalized "user-É-_id" = "User-É" ++ "_id" := by
  have joint : Joint "user-É" '-' "_id" := ⟨⟨'É', by decide⟩, by decide, ⟨'_', by decide⟩⟩
  have first : capitalized "user-É" = "User-É" := by decide +kernel
  have second : capitalized "_id" = "_id" := by decide +kernel
  have whole := capitalized_by_parts.1 "user-É" "_id" '-' joint
  rw [first, second] at whole
  exact ⟨joint, whole⟩

end SchemaTypings.Name
