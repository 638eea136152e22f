import SchemaTypings.Name

/-! The two names of a member. The name in the object shape is the stem of the accessors
with its first character in lower case, in whichever of the two ways both are made: the
first letter of a plain word comes back from its capital. -/
namespace SchemaTypings.Name

theorem exists_ofNat {first count : Nat} {c : Char} (low : first ≤ c.toNat)
    (high : c.toNat < first + count) : ∃ n < count, c = Char.ofNat (first + n) := by
  refine ⟨c.toNat - first, by omega, ?_⟩
  rw [Nat.add_sub_cancel' low, Char.ofNat_toNat]

theorem exists_letter {c : Char} (lower : c.isLower = true) :
    ∃ n < 26, c = Char.ofNat (97 + n) := by
  have inside : (c.val ≥ 'a'.val && c.val ≤ 'z'.val) = true := lower
  have bounds : 97 ≤ c.toNat ∧ c.toNat ≤ 122 := by
    simpa [UInt32.le_iff_toNat_le] using inside
  exact exists_ofNat bounds.1 (by omega)

theorem exists_numeral {c : Char} (digit : c.isDigit = true) :
    ∃ n < 10, c = Char.ofNat (48 + n) := by
  have inside : (c.val ≥ '0'.val && c.val ≤ '9'.val) = true := digit
  have bounds : 48 ≤ c.toNat ∧ c.toNat ≤ 57 := by
    simpa [UInt32.le_iff_toNat_le] using inside
  exact exists_ofNat bounds.1 (by omega)

theorem lowerCase_toUpper (c : Char) (plain : (c.isLower || c.isDigit) = true) :
    Text.lowerCase c.toUpper = [c] := by
  have letters : ∀ n < 26,
      Text.lowerCase (Char.ofNat (97 + n)).toUpper = [Char.ofNat (97 + n)] := by
    decide
  have digits : ∀ n < 10, Text.lowerCase (Char.ofNat (48 + n)).toUpper = [Char.ofNat (48 + n)] := by
    decide
  rcases (Bool.or_eq_true _ _).mp plain with lower | digit
  · obtain ⟨n, bound, rfl⟩ := exists_letter lower
    exact letters n bound
  · obtain ⟨n, bound, rfl⟩ := exists_numeral digit
    exact digits n bound

theorem plainWords?_eq_some {name : List Char} {words : List (List Char)}
    (plain : plainWords? name = some words) :
    ∃ c word rest, words = (c :: word) :: rest ∧ (c.isLower || c.isDigit) = true := by
  unfold plainWords? at plain
  simp only [Option.ite_none_right_eq_some, Option.some.injEq] at plain
  obtain ⟨each, rfl⟩ := plain
  cases split : name.splitOn '_' with
  | nil => exact absurd split (List.splitOn_ne_nil _ _)
  | cons first rest =>
    rw [split, List.all_cons, Bool.and_eq_true] at each
    cases first with
    | nil => simp [isPlainWord] at each
    | cons c word =>
      have letters : (c :: word).all (fun c => c.isLower || c.isDigit) = true := by
        simpa [isPlainWord] using each.1
      rw [List.all_cons, Bool.and_eq_true] at letters
      exact ⟨c, word, rest, rfl, letters.1⟩

theorem toList_uncapitalized (name : String) :
    (uncapitalized name).toList = lowerFirst (capitalized name).toList := by
  unfold uncapitalized capitalized
  rw [String.toList_ofList, String.toList_ofList]
  cases plain : plainWords? name.toList with
  | none => rfl
  | some words =>
    obtain ⟨c, word, rest, rfl, letter⟩ := plainWords?_eq_some plain
    simp [capitalizeWord, lowerFirst, lowerCase_toUpper c letter]

theorem capitalizeRest_ne_nil (c : Char) (rest : List Char) : capitalizeRest (c :: rest) ≠ [] := by
  cases rest with
  | nil => simp [capitalizeRest]
  | cons d rest =>
    rw [capitalizeRest]
    split <;> exact List.cons_ne_nil _ _

theorem capitalizeWords_ne_nil {name : List Char} (filled : name ≠ []) :
    capitalizeWords name ≠ [] := by
  cases name with
  | nil => contradiction
  | cons c rest =>
    rw [capitalizeWords]
    split
    · exact List.cons_ne_nil _ _
    · exact capitalizeRest_ne_nil c rest

theorem toList_capitalized_ne_nil {name : String} (filled : name ≠ "") :
    (capitalized name).toList ≠ [] := by
  unfold capitalized
  rw [String.toList_ofList]
  cases plain : plainWords? name.toList with
  | none =>
    apply capitalizeWords_ne_nil
    simpa using filled
  | some words =>
    obtain ⟨c, word, rest, rfl, _⟩ := plainWords?_eq_some plain
    simp [capitalizeWord]

theorem lowerFirst_append {name : List Char} (filled : name ≠ []) (more : List Char) :
    lowerFirst (name ++ more) = lowerFirst name ++ more := by
  cases name with
  | nil => contradiction
  | cons c rest => simp [lowerFirst]

/-- What both names have after them does not matter, unless the name is empty. -/
theorem uncapitalized_append {name : String} (filled : name ≠ "") (suffix : String) :
    uncapitalized name ++ suffix = .ofList (lowerFirst (capitalized name ++ suffix).toList) := by
  apply String.toList_injective
  rw [String.toList_append, String.toList_append, String.toList_ofList, toList_uncapitalized,
    lowerFirst_append (toList_capitalized_ne_nil filled)]

end SchemaTypings.Name
