import SchemaTypings.Proofs.Legible
import SchemaTypings.TypeExpr

/-! The text of a type tells the type. A type that is no union is a word, or starts with `Array<`
or `?`; what it goes on with tells which of them. A union is its members with bars between them,
so a bar goes on with the type and every other mark that comes after a type ends it. -/
namespace SchemaTypings

/-- The characters with a meaning of their own in the text of typings. -/
def marks : List Char := [' ', '\n', '(', ')', ',', ':', ';', '<', '>', '?', '|', '\x7d']

/-- A name without marks. It can hold letters, digits, `_` and `$`, and a dot after a module. -/
structure IsWord (text : String) : Prop where
  filled : text ≠ ""
  unmarked : ∀ c ∈ text.toList, c ∉ marks

instance (text : String) : Decidable (IsWord text) :=
  decidable_of_iff (text ≠ "" ∧ text.toList.all (· ∉ marks) = true)
    ⟨fun ⟨filled, all⟩ => ⟨filled, by simpa using all⟩,
      fun ⟨filled, unmarked⟩ => ⟨filled, by simpa using unmarked⟩⟩

theorem isWord_of_identifier {text : String} (filled : text ≠ "")
    (each : ∀ c ∈ text.toList, c.isAlphanum = true ∨ c ∈ ['_', '$', '.']) : IsWord text where
  filled := filled
  unmarked c member marked := by
    have plain : marks.all (fun c => !c.isAlphanum && c ∉ ['_', '$', '.']) = true := by decide
    have neither := List.all_eq_true.mp plain c marked
    rcases each c member with letter | other
    · simp [letter] at neither
    · simp only [other, not_true, decide_false, Bool.and_false, Bool.false_eq_true] at neither

theorem IsWord.cut {word other : String} (one : IsWord word) (two : IsWord other)
    {rest more : List Char} (next : Stops marks rest) (last : Stops marks more)
    (same : word.toList ++ rest = other.toList ++ more) : word = other ∧ rest = more := by
  obtain ⟨words, same⟩ := word_cut one.unmarked two.unmarked next last same
  exact ⟨String.toList_inj.mp words, same⟩

theorem IsWord.cut_mark {word other : String} (one : IsWord word) (two : IsWord other)
    {between rest more : List Char}
    (same : word.toList ++ (between ++ rest) = other.toList ++ (between ++ more))
    (mark : between.head?.any (· ∈ marks) = true := by decide) : word = other ∧ rest = more := by
  obtain ⟨words, after⟩ := one.cut two (stops_append rest mark) (stops_append more mark) same
  exact ⟨words, List.append_cancel_left after⟩

theorem IsWord.not_stops {word : String} (one : IsWord word) {others : List Char}
    (subset : others ⊆ marks) (rest : List Char) : ¬ Stops others (word.toList ++ rest) := by
  cases chars : word.toList with
  | nil => exact absurd (String.toList_eq_nil_iff.mp chars) one.filled
  | cons c tail =>
    rw [List.cons_append, stops_cons]
    exact fun among => one.unmarked c (chars ▸ List.mem_cons_self) (subset among)

theorem legible_word {word : String} (one : IsWord word) :
    Legible String.toList IsWord (Stops marks) word :=
  fun _ two _ _ next last same => one.cut two next last same

namespace TypeExpr

def isUnion : TypeExpr → Bool
  | union _ => true
  | _ => false

def reserved : List String := ["number", "string", "boolean", "any", "Uint8Array", "ERROR"]

/-- A union has two members or more, of which none is a union, and it is not nullable as a whole.
No name is that of another type. -/
inductive WellFormed : TypeExpr → Prop
  | number : WellFormed number
  | string : WellFormed string
  | boolean : WellFormed boolean
  | any : WellFormed any
  | uint8Array : WellFormed uint8Array
  | unknown : WellFormed unknown
  | named {name : String} (word : IsWord name) (free : name ∉ reserved) : WellFormed (named name)
  | array {element : TypeExpr} (sound : WellFormed element) : WellFormed (array element)
  | nullable {inner : TypeExpr} (single : inner.isUnion = false) (sound : WellFormed inner) :
    WellFormed (nullable inner)
  | union {members : List TypeExpr} (many : 2 ≤ members.length)
    (single : ∀ member ∈ members, member.isUnion = false)
    (each : ∀ member ∈ members, WellFormed member) : WellFormed (union members)

/-- The members of a union, and any other type as the only one. -/
def alternatives : TypeExpr → List TypeExpr
  | union members => members
  | type => [type]

theorem alternatives_of_single {type : TypeExpr} (single : type.isUnion = false) :
    type.alternatives = [type] := by
  cases type with
  | union => cases single
  | _ => rfl

structure Single (type : TypeExpr) : Prop where
  wellFormed : type.WellFormed
  single : type.isUnion = false

def text (type : TypeExpr) : List Char := type.render.toList

/-- The type that a word stands for. -/
def ofWord (word : String) : TypeExpr :=
  if word = "number" then number
  else if word = "string" then string
  else if word = "boolean" then boolean
  else if word = "any" then any
  else if word = "Uint8Array" then uint8Array
  else if word = "ERROR" then unknown
  else named word

theorem render_ofWord (word : String) : (ofWord word).render = word := by
  unfold ofWord
  split_ifs <;> simp_all [render]

theorem ofWord_of_free {name : String} (free : name ∉ reserved) : ofWord name = named name := by
  simp_all [reserved, ofWord]

theorem isUnion_ofWord (word : String) : (ofWord word).isUnion = false := by
  unfold ofWord
  split_ifs <;> rfl

theorem Single.forms {type : TypeExpr} (sound : type.Single) :
    (∃ word, IsWord word ∧ type = ofWord word) ∨
      (∃ element, element.WellFormed ∧ type = array element) ∨
      ∃ inner, Single inner ∧ type = nullable inner := by
  obtain ⟨wellFormed, single⟩ := sound
  cases wellFormed with
  | named word free => exact .inl ⟨_, word, (ofWord_of_free free).symm⟩
  | array element => exact .inr (.inl ⟨_, element, rfl⟩)
  | nullable plain inner => exact .inr (.inr ⟨_, ⟨inner, plain⟩, rfl⟩)
  | union => cases single
  | number => exact .inl ⟨"number", by decide, rfl⟩
  | string => exact .inl ⟨"string", by decide, rfl⟩
  | boolean => exact .inl ⟨"boolean", by decide, rfl⟩
  | any => exact .inl ⟨"any", by decide, rfl⟩
  | uint8Array => exact .inl ⟨"Uint8Array", by decide, rfl⟩
  | unknown => exact .inl ⟨"ERROR", by decide, rfl⟩

/-- The marks that end a type, and the bar, which ends no more than one alternative. -/
def ends : List Char := ['>', ';', ')', ',', '\n', '\x7d']

theorem ends_subset : '|' :: ends ⊆ marks := by decide

theorem text_ofWord (word : String) : text (ofWord word) = word.toList :=
  congrArg String.toList (render_ofWord word)

theorem text_array (element : TypeExpr) :
    text (array element) = "Array<".toList ++ (element.text ++ ['>']) := by
  simp [text, render]

theorem text_nullable (inner : TypeExpr) : text (nullable inner) = ['?'] ++ inner.text := by
  simp [text, render]

theorem renderEach_eq (types : List TypeExpr) : renderEach types = types.map render := by
  induction types with
  | nil => rfl
  | cons type rest ih => rw [renderEach, ih, List.map_cons]

theorem text_eq (type : TypeExpr) : type.text = separated text ['|'] type.alternatives := by
  cases type with
  | union members =>
    rw [text, render, String.toList_intercalate, renderEach_eq, List.map_map, alternatives,
      ← intercalate_map]
    rfl
  | _ => simp [alternatives, separated, headed]

theorem WellFormed.alternatives {type : TypeExpr} (sound : type.WellFormed) :
    ∀ member ∈ type.alternatives, member.Single := by
  cases union : type.isUnion with
  | true =>
    cases sound with
    | union many single each => exact fun member among => ⟨each member among, single member among⟩
    | _ => cases union
  | false =>
    rw [alternatives_of_single union]
    exact List.forall_mem_singleton.mpr ⟨sound, union⟩

/-- The type that has these alternatives. -/
def ofAlternatives : List TypeExpr → TypeExpr
  | [type] => type
  | members => union members

theorem ofAlternatives_alternatives {type : TypeExpr} (sound : type.WellFormed) :
    ofAlternatives type.alternatives = type := by
  cases isUnion : type.isUnion with
  | false =>
    rw [alternatives_of_single isUnion]
    rfl
  | true =>
    cases sound with
    | @union members many _ _ =>
      match members, many with
      | _ :: _ :: _, _ => rfl
    | _ => cases isUnion

section Reading

variable {word : String} {type element inner : TypeExpr} {rest more : List Char}

theorem Single.not_stops (sound : type.Single) (rest : List Char) :
    ¬ Stops ends (type.text ++ rest) := by
  rcases sound.forms with ⟨word, one, rfl⟩ | ⟨element, _, rfl⟩ | ⟨inner, _, rfl⟩
  · rw [text_ofWord]
    exact one.not_stops (by decide) rest
  · rw [text_array, List.append_assoc]
    exact not_stops_append _
  · rw [text_nullable, List.append_assoc]
    exact not_stops_append _

theorem ofWord_ne_array (one : IsWord word) (next : Stops ('|' :: ends) rest) :
    (ofWord word).text ++ rest ≠ (array element).text ++ more := by
  intro same
  rw [text_ofWord, text_array, List.append_assoc, show "Array<" = "Array" ++ "<" from rfl,
    String.toList_append, List.append_assoc] at same
  have opening : Stops marks ("<".toList ++ (element.text ++ ['>'] ++ more)) :=
    stops_append _
  obtain ⟨_, same⟩ :=
    one.cut (by decide) (next.mono ends_subset) opening same
  rw [same] at next
  exact absurd next (not_stops_append _)

theorem ofWord_ne_nullable (one : IsWord word) (next : Stops ('|' :: ends) rest) :
    (ofWord word).text ++ rest ≠ (nullable inner).text ++ more := by
  intro same
  rw [text_ofWord, text_nullable, List.append_assoc] at same
  have bare : ∀ c ∈ ([] : List Char), c ∉ marks := by simp
  have opening : Stops marks (['?'] ++ (inner.text ++ more)) := stops_append _
  obtain ⟨_, same⟩ := word_cut one.unmarked bare (next.mono ends_subset) opening same
  rw [same] at next
  exact absurd next (not_stops_append _)

theorem array_ne_nullable : (array element).text ++ rest ≠ (nullable inner).text ++ more := by
  rw [text_array, text_nullable, List.append_assoc, List.append_assoc ['?']]
  exact append_ne_append _ _

theorem legible_ofWord (one : IsWord word) :
    Legible text Single (Stops ('|' :: ends)) (ofWord word) := by
  intro other sound rest more next last same
  rcases sound.forms with ⟨again, two, rfl⟩ | ⟨element, _, rfl⟩ | ⟨inner, _, rfl⟩
  · rw [text_ofWord, text_ofWord] at same
    obtain ⟨words, same⟩ := one.cut two (next.mono ends_subset) (last.mono ends_subset) same
    exact ⟨congrArg ofWord words, same⟩
  · exact absurd same (ofWord_ne_array one next)
  · exact absurd same (ofWord_ne_nullable one next)

theorem legible_alternatives_ofWord (word : String) (one : IsWord word) :
    ∀ member ∈ (ofWord word).alternatives,
      Legible text Single (Stops ('|' :: ends)) member := by
  rw [alternatives_of_single (isUnion_ofWord word)]
  exact List.forall_mem_singleton.mpr (legible_ofWord one)

theorem legible_array (legible : Legible text WellFormed (Stops ends) element) :
    Legible text Single (Stops ('|' :: ends)) (array element) := by
  intro other sound rest more _ last same
  rcases sound.forms with ⟨word, two, rfl⟩ | ⟨element, wellFormed, rfl⟩ | ⟨inner, _, rfl⟩
  · exact absurd same.symm (ofWord_ne_array two last)
  · simp only [text_array, List.append_assoc] at same
    have closing : ∀ rest, Stops ends (['>'] ++ rest) := fun rest => stops_append rest
    obtain ⟨elements, same⟩ := legible _ wellFormed _ _ (closing rest) (closing more)
      (List.append_cancel_left same)
    exact ⟨congrArg array elements, List.append_cancel_left same⟩
  · exact absurd same array_ne_nullable

theorem legible_nullable (legible : Legible text Single (Stops ('|' :: ends)) inner) :
    Legible text Single (Stops ('|' :: ends)) (nullable inner) := by
  intro other sound rest more next last same
  rcases sound.forms with ⟨word, two, rfl⟩ | ⟨element, _, rfl⟩ | ⟨inner, single, rfl⟩
  · exact absurd same.symm (ofWord_ne_nullable two last)
  · exact absurd same.symm array_ne_nullable
  · rw [text_nullable, text_nullable, List.append_assoc, List.append_assoc] at same
    obtain ⟨inners, same⟩ := legible _ single _ _ next last (List.append_cancel_left same)
    exact ⟨congrArg nullable inners, same⟩

/-- A type is as legible as the members of the union that it is. -/
theorem legible_of_alternatives (sound : type.WellFormed)
    (each : ∀ member ∈ type.alternatives, Legible text Single (Stops ('|' :: ends)) member) :
    Legible text WellFormed (Stops ends) type := by
  intro other too rest more next last same
  have legible : Legible (separated text ['|']) (∀ member ∈ ·, Single member) (Stops ends)
      type.alternatives :=
    .separated each sound.alternatives (fun rest => stops_append rest)
      (fun _ stops => stops.mono (List.subset_cons_self _ _))
      (fun rest => not_stops_append rest) (fun _ single => single.not_stops)
  rw [text_eq, text_eq] at same
  obtain ⟨alternatives, same⟩ := legible _ too.alternatives _ _ next last same
  refine ⟨?_, same⟩
  rw [← ofAlternatives_alternatives sound, alternatives, ofAlternatives_alternatives too]

theorem legible_alternatives (sound : type.WellFormed) :
    ∀ member ∈ type.alternatives, Legible text Single (Stops ('|' :: ends)) member := by
  induction sound with
  | number => exact legible_alternatives_ofWord "number" (by decide)
  | string => exact legible_alternatives_ofWord "string" (by decide)
  | boolean => exact legible_alternatives_ofWord "boolean" (by decide)
  | any => exact legible_alternatives_ofWord "any" (by decide)
  | uint8Array => exact legible_alternatives_ofWord "Uint8Array" (by decide)
  | unknown => exact legible_alternatives_ofWord "ERROR" (by decide)
  | named word free =>
    rw [← ofWord_of_free free]
    exact legible_alternatives_ofWord _ word
  | array sound ih =>
    exact List.forall_mem_singleton.mpr (legible_array (legible_of_alternatives sound ih))
  | nullable plain sound ih =>
    rw [alternatives_of_single plain] at ih
    exact List.forall_mem_singleton.mpr (legible_nullable (List.forall_mem_singleton.mp ih))
  | union many single each ih =>
    intro member among
    have alone := ih member among
    rw [alternatives_of_single (single member among)] at alone
    exact List.forall_mem_singleton.mp alone

theorem WellFormed.legible (sound : type.WellFormed) :
    Legible text WellFormed (Stops ends) type :=
  legible_of_alternatives sound (legible_alternatives sound)

theorem WellFormed.cut_mark {another : TypeExpr} (one : type.WellFormed)
    (two : another.WellFormed) {between : List Char}
    (same : type.text ++ (between ++ rest) = another.text ++ (between ++ more))
    (mark : between.head?.any (· ∈ ends) = true := by decide) :
    type = another ∧ rest = more := by
  obtain ⟨types, after⟩ :=
    one.legible _ two _ _ (stops_append rest mark) (stops_append more mark) same
  exact ⟨types, List.append_cancel_left after⟩

end Reading

end TypeExpr

end SchemaTypings
