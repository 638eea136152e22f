import SchemaTypings.Proofs.Lockstep
import SchemaTypings.Proofs.Marks

/-! Which fields are taken for maps. A list of messages is one if the first message of the file,
on the walk, whose own name is the last part of the type's name is the entry of a map. Of each
message no more counts than its name and its mark, and nothing counts after the first one. -/
namespace SchemaTypings

open Schema (Message)

theorem firstMark_eq_some {messages : List (Placed Message)} {name : String} {mark : Bool} :
    firstMark messages name = some mark ↔
      ∃ before first after, messages = before ++ first :: after ∧
        (∀ other ∈ before, other.part.localName ≠ name) ∧
        first.part.localName = name ∧ first.part.isEntry = mark := by
  unfold firstMark
  rw [Option.map_eq_some_iff]
  constructor
  · rintro ⟨first, found, same⟩
    obtain ⟨named, before, after, split, others⟩ := List.find?_eq_some_iff_append.mp found
    exact ⟨before, first, after, split, by simpa using others, by simpa using named, same⟩
  · rintro ⟨before, first, after, split, others, named, same⟩
    refine ⟨first, List.find?_eq_some_iff_append.mpr ⟨by simpa using named, before, after, split, ?_⟩,
      same⟩
    simpa using others

/-- The names of the messages at this path, each with whether it is the entry of a map. -/
def labelsAt (files : List Schema.File) (path : String) : List (String × Bool) :=
  (messagesAt files path).map fun placed => (placed.part.localName, placed.part.isEntry)

theorem firstMark_eq_lookup (files : List Schema.File) (path name : String) :
    firstMark (messagesAt files path) name = (labelsAt files path).lookup name := by
  unfold labelsAt firstMark
  induction messagesAt files path with
  | nil => rfl
  | cons first rest ih =>
    rw [List.find?_cons, List.map_cons, List.lookup_cons, ← ih, Bool.beq_comm]
    cases name == first.part.localName <;> rfl

theorem isMessageList_iff {field : Schema.Field} :
    field.isMessageList = true ↔ field.labelCode = some 3 ∧ field.typeCode = some 11 := by
  have label : field.multiplicity = .repeated ↔ field.labelCode = some 3 := by
    unfold Schema.Field.multiplicity
    split_ifs with required repeated
    · simp [required]
    · simp [repeated]
    · simp [repeated]
  have type : field.code = 11 ↔ field.typeCode = some 11 := by
    unfold Schema.Field.code
    cases field.typeCode <;> simp
  rw [Schema.Field.isMessageList, Bool.and_eq_true, beq_iff_eq, beq_iff_eq, label, type]

theorem messagesAt_filter (files : List Schema.File) (path : String) :
    messagesAt (files.filter (·.path == path)) path = messagesAt files path := by
  unfold messagesAt
  induction files with
  | nil => rfl
  | cons file rest ih =>
    rw [List.filter_cons, List.flatMap_cons, ← ih]
    by_cases here : file.path = path <;> simp [here]

namespace Scope

theorem holdsMap_of_labels {files others : List Schema.File} {path : String} {field : Schema.Field}
    {seen later more : List (String × Bool)} (here : labelsAt files path = seen ++ later)
    (there : labelsAt others path = seen ++ more)
    (enough : field.lastName ∈ seen.map (·.1) ∨ later = more) :
    (⟨path, .ofFiles others⟩ : Scope).holdsMap field =
      (⟨path, .ofFiles files⟩ : Scope).holdsMap field := by
  rw [holdsMap_at, holdsMap_at, firstMark_eq_lookup, firstMark_eq_lookup, here, there]
  rcases enough with named | rfl
  · obtain ⟨label, member, same⟩ := List.mem_map.mp named
    have found : (seen.lookup field.lastName).isSome = true :=
      List.lookup_isSome_iff.mpr ⟨label, member, by simp [same]⟩
    obtain ⟨mark, first⟩ := Option.isSome_iff_exists.mp found
    rw [List.lookup_append, List.lookup_append, first, Option.some_or, Option.some_or]
  · rfl

/-- The first message of the name decides: no other file has a say in it, nor has an enumeration,
nor has any message that comes after the first one. -/
theorem holdsMap_iff_first (files : List Schema.File) (path : String) (field : Schema.Field) :
    let detected (files : List Schema.File) : Bool :=
      (⟨path, .ofFiles files⟩ : Scope).holdsMap field
    (detected files = true ↔
      field.labelCode = some 3 ∧ field.typeCode = some 11 ∧
        ∃ name, LastPart (field.typeName.getD "") name ∧
          ∃ before first after, messagesAt files path = before ++ first :: after ∧
            (∀ other ∈ before, other.part.localName ≠ name) ∧
            first.part.localName = name ∧ first.part.isEntry = true) ∧
    detected (files.filter (·.path == path)) = detected files ∧
    ∀ name, LastPart (field.typeName.getD "") name →
      ∀ others seen later more, labelsAt files path = seen ++ later →
        labelsAt others path = seen ++ more → (name ∈ seen.map (·.1) ∨ later = more) →
        detected others = detected files := by
  dsimp only
  refine ⟨?_, ?_, ?_⟩
  · rw [holdsMap_at, Bool.and_eq_true, isMessageList_iff, and_assoc]
    have marked (mark : Option Bool) : mark.getD false = true ↔ mark = some true := by
      cases mark <;> simp
    rw [marked, firstMark_eq_some]
    refine and_congr_right fun _ => and_congr_right fun _ => ?_
    constructor
    · intro first
      exact ⟨field.lastName, lastPart_iff.mpr rfl, first⟩
    · rintro ⟨name, last, first⟩
      cases lastPart_iff.mp last
      exact first
  · rw [holdsMap_at, holdsMap_at, messagesAt_filter]
  · intro name last others seen later more here there enough
    cases lastPart_iff.mp last
    exact holdsMap_of_labels here there enough

end Scope

namespace Depot

/-- An entry in its own right, in a file that comes before the one with the map. -/
def yard : Schema.File :=
  { name := some "depot/yard.proto", package := some "depot", messages := [entry] }

/-- The shelves' entries are taken for a map, with or without the entries of another file. -/
theorem entries_detected :
    (file.scope (.ofFiles [file])).holdsMap entries = true ∧
      (file.scope (.ofFiles [yard, file])).holdsMap entries = true := by
  obtain ⟨first, _, same⟩ := Scope.holdsMap_iff_first [file] file.path entries
  have last : LastPart ".depot.Entry" "Entry" := ⟨by decide, .inr ⟨".depot", by decide⟩⟩
  have detected := first.mpr ⟨rfl, rfl, "Entry", last, [⟨[], stock⟩], ⟨["Stock"], countsEntry⟩, _,
    rfl, by decide, rfl, rfl⟩
  have again := same "Entry" last [yard, file] _ [] [] (List.append_nil _).symm
    (List.append_nil _).symm (.inr rfl)
  exact ⟨detected, again.trans detected⟩

end Depot

end SchemaTypings
