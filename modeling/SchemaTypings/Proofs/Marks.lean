import SchemaTypings.Proofs.Emission
import SchemaTypings.Proofs.Sites

/-! Which names the index has marked as entries of maps once all files are in it. Each step of
its construction puts marks after those that are there, so of the messages of one name in a
file the first one on the walk decides, and messages of other files do not matter. -/
namespace SchemaTypings

open Schema (Message)

/-- Whether the first message of this name is the entry of a map. -/
def firstMark (messages : List (Placed Message)) (name : String) : Option Bool :=
  (messages.find? (·.part.localName == name)).map (·.part.isEntry)

theorem firstMark_append (first second : List (Placed Message)) (name : String) :
    firstMark (first ++ second) name = (firstMark first name).or (firstMark second name) := by
  unfold firstMark
  rw [List.find?_append, Option.map_or]

theorem firstMark_singleton (placed : Placed Message) (name : String) :
    firstMark [placed] name =
      if placed.part.localName = name then some placed.part.isEntry else none := by
  unfold firstMark
  by_cases same : placed.part.localName = name <;> simp [same]

theorem firstMark_of_agreement {messages : List (Placed Message)} {placed : Placed Message}
    (member : placed ∈ messages)
    (agree : ∀ other ∈ messages, other.part.localName = placed.part.localName →
      other.part.isEntry = placed.part.isEntry) :
    firstMark messages placed.part.localName = some placed.part.isEntry := by
  unfold firstMark
  cases found : messages.find? (·.part.localName == placed.part.localName) with
  | none => simpa using List.find?_eq_none.mp found placed member
  | some other =>
    have same : other.part.localName = placed.part.localName := by
      simpa using List.find?_some found
    rw [Option.map_some, agree other (List.mem_of_find?_eq_some found) same]

def messagesAt (files : List Schema.File) (path : String) : List (Placed Message) :=
  files.flatMap fun file => if file.path = path then file.allMessages else []

theorem messagesAt_of_nodup {files : List Schema.File} (paths : (files.map (·.path)).Nodup)
    {file : Schema.File} (supplied : file ∈ files) :
    messagesAt files file.path = file.allMessages := by
  unfold messagesAt
  induction files with
  | nil => contradiction
  | cons first rest ih =>
    rw [List.map_cons, List.nodup_cons] at paths
    rw [List.flatMap_cons]
    rcases List.mem_cons.mp supplied with rfl | later
    · have others : (rest.flatMap fun other =>
          if other.path = file.path then other.allMessages else []) = [] := by
        apply List.flatMap_eq_nil_iff.mpr
        intro other member
        apply if_neg
        intro same
        exact paths.1 (same ▸ List.mem_map_of_mem member)
      rw [if_pos rfl, others, List.append_nil]
    · have differ : first.path ≠ file.path := by
        intro same
        exact paths.1 (same ▸ List.mem_map_of_mem later)
      rw [if_neg differ, List.nil_append, ih paths.2 later]

namespace TypeIndex

/-- `after` has the marks of `before` and, for the names of each file that have none there,
those of the messages given for the file. -/
def Marks (messages : String → List (Placed Message)) (before after : TypeIndex) : Prop :=
  ∀ path name, after.mark? path name =
    (before.mark? path name).or (firstMark (messages path) name)

theorem Marks.append {first second : String → List (Placed Message)}
    {before middle after : TypeIndex} (one : Marks first before middle)
    (two : Marks second middle after) :
    Marks (fun path => first path ++ second path) before after := by
  intro path name
  rw [two path name, one path name, firstMark_append, Option.or_assoc]

theorem Marks.foldl {α : Type} {step : TypeIndex → α → TypeIndex}
    {messages : α → String → List (Placed Message)}
    (marks : ∀ index item, Marks (messages item) index (step index item)) (items : List α)
    (index : TypeIndex) :
    Marks (fun path => items.flatMap (messages · path)) index (items.foldl step index) := by
  induction items generalizing index with
  | nil =>
    intro path name
    exact Option.or_none.symm
  | cons item rest ih => exact (marks index item).append (ih (step index item))

theorem mark?_addEnums (origin : Origin) (owners : TypePath) (index : TypeIndex)
    (enums : List Schema.Enumeration) (path name : String) :
    (index.addEnums origin owners enums).mark? path name = index.mark? path name := by
  unfold addEnums
  induction enums generalizing index with
  | nil => rfl
  | cons enumeration rest ih => rw [List.foldl_cons, ih, mark?_declare]

theorem marks_placed (origin : Origin) (index : TypeIndex) (placed : Placed Message) :
    Marks (fun path => if origin.file = path then [placed] else []) index
      (index.addPlaced origin placed) := by
  intro path name
  dsimp only [addPlaced]
  rw [mark?_addEnums, mark?_mark, mark?_declare]
  by_cases here : origin.file = path
  · rw [if_pos here, firstMark_singleton]
    by_cases named : placed.part.localName = name
    · cases index.mark? path name <;> simp [here, named]
    · simp [named]
  · rw [if_neg here, if_neg (by simp [here])]
    exact Option.or_none.symm

theorem marks_file (index : TypeIndex) (file : Schema.File) :
    Marks (fun path => if file.path = path then file.allMessages else []) index
      (index.addFile file) := by
  intro path name
  have walked := addMessages_eq_foldl (.ofFile file) [] index file.messages
  have marked := Marks.foldl (marks_placed (.ofFile file)) file.allMessages index path name
  have together : (file.allMessages.flatMap fun placed =>
      if file.path = path then [placed] else []) =
        if file.path = path then file.allMessages else [] := by
    by_cases here : file.path = path
    · simp [here]
    · simp [here, List.flatMap_eq_nil_iff]
  change ((addMessages (.ofFile file) [] index file.messages).addEnums _ _ _).mark? _ _ = _
  rw [mark?_addEnums, walked]
  dsimp only
  rw [← together]
  exact marked

theorem mark?_ofFiles (files : List Schema.File) (path name : String) :
    (ofFiles files).mark? path name = firstMark (messagesAt files path) name := by
  have marked : Marks (messagesAt files) {} (ofFiles files) := Marks.foldl marks_file files {}
  rw [marked path name]
  have empty : ({} : TypeIndex).mark? path name = none := by simp [mark?]
  rw [empty, Option.none_or]

end TypeIndex

/-- What follows the last dot of a name, or the whole name where it has none. -/
def LastPart (name part : String) : Prop :=
  '.' ∉ part.toList ∧ (name = part ∨ ∃ before, name = before ++ "." ++ part)

theorem lastPart_iff {name part : String} :
    LastPart name part ↔ .ofList (Text.afterLast '.' name.toList) = part := by
  constructor
  · rintro ⟨plain, rfl | ⟨before, rfl⟩⟩
    · rw [Text.afterLast_of_not_mem plain, String.ofList_toList]
    · have dot : ".".toList = ['.'] := by decide
      rw [String.toList_append, String.toList_append, dot, List.append_assoc, List.singleton_append,
        Text.afterLast_append _ plain, String.ofList_toList]
  · rintro rfl
    rcases Text.exists_last '.' name.toList with plain | ⟨before, last, split, plain⟩
    · rw [Text.afterLast_of_not_mem plain, String.ofList_toList]
      exact ⟨plain, .inl rfl⟩
    · rw [split, Text.afterLast_append before plain]
      refine ⟨by rwa [String.toList_ofList], .inr ⟨.ofList before, ?_⟩⟩
      apply String.toList_injective
      simp [split]

/-- The part of a type's name that a field is taken for a map by. -/
def Schema.Field.lastName (field : Schema.Field) : String :=
  .ofList (Text.afterLast '.' (field.typeName.getD "").toList)

theorem Scope.holdsMap_at (files : List Schema.File) (path : String) (field : Schema.Field) :
    (⟨path, .ofFiles files⟩ : Scope).holdsMap field =
      (field.isMessageList && (firstMark (messagesAt files path) field.lastName).getD false) := by
  unfold Scope.holdsMap TypeIndex.isEntry
  rw [TypeIndex.mark?_ofFiles]
  rfl

/-- A field of a file is a map if it is a list of messages, and the first message of the file
that has the last name in its type is an entry. -/
theorem Scope.holdsMap_ofFiles {files : List Schema.File} (paths : (files.map (·.path)).Nodup)
    {file : Schema.File} (supplied : file ∈ files) (field : Schema.Field) :
    (file.scope (.ofFiles files)).holdsMap field =
      (field.isMessageList && (firstMark file.allMessages field.lastName).getD false) := by
  unfold Schema.File.scope
  rw [holdsMap_at, messagesAt_of_nodup paths supplied]

end SchemaTypings
