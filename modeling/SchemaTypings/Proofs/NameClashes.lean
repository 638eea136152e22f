import Mathlib.Data.List.Perm.Basic
import SchemaTypings.Proofs.Coverage
import SchemaTypings.Proofs.LeafNames

/-! When two declarations of one file have the same name. Every message has two names there, and
so has every enumeration: its own, which is its path, and one with a suffix, for its shape or its
union. If the names in each place of the file are distinct then so are the paths, and two names
can only be the same if one type is called like another one with the suffix. -/
namespace SchemaTypings

open Schema (Message Enumeration)

namespace Schema

def messageNames (messages : List Message) : List String :=
  (messages.filter (·.isDeclared)).map (·.localName)

/-- The names of the types that are declared directly in one place. -/
def namesAt (messages : List Message) (enums : List Enumeration) : List String :=
  messageNames messages ++ enums.map (·.localName)

/-- No name is there twice, and none holds the sign that joins names. -/
def DistinctNames (names : List String) : Prop :=
  names.Nodup ∧ ∀ name ∈ names, '$' ∉ name.toList

/-- The types in each place of the file have distinct names, those that are hidden apart. -/
def File.DistinctNames (file : File) : Prop :=
  Schema.DistinctNames (namesAt file.messages file.enums) ∧
    ∀ placed ∈ file.visibleMessages,
      Schema.DistinctNames (namesAt placed.part.nested placed.part.enums)

instance (names : List String) : Decidable (DistinctNames names) :=
  inferInstanceAs (Decidable (_ ∧ _))

instance (file : File) : Decidable file.DistinctNames :=
  inferInstanceAs (Decidable (_ ∧ _))

end Schema

/-- No part of a path holds the sign that joins them. -/
def TypePath.Joinable (path : TypePath) : Prop := ∀ name ∈ path, '$' ∉ name.toList

theorem TypePath.Joinable.append {path : TypePath} (joinable : path.Joinable) {name : String}
    (plain : '$' ∉ name.toList) : (path ++ [name] : TypePath).Joinable :=
  List.forall_mem_append.mpr ⟨joinable, by simpa using plain⟩

theorem TypePath.Joinable.suffixed {owners : TypePath} {last suffix : String}
    (joinable : (owners ++ [last] : TypePath).Joinable) (plain : '$' ∉ suffix.toList) :
    (owners ++ [last ++ suffix] : TypePath).Joinable := by
  have parts := List.forall_mem_append.mp joinable
  refine TypePath.Joinable.append parts.1 ?_
  rw [String.toList_append, List.mem_append, not_or]
  exact ⟨parts.2 last List.mem_cons_self, plain⟩

section Paths

/-- The paths of the message and of its own enumerations. -/
def Placed.paths (placed : Placed Message) : List TypePath :=
  placed.path :: placed.enums.map (·.enumPath)

/-- The paths of all types that are declared for these messages. -/
def walkedPaths (owners : TypePath) (messages : List Message) : List TypePath :=
  (Schema.walkEach Message.isDeclared owners messages).flatMap (·.paths)

theorem walkedPaths_kept (owners : TypePath) {message : Message}
    (kept : message.isDeclared = true) (rest : List Message) :
    walkedPaths owners (message :: rest) =
      (Placed.paths ⟨owners, message⟩ ++
        walkedPaths (owners ++ [message.localName]) message.nested) ++ walkedPaths owners rest := by
  unfold walkedPaths
  rw [Schema.walkEach_cons_kept owners kept, List.flatMap_cons, List.flatMap_append,
    List.append_assoc]

theorem walkedPaths_passed (owners : TypePath) {message : Message}
    (passed : message.isDeclared = false) (rest : List Message) :
    walkedPaths owners (message :: rest) = walkedPaths owners rest := by
  unfold walkedPaths
  rw [Schema.walkEach_cons_passed owners passed]

theorem messageNames_kept {message : Message} (kept : message.isDeclared = true)
    (rest : List Message) :
    Schema.messageNames (message :: rest) = message.localName :: Schema.messageNames rest := by
  unfold Schema.messageNames
  rw [List.filter_cons_of_pos kept, List.map_cons]

theorem messageNames_passed {message : Message} (passed : message.isDeclared = false)
    (rest : List Message) :
    Schema.messageNames (message :: rest) = Schema.messageNames rest := by
  unfold Schema.messageNames
  rw [List.filter_cons_of_neg (by simp [passed])]

theorem prefix_of_mem_paths {placed : Placed Message} {path : TypePath}
    (member : path ∈ placed.paths) : placed.path <+: path := by
  rcases List.mem_cons.mp member with rfl | nested
  · exact List.prefix_rfl
  · simp only [Placed.enums, List.map_map, List.mem_map] at nested
    obtain ⟨enumeration, _, rfl⟩ := nested
    exact List.prefix_append _ _

theorem prefix_of_mem_walkedPaths {owners : TypePath} {messages : List Message} {path : TypePath}
    (member : path ∈ walkedPaths owners messages) :
    ∃ name ∈ Schema.messageNames messages, owners ++ [name] <+: path := by
  induction messages using Schema.forest_induction generalizing owners with
  | nil => simp [walkedPaths, Schema.walkEach] at member
  | cons message rest nested others =>
    cases kept : message.isDeclared with
    | false =>
      rw [walkedPaths_passed owners kept] at member
      rw [messageNames_passed kept]
      exact others member
    | true =>
      rw [walkedPaths_kept owners kept, List.mem_append, List.mem_append] at member
      rw [messageNames_kept kept]
      rcases member with (own | inside) | later
      · exact ⟨_, List.mem_cons_self, prefix_of_mem_paths own⟩
      · obtain ⟨name, _, below⟩ := nested inside
        exact ⟨_, List.mem_cons_self, (List.prefix_append _ _).trans below⟩
      · obtain ⟨name, known, below⟩ := others later
        exact ⟨name, List.mem_cons_of_mem _ known, below⟩

theorem name_unique {owners path : TypePath} {first second : String}
    (one : owners ++ [first] <+: path) (other : owners ++ [second] <+: path) : first = second := by
  have shorter := List.prefix_of_prefix_length_le one other (by simp)
  have same := shorter.eq_of_length (by simp)
  simpa using same

/-- In a place with distinct names, what is in its messages keeps apart from its enumerations. -/
theorem nodup_place {owners : TypePath} {messages : List Message} {enums : List Enumeration}
    (names : (Schema.namesAt messages enums).Nodup) (inside : (walkedPaths owners messages).Nodup) :
    (walkedPaths owners messages ++ enums.map fun enumeration =>
      owners ++ [enumeration.localName]).Nodup := by
  obtain ⟨_, ownNames, apart⟩ := List.nodup_append.mp names
  have own : (enums.map fun enumeration => owners ++ [enumeration.localName]).Nodup := by
    have mapped := ownNames.map (f := fun name => owners ++ [name]) (by intro a b; simp)
    rwa [List.map_map] at mapped
  refine List.nodup_append.mpr ⟨inside, own, ?_⟩
  intro path walked other listed same
  subst same
  obtain ⟨name, known, below⟩ := prefix_of_mem_walkedPaths walked
  obtain ⟨enumeration, given, rfl⟩ := List.mem_map.mp listed
  have equal := name_unique below List.prefix_rfl
  exact apart name known _ (List.mem_map_of_mem given) equal

theorem nodup_message {owners : TypePath} {message : Message}
    (names : (Schema.namesAt message.nested message.enums).Nodup)
    (inside : (walkedPaths (owners ++ [message.localName]) message.nested).Nodup) :
    (Placed.paths ⟨owners, message⟩ ++
      walkedPaths (owners ++ [message.localName]) message.nested).Nodup := by
  have place := nodup_place names inside
  have enums : (Placed.enums ⟨owners, message⟩).map (·.enumPath) =
      message.enums.map fun enumeration =>
        (owners ++ [message.localName]) ++ [enumeration.localName] := by
    rw [Placed.enums, List.map_map]
    rfl
  rw [Placed.paths, List.cons_append, enums]
  refine List.nodup_cons.mpr ⟨?_, List.nodup_append_comm.mp place⟩
  -- all paths inside go on after that of the message
  have longer (name : String) : ¬ (owners ++ [message.localName]) ++ [name] <+:
      owners ++ [message.localName] := fun below => by simpa using below.length_le
  intro member
  rcases List.mem_append.mp member with listed | walked
  · obtain ⟨enumeration, _, same⟩ := List.mem_map.mp listed
    exact longer _ ⟨[], (List.append_nil _).trans same⟩
  · obtain ⟨name, _, below⟩ := prefix_of_mem_walkedPaths walked
    exact longer name below

theorem nodup_walkedPaths {owners : TypePath} {messages : List Message}
    (names : (Schema.messageNames messages).Nodup)
    (inside : ∀ placed ∈ Schema.walkEach Message.isDeclared owners messages,
      (Schema.namesAt placed.part.nested placed.part.enums).Nodup) :
    (walkedPaths owners messages).Nodup := by
  induction messages using Schema.forest_induction generalizing owners with
  | nil => exact List.nodup_nil
  | cons message rest nested others =>
    cases kept : message.isDeclared with
    | false =>
      rw [Schema.walkEach_cons_passed owners kept] at inside
      rw [messageNames_passed kept] at names
      rw [walkedPaths_passed owners kept]
      exact others names inside
    | true =>
      rw [Schema.walkEach_cons_kept owners kept, List.forall_mem_cons,
        List.forall_mem_append] at inside
      rw [messageNames_kept kept, List.nodup_cons] at names
      obtain ⟨own, within, later⟩ := inside
      have first := nodup_message own (nested (List.nodup_append.mp own).1 within)
      rw [walkedPaths_kept owners kept]
      refine List.nodup_append.mpr ⟨first, others names.2 later, ?_⟩
      intro path early other late same
      subst same
      obtain ⟨name, known, below⟩ := prefix_of_mem_walkedPaths late
      have own : owners ++ [message.localName] <+: path := by
        rcases List.mem_append.mp early with listed | walked
        · exact prefix_of_mem_paths listed
        · obtain ⟨_, _, inner⟩ := prefix_of_mem_walkedPaths walked
          exact (List.prefix_append _ _).trans inner
      exact names.1 (name_unique own below ▸ known)

theorem joinable_of_mem_paths {placed : Placed Message} (above : placed.path.Joinable)
    (names : ∀ name ∈ placed.part.enums.map (·.localName), '$' ∉ name.toList) {path : TypePath}
    (member : path ∈ placed.paths) : path.Joinable := by
  rcases List.mem_cons.mp member with rfl | nested
  · exact above
  · simp only [Placed.enums, List.map_map, List.mem_map] at nested
    obtain ⟨enumeration, given, rfl⟩ := nested
    exact above.append (names _ (List.mem_map_of_mem given))

theorem joinable_of_mem_walkedPaths {owners : TypePath} {messages : List Message}
    (above : owners.Joinable) (names : ∀ name ∈ Schema.messageNames messages, '$' ∉ name.toList)
    (inside : ∀ placed ∈ Schema.walkEach Message.isDeclared owners messages,
      ∀ name ∈ Schema.namesAt placed.part.nested placed.part.enums, '$' ∉ name.toList)
    {path : TypePath} (member : path ∈ walkedPaths owners messages) : path.Joinable := by
  induction messages using Schema.forest_induction generalizing owners with
  | nil => simp [walkedPaths, Schema.walkEach] at member
  | cons message rest nested others =>
    cases kept : message.isDeclared with
    | false =>
      rw [Schema.walkEach_cons_passed owners kept] at inside
      rw [messageNames_passed kept] at names
      rw [walkedPaths_passed owners kept] at member
      exact others above names inside member
    | true =>
      rw [Schema.walkEach_cons_kept owners kept, List.forall_mem_cons,
        List.forall_mem_append] at inside
      rw [messageNames_kept kept, List.forall_mem_cons] at names
      rw [walkedPaths_kept owners kept, List.mem_append, List.mem_append] at member
      obtain ⟨own, within, later⟩ := inside
      have below : (Placed.path ⟨owners, message⟩).Joinable := above.append names.1
      have parts := List.forall_mem_append.mp own
      rcases member with (listed | walked) | late
      · exact joinable_of_mem_paths below parts.2 listed
      · exact nested below parts.1 within walked
      · exact others above names.2 later late

namespace Schema.File

variable {file : Schema.File}

/-- The paths of all types that the file declares and that are not hidden. -/
def declaredPaths (file : Schema.File) : List TypePath :=
  file.visibleMessages.flatMap (·.paths) ++ file.topEnums.map (·.enumPath)

theorem declaredPaths_eq (file : Schema.File) :
    file.declaredPaths = walkedPaths [] file.messages ++
      file.enums.map fun enumeration => [] ++ [enumeration.localName] := by
  rw [declaredPaths, visibleMessages_eq, topEnums, List.map_map]
  rfl

theorem nodup_declaredPaths (distinct : file.DistinctNames) : file.declaredPaths.Nodup := by
  obtain ⟨top, nested⟩ := distinct
  rw [visibleMessages_eq] at nested
  rw [declaredPaths_eq]
  apply nodup_place top.1
  have parts := List.nodup_append.mp top.1
  exact nodup_walkedPaths parts.1 fun placed member => (nested placed member).1

theorem joinable_of_mem_declaredPaths (distinct : file.DistinctNames) {path : TypePath}
    (member : path ∈ file.declaredPaths) : path.Joinable := by
  obtain ⟨top, nested⟩ := distinct
  have parts := List.forall_mem_append.mp top.2
  have root : TypePath.Joinable [] := List.forall_mem_nil _
  rw [visibleMessages_eq] at nested
  rw [declaredPaths_eq, List.mem_append] at member
  rcases member with walked | listed
  · have each := fun placed known => (nested placed known).2
    exact joinable_of_mem_walkedPaths root parts.1 each walked
  · obtain ⟨enumeration, given, rfl⟩ := List.mem_map.mp listed
    exact root.append (parts.2 _ (List.mem_map_of_mem given))

theorem ne_nil_of_mem_declaredPaths {path : TypePath} (member : path ∈ file.declaredPaths) :
    path ≠ [] := by
  rw [declaredPaths_eq, List.mem_append] at member
  rcases member with walked | listed
  · obtain ⟨name, _, below⟩ := prefix_of_mem_walkedPaths walked
    rintro rfl
    simp at below
  · obtain ⟨enumeration, _, rfl⟩ := List.mem_map.mp listed
    exact List.cons_ne_nil _ _

end Schema.File

end Paths

/-- What a name that typings declare stands for. -/
inductive NameRole where
  | ofClass
  | ofShape
  | ofMap
  | ofUnion
  deriving DecidableEq

namespace NameRole

def suffix : NameRole → String
  | ofShape => shapeSuffix
  | ofUnion => unionSuffix
  | _ => ""

/-- Whether the type has this name without a suffix. -/
def isOwn : NameRole → Bool
  | ofClass | ofMap => true
  | ofShape | ofUnion => false

theorem suffix_of_isOwn (role : NameRole) (own : role.isOwn = true) : role.suffix = "" := by
  cases role
  case ofClass | ofMap => rfl
  all_goals cases own

theorem suffix_ne {first second : NameRole} (own : first.isOwn = true)
    (derived : second.isOwn = false) : first.suffix ≠ second.suffix := by
  cases first <;> cases second <;> cases own <;> cases derived <;> decide

/-- Of two names with different suffixes one has none, or one is of a shape and one of a union. -/
theorem suffix_cases (first second : NameRole) :
    first.suffix = second.suffix ∨ (first.isOwn = false ∧ second.isOwn = true) ∨
      (first.isOwn = true ∧ second.isOwn = false) ∨ (first = ofShape ∧ second = ofUnion) ∨
      (first = ofUnion ∧ second = ofShape) := by
  cases first <;> cases second <;> decide

theorem dollar_not_mem_suffix (role : NameRole) : '$' ∉ role.suffix.toList := by
  cases role <;> decide

end NameRole

/-- A name that the typings of a file declare, and the path of the type that it is for. -/
structure DeclaredName where
  role : NameRole
  path : TypePath
  deriving DecidableEq

namespace DeclaredName

def text (name : DeclaredName) : String := name.path.flat ++ name.role.suffix

/-- The shape or the union of one type, and a type beside that one which is called so. -/
def SpelledBy (first second : DeclaredName) : Prop :=
  first.role.isOwn = false ∧ second.role.isOwn = true ∧ ∃ owners last,
    first.path = owners ++ [last] ∧ second.path = owners ++ [last ++ first.role.suffix]

end DeclaredName

theorem TypePath.flat_append_suffix (owners : TypePath) (last suffix : String) :
    (owners ++ [last] : TypePath).flat ++ suffix =
      (owners ++ [last ++ suffix] : TypePath).flat := by
  unfold flat
  by_cases top : owners = []
  · subst top
    simp
  · rw [String.intercalate_append_of_ne_nil top (List.cons_ne_nil _ _),
      String.intercalate_append_of_ne_nil top (List.cons_ne_nil _ _), String.intercalate_singleton,
      String.intercalate_singleton, String.append_assoc]

namespace DeclaredName

variable {first second : DeclaredName}

theorem text_eq_of_spelledBy (spelled : first.SpelledBy second) : first.text = second.text := by
  obtain ⟨_, own, owners, last, one, other⟩ := spelled
  rw [text, text, one, other, second.role.suffix_of_isOwn own, String.append_empty,
    TypePath.flat_append_suffix]

theorem exists_of_text_eq (one : first.path.Joinable) (other : second.path.Joinable)
    (filled : first.path ≠ []) (some_ : second.path ≠ []) (same : first.text = second.text) :
    ∃ owners last another, first.path = owners ++ [last] ∧ second.path = owners ++ [another] ∧
      last ++ first.role.suffix = another ++ second.role.suffix := by
  have split := (List.dropLast_concat_getLast filled).symm
  have parted := (List.dropLast_concat_getLast some_).symm
  rw [split] at one
  rw [parted] at other
  rw [text, text, split, parted, TypePath.flat_append_suffix, TypePath.flat_append_suffix] at same
  have paths := TypePath.flat_inj (one.suffixed first.role.dollar_not_mem_suffix)
    (other.suffixed second.role.dollar_not_mem_suffix) (by simp) (by simp) same
  obtain ⟨owners, names⟩ := List.append_inj' paths rfl
  rw [← owners] at parted
  exact ⟨_, _, _, split, parted, List.head_eq_of_cons_eq names⟩

/-- Two names for types at such paths are the same just if one type is called as the shape or the
union of the other one would be, unless both have one path and both or none have a suffix. -/
theorem text_eq_iff (one : first.path.Joinable) (other : second.path.Joinable)
    (filled : first.path ≠ []) (some_ : second.path ≠ [])
    (differ : (first.path, first.role.suffix) ≠ (second.path, second.role.suffix)) :
    first.text = second.text ↔ first.SpelledBy second ∨ second.SpelledBy first := by
  constructor
  · intro same
    obtain ⟨owners, last, another, split, parted, names⟩ :=
      exists_of_text_eq one other filled some_ same
    rcases NameRole.suffix_cases first.role second.role with
      equal | ⟨derived, own⟩ | ⟨own, derived⟩ | ⟨shape, union⟩ | ⟨union, shape⟩
    · rw [equal, String.append_left_inj] at names
      exact absurd (by rw [split, parted, names, equal]) differ
    · rw [second.role.suffix_of_isOwn own, String.append_empty] at names
      exact .inl ⟨derived, own, owners, last, split, names ▸ parted⟩
    · rw [first.role.suffix_of_isOwn own, String.append_empty] at names
      exact .inr ⟨derived, own, owners, another, parted, names ▸ split⟩
    · rw [shape, union] at names
      exact absurd names (shape_ne_union last another)
    · rw [shape, union] at names
      exact absurd names.symm (shape_ne_union another last)
  · rintro (spelled | spelled)
    · exact text_eq_of_spelledBy spelled
    · exact (text_eq_of_spelledBy spelled).symm

end DeclaredName

/-- The names that an outline declares, and what they stand for. -/
def Outline.names : Outline → List (NameRole × String)
  | ofClass name _ => [(.ofClass, name)]
  | ofShape name => [(.ofShape, name)]
  | ofValues map => [(.ofMap, map.name), (.ofUnion, map.name ++ unionSuffix)]

def Typings.names (typings : Typings) : List (NameRole × String) :=
  typings.outline.flatMap (·.names)

namespace DeclaredName

def shown (name : DeclaredName) : NameRole × String := (name.role, name.text)

end DeclaredName

namespace Placed

def enumNames (placed : Placed Enumeration) : List DeclaredName :=
  [⟨.ofMap, placed.enumPath⟩, ⟨.ofUnion, placed.enumPath⟩]

def names (placed : Placed Message) : List DeclaredName :=
  ⟨.ofClass, placed.path⟩ :: placed.enums.flatMap (·.enumNames) ++ [⟨.ofShape, placed.path⟩]

theorem names_declared (visibility : Visibility) (placed : Placed Enumeration) :
    (Outline.ofValues (placed.declared visibility)).names = placed.enumNames.map (·.shown) := by
  simp [Outline.names, declared, Schema.Enumeration.declared, enumNames, enumPath,
    DeclaredName.shown, DeclaredName.text, NameRole.suffix]

theorem names_outline (placed : Placed Message) :
    placed.outline.flatMap (·.names) = placed.names.map (·.shown) := by
  have own : placed.path.flat ++ "" = placed.path.flat := String.append_empty
  unfold outline names
  rw [List.flatMap_append, List.flatMap_cons, List.flatMap_map, List.map_append, List.map_cons,
    List.map_flatMap]
  simp only [names_declared]
  simp only [Outline.names, DeclaredName.shown, DeclaredName.text, NameRole.suffix, own]
  rfl

theorem own_enumPaths (enums : List (Placed Enumeration)) :
    ((enums.flatMap (·.enumNames)).filter (·.role.isOwn)).map (·.path) =
      enums.map (·.enumPath) := by
  induction enums with
  | nil => rfl
  | cons first rest ih => simpa [enumNames, NameRole.isOwn] using ih

theorem derived_enumPaths (enums : List (Placed Enumeration)) :
    ((enums.flatMap (·.enumNames)).filter (!·.role.isOwn)).map (·.path) =
      enums.map (·.enumPath) := by
  induction enums with
  | nil => rfl
  | cons first rest ih => simpa [enumNames, NameRole.isOwn] using ih

theorem own_paths (placed : Placed Message) :
    (placed.names.filter (·.role.isOwn)).map (·.path) = placed.paths := by
  unfold names paths
  rw [← own_enumPaths]
  simp [NameRole.isOwn]

theorem derived_paths (placed : Placed Message) :
    ((placed.names.filter (!·.role.isOwn)).map (·.path)).Perm placed.paths := by
  have last : (placed.names.filter (!·.role.isOwn)).map (·.path) =
      placed.enums.map (·.enumPath) ++ [placed.path] := by
    unfold names
    rw [← derived_enumPaths]
    simp [NameRole.isOwn]
  rw [last]
  exact List.perm_append_singleton _ _

end Placed

namespace Schema.File

/-- All names that the declarations of the file have, in their order. -/
def names (file : Schema.File) : List DeclaredName :=
  file.visibleMessages.flatMap (·.names) ++ file.topEnums.flatMap (·.enumNames)

theorem own_paths (file : Schema.File) :
    (file.names.filter (·.role.isOwn)).map (·.path) = file.declaredPaths := by
  unfold names declaredPaths
  rw [List.filter_append, List.map_append, List.filter_flatMap, List.map_flatMap,
    Placed.own_enumPaths]
  simp only [Placed.own_paths]

theorem derived_paths (file : Schema.File) :
    ((file.names.filter (!·.role.isOwn)).map (·.path)).Perm file.declaredPaths := by
  unfold names declaredPaths
  rw [List.filter_append, List.map_append, List.filter_flatMap, List.map_flatMap,
    Placed.derived_enumPaths]
  apply List.Perm.append_right
  exact List.Perm.flatMap_left _ fun placed _ => placed.derived_paths

theorem path_mem_declaredPaths {file : Schema.File} {name : DeclaredName}
    (member : name ∈ file.names) : name.path ∈ file.declaredPaths := by
  cases own : name.role.isOwn with
  | true =>
    rw [← own_paths]
    exact List.mem_map_of_mem (List.mem_filter.mpr ⟨member, own⟩)
  | false =>
    apply file.derived_paths.subset
    exact List.mem_map_of_mem (List.mem_filter.mpr ⟨member, by simp [own]⟩)

/-- No path has two names with the same suffix, if all paths are different. -/
theorem pairwise_names {file : Schema.File} (distinct : file.declaredPaths.Nodup) :
    file.names.Pairwise fun first second =>
      (first.path, first.role.suffix) ≠ (second.path, second.role.suffix) := by
  have own : (file.names.filter (·.role.isOwn)).Pairwise (·.path ≠ ·.path) := by
    rw [← file.own_paths] at distinct
    exact List.pairwise_map.mp distinct
  have derived : (file.names.filter (!·.role.isOwn)).Pairwise (·.path ≠ ·.path) := by
    exact List.pairwise_map.mp (file.derived_paths.nodup_iff.mpr distinct)
  have parted := List.filter_append_perm (fun name : DeclaredName => name.role.isOwn) file.names
  rw [← parted.pairwise_iff (fun differ same => differ same.symm), List.pairwise_append]
  refine ⟨own.imp fun differ same => differ (congrArg Prod.fst same),
    derived.imp fun differ same => differ (congrArg Prod.fst same), ?_⟩
  intro first bare second suffixed same
  have differ := NameRole.suffix_ne (List.mem_filter.mp bare).2
    (by simpa using (List.mem_filter.mp suffixed).2)
  exact differ (congrArg Prod.snd same)

end Schema.File

theorem Typings.names_eq {index : TypeIndex} {file : Schema.File} {typings : Typings}
    (made : Typings.ofFile index file = .ok typings) :
    typings.names = file.names.map (·.shown) := by
  unfold names Schema.File.names
  rw [outline_eq made, file.outline_eq, List.flatMap_append, List.flatMap_map, List.map_append,
    List.map_flatMap, List.map_flatMap, List.flatMap_assoc]
  simp only [Placed.names_outline, Placed.names_declared]

/-- Of the names that a file declares, where those in each place are distinct, two are the same
just if one is of the shape or the union of a type, and the other is the own name of a type in the
same place that is called so. So no two types have the same own name, and no shape is named as a
union is. -/
theorem names_clash_iff {index : TypeIndex} {file : Schema.File} {typings : Typings}
    (made : Typings.ofFile index file = .ok typings) (distinct : file.DistinctNames) :
    typings.names = file.names.map (·.shown) ∧
    file.names.Pairwise (fun first second =>
      first.text = second.text ↔ first.SpelledBy second ∨ second.SpelledBy first) ∧
    ((typings.names.filter (·.1.isOwn)).map (·.2)).Nodup ∧
    ∀ text, (.ofShape, text) ∈ typings.names → (.ofUnion, text) ∉ typings.names := by
  have names := Typings.names_eq made
  have paths := Schema.File.nodup_declaredPaths distinct
  have joinable (name : DeclaredName) (member : name ∈ file.names) : name.path.Joinable :=
    Schema.File.joinable_of_mem_declaredPaths distinct (Schema.File.path_mem_declaredPaths member)
  have filled (name : DeclaredName) (member : name ∈ file.names) : name.path ≠ [] :=
    Schema.File.ne_nil_of_mem_declaredPaths (Schema.File.path_mem_declaredPaths member)
  have clashes : file.names.Pairwise (fun first second =>
      first.text = second.text ↔ first.SpelledBy second ∨ second.SpelledBy first) := by
    refine (Schema.File.pairwise_names paths).imp_of_mem ?_
    intro first second one other differ
    exact DeclaredName.text_eq_iff (joinable first one) (joinable second other)
      (filled first one) (filled second other) differ
  refine ⟨names, clashes, ?_, ?_⟩
  · rw [names, List.filter_map, List.map_map]
    refine List.pairwise_map.mpr ((clashes.filter _).imp_of_mem ?_)
    intro first second one other met same
    have own := (List.mem_filter.mp one).2
    have too := (List.mem_filter.mp other).2
    rcases met.mp same with ⟨derived, _⟩ | ⟨derived, _⟩
    · exact absurd own (by simp [DeclaredName.shown, derived])
    · exact absurd too (by simp [DeclaredName.shown, derived])
  · intro text shape union
    rw [names] at shape union
    obtain ⟨⟨role, path⟩, _, one⟩ := List.mem_map.mp shape
    obtain ⟨⟨kind, other⟩, _, two⟩ := List.mem_map.mp union
    obtain ⟨rfl, rfl⟩ := Prod.mk.inj one
    obtain ⟨rfl, same⟩ := Prod.mk.inj two
    exact shape_ne_union path.flat other.flat same.symm

namespace Atlas

/-! A map and, beside it, a message that is called as the shape of the map. -/

def legend : Schema.Enumeration := { name := some "Legend" }

def chart : Schema.Message := { name := some "Chart", enums := [legend] }

def chartObj : Schema.Message := { name := some "ChartObj" }

def file : Schema.File := { name := some "atlas.proto", messages := [chart, chartObj] }

/-- The shape of the one and the class of the other have the same name, and no other two. -/
theorem chart_clashes :
    ∃ typings, Typings.ofFile (.ofFiles [file]) file = .ok typings ∧
      typings.names = [(.ofClass, "Chart"), (.ofMap, "Chart$Legend"),
        (.ofUnion, "Chart$LegendType"), (.ofShape, "ChartObj"), (.ofClass, "ChartObj"),
        (.ofShape, "ChartObjObj")] ∧
      DeclaredName.SpelledBy ⟨.ofShape, ["Chart"]⟩ ⟨.ofClass, ["ChartObj"]⟩ ∧
      ((typings.names.filter (·.1.isOwn)).map (·.2)).Nodup := by
  obtain ⟨typings, made⟩ : ∃ typings, Typings.ofFile (.ofFiles [file]) file = .ok typings :=
    exists_value (by decide +kernel)
  obtain ⟨names, clashes, own, _⟩ := names_clash_iff made (by decide +kernel)
  have shape : file.names[3]? = some ⟨.ofShape, ["Chart"]⟩ := by decide +kernel
  have other : file.names[4]? = some ⟨.ofClass, ["ChartObj"]⟩ := by decide +kernel
  obtain ⟨_, third⟩ := List.getElem?_eq_some_iff.mp shape
  obtain ⟨_, fourth⟩ := List.getElem?_eq_some_iff.mp other
  have met := List.pairwise_iff_getElem.mp clashes 3 4 (by decide) (by decide) (by decide)
  rw [third, fourth] at met
  refine ⟨typings, made, ?_, ?_, own⟩
  · rw [names]
    decide +kernel
  · rcases met.mp (by decide +kernel) with spelled | ⟨derived, _⟩
    · exact spelled
    · cases derived

end Atlas

end SchemaTypings
