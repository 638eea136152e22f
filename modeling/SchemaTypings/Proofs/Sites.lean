import Mathlib.Data.List.Nodup
import SchemaTypings.Proofs.Walk

/-! What the index knows once all files are in it. Each step of its construction adds types
to it, and a name then stands for the last type added under it. Where no two types have the
same name, every type is found at its own site. -/
namespace SchemaTypings

/-- A type that a file declares. -/
structure DeclaredType where
  origin : Origin
  path : TypePath

namespace DeclaredType

def name (type : DeclaredType) : String := type.path.qualified type.origin.package

def site (type : DeclaredType) : Site := type.origin.site type.path

end DeclaredType

def Schema.File.qualified (file : Schema.File) (path : TypePath) : String :=
  path.qualified (file.package.getD "")

theorem DeclaredType.name_ofFile (file : Schema.File) (path : TypePath) :
    (⟨.ofFile file, path⟩ : DeclaredType).name = file.qualified path := by
  rw [name, Origin.ofFile, Schema.File.qualified]

def Schema.File.types (file : Schema.File) : List DeclaredType :=
  file.typePaths.map fun path => ⟨.ofFile file, path⟩

def declaredTypes (files : List Schema.File) : List DeclaredType := files.flatMap (·.types)

/-- The names of all types that the files declare, repetitions included. -/
def declaredNames (files : List Schema.File) : List String := (declaredTypes files).map (·.name)

theorem path_ne_of_ne {files : List Schema.File} (paths : (files.map (·.path)).Nodup)
    {first second : Schema.File} (one : first ∈ files) (other : second ∈ files)
    (differ : first ≠ second) : second.path ≠ first.path := by
  intro same
  apply differ
  exact List.inj_on_of_nodup_map paths one other same.symm

/-- The site of the last of the types that has the name. -/
def lastSite (types : List DeclaredType) (name : String) : Option Site :=
  (types.reverse.find? (·.name == name)).map (·.site)

theorem lastSite_append (first second : List DeclaredType) (name : String) :
    lastSite (first ++ second) name = (lastSite second name).or (lastSite first name) := by
  unfold lastSite
  rw [List.reverse_append, List.find?_append, Option.map_or]

theorem lastSite_eq_none (types : List DeclaredType) (name : String) :
    lastSite types name = none ↔ name ∉ types.map (·.name) := by
  simp [lastSite]

theorem lastSite_of_nodup {types : List DeclaredType} (distinct : (types.map (·.name)).Nodup)
    {type : DeclaredType} (member : type ∈ types) : lastSite types type.name = some type.site := by
  unfold lastSite
  cases found : types.reverse.find? (·.name == type.name) with
  | none => simpa using List.find?_eq_none.mp found type (List.mem_reverse.mpr member)
  | some other =>
    have same : other.name = type.name := by simpa using List.find?_some found
    have known : other ∈ types := List.mem_reverse.mp (List.mem_of_find?_eq_some found)
    rw [List.inj_on_of_nodup_map distinct known member same]
    rfl

namespace TypeIndex

/-- `after` knows the types of the list by name, the last one first, and whatever
`before` knew by another name. -/
def Adds (types : List DeclaredType) (before after : TypeIndex) : Prop :=
  ∀ name, after.get? name = (lastSite types name).or (before.get? name)

theorem Adds.append {first second : List DeclaredType} {before middle after : TypeIndex}
    (one : Adds first before middle) (two : Adds second middle after) :
    Adds (first ++ second) before after := by
  intro name
  rw [two name, one name, lastSite_append, Option.or_assoc]

theorem Adds.foldl {α : Type} {step : TypeIndex → α → TypeIndex} {types : α → List DeclaredType}
    (adds : ∀ index item, Adds (types item) index (step index item)) (items : List α)
    (index : TypeIndex) : Adds (items.flatMap types) index (items.foldl step index) := by
  induction items generalizing index with
  | nil => intro name; rfl
  | cons item rest ih => exact (adds index item).append (ih (step index item))

theorem adds_declare (origin : Origin) (index : TypeIndex) (path : TypePath) :
    Adds [⟨origin, path⟩] index (index.declare origin path) := by
  intro name
  rw [get?_declare]
  by_cases same : path.qualified origin.package = name <;>
    simp [lastSite, DeclaredType.name, DeclaredType.site, same]

theorem Adds.mark {types : List DeclaredType} {before after : TypeIndex}
    (adds : Adds types before after) (origin : Origin) (name : String) (isEntry : Bool) :
    Adds types before (after.mark origin name isEntry) := by
  intro other
  rw [get?_mark]
  exact adds other

theorem adds_enums (origin : Origin) (owners : TypePath) (index : TypeIndex)
    (enums : List Schema.Enumeration) :
    Adds (enums.map fun enumeration => ⟨origin, owners ++ [enumeration.localName]⟩) index
      (index.addEnums origin owners enums) := by
  have added := Adds.foldl (fun index (enumeration : Schema.Enumeration) =>
    adds_declare origin index (owners ++ [enumeration.localName])) enums index
  rw [← List.map_eq_flatMap] at added
  exact added

/-- The index with a message and its enumerations, but not the messages nested in it. -/
def addPlaced (origin : Origin) (index : TypeIndex) (placed : Placed Schema.Message) : TypeIndex :=
  let declared := index.declare origin placed.path
  let marked := declared.mark origin placed.part.localName placed.part.isEntry
  marked.addEnums origin placed.path placed.part.enums

theorem adds_placed (origin : Origin) (index : TypeIndex) (placed : Placed Schema.Message) :
    Adds ((placed.path :: placed.enums.map (·.enumPath)).map fun path => ⟨origin, path⟩) index
      (index.addPlaced origin placed) := by
  have declared := adds_declare origin index placed.path
  have message := declared.mark origin placed.part.localName placed.part.isEntry
  have both := message.append (adds_enums origin placed.path _ placed.part.enums)
  simpa [addPlaced, Placed.enums, Placed.enumPath, Function.comp_def] using both

mutual
theorem addMessage_eq_foldl (origin : Origin) (owners : TypePath) (index : TypeIndex) :
    (message : Schema.Message) → addMessage origin owners index message =
      (message.walk Schema.anyMessage owners).foldl (addPlaced origin) index
  | ⟨name, fields, nested, enums, options⟩ => by
    rw [addMessage, Schema.Message.walk_kept owners _ rfl, List.foldl_cons, addMessages_eq_foldl]
    rfl

theorem addMessages_eq_foldl (origin : Origin) (owners : TypePath) (index : TypeIndex) :
    (messages : List Schema.Message) → addMessages origin owners index messages =
      (Schema.walkEach Schema.anyMessage owners messages).foldl (addPlaced origin) index
  | [] => rfl
  | message :: rest => by
    rw [addMessages, Schema.walkEach, List.foldl_append, addMessage_eq_foldl, addMessages_eq_foldl]
end

theorem adds_file (index : TypeIndex) (file : Schema.File) :
    Adds file.types index (index.addFile file) := by
  have messages := Adds.foldl (adds_placed (.ofFile file)) file.allMessages index
  have both := messages.append (adds_enums (.ofFile file) [] _ file.enums)
  have walked := addMessages_eq_foldl (.ofFile file) [] index file.messages
  change Adds _ index ((addMessages (.ofFile file) [] index file.messages).addEnums _ _ _)
  rw [walked]
  simpa [Schema.File.types, Schema.File.typePaths, Schema.File.topEnums, Placed.enumPath,
    List.map_flatMap, Function.comp_def, Schema.File.allMessages] using both

theorem get?_empty (name : String) : ({} : TypeIndex).get? name = none := by
  unfold get?
  exact Std.TreeMap.getElem?_emptyc

theorem get?_ofFiles (files : List Schema.File) (name : String) :
    (ofFiles files).get? name = lastSite (declaredTypes files) name := by
  have added : Adds (declaredTypes files) {} (ofFiles files) := Adds.foldl adds_file files {}
  rw [added name, get?_empty, Option.or_none]

theorem get?_ofFiles_eq_none (files : List Schema.File) (name : String) :
    (ofFiles files).get? name = none ↔ name ∉ declaredNames files := by
  rw [get?_ofFiles, lastSite_eq_none, declaredNames]

/-- Whatever is found is a type of one of the files. -/
theorem exists_type_of_get? {files : List Schema.File} {name : String} {site : Site}
    (found : (ofFiles files).get? name = some site) :
    ∃ file ∈ files, ∃ path ∈ file.typePaths,
      name = file.qualified path ∧ site = (Origin.ofFile file).site path := by
  rw [get?_ofFiles] at found
  obtain ⟨type, last, rfl⟩ := Option.map_eq_some_iff.mp found
  have known : type ∈ declaredTypes files := List.mem_reverse.mp (List.mem_of_find?_eq_some last)
  have named : type.name = name := by simpa using List.find?_some last
  obtain ⟨file, supplied, declared⟩ := List.mem_flatMap.mp known
  obtain ⟨path, member, rfl⟩ := List.mem_map.mp declared
  exact ⟨file, supplied, path, member, named.symm.trans (DeclaredType.name_ofFile file path), rfl⟩

/-- Where names are distinct, each type of each file is found at its own site. -/
theorem get?_ofFiles_qualified {files : List Schema.File} (distinct : (declaredNames files).Nodup)
    {file : Schema.File} (supplied : file ∈ files) {path : TypePath}
    (member : path ∈ file.typePaths) :
    (ofFiles files).get? (file.qualified path) = some ((Origin.ofFile file).site path) := by
  have known : (⟨.ofFile file, path⟩ : DeclaredType) ∈ declaredTypes files :=
    List.mem_flatMap.mpr ⟨file, supplied, List.mem_map_of_mem member⟩
  have found := lastSite_of_nodup distinct known
  rw [DeclaredType.name_ofFile] at found
  rw [get?_ofFiles, found]
  rfl

end TypeIndex

end SchemaTypings
