import Mathlib.Data.List.Basic
import SchemaTypings.Proofs.Acceptance
import SchemaTypings.Proofs.Emission
import SchemaTypings.Proofs.Sites

/-! When two types are referred to by one name. A name consists of the path of the type, a
suffix and, for classes of other files, the module; as no path of plain names holds a dot or
joins in two ways, each of these can be read back. The names of shapes and unions do not tell
the module, so types of two files with the same path share one. -/
namespace SchemaTypings

open Schema (Message)

/-- The characters that join names are not among those of the name itself. -/
def PlainName (name : String) : Prop := '.' ∉ name.toList ∧ '$' ∉ name.toList

def Schema.File.PlainNames (file : Schema.File) : Prop :=
  ∀ path ∈ file.typePaths, ∀ name ∈ path, PlainName name

instance (name : String) : Decidable (PlainName name) :=
  inferInstanceAs (Decidable (_ ∧ _))

instance (file : Schema.File) : Decidable file.PlainNames :=
  inferInstanceAs (Decidable (∀ path ∈ file.typePaths, ∀ name ∈ path, PlainName name))

namespace TypePath

theorem dot_not_mem_flat {path : TypePath} (plain : ∀ name ∈ path, PlainName name) :
    '.' ∉ path.flat.toList := by
  unfold flat
  induction path with
  | nil => simp
  | cons name rest ih =>
    have first := (plain name List.mem_cons_self).1
    have others := ih fun other member => plain other (List.mem_cons_of_mem _ member)
    by_cases last : rest = []
    · subst last
      rwa [String.intercalate_singleton]
    · have dollar : '.' ∉ "$".toList := by decide
      rw [String.intercalate_cons_of_ne_nil last, String.toList_append, String.toList_append]
      simp only [List.mem_append, not_or]
      exact ⟨⟨first, dollar⟩, others⟩

theorem flat_inj {first second : TypePath} (plain : ∀ name ∈ first, '$' ∉ name.toList)
    (other : ∀ name ∈ second, '$' ∉ name.toList) (one : first ≠ []) (two : second ≠ [])
    (same : first.flat = second.flat) : first = second := by
  -- a path is what its name falls into at the dollar signs
  have read {path : TypePath} (plain : ∀ name ∈ path, '$' ∉ name.toList) (filled : path ≠ []) :
      path.flat.toList.splitOn '$' = path.map String.toList := by
    unfold flat
    rw [String.toList_intercalate]
    apply List.splitOn_intercalate
    · intro name member
      obtain ⟨part, inside, rfl⟩ := List.mem_map.mp member
      exact plain part inside
    · simpa using filled
  have lists := read plain one
  rw [same, read other two] at lists
  exact List.map_injective_iff.mpr (fun _ _ => String.toList_inj.mp) lists.symm

end TypePath

theorem SchemaPath.dot_not_mem_identifier (path : String) :
    '.' ∉ (SchemaPath.identifier path).toList := by
  have ending : '.' ∉ "_pb".toList := by decide
  unfold identifier
  rw [String.toList_append, String.toList_ofList, List.mem_append, List.mem_map, not_or]
  refine ⟨?_, ending⟩
  rintro ⟨c, _, dot⟩
  unfold separatorToUnderscore at dot
  split at dot
  next => cases dot
  next kept => exact kept (.inr (.inr dot))

/-- The name of a type without dots, in the module of the file that declares the type. -/
structure Site.Plain (site : Site) : Prop where
  module : site.module = SchemaPath.identifier site.file
  name : '.' ∉ site.name.toList

theorem Site.Plain.dot_not_mem_module {site : Site} (plain : site.Plain) :
    '.' ∉ site.module.toList := by
  rw [plain.module]
  exact SchemaPath.dot_not_mem_identifier site.file

theorem toList_dotted (module name : String) :
    (module ++ "." ++ name).toList = module.toList ++ '.' :: name.toList := by
  have dot : ".".toList = ['.'] := by decide
  rw [String.toList_append, String.toList_append, dot, List.append_assoc]
  rfl

theorem ne_dotted {plain : String} (absent : '.' ∉ plain.toList) (module name : String) :
    plain ≠ module ++ "." ++ name := by
  rintro rfl
  rw [toList_dotted] at absent
  exact absent (List.mem_append_right _ List.mem_cons_self)

theorem dotted_inj {module other name another : String} (one : '.' ∉ other.toList)
    (two : '.' ∉ another.toList) :
    module ++ "." ++ name = other ++ "." ++ another ↔ module = other ∧ name = another := by
  constructor
  · intro same
    have lists := congrArg String.toList same
    rw [toList_dotted, toList_dotted, eq_comm, List.append_cons_inj_of_notMem one two] at lists
    exact ⟨String.toList_inj.mp lists.1.symm, String.toList_inj.mp lists.2.2.symm⟩
  · rintro ⟨rfl, rfl⟩
    rfl

theorem dot_not_mem_union {name : String} (plain : '.' ∉ name.toList) :
    '.' ∉ (name ++ unionSuffix).toList := by
  have ending : '.' ∉ unionSuffix.toList := by decide
  rw [String.toList_append, List.mem_append, not_or]
  exact ⟨plain, ending⟩

theorem shape_ne_union (first second : String) : first ++ shapeSuffix ≠ second ++ unionSuffix := by
  intro same
  have last := congrArg (fun name => name.toList.getLast?) same
  simp [shapeSuffix, unionSuffix, List.getLast?_append] at last

namespace Scope

variable {scope : Scope} {first second : Site}

/-- When a class refers to two types, which are not the same, by one name. -/
def Clashes (scope : Scope) : TypeKind → Site → TypeKind → Site → Prop
  | .message, first, .message, second =>
    first.file ≠ scope.file ∧ second.file ≠ scope.file ∧ first.module = second.module ∧
      first.name = second.name
  | .enumeration, first, .enumeration, second => first.name = second.name
  | .message, own, .enumeration, union
  | .enumeration, union, .message, own =>
    own.file = scope.file ∧ own.name = union.name ++ unionSuffix

theorem className_eq_iff (one : first.Plain) (other : second.Plain) (differ : first ≠ second) :
    scope.leafName .accessor .message first = scope.leafName .accessor .message second ↔
      scope.Clashes .message first .message second := by
  unfold leafName Clashes
  dsimp only
  by_cases own : first.file = scope.file
  · by_cases too : second.file = scope.file
    · -- both are of this file and so of one module, and their names would make them one site
      have names : first.name ≠ second.name := by
        intro same
        have modules : first.module = second.module := by
          rw [one.module, other.module, own, too]
        obtain ⟨file, module, name⟩ := first
        exact differ (by cases second; simp_all)
      simp [own, too, names]
    · simp [own, too, ne_dotted one.name]
  · by_cases too : second.file = scope.file
    · simp [own, too, (ne_dotted other.name first.module first.name).symm]
    · simp [own, too, dotted_inj other.dot_not_mem_module other.name]

theorem className_eq_unionName_iff (other : second.Plain) :
    scope.leafName .accessor .message first = scope.leafName .accessor .enumeration second ↔
      scope.Clashes .message first .enumeration second := by
  have plain := dot_not_mem_union other.name
  unfold leafName Clashes
  dsimp only
  by_cases own : first.file = scope.file
  · simp [own, TypeKind.suffix]
  · simp [own, TypeKind.suffix, (ne_dotted plain first.module first.name).symm]

theorem accessorName_eq_iff (one : first.Plain) (other : second.Plain) (differ : first ≠ second)
    (kind another : TypeKind) :
    scope.leafName .accessor kind first = scope.leafName .accessor another second ↔
      scope.Clashes kind first another second := by
  cases kind with
  | message =>
    cases another with
    | message => exact className_eq_iff one other differ
    | enumeration => exact className_eq_unionName_iff other
  | enumeration =>
    cases another with
    | message => exact eq_comm.trans (className_eq_unionName_iff one)
    | enumeration => exact String.append_left_inj _

theorem shapeName_eq_iff (kind another : TypeKind) :
    scope.leafName .shape kind first = scope.leafName .shape another second ↔
      kind = another ∧ first.name = second.name := by
  change first.name ++ kind.suffix = second.name ++ another.suffix ↔ _
  by_cases same : kind = another
  · subst same
    rw [String.append_left_inj]
    simp
  · have names : first.name ++ kind.suffix ≠ second.name ++ another.suffix := by
      cases kind <;> cases another
      case message.enumeration => exact shape_ne_union _ _
      case enumeration.message => exact (shape_ne_union _ _).symm
      all_goals contradiction
    simp [same, names]

end Scope

/-- A field of a declared message, no map, and the type that it refers to. -/
structure Reference (index : TypeIndex) (file : Schema.File) where
  holder : Placed Message
  field : Schema.Field
  kind : TypeKind
  typeName : String
  site : Site
  declared : holder ∈ file.declaredMessages
  inside : field ∈ holder.part.fields
  plain : (file.scope index).holdsMap field = false
  refers : field.valueType = kind.reference typeName
  found : index.get? typeName = some site

/-- These are the names that the types of the field show in its class and in its shape. -/
def Typings.ShowsLeaves {index : TypeIndex} {file : Schema.File} (typings : Typings)
    (reference : Reference index file) (inClass inShape : String) : Prop :=
  ∃ declared shaped, (file.scope index).typed .accessor reference.field = .ok declared ∧
    (file.scope index).typed .shape reference.field = .ok shaped ∧
    typings.HasField (file.scope index) reference.holder reference.field
      declared.type shaped.type ∧
    declared.type.leaves = [inClass] ∧ shaped.type.leaves = [inShape]

namespace Reference

variable {index : TypeIndex} {file : Schema.File} {typings : Typings}

def leafName (reference : Reference index file) (view : View) : String :=
  (file.scope index).leafName view reference.kind reference.site

theorem showsLeaves (reference : Reference index file)
    (made : Typings.ofFile index file = .ok typings) :
    typings.ShowsLeaves reference (reference.leafName .accessor) (reference.leafName .shape) := by
  obtain ⟨declared, shaped, first, second, has⟩ :=
    Typings.exists_hasField made reference.declared reference.inside
  exact ⟨declared, shaped, first, second, has,
    Scope.leaves_reference reference.plain reference.refers reference.found first,
    Scope.leaves_reference reference.plain reference.refers reference.found second⟩

theorem leafName_unique {reference : Reference index file} {inClass inShape : String}
    (shown : typings.ShowsLeaves reference inClass inShape) :
    inClass = reference.leafName .accessor ∧ inShape = reference.leafName .shape := by
  obtain ⟨declared, shaped, first, second, _, one, other⟩ := shown
  rw [Scope.leaves_reference reference.plain reference.refers reference.found first] at one
  rw [Scope.leaves_reference reference.plain reference.refers reference.found second] at other
  exact ⟨(List.cons.inj one).1.symm, (List.cons.inj other).1.symm⟩

section Files

variable {files : List Schema.File}

theorem site_plain (reference : Reference (.ofFiles files) file)
    (plain : ∀ source ∈ files, source.PlainNames) : reference.site.Plain := by
  obtain ⟨source, supplied, path, member, _, site⟩ :=
    TypeIndex.exists_type_of_get? reference.found
  constructor
  · rw [site]
    rfl
  · rw [site]
    exact TypePath.dot_not_mem_flat (plain source supplied path member)

theorem site_ne {first second : Reference (.ofFiles files) file}
    (paths : (files.map (·.path)).Nodup) (plain : ∀ source ∈ files, source.PlainNames)
    (differ : first.typeName ≠ second.typeName) : first.site ≠ second.site := by
  obtain ⟨source, supplied, path, member, name, site⟩ :=
    TypeIndex.exists_type_of_get? first.found
  obtain ⟨other, given, another, inside, named, place⟩ :=
    TypeIndex.exists_type_of_get? second.found
  intro same
  rw [site, place] at same
  have files_ := List.inj_on_of_nodup_map paths supplied given (congrArg Site.file same)
  subst files_
  have equal := TypePath.flat_inj (fun name part => (plain source supplied path member name part).2)
    (fun name part => (plain source supplied another inside name part).2)
    (Schema.File.ne_nil_of_mem_typePaths member) (Schema.File.ne_nil_of_mem_typePaths inside)
    (congrArg Site.name same)
  exact differ (by rw [name, named, equal])

end Files

end Reference

/-- Two types have the same name in a shape if they are of one kind and their paths are the
same, whatever their files, and in a class only if they clash. -/
theorem leaf_names_eq_iff {request : Request} {artifacts : List Artifact}
    (accepted : request.artifacts = .ok artifacts) (paths : (request.files.map (·.path)).Nodup)
    (plain : ∀ source ∈ request.files, source.PlainNames) {file : Schema.File}
    (wanted : file ∈ request.wantedFiles) (first second : Reference (.ofFiles request.files) file)
    (differ : first.typeName ≠ second.typeName) :
    ∃ typings, Typings.ofFile (.ofFiles request.files) file = .ok typings ∧
      ⟨SchemaPath.artifactName file.path, typings.render⟩ ∈ artifacts ∧
      ∃ inClass inShape another other,
        typings.ShowsLeaves first inClass inShape ∧ typings.ShowsLeaves second another other ∧
        (inClass = another ↔ (file.scope (.ofFiles request.files)).Clashes
          first.kind first.site second.kind second.site) ∧
        (inShape = other ↔ first.kind = second.kind ∧ first.site.name = second.site.name) := by
  obtain ⟨typings, made, among⟩ := Request.exists_typings accepted wanted
  have sites := Reference.site_ne paths plain differ
  refine ⟨typings, made, among, _, _, _, _, first.showsLeaves made, second.showsLeaves made, ?_, ?_⟩
  · exact Scope.accessorName_eq_iff (first.site_plain plain) (second.site_plain plain) sites
      first.kind second.kind
  · exact Scope.shapeName_eq_iff first.kind second.kind

namespace Harbor

/-! A harbor with two piers, which two other files declare by the same name. -/

def pierFile (side : String) : Schema.File :=
  { name := some (side ++ "/pier.proto"), package := some side
    messages := [{ name := some "Pier" }] }

def pier (side : String) : Schema.Field :=
  { name := some side, labelCode := some 1, typeCode := some 11
    typeName := some ("." ++ side ++ ".Pier") }

def harbor : Placed Message :=
  ⟨[], { name := some "Harbor", fields := [pier "north", pier "south"] }⟩

def harborFile : Schema.File :=
  { name := some "harbor.proto", messages := [harbor.part]
    dependencies := ["north/pier.proto", "south/pier.proto"] }

def request : Request :=
  { wanted := ["harbor.proto"], files := [pierFile "north", pierFile "south", harborFile] }

def index : TypeIndex := .ofFiles request.files

def northern : Reference index harborFile where
  holder := harbor
  field := pier "north"
  kind := .message
  typeName := ".north.Pier"
  site := ⟨"north/pier.proto", "north_pier_pb", "Pier"⟩
  declared := List.mem_cons_self
  inside := List.mem_cons_self
  plain := by decide +kernel
  refers := rfl
  found := by decide +kernel

def southern : Reference index harborFile where
  holder := harbor
  field := pier "south"
  kind := .message
  typeName := ".south.Pier"
  site := ⟨"south/pier.proto", "south_pier_pb", "Pier"⟩
  declared := List.mem_cons_self
  inside := List.mem_cons_of_mem _ List.mem_cons_self
  plain := by decide +kernel
  refers := rfl
  found := by decide +kernel

/-- The class tells the piers apart by their modules, but the shape does not. -/
theorem piers_share_shape :
    ∃ typings, Typings.ofFile index harborFile = .ok typings ∧
      ∃ inClass another inShape, inClass ≠ another ∧
        typings.ShowsLeaves northern inClass inShape ∧
        typings.ShowsLeaves southern another inShape := by
  obtain ⟨artifacts, accepted⟩ : ∃ artifacts, request.artifacts = .ok artifacts :=
    exists_value (by decide +kernel)
  obtain ⟨typings, made, _, inClass, inShape, another, other, one, two, classes, shapes⟩ :=
    leaf_names_eq_iff accepted (by decide +kernel) (by decide +kernel)
      (List.mem_of_getElem? (i := 0) rfl) northern southern (by decide)
  cases shapes.mpr ⟨rfl, rfl⟩
  refine ⟨typings, made, inClass, another, inShape, ?_, one, two⟩
  intro same
  obtain ⟨_, _, modules, _⟩ := classes.mp same
  exact absurd modules (by decide)

end Harbor

/-- References to different types can show the same name. -/
theorem leaf_names_not_distinct :
    ¬ ∀ (request : Request) (artifacts : List Artifact) (file : Schema.File)
      (first second : Reference (.ofFiles request.files) file),
      request.artifacts = .ok artifacts → (request.files.map (·.path)).Nodup →
      (declaredNames request.files).Nodup → (∀ source ∈ request.files, source.PlainNames) →
      file ∈ request.wantedFiles → first.typeName ≠ second.typeName →
      ∃ typings, Typings.ofFile (.ofFiles request.files) file = .ok typings ∧
        ∃ inClass inShape another other,
          typings.ShowsLeaves first inClass inShape ∧ typings.ShowsLeaves second another other ∧
          inClass ≠ another ∧ inShape ≠ other := by
  intro always
  obtain ⟨artifacts, accepted⟩ : ∃ artifacts, Harbor.request.artifacts = .ok artifacts :=
    exists_value (by decide +kernel)
  obtain ⟨typings, _, inClass, inShape, another, other, one, two, _, differ⟩ :=
    always Harbor.request artifacts Harbor.harborFile Harbor.northern Harbor.southern accepted
      (by decide +kernel) (by decide +kernel) (by decide +kernel)
      (List.mem_of_getElem? (i := 0) rfl) (by decide)
  obtain ⟨_, northern⟩ := Reference.leafName_unique one
  obtain ⟨_, southern⟩ := Reference.leafName_unique two
  exact differ (northern.trans southern.symm)

end SchemaTypings
