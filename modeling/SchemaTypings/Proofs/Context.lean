import Mathlib.Data.List.Perm.Subperm
import SchemaTypings.Proofs.Acceptance
import SchemaTypings.Proofs.ForeignReferences
import SchemaTypings.Proofs.Marks

/-! What the artifact of a file depends on. Emission looks types up by their names and maps up by
the messages of the file itself. Where names of files and of types are distinct, neither answer
changes if more files are supplied or if they come in another order, so the file has the same
typings among more files as among fewer. -/
namespace SchemaTypings

open Schema (Message)

theorem Scope.valueType_of_scalar {view : View} {field : Schema.Field} (scope other : Scope)
    (scalar : field.valueType.reference? = none) :
    scope.valueType view field = other.valueType view field := by
  unfold Scope.valueType
  cases kind : field.valueType with
  | message typeName => simp [kind, Schema.ValueType.reference?] at scalar
  | enumeration typeName => simp [kind, Schema.ValueType.reference?] at scalar
  | _ => rfl

/-- `other` sees the same file, the same maps in it, and every type that `scope` sees. -/
structure Scope.Within (scope other : Scope) : Prop where
  file : scope.file = other.file
  maps : ∀ field, scope.holdsMap field = other.holdsMap field
  sites : ∀ typeName site, scope.index.get? typeName = some site →
    other.index.get? typeName = some site

namespace Scope.Within

variable {scope other : Scope} {view : View} {field : Schema.Field}

theorem locate (within : scope.Within other) {name typeName : String} {site : Site}
    (located : scope.index.locate name typeName = .ok site) :
    other.index.locate name typeName = .ok site := by
  obtain ⟨filled, dotted, found⟩ := TypeIndex.locate_eq_ok.mp located
  exact TypeIndex.locate_eq_ok.mpr ⟨filled, dotted, within.sites typeName site found⟩

theorem referenceType (within : scope.Within other) (kind : TypeKind) (site : Site) :
    scope.referenceType view kind site = other.referenceType view kind site := by
  have foreign : scope.isForeign site = other.isForeign site := by
    rw [isForeign, isForeign, within.file]
  unfold Scope.referenceType messageType enumerationType need
  rw [foreign]

theorem typed (within : scope.Within other) {typed : Typed}
    (made : scope.typed view field = .ok typed) : other.typed view field = .ok typed := by
  cases map : scope.holdsMap field with
  | true =>
    rw [typed_map map] at made
    rw [typed_map (within.maps field ▸ map)]
    obtain ⟨site, located, made⟩ := bind_eq_ok.mp made
    exact bind_eq_ok.mpr ⟨site, within.locate located, made⟩
  | false =>
    have plain : other.holdsMap field = false := within.maps field ▸ map
    cases reference : field.valueType.reference? with
    | none =>
      rw [typed_plain map, valueType_of_scalar scope other reference] at made
      rwa [typed_plain plain]
    | some typeName =>
      obtain ⟨kind, refers⟩ := TypeKind.reference?_eq_some.mp reference
      rw [typed_reference map refers] at made
      rw [typed_reference plain refers]
      obtain ⟨site, located, made⟩ := bind_eq_ok.mp made
      rw [within.referenceType] at made
      exact bind_eq_ok.mpr ⟨site, within.locate located, made⟩

theorem members (within : scope.Within other) {members : FieldMembers}
    (made : scope.members field = .ok members) : other.members field = .ok members := by
  have suffix : scope.suffix field = other.suffix field := by
    rw [Scope.suffix, Scope.suffix, within.maps]
  obtain ⟨declared, first, made⟩ := bind_eq_ok.mp made
  obtain ⟨shaped, second, made⟩ := bind_eq_ok.mp made
  rw [suffix, within.maps] at made
  exact bind_eq_ok.mpr ⟨declared, within.typed first,
    bind_eq_ok.mpr ⟨shaped, within.typed second, made⟩⟩

theorem own (within : scope.Within other) {placed : Placed Message} {own : Fragment}
    (made : scope.own placed = .ok own) : other.own placed = .ok own := by
  unfold Scope.own at made ⊢
  cases named : placed.part.name with
  | none => simp [named] at made
  | some name =>
    rw [named] at made
    obtain ⟨members, each, made⟩ := bind_eq_ok.mp made
    have same := mapM_eq_ok.mpr ((mapM_eq_ok.mp each).imp fun _ _ => within.members)
    exact bind_eq_ok.mpr ⟨members, same, made⟩

theorem fragments (within : scope.Within other) {owners : TypePath} {messages : List Message}
    {fragment : Fragment} (made : scope.fragments owners messages = .ok fragment) :
    other.fragments owners messages = .ok fragment := by
  rw [fragments_eq] at made ⊢
  obtain ⟨parts, each, made⟩ := bind_eq_ok.mp made
  have same := mapM_eq_ok.mpr ((mapM_eq_ok.mp each).imp fun _ _ => within.own)
  exact bind_eq_ok.mpr ⟨parts, same, made⟩

end Scope.Within

theorem Typings.ofFile_within {index larger : TypeIndex} {file : Schema.File} {typings : Typings}
    (within : (file.scope index).Within (file.scope larger))
    (made : Typings.ofFile index file = .ok typings) :
    Typings.ofFile larger file = .ok typings := by
  unfold Typings.ofFile at made ⊢
  cases named : file.name with
  | none => simp [named] at made
  | some path =>
    have same : file.path = path := by rw [Schema.File.path, named]; rfl
    rw [named] at made
    simp only [← same] at made ⊢
    obtain ⟨fragment, emitted, made⟩ := bind_eq_ok.mp made
    exact bind_eq_ok.mpr ⟨fragment, within.fragments emitted, made⟩

section Files

variable {few many : List Schema.File}

theorem nodup_paths_of_subperm (subset : few.Subperm many)
    (paths : (many.map (·.path)).Nodup) : (few.map (·.path)).Nodup := by
  obtain ⟨ordered, perm, sublist⟩ := subset
  exact (perm.map _).nodup_iff.mp (paths.sublist (sublist.map _))

theorem within_of_subperm (subset : few.Subperm many) (paths : (many.map (·.path)).Nodup)
    (names : (declaredNames many).Nodup) {file : Schema.File} (supplied : file ∈ few) :
    (file.scope (.ofFiles few)).Within (file.scope (.ofFiles many)) where
  file := rfl
  maps field := by
    have distinct := nodup_paths_of_subperm subset paths
    have given := subset.subset supplied
    rw [Scope.holdsMap_ofFiles distinct supplied, Scope.holdsMap_ofFiles paths given]
  sites typeName site found := by
    obtain ⟨source, given, path, member, rfl, rfl⟩ := TypeIndex.exists_type_of_get? found
    exact TypeIndex.get?_ofFiles_qualified names (subset.subset given) member

end Files

theorem Artifact.ofFile_within {index larger : TypeIndex} {file : Schema.File}
    {artifact : Artifact} (within : (file.scope index).Within (file.scope larger))
    (made : Artifact.ofFile index file = .ok artifact) :
    Artifact.ofFile larger file = .ok artifact := by
  obtain ⟨typings, emitted, rfl⟩ := Artifact.ofFile_eq_ok made
  exact bind_eq_ok.mpr ⟨typings, Typings.ofFile_within within emitted, rfl⟩

namespace Request

/-- The artifact for a wanted file stands where the file stands among the wanted ones. -/
theorem exists_artifact_at {request : Request} {artifacts : List Artifact}
    (accepted : request.artifacts = .ok artifacts) {i : Nat} {file : Schema.File}
    (wanted : request.wantedFiles[i]? = some file) :
    ∃ artifact, artifacts[i]? = some artifact ∧
      Artifact.ofFile (.ofFiles request.files) file = .ok artifact := by
  obtain ⟨settings, made, _, each, rfl⟩ := artifacts_eq_ok accepted
  obtain ⟨artifact, found, one⟩ := exists_result_at each wanted
  have inside : i < made.length := (List.getElem?_eq_some_iff.mp found).1
  exact ⟨artifact, (List.getElem?_append_left inside).trans found, one⟩

theorem mem_files_of_wanted {request : Request} {i : Nat} {file : Schema.File}
    (wanted : request.wantedFiles[i]? = some file) : file ∈ request.files :=
  List.mem_of_mem_filter (List.mem_of_getElem? wanted)

/-- Two requests give a file that both want the same artifact if one has all the files of the
other, in any order: it depends neither on the order of the files nor on files besides. -/
theorem artifact_unchanged {first second : Request} {few many : List Artifact}
    (accepted : first.artifacts = .ok few) (other : second.artifacts = .ok many)
    (subset : first.files.Subperm second.files)
    (paths : (second.files.map (·.path)).Nodup) (names : (declaredNames second.files).Nodup)
    {i j : Nat} {file : Schema.File} (here : first.wantedFiles[i]? = some file)
    (there : second.wantedFiles[j]? = some file) :
    ∃ artifact, few[i]? = some artifact ∧ many[j]? = some artifact ∧
      artifact.name = SchemaPath.artifactName file.path ∧
      Artifact.ofFile (.ofFiles first.files) file = .ok artifact ∧
      Artifact.ofFile (.ofFiles second.files) file = .ok artifact := by
  obtain ⟨artifact, found, made⟩ := exists_artifact_at accepted here
  obtain ⟨again, also, remade⟩ := exists_artifact_at other there
  have within := within_of_subperm subset paths names (mem_files_of_wanted here)
  cases remade.symm.trans (Artifact.ofFile_within within made)
  have name : artifact.name = SchemaPath.artifactName file.path := by
    obtain ⟨typings, _, rfl⟩ := Artifact.ofFile_eq_ok made
    rfl
  exact ⟨artifact, found, also, name, made, remade⟩

end Request

namespace Shop

def labelAndOrderRequest : Request :=
  { wanted := ["shop/label.proto", "shop/order.proto"], files := [labelFile, orderFile, itemFile] }

theorem wanted_order : orderRequest.wantedFiles[0]? = some orderFile := by
  rw [Request.wantedFiles, orderRequest, List.filter_cons_of_neg (by decide +kernel),
    List.filter_cons_of_pos (by decide +kernel)]
  rfl

theorem wanted_order_second : labelAndOrderRequest.wantedFiles[1]? = some orderFile := by
  rw [Request.wantedFiles, labelAndOrderRequest, List.filter_cons_of_pos (by decide +kernel),
    List.filter_cons_of_pos (by decide +kernel)]
  rfl

/-- Orders are typed alike without the labels and when the items come last. -/
theorem order_unchanged :
    ∃ few many artifact, orderRequest.artifacts = .ok few ∧
      labelAndOrderRequest.artifacts = .ok many ∧ few[0]? = some artifact ∧
      many[1]? = some artifact := by
  obtain ⟨few, accepted⟩ : ∃ few, orderRequest.artifacts = .ok few :=
    exists_value (by decide +kernel)
  obtain ⟨many, other⟩ : ∃ many, labelAndOrderRequest.artifacts = .ok many :=
    exists_value (by decide +kernel)
  have subset : orderRequest.files.Subperm labelAndOrderRequest.files :=
    ((List.Perm.swap orderFile itemFile []).subperm).trans (List.sublist_cons_self _ _).subperm
  obtain ⟨artifact, found, also, _⟩ := Request.artifact_unchanged accepted other subset
    (by decide +kernel) (by decide +kernel) wanted_order wanted_order_second
  exact ⟨few, many, artifact, accepted, other, found, also⟩

end Shop

end SchemaTypings
