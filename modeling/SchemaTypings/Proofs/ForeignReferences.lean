import Mathlib.Logic.Relation
import SchemaTypings.Proofs.Acceptance
import SchemaTypings.Proofs.Imports

/-! References to types of other files. The names that such a reference needs are imported
only if the file itself lists the other one among its dependencies, and no dependency before
it has the same identifier. A file that is reached through a dependency of a dependency is
not imported, even if fields refer to its types. -/
namespace SchemaTypings

open Schema (Message)

namespace SchemaPath

theorem identifier_of_stem {first second : String} (same : stem first = stem second) :
    identifier first = identifier second := by
  unfold identifier
  rw [same]

theorem route_eq_iff (current first second : String) :
    route current first = route current second ↔ stem first = stem second := by
  unfold route
  rw [String.append_left_inj, String.append_right_inj]

end SchemaPath

/-- The entry imports the module of the file at `target` from where its artifact is. -/
def Import.leadsTo (current target : String) (entry : Import) : Bool :=
  entry.module == SchemaPath.identifier target && entry.path == SchemaPath.route current target

section Unique

variable {current target : String}

theorem leadsTo_iff (dependency : String) (types : NameSet) :
    Import.leadsTo current target
      ⟨SchemaPath.identifier dependency, SchemaPath.route current dependency, types⟩ = true ↔
        SchemaPath.stem dependency = SchemaPath.stem target := by
  unfold Import.leadsTo
  rw [Bool.and_eq_true, beq_iff_eq, beq_iff_eq, SchemaPath.route_eq_iff]
  exact ⟨And.right, fun same => ⟨SchemaPath.identifier_of_stem same, same⟩⟩

theorem filter_importsOf_cons (first : String) (rest : List String) (needs : Needs) :
    (importsOf current (first :: rest) needs).filter (·.leadsTo current target) =
      let others := (importsOf current rest (needs.without (SchemaPath.identifier first))).filter
        (·.leadsTo current target)
      if SchemaPath.stem first = SchemaPath.stem target then
        ⟨SchemaPath.identifier first, SchemaPath.route current first,
          needs.namesOf (SchemaPath.identifier first)⟩ :: others
      else others := by
  rw [importsOf, List.filter_cons]
  simp only [leadsTo_iff]
  rfl

theorem filter_importsOf_eq_nil (dependencies : List String) (needs : Needs) :
    (importsOf current dependencies needs).filter (·.leadsTo current target) = [] ↔
      ∀ dependency ∈ dependencies, SchemaPath.stem dependency ≠ SchemaPath.stem target := by
  induction dependencies generalizing needs with
  | nil => simp [importsOf]
  | cons first rest ih =>
    rw [filter_importsOf_cons, List.forall_mem_cons]
    by_cases same : SchemaPath.stem first = SchemaPath.stem target
    · simp [same]
    · simp [same, ih]

theorem filter_importsOf_eq_singleton (dependencies : List String) (needs : Needs)
    (entry : Import) :
    (importsOf current dependencies needs).filter (·.leadsTo current target) = [entry] ↔
      ∃ before dependency after, dependencies = before ++ dependency :: after ∧
        SchemaPath.stem dependency = SchemaPath.stem target ∧
        (∀ earlier ∈ before, SchemaPath.stem earlier ≠ SchemaPath.stem target) ∧
        (∀ later ∈ after, SchemaPath.stem later ≠ SchemaPath.stem target) ∧
        entry = ⟨SchemaPath.identifier dependency, SchemaPath.route current dependency,
          (needs.after before).namesOf (SchemaPath.identifier dependency)⟩ := by
  induction dependencies generalizing needs with
  | nil => simp [importsOf]
  | cons first rest ih =>
    rw [filter_importsOf_cons]
    dsimp only
    by_cases same : SchemaPath.stem first = SchemaPath.stem target
    · rw [if_pos same, List.cons.injEq, filter_importsOf_eq_nil]
      constructor
      · rintro ⟨rfl, none⟩
        exact ⟨[], first, rest, rfl, same, by simp, none, rfl⟩
      · rintro ⟨before, dependency, after, split, found, absent, none, rfl⟩
        cases before with
        | nil =>
          cases split
          exact ⟨rfl, none⟩
        | cons other before =>
          cases split
          exact absurd same (absent first List.mem_cons_self)
    · rw [if_neg same, ih]
      constructor
      · rintro ⟨before, dependency, after, rfl, found, absent, none, rfl⟩
        exact ⟨first :: before, dependency, after, rfl, found,
          List.forall_mem_cons.mpr ⟨same, absent⟩, none, rfl⟩
      · rintro ⟨before, dependency, after, split, found, absent, none, rfl⟩
        cases before with
        | nil =>
          cases split
          exact absurd found same
        | cons other before =>
          cases split
          exact ⟨before, dependency, after, rfl, found,
            fun earlier member => absent earlier (List.mem_cons_of_mem _ member), none, rfl⟩

end Unique

/-- A field of a message that `a` declares, no map, refers to a type of `b`, another file. -/
structure ForeignReference (files : List Schema.File) (a b : Schema.File) (field : Schema.Field) :
    Prop where
  supplied : b ∈ files
  other : a ≠ b
  declared : ∃ holder ∈ a.declaredMessages, field ∈ holder.part.fields
  plain : (a.scope (.ofFiles files)).holdsMap field = false
  refers : ∃ path ∈ b.typePaths, field.valueType.reference? = some (b.qualified path)

/-- There is one import of the module at `target`, with all that the field needs of it. -/
def Typings.ImportsFor (typings : Typings) (scope : Scope) (field : Schema.Field)
    (target : String) : Prop :=
  ∃ entry, typings.imports.filter (·.leadsTo scope.file target) = [entry] ∧
    ∀ name, scope.FieldNeeds field ⟨SchemaPath.identifier target, name⟩ → name ∈ entry.types

theorem ForeignReference.exists_need {files : List Schema.File} {a b : Schema.File}
    {field : Schema.Field} (reference : ForeignReference files a b field)
    (paths : (files.map (·.path)).Nodup) (names : (declaredNames files).Nodup) (given : a ∈ files) :
    ∃ name, (a.scope (.ofFiles files)).FieldNeeds field ⟨SchemaPath.identifier b.path, name⟩ := by
  obtain ⟨path, target, refers⟩ := reference.refers
  have found := TypeIndex.get?_ofFiles_qualified names reference.supplied target
  have foreign := path_ne_of_ne paths given reference.supplied reference.other
  obtain ⟨name, need⟩ := Scope.exists_fieldNeeds reference.plain refers found foreign
  exact ⟨name, need⟩

/-- A file imports what a field needs of another file exactly if it depends on that file
once, and on none before it that has the same identifier. -/
theorem imported_iff_depends {request : Request} {artifacts : List Artifact}
    (accepted : request.artifacts = .ok artifacts) (paths : (request.files.map (·.path)).Nodup)
    (names : (declaredNames request.files).Nodup) {a b : Schema.File}
    (wanted : a ∈ request.wantedFiles) {field : Schema.Field}
    (reference : ForeignReference request.files a b field) :
    ∃ typings, Typings.ofFile (.ofFiles request.files) a = .ok typings ∧
      ⟨SchemaPath.artifactName a.path, typings.render⟩ ∈ artifacts ∧
      (typings.ImportsFor (a.scope (.ofFiles request.files)) field b.path ↔
        ∃ before dependency after, a.dependencies = before ++ dependency :: after ∧
          SchemaPath.stem dependency = SchemaPath.stem b.path ∧
          (∀ earlier ∈ before, SchemaPath.identifier earlier ≠ SchemaPath.identifier b.path) ∧
          ∀ later ∈ after, SchemaPath.stem later ≠ SchemaPath.stem b.path) := by
  obtain ⟨typings, made, among⟩ := Request.exists_typings accepted wanted
  obtain ⟨needs, shares, needed⟩ := Typings.imports_eq made
  refine ⟨typings, made, among, ?_⟩
  unfold Typings.ImportsFor
  rw [shares]
  constructor
  · rintro ⟨entry, only, covers⟩
    obtain ⟨before, dependency, after, split, same, _, none, rfl⟩ :=
      (filter_importsOf_eq_singleton _ _ _).mp only
    refine ⟨before, dependency, after, split, same, ?_, none⟩
    obtain ⟨name, need⟩ := reference.exists_need paths names (List.mem_of_mem_filter wanted)
    -- what the field needs would be gone if an earlier dependency had the identifier
    obtain ⟨left, _⟩ :=
      (Needs.mem_after _ _ _).mp ((Needs.mem_namesOf _ _ _).mp (covers name need))
    intro earlier member equal
    apply left
    have taken := equal.trans (SchemaPath.identifier_of_stem same).symm
    exact List.mem_map.mpr ⟨earlier, member, taken⟩
  · rintro ⟨before, dependency, after, split, same, first, none⟩
    have identifier := SchemaPath.identifier_of_stem same
    have absent : ∀ earlier ∈ before, SchemaPath.stem earlier ≠ SchemaPath.stem b.path := by
      intro earlier member equal
      apply first earlier member
      exact SchemaPath.identifier_of_stem equal
    refine ⟨_, (filter_importsOf_eq_singleton _ _ _).mpr
      ⟨before, dependency, after, split, same, absent, none, rfl⟩, ?_⟩
    intro name need
    change name ∈ (needs.after before).namesOf _
    rw [Needs.mem_namesOf, Needs.mem_after, identifier]
    obtain ⟨holder, declared, inside⟩ := reference.declared
    refine ⟨?_, (needed _).mpr ⟨holder, declared, field, inside, need⟩⟩
    intro taken
    obtain ⟨earlier, member, equal⟩ := List.mem_map.mp taken
    exact first earlier member equal

namespace Shop

def orderRequest : Request := { wanted := ["shop/order.proto"], files := [itemFile, orderFile] }

/-- Orders depend on items, so the shape of prices is imported. -/
theorem prices_imported :
    ∃ typings, Typings.ofFile index orderFile = .ok typings ∧
      typings.ImportsFor (orderFile.scope index) prices "shop/item.proto" := by
  obtain ⟨artifacts, accepted⟩ : ∃ artifacts, orderRequest.artifacts = .ok artifacts :=
    exists_value (by decide +kernel)
  have reference : ForeignReference [itemFile, orderFile] orderFile itemFile prices :=
    { supplied := List.mem_cons_self
      other := fun same => absurd (congrArg Schema.File.path same) (by decide)
      declared := ⟨order, List.mem_cons_self, List.mem_cons_self⟩
      plain := by decide +kernel
      refers := ⟨["Item", "Price"], by decide +kernel, rfl⟩ }
  have wanted : orderFile ∈ orderRequest.wantedFiles := List.mem_cons_self
  obtain ⟨typings, made, _, imported⟩ :=
    imported_iff_depends accepted (by decide +kernel) (by decide +kernel) wanted reference
  exact ⟨typings, made, imported.mpr ⟨[], "shop/item.proto", [], rfl, rfl, by simp, by simp⟩⟩

/-- A file that depends on that of the items through that of the orders only. -/
def labelFile : Schema.File :=
  { name := some "shop/label.proto", package := some "shop"
    dependencies := ["shop/order.proto"]
    messages := [{ name := some "Label", fields := [prices] }] }

def labelRequest : Request :=
  { wanted := ["shop/label.proto"], files := [itemFile, orderFile, labelFile] }

end Shop

/-- One of the files lists the other as a dependency. -/
def Schema.File.DependsOn (files : List Schema.File) (a b : Schema.File) : Prop :=
  b ∈ files ∧ b.path ∈ a.dependencies

/-- It is not enough that another file is reached through dependencies of dependencies. -/
theorem not_imported_of_reached :
    ¬ ∀ (request : Request) (artifacts : List Artifact) (a b : Schema.File) (field : Schema.Field),
      request.artifacts = .ok artifacts → (request.files.map (·.path)).Nodup →
      (declaredNames request.files).Nodup → a ∈ request.wantedFiles →
      ForeignReference request.files a b field →
      Relation.TransGen (Schema.File.DependsOn request.files) a b →
      ∃ typings, Typings.ofFile (.ofFiles request.files) a = .ok typings ∧
        typings.ImportsFor (a.scope (.ofFiles request.files)) field b.path := by
  intro always
  obtain ⟨artifacts, accepted⟩ : ∃ artifacts, Shop.labelRequest.artifacts = .ok artifacts :=
    exists_value (by decide +kernel)
  have reference :
      ForeignReference Shop.labelRequest.files Shop.labelFile Shop.itemFile Shop.prices :=
    { supplied := List.mem_cons_self
      other := fun same => absurd (congrArg Schema.File.path same) (by decide)
      declared := ⟨_, List.mem_cons_self, List.mem_cons_self⟩
      plain := by decide +kernel
      refers := ⟨["Item", "Price"], by decide +kernel, rfl⟩ }
  have order : Schema.File.DependsOn Shop.labelRequest.files Shop.labelFile Shop.orderFile :=
    ⟨by simp [Shop.labelRequest], by decide⟩
  have item : Schema.File.DependsOn Shop.labelRequest.files Shop.orderFile Shop.itemFile :=
    ⟨List.mem_cons_self, by decide⟩
  obtain ⟨typings, made, entry, only, _⟩ := always Shop.labelRequest artifacts _ _ _ accepted
    (by decide +kernel) (by decide +kernel) List.mem_cons_self reference
    ((Relation.TransGen.single order).tail item)
  obtain ⟨needs, shares, _⟩ := Typings.imports_eq made
  rw [shares] at only
  obtain ⟨before, dependency, after, split, same, _⟩ :=
    (filter_importsOf_eq_singleton _ _ _).mp only
  have member : dependency ∈ Shop.labelFile.dependencies := by simp [split]
  cases List.mem_singleton.mp member
  exact absurd same (by decide +kernel)

end SchemaTypings
