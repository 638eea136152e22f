import SchemaTypings.Fragment
import SchemaTypings.Proofs.References

/-! What a field becomes in the two views of its message. Fields that refer to a message and
those that refer to an enumeration differ in the type of one value and in what the names of
imported types end with, and in nothing else, so there is one lemma for both. -/
namespace SchemaTypings

mutual
/-- The names that stand at the leaves of a type expression. -/
def TypeExpr.leaves : TypeExpr → List String
  | .named name => [name]
  | .array element => element.leaves
  | .nullable inner => inner.leaves
  | .union members => leavesOfEach members
  | _ => []

def TypeExpr.leavesOfEach : List TypeExpr → List String
  | [] => []
  | type :: rest => type.leaves ++ leavesOfEach rest
end

namespace TypeKind

def reference : TypeKind → String → Schema.ValueType
  | .message, typeName => .message typeName
  | .enumeration, typeName => .enumeration typeName

/-- What the name of a type that can be imported has after that of its declaration. -/
def suffix : TypeKind → String
  | .message => shapeSuffix
  | .enumeration => unionSuffix

theorem reference?_eq_some {value : Schema.ValueType} {typeName : String} :
    value.reference? = some typeName ↔ ∃ kind : TypeKind, value = kind.reference typeName := by
  constructor
  · intro refers
    cases value with
    | message name => exact ⟨.message, congrArg _ (Option.some.inj refers)⟩
    | enumeration name => exact ⟨.enumeration, congrArg _ (Option.some.inj refers)⟩
    | _ => cases refers
  · rintro ⟨kind, rfl⟩
    cases kind <;> rfl

theorem reference_inj {first second : TypeKind} {name other : String}
    (same : first.reference name = second.reference other) : first = second ∧ name = other := by
  cases first <;> cases second <;> cases same <;> exact ⟨rfl, rfl⟩

end TypeKind

namespace Scope

variable {scope : Scope} {view : View} {field : Schema.Field}

def referenceType (scope : Scope) (view : View) (kind : TypeKind) (site : Site) : Typed :=
  match kind with
  | .message => scope.messageType view site
  | .enumeration => scope.enumerationType site

theorem valueType_of_isMessageList (list : field.isMessageList = true) :
    field.valueType = .message (field.typeName.getD "") := by
  unfold Schema.Field.isMessageList at list
  simp only [Bool.and_eq_true, beq_iff_eq] at list
  unfold Schema.Field.valueType
  rw [list.2]
  rfl

theorem valueType_of_holdsMap (map : scope.holdsMap field = true) :
    field.valueType = .message (field.typeName.getD "") :=
  valueType_of_isMessageList ((Bool.and_eq_true _ _).mp map).1

theorem typed_map (map : scope.holdsMap field = true) :
    scope.typed view field = (do
      let _ ← scope.index.locate field.localName (field.typeName.getD "")
      .ok { type := .any }) := by
  rw [typed, if_pos map]

theorem typed_plain (plain : scope.holdsMap field = false) :
    scope.typed view field = (do
      let value ← scope.valueType view field
      .ok { value with type := fieldType view field value.type }) := by
  rw [typed, if_neg (Bool.eq_false_iff.mp plain)]

theorem typed_reference (plain : scope.holdsMap field = false) {kind : TypeKind}
    {typeName : String} (refers : field.valueType = kind.reference typeName) :
    scope.typed view field = (do
      let site ← scope.index.locate field.localName typeName
      let value := scope.referenceType view kind site
      .ok { value with type := fieldType view field value.type }) := by
  rw [typed_plain plain, valueType, refers]
  cases kind <;> exact bind_assoc _ _ _

theorem typed_eq_of_found (plain : scope.holdsMap field = false) {kind : TypeKind}
    {typeName : String} (refers : field.valueType = kind.reference typeName) {site : Site}
    (found : scope.index.get? typeName = some site) {typed : Typed}
    (made : scope.typed view field = .ok typed) :
    typed.type = fieldType view field (scope.referenceType view kind site).type := by
  rw [typed_reference plain refers] at made
  obtain ⟨other, located, made⟩ := bind_eq_ok.mp made
  cases found.symm.trans (TypeIndex.locate_eq_ok.mp located).2.2
  cases made
  rfl

theorem holdsMap_of_scalar (scalar : field.valueType.reference? = none) :
    scope.holdsMap field = false := by
  apply Bool.eq_false_iff.mpr
  intro map
  simp [valueType_of_holdsMap map, Schema.ValueType.reference?] at scalar

theorem typed_scalar (scope : Scope) (view : View) (scalar : field.valueType.reference? = none) :
    ∃ type, scope.typed view field = .ok { type } := by
  rw [typed_plain (holdsMap_of_scalar scalar), valueType]
  cases kind : field.valueType with
  | message typeName => simp [kind, Schema.ValueType.reference?] at scalar
  | enumeration typeName => simp [kind, Schema.ValueType.reference?] at scalar
  | _ => exact ⟨_, rfl⟩

/-- The check of a field and both of its views fail for the same reasons. -/
theorem typed_eq_error {fault : Fault} :
    scope.typed view field = .error fault ↔ scope.index.Unresolved field fault := by
  cases reference : field.valueType.reference? with
  | none =>
    obtain ⟨type, done⟩ := typed_scalar scope view reference
    rw [done]
    refine ⟨nofun, fun why => absurd why.refers ?_⟩
    exact Schema.Field.reference?_eq_none.mp reference
  | some name =>
    obtain ⟨refers, rfl⟩ := Schema.Field.reference?_eq_some.mp reference
    rw [← TypeIndex.locate_eq_error refers]
    cases map : scope.holdsMap field with
    | true =>
      rw [typed_map map]
      exact bind_ok_eq_error
    | false =>
      obtain ⟨kind, target⟩ := TypeKind.reference?_eq_some.mp reference
      rw [typed_reference map target]
      exact bind_ok_eq_error

theorem exists_typed (checked : scope.index.checkField field = .ok ()) (view : View) :
    ∃ typed, scope.typed view field = .ok typed := by
  cases run : scope.typed view field with
  | ok typed => exact ⟨typed, rfl⟩
  | error fault =>
    rw [TypeIndex.checkField_eq_error.mpr (typed_eq_error.mp run)] at checked
    cases checked

theorem leaves_fieldType (view : View) (field : Schema.Field) (name : String) :
    (fieldType view field (.named name)).leaves = [name] := by
  unfold fieldType
  cases field.multiplicity with
  | repeated => rfl
  | _ =>
    cases view with
    | shape => rfl
    | accessor => cases field.valueType.reference?.isSome <;> rfl

/-- Only classes of other files are referred to through a module. -/
def leafName (scope : Scope) (view : View) (kind : TypeKind) (site : Site) : String :=
  match view, kind with
  | .accessor, .message =>
    if site.file = scope.file then site.name else site.module ++ "." ++ site.name
  | _, _ => site.name ++ kind.suffix

/-- A class goes through the module to a class of another file, so it needs no name from it. -/
def viewNeeds (scope : Scope) (view : View) (kind : TypeKind) (site : Site) : Needs :=
  match view, kind with
  | .accessor, .message => {}
  | _, _ => if site.file = scope.file then {} else ⟨[⟨site.module, site.name ++ kind.suffix⟩]⟩

theorem referenceType_eq (scope : Scope) (view : View) (kind : TypeKind) (site : Site) :
    scope.referenceType view kind site =
      ⟨.named (scope.leafName view kind site), scope.viewNeeds view kind site⟩ := by
  by_cases same : site.file = scope.file <;> cases kind <;> cases view <;>
    simp [referenceType, messageType, enumerationType, leafName, viewNeeds, need, isForeign, same,
      TypeKind.suffix]

theorem leaves_reference (plain : scope.holdsMap field = false) {kind : TypeKind}
    {typeName : String} (refers : field.valueType = kind.reference typeName) {site : Site}
    (found : scope.index.get? typeName = some site) {typed : Typed}
    (made : scope.typed view field = .ok typed) :
    typed.type.leaves = [scope.leafName view kind site] := by
  rw [typed_eq_of_found plain refers found made, referenceType_eq]
  exact leaves_fieldType view field _

theorem exists_members (checked : scope.index.checkField field = .ok ()) :
    ∃ members, scope.members field = .ok members := by
  obtain ⟨declared, first⟩ := exists_typed checked .accessor
  obtain ⟨shaped, second⟩ := exists_typed checked .shape
  rw [Scope.members, first, second]
  exact ⟨_, rfl⟩

/-- What a field of this type adds to the accessors of its class. -/
def accessors (scope : Scope) (field : Schema.Field) (type : TypeExpr) : List Accessor :=
  let stem := Name.capitalized field.localName ++ scope.suffix field
  .getter stem type :: if scope.holdsMap field then [] else [.setter stem type]

def property (scope : Scope) (field : Schema.Field) (type : TypeExpr) : Property :=
  ⟨Name.uncapitalized field.localName ++ scope.suffix field, type⟩

theorem members_eq_ok {members : FieldMembers} (made : scope.members field = .ok members) :
    ∃ declared shaped, scope.typed .accessor field = .ok declared ∧
      scope.typed .shape field = .ok shaped ∧
      members = ⟨scope.accessors field declared.type, scope.property field shaped.type,
        declared.needs ++ shaped.needs⟩ := by
  obtain ⟨declared, first, made⟩ := bind_eq_ok.mp made
  obtain ⟨shaped, second, made⟩ := bind_eq_ok.mp made
  cases made
  exact ⟨declared, shaped, first, second, rfl⟩

end Scope

end SchemaTypings
