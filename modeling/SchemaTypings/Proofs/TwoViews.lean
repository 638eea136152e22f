import SchemaTypings.Proofs.FieldTypes
import SchemaTypings.Proofs.TypeText

/-! The two views of a field have types together or not at all. They have none exactly if the
field refers to a type that cannot be found, and the fault is the same for both. Otherwise they
differ only where the field refers to another type: in what the type is called, in that a single
value may be null, and in what they need of other modules. -/
namespace SchemaTypings

open Schema (Field)

namespace Schema

/-- What a value can be that refers to no type. -/
def ValueType.alternatives : ValueType → List TypeExpr
  | .number => [.number]
  | .integer64 asText => [if asText then .string else .number]
  | .boolean => [.boolean]
  | .text => [.string]
  | .bytes => [.string, .uint8Array]
  | .unknown _ => [.unknown]
  | .message _ | .enumeration _ => []

/-- A list of such items where the field is repeated, and this one type where it is not. -/
def Field.listOr (field : Field) (item single : TypeExpr) : TypeExpr :=
  if field.multiplicity = .repeated then .array item else single

def Field.plainType (field : Field) : TypeExpr :=
  .ofAlternatives (field.valueType.alternatives.map fun member => field.listOr member member)

end Schema

namespace Scope

/-- The types of a field in the class and in the shape of its message. -/
inductive Resolved (scope : Scope) (field : Field) : (declared shaped : Typed) → Prop where
  | map (map : scope.holdsMap field = true) : Resolved scope field ⟨.any, {}⟩ ⟨.any, {}⟩
  | value (plain : ¬ field.Refers) :
    Resolved scope field ⟨field.plainType, {}⟩ ⟨field.plainType, {}⟩
  | reference (kind : TypeKind) (site : Site) (plain : scope.holdsMap field = false)
      (refers : field.valueType = kind.reference field.target)
      (found : scope.index.get? field.target = some site) :
    Resolved scope field
      ⟨field.listOr (.named (scope.leafName .accessor kind site))
        (.nullable (.named (scope.leafName .accessor kind site))),
        scope.viewNeeds .accessor kind site⟩
      ⟨field.listOr (.named (scope.leafName .shape kind site))
        (.named (scope.leafName .shape kind site)), scope.viewNeeds .shape kind site⟩

variable {scope : Scope} {view : View} {field : Field}

theorem fieldType_accessor (refers : field.Refers) (name : String) :
    fieldType .accessor field (.named name) =
      field.listOr (.named name) (.nullable (.named name)) := by
  unfold fieldType Schema.Field.listOr
  rw [Schema.Field.reference?_eq_some.mpr ⟨refers, rfl⟩]
  cases field.multiplicity <;> rfl

theorem fieldType_shape (name : String) :
    fieldType .shape field (.named name) = field.listOr (.named name) (.named name) := by
  unfold fieldType Schema.Field.listOr
  cases field.multiplicity <;> rfl

theorem fieldType_value (view : View) (scalar : field.valueType.reference? = none)
    (value : TypeExpr) :
    fieldType view field value =
      if field.multiplicity = .repeated then value.inArray else value := by
  unfold fieldType
  rw [scalar]
  cases field.multiplicity <;> cases view <;> rfl

theorem typed_value (scalar : field.valueType.reference? = none) :
    scope.typed view field = .ok { type := field.plainType } := by
  have single (value : TypeExpr) := fieldType_value view scalar value
  rw [typed_plain (holdsMap_of_scalar scalar), valueType, Schema.Field.plainType]
  unfold Schema.Field.listOr
  cases kind : field.valueType with
  | message typeName => simp [kind, Schema.ValueType.reference?] at scalar
  | enumeration typeName => simp [kind, Schema.ValueType.reference?] at scalar
  | integer64 asText =>
    cases asText <;> cases many : field.multiplicity <;> simp only [single, many] <;> rfl
  | _ => cases many : field.multiplicity <;> simp only [single, many] <;> rfl

theorem resolved_of_typed {declared shaped : Typed} (first : scope.typed .accessor field = .ok declared)
    (second : scope.typed .shape field = .ok shaped) : scope.Resolved field declared shaped := by
  cases map : scope.holdsMap field with
  | true =>
    rw [typed_map map] at first second
    obtain ⟨_, _, first⟩ := bind_eq_ok.mp first
    obtain ⟨_, _, second⟩ := bind_eq_ok.mp second
    cases first
    cases second
    exact .map map
  | false =>
    cases reference : field.valueType.reference? with
    | none =>
      rw [typed_value reference] at first second
      cases first
      cases second
      exact .value (Schema.Field.reference?_eq_none.mp reference)
    | some name =>
      obtain ⟨refers, rfl⟩ := Schema.Field.reference?_eq_some.mp reference
      obtain ⟨kind, target⟩ := TypeKind.reference?_eq_some.mp reference
      rw [typed_reference map target] at first second
      obtain ⟨site, located, first⟩ := bind_eq_ok.mp first
      obtain ⟨again, same, second⟩ := bind_eq_ok.mp second
      cases located.symm.trans same
      cases first
      cases second
      rw [referenceType_eq, referenceType_eq]
      dsimp only
      rw [fieldType_accessor refers, fieldType_shape]
      exact .reference kind site map target (TypeIndex.locate_eq_ok.mp located).2.2

/-- The two views of a field both have a type, or both have the same fault. -/
theorem views_agree (scope : Scope) (field : Field) :
    (∃ fault, scope.index.Unresolved field fault ∧
        ∀ view, scope.typed view field = .error fault) ∨
      ∃ declared shaped, scope.typed .accessor field = .ok declared ∧
        scope.typed .shape field = .ok shaped ∧ scope.Resolved field declared shaped ∧
        ∀ fault, ¬ scope.index.Unresolved field fault := by
  by_cases unresolved : ∃ fault, scope.index.Unresolved field fault
  · obtain ⟨fault, why⟩ := unresolved
    exact .inl ⟨fault, why, fun view => typed_eq_error.mpr why⟩
  · have found (view : View) : ∃ typed, scope.typed view field = .ok typed := by
      cases run : scope.typed view field with
      | ok typed => exact ⟨typed, rfl⟩
      | error fault => exact absurd ⟨fault, typed_eq_error.mp run⟩ unresolved
    obtain ⟨declared, first⟩ := found .accessor
    obtain ⟨shaped, second⟩ := found .shape
    exact .inr ⟨declared, shaped, first, second, resolved_of_typed first second,
      not_exists.mp unresolved⟩

end Scope

end SchemaTypings
