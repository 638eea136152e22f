import SchemaTypings.Proofs.TwoViews

/-! The names that fields need of other modules. The two views of a field need the name of a type
that another file declares, by the suffix of its kind, and nothing else. -/
namespace SchemaTypings

namespace Scope

variable {scope : Scope} {field : Schema.Field}

/-- What a field needs of other modules: the shape of a message or the union of an
enumeration, if another file declares it. A map needs nothing. -/
inductive FieldNeeds (scope : Scope) (field : Schema.Field) : Need → Prop where
  | foreign (kind : TypeKind) (typeName : String) (site : Site)
      (plain : scope.holdsMap field = false) (refers : field.valueType = kind.reference typeName)
      (found : scope.index.get? typeName = some site) (other : site.file ≠ scope.file) :
      FieldNeeds scope field ⟨site.module, site.name ++ kind.suffix⟩

theorem fieldNeeds_iff (plain : scope.holdsMap field = false) {kind : TypeKind}
    {typeName : String} (refers : field.valueType = kind.reference typeName) {site : Site}
    (found : scope.index.get? typeName = some site) (need : Need) :
    scope.FieldNeeds field need ↔
      site.file ≠ scope.file ∧ need = ⟨site.module, site.name ++ kind.suffix⟩ := by
  constructor
  · rintro ⟨_, _, other, _, again, known, foreign⟩
    obtain ⟨rfl, rfl⟩ := TypeKind.reference_inj (refers.symm.trans again)
    cases found.symm.trans known
    exact ⟨foreign, rfl⟩
  · rintro ⟨foreign, rfl⟩
    exact .foreign kind typeName site plain refers found foreign

theorem exists_fieldNeeds (plain : scope.holdsMap field = false) {typeName : String}
    (refers : field.valueType.reference? = some typeName) {site : Site}
    (found : scope.index.get? typeName = some site) (foreign : site.file ≠ scope.file) :
    ∃ name, scope.FieldNeeds field ⟨site.module, name⟩ := by
  obtain ⟨kind, refers⟩ := TypeKind.reference?_eq_some.mp refers
  exact ⟨_, .foreign kind typeName site plain refers found foreign⟩

theorem not_fieldNeeds_of_scalar (scalar : field.valueType.reference? = none) (need : Need) :
    ¬ scope.FieldNeeds field need := by
  rintro ⟨kind, typeName, _, _, refers, _, _⟩
  rw [refers, TypeKind.reference?_eq_some.mpr ⟨kind, rfl⟩] at scalar
  cases scalar

/-- A class needs no name of another message, but both views need that of an enumeration. -/
theorem mem_viewNeeds (scope : Scope) (kind : TypeKind) (site : Site) (need : Need) :
    need ∈ (scope.viewNeeds .accessor kind site ++ scope.viewNeeds .shape kind site).toList ↔
      site.file ≠ scope.file ∧ need = ⟨site.module, site.name ++ kind.suffix⟩ := by
  change need ∈ (scope.viewNeeds .accessor kind site).toList ++
    (scope.viewNeeds .shape kind site).toList ↔ _
  by_cases same : site.file = scope.file <;> cases kind <;> simp [viewNeeds, same]

/-- The two views of a field together need what the field needs, and nothing else. -/
theorem mem_members_needs {members : FieldMembers} (made : scope.members field = .ok members)
    (need : Need) : need ∈ members.needs.toList ↔ scope.FieldNeeds field need := by
  obtain ⟨declared, shaped, first, second, rfl⟩ := members_eq_ok made
  cases resolved_of_typed first second with
  | map map =>
    refine ⟨nofun, ?_⟩
    rintro ⟨_, _, _, plain, _, _, _⟩
    cases map.symm.trans plain
  | value plain =>
    have scalar := Schema.Field.reference?_eq_none.mpr plain
    exact ⟨nofun, fun needs => absurd needs (not_fieldNeeds_of_scalar scalar need)⟩
  | reference kind site plain refers found =>
    rw [fieldNeeds_iff plain refers found]
    exact mem_viewNeeds scope kind site need

end Scope

end SchemaTypings
