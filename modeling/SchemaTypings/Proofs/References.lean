import SchemaTypings.Proofs.Runs
import SchemaTypings.TypeIndex

/-! Fields that refer to a type. Whether one does is told by the code of its type, and the name
it gives has three ways to lead nowhere. -/
namespace SchemaTypings

open Schema (Field)

namespace Schema

/-- Groups, messages and enumerations are the types that schemas declare. -/
def Field.Refers (field : Field) : Prop :=
  field.typeCode = some 10 ∨ field.typeCode = some 11 ∨ field.typeCode = some 14

def Field.target (field : Field) : String := field.typeName.getD ""

theorem Field.toInt_code_eq (field : Field) {code : Int32} (known : code ≠ 0) :
    field.code.toInt = code.toInt ↔ field.typeCode = some code := by
  rw [Int32.toInt_inj, Field.code]
  cases field.typeCode with
  | none => simpa using known.symm
  | some other => simp

theorem Field.refers_iff {field : Field} :
    field.Refers ↔ field.code.toInt = 10 ∨ field.code.toInt = 11 ∨ field.code.toInt = 14 := by
  have group := field.toInt_code_eq (show (10 : Int32) ≠ 0 by decide)
  have message := field.toInt_code_eq (show (11 : Int32) ≠ 0 by decide)
  have enumeration := field.toInt_code_eq (show (14 : Int32) ≠ 0 by decide)
  unfold Refers
  rw [← group, ← message, ← enumeration]
  exact Iff.rfl

theorem Field.reference?_eq_some {field : Field} {name : String} :
    field.valueType.reference? = some name ↔ field.Refers ∧ field.target = name := by
  rw [refers_iff]
  unfold valueType
  split <;> simp_all [ValueType.reference?, target]

theorem Field.reference?_eq_none {field : Field} :
    field.valueType.reference? = none ↔ ¬ field.Refers := by
  rw [Option.eq_none_iff_forall_ne_some]
  constructor
  · intro scalar refers
    exact scalar field.target (reference?_eq_some.mpr ⟨refers, rfl⟩)
  · intro plain name reference
    exact plain (reference?_eq_some.mp reference).1

end Schema

namespace TypeIndex

/-- Why the type that a field refers to cannot be found. -/
inductive Unresolved (index : TypeIndex) (field : Field) : Fault → Prop where
  | untyped (refers : field.Refers) (empty : field.target = "") :
    Unresolved index field (.untyped field.localName)
  | unqualified (refers : field.Refers) (filled : field.target ≠ "")
      (bare : field.target.toList.head? ≠ some '.') :
    Unresolved index field (.unqualified field.target)
  | undeclared (refers : field.Refers) (dotted : field.target.toList.head? = some '.')
      (absent : index.get? field.target = none) :
    Unresolved index field (.undeclared field.target field.localName)

theorem Unresolved.refers {index : TypeIndex} {field : Field} {fault : Fault}
    (why : index.Unresolved field fault) : field.Refers := by
  cases why <;> assumption

theorem locate_eq_ok {index : TypeIndex} {field typeName : String} {site : Site} :
    index.locate field typeName = .ok site ↔
      typeName ≠ "" ∧ typeName.toList.head? = some '.' ∧ index.get? typeName = some site := by
  unfold locate
  split
  next empty => simp [empty]
  next filled =>
    split
    next bare => simp [bare]
    next dotted =>
      have dot : typeName.toList.head? = some '.' := Decidable.not_not.mp dotted
      cases found : index.get? typeName <;> simp [filled, dot]

theorem locate_eq_error {index : TypeIndex} {field : Field} (refers : field.Refers)
    {fault : Fault} :
    index.locate field.localName field.target = .error fault ↔ index.Unresolved field fault := by
  unfold locate
  constructor
  · intro failed
    split_ifs at failed with empty bare
    · cases failed
      exact .untyped refers empty
    · cases failed
      exact .unqualified refers empty bare
    · cases found : index.get? field.target with
      | some site => simp [found] at failed
      | none =>
        rw [found] at failed
        cases failed
        exact .undeclared refers (Decidable.not_not.mp bare) found
  · rintro (⟨_, empty⟩ | ⟨_, filled, bare⟩ | ⟨_, dotted, absent⟩)
    · rw [if_pos empty]
    · rw [if_neg filled, if_pos bare]
    · have filled : field.target ≠ "" := by
        intro empty
        simp [empty] at dotted
      rw [if_neg filled, if_neg (by simp [dotted]), absent]

theorem checkField_eq_error {index : TypeIndex} {field : Field} {fault : Fault} :
    index.checkField field = .error fault ↔ index.Unresolved field fault := by
  unfold checkField
  cases reference : field.valueType.reference? with
  | none =>
    refine ⟨nofun, fun why => absurd why.refers ?_⟩
    exact Schema.Field.reference?_eq_none.mp reference
  | some name =>
    obtain ⟨refers, rfl⟩ := Schema.Field.reference?_eq_some.mp reference
    rw [← locate_eq_error refers]
    dsimp only
    cases index.locate field.localName field.target <;> simp [Except.map]

end TypeIndex

end SchemaTypings
