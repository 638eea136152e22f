import Mathlib.Tactic.TFAE
import SchemaTypings.Proofs.MemberNames
import SchemaTypings.Proofs.Pieces

/-! The class and the shape of a message stay in step. Both go through the fields in the same
order; they call a field by the same name up to its first character, and it is the same fields
that they show as maps. That only maps are shown with no type of their own holds because no
type of a value is `any`, nor is any array or nullable type. -/
namespace SchemaTypings

open Schema (Message)

namespace TypeExpr

theorem inArray_ne_any (type : TypeExpr) : type.inArray ≠ .any := by
  cases type <;> simp [inArray, wrap]

theorem orNull_ne_any (type : TypeExpr) : type.orNull ≠ .any := by
  cases type <;> simp [orNull, wrap]

end TypeExpr

namespace Scope

variable {scope : Scope} {view : View} {field : Schema.Field}

theorem fieldType_ne_any {value : TypeExpr} (known : value ≠ .any) :
    fieldType view field value ≠ .any := by
  unfold fieldType
  split
  · exact value.inArray_ne_any
  · split
    · exact value.orNull_ne_any
    · exact known
  · exact known

theorem referenceType_ne_any (scope : Scope) (view : View) (kind : TypeKind) (site : Site) :
    (scope.referenceType view kind site).type ≠ .any := by
  cases kind <;> cases view <;> exact TypeExpr.noConfusion

theorem valueType_ne_any {value : Typed} (made : scope.valueType view field = .ok value) :
    value.type ≠ .any := by
  unfold valueType at made
  cases kind : field.valueType with
  | message typeName =>
    rw [kind] at made
    obtain ⟨site, _, made⟩ := bind_eq_ok.mp made
    cases made
    exact referenceType_ne_any scope view .message site
  | enumeration typeName =>
    rw [kind] at made
    obtain ⟨site, _, made⟩ := bind_eq_ok.mp made
    cases made
    exact referenceType_ne_any scope view .enumeration site
  | integer64 asText =>
    rw [kind] at made
    cases made
    cases asText <;> exact TypeExpr.noConfusion
  | _ =>
    rw [kind] at made
    cases made
    exact TypeExpr.noConfusion

/-- Maps and nothing else have no type of their own, in either view. -/
theorem typed_eq_any_iff {typed : Typed} (made : scope.typed view field = .ok typed) :
    typed.type = .any ↔ scope.holdsMap field = true := by
  cases map : scope.holdsMap field with
  | true =>
    rw [typed_map map] at made
    obtain ⟨_, _, made⟩ := bind_eq_ok.mp made
    cases made
    simp
  | false =>
    rw [typed_plain map] at made
    obtain ⟨value, found, made⟩ := bind_eq_ok.mp made
    cases made
    simpa using fieldType_ne_any (valueType_ne_any found)

/-- The two declarations agree on the name of the field and on whether it is a map. -/
structure Agrees (scope : Scope) (field : Schema.Field) (view : FieldView) : Prop where
  name : field.localName ≠ "" →
    view.property.name = .ofList (Name.lowerFirst view.stem.toList)
  map : List.TFAE [scope.holdsMap field = true, view.settable = false, view.type = .any,
    view.property.type = .any]

theorem Shows.agrees {view : FieldView} (shows_ : scope.Shows field view) :
    scope.Agrees field view := by
  obtain ⟨declared, shaped, first, second, rfl⟩ := shows_
  constructor
  · intro filled
    exact Name.uncapitalized_append filled _
  · have settable : scope.holdsMap field = true ↔
        (scope.fieldView field declared.type shaped.type).settable = false := by
      simp [fieldView]
    tfae_have 1 ↔ 2 := settable
    tfae_have 1 ↔ 3 := (typed_eq_any_iff first).symm
    tfae_have 1 ↔ 4 := (typed_eq_any_iff second).symm
    tfae_finish

/-- The piece has a getter for each field, a setter after it for those that are no maps, and
a property for each field, all in the order of the fields. -/
structure InStep (scope : Scope) (fields : List Schema.Field) (piece : Piece) : Prop where
  count : piece.shape.properties.length = fields.length
  views : ∃ views, List.Forall₂ scope.Agrees fields views ∧
    piece.classDecl.accessors = views.flatMap (·.accessors) ∧
    piece.shape.properties = views.map (·.property)

theorem Makes.inStep {placed : Placed Message} {piece : Piece}
    (makes : scope.Makes placed piece) : scope.InStep placed.part.fields piece := by
  obtain ⟨views, shown, accessors, properties⟩ := makes.fields
  have agree : List.Forall₂ scope.Agrees placed.part.fields views :=
    shown.imp fun field view shows_ => shows_.agrees
  refine ⟨?_, views, agree, accessors, properties⟩
  rw [properties, List.length_map, shown.length_eq]

/-- The declarations for a message that is no entry are those pieces, of itself and of all
messages in it that are declared, whose classes and shapes are in step. -/
theorem views_in_step {owners : TypePath} {message : Message} {fragment : Fragment}
    (plain : message.isEntry = false) (made : scope.fragment owners message = .ok fragment) :
    ∃ pieces, fragment.declarations = pieces.flatMap (·.declarations) ∧
      List.Forall₂ (fun placed piece =>
          piece.classDecl.name = placed.path.flat ∧
          piece.shape.name = placed.path.flat ++ shapeSuffix ∧
          scope.InStep placed.part.fields piece)
        (⟨owners, message⟩ :: Schema.walkEach Message.isDeclared
          (owners ++ [message.localName]) message.nested) pieces := by
  obtain ⟨pieces, makes, declarations⟩ := pieces_of_fragment made
  have kept : message.isDeclared = true := by simp [Message.isDeclared, plain]
  rw [Message.walk_kept owners message kept] at makes
  refine ⟨pieces, declarations, makes.imp ?_⟩
  intro placed piece makes
  exact ⟨makes.className, makes.shapeName, makes.inStep⟩

end Scope

namespace Depot

/-! A file with two messages of one name: the entry of a map inside `Stock`, and one on its own.
The shelves inside `Stock` list the latter. -/

def key : Schema.Field := { name := some "key", labelCode := some 1, typeCode := some 9 }

def unit : Schema.Enumeration := { name := some "Unit", values := [{ name := some "BOX" }] }

def counts : Schema.Field :=
  { name := some "counts", labelCode := some 3, typeCode := some 11
    typeName := some ".depot.Stock.Entry" }

def countsEntry : Schema.Message :=
  { name := some "Entry", fields := [key], enums := [unit]
    options := some { mapEntry := some true } }

def entries : Schema.Field :=
  { name := some "entries", labelCode := some 3, typeCode := some 11
    typeName := some ".depot.Entry" }

def shelf : Schema.Message := { name := some "Shelf", fields := [key, entries] }

def stock : Schema.Message :=
  { name := some "Stock", fields := [counts], nested := [countsEntry, shelf], enums := [unit] }

def entry : Schema.Message := { name := some "Entry", fields := [key] }

def file : Schema.File :=
  { name := some "depot/stock.proto", package := some "depot"
    messages := [stock, entry], enums := [unit] }

def index : TypeIndex := .ofFiles [file]

/-- `Stock` and the shelves in it have a piece each, but the entry of the map has none. -/
theorem stock_in_step :
    ∃ fragment own inner, (file.scope index).fragment [] stock = .ok fragment ∧
      fragment.declarations = own.declarations ++ inner.declarations ∧
      (own.classDecl.name = "Stock" ∧ (file.scope index).InStep [counts] own) ∧
      inner.classDecl.name = "Stock$Shelf" ∧ (file.scope index).InStep [key, entries] inner := by
  obtain ⟨fragment, made⟩ : ∃ fragment, (file.scope index).fragment [] stock = .ok fragment :=
    exists_value (by decide +kernel)
  obtain ⟨pieces, declarations, each⟩ := Scope.views_in_step (by decide) made
  rcases each with _ | ⟨own, others⟩
  rcases others with _ | ⟨inner, none⟩
  cases none
  refine ⟨fragment, _, _, made, ?_, ⟨own.1, own.2.2⟩, inner.1, inner.2.2⟩
  simpa using declarations

end Depot

end SchemaTypings
