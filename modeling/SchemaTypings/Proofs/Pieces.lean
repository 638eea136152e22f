import SchemaTypings.Proofs.Emission

/-! The declarations of a file fall into pieces, one for each message that is declared, in the
order of the walk. A piece is a class, the value maps of the message's own enumerations and a
shape; class and shape are put together from one view of each field. -/
namespace SchemaTypings

open Schema (Message Enumeration)

/-- How a field shows in the class and in the shape of its message. -/
structure FieldView where
  stem : String
  type : TypeExpr
  settable : Bool
  property : Property

def FieldView.accessors (view : FieldView) : List Accessor :=
  .getter view.stem view.type :: if view.settable then [.setter view.stem view.type] else []

structure Piece where
  classDecl : ClassDecl
  maps : List ValueMap
  shape : ShapeDecl

def Piece.declarations (piece : Piece) : List Declaration :=
  .ofClass piece.classDecl :: piece.maps.map .ofValues ++ [.ofShape piece.shape]

namespace Scope

variable {scope : Scope}

def fieldView (scope : Scope) (field : Schema.Field) (declared shaped : TypeExpr) : FieldView :=
  ⟨Name.capitalized field.localName ++ scope.suffix field, declared, !scope.holdsMap field,
    scope.property field shaped⟩

theorem accessors_fieldView (scope : Scope) (field : Schema.Field) (declared shaped : TypeExpr) :
    (scope.fieldView field declared shaped).accessors = scope.accessors field declared := by
  unfold fieldView FieldView.accessors accessors
  cases scope.holdsMap field <;> rfl

/-- The field has a type in both declarations, and this is the view with the two. -/
def Shows (scope : Scope) (field : Schema.Field) (view : FieldView) : Prop :=
  ∃ declared shaped, scope.typed .accessor field = .ok declared ∧
    scope.typed .shape field = .ok shaped ∧
    view = scope.fieldView field declared.type shaped.type

def ShowsFields (scope : Scope) (fields : List Schema.Field) (piece : Piece)
    (views : List FieldView) : Prop :=
  List.Forall₂ scope.Shows fields views ∧
    piece.classDecl.accessors = views.flatMap (·.accessors) ∧
    piece.shape.properties = views.map (·.property)

structure Makes (scope : Scope) (placed : Placed Message) (piece : Piece) : Prop where
  className : piece.classDecl.name = placed.path.flat
  statics : piece.classDecl.statics = placed.part.statics placed.path
  shapeName : piece.shape.name = placed.path.flat ++ shapeSuffix
  maps : List.Forall₂ (fun enumeration map => enumeration.valueMap placed.path = .ok map)
    placed.part.enums piece.maps
  fields : ∃ views, scope.ShowsFields placed.part.fields piece views

theorem exists_views {fields : List Schema.Field} {members : List FieldMembers}
    (each : List.Forall₂ (fun field result => scope.members field = .ok result) fields members) :
    ∃ views, List.Forall₂ scope.Shows fields views ∧
      members.flatMap (·.accessors) = views.flatMap (·.accessors) ∧
      members.map (·.property) = views.map (·.property) := by
  induction each with
  | nil => exact ⟨[], .nil, rfl, rfl⟩
  | @cons field result fields members made _ ih =>
    obtain ⟨declared, shaped, first, second, rfl⟩ := members_eq_ok made
    obtain ⟨views, shown, accessors, properties⟩ := ih
    refine ⟨scope.fieldView field declared.type shaped.type :: views,
      .cons ⟨declared, shaped, first, second, rfl⟩ shown, ?_, ?_⟩
    · rw [List.flatMap_cons, List.flatMap_cons, accessors, accessors_fieldView]
    · rw [List.map_cons, List.map_cons, properties]
      rfl

theorem exists_piece {placed : Placed Message} {own : Fragment}
    (made : scope.own placed = .ok own) :
    ∃ piece, scope.Makes placed piece ∧ own.declarations = piece.declarations := by
  obtain ⟨members, maps, each, all, rfl⟩ := own_eq_ok made
  obtain ⟨views, shown, accessors, properties⟩ := exists_views each
  exact ⟨⟨⟨_, _, _⟩, maps, ⟨_, _⟩⟩,
    { className := rfl, statics := rfl, shapeName := rfl, maps := all
      fields := ⟨views, shown, accessors, properties⟩ }, rfl⟩

theorem exists_pieces {walk : List (Placed Message)} {parts : List Fragment}
    (each : List.Forall₂ (fun placed part => scope.own placed = .ok part) walk parts) :
    ∃ pieces, List.Forall₂ scope.Makes walk pieces ∧
      (Fragment.join parts).declarations = pieces.flatMap (·.declarations) := by
  induction each with
  | nil => exact ⟨[], .nil, rfl⟩
  | @cons placed part walk parts made _ ih =>
    obtain ⟨piece, makes, own⟩ := exists_piece made
    obtain ⟨pieces, all, others⟩ := ih
    refine ⟨piece :: pieces, .cons makes all, ?_⟩
    change part.declarations ++ (Fragment.join parts).declarations = _
    rw [own, others, List.flatMap_cons]

theorem pieces_of_fragment {owners : TypePath} {message : Message} {fragment : Fragment}
    (made : scope.fragment owners message = .ok fragment) :
    ∃ pieces, List.Forall₂ scope.Makes (message.walk Message.isDeclared owners) pieces ∧
      fragment.declarations = pieces.flatMap (·.declarations) := by
  rw [fragment_eq] at made
  obtain ⟨parts, each, joined⟩ := bind_eq_ok.mp made
  cases joined
  exact exists_pieces (mapM_eq_ok.mp each)

end Scope

theorem Typings.pieces_of_file {index : TypeIndex} {file : Schema.File} {typings : Typings}
    (made : Typings.ofFile index file = .ok typings) :
    ∃ pieces maps, List.Forall₂ (file.scope index).Makes file.declaredMessages pieces ∧
      List.Forall₂ (fun enumeration map => enumeration.valueMap [] = .ok map) file.enums maps ∧
      typings.declarations = pieces.flatMap (·.declarations) ++ maps.map .ofValues := by
  obtain ⟨parts, maps, each, all, rfl⟩ := ofFile_eq_ok made
  obtain ⟨pieces, makes, declarations⟩ := Scope.exists_pieces each
  exact ⟨pieces, maps, makes, all, congrArg (· ++ maps.map .ofValues) declarations⟩

end SchemaTypings
