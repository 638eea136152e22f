import SchemaTypings.Proofs.Emission
import SchemaTypings.Proofs.Sites

/-! References to types lead to their declarations. The index names a type by the path that
it found while it went over all files, the typings by the path of the emission; the leaf
that a field shows in the typings of one file is a name that the typings of the other file
declare. -/
namespace SchemaTypings

open Schema (Message Enumeration)

variable {files : List Schema.File} {a b : Schema.File} {here there : Typings}

/-- Wherever a declared field refers to a declared type, the leaves of its types are names
of the declarations made for that type. -/
theorem leaves_of_reference (paths : (files.map (·.path)).Nodup)
    (names : (declaredNames files).Nodup) (suppliedA : a ∈ files) (suppliedB : b ∈ files)
    (madeHere : Typings.ofFile (.ofFiles files) a = .ok here)
    (madeThere : Typings.ofFile (.ofFiles files) b = .ok there) {holder : Placed Message}
    (declared : holder ∈ a.declaredMessages) {field : Schema.Field}
    (inside : field ∈ holder.part.fields)
    (plain : (a.scope (.ofFiles files)).holdsMap field = false) :
    ∃ accessor property,
      here.HasField (a.scope (.ofFiles files)) holder field accessor property ∧
      (∀ target ∈ b.declaredMessages, field.valueType = .message (b.qualified target.path) →
        ∃ classDecl shape, there.HasMessage (b.scope (.ofFiles files)) target classDecl shape ∧
          (a = b → accessor.leaves = [classDecl.name]) ∧
          (a ≠ b → accessor.leaves = [SchemaPath.identifier b.path ++ "." ++ classDecl.name]) ∧
          property.leaves = [shape.name]) ∧
      ∀ target ∈ b.declaredEnums, field.valueType = .enumeration (b.qualified target.enumPath) →
        ∃ map, there.HasEnum target map ∧ accessor.leaves = [map.name ++ unionSuffix] ∧
          property.leaves = [map.name ++ unionSuffix] := by
  obtain ⟨first, second, typedFirst, typedSecond, has⟩ :=
    Typings.exists_hasField madeHere declared inside
  refine ⟨first.type, second.type, has, ?_, ?_⟩
  · intro target member kind
    have refers : field.valueType = TypeKind.message.reference (b.qualified target.path) := kind
    have found := TypeIndex.get?_ofFiles_qualified names suppliedB
      (Schema.File.path_mem_typePaths member)
    obtain ⟨classDecl, shape, emitted⟩ := Typings.exists_hasMessage madeThere member
    obtain ⟨className, shapeName⟩ := emitted.names
    have leavesFirst := Scope.leaves_reference plain refers found typedFirst
    have leavesSecond := Scope.leaves_reference plain refers found typedSecond
    refine ⟨classDecl, shape, emitted, ?_, ?_, ?_⟩
    · intro same
      subst same
      rw [leavesFirst, className]
      exact congrArg (fun name => [name]) (if_pos rfl)
    · intro differ
      have foreign := path_ne_of_ne paths suppliedA suppliedB differ
      rw [leavesFirst, className]
      exact congrArg (fun name => [name]) (if_neg foreign)
    · rw [leavesSecond, shapeName]
      rfl
  · intro target member kind
    have refers : field.valueType = TypeKind.enumeration.reference (b.qualified target.enumPath) :=
      kind
    have found := TypeIndex.get?_ofFiles_qualified names suppliedB
      (Schema.File.enumPath_mem_typePaths member)
    obtain ⟨map, emitted⟩ := Typings.exists_hasEnum madeThere member
    have name := Typings.valueMap_name emitted.1
    refine ⟨map, emitted, ?_, ?_⟩
    · rw [Scope.leaves_reference plain refers found typedFirst, name]
      rfl
    · rw [Scope.leaves_reference plain refers found typedSecond, name]
      rfl

namespace Shop

/-! Two files, one with a message in a message, the other with a list of the inner one. -/

def price : Placed Message := ⟨["Item"], { name := some "Price" }⟩

def itemFile : Schema.File :=
  { name := some "shop/item.proto", package := some "shop"
    messages := [{ name := some "Item", nested := [price.part] }] }

def prices : Schema.Field :=
  { name := some "prices", labelCode := some 3, typeCode := some 11
    typeName := some ".shop.Item.Price" }

def order : Placed Message := ⟨[], { name := some "Order", fields := [prices] }⟩

def orderFile : Schema.File :=
  { name := some "shop/order.proto", package := some "shop"
    dependencies := ["shop/item.proto"], messages := [order.part] }

def index : TypeIndex := .ofFiles [itemFile, orderFile]

theorem leaves_of_prices :
    ∃ here there accessor property classDecl shape,
      Typings.ofFile index orderFile = .ok here ∧ Typings.ofFile index itemFile = .ok there ∧
      here.HasField (orderFile.scope index) order prices accessor property ∧
      there.HasMessage (itemFile.scope index) price classDecl shape ∧
      accessor.leaves = ["shop_item_pb." ++ classDecl.name] ∧ property.leaves = [shape.name] := by
  obtain ⟨here, madeHere⟩ : ∃ typings, Typings.ofFile index orderFile = .ok typings :=
    exists_value (by decide +kernel)
  obtain ⟨there, madeThere⟩ : ∃ typings, Typings.ofFile index itemFile = .ok typings :=
    exists_value (by decide +kernel)
  have declared : order ∈ orderFile.declaredMessages := List.mem_cons_self
  have inside : prices ∈ order.part.fields := List.mem_cons_self
  obtain ⟨accessor, property, has, messages, _⟩ :=
    leaves_of_reference (by decide +kernel) (by decide +kernel) (by simp) (by simp) madeHere
      madeThere declared inside (by decide +kernel)
  have target : price ∈ itemFile.declaredMessages := List.mem_cons_of_mem _ List.mem_cons_self
  obtain ⟨classDecl, shape, emitted, _, foreign, shaped⟩ := messages price target rfl
  have differ : orderFile ≠ itemFile := by
    intro same
    have paths := congrArg Schema.File.path same
    exact absurd paths (by decide)
  exact ⟨here, there, accessor, property, classDecl, shape, madeHere, madeThere, has, emitted,
    foreign differ, shaped⟩

end Shop

end SchemaTypings
