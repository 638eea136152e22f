import SchemaTypings.Proofs.ByteOrder
import SchemaTypings.Proofs.FieldNeeds
import SchemaTypings.Proofs.Linking

/-! What a file imports. Its needs are those of the fields of its declared messages, from
whatever depth they come up to the file. The dependencies take their share one after the
other: of each module the first dependency with that identifier gets everything, and those
after it nothing. -/
namespace SchemaTypings

open Schema (Message)

section Needs

variable {scope : Scope}

theorem Scope.mem_own_needs {placed : Placed Message} {part : Fragment}
    (made : scope.own placed = .ok part) (need : Need) :
    need ∈ part.needs.toList ↔ ∃ field ∈ placed.part.fields, scope.FieldNeeds field need := by
  obtain ⟨members, maps, each, _, rfl⟩ := Scope.own_eq_ok made
  change need ∈ members.flatMap (·.needs.toList) ↔ _
  rw [List.mem_flatMap]
  exact exists_mem_iff each fun field result made => Scope.mem_members_needs made need

theorem mem_join_needs {walk : List (Placed Message)} {parts : List Fragment}
    (each : List.Forall₂ (fun placed part => scope.own placed = .ok part) walk parts)
    (need : Need) :
    need ∈ (Fragment.join parts).needs.toList ↔
      ∃ placed ∈ walk, ∃ field ∈ placed.part.fields, scope.FieldNeeds field need := by
  change need ∈ parts.flatMap (·.needs.toList) ↔ _
  rw [List.mem_flatMap]
  exact exists_mem_iff each fun placed part made => Scope.mem_own_needs made need

/-- Some field of some message that the file declares needs this of another module. -/
def Schema.File.Needs (file : Schema.File) (index : TypeIndex) (need : Need) : Prop :=
  ∃ placed ∈ file.declaredMessages, ∃ field ∈ placed.part.fields,
    (file.scope index).FieldNeeds field need

end Needs

/-- What is left of the needs when the earlier dependencies have their share. -/
def Needs.after (earlier : List String) (needs : Needs) : Needs :=
  earlier.foldl (fun left dependency => left.without (SchemaPath.identifier dependency)) needs

theorem Needs.mem_after (earlier : List String) (need : Need) (needs : Needs) :
    need ∈ (needs.after earlier).toList ↔
      need.module ∉ earlier.map SchemaPath.identifier ∧ need ∈ needs.toList := by
  induction earlier generalizing needs with
  | nil => simp [Needs.after]
  | cons first rest ih =>
    change need ∈ ((needs.without (SchemaPath.identifier first)).after rest).toList ↔ _
    rw [ih, Needs.mem_without, List.map_cons, List.mem_cons, not_or]
    exact ⟨fun ⟨absent, known, other⟩ => ⟨⟨other, absent⟩, known⟩,
      fun ⟨⟨other, absent⟩, known⟩ => ⟨absent, known, other⟩⟩

theorem getElem?_importsOf (path : String) (dependencies : List String) (needs : Needs)
    (i : Nat) :
    (importsOf path dependencies needs)[i]? = dependencies[i]?.map fun dependency =>
      ⟨SchemaPath.identifier dependency, SchemaPath.route path dependency,
        (needs.after (dependencies.take i)).namesOf (SchemaPath.identifier dependency)⟩ := by
  induction dependencies generalizing needs i with
  | nil => rfl
  | cons first rest ih =>
    cases i with
    | zero => rfl
    | succ i => exact ih (needs.without (SchemaPath.identifier first)) i

theorem length_importsOf (path : String) (dependencies : List String) (needs : Needs) :
    (importsOf path dependencies needs).length = dependencies.length := by
  induction dependencies generalizing needs with
  | nil => rfl
  | cons first rest ih => exact congrArg (· + 1) (ih _)

theorem Typings.imports_eq {index : TypeIndex} {file : Schema.File} {typings : Typings}
    (made : Typings.ofFile index file = .ok typings) :
    ∃ needs, typings.imports = importsOf file.path file.dependencies needs ∧
      ∀ need, need ∈ needs.toList ↔ file.Needs index need := by
  obtain ⟨parts, maps, each, _, rfl⟩ := Typings.ofFile_eq_ok made
  exact ⟨(Fragment.join parts).needs, rfl, mem_join_needs each⟩

theorem NameSet.bytes_ascending (names : NameSet) :
    names.toList.Pairwise fun first second =>
      first.toUTF8.data.toList < second.toUTF8.data.toList :=
  names.ascending.imp (Text.bytes_lt_iff _ _).mpr

/-- The names of types are on a line of their own, which is there if they are. -/
theorem Import.render_eq (entry : Import) :
    entry.render =
      "import * as " ++ entry.module ++ " from \"" ++ entry.path ++ ".js\";\n" ++
        if entry.types.toList = [] then "" else
          "import type \x7b" ++ String.intercalate ", " entry.types.toList ++ "\x7d from \"" ++
            entry.path ++ ".js\";\n" := by
  have source : "\x7d from \"" = "\x7d" ++ " from \"" := by decide
  unfold Import.render NameSet.isEmpty
  rw [source]
  simp only [List.isEmpty_iff, String.append_assoc]

/-- The imports of a file are those of its dependencies, with exactly the names that it needs
of each module, written in the order of their bytes. -/
theorem imports_of_dependencies {index : TypeIndex} {file : Schema.File} {typings : Typings}
    (made : Typings.ofFile index file = .ok typings) :
    typings.imports.length = file.dependencies.length ∧
    ∀ i dependency, file.dependencies[i]? = some dependency →
      ∃ entry, typings.imports[i]? = some entry ∧
        entry.module = SchemaPath.identifier dependency ∧
        entry.path = SchemaPath.route file.path dependency ∧
        (∀ name, name ∈ entry.types.toList ↔
          SchemaPath.identifier dependency ∉ (file.dependencies.take i).map SchemaPath.identifier ∧
          file.Needs index ⟨SchemaPath.identifier dependency, name⟩) ∧
        (entry.types.toList.Pairwise fun first second =>
          first.toUTF8.data.toList < second.toUTF8.data.toList) ∧
        entry.render =
          "import * as " ++ entry.module ++ " from \"" ++ entry.path ++ ".js\";\n" ++
            if entry.types.toList = [] then "" else
              "import type \x7b" ++ String.intercalate ", " entry.types.toList ++
                "\x7d from \"" ++ entry.path ++ ".js\";\n" := by
  obtain ⟨needs, shares, needed⟩ := Typings.imports_eq made
  constructor
  · rw [shares]
    exact length_importsOf _ _ _
  · intro i dependency depends
    have at_ := getElem?_importsOf file.path file.dependencies needs i
    rw [depends, Option.map_some, ← shares] at at_
    refine ⟨_, at_, rfl, rfl, ?_, NameSet.bytes_ascending _, Import.render_eq _⟩
    intro name
    change name ∈ (needs.after _).namesOf _ ↔ _
    rw [Needs.mem_namesOf, Needs.mem_after, needed]

namespace Shop

/-- Orders refer to prices in a list, so the shape of prices is among their needs. -/
theorem imports_of_order :
    ∃ typings entry, Typings.ofFile index orderFile = .ok typings ∧
      typings.imports.length = 1 ∧ typings.imports[0]? = some entry ∧
      entry.module = "shop_item_pb" ∧ entry.path = "../shop/item_pb" ∧
      "Item$PriceObj" ∈ entry.types.toList := by
  obtain ⟨typings, made⟩ : ∃ typings, Typings.ofFile index orderFile = .ok typings :=
    exists_value (by decide +kernel)
  obtain ⟨count, each⟩ := imports_of_dependencies made
  obtain ⟨entry, at_, module, path, names, _, _⟩ := each 0 "shop/item.proto" rfl
  have plain : (orderFile.scope index).holdsMap prices = false := by decide +kernel
  have found : index.get? ".shop.Item.Price" =
      some ⟨"shop/item.proto", "shop_item_pb", "Item$Price"⟩ := by decide +kernel
  have foreign : "shop/item.proto" ≠ (orderFile.scope index).file := by decide
  have needed : orderFile.Needs index ⟨"shop_item_pb", "Item$PriceObj"⟩ :=
    ⟨order, List.mem_cons_self, prices, List.mem_cons_self,
      .foreign .message _ _ plain rfl found foreign⟩
  have identifier : SchemaPath.identifier "shop/item.proto" = "shop_item_pb" := by decide +kernel
  have route : SchemaPath.route orderFile.path "shop/item.proto" = "../shop/item_pb" := by
    decide +kernel
  rw [identifier] at module
  rw [route] at path
  rw [identifier] at names
  exact ⟨typings, entry, made, count, at_, module, path, (names _).mpr ⟨by simp, needed⟩⟩

end Shop

end SchemaTypings
