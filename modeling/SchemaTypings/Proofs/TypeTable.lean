import Mathlib.Data.List.Dedup
import SchemaTypings.Proofs.Sites

/-! The index of types as a table. A name leads to the last type that is declared by it, whatever
file that is in, and the table has a row for each name that is there. -/
namespace SchemaTypings

theorem lastSite_eq_some {α : Type} {types : List α} {declared : α → DeclaredType} {name : String}
    {site : Site} :
    lastSite (types.map declared) name = some site ↔
      ∃ earlier type later, types = earlier ++ type :: later ∧ (declared type).name = name ∧
        (∀ other ∈ later, (declared other).name ≠ name) ∧ site = (declared type).site := by
  unfold lastSite
  rw [← List.map_reverse, List.find?_map, Option.map_map, Option.map_eq_some_iff]
  constructor
  · rintro ⟨type, found, rfl⟩
    obtain ⟨named, later, earlier, split, others⟩ := List.find?_eq_some_iff_append.mp found
    have whole : types = earlier.reverse ++ type :: later.reverse := by
      simpa using congrArg List.reverse split
    refine ⟨earlier.reverse, type, later.reverse, whole, by simpa using named, ?_, rfl⟩
    intro other member
    simpa using others other (List.mem_reverse.mp member)
  · rintro ⟨earlier, type, later, rfl, named, others, rfl⟩
    have split : (earlier ++ type :: later).reverse = later.reverse ++ type :: earlier.reverse := by
      simp
    refine ⟨type, List.find?_eq_some_iff_append.mpr ⟨by simpa using named, _, _, split, ?_⟩, rfl⟩
    intro other member
    simpa using others other (List.mem_reverse.mp member)

theorem declaredTypes_eq_map (files : List Schema.File) :
    declaredTypes files =
      (files.flatMap fun file => file.typePaths.map fun path => (file, path)).map
        fun (file, path) => ⟨.ofFile file, path⟩ := by
  simp [declaredTypes, Schema.File.types, List.map_flatMap, Function.comp_def]

theorem qualified_eq (package : String) (path : TypePath) :
    path.qualified package =
      if package = "" then "." ++ String.intercalate "." path
      else "." ++ package ++ "." ++ String.intercalate "." path := by
  simp only [TypePath.qualified, packageLead, String.isEmpty_iff]
  split <;> rfl

namespace TypeIndex

theorem mem_sites_ofFiles (files : List Schema.File) (name : String) :
    name ∈ (ofFiles files).sites ↔ name ∈ declaredNames files := by
  have absent := get?_ofFiles_eq_none files name
  unfold get? at absent
  rw [Std.TreeMap.mem_iff_isSome_getElem?, ← Option.ne_none_iff_isSome, ne_eq, absent,
    Decidable.not_not]

theorem size_ofFiles (files : List Schema.File) :
    (ofFiles files).size = (declaredNames files).dedup.length := by
  -- neither list has a name twice, so it is enough that they have the same names
  have same : (ofFiles files).sites.keys.Perm (declaredNames files).dedup := by
    rw [List.perm_ext_iff_of_nodup Std.TreeMap.nodup_keys (List.nodup_dedup _)]
    intro name
    rw [Std.TreeMap.mem_keys, List.mem_dedup, mem_sites_ofFiles]
  rw [← same.length_eq, Std.TreeMap.length_keys, size]

theorem isEmpty_ofFiles (files : List Schema.File) :
    (ofFiles files).isEmpty = true ↔ declaredTypes files = [] := by
  have size := size_ofFiles files
  unfold TypeIndex.size at size
  rw [isEmpty, Std.TreeMap.isEmpty_eq_size_eq_zero, size, beq_iff_eq, List.length_eq_zero_iff,
    List.dedup_eq_nil, declaredNames, List.map_eq_nil_iff]

/-- The name of a type has a dot before the package, if there is one, and before each part of the
path. It leads to the last type that has it, and all other names lead nowhere. -/
theorem table_of_types (files : List Schema.File) :
    let index := ofFiles files
    let types := files.flatMap fun file => file.typePaths.map fun path => (file, path)
    let named (type : Schema.File × TypePath) : String :=
      let package := type.1.package.getD ""
      let dotted := String.intercalate "." type.2
      if package = "" then "." ++ dotted else "." ++ package ++ "." ++ dotted
    (∀ name site, index.get? name = some site ↔
      ∃ earlier file path later, types = earlier ++ (file, path) :: later ∧
        named (file, path) = name ∧ (∀ other ∈ later, named other ≠ name) ∧
        site = ⟨file.path, SchemaPath.identifier file.path, String.intercalate "$" path⟩) ∧
    (∀ name, index.get? name = none ↔ ∀ type ∈ types, named type ≠ name) ∧
    index.size = (types.map named).dedup.length ∧
    (index.isEmpty = true ↔ types = []) := by
  intro index types named
  have declared := declaredTypes_eq_map files
  have spelled (type : Schema.File × TypePath) :
      (⟨.ofFile type.1, type.2⟩ : DeclaredType).name = named type :=
    qualified_eq _ type.2
  have names : declaredNames files = types.map named := by
    rw [declaredNames, declared, List.map_map]
    exact List.map_congr_left fun type _ => spelled type
  refine ⟨?_, ?_, ?_, ?_⟩
  · intro name site
    rw [get?_ofFiles, declared, lastSite_eq_some]
    simp only [spelled, Prod.exists]
    rfl
  · intro name
    rw [get?_ofFiles_eq_none, names]
    simp
  · rw [← names]
    exact size_ofFiles files
  · rw [isEmpty_ofFiles, declared, List.map_eq_nil_iff]

end TypeIndex

end SchemaTypings
