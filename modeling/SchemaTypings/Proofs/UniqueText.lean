import SchemaTypings.Proofs.DeclarationText
import SchemaTypings.Typings

/-! The text of typings tells the typings. An import may have a line for types, which no other
line can be taken for; after the last import comes a blank line, and without imports the first
declaration. So nothing is left to choose for a reader who starts at the front. -/
namespace SchemaTypings

structure Import.WellFormed (entry : Import) : Prop where
  module : IsWord entry.module
  path : '"' ∉ entry.path.toList
  types : ∀ name ∈ entry.types.toList, IsWord name

structure Typings.WellFormed (typings : Typings) : Prop where
  imports : ∀ entry ∈ typings.imports, entry.WellFormed
  declarations : ∀ decl ∈ typings.declarations, decl.WellFormed

namespace NameSet

theorem toList_inj {first second : NameSet} (same : first.toList = second.toList) :
    first = second := by
  cases first
  cases second
  cases same
  rfl

theorem eq_of_isEmpty {first second : NameSet} (one : first.isEmpty = true)
    (other : second.isEmpty = true) : first = second :=
  toList_inj ((List.isEmpty_iff.mp one).trans (List.isEmpty_iff.mp other).symm)

end NameSet

namespace Import

def source (path : String) : List Char := (" from \"" ++ path ++ ".js\";\n").toList

theorem source_eq (path : String) :
    source path = " from \"".toList ++ ((path ++ ".js").toList ++ "\";\n".toList) := by
  have ending : ".js\";\n" = ".js" ++ "\";\n" := by decide
  rw [source, ending]
  simp only [String.toList_append, List.append_assoc]

/-- The second line, which is there if names of types are imported. -/
def typesLine (entry : Import) : List Char :=
  if entry.types.isEmpty then []
  else "import type \x7b".toList ++ (separated String.toList ", ".toList entry.types.toList
    ++ ("\x7d".toList ++ source entry.path))

def text (entry : Import) : List Char := entry.render.toList

theorem text_eq (entry : Import) :
    entry.text = "import * as ".toList ++ (entry.module.toList ++ (source entry.path
      ++ entry.typesLine)) := by
  unfold text render typesLine source
  simp only [String.toList_append, List.append_assoc]
  split
  · rfl
  · simp only [String.toList_append, String.toList_intercalate, List.append_assoc]
    rw [← intercalate_map]

theorem quoteless_js {path : String} (unquoted : '"' ∉ path.toList) :
    ∀ c ∈ (path ++ ".js").toList, c ∉ ['"'] := by
  have suffix : '"' ∉ ".js".toList := by decide
  rw [String.toList_append]
  intro c member quote
  cases List.mem_singleton.mp quote
  exact (List.mem_append.mp member).elim unquoted suffix

theorem cut_path {path other : String} (unquoted : '"' ∉ path.toList)
    (unquotedToo : '"' ∉ other.toList) {rest more : List Char}
    (same : (path ++ ".js").toList ++ ("\";\n".toList ++ rest) =
      (other ++ ".js").toList ++ ("\";\n".toList ++ more)) : path = other ∧ rest = more := by
  obtain ⟨paths, after⟩ := word_cut (quoteless_js unquoted) (quoteless_js unquotedToo)
    (stops_append _) (stops_append _) same
  rw [String.toList_append, String.toList_append] at paths
  exact ⟨String.toList_inj.mp (List.append_cancel_right paths), List.append_cancel_left after⟩

theorem legible_types {types : List String} (words : ∀ name ∈ types, IsWord name) :
    Legible (separated String.toList ", ".toList) (∀ name ∈ ·, IsWord name) (Stops ['\x7d'])
      types :=
  .separated (fun name among => legible_word (words name among)) words
    (fun _ => stops_append _) (fun _ stops => stops.mono (by decide))
    (fun _ => not_stops_append _) (fun _ word => word.not_stops (by decide))

/-- The line for the types is legible where no other line for types comes after it. -/
theorem cut_typesLine {module path : String} {types others : NameSet}
    (words : ∀ name ∈ types.toList, IsWord name) (wordsToo : ∀ name ∈ others.toList, IsWord name)
    {rest more : List Char} (next : ¬ "import type \x7b".toList <+: rest)
    (last : ¬ "import type \x7b".toList <+: more)
    (same : (Import.mk module path types).typesLine ++ rest =
      (Import.mk module path others).typesLine ++ more) : types = others ∧ rest = more := by
  cases none : types.isEmpty with
  | true =>
    rw [typesLine, if_pos none, List.nil_append] at same
    cases noneToo : others.isEmpty with
    | true =>
      rw [typesLine, if_pos noneToo, List.nil_append] at same
      exact ⟨NameSet.eq_of_isEmpty none noneToo, same⟩
    | false =>
      rw [typesLine, if_neg (by simp [noneToo]), List.append_assoc] at same
      exact absurd (same ▸ List.prefix_append _ _) next
  | false =>
    rw [typesLine, if_neg (by simp [none]), List.append_assoc] at same
    cases noneToo : others.isEmpty with
    | true =>
      rw [typesLine, if_pos noneToo, List.nil_append] at same
      exact absurd (same ▸ List.prefix_append _ _) last
    | false =>
      rw [typesLine, if_neg (by simp [noneToo])] at same
      simp only [List.append_assoc] at same
      obtain ⟨names, afterNames⟩ := legible_types words _ wordsToo _ _
        (stops_append _) (stops_append _) (List.append_cancel_left same)
      have afterSource := List.append_cancel_left (List.append_cancel_left afterNames)
      exact ⟨NameSet.toList_inj names, afterSource⟩

theorem legible {entry : Import} (sound : entry.WellFormed) :
    Legible text WellFormed (¬ "import type \x7b".toList <+: ·) entry := by
  intro other too rest more next last same
  obtain ⟨module, path, types⟩ := entry
  obtain ⟨otherModule, otherPath, otherTypes⟩ := other
  simp only [text_eq, source_eq, List.append_assoc] at same
  obtain ⟨rfl, afterModule⟩ := sound.module.cut_mark too.module (List.append_cancel_left same)
  obtain ⟨rfl, afterPath⟩ := cut_path sound.path too.path afterModule
  obtain ⟨rfl, afterTypes⟩ := cut_typesLine sound.types too.types next last afterPath
  exact ⟨rfl, afterTypes⟩

end Import

namespace Typings

def blank (typings : Typings) : List Char := if typings.imports.isEmpty then [] else ['\n']

theorem render_eq (typings : Typings) :
    typings.render.toList = header.toList ++ (typings.imports.flatMap (·.text)
      ++ (typings.blank ++ typings.declarations.flatMap (·.text))) := by
  unfold render blank Import.text Declaration.text
  simp only [String.toList_append, String.toList_join, List.flatMap_map, List.append_assoc]
  split <;> rfl

theorem legible_imports {imports : List Import} (sounds : ∀ entry ∈ imports, entry.WellFormed) :
    Legible (List.flatMap Import.text) (∀ entry ∈ ·, entry.WellFormed)
      (¬ "import ".toList <+: ·) imports := by
  have types : "import ".toList <+: "import type \x7b".toList := by decide
  refine .row (fun entry among => Import.legible (sounds entry among)) sounds ?_
    (fun _ none opens => none (types.trans opens)) ?_
  · rintro entry - rest ⟨tail, opens⟩
    rw [Import.text_eq, List.append_assoc] at opens
    exact absurd opens (append_ne_append _ _)
  · intro entry _ rest none
    have opens : "import ".toList <+: "import * as ".toList := by decide
    rw [Import.text_eq, List.append_assoc] at none
    exact none (opens.trans (List.prefix_append _ _))

theorem legible_declarations {declarations : List Declaration}
    (sounds : ∀ decl ∈ declarations, decl.WellFormed) :
    Legible (List.flatMap Declaration.text) (∀ decl ∈ ·, decl.WellFormed) (· = [])
      declarations := by
  refine .row (fun decl among => Declaration.legible (sounds decl among)) sounds
    (fun _ _ _ => trivial) (fun _ _ => trivial) ?_
  intro decl _ rest empty
  rw [Declaration.text_eq, List.append_assoc] at empty
  have filled : ∀ keyword ∈ Declaration.keywords, keyword.toList ≠ [] := by decide
  exact filled _ decl.keyword_mem (List.append_eq_nil_iff.mp empty).1

/-- No import stands after the imports. -/
theorem not_import (typings : Typings) :
    ¬ "import ".toList <+: typings.blank ++ typings.declarations.flatMap (·.text) := by
  rintro ⟨tail, opens⟩
  unfold blank at opens
  split at opens
  · cases decls : typings.declarations with
    | nil => simp [decls] at opens
    | cons decl rest =>
      have apart : ∀ keyword ∈ Declaration.keywords,
          ¬ "import ".toList <+: keyword.toList ∧ ¬ keyword.toList <+: "import ".toList := by
        decide
      obtain ⟨shorter, longer⟩ := apart _ decl.keyword_mem
      rw [decls, List.flatMap_cons, Declaration.text_eq, List.append_assoc,
        List.nil_append] at opens
      exact append_ne_append _ _ shorter longer opens
  · exact absurd opens (append_ne_append _ _)

/-- Rendering loses nothing: typings with legible names and types are told by their text. -/
theorem render_inj {first second : Typings} (one : first.WellFormed)
    (other : second.WellFormed) : first.render = second.render ↔ first = second := by
  refine ⟨fun same => ?_, congrArg render⟩
  obtain ⟨imports, declarations⟩ := first
  obtain ⟨otherImports, otherDeclarations⟩ := second
  have same := congrArg String.toList same
  rw [render_eq, render_eq] at same
  obtain ⟨rfl, afterImports⟩ := legible_imports one.imports _ other.imports _ _
    (not_import _) (not_import _) (List.append_cancel_left same)
  have afterBlank := List.append_cancel_left afterImports
  obtain ⟨rfl, _⟩ := legible_declarations one.declarations _ other.declarations [] [] rfl rfl
    (by rw [List.append_nil, List.append_nil]; exact afterBlank)
  rfl

end Typings

namespace Atlas

/-- The typings of a chart whose marks have the type. -/
def chartTypings (type : TypeExpr) : Typings :=
  { imports := [⟨"geo_pb", "./geo_pb", .ofList ["PointObj"]⟩]
    declarations := [.ofShape ⟨"ChartObj", [⟨"marksList", type⟩]⟩] }

theorem chartTypings_wellFormed {type : TypeExpr} (sound : type.WellFormed) :
    (chartTypings type).WellFormed where
  imports := List.forall_mem_singleton.mpr
    { module := isWord_of_identifier (by decide) (by simp)
      path := by decide
      types := by decide }
  declarations := List.forall_mem_singleton.mpr
    { name := (by decide : IsWord "ChartObj")
      properties := List.forall_mem_singleton.mpr ⟨(by decide : IsWord "marksList"), sound⟩ }

/-- It can be told whether only the points are in a list or the legends as well. -/
theorem chart_told :
    (chartTypings (.array (.union [.named "PointObj", .named "LegendObj"]))).render ≠
      (chartTypings (.union [.array (.named "PointObj"), .named "LegendObj"])).render := by
  have point : (TypeExpr.named "PointObj").WellFormed := .named (by decide) (by decide)
  have legend : (TypeExpr.named "LegendObj").WellFormed := .named (by decide) (by decide)
  have inside : (TypeExpr.union [.named "PointObj", .named "LegendObj"]).WellFormed :=
    .union (by decide) (by simp [TypeExpr.isUnion]) (by simp [point, legend])
  have beside : (TypeExpr.union [.array (.named "PointObj"), .named "LegendObj"]).WellFormed :=
    .union (by decide) (by simp [TypeExpr.isUnion]) (by simp [point.array, legend])
  intro same
  have equal := (Typings.render_inj (chartTypings_wellFormed inside.array)
    (chartTypings_wellFormed beside)).mp same
  simp [chartTypings] at equal

end Atlas

end SchemaTypings
