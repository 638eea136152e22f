import SchemaTypings.Proofs.DeclarationText

/-! The rows of an object shape. A loop that counts its rows can tell the last one by its number:
one less than there are properties, or zero if there are none, and then no row has that number.
So a comma stands between each two properties and nowhere else. -/
namespace SchemaTypings

namespace ShapeDecl

/-- A row, with its number and that of the last one. -/
def row (last : Nat) (property : Property) (number : Nat) : String :=
  indented property.render ++ if number = last then "\n" else ",\n"

/-- The text as a loop writes it that counts the properties. -/
def renderCounting (decl : ShapeDecl) : String :=
  let last := decl.properties.length - 1
  let opening := "export type " ++ decl.name ++ " = \x7b\n"
  let rows := decl.properties.zipIdx.foldl
    (fun output (property, number) => output ++ row last property number) opening
  rows ++ "\x7d\n\n"

/-- The text as its properties with a separator between each two. -/
def renderJoined (decl : ShapeDecl) : String :=
  "export type " ++ decl.name ++ " = \x7b\n"
    ++ String.intercalate ",\n" (decl.properties.map fun property =>
      "  " ++ property.name ++ ": " ++ property.type.render)
    ++ (if decl.properties = [] then "" else "\n") ++ "\x7d\n\n"

/-- With so many rows written before, the loop goes on with the lines of the properties. -/
theorem foldl_rows (properties : List Property) (before : Nat) (output : String) :
    (properties.zipIdx before).foldl
        (fun output (property, number) =>
          output ++ row (before + properties.length - 1) property number) output =
      output ++ .join (propertyLines properties) := by
  induction properties using propertyLines.induct generalizing before output with
  | case1 => simp [propertyLines]
  | case2 last => simp [propertyLines, row]
  | case3 first rest more ih =>
    have filled : 0 < rest.length := List.length_pos_iff.mpr more
    have total : before + (first :: rest).length - 1 = before + 1 + rest.length - 1 := by
      rw [List.length_cons]
      omega
    have other : before ≠ before + 1 + rest.length - 1 := by omega
    rw [List.zipIdx_cons, List.foldl_cons, total, ih, propertyLines, String.join_cons]
    · simp only [row, if_neg other, String.append_assoc]
    · exact more

theorem renderCounting_eq (decl : ShapeDecl) : decl.renderCounting = decl.render := by
  have rows := foldl_rows decl.properties 0 ("export type " ++ decl.name ++ " = \x7b\n")
  rw [Nat.zero_add] at rows
  unfold renderCounting render
  dsimp only
  rw [rows]

theorem render_eq_joined (decl : ShapeDecl) : decl.render = decl.renderJoined := by
  have each : (decl.properties.map fun property =>
      "  " ++ property.name ++ ": " ++ property.type.render).map String.toList =
        decl.properties.map Property.text := by
    rw [List.map_map]
    apply List.map_congr_left
    intro property _
    simp [Property.text, indented, Property.render, String.append_assoc]
  have last : (if decl.properties = [] then "" else "\n").toList = lastBreak decl.properties := by
    cases decl.properties with
    | nil => rfl
    | cons => simp [lastBreak]
  apply String.toList_inj.mp
  unfold render renderJoined
  simp only [String.toList_append, join_propertyLines, String.toList_intercalate, each, last,
    intercalate_map, List.append_assoc]

theorem commas_rows (properties : List Property) :
    occurrences ',' (.join (properties.map fun property =>
        "  " ++ property.name ++ ": " ++ property.type.render)) =
      occurrences ',' (.join (properties.map fun property =>
        property.name ++ property.type.render)) := by
  have indent : occurrences ',' "  " = 0 := rfl
  have colon : occurrences ',' ": " = 0 := rfl
  induction properties with
  | nil => rfl
  | cons property rest ih =>
    simp only [List.map_cons, String.join_cons, occurrences_append, ih, indent, colon,
      Nat.zero_add, Nat.add_zero]

theorem commas_render (decl : ShapeDecl) :
    occurrences ',' decl.render =
      occurrences ',' decl.name
        + occurrences ',' (.join (decl.properties.map fun property =>
            property.name ++ property.type.render))
        + (decl.properties.length - 1) := by
  have last : occurrences ',' (if decl.properties = [] then "" else "\n") = 0 := by
    split <;> rfl
  have opening : occurrences ',' "export type " = 0 := rfl
  have brace : occurrences ',' " = \x7b\n" = 0 := rfl
  have separator : occurrences ',' ",\n" = 1 := rfl
  have closing : occurrences ',' "\x7d\n\n" = 0 := rfl
  rw [render_eq_joined]
  unfold renderJoined
  simp only [occurrences_append, occurrences_intercalate, commas_rows, last, opening, brace,
    separator, closing, List.length_map, Nat.zero_add, Nat.add_zero, Nat.mul_one, Nat.add_assoc]

/-- Counting the rows comes to the same as putting a separator between each two of them. Besides
those in names and types there is a comma less than properties, and none without properties. -/
theorem rows_separated (decl : ShapeDecl) :
    decl.renderCounting = decl.renderJoined ∧ decl.render = decl.renderJoined ∧
    occurrences ',' decl.render =
      occurrences ',' decl.name
        + occurrences ',' (.join (decl.properties.map fun property =>
            property.name ++ property.type.render))
        + (decl.properties.length - 1) :=
  ⟨(renderCounting_eq decl).trans (render_eq_joined decl), render_eq_joined decl,
    commas_render decl⟩

/-- The number of the last row of none is that of the first row, but there is no first row. -/
example : (⟨"Empty", []⟩ : ShapeDecl).renderCounting = "export type Empty = \x7b\n\x7d\n\n" := by
  decide

end ShapeDecl

end SchemaTypings
