import SchemaTypings.Proofs.MemberText

/-! The text of a declaration tells the declaration. Its first words say of what sort it is, and
each row of members ends before something that is no member of it. What a class or a value map
says again after its members follows from its name and the members, so it is read over. -/
namespace SchemaTypings

structure ClassDecl.WellFormed (decl : ClassDecl) : Prop where
  name : IsWord decl.name
  accessors : ∀ accessor ∈ decl.accessors, accessor.WellFormed
  statics : ∀ member ∈ decl.statics, member.WellFormed

structure ShapeDecl.WellFormed (decl : ShapeDecl) : Prop where
  name : IsWord decl.name
  properties : ∀ property ∈ decl.properties, property.WellFormed

structure ValueMap.WellFormed (map : ValueMap) : Prop where
  name : IsWord map.name
  entries : ∀ entry ∈ map.entries, entry.WellFormed

def Declaration.WellFormed : Declaration → Prop
  | ofClass decl => decl.WellFormed
  | ofShape decl => decl.WellFormed
  | ofValues map => map.WellFormed

section Rows

/-- A class goes on after its accessors with the first of the members that every class has. -/
theorem ClassDecl.legible_accessors {accessors : List Accessor}
    (sounds : ∀ accessor ∈ accessors, accessor.WellFormed) :
    Legible (List.flatMap Accessor.text) (∀ accessor ∈ ·, accessor.WellFormed)
      ("  t".toList <+: ·) accessors := by
  refine .row (fun accessor among => Accessor.legible (sounds accessor among)) sounds
    (fun _ _ _ => trivial) (fun _ _ => trivial) ?_
  rintro accessor - rest ⟨tail, opens⟩
  cases accessor with
  | getter stem type =>
    rw [Accessor.text_getter, List.append_assoc] at opens
    exact absurd opens (append_ne_append _ _)
  | setter stem type =>
    rw [Accessor.text_setter, List.append_assoc] at opens
    exact absurd opens (append_ne_append _ _)

theorem ClassDecl.legible_statics {statics : List StaticMember}
    (sounds : ∀ member ∈ statics, member.WellFormed) :
    Legible (List.flatMap StaticMember.text) (∀ member ∈ ·, member.WellFormed)
      (Stops ['\x7d']) statics := by
  refine .row (fun member among => StaticMember.legible (sounds member among)) sounds
    (fun _ _ _ => trivial) (fun _ _ => trivial) ?_
  intro member _ rest
  rw [StaticMember.text, line_eq, List.append_assoc]
  exact not_stops_append _

theorem ShapeDecl.legible_properties {properties : List Property}
    (sounds : ∀ property ∈ properties, property.WellFormed) :
    Legible (separated Property.text ",\n".toList) (∀ property ∈ ·, property.WellFormed)
      (Stops ['\n', '\x7d']) properties := by
  refine .separated (fun property among => Property.legible (sounds property among)) sounds
    (fun rest => stops_append _) (fun rest stops => stops.mono (by decide))
    (fun rest => not_stops_append _) ?_
  intro property _ rest
  rw [Property.text_eq, List.append_assoc]
  exact not_stops_append _

theorem ValueMap.legible_entries {entries : List NamedNumber}
    (sounds : ∀ entry ∈ entries, entry.WellFormed) :
    Legible (separated NamedNumber.text ",\n".toList) (∀ entry ∈ ·, entry.WellFormed)
      (Stops ['\n']) entries := by
  refine .separated (fun entry among => NamedNumber.legible (sounds entry among)) sounds
    (fun rest => stops_append _) (fun rest stops => stops.mono (by decide))
    (fun rest => not_stops_append _) ?_
  intro entry _ rest
  rw [NamedNumber.text_eq, List.append_assoc]
  exact not_stops_append _

end Rows

section Bodies

namespace ClassDecl

def conversions (name : String) : List Char := (conversionMembers name).flatMap line

/-- The text of a class after its first words. -/
def body (decl : ClassDecl) : List Char :=
  decl.name.toList ++ (" \x7b\n".toList ++ (decl.accessors.flatMap (·.text)
    ++ (conversions decl.name ++ (decl.statics.flatMap (·.text) ++ "\x7d\n\n".toList))))

theorem join_lines (members : List String) :
    (String.join (members.map fun member => indented member ++ "\n")).toList =
      members.flatMap line := by
  rw [String.toList_join, List.flatMap_map]
  rfl

theorem render_eq (decl : ClassDecl) :
    decl.render.toList = "declare export class ".toList ++ decl.body := by
  unfold render body conversions Accessor.text StaticMember.text
  simp only [String.toList_append, join_lines, List.flatMap_append, List.flatMap_map,
    List.append_assoc]

theorem conversions_opens (name : String) (rest : List Char) :
    "  t".toList <+: conversions name ++ rest := by
  have opens : "  t".toList <+:
      "  ".toList ++ "toObject(opt_includeInstance: ?boolean): ".toList := by decide
  unfold conversions conversionMembers
  simp only [List.flatMap_cons, line_eq, String.toList_append, List.append_assoc]
  rw [← List.append_assoc]
  exact opens.trans (List.prefix_append _ _)

theorem legible {decl : ClassDecl} (sound : decl.WellFormed) :
    Legible body WellFormed Anything decl := by
  intro other too rest more _ _ same
  obtain ⟨name, accessors, statics⟩ := decl
  obtain ⟨otherName, otherAccessors, otherStatics⟩ := other
  unfold body at same
  simp only [List.append_assoc] at same
  obtain ⟨rfl, afterName⟩ := sound.name.cut_mark too.name same
  obtain ⟨rfl, afterAccessors⟩ := legible_accessors sound.accessors _ too.accessors _ _
    (conversions_opens _ _) (conversions_opens _ _) afterName
  obtain ⟨rfl, afterStatics⟩ := legible_statics sound.statics _ too.statics _ _
    (stops_append _) (stops_append _)
    (List.append_cancel_left afterAccessors)
  exact ⟨rfl, List.append_cancel_left afterStatics⟩

end ClassDecl

namespace ShapeDecl

/-- The last property has a line break after it and no comma. -/
def lastBreak (properties : List Property) : List Char :=
  if properties.isEmpty then [] else ['\n']

theorem join_propertyLines (properties : List Property) :
    (String.join (propertyLines properties)).toList =
      separated Property.text ",\n".toList properties ++ lastBreak properties := by
  induction properties using propertyLines.induct with
  | case1 => rfl
  | case2 last =>
    simp [propertyLines, separated, headed, lastBreak, Property.text]
  | case3 first rest more ih =>
    obtain ⟨second, others, rfl⟩ := List.exists_cons_of_ne_nil more
    rw [propertyLines, String.toList_join, List.flatMap_cons, ← String.toList_join, ih]
    · simp [separated, headed, lastBreak, Property.text]
    · exact more

def body (decl : ShapeDecl) : List Char :=
  decl.name.toList ++ (" = \x7b\n".toList ++ (separated Property.text ",\n".toList decl.properties
    ++ (lastBreak decl.properties ++ "\x7d\n\n".toList)))

theorem render_eq (decl : ShapeDecl) :
    decl.render.toList = "export type ".toList ++ decl.body := by
  unfold render body
  simp only [String.toList_append, join_propertyLines, List.append_assoc]

theorem stops_lastBreak (properties : List Property) (rest : List Char) :
    Stops ['\n', '\x7d'] (lastBreak properties ++ ("\x7d\n\n".toList ++ rest)) := by
  cases properties with
  | nil =>
    change Stops _ ("\x7d\n\n".toList ++ rest)
    exact stops_append _
  | cons =>
    change Stops _ (['\n'] ++ _)
    exact stops_append _

theorem legible {decl : ShapeDecl} (sound : decl.WellFormed) :
    Legible body WellFormed Anything decl := by
  intro other too rest more _ _ same
  obtain ⟨name, properties⟩ := decl
  obtain ⟨otherName, otherProperties⟩ := other
  unfold body at same
  simp only [List.append_assoc] at same
  obtain ⟨rfl, afterName⟩ := sound.name.cut_mark too.name same
  obtain ⟨rfl, afterProperties⟩ := legible_properties sound.properties _ too.properties _ _
    (stops_lastBreak _ _) (stops_lastBreak _ _) afterName
  exact ⟨rfl, List.append_cancel_left (List.append_cancel_left afterProperties)⟩

end ShapeDecl

namespace Visibility

def keyword : Visibility → String
  | exported => "declare export var "
  | owned => "type "

theorem keyword_inj {first second : Visibility} (same : first.keyword = second.keyword) :
    first = second := by
  cases first <;> cases second <;> simp_all [keyword]

theorem keyword_ne (visibility : Visibility) :
    visibility.keyword ≠ "declare export class " ∧ visibility.keyword ≠ "export type " := by
  cases visibility <;> decide

end Visibility

namespace ValueMap

/-- What stands between the name of a map and its entries. -/
def between : Visibility → String
  | .exported => ": \x7b\n"
  | .owned => " = \x7b\n"

/-- The text after the entries, which says nothing that was not said before. -/
def closing (map : ValueMap) : List Char :=
  ("\n\x7d\n\nexport type " ++ map.name ++ unionSuffix ++ " = "
    ++ String.intercalate " | " (map.entries.map (·.literal)) ++ ";\n\n").toList

def body (map : ValueMap) : List Char :=
  map.name.toList ++ ((between map.visibility).toList
    ++ (separated NamedNumber.text ",\n".toList map.entries ++ map.closing))

theorem render_eq (map : ValueMap) :
    map.render.toList = map.visibility.keyword.toList ++ map.body := by
  have entries : (String.intercalate ",\n" (map.entries.map fun entry =>
      indented (entry.name ++ ": " ++ entry.literal))).toList =
        separated NamedNumber.text ",\n".toList map.entries := by
    rw [String.toList_intercalate, List.map_map, ← intercalate_map]
    rfl
  obtain ⟨name, visibility, _⟩ := map
  cases visibility <;>
    simp only [render, opening, Visibility.keyword, body, between, closing,
      String.toList_append, entries, List.append_assoc]

theorem stops_closing (map : ValueMap) (rest : List Char) :
    Stops ['\n'] (map.closing ++ rest) := by
  simp only [closing, String.toList_append, List.append_assoc]
  exact stops_append _

theorem cut_body {map other : ValueMap} (sound : map.WellFormed) (too : other.WellFormed)
    (visibility : map.visibility = other.visibility) {rest more : List Char}
    (same : map.body ++ rest = other.body ++ more) : map = other ∧ rest = more := by
  obtain ⟨name, visible, entries⟩ := map
  obtain ⟨otherName, otherVisibility, otherEntries⟩ := other
  obtain rfl : visible = otherVisibility := visibility
  unfold body at same
  simp only [List.append_assoc] at same
  obtain ⟨rfl, afterName⟩ :=
    sound.name.cut_mark too.name same (by cases visible <;> decide)
  obtain ⟨rfl, afterEntries⟩ := legible_entries sound.entries _ too.entries _ _
    (stops_closing _ _) (stops_closing _ _) afterName
  exact ⟨rfl, List.append_cancel_left afterEntries⟩

end ValueMap

end Bodies

namespace Declaration

/-- The first words of a declaration, which tell its sort. -/
def keyword : Declaration → String
  | ofClass _ => "declare export class "
  | ofShape _ => "export type "
  | ofValues map => map.visibility.keyword

def body : Declaration → List Char
  | ofClass decl => decl.body
  | ofShape decl => decl.body
  | ofValues map => map.body

def text (decl : Declaration) : List Char := decl.render.toList

theorem text_eq (decl : Declaration) : decl.text = decl.keyword.toList ++ decl.body := by
  cases decl with
  | ofClass decl => exact decl.render_eq
  | ofShape decl => exact decl.render_eq
  | ofValues map => exact map.render_eq

def keywords : List String :=
  ["declare export class ", "export type ", "declare export var ", "type "]

theorem keyword_mem (decl : Declaration) : decl.keyword ∈ keywords := by
  cases decl with
  | ofClass => simp [keyword, keywords]
  | ofShape => simp [keyword, keywords]
  | ofValues map =>
    obtain ⟨_, visibility, _⟩ := map
    cases visibility <;> simp [keyword, Visibility.keyword, keywords]

theorem keyword_cut {first second : String} (one : first ∈ keywords) (two : second ∈ keywords)
    {rest more : List Char} (same : first.toList ++ rest = second.toList ++ more) :
    first = second ∧ rest = more := by
  have apart : ∀ first ∈ keywords, ∀ second ∈ keywords,
      first.toList <+: second.toList → first = second := by decide
  have equal : first = second := by
    by_contra different
    exact append_ne_append rest more (fun within => different (apart _ one _ two within))
      (fun within => different (apart _ two _ one within).symm) same
  subst equal
  exact ⟨rfl, List.append_cancel_left same⟩

theorem cut_body {decl other : Declaration} (sound : decl.WellFormed) (too : other.WellFormed)
    (keywords : decl.keyword = other.keyword) {rest more : List Char}
    (same : decl.body ++ rest = other.body ++ more) : decl = other ∧ rest = more := by
  cases decl with
  | ofClass decl =>
    cases other with
    | ofClass other =>
      obtain ⟨decls, after⟩ := ClassDecl.legible sound other too _ _ trivial trivial same
      exact ⟨congrArg ofClass decls, after⟩
    | ofShape other => simp [keyword] at keywords
    | ofValues other => exact absurd keywords.symm other.visibility.keyword_ne.1
  | ofShape decl =>
    cases other with
    | ofClass other => simp [keyword] at keywords
    | ofShape other =>
      obtain ⟨decls, after⟩ := ShapeDecl.legible sound other too _ _ trivial trivial same
      exact ⟨congrArg ofShape decls, after⟩
    | ofValues other => exact absurd keywords.symm other.visibility.keyword_ne.2
  | ofValues map =>
    cases other with
    | ofClass other => exact absurd keywords map.visibility.keyword_ne.1
    | ofShape other => exact absurd keywords map.visibility.keyword_ne.2
    | ofValues other =>
      obtain ⟨maps, after⟩ := ValueMap.cut_body sound too (Visibility.keyword_inj keywords) same
      exact ⟨congrArg ofValues maps, after⟩

theorem legible {decl : Declaration} (sound : decl.WellFormed) :
    Legible text WellFormed Anything decl := by
  intro other too rest more _ _ same
  simp only [text_eq, List.append_assoc] at same
  obtain ⟨keywords, same⟩ := keyword_cut decl.keyword_mem other.keyword_mem same
  exact cut_body sound too keywords same

end Declaration

end SchemaTypings
