import Std.Data.String.ToInt
import SchemaTypings.Proofs.TypeText
import SchemaTypings.Typings

/-! The text of a member of a declaration tells the member. A name in it ends before a mark that
cannot be part of it, and so does a type; a number has no marks either. Two kinds of members of a
class part in their first characters, two kinds of static members after the first word of the
type. -/
namespace SchemaTypings

def Accessor.WellFormed : Accessor → Prop
  | getter stem type => IsWord stem ∧ type.WellFormed
  | setter stem type => IsWord stem ∧ type.WellFormed

structure StaticMember.WellFormed (member : StaticMember) : Prop where
  name : IsWord member.name
  target : IsWord member.target

structure Property.WellFormed (property : Property) : Prop where
  name : IsWord property.name
  type : property.type.WellFormed

def NamedNumber.WellFormed (entry : NamedNumber) : Prop := IsWord entry.name

/-- A line of a class. -/
def line (member : String) : List Char := (indented member ++ "\n").toList

theorem line_eq (member : String) :
    line member = "  ".toList ++ (member.toList ++ "\n".toList) := by
  simp only [line, indented, String.toList_append, List.append_assoc]

def Accessor.text (accessor : Accessor) : List Char := line accessor.render

def StaticMember.text (member : StaticMember) : List Char := line member.render

def Property.text (property : Property) : List Char := (indented property.render).toList

def NamedNumber.text (entry : NamedNumber) : List Char :=
  (indented (entry.name ++ ": " ++ entry.literal)).toList

/-- What comes after a text that ends by itself. -/
def Anything (_ : List Char) : Prop := True

theorem Accessor.text_getter (stem : String) (type : TypeExpr) :
    (getter stem type).text =
      "  get".toList ++ (stem.toList ++ ("(): ".toList ++ (type.text ++ ";\n".toList))) := by
  simp [text, line, indented, render, TypeExpr.text]

theorem Accessor.text_setter (stem : String) (type : TypeExpr) :
    (setter stem type).text =
      "  set".toList ++ (stem.toList ++ ("(val: ".toList
        ++ (type.text ++ "): void;\n".toList))) := by
  simp [text, line, indented, render, TypeExpr.text]

theorem Accessor.getter_ne_setter (stem other : String) (type another : TypeExpr)
    (rest more : List Char) :
    (getter stem type).text ++ rest ≠ (setter other another).text ++ more := by
  rw [text_getter, text_setter, List.append_assoc, List.append_assoc _ _ more]
  exact append_ne_append _ _

theorem Accessor.legible {accessor : Accessor} (sound : accessor.WellFormed) :
    Legible text WellFormed Anything accessor := by
  intro other too rest more _ _ same
  cases accessor with
  | getter stem type =>
    cases other with
    | getter other another =>
      simp only [text_getter, List.append_assoc] at same
      obtain ⟨rfl, afterStem⟩ := sound.1.cut_mark too.1 (List.append_cancel_left same)
      obtain ⟨rfl, afterType⟩ := sound.2.cut_mark too.2 afterStem
      exact ⟨rfl, afterType⟩
    | setter other another => exact absurd same (getter_ne_setter _ _ _ _ _ _)
  | setter stem type =>
    cases other with
    | getter other another => exact absurd same.symm (getter_ne_setter _ _ _ _ _ _)
    | setter other another =>
      simp only [text_setter, List.append_assoc] at same
      obtain ⟨rfl, afterStem⟩ := sound.1.cut_mark too.1 (List.append_cancel_left same)
      obtain ⟨rfl, afterType⟩ := sound.2.cut_mark too.2 afterStem
      exact ⟨rfl, afterType⟩

theorem Property.text_eq (property : Property) :
    property.text =
      "  ".toList ++ (property.name.toList ++ (": ".toList ++ property.type.text)) := by
  simp only [text, indented, render, TypeExpr.text, String.toList_append, List.append_assoc]

theorem Property.legible {property : Property} (sound : property.WellFormed) :
    Legible text WellFormed (Stops TypeExpr.ends) property := by
  intro other too rest more next last same
  obtain ⟨name, type⟩ := property
  obtain ⟨otherName, otherType⟩ := other
  simp only [text_eq, List.append_assoc] at same
  obtain ⟨rfl, afterName⟩ := sound.name.cut_mark too.name (List.append_cancel_left same)
  obtain ⟨rfl, afterType⟩ := sound.type.legible _ too.type _ _ next last afterName
  exact ⟨rfl, afterType⟩

namespace StaticMember

/-- What stands before the target of a member. -/
def reference : TypeKind → String
  | .message => "typeof "
  | .enumeration => ""

theorem text_eq (member : StaticMember) :
    member.text = "  static ".toList ++ (member.name.toList ++ (": ".toList
      ++ ((reference member.kind).toList ++ (member.target.toList ++ ";\n".toList)))) := by
  obtain ⟨kind, name, target⟩ := member
  cases kind <;> simp [text, line, indented, render, reference]

/-- The target of an enumeration goes on with another mark than the first word before the target
of a message does. -/
theorem typeof_ne {target : String} (word : IsWord target) (rest more : List Char) :
    "typeof ".toList ++ rest ≠ target.toList ++ (";\n".toList ++ more) := by
  intro same
  have split : "typeof ".toList = "typeof".toList ++ " ".toList := by decide
  rw [split, List.append_assoc] at same
  have typeof : IsWord "typeof" := by decide
  obtain ⟨_, after⟩ := typeof.cut word (stops_append _) (stops_append _) same
  exact absurd after (append_ne_append _ _)

theorem cut_target {kind other : TypeKind} {target another : String} {rest more : List Char}
    (word : IsWord target) (wordToo : IsWord another)
    (same : (reference kind).toList ++ (target.toList ++ (";\n".toList ++ rest)) =
      (reference other).toList ++ (another.toList ++ (";\n".toList ++ more))) :
    kind = other ∧ target = another ∧ rest = more := by
  cases kind with
  | message =>
    cases other with
    | message => exact ⟨rfl, word.cut_mark wordToo (List.append_cancel_left same)⟩
    | enumeration => exact absurd same (typeof_ne wordToo _ _)
  | enumeration =>
    cases other with
    | message => exact absurd same.symm (typeof_ne word _ _)
    | enumeration => exact ⟨rfl, word.cut_mark wordToo same⟩

theorem legible {member : StaticMember} (sound : member.WellFormed) :
    Legible text WellFormed Anything member := by
  intro other too rest more _ _ same
  obtain ⟨kind, name, target⟩ := member
  obtain ⟨otherKind, otherName, otherTarget⟩ := other
  simp only [text_eq, List.append_assoc] at same
  obtain ⟨rfl, afterName⟩ := sound.name.cut_mark too.name (List.append_cancel_left same)
  obtain ⟨rfl, rfl, afterTarget⟩ := cut_target sound.target too.target afterName
  exact ⟨rfl, afterTarget⟩

end StaticMember

theorem isWord_repr (n : Nat) : IsWord n.repr where
  filled := Nat.repr_ne_empty
  unmarked c member marked := by
    have plain : marks.all (!·.isDigit) = true := by decide
    rw [Nat.repr_eq_ofList_toDigits, String.toList_ofList] at member
    have digit := Nat.isDigit_of_mem_toDigits (by decide) (by decide) member
    simpa [digit] using List.all_eq_true.mp plain c marked

theorem NamedNumber.isWord_literal (entry : NamedNumber) : IsWord entry.literal := by
  rw [literal, Int.repr_eq_if]
  split_ifs with negative
  · exact isWord_repr _
  · refine ⟨by simp, ?_⟩
    rw [String.toList_append]
    intro c member
    rcases List.mem_append.mp member with sign | digit
    · cases List.mem_singleton.mp sign
      decide
    · exact (isWord_repr _).unmarked c digit

theorem NamedNumber.literal_inj {first second : NamedNumber}
    (same : first.literal = second.literal) : first.number = second.number :=
  Int32.toInt_inj.mp (Int.repr_inj.mp same)

theorem NamedNumber.text_eq (entry : NamedNumber) :
    entry.text =
      "  ".toList ++ (entry.name.toList ++ (": ".toList ++ entry.literal.toList)) := by
  simp only [text, indented, String.toList_append, List.append_assoc]

theorem NamedNumber.legible {entry : NamedNumber} (sound : entry.WellFormed) :
    Legible text WellFormed (Stops marks) entry := by
  intro other too rest more next last same
  obtain ⟨name, number⟩ := entry
  obtain ⟨otherName, otherNumber⟩ := other
  simp only [text_eq, List.append_assoc] at same
  obtain ⟨rfl, afterName⟩ := IsWord.cut_mark sound too (List.append_cancel_left same)
  obtain ⟨numbers, afterNumber⟩ :=
    (isWord_literal _).cut (isWord_literal _) next last afterName
  cases literal_inj numbers
  exact ⟨rfl, afterNumber⟩

end SchemaTypings
