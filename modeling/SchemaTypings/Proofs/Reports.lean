import SchemaTypings.Fault
import SchemaTypings.Proofs.Legible
import SchemaTypings.Proofs.QuotedText

/-! Reports tell their faults. The words at the start of a report hold the texts of the fault as
they are, so they may look like another report or like several; but no line ends in the details,
which have the texts in quotes, so the last line is the details, and these can be read back. -/
namespace SchemaTypings

theorem isPrefixOf?_append (word rest : List Char) : word.isPrefixOf? (word ++ rest) = some rest :=
  List.isPrefixOf?_eq_some_iff_append_eq.mpr rfl

theorem isPrefixOf?_eq_none {word other : List Char} (rest : List Char)
    (shorter : ¬ word <+: other) (longer : ¬ other <+: word) :
    word.isPrefixOf? (other ++ rest) = none := by
  apply Option.eq_none_iff_forall_ne_some.mpr
  intro more found
  exact append_ne_append more rest shorter longer (List.isPrefixOf?_eq_some_iff_append_eq.mp found)

namespace Fault

/-! Details with one text in quotes, or with two. -/
section Texts

variable (lead middle closing text second : String)

def single : String := lead ++ Text.quoted text ++ closing

def double : String := lead ++ Text.quoted text ++ middle ++ Text.quoted second ++ closing

def readSingle? (line : List Char) : Option String := do
  let rest ← lead.toList.isPrefixOf? line
  let (text, rest) ← Text.readQuoted? rest
  if rest = closing.toList then some text else none

def readDouble? (line : List Char) : Option (String × String) := do
  let rest ← lead.toList.isPrefixOf? line
  let (first, rest) ← Text.readQuoted? rest
  let rest ← middle.toList.isPrefixOf? rest
  let (second, rest) ← Text.readQuoted? rest
  if rest = closing.toList then some (first, second) else none

theorem toList_single : (single lead closing text).toList =
    lead.toList ++ ((Text.quoted text).toList ++ closing.toList) := by
  simp only [single, String.toList_append, List.append_assoc]

theorem toList_double : (double lead middle closing text second).toList =
    lead.toList ++ ((Text.quoted text).toList ++
      (middle.toList ++ ((Text.quoted second).toList ++ closing.toList))) := by
  simp only [double, String.toList_append, List.append_assoc]

theorem readSingle?_single :
    readSingle? lead closing (single lead closing text).toList = some text := by
  rw [toList_single, readSingle?, isPrefixOf?_append]
  simp only [Option.bind_eq_bind, Option.bind_some, Text.readQuoted?_quoted, if_true]

theorem readDouble?_double :
    readDouble? lead middle closing (double lead middle closing text second).toList =
      some (text, second) := by
  rw [toList_double, readDouble?, isPrefixOf?_append]
  simp only [Option.bind_eq_bind, Option.bind_some, Text.readQuoted?_quoted, isPrefixOf?_append,
    if_true]

section Break

variable {lead middle closing} (start : '\n' ∉ lead.toList) (end_ : '\n' ∉ closing.toList)
include start end_

theorem break_not_mem_single : '\n' ∉ (single lead closing text).toList := by
  rw [toList_single]
  simp [start, end_, Text.break_not_mem_quoted]

theorem break_not_mem_double (between : '\n' ∉ middle.toList) :
    '\n' ∉ (double lead middle closing text second).toList := by
  rw [toList_double]
  simp [start, between, end_, Text.break_not_mem_quoted]

end Break

variable {lead} {other : String} (shorter : ¬ other.toList <+: lead.toList)
  (longer : ¬ lead.toList <+: other.toList)
include shorter longer

theorem readSingle?_other :
    readSingle? other closing (single lead closing text).toList = none := by
  rw [toList_single, readSingle?, isPrefixOf?_eq_none _ shorter longer]
  rfl

theorem readDouble?_single (end_ : String) :
    readDouble? other middle end_ (single lead closing text).toList = none := by
  rw [toList_single, readDouble?, isPrefixOf?_eq_none _ shorter longer]
  rfl

end Texts

/-- The faults of a request that could be decoded. -/
def Decoded : Fault → Prop
  | undecodable _ => False
  | _ => True

/-- The fault that has these details. -/
def ofDetails? (line : List Char) : Option Fault :=
  (readDouble? "UnresolvedType \x7b type_name: " ", field: " " \x7d" line).map
      (fun (typeName, field) => undeclared typeName field)
    <|> (readSingle? "UnqualifiedTypeName(" ")" line).map unqualified
    <|> (readSingle? "MissingTypeName(" ")" line).map untyped
    <|> (readSingle? "MissingName(" ")" line).map nameless
    <|> (readSingle? "InvalidParameter(" ")" line).map malformedPair

section Decoded

variable {fault : Fault} (decoded : fault.Decoded)
include decoded

theorem ofDetails?_details : ofDetails? fault.details.toList = some fault := by
  unfold ofDetails?
  cases fault with
  | undeclared typeName field =>
    have line : (undeclared typeName field).details =
      double "UnresolvedType \x7b type_name: " ", field: " " \x7d" typeName field := rfl
    rw [line, readDouble?_double]
    rfl
  | unqualified typeName =>
    have line : (unqualified typeName).details = single "UnqualifiedTypeName(" ")" typeName := rfl
    rw [line]
    simp (disch := decide) only [readDouble?_single, readSingle?_single]
    rfl
  | untyped field =>
    have line : (untyped field).details = single "MissingTypeName(" ")" field := rfl
    rw [line]
    simp (disch := decide) only [readDouble?_single, readSingle?_other, readSingle?_single]
    rfl
  | nameless sort =>
    have line : (nameless sort).details = single "MissingName(" ")" sort := rfl
    rw [line]
    simp (disch := decide) only [readDouble?_single, readSingle?_other, readSingle?_single]
    rfl
  | malformedPair pair =>
    have line : (malformedPair pair).details = single "InvalidParameter(" ")" pair := rfl
    rw [line]
    simp (disch := decide) only [readDouble?_single, readSingle?_other, readSingle?_single]
    rfl
  | undecodable => exact decoded.elim

theorem break_not_mem_details : '\n' ∉ fault.details.toList := by
  cases fault with
  | undeclared typeName field =>
    exact break_not_mem_double typeName field (by decide) (by decide) (by decide)
  | unqualified typeName => exact break_not_mem_single typeName (by decide) (by decide)
  | untyped field => exact break_not_mem_single field (by decide) (by decide)
  | nameless sort => exact break_not_mem_single sort (by decide) (by decide)
  | malformedPair pair => exact break_not_mem_single pair (by decide) (by decide)
  | undecodable => exact decoded.elim

theorem lastLine_report :
    Text.afterLast '\n' fault.report.toList = ' ' :: fault.details.toList := by
  have parted : ":\n ".toList = ':' :: '\n' :: [' '] := by decide
  have line : '\n' ∉ ' ' :: fault.details.toList :=
    List.not_mem_cons_of_ne_of_not_mem (by decide) (break_not_mem_details decoded)
  have whole : fault.report.toList =
      (fault.message.toList ++ [':']) ++ '\n' :: ' ' :: fault.details.toList := by
    simp only [report, String.toList_append, parted, List.append_assoc, List.cons_append,
      List.nil_append]
  rw [whole, Text.afterLast_append _ line]

end Decoded

theorem report_inj {first second : Fault} (decoded : first.Decoded) (too : second.Decoded)
    (same : first.report = second.report) : first = second := by
  have lines := congrArg (fun report => Text.afterLast '\n' report.toList) same
  simp only [lastLine_report decoded, lastLine_report too, List.cons.injEq, true_and] at lines
  have read := ofDetails?_details decoded
  rw [lines, ofDetails?_details too] at read
  exact (Option.some.inj read).symm

/-- The last line of a report is all of the details, and tells the fault with its texts, whatever
is in them. So no two faults have one report. -/
theorem report_tells :
    (∀ fault : Fault, fault.Decoded →
      Text.afterLast '\n' fault.report.toList = ' ' :: fault.details.toList ∧
        '\n' ∉ fault.details.toList ∧ ofDetails? fault.details.toList = some fault) ∧
    ∀ first second : Fault, first.Decoded → second.Decoded →
      first.report = second.report → first = second :=
  ⟨fun _ decoded => ⟨lastLine_report decoded, break_not_mem_details decoded,
    ofDetails?_details decoded⟩, fun _ _ => report_inj⟩

/-- A text that looks like the end of a report, and two faults that are alike but for details. -/
theorem lookalikes_told :
    (unqualified "a\":\n MissingName(\"file\")\\").Decoded ∧
      ofDetails? (unqualified "a\":\n MissingName(\"file\")\\").details.toList =
        some (unqualified "a\":\n MissingName(\"file\")\\") ∧
      (undeclared "a referenced by field b" "c").message =
        (undeclared "a" "b referenced by field c").message ∧
      (undeclared "a referenced by field b" "c").report ≠
        (undeclared "a" "b referenced by field c").report := by
  have decoded : (unqualified "a\":\n MissingName(\"file\")\\").Decoded := trivial
  have one : (undeclared "a referenced by field b" "c").Decoded := trivial
  have other : (undeclared "a" "b referenced by field c").Decoded := trivial
  obtain ⟨told, apart⟩ := report_tells
  refine ⟨decoded, (told _ decoded).2.2, by decide, fun same => ?_⟩
  exact absurd (apart _ _ one other same) (by decide)

end Fault

end SchemaTypings
