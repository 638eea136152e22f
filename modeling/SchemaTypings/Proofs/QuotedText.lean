import Mathlib.Tactic.SplitIfs
import SchemaTypings.Text.Quoted

/-! Quoted text read back, character by character. A quote that no backslash comes before ends
it; what a backslash stands for is told by the next character, and a code point ends at its brace.
No line ends within the quotes. -/
namespace SchemaTypings.Text

/-- What the reader of a quoted text has just passed. -/
inductive Passed
  | character
  | backslash
  | letterU
  | digits (point : Nat)

/-- The characters that are written as a backslash and another character. -/
def shorthands : List (Char × Char) :=
  [('"', '"'), ('\\', '\\'), ('0', '\x00'), ('t', '\t'), ('n', '\n'), ('r', '\r')]

def hexDigit? (c : Char) : Option Nat := "0123456789abcdef".toList.idxOf? c

/-- The text up to the closing quote, and what comes after it. -/
def unquote? : Passed → List Char → Option (List Char × List Char)
  | _, [] => none
  | .character, c :: rest =>
    if c = '"' then some ([], rest)
    else if c = '\\' then unquote? .backslash rest
    else (unquote? .character rest).map fun (text, more) => (c :: text, more)
  | .backslash, c :: rest =>
    if c = 'u' then unquote? .letterU rest
    else (shorthands.lookup c).bind fun meant =>
      (unquote? .character rest).map fun (text, more) => (meant :: text, more)
  | .letterU, c :: rest => if c = '{' then unquote? (.digits 0) rest else none
  | .digits point, c :: rest =>
    if c = '}' then
      (unquote? .character rest).map fun (text, more) => (Char.ofNat point :: text, more)
    else (hexDigit? c).bind fun digit => unquote? (.digits (16 * point + digit)) rest

theorem unquote?_digit (point : Nat) {digit : Nat} (bound : digit < 16) (rest : List Char) :
    unquote? (.digits point) (digit.digitChar :: rest) =
      unquote? (.digits (16 * point + digit)) rest := by
  have digits : ∀ d < 16, d.digitChar ≠ '}' ∧ hexDigit? d.digitChar = some d := by decide
  obtain ⟨inside, value⟩ := digits digit bound
  rw [unquote?, if_neg inside, value]
  rfl

theorem unquote?_digits (point : Nat) (rest : List Char) :
    unquote? (.digits 0) (Nat.toDigits 16 point ++ rest) = unquote? (.digits point) rest := by
  induction point using Nat.strongRecOn generalizing rest with
  | ind point ih =>
    by_cases single : point < 16
    · rw [Nat.toDigits_of_lt_base single, List.singleton_append, unquote?_digit 0 single,
        Nat.mul_zero, Nat.zero_add]
    · have less : point / 16 < point := by omega
      have last : point % 16 < 16 := Nat.mod_lt _ (by decide)
      rw [Nat.toDigits_of_base_le (by decide) (Nat.le_of_not_lt single), List.append_assoc,
        List.singleton_append, ih _ less, unquote?_digit _ last, Nat.div_add_mod]

theorem unquote?_point (c : Char) (rest : List Char) :
    unquote? .character (escapePoint c ++ rest) =
      (unquote? .character rest).map fun (text, more) => (c :: text, more) := by
  have opened : unquote? .character (escapePoint c ++ rest) =
      unquote? (.digits 0) (Nat.toDigits 16 c.toNat ++ ['}'] ++ rest) := rfl
  rw [opened, List.append_assoc, unquote?_digits, List.singleton_append, unquote?, if_pos rfl,
    Char.ofNat_toNat]

/-- The three ways in which a character is written. -/
theorem escapeChar_cases (c : Char) :
    (∃ short, (short, c) ∈ shorthands ∧ escapeChar c = ['\\', short]) ∨
      escapeChar c = escapePoint c ∨
      (c ≠ '"' ∧ c ≠ '\\' ∧ c ≠ '\n') ∧ escapeChar c = [c] := by
  unfold escapeChar
  split_ifs with quote backslash nul tab feed carriage unprintable
  · exact .inl ⟨'"', by simp [shorthands, quote], rfl⟩
  · exact .inl ⟨'\\', by simp [shorthands, backslash], rfl⟩
  · exact .inl ⟨'0', by simp [shorthands, nul], rfl⟩
  · exact .inl ⟨'t', by simp [shorthands, tab], rfl⟩
  · exact .inl ⟨'n', by simp [shorthands, feed], rfl⟩
  · exact .inl ⟨'r', by simp [shorthands, carriage], rfl⟩
  · exact .inr (.inl rfl)
  · exact .inr (.inr ⟨⟨quote, backslash, feed⟩, rfl⟩)

theorem unquote?_escapeChar (c : Char) (rest : List Char) :
    unquote? .character (escapeChar c ++ rest) =
      (unquote? .character rest).map fun (text, more) => (c :: text, more) := by
  rcases escapeChar_cases c with
    ⟨short, listed, written⟩ | written | ⟨⟨quote, backslash, _⟩, written⟩
  · have told : ∀ pair ∈ shorthands, pair.1 ≠ 'u' ∧ shorthands.lookup pair.1 = some pair.2 := by
      decide
    obtain ⟨other, meant⟩ := told _ listed
    have behind : unquote? .character (['\\', short] ++ rest) =
        unquote? .backslash (short :: rest) := rfl
    rw [written, behind, unquote?, if_neg other, meant]
    rfl
  · rw [written, unquote?_point]
  · rw [written, List.singleton_append, unquote?, if_neg quote, if_neg backslash]

theorem unquote?_text (text rest : List Char) :
    unquote? .character (text.flatMap escapeChar ++ '"' :: rest) = some (text, rest) := by
  induction text with
  | nil => rfl
  | cons c text ih =>
    rw [List.flatMap_cons, List.append_assoc, unquote?_escapeChar, ih]
    rfl

def readQuoted? : List Char → Option (String × List Char)
  | '"' :: rest => (unquote? .character rest).map fun (text, more) => (.ofList text, more)
  | _ => none

theorem toList_quoted (text : String) (rest : List Char) :
    (quoted text).toList ++ rest = '"' :: (text.toList.flatMap escapeChar ++ '"' :: rest) := by
  simp only [quoted, String.toList_ofList, List.cons_append, List.append_assoc, List.nil_append]

/-- A quoted text tells the text, whatever comes after it. -/
theorem readQuoted?_quoted (text : String) (rest : List Char) :
    readQuoted? ((quoted text).toList ++ rest) = some (text, rest) := by
  rw [toList_quoted, readQuoted?, unquote?_text]
  simp only [Option.map_some, String.ofList_toList]

theorem exists_digit {point : Nat} {c : Char} (member : c ∈ Nat.toDigits 16 point) :
    ∃ digit < 16, c = digit.digitChar := by
  induction point using Nat.strongRecOn with
  | ind point ih =>
    by_cases single : point < 16
    · rw [Nat.toDigits_of_lt_base single, List.mem_singleton] at member
      exact ⟨point, single, member⟩
    · rw [Nat.toDigits_of_base_le (by decide) (Nat.le_of_not_lt single), List.mem_append,
        List.mem_singleton] at member
      rcases member with earlier | last
      · exact ih _ (by omega) earlier
      · exact ⟨_, Nat.mod_lt _ (by decide), last⟩

theorem break_not_mem_escapeChar (c : Char) : '\n' ∉ escapeChar c := by
  rcases escapeChar_cases c with
    ⟨short, listed, written⟩ | written | ⟨⟨_, _, other⟩, written⟩
  · have visible : ∀ pair ∈ shorthands, '\n' ∉ ['\\', pair.1] := by decide
    rw [written]
    exact visible _ listed
  · have digits : '\n' ∉ Nat.toDigits 16 c.toNat := by
      intro member
      obtain ⟨digit, bound, same⟩ := exists_digit member
      have visible : ∀ d < 16, '\n' ≠ d.digitChar := by decide
      exact visible digit bound same
    simp [written, escapePoint, digits]
  · rw [written, List.mem_singleton]
    exact Ne.symm other

theorem break_not_mem_quoted (text : String) : '\n' ∉ (quoted text).toList := by
  have inside : '\n' ∉ text.toList.flatMap escapeChar := by
    intro member
    obtain ⟨c, _, written⟩ := List.mem_flatMap.mp member
    exact break_not_mem_escapeChar c written
  have whole := toList_quoted text []
  rw [List.append_nil] at whole
  rw [whole]
  simp [inside]

end SchemaTypings.Text
