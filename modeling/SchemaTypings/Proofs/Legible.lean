import Mathlib.Data.List.Basic
import SchemaTypings.Text.Basic

/-! Texts that can be read in one way only. The text of an item is legible if it tells the item
and where the item ends, as long as what comes next does not look like a part of it. Words end
before the first mark; items in a row, with or without separators, are legible if each of them is
and if the end of the row does not look like one more item. -/
namespace SchemaTypings

/-- The text of `a`, with anything that `next` allows after it, is the text of no other sound
item with anything else after it. -/
def Legible {α : Type} (write : α → List Char) (sound : α → Prop) (next : List Char → Prop)
    (a : α) : Prop :=
  ∀ b, sound b → ∀ rest more, next rest → next more →
    write a ++ rest = write b ++ more → a = b ∧ rest = more

/-- The text is at its end, or goes on with one of the characters. -/
def Stops (marks text : List Char) : Prop := ∀ c ∈ text.head?, c ∈ marks

theorem stops_cons {marks rest : List Char} {c : Char} : Stops marks (c :: rest) ↔ c ∈ marks := by
  simp [Stops]

theorem Stops.mono {marks others text : List Char} (stops : Stops marks text)
    (subset : marks ⊆ others) : Stops others text :=
  fun c head => subset (stops c head)

theorem stops_append {marks text : List Char} (rest : List Char)
    (opens : text.head?.any (· ∈ marks) = true := by decide) : Stops marks (text ++ rest) := by
  cases text with
  | nil => cases opens
  | cons c text => exact stops_cons.mpr (by simpa using opens)

theorem not_stops_append {marks text : List Char} (rest : List Char)
    (opens : text.head?.any (· ∉ marks) = true := by decide) :
    ¬ Stops marks (text ++ rest) := by
  cases text with
  | nil => cases opens
  | cons c text => exact fun stops => (by simpa using opens : c ∉ marks) (stops_cons.mp stops)

/-- Texts that start with neither of two texts within the other are different. -/
theorem append_ne_append {first second : List Char} (rest more : List Char)
    (shorter : ¬ first <+: second := by decide) (longer : ¬ second <+: first := by decide) :
    first ++ rest ≠ second ++ more := by
  intro same
  have within : first <+: second ++ more := same ▸ List.prefix_append first rest
  exact (List.prefix_or_prefix_of_prefix within (List.prefix_append second more)).elim
    shorter longer

theorem takeWhile_word {marks word rest : List Char} (unmarked : ∀ c ∈ word, c ∉ marks)
    (stops : Stops marks rest) : (word ++ rest).takeWhile (· ∉ marks) = word := by
  have all : ∀ c ∈ word, decide (c ∉ marks) = true := fun c member =>
    decide_eq_true (unmarked c member)
  rw [List.takeWhile_append_of_pos all]
  cases rest with
  | nil => simp
  | cons c rest => simp [stops_cons.mp stops]

theorem word_cut {marks word other rest more : List Char} (unmarked : ∀ c ∈ word, c ∉ marks)
    (too : ∀ c ∈ other, c ∉ marks) (next : Stops marks rest) (last : Stops marks more)
    (same : word ++ rest = other ++ more) : word = other ∧ rest = more := by
  have words : word = other := by
    rw [← takeWhile_word unmarked next, same, takeWhile_word too last]
  subst words
  exact ⟨rfl, List.append_cancel_left same⟩

/-- The first of the items, and the rest of them in another way. -/
def headed {α : Type} (write : α → List Char) (tail : List α → List Char) : List α → List Char
  | [] => []
  | first :: rest => write first ++ tail rest

/-- Items in a row with a separator between each two. -/
def separated {α : Type} (write : α → List Char) (separator : List Char) : List α → List Char :=
  headed write (List.flatMap (separator ++ write ·))

theorem intercalate_map {α : Type} (write : α → List Char) (separator : List Char)
    (items : List α) :
    separator.intercalate (items.map write) = separated write separator items := by
  cases items with
  | nil => rfl
  | cons first rest =>
    induction rest generalizing first with
    | nil => simp [separated, headed]
    | cons second rest ih =>
      rw [List.map_cons, List.map_cons, List.intercalate_cons_cons, ← List.map_cons, ih]
      simp [separated, headed]

def occurrences (c : Char) (text : String) : Nat := text.toList.count c

theorem occurrences_append (c : Char) (first second : String) :
    occurrences c (first ++ second) = occurrences c first + occurrences c second := by
  rw [occurrences, String.toList_append, List.count_append]
  rfl

/-- Separators add what they hold, one less than there are texts. -/
theorem occurrences_intercalate (c : Char) (separator : String) (texts : List String) :
    occurrences c (separator.intercalate texts) =
      occurrences c (.join texts) + (texts.length - 1) * occurrences c separator := by
  induction texts with
  | nil => simp
  | cons text rest ih =>
    cases rest with
    | nil => simp
    | cons next rest =>
      have gaps : (text :: next :: rest).length - 1 = (next :: rest).length - 1 + 1 := rfl
      rw [String.intercalate_cons_cons, String.join_cons, gaps, Nat.succ_mul]
      simp only [occurrences_append, ih]
      omega

theorem flatMap_eq_headed {α : Type} (write : α → List Char) :
    List.flatMap write = headed write (List.flatMap write) := by
  funext items
  cases items <;> rfl

namespace Legible

variable {α : Type} {write : α → List Char} {tail : List α → List Char} {sound : α → Prop}
  {next last : List Char → Prop} {a : α} {items : List α}

theorem nil (different : ∀ a, sound a → ∀ rest, ¬ last (write a ++ rest)) :
    Legible (headed write tail) (∀ a ∈ ·, sound a) last [] := by
  intro others too rest more stop _ same
  cases others with
  | nil => exact ⟨rfl, same⟩
  | cons b others =>
    rw [headed, headed, List.nil_append, List.append_assoc] at same
    exact absurd (same ▸ stop) (different b (too b List.mem_cons_self) _)

theorem cons (head : Legible write sound next a) (sounds : ∀ b ∈ a :: items, sound b)
    (behind : Legible tail (∀ b ∈ ·, sound b) last items)
    (goesOn : ∀ items, (∀ b ∈ items, sound b) → ∀ rest, last rest → next (tail items ++ rest))
    (different : ∀ a, sound a → ∀ rest, ¬ last (write a ++ rest)) :
    Legible (headed write tail) (∀ b ∈ ·, sound b) last (a :: items) := by
  intro others too rest more stop stop' same
  obtain ⟨sounda, sounds⟩ := List.forall_mem_cons.mp sounds
  cases others with
  | nil =>
    rw [headed, headed, List.nil_append, List.append_assoc] at same
    exact absurd (same ▸ stop') (different a sounda _)
  | cons b others =>
    obtain ⟨soundb, too⟩ := List.forall_mem_cons.mp too
    rw [headed, headed, List.append_assoc, List.append_assoc] at same
    obtain ⟨first, same⟩ := head b soundb _ _ (goesOn items sounds rest stop)
      (goesOn others too more stop') same
    obtain ⟨second, same⟩ := behind others too rest more stop stop' same
    exact ⟨congrArg₂ List.cons first second, same⟩

theorem next_row (goesOn : ∀ a, sound a → ∀ rest, next (write a ++ rest))
    (ends : ∀ rest, last rest → next rest) (items : List α) (sounds : ∀ a ∈ items, sound a)
    (rest : List Char) (stop : last rest) : next (items.flatMap write ++ rest) := by
  cases items with
  | nil => exact ends rest stop
  | cons a items =>
    rw [List.flatMap_cons, List.append_assoc]
    exact goesOn a (sounds a List.mem_cons_self) _

theorem row (each : ∀ a ∈ items, Legible write sound next a) (sounds : ∀ a ∈ items, sound a)
    (goesOn : ∀ a, sound a → ∀ rest, next (write a ++ rest))
    (ends : ∀ rest, last rest → next rest)
    (different : ∀ a, sound a → ∀ rest, ¬ last (write a ++ rest)) :
    Legible (List.flatMap write) (∀ a ∈ ·, sound a) last items := by
  induction items with
  | nil => rw [flatMap_eq_headed]; exact nil different
  | cons a items ih =>
    obtain ⟨head, rest⟩ := List.forall_mem_cons.mp each
    have behind := ih rest (List.forall_mem_cons.mp sounds).2
    rw [flatMap_eq_headed]
    exact cons head sounds behind (next_row goesOn ends) different

theorem after_separator (separator : List Char) (legible : Legible write sound next a) :
    Legible (separator ++ write ·) sound next a := by
  intro b too rest more here there same
  simp only [List.append_assoc] at same
  exact legible b too rest more here there (List.append_cancel_left same)

theorem separated {separator : List Char} (each : ∀ a ∈ items, Legible write sound next a)
    (sounds : ∀ a ∈ items, sound a) (goesOn : ∀ rest, next (separator ++ rest))
    (ends : ∀ rest, last rest → next rest) (parted : ∀ rest, ¬ last (separator ++ rest))
    (different : ∀ a, sound a → ∀ rest, ¬ last (write a ++ rest)) :
    Legible (separated write separator) (∀ a ∈ ·, sound a) last items := by
  cases items with
  | nil => exact nil different
  | cons a items =>
    have goesOn' : ∀ a, sound a → ∀ rest, next (separator ++ write a ++ rest) :=
      fun a _ rest => (List.append_assoc ..).symm ▸ goesOn _
    have parted' : ∀ a, sound a → ∀ rest, ¬ last (separator ++ write a ++ rest) :=
      fun a _ rest => (List.append_assoc ..).symm ▸ parted _
    obtain ⟨head, rest⟩ := List.forall_mem_cons.mp each
    have behind := row (fun b member => after_separator separator (rest b member))
      (List.forall_mem_cons.mp sounds).2 goesOn' ends parted'
    exact cons head sounds behind (next_row goesOn' ends) different

end Legible

end SchemaTypings
