/-! Cutting text, on lists of characters: the part after the last separator, the
two sides of the first separator, a text without a given ending, and a text
without the unwanted characters at its ends. -/
namespace SchemaTypings.Text

/-- What follows the last `separator`; all of the text when there is none. -/
def afterLast (separator : Char) (text : List Char) : List Char :=
  (text.reverse.takeWhile (· != separator)).reverse

/-- The two sides of the first `separator`, if there is one. -/
def cut? (separator : Char) : List Char → Option (List Char × List Char)
  | [] => none
  | c :: rest =>
    if c = separator then some ([], rest)
    else (cut? separator rest).map fun sides => (c :: sides.1, sides.2)

def withoutEnding (ending text : List Char) : List Char :=
  if ending.isSuffixOf text then text.take (text.length - ending.length) else text

def trim (unwanted : Char → Bool) (text : List Char) : List Char :=
  ((text.dropWhile unwanted).reverse.dropWhile unwanted).reverse

section Separator

variable {separator : Char} {ending last : List Char}

theorem kept_of_not_mem (absent : separator ∉ last) :
    ∀ c ∈ last.reverse, (c != separator) = true := by
  intro c member
  have differ : c ≠ separator := fun same => absent (same ▸ List.mem_reverse.mp member)
  simpa using differ

theorem afterLast_append (before : List Char) (absent : separator ∉ last) :
    afterLast separator (before ++ separator :: last) = last := by
  unfold afterLast
  rw [List.reverse_append, List.reverse_cons, List.append_assoc,
    List.takeWhile_append_of_pos (kept_of_not_mem absent)]
  simp

theorem afterLast_of_not_mem (absent : separator ∉ last) : afterLast separator last = last := by
  have whole : (last.reverse ++ []).takeWhile (· != separator) =
      last.reverse ++ [].takeWhile (· != separator) :=
    List.takeWhile_append_of_pos (kept_of_not_mem absent)
  unfold afterLast
  rw [List.append_nil, List.takeWhile_nil, List.append_nil] at whole
  rw [whole, List.reverse_reverse]

/-- A text has no separator, or it has one that no other follows. -/
theorem exists_last (separator : Char) (text : List Char) :
    separator ∉ text ∨ ∃ before last, text = before ++ separator :: last ∧ separator ∉ last := by
  by_cases member : separator ∈ text.reverse
  · obtain ⟨later, earlier, split, absent⟩ := List.eq_append_cons_of_mem member
    refine .inr ⟨earlier.reverse, later.reverse, ?_, mt List.mem_reverse.mp absent⟩
    have reversed := congrArg List.reverse split
    simpa using reversed
  · exact .inl (mt List.mem_reverse.mpr member)

theorem suffix_behind_iff (before : List Char) (absent : separator ∉ ending) :
    ending <:+ before ++ separator :: last ↔ ending <:+ last := by
  constructor
  · intro ends
    have tail : separator :: last <:+ before ++ separator :: last := List.suffix_append _ _
    rcases List.suffix_or_suffix_of_suffix ends tail with inside | around
    · rcases List.suffix_cons_iff.mp inside with whole | inside
      · exact absurd (whole ▸ List.mem_cons_self) absent
      · exact inside
    · exact absurd (around.subset List.mem_cons_self) absent
  · intro ends
    exact (ends.trans (List.suffix_cons _ _)).trans (List.suffix_append _ _)

theorem withoutEnding_append (ending text : List Char) :
    withoutEnding ending (text ++ ending) = text := by
  simp [withoutEnding]

theorem withoutEnding_sublist (ending text : List Char) :
    (withoutEnding ending text).Sublist text := by
  unfold withoutEnding
  split
  · exact List.take_sublist _ _
  · exact List.Sublist.refl _

/-- An ending without separators is one of the last part, or none at all. -/
theorem withoutEnding_behind (before : List Char) (absent : separator ∉ ending) :
    withoutEnding ending (before ++ separator :: last) =
      before ++ separator :: withoutEnding ending last := by
  by_cases ends : ending <:+ last
  · obtain ⟨front, rfl⟩ := ends
    rw [withoutEnding_append, ← List.cons_append, ← List.append_assoc, withoutEnding_append]
  · have outer := mt (suffix_behind_iff before absent).mp ends
    simp [withoutEnding, List.isSuffixOf_iff_suffix, ends, outer]

end Separator

end SchemaTypings.Text
