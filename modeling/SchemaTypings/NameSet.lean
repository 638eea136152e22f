/-! Sets of names, held as strictly ascending lists: the order is by code points, which
is also that of the names in UTF-8. Equal sets are equal lists. -/
namespace SchemaTypings

structure NameSet where
  toList : List String
  ascending : toList.Pairwise (· < ·)
  deriving DecidableEq, Repr

def insertAscending (name : String) : List String → List String
  | [] => [name]
  | first :: rest =>
    if name < first then name :: first :: rest
    else if name = first then first :: rest
    else first :: insertAscending name rest

theorem mem_insertAscending (name x : String) (names : List String) :
    x ∈ insertAscending name names ↔ x = name ∨ x ∈ names := by
  induction names with
  | nil => simp [insertAscending]
  | cons first rest ih =>
    by_cases below : name < first
    · simp [insertAscending, below]
    · by_cases same : name = first
      · simp [insertAscending, same]
      · simp only [insertAscending, below, same, if_false, List.mem_cons, ih]
        exact or_left_comm

private theorem first_lt (name first : String) (below : ¬ name < first) (same : name ≠ first) :
    first < name :=
  Decidable.byContradiction fun above =>
    same (String.le_antisymm (String.not_lt.mp above) (String.not_lt.mp below))

theorem ascending_insertAscending (name : String) (names : List String)
    (ascending : names.Pairwise (· < ·)) : (insertAscending name names).Pairwise (· < ·) := by
  induction names with
  | nil => simp [insertAscending]
  | cons first rest ih =>
    obtain ⟨above, tail⟩ := List.pairwise_cons.mp ascending
    by_cases below : name < first
    · simp only [insertAscending, below, if_true]
      exact .cons (List.forall_mem_cons.mpr
        ⟨below, fun x member => String.lt_trans below (above x member)⟩) ascending
    · by_cases same : name = first
      · simpa [insertAscending, same] using ascending
      · simp only [insertAscending, below, same, if_false]
        refine .cons (fun x member => ?_) (ih tail)
        rcases (mem_insertAscending name x rest).mp member with rfl | old
        · exact first_lt x first below same
        · exact above x old

namespace NameSet

instance : Membership String NameSet := ⟨fun names name => name ∈ names.toList⟩

def empty : NameSet := ⟨[], .nil⟩

def insert (name : String) (names : NameSet) : NameSet :=
  ⟨insertAscending name names.toList, ascending_insertAscending _ _ names.ascending⟩

def ofList (names : List String) : NameSet := names.foldr insert empty

def isEmpty (names : NameSet) : Bool := names.toList.isEmpty

theorem ext {first second : NameSet} (same : ∀ name, name ∈ first ↔ name ∈ second) :
    first = second := by
  obtain ⟨names, ascending⟩ := first
  obtain ⟨others, ascendingToo⟩ := second
  have distinct : ∀ {list : List String}, list.Pairwise (· < ·) → list.Nodup :=
    fun ordered => ordered.imp String.ne_of_lt
  have perm : names.Perm others :=
    (List.perm_ext_iff_of_nodup (distinct ascending) (distinct ascendingToo)).mpr same
  have equal : names = others := by
    refine perm.eq_of_pairwise ?_ ascending ascendingToo
    intro name other _ _ below above
    exact absurd (String.lt_trans below above) (String.lt_irrefl name)
  subst equal
  rfl

theorem not_mem_empty (name : String) : name ∉ empty := List.not_mem_nil

theorem mem_insert (name x : String) (names : NameSet) :
    x ∈ names.insert name ↔ x = name ∨ x ∈ names :=
  mem_insertAscending name x names.toList

theorem mem_ofList (x : String) (names : List String) : x ∈ ofList names ↔ x ∈ names := by
  induction names with
  | nil => exact Iff.rfl
  | cons name rest ih =>
    rw [List.mem_cons, ← ih]
    exact mem_insert name x (ofList rest)

end NameSet

end SchemaTypings
