import Mathlib.Data.List.Basic
import Std.Data.TreeMap
import SchemaTypings.Needs

/-! Needs kept by module, in a table with a set of names for each module. A table that never has
an empty set says by its rows what it says by its names: a module has a row exactly if a name is
needed of it, and the table is empty exactly if nothing is needed. -/
namespace SchemaTypings

structure NeedsTable where
  sets : Std.TreeMap String NameSet := ∅

namespace NeedsTable

/-- The table with these names in the row of the module, which is made if there is none. -/
def extend (module : String) (names : List String) (table : NeedsTable) : NeedsTable :=
  ⟨table.sets.alter module fun held =>
    some (names.foldl (fun held name => held.insert name) (held.getD .empty))⟩

def add (need : Need) (table : NeedsTable) : NeedsTable := table.extend need.module [need.name]

/-- The rows of the other table are put in one after the other. -/
def merge (table more : NeedsTable) : NeedsTable :=
  more.sets.foldl (fun table module names => table.extend module names.toList) table

def take (module : String) (table : NeedsTable) : NameSet × NeedsTable :=
  (table.sets.getD module .empty, ⟨table.sets.erase module⟩)

def isEmpty (table : NeedsTable) : Bool := table.sets.isEmpty

def Holds (table : NeedsTable) (need : Need) : Prop :=
  ∃ names, table.sets[need.module]? = some names ∧ need.name ∈ names

/-- No module is there without a name. -/
def Filled (table : NeedsTable) : Prop :=
  ∀ (module : String) (names : NameSet), table.sets[module]? = some names → ∃ name, name ∈ names

section Operations

variable {table more : NeedsTable} {module : String} {names : List String} {need : Need}

theorem mem_foldl_insert (names : List String) (held : NameSet) (name : String) :
    name ∈ names.foldl (fun held name => held.insert name) held ↔ name ∈ names ∨ name ∈ held := by
  induction names generalizing held with
  | nil => simp
  | cons first rest ih =>
    rw [List.foldl_cons, ih, NameSet.mem_insert, List.mem_cons]
    exact or_left_comm.trans (or_assoc).symm

theorem get?_extend (other : String) :
    (table.extend module names).sets[other]? =
      if module = other then
        some (names.foldl (fun held name => held.insert name) (table.sets[module]?.getD .empty))
      else table.sets[other]? := by
  simp [extend, Std.TreeMap.getElem?_alter]

theorem holds_extend :
    (table.extend module names).Holds need ↔
      need.module = module ∧ need.name ∈ names ∨ table.Holds need := by
  unfold Holds
  rw [get?_extend]
  split
  next same =>
    subst same
    simp only [Option.some.injEq, exists_eq_left', mem_foldl_insert, true_and]
    apply or_congr_right
    cases table.sets[need.module]? with
    | none => simp [NameSet.not_mem_empty]
    | some held => simp
  next other =>
    simp [Ne.symm other]

theorem Filled.extend (filled : table.Filled) (some_ : ∃ name, name ∈ names) :
    (table.extend module names).Filled := by
  intro other held at_
  rw [get?_extend] at at_
  split at at_
  next =>
    cases at_
    obtain ⟨name, among⟩ := some_
    exact ⟨name, (mem_foldl_insert _ _ _).mpr (.inl among)⟩
  next => exact filled other held at_

theorem holds_foldl_extend (rows : List (String × NameSet)) :
    (rows.foldl (fun table row => table.extend row.1 row.2.toList) table).Holds need ↔
      table.Holds need ∨ (∃ row ∈ rows, need.module = row.1 ∧ need.name ∈ row.2) := by
  induction rows generalizing table with
  | nil => simp
  | cons row rest ih =>
    rw [List.foldl_cons, ih, holds_extend]
    simp only [List.mem_cons, exists_eq_or_imp]
    exact or_assoc.trans or_left_comm

theorem holds_merge :
    (table.merge more).Holds need ↔ table.Holds need ∨ more.Holds need := by
  rw [merge, Std.TreeMap.foldl_eq_foldl_toList, holds_foldl_extend]
  apply or_congr_right
  constructor
  · rintro ⟨⟨module, names⟩, among, rfl, member⟩
    exact ⟨names, Std.TreeMap.mem_toList_iff_getElem?_eq_some.mp among, member⟩
  · rintro ⟨names, at_, member⟩
    exact ⟨(need.module, names), Std.TreeMap.mem_toList_iff_getElem?_eq_some.mpr at_, rfl, member⟩

theorem Filled.foldl_extend (filled : table.Filled) (rows : List (String × NameSet))
    (each : ∀ row ∈ rows, ∃ name, name ∈ row.2) :
    (rows.foldl (fun table row => table.extend row.1 row.2.toList) table).Filled := by
  induction rows generalizing table with
  | nil => exact filled
  | cons row rest ih =>
    obtain ⟨some_, others⟩ := List.forall_mem_cons.mp each
    exact ih (filled.extend some_) others

theorem Filled.merge (filled : table.Filled) (too : more.Filled) : (table.merge more).Filled := by
  rw [NeedsTable.merge, Std.TreeMap.foldl_eq_foldl_toList]
  refine filled.foldl_extend _ ?_
  intro row among
  exact too row.1 row.2 (Std.TreeMap.mem_toList_iff_getElem?_eq_some.mp among)

theorem get?_take (other : String) :
    (table.take module).2.sets[other]? = if module = other then none else table.sets[other]? := by
  simp [take, Std.TreeMap.getElem?_erase]

theorem holds_take :
    (table.take module).2.Holds need ↔ table.Holds need ∧ need.module ≠ module := by
  unfold Holds
  rw [get?_take]
  split
  next same => simp [same]
  next other => simp [Ne.symm other]

theorem Filled.take (filled : table.Filled) : (table.take module).2.Filled := by
  intro other names at_
  rw [get?_take] at at_
  split at at_
  next => cases at_
  next => exact filled other names at_

theorem Filled.isEmpty_iff (filled : table.Filled) :
    table.isEmpty = true ↔ ∀ need, ¬ table.Holds need := by
  unfold isEmpty
  rw [Std.TreeMap.isEmpty_iff_forall_not_mem]
  constructor
  · rintro none need ⟨names, at_, _⟩
    apply none need.module
    rw [Std.TreeMap.mem_iff_isSome_getElem?, at_]
    rfl
  · intro none module member
    rw [Std.TreeMap.mem_iff_isSome_getElem?] at member
    obtain ⟨names, at_⟩ := Option.isSome_iff_exists.mp member
    obtain ⟨name, among⟩ := filled module names at_
    exact none ⟨module, name⟩ ⟨names, at_, among⟩

end Operations

/-- The table has the same names as the needs, and a row only for modules that have one. -/
structure Keeps (table : NeedsTable) (needs : Needs) : Prop where
  names : ∀ need, table.Holds need ↔ need ∈ needs.toList
  filled : table.Filled

namespace Keeps

variable {table others : NeedsTable} {needs more : Needs}

theorem empty : Keeps {} .empty where
  names need := ⟨fun ⟨_, at_, _⟩ => by simp at at_, fun member => nomatch member⟩
  filled _ _ at_ := by simp at at_

theorem add (keeps : table.Keeps needs) (need : Need) :
    (table.add need).Keeps (needs.add need) where
  names other := by
    have same : other.module = need.module ∧ other.name ∈ [need.name] ↔ other = need := by
      obtain ⟨module, name⟩ := other
      obtain ⟨module', name'⟩ := need
      simp
    rw [NeedsTable.add, holds_extend, keeps.names, Needs.mem_add, same]
  filled := keeps.filled.extend ⟨need.name, List.mem_singleton.mpr rfl⟩

theorem merge (keeps : table.Keeps needs) (too : others.Keeps more) :
    (table.merge others).Keeps (needs ++ more) where
  names need := by rw [holds_merge, keeps.names, too.names, Needs.mem_append]
  filled := keeps.filled.merge too.filled

theorem take (keeps : table.Keeps needs) (module : String) :
    (table.take module).2.Keeps (needs.take module).2 where
  names need := by
    rw [holds_take, keeps.names]
    exact Needs.mem_without.symm
  filled := keeps.filled.take

/-- The row of a module is the set of the names that are needed of it, unless there is none. -/
theorem get?_eq_some (keeps : table.Keeps needs) {module : String} {names : NameSet} :
    table.sets[module]? = some names ↔
      names = needs.namesOf module ∧ ∃ name, name ∈ needs.namesOf module := by
  have row {names : NameSet} (at_ : table.sets[module]? = some names) :
      names = needs.namesOf module := by
    apply NameSet.ext
    intro name
    rw [Needs.mem_namesOf, ← keeps.names]
    exact ⟨fun member => ⟨names, at_, member⟩, fun ⟨_, again, member⟩ => by
      cases at_.symm.trans again
      exact member⟩
  constructor
  · intro at_
    obtain rfl := row at_
    exact ⟨rfl, keeps.filled module _ at_⟩
  · rintro ⟨rfl, name, member⟩
    obtain ⟨names, at_, _⟩ := (keeps.names ⟨module, name⟩).mpr ((Needs.mem_namesOf ..).mp member)
    rw [at_, row at_]

theorem taken_eq (keeps : table.Keeps needs) (module : String) :
    (table.take module).1 = (needs.take module).1 := by
  change table.sets.getD module .empty = needs.namesOf module
  rw [Std.TreeMap.getD_eq_getD_getElem?]
  cases at_ : table.sets[module]? with
  | some names => exact (keeps.get?_eq_some.mp at_).1
  | none =>
    apply NameSet.ext
    intro name
    refine ⟨fun member => absurd member (NameSet.not_mem_empty name), fun member => ?_⟩
    rw [keeps.get?_eq_some.mpr ⟨rfl, name, member⟩] at at_
    cases at_

theorem isEmpty_eq (keeps : table.Keeps needs) : table.isEmpty = needs.isEmpty := by
  rw [Bool.eq_iff_iff, keeps.filled.isEmpty_iff, Needs.isEmpty_iff]
  exact forall_congr' fun need => not_congr (keeps.names need)

end Keeps

end NeedsTable

end SchemaTypings
