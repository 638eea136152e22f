import SchemaTypings.NameSet

/-! What declarations need of other modules: names of types, each with its module. The
needs of one module can be taken out as a set; those of the others stay. -/
namespace SchemaTypings

structure Need where
  module : String
  name : String
  deriving DecidableEq, Repr

/-- Needs in the order in which they arose, repetitions included. -/
structure Needs where
  toList : List Need := []
  deriving DecidableEq, Repr

namespace Needs

def empty : Needs := {}

def add (need : Need) (needs : Needs) : Needs := ⟨needs.toList ++ [need]⟩

def ofList (needs : List Need) : Needs := needs.foldl (fun all need => all.add need) empty

instance : Append Needs := ⟨fun needs more => ⟨needs.toList ++ more.toList⟩⟩

def isEmpty (needs : Needs) : Bool := needs.toList.isEmpty

/-- The names that are needed of `module`. -/
def namesOf (module : String) (needs : Needs) : NameSet :=
  .ofList ((needs.toList.filter (·.module == module)).map (·.name))

def without (module : String) (needs : Needs) : Needs :=
  ⟨needs.toList.filter (·.module != module)⟩

/-- The names that are needed of `module`, and the needs that stay. -/
def take (module : String) (needs : Needs) : NameSet × Needs :=
  (needs.namesOf module, needs.without module)

section Members

variable {module : String} {need other : Need} {needs more : Needs}

theorem mem_add : other ∈ (needs.add need).toList ↔ other = need ∨ other ∈ needs.toList := by
  change other ∈ needs.toList ++ [need] ↔ _
  rw [List.mem_append, List.mem_singleton, or_comm]

theorem mem_append : need ∈ (needs ++ more).toList ↔ need ∈ needs.toList ∨ need ∈ more.toList :=
  List.mem_append

theorem mem_without :
    need ∈ (needs.without module).toList ↔ need ∈ needs.toList ∧ need.module ≠ module := by
  simp [without]

theorem isEmpty_iff : needs.isEmpty = true ↔ ∀ need, need ∉ needs.toList := by
  rw [isEmpty, List.isEmpty_iff, List.eq_nil_iff_forall_not_mem]

theorem mem_namesOf (module name : String) (needs : Needs) :
    name ∈ needs.namesOf module ↔ ⟨module, name⟩ ∈ needs.toList := by
  unfold namesOf
  rw [NameSet.mem_ofList]
  constructor
  · intro member
    obtain ⟨need, kept, rfl⟩ := List.mem_map.mp member
    obtain ⟨known, same⟩ := List.mem_filter.mp kept
    cases eq_of_beq same
    exact known
  · intro member
    exact List.mem_map.mpr ⟨_, List.mem_filter.mpr ⟨member, beq_self_eq_true _⟩, rfl⟩

end Members

end Needs

end SchemaTypings
