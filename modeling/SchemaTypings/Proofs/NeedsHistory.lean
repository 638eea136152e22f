import SchemaTypings.Proofs.Imports
import SchemaTypings.Proofs.NeedsByModule

/-! Needs after any history. A history is a row of steps, where what is merged has a history of its
own. A name is needed of a module if a step gave it and the module has not been taken since, so
between two takings neither the order of the steps counts nor how often each is made. -/
namespace SchemaTypings

namespace Needs

inductive Step where
  | add (need : Need)
  | merge (steps : List Step)
  | take (module : String)

mutual
def Step.apply : Step → Needs → Needs
  | .add need, needs => needs.add need
  | .merge steps, needs => needs ++ run steps .empty
  | .take module, needs => (needs.take module).2

def run : List Step → Needs → Needs
  | [], needs => needs
  | step :: rest, needs => run rest (step.apply needs)
end

def ofSteps (steps : List Step) : Needs := run steps .empty

mutual
/-- The step makes the needs have this one. -/
inductive Step.Gives (need : Need) : Step → Prop
  | add : Step.Gives need (.add need)
  | merge (steps : List Step) (needed : NeededAfter need steps) : Step.Gives need (.merge steps)

/-- A step gave the need, and its module has not been taken since. -/
inductive NeededAfter (need : Need) : List Step → Prop
  | since (earlier : List Step) (step : Step) (later : List Step) (gives : step.Gives need)
      (kept : .take need.module ∉ later) : NeededAfter need (earlier ++ step :: later)
end

/-- What the takings of a history give, one after the other. -/
def taken : List Step → Needs → List NameSet
  | [], _ => []
  | step :: rest, needs =>
    match step with
    | .take module => (needs.take module).1 :: taken rest (step.apply needs)
    | _ => taken rest (step.apply needs)

/-- The takings are the same, and between them the same is added and merged, in whatever order and
however often, also in the histories of what is merged. -/
inductive Rearranged : List Step → List Step → Prop
  | given (steps others : List Step) (untaken : ∀ module, .take module ∉ steps)
      (same : ∀ step, step ∈ steps ↔ step ∈ others) : Rearranged steps others
  | merge (steps others : List Step) (inside : Rearranged steps others) :
    Rearranged [.merge steps] [.merge others]
  | take (module : String) : Rearranged [.take module] [.take module]
  | append (steps others more further : List Step) (first : Rearranged steps others)
      (second : Rearranged more further) : Rearranged (steps ++ more) (others ++ further)
  | trans (steps others further : List Step) (first : Rearranged steps others)
      (second : Rearranged others further) : Rearranged steps further

section History

variable {need : Need} {step : Step} {rest steps : List Step}

theorem neededAfter_iff :
    NeededAfter need steps ↔ ∃ earlier step later, steps = earlier ++ step :: later ∧
      step.Gives need ∧ .take need.module ∉ later := by
  constructor
  · rintro ⟨earlier, step, later, gives, kept⟩
    exact ⟨earlier, step, later, rfl, gives, kept⟩
  · rintro ⟨earlier, step, later, rfl, gives, kept⟩
    exact .since earlier step later gives kept

theorem not_neededAfter_nil : ¬ NeededAfter need [] := by
  intro needed
  obtain ⟨_, _, _, split, _⟩ := neededAfter_iff.mp needed
  simp at split

theorem neededAfter_cons :
    NeededAfter need (step :: rest) ↔
      NeededAfter need rest ∨ step.Gives need ∧ .take need.module ∉ rest := by
  constructor
  · intro needed
    obtain ⟨earlier, given, later, split, gives, kept⟩ := neededAfter_iff.mp needed
    obtain ⟨rfl, same⟩ | ⟨before, rfl, rfl⟩ := List.cons_eq_append_iff.mp split
    · cases same
      exact .inr ⟨gives, kept⟩
    · exact .inl (.since before given later gives kept)
  · rintro (⟨earlier, given, later, gives, kept⟩ | ⟨gives, kept⟩)
    · exact .since (step :: earlier) given later gives kept
    · exact .since [] step rest gives kept

theorem gives_add {other : Need} : (Step.add other).Gives need ↔ need = other := by
  constructor
  · intro gives
    cases gives
    rfl
  · rintro rfl
    exact .add

theorem gives_merge : (Step.merge steps).Gives need ↔ NeededAfter need steps := by
  constructor
  · intro gives
    cases gives
    assumption
  · exact .merge steps

theorem not_gives_take {module : String} : ¬ (Step.take module).Gives need := nofun

theorem not_mem_empty (need : Need) : need ∉ Needs.empty.toList := List.not_mem_nil

end History

mutual
/-- What a step gives is there after it, and what was there before it stays unless it is taken. -/
theorem Step.mem_apply : (step : Step) → (needs : Needs) → (need : Need) →
    (need ∈ (step.apply needs).toList ↔
      step.Gives need ∨ need ∈ needs.toList ∧ .take need.module ≠ step)
  | .add other, needs, need => by
    rw [Step.apply, mem_add, gives_add]
    simp
  | .merge steps, needs, need => by
    rw [Step.apply, mem_append, mem_run steps .empty need, gives_merge, or_comm]
    simp [not_mem_empty]
  | .take module, needs, need => by
    change need ∈ (needs.without module).toList ↔ _
    rw [mem_without]
    simp [not_gives_take]

theorem mem_run : (steps : List Step) → (needs : Needs) → (need : Need) →
    (need ∈ (run steps needs).toList ↔
      NeededAfter need steps ∨ need ∈ needs.toList ∧ .take need.module ∉ steps)
  | [], needs, need => by
    simp [run, not_neededAfter_nil]
  | step :: rest, needs, need => by
    rw [run, mem_run rest, step.mem_apply, neededAfter_cons, List.mem_cons, not_or, or_and_right,
      and_assoc, or_assoc]
end

theorem mem_ofSteps {steps : List Step} {need : Need} :
    need ∈ (ofSteps steps).toList ↔ NeededAfter need steps := by
  unfold ofSteps
  rw [mem_run]
  simp [not_mem_empty]

/-- Nothing is needed once everything that was given has been taken since. -/
theorem isEmpty_ofSteps {steps : List Step} :
    (ofSteps steps).isEmpty = true ↔
      ∀ earlier step later need, steps = earlier ++ step :: later → step.Gives need →
        .take need.module ∈ later := by
  rw [isEmpty_iff]
  constructor
  · intro none earlier step later need split gives
    by_contra kept
    exact none need (mem_ofSteps.mpr (neededAfter_iff.mpr ⟨_, _, _, split, gives, kept⟩))
  · intro taken need member
    obtain ⟨earlier, step, later, split, gives, kept⟩ :=
      neededAfter_iff.mp (mem_ofSteps.mp member)
    exact kept (taken earlier step later need split gives)

section Rearranging

/-- The same is needed of every module. -/
def Alike (needs others : Needs) : Prop := ∀ need, need ∈ needs.toList ↔ need ∈ others.toList

variable {needs others : Needs} {steps again : List Step}

theorem Alike.refl (needs : Needs) : needs.Alike needs := fun _ => Iff.rfl

theorem Alike.namesOf_eq (alike : needs.Alike others) (module : String) :
    needs.namesOf module = others.namesOf module := by
  apply NameSet.ext
  intro name
  rw [mem_namesOf, mem_namesOf]
  exact alike _

theorem Alike.isEmpty_eq (alike : needs.Alike others) : needs.isEmpty = others.isEmpty := by
  rw [Bool.eq_iff_iff, isEmpty_iff, isEmpty_iff]
  exact forall_congr' fun need => not_congr (alike need)

theorem run_append (first second : List Step) (needs : Needs) :
    run (first ++ second) needs = run second (run first needs) := by
  induction first generalizing needs with
  | nil => rfl
  | cons step rest ih => exact ih _

theorem taken_append (first second : List Step) (needs : Needs) :
    taken (first ++ second) needs = taken first needs ++ taken second (run first needs) := by
  induction first generalizing needs with
  | nil => rfl
  | cons step rest ih =>
    cases step with
    | take module => exact congrArg (_ :: ·) (ih _)
    | _ => exact ih _

theorem taken_of_untaken (untaken : ∀ module, .take module ∉ steps) (needs : Needs) :
    taken steps needs = [] := by
  induction steps generalizing needs with
  | nil => rfl
  | cons step rest ih =>
    have others := ih fun module member => untaken module (List.mem_cons_of_mem _ member)
    cases step with
    | take module => exact absurd List.mem_cons_self (untaken module)
    | _ => exact others _

/-- Where nothing is taken, a need is given by any step or none. -/
theorem neededAfter_of_untaken (untaken : ∀ module, .take module ∉ steps) {need : Need} :
    NeededAfter need steps ↔ ∃ step ∈ steps, step.Gives need := by
  constructor
  · rintro ⟨earlier, step, later, gives, _⟩
    exact ⟨step, List.mem_append_right _ List.mem_cons_self, gives⟩
  · rintro ⟨step, member, gives⟩
    obtain ⟨earlier, later, rfl⟩ := List.append_of_mem member
    refine .since earlier step later gives fun taken => untaken need.module ?_
    exact List.mem_append_right _ (List.mem_cons_of_mem _ taken)

theorem Rearranged.refl (steps : List Step) : Rearranged steps steps := by
  induction steps with
  | nil => exact .given [] [] (fun _ => List.not_mem_nil) fun _ => Iff.rfl
  | cons step rest ih =>
    have alone : Rearranged [step] [step] := by
      cases step with
      | take module => exact .take module
      | _ => exact .given _ _ (by simp) fun _ => Iff.rfl
    exact .append _ _ _ _ alone ih

theorem Rearranged.alike_run (rearranged : Rearranged steps again) (alike : needs.Alike others) :
    (run steps needs).Alike (run again others) ∧ taken steps needs = taken again others := by
  induction rearranged generalizing needs others with
  | given steps again untaken same =>
    have untakenToo : ∀ module, .take module ∉ again := fun module member =>
      untaken module ((same _).mpr member)
    constructor
    · intro need
      rw [mem_run, mem_run, neededAfter_of_untaken untaken, neededAfter_of_untaken untakenToo,
        alike need]
      simp only [same]
    · rw [taken_of_untaken untaken, taken_of_untaken untakenToo]
  | merge steps again _ ih =>
    -- What is merged starts with nothing on both sides, whatever is there before the step.
    refine ⟨fun need => ?_, rfl⟩
    change need ∈ (needs ++ run steps .empty).toList ↔ need ∈ (others ++ run again .empty).toList
    rw [mem_append, mem_append, alike need, (ih (.refl _)).1 need]
  | take module =>
    constructor
    · intro need
      change need ∈ (needs.without module).toList ↔ need ∈ (others.without module).toList
      rw [mem_without, mem_without, alike need]
    · exact congrArg (List.cons · []) (alike.namesOf_eq module)
  | append steps again more further _ _ ih ihMore =>
    obtain ⟨first, same⟩ := ih alike
    obtain ⟨second, sameMore⟩ := ihMore first
    rw [run_append, run_append, taken_append, taken_append, same, sameMore]
    exact ⟨second, rfl⟩
  | trans steps again further _ _ ih ihMore =>
    obtain ⟨first, same⟩ := ih (.refl _)
    obtain ⟨second, sameMore⟩ := ihMore alike
    exact ⟨fun need => (first need).trans (second need), same.trans sameMore⟩

end Rearranging

end Needs

namespace NeedsTable

open Needs (Step)

mutual
def applyStep : Step → NeedsTable → NeedsTable
  | .add need, table => table.add need
  | .merge steps, table => table.merge (run steps {})
  | .take module, table => (table.take module).2

def run : List Step → NeedsTable → NeedsTable
  | [], table => table
  | step :: rest, table => run rest (applyStep step table)
end

mutual
theorem Keeps.applyStep : (step : Step) → {table : NeedsTable} → {needs : Needs} →
    table.Keeps needs → (NeedsTable.applyStep step table).Keeps (step.apply needs)
  | .add need, _, _, keeps => keeps.add need
  | .merge steps, _, _, keeps => keeps.merge (Keeps.run steps .empty)
  | .take module, _, _, keeps => keeps.take module

/-- The table and the needs keep the same names, step by step. -/
theorem Keeps.run : (steps : List Step) → {table : NeedsTable} → {needs : Needs} →
    table.Keeps needs → (NeedsTable.run steps table).Keeps (Needs.run steps needs)
  | [], _, _, keeps => keeps
  | step :: rest, _, _, keeps => Keeps.run rest (Keeps.applyStep step keeps)
end

def ofSteps (steps : List Step) : NeedsTable := run steps {}

end NeedsTable

namespace Needs

theorem namesOf_without (module other : String) (needs : Needs) :
    (needs.without module).namesOf other =
      if other = module then .empty else needs.namesOf other := by
  apply NameSet.ext
  intro name
  rw [mem_namesOf, mem_without]
  split
  next same => simp [same, NameSet.not_mem_empty]
  next differ => simp [mem_namesOf, differ]

/-- The names that can be taken of a module are those that were given since it was last taken, in
the order of their bytes. A table by module has them as a row, and no row without names, so it has
a row as long as something is left. The order between two takings does not count. -/
theorem names_since_taken :
    (∀ steps module,
      (∀ name, name ∈ ((ofSteps steps).take module).1.toList ↔ NeededAfter ⟨module, name⟩ steps) ∧
      ((ofSteps steps).take module).1.toList.Nodup ∧
      (((ofSteps steps).take module).1.toList.Pairwise fun first second =>
        first.toUTF8.data.toList < second.toUTF8.data.toList) ∧
      ∀ other, ((ofSteps steps).take module).2.namesOf other =
        if other = module then .empty else (ofSteps steps).namesOf other) ∧
    (∀ steps,
      (∀ module names, (NeedsTable.ofSteps steps).sets[module]? = some names ↔
        names = (ofSteps steps).namesOf module ∧ ∃ name, name ∈ (ofSteps steps).namesOf module) ∧
      (∀ module, ((NeedsTable.ofSteps steps).take module).1 = ((ofSteps steps).take module).1) ∧
      (NeedsTable.ofSteps steps).isEmpty = (ofSteps steps).isEmpty) ∧
    (∀ steps, (ofSteps steps).isEmpty = true ↔
      ∀ earlier step later need, steps = earlier ++ step :: later → step.Gives need →
        .take need.module ∈ later) ∧
    ∀ steps others, Rearranged steps others →
      taken steps .empty = taken others .empty ∧
      (∀ module, (ofSteps steps).namesOf module = (ofSteps others).namesOf module) ∧
      (ofSteps steps).isEmpty = (ofSteps others).isEmpty := by
  refine ⟨fun steps module => ⟨?_, ?_, ?_, ?_⟩, fun steps => ?_, fun _ => isEmpty_ofSteps, ?_⟩
  · intro name
    rw [← mem_ofSteps]
    exact mem_namesOf module name (ofSteps steps)
  · exact ((ofSteps steps).namesOf module).ascending.imp String.ne_of_lt
  · exact NameSet.bytes_ascending _
  · intro other
    exact namesOf_without module other (ofSteps steps)
  · have keeps : (NeedsTable.ofSteps steps).Keeps (ofSteps steps) := .run steps .empty
    exact ⟨fun _ _ => keeps.get?_eq_some, keeps.taken_eq, keeps.isEmpty_eq⟩
  · intro steps others rearranged
    obtain ⟨alike, same⟩ := rearranged.alike_run (.refl .empty)
    exact ⟨same, alike.namesOf_eq, alike.isEmpty_eq⟩

end Needs

namespace Shop

open Needs

/-- Needs that are gathered on their own before they are merged. -/
def label : Step :=
  .merge [.add ⟨"shop_item_pb", "Item$PriceObj"⟩, .add ⟨"shop_unit_pb", "UnitType"⟩,
    .take "shop_unit_pb"]

def item : Step := .add ⟨"shop_item_pb", "ItemObj"⟩

/-- The first taking gives both names, also if they were given the other way round and one of them
twice; after it one of them is given again, and so it is left. -/
theorem label_since_taken :
    taken [item, label, .take "shop_item_pb", item] .empty =
        [.ofList ["ItemObj", "Item$PriceObj"]] ∧
      taken [label, item, label, .take "shop_item_pb", item] .empty =
        taken [item, label, .take "shop_item_pb", item] .empty ∧
      NeededAfter ⟨"shop_item_pb", "ItemObj"⟩ [item, label, .take "shop_item_pb", item] ∧
      ¬ NeededAfter ⟨"shop_item_pb", "Item$PriceObj"⟩ [item, label, .take "shop_item_pb", item] ∧
      (ofSteps [item, label, .take "shop_item_pb", item, .take "shop_item_pb"]).isEmpty = true := by
  obtain ⟨known, _, _, order⟩ := names_since_taken
  have rest (name : String) :=
    (known [item, label, .take "shop_item_pb", item] "shop_item_pb").1 name
  have given : Rearranged [label, item, label] [item, label] :=
    .given _ _ (by simp [label, item]) (by simp)
  have all := order _ _ (.append _ _ _ _ given (.refl [.take "shop_item_pb", item]))
  refine ⟨by decide +kernel, all.1, (rest _).mp (by decide +kernel), ?_, by decide +kernel⟩
  exact fun needed => absurd ((rest _).mpr needed) (by decide +kernel)

end Shop

end SchemaTypings
