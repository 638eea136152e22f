import Mathlib.Data.List.Forall2
import SchemaTypings.Fault

/-! Runs that end at the first fault. A success is taken apart into the successes that it
is made of. A failure is told by the list of all faults that lie on the way of the run: it
succeeds if there are none, and otherwise the first one is its result. The list for a
sequence of runs is the concatenation of their lists. -/
namespace SchemaTypings

theorem exists_value {α : Type} {run : Except Fault α} (succeeds : run.isOk = true) :
    ∃ value, run = .ok value := by
  cases run with
  | ok value => exact ⟨value, rfl⟩
  | error fault => cases succeeds

theorem bind_eq_ok {α β : Type} {run : Except Fault α} {next : α → Except Fault β} {result : β} :
    run >>= next = .ok result ↔ ∃ value, run = .ok value ∧ next value = .ok result := by
  cases run with
  | error fault => simp [bind, Except.bind]
  | ok value => simp [bind, Except.bind]

theorem bind_ok_eq_error {α β : Type} {run : Except Fault α} {next : α → β} {fault : Fault} :
    (run >>= fun value => .ok (next value)) = .error fault ↔ run = .error fault := by
  cases run with
  | error other => simp [bind, Except.bind]
  | ok value => simp [bind, Except.bind]

theorem mapM_eq_ok {α β : Type} {step : α → Except Fault β} {items : List α} {results : List β} :
    items.mapM step = .ok results ↔
      List.Forall₂ (fun item result => step item = .ok result) items results := by
  induction items generalizing results with
  | nil => cases results <;> simp [pure, Except.pure]
  | cons item rest ih =>
    rw [List.mapM_cons, bind_eq_ok]
    constructor
    · rintro ⟨first, one, run⟩
      obtain ⟨others, many, done⟩ := bind_eq_ok.mp run
      cases done
      exact .cons one (ih.mp many)
    · rintro (_ | ⟨one, many⟩)
      exact ⟨_, one, bind_eq_ok.mpr ⟨_, ih.mpr many, rfl⟩⟩

theorem exists_results {α β : Type} {step : α → Except Fault β} {items : List α}
    (each : ∀ item ∈ items, ∃ result, step item = .ok result) :
    ∃ results, items.mapM step = .ok results := by
  induction items with
  | nil => exact ⟨[], rfl⟩
  | cons item rest ih =>
    obtain ⟨result, one⟩ := each item List.mem_cons_self
    obtain ⟨results, many⟩ := ih fun other member => each other (List.mem_cons_of_mem _ member)
    rw [List.mapM_cons, one, many]
    exact ⟨_, rfl⟩

theorem exists_result {α β : Type} {related : α → β → Prop} {items : List α} {results : List β}
    (each : List.Forall₂ related items results) {item : α} (member : item ∈ items) :
    ∃ result ∈ results, related item result := by
  induction each with
  | nil => contradiction
  | @cons first result rest results one _ ih =>
    rcases List.mem_cons.mp member with same | later
    · exact ⟨result, List.mem_cons_self, same ▸ one⟩
    · obtain ⟨found, inside, holds⟩ := ih later
      exact ⟨found, List.mem_cons_of_mem _ inside, holds⟩

theorem exists_result_at {α β : Type} {related : α → β → Prop} {items : List α} {results : List β}
    (each : List.Forall₂ related items results) {i : Nat} {item : α}
    (at_ : items[i]? = some item) : ∃ result, results[i]? = some result ∧ related item result := by
  induction each generalizing i with
  | nil => cases at_
  | @cons first result rest results one _ ih =>
    cases i with
    | zero =>
      cases at_
      exact ⟨result, rfl, one⟩
    | succ i => exact ih at_

theorem exists_mem_iff {α β : Type} {related : α → β → Prop} {items : List α} {results : List β}
    (each : List.Forall₂ related items results) {given : α → Prop} {found : β → Prop}
    (same : ∀ item result, related item result → (found result ↔ given item)) :
    (∃ result ∈ results, found result) ↔ ∃ item ∈ items, given item := by
  induction each with
  | nil => simp
  | @cons first result rest results one _ ih => simp [same first result one, ih]

/-- The faults on the way of `run`, of which it reports the first. -/
def Reports {α : Type} (run : Except Fault α) (faults : List Fault) : Prop :=
  match run with
  | .ok _ => faults = []
  | .error fault => faults.head? = some fault

namespace Reports

variable {α β : Type} {run : Except Fault α} {faults : List Fault}

theorem ok (value : α) : Reports (.ok value) [] := rfl

theorem error (fault : Fault) (more : List Fault) :
    Reports (.error fault : Except Fault α) (fault :: more) := rfl

theorem eq_nil (reports : Reports run faults) {value : α} (success : run = .ok value) :
    faults = [] := by
  subst success
  exact reports

theorem exists_ok (reports : Reports run []) : ∃ value, run = .ok value := by
  cases run with
  | ok value => exact ⟨value, rfl⟩
  | error fault => exact absurd reports (by simp [Reports])

theorem bind {next : α → Except Fault β} {more : List Fault} (reports : Reports run faults)
    (then_ : ∀ value, run = .ok value → Reports (next value) more) :
    Reports (run >>= next) (faults ++ more) := by
  cases run with
  | ok value =>
    have none : faults = [] := reports
    rw [none]
    exact then_ value rfl
  | error fault =>
    have first : faults.head? = some fault := reports
    change (faults ++ more).head? = some fault
    rw [List.head?_append, first, Option.some_or]

/-- What comes after the last run and cannot fail does not matter. -/
theorem bind_ok {next : α → Except Fault β} (reports : Reports run faults)
    (succeeds : ∀ value, run = .ok value → ∃ result, next value = .ok result) :
    Reports (run >>= next) faults := by
  have rest (value : α) (success : run = .ok value) : Reports (next value) [] := by
    obtain ⟨result, done⟩ := succeeds value success
    rw [done]
    exact Reports.ok result
  have both := reports.bind rest
  rwa [List.append_nil] at both

theorem forM {items : List α} {step : α → Except Fault Unit} {faults : α → List Fault}
    (reports : ∀ item ∈ items, Reports (step item) (faults item)) :
    Reports (items.forM step) (items.flatMap faults) := by
  induction items with
  | nil => exact Reports.ok ()
  | cons item rest ih =>
    rw [List.flatMap_cons]
    have tail := ih fun other member => reports other (List.mem_cons_of_mem _ member)
    exact (reports item List.mem_cons_self).bind fun _ _ => tail

theorem mapM {items : List α} {step : α → Except Fault β} {faults : α → List Fault}
    (reports : ∀ item ∈ items, Reports (step item) (faults item)) :
    Reports (items.mapM step) (items.flatMap faults) := by
  induction items with
  | nil => exact Reports.ok []
  | cons item rest ih =>
    rw [List.mapM_cons, List.flatMap_cons]
    have tail := ih fun other member => reports other (List.mem_cons_of_mem _ member)
    exact (reports item List.mem_cons_self).bind fun _ _ => tail.bind_ok fun _ _ => ⟨_, rfl⟩

end Reports

end SchemaTypings
