import SchemaTypings.Proofs.Lockstep
import SchemaTypings.Proofs.TypeText

/-! Types inside of wrappers. A wrapper goes around each alternative of a type on its own, so in
the text, too, every alternative has all the wrappers around it. No `?` is then written before a
union, of which it would cover the first member only: if unions got parentheses wherever they are
part of something other than an array, the type of a field would have none. -/
namespace SchemaTypings

namespace TypeExpr

inductive Wrapper where
  | array
  | nullable
  deriving DecidableEq, Repr

namespace Wrapper

/-- The type inside of the wrapper, which goes around each member of a union. -/
def around : Wrapper → TypeExpr → TypeExpr
  | array => inArray
  | nullable => orNull

/-- The wrapper around a type as a whole. -/
def whole : Wrapper → TypeExpr → TypeExpr
  | array => TypeExpr.array
  | nullable => TypeExpr.nullable

def write : Wrapper → String → String
  | array, text => "Array<" ++ text ++ ">"
  | nullable, text => "?" ++ text

end Wrapper

/-- The type inside of all the wrappers, of which the first is the innermost. -/
def within (wrappers : List Wrapper) (type : TypeExpr) : TypeExpr :=
  wrappers.foldl (fun type wrapper => wrapper.around type) type

def wholeWithin (wrappers : List Wrapper) (type : TypeExpr) : TypeExpr :=
  wrappers.foldl (fun type wrapper => wrapper.whole type) type

def writeWithin (wrappers : List Wrapper) (text : String) : String :=
  wrappers.foldl (fun text wrapper => wrapper.write text) text

mutual
/-- Nowhere in the type is a union written right after `?` or as a member of a union. -/
def Unambiguous : TypeExpr → Prop
  | array element => element.Unambiguous
  | nullable inner => inner.isUnion = false ∧ inner.Unambiguous
  | union members => UnambiguousMembers members
  | _ => True

def UnambiguousMembers : List TypeExpr → Prop
  | [] => True
  | member :: rest =>
    (member.isUnion = false ∧ member.Unambiguous) ∧ UnambiguousMembers rest
end

/-- The text of a part that has to stay one part. -/
def enclosed (type : TypeExpr) (text : String) : String :=
  if type.isUnion then "(" ++ text ++ ")" else text

mutual
/-- The text with the parentheses that make it mean the type. -/
def grouped : TypeExpr → String
  | array element => "Array<" ++ element.grouped ++ ">"
  | nullable inner => "?" ++ inner.enclosed inner.grouped
  | union members => String.intercalate "|" (groupedMembers members)
  | type => type.render

def groupedMembers : List TypeExpr → List String
  | [] => []
  | member :: rest => member.enclosed member.grouped :: groupedMembers rest
end

theorem unambiguousMembers_iff (members : List TypeExpr) :
    UnambiguousMembers members ↔
      ∀ member ∈ members, member.isUnion = false ∧ member.Unambiguous := by
  induction members with
  | nil => simp [UnambiguousMembers]
  | cons member rest ih => rw [UnambiguousMembers, ih, List.forall_mem_cons]

theorem unambiguous_union (members : List TypeExpr) :
    (union members).Unambiguous ↔
      ∀ member ∈ members, member.isUnion = false ∧ member.Unambiguous := by
  rw [Unambiguous, unambiguousMembers_iff]

section Wrapping

theorem render_eq_alternatives (type : TypeExpr) :
    type.render = String.intercalate "|" (type.alternatives.map render) := by
  cases type with
  | union members => rw [render, renderEach_eq, alternatives]
  | _ => simp [alternatives]

theorem Wrapper.isUnion_whole (wrapper : Wrapper) (type : TypeExpr) :
    (wrapper.whole type).isUnion = false := by
  cases wrapper <;> rfl

theorem Wrapper.render_whole (wrapper : Wrapper) (type : TypeExpr) :
    (wrapper.whole type).render = wrapper.write type.render := by
  cases wrapper <;> rw [whole, render, write]

theorem Wrapper.around_eq (wrapper : Wrapper) (type : TypeExpr) :
    wrapper.around type = wrap wrapper.whole type := by
  cases wrapper <;> rfl

theorem Wrapper.alternatives_around (wrapper : Wrapper) (type : TypeExpr) :
    (wrapper.around type).alternatives = type.alternatives.map wrapper.whole := by
  rw [around_eq]
  cases type with
  | union members => rfl
  | _ => exact alternatives_of_single (wrapper.isUnion_whole _)

theorem Wrapper.unambiguous_whole (wrapper : Wrapper) {type : TypeExpr}
    (single : type.isUnion = false) (safe : type.Unambiguous) :
    (wrapper.whole type).Unambiguous := by
  cases wrapper with
  | array => rwa [whole, Unambiguous]
  | nullable =>
    rw [whole, Unambiguous]
    exact ⟨single, safe⟩

theorem Wrapper.unambiguous_around (wrapper : Wrapper) {type : TypeExpr}
    (safe : type.Unambiguous) : (wrapper.around type).Unambiguous := by
  rw [around_eq]
  cases type with
  | union members =>
    rw [unambiguous_union] at safe
    rw [wrap, unambiguous_union, List.forall_mem_map]
    intro member among
    obtain ⟨single, safe⟩ := safe member among
    exact ⟨wrapper.isUnion_whole _, wrapper.unambiguous_whole single safe⟩
  | _ => exact wrapper.unambiguous_whole rfl safe

theorem render_wholeWithin (wrappers : List Wrapper) (type : TypeExpr) :
    (wholeWithin wrappers type).render = writeWithin wrappers type.render := by
  induction wrappers generalizing type with
  | nil => rfl
  | cons wrapper rest ih =>
    change (wholeWithin rest (wrapper.whole type)).render = _
    rw [ih, wrapper.render_whole]
    rfl

theorem alternatives_within (wrappers : List Wrapper) (type : TypeExpr) :
    (type.within wrappers).alternatives = type.alternatives.map (wholeWithin wrappers) := by
  induction wrappers generalizing type with
  | nil => exact (List.map_id _).symm
  | cons wrapper rest ih =>
    change ((wrapper.around type).within rest).alternatives = _
    rw [ih, wrapper.alternatives_around, List.map_map]
    rfl

theorem render_within (wrappers : List Wrapper) (type : TypeExpr) :
    (type.within wrappers).render =
      String.intercalate "|" (type.alternatives.map fun member =>
        writeWithin wrappers member.render) := by
  rw [render_eq_alternatives, alternatives_within, List.map_map]
  apply congrArg (String.intercalate "|")
  apply List.map_congr_left
  intro member _
  exact render_wholeWithin wrappers member

theorem unambiguous_within (wrappers : List Wrapper) {type : TypeExpr}
    (safe : type.Unambiguous) : (type.within wrappers).Unambiguous := by
  induction wrappers generalizing type with
  | nil => exact safe
  | cons wrapper rest ih => exact ih (wrapper.unambiguous_around safe)

end Wrapping

section Parentheses

mutual
theorem grouped_eq : (type : TypeExpr) → type.Unambiguous → type.grouped = type.render
  | array element, safe => by
    rw [Unambiguous] at safe
    rw [grouped, render, grouped_eq element safe]
  | nullable inner, safe => by
    rw [Unambiguous] at safe
    obtain ⟨single, safe⟩ := safe
    rw [grouped, render, grouped_eq inner safe, enclosed, single]
    rfl
  | union members, safe => by
    rw [Unambiguous] at safe
    rw [grouped, render, groupedMembers_eq members safe]
  | number, _ | string, _ | boolean, _ | any, _ | uint8Array, _ | unknown, _ | named _, _ => rfl

theorem groupedMembers_eq :
    (members : List TypeExpr) → UnambiguousMembers members →
      groupedMembers members = renderEach members
  | [], _ => rfl
  | member :: rest, safe => by
    rw [UnambiguousMembers] at safe
    obtain ⟨⟨single, safe⟩, others⟩ := safe
    rw [groupedMembers, renderEach, grouped_eq member safe, groupedMembers_eq rest others,
      enclosed, single]
    rfl
end

theorem opened_intercalate (texts : List String) :
    occurrences '(' (String.intercalate "|" texts) = occurrences '(' (.join texts) := by
  have bar : occurrences '(' "|" = 0 := rfl
  rw [occurrences_intercalate, bar, Nat.mul_zero, Nat.add_zero]

theorem opened_enclosed (type : TypeExpr) (text : String) :
    occurrences '(' (type.enclosed text) =
      occurrences '(' text + if type.isUnion then 1 else 0 := by
  have opening : occurrences '(' "(" = 1 := rfl
  have closing : occurrences '(' ")" = 0 := rfl
  unfold enclosed
  split
  · rw [occurrences_append, occurrences_append, opening, closing, Nat.add_comm 1, Nat.add_zero]
  · rfl

mutual
/-- The parentheses come on top of those that names have, so that without any the type is one
that needs none. -/
theorem unambiguous_of_opened : (type : TypeExpr) →
    occurrences '(' type.render ≤ occurrences '(' type.grouped ∧
      (occurrences '(' type.grouped = occurrences '(' type.render → type.Unambiguous)
  | array element => by
    obtain ⟨fewer, safe⟩ := unambiguous_of_opened element
    rw [render, grouped, Unambiguous]
    simp only [occurrences_append]
    exact ⟨by omega, fun same => safe (by omega)⟩
  | nullable inner => by
    obtain ⟨fewer, safe⟩ := unambiguous_of_opened inner
    rw [render, grouped, Unambiguous]
    simp only [occurrences_append, opened_enclosed]
    refine ⟨by omega, fun same => ?_⟩
    cases single : inner.isUnion with
    | true =>
      simp only [single, if_true] at same
      omega
    | false => exact ⟨rfl, safe (by simpa [single] using same)⟩
  | union members => by
    rw [render, grouped, Unambiguous, opened_intercalate, opened_intercalate]
    exact unambiguousMembers_of_opened members
  | number | string | boolean | any | uint8Array | unknown | named _ =>
    ⟨Nat.le_refl _, fun _ => trivial⟩

theorem unambiguousMembers_of_opened : (members : List TypeExpr) →
    occurrences '(' (.join (renderEach members)) ≤
        occurrences '(' (.join (groupedMembers members)) ∧
      (occurrences '(' (.join (groupedMembers members)) =
        occurrences '(' (.join (renderEach members)) → UnambiguousMembers members)
  | [] => ⟨Nat.le_refl _, fun _ => trivial⟩
  | member :: rest => by
    obtain ⟨fewer, safe⟩ := unambiguous_of_opened member
    obtain ⟨fewerRest, safeRest⟩ := unambiguousMembers_of_opened rest
    rw [renderEach, groupedMembers, UnambiguousMembers]
    simp only [String.join_cons, occurrences_append, opened_enclosed]
    -- No part loses parentheses, so if there are as many in all, no part gains any.
    refine ⟨by omega, fun same => ?_⟩
    cases single : member.isUnion with
    | true =>
      simp only [single, if_true] at same
      omega
    | false =>
      simp only [single, Bool.false_eq_true, if_false] at same
      exact ⟨⟨rfl, safe (by omega)⟩, safeRest (by omega)⟩
end

theorem unambiguous_iff (type : TypeExpr) : type.Unambiguous ↔ type.grouped = type.render :=
  ⟨grouped_eq type, fun same => (unambiguous_of_opened type).2 (congrArg (occurrences '(') same)⟩

/-- The `?` of a union as a whole has to be written so, which no wrapper makes. -/
example : (nullable (union [string, uint8Array])).grouped = "?(string|Uint8Array)" := by decide

end Parentheses

end TypeExpr

namespace Scope

open TypeExpr

variable {scope : Scope} {view : View} {field : Schema.Field}

theorem fieldType_eq_within (view : View) (field : Schema.Field) (value : TypeExpr) :
    ∃ wrappers, fieldType view field value = value.within wrappers := by
  unfold fieldType
  split
  next => exact ⟨[.array], rfl⟩
  next =>
    split
    next => exact ⟨[.nullable], rfl⟩
    next => exact ⟨[], rfl⟩
  next => exact ⟨[], rfl⟩

theorem unambiguous_valueType {value : Typed} (made : scope.valueType view field = .ok value) :
    value.type.Unambiguous := by
  unfold valueType at made
  cases kind : field.valueType with
  | message typeName =>
    rw [kind] at made
    obtain ⟨site, _, made⟩ := bind_eq_ok.mp made
    cases made
    cases view <;> exact trivial
  | enumeration typeName =>
    rw [kind] at made
    obtain ⟨site, _, made⟩ := bind_eq_ok.mp made
    cases made
    exact trivial
  | integer64 asText =>
    rw [kind] at made
    cases made
    cases asText <;> exact trivial
  | bytes =>
    rw [kind] at made
    cases made
    exact (unambiguous_union _).mpr (by simp [isUnion, Unambiguous])
  | _ =>
    rw [kind] at made
    cases made
    exact trivial

/-- Only what a single value can be is a union, and everything else goes around it. -/
theorem unambiguous_typed {typed : Typed} (made : scope.typed view field = .ok typed) :
    typed.type.Unambiguous := by
  cases map : scope.holdsMap field with
  | true =>
    rw [typed_map map] at made
    obtain ⟨_, _, made⟩ := bind_eq_ok.mp made
    cases made
    exact trivial
  | false =>
    rw [typed_plain map] at made
    obtain ⟨value, single, made⟩ := bind_eq_ok.mp made
    cases made
    obtain ⟨wrappers, same⟩ := fieldType_eq_within view field value.type
    rw [same]
    exact unambiguous_within wrappers (unambiguous_valueType single)

end Scope

/-- Wrappers go around each alternative, in the text as in the type, and leave it unambiguous.
So are the types of all fields: their text means them without any parentheses. -/
theorem wrappers_distribute :
    (∀ (type : TypeExpr) (wrappers : List TypeExpr.Wrapper),
      (type.within wrappers).render =
        String.intercalate "|" (type.alternatives.map fun member =>
          TypeExpr.writeWithin wrappers member.render) ∧
      (type.within wrappers).alternatives.length = type.alternatives.length ∧
      (type.Unambiguous → (type.within wrappers).Unambiguous)) ∧
    (∀ (scope : Scope) view field typed, scope.typed view field = .ok typed →
      typed.type.Unambiguous) ∧
    ∀ type : TypeExpr, type.Unambiguous ↔ type.grouped = type.render := by
  refine ⟨fun type wrappers => ⟨?_, ?_, ?_⟩, ?_, TypeExpr.unambiguous_iff⟩
  · exact TypeExpr.render_within wrappers type
  · rw [TypeExpr.alternatives_within, List.length_map]
  · exact TypeExpr.unambiguous_within wrappers
  · intro scope view field typed made
    exact Scope.unambiguous_typed made

namespace Depot

def labels : Schema.Field := { name := some "labels", labelCode := some 3, typeCode := some 12 }

/-- A list of labels is a list of texts or one of bytes; in more wrappers it still has two
alternatives. -/
theorem labels_distribute :
    ∃ typed, (file.scope index).typed .accessor labels = .ok typed ∧ typed.type.Unambiguous ∧
      typed.type.grouped = "Array<string>|Array<Uint8Array>" ∧
      (typed.type.within [.nullable, .array]).render =
        "Array<?Array<string>>|Array<?Array<Uint8Array>>" := by
  obtain ⟨distribute, ofField, unambiguous⟩ := wrappers_distribute
  have made : (file.scope index).typed .accessor labels =
      .ok ⟨.union [.array .string, .array .uint8Array], {}⟩ := rfl
  have safe := ofField _ _ _ _ made
  refine ⟨_, made, safe, (unambiguous _).mp safe, ?_⟩
  exact (distribute _ [.nullable, .array]).1

end Depot

end SchemaTypings
