import SchemaTypings.Proofs.Coverage

/-! The static members of classes and the types nested in messages belong together one to one. A
class has a member for every declared message and every enumeration directly in its message,
and a walk that starts at the top of a file meets the top messages and, for each message that it
meets, those directly in it, none of them twice. -/
namespace SchemaTypings

open Schema (Message Enumeration)

namespace Placed

/-- The messages directly in the message that a walk goes on to. -/
def inner (keep : Message → Bool) (placed : Placed Message) : List (Placed Message) :=
  (placed.part.nested.filter keep).map fun message => ⟨placed.path, message⟩

def member (placed : Placed Message) : StaticMember :=
  ⟨.message, placed.part.localName, placed.path.flat⟩

def enumMember (placed : Placed Enumeration) : StaticMember :=
  ⟨.enumeration, placed.part.localName, placed.enumPath.flat⟩

theorem statics_eq (placed : Placed Message) :
    placed.part.statics placed.path =
      (placed.inner Message.isDeclared).map (·.member) ++ placed.enums.map (·.enumMember) := by
  unfold Schema.Message.statics inner enums
  rw [List.map_map, List.map_map]
  rfl

end Placed

namespace Schema

private theorem regroup {α : Type} (first second third fourth : List α) :
    ((first ++ second) ++ (third ++ fourth)).Perm (third ++ (first ++ (second ++ fourth))) := by
  rw [← List.append_assoc first second fourth]
  exact List.perm_append_comm_assoc _ _ _

/-- Up to order, a walk meets the given messages and what is directly in those that it meets. -/
theorem walkEach_perm (keep : Message → Bool) (owners : TypePath) (messages : List Message) :
    (walkEach keep owners messages).Perm
      ((messages.filter keep).map (⟨owners, ·⟩) ++
        (walkEach keep owners messages).flatMap (·.inner keep)) := by
  induction messages using forest_induction generalizing owners with
  | nil => exact List.Perm.refl _
  | cons message rest nested others =>
    cases kept : keep message with
    | false =>
      rw [walkEach_cons_passed owners kept, List.filter_cons_of_neg (by simp [kept])]
      exact others owners
    | true =>
      have both := (nested (owners ++ [message.localName])).append (others owners)
      rw [walkEach_cons_kept owners kept, List.filter_cons_of_pos kept, List.flatMap_cons,
        List.flatMap_append]
      exact (both.trans (regroup _ _ _ _)).cons _

/-- The messages in a message that a walk from the top of the file meets are those directly in
one that it meets. -/
theorem File.nested_perm (file : File) :
    (file.declaredMessages.filter (·.owners ≠ [])).Perm
      (file.declaredMessages.flatMap (·.inner Message.isDeclared)) := by
  have top : (((file.messages.filter Message.isDeclared).map fun message =>
      (⟨[], message⟩ : Placed Message)).filter (·.owners ≠ [])) = [] := by
    simp [List.filter_map, Function.comp_def]
  have nested : (file.declaredMessages.flatMap (·.inner Message.isDeclared)).filter
      (·.owners ≠ []) = file.declaredMessages.flatMap (·.inner Message.isDeclared) := by
    apply List.filter_eq_self.mpr
    intro placed member
    obtain ⟨holder, _, inside⟩ := List.mem_flatMap.mp member
    obtain ⟨message, _, rfl⟩ := List.mem_map.mp inside
    simp [Placed.path]
  have walked := (walkEach_perm Message.isDeclared [] file.messages).filter (·.owners ≠ [])
  rw [List.filter_append, top, List.nil_append] at walked
  exact walked.trans (List.Perm.of_eq nested)

end Schema

/-- A class with the message that it is made for. -/
abbrev PlacedClass : Type := Placed Message × ClassDecl

/-- A value map with the enumeration that it is made for. -/
abbrev PlacedMap : Type := Placed Enumeration × ValueMap

/-- Where a member that leads to the value map has to be, and that member. -/
def PlacedMap.link (entry : PlacedMap) : TypePath × StaticMember :=
  (entry.1.owners, ⟨.enumeration, entry.1.part.localName, entry.2.name⟩)

namespace PlacedClass

/-- The static members of one kind, each with the path of the message whose class has it. -/
def members (kind : TypeKind) (entry : PlacedClass) : List (TypePath × StaticMember) :=
  (entry.2.statics.filter (·.kind = kind)).map fun member => (entry.1.path, member)

/-- Where a member that leads to the class has to be, and that member. -/
def link (entry : PlacedClass) : TypePath × StaticMember :=
  (entry.1.owners, ⟨.message, entry.1.part.localName, entry.2.name⟩)

end PlacedClass

def Declaration.class? : Declaration → Option ClassDecl
  | .ofClass decl => some decl
  | _ => none

theorem Piece.classes_declarations (piece : Piece) :
    piece.declarations.filterMap (·.class?) = [piece.classDecl] := by
  simp [declarations, Declaration.class?, List.filterMap_map]

namespace Placed

/-- The class for a message has its name, and the members for the types directly in it. -/
def HasMembers (placed : Placed Message) (decl : ClassDecl) : Prop :=
  decl.name = placed.path.flat ∧
    decl.statics = (placed.inner Message.isDeclared).map (·.member) ++
      placed.enums.map (·.enumMember)

theorem HasMembers.messages {placed : Placed Message} {decl : ClassDecl}
    (has : HasMembers placed decl) :
    PlacedClass.members .message (placed, decl) =
      (placed.inner Message.isDeclared).map fun inner => (inner.owners, inner.member) := by
  unfold PlacedClass.members
  rw [has.2]
  simp [List.filter_map, Function.comp_def, Placed.member, Placed.enumMember, Placed.inner]

theorem HasMembers.enums {placed : Placed Message} {decl : ClassDecl}
    (has : HasMembers placed decl) :
    PlacedClass.members .enumeration (placed, decl) =
      placed.enums.map fun inner => (inner.owners, inner.enumMember) := by
  unfold PlacedClass.members
  rw [has.2]
  simp [List.filter_map, Function.comp_def, Placed.member, Placed.enumMember, Placed.enums]

end Placed

section Pairs

variable {walk : List (Placed Message)} {classes : List ClassDecl}

theorem map_members_targets (kind : TypeKind) (same : walk.length = classes.length) :
    ((walk.zip classes).flatMap (PlacedClass.members kind)).map (·.2.target) =
      ((classes.flatMap (·.statics)).filter (·.kind = kind)).map (·.target) := by
  have second : (walk.zip classes).map (·.2) = classes := List.map_snd_zip (Nat.le_of_eq same.symm)
  conv_rhs => rw [← second]
  rw [List.flatMap_map, List.filter_flatMap, List.map_flatMap, List.map_flatMap]
  simp [PlacedClass.members, Function.comp_def]

theorem flatMap_members (each : List.Forall₂ Placed.HasMembers walk classes) :
    (walk.zip classes).flatMap (PlacedClass.members .message) =
      (walk.flatMap (·.inner Message.isDeclared)).map (fun inner => (inner.owners, inner.member)) ∧
    (walk.zip classes).flatMap (PlacedClass.members .enumeration) =
      (walk.flatMap (·.enums)).map (fun inner => (inner.owners, inner.enumMember)) := by
  induction each with
  | nil => exact ⟨rfl, rfl⟩
  | cons has _ ih =>
    simp only [List.zip_cons_cons, List.flatMap_cons, List.map_append, has.messages, has.enums,
      ih.1, ih.2, and_self]

theorem map_link (each : List.Forall₂ Placed.HasMembers walk classes) :
    ((walk.zip classes).filter (·.1.owners ≠ [])).map PlacedClass.link =
      (walk.filter (·.owners ≠ [])).map (fun inner => (inner.owners, inner.member)) := by
  induction each with
  | nil => rfl
  | @cons placed decl walk classes has _ ih =>
    have link : PlacedClass.link (placed, decl) = (placed.owners, placed.member) := by
      rw [PlacedClass.link, has.1]
      rfl
    rw [List.zip_cons_cons, List.filter_cons, List.filter_cons]
    dsimp only
    split
    · rw [List.map_cons, List.map_cons, link, ih]
    · exact ih

end Pairs

namespace Typings

def classes (typings : Typings) : List ClassDecl := typings.declarations.filterMap (·.class?)

/-- The value maps that are reached through a class. -/
def ownedMaps (typings : Typings) : List ValueMap :=
  (typings.outline.filterMap (·.values?)).filter (·.visibility = .owned)

def targets (kind : TypeKind) (typings : Typings) : List String :=
  ((typings.classes.flatMap (·.statics)).filter (·.kind = kind)).map (·.target)

variable {index : TypeIndex} {file : Schema.File} {typings : Typings}

theorem classes_eq_map {pieces : List Piece} {maps : List ValueMap}
    (made : typings.declarations = pieces.flatMap (·.declarations) ++ maps.map .ofValues) :
    typings.classes = pieces.map (·.classDecl) := by
  unfold classes
  rw [made, List.filterMap_append, List.filterMap_flatMap, List.filterMap_map]
  simp only [Piece.classes_declarations]
  simp [Declaration.class?, List.map_eq_flatMap]

theorem ownedMaps_eq (made : Typings.ofFile index file = .ok typings) :
    typings.ownedMaps =
      (file.visibleMessages.flatMap (·.enums)).map (·.declared .owned) := by
  have top : (file.topEnums.map (·.declared .exported)).filter (·.visibility = .owned) = [] := by
    simp [Placed.declared, Schema.Enumeration.declared]
  have nested : ((file.visibleMessages.flatMap (·.enums)).map (·.declared .owned)).filter
      (·.visibility = .owned) =
        (file.visibleMessages.flatMap (·.enums)).map (·.declared .owned) := by
    simp [List.filter_map, Function.comp_def, Placed.declared, Schema.Enumeration.declared]
  unfold ownedMaps
  rw [outline_eq made, file.values_outline, List.filter_append, top, List.append_nil,
    ← List.map_flatMap, nested]

theorem classes_haveMembers (made : Typings.ofFile index file = .ok typings) :
    List.Forall₂ Placed.HasMembers file.visibleMessages typings.classes := by
  obtain ⟨pieces, maps, each, _, declarations⟩ := pieces_of_file made
  rw [classes_eq_map declarations, file.visibleMessages_eq, List.forall₂_map_right_iff]
  apply each.imp
  intro placed piece makes
  exact ⟨makes.className, makes.statics.trans placed.statics_eq⟩

/-- Each class has the members for the types directly in its message, messages first. All members
together lead to all nested types that are declared, each exactly once: to the classes that are
not for messages at the top, and to the value maps that cannot be imported. -/
theorem statics_match_nested (made : Typings.ofFile index file = .ok typings) :
    let nestedEnums := file.visibleMessages.flatMap (·.enums)
    let classes : List PlacedClass := file.visibleMessages.zip typings.classes
    let maps : List PlacedMap := nestedEnums.zip typings.ownedMaps
    List.Forall₂ Placed.HasMembers file.visibleMessages typings.classes ∧
    typings.ownedMaps = nestedEnums.map (·.declared .owned) ∧
    (classes.flatMap (·.members .message)).Perm
      ((classes.filter (·.1.owners ≠ [])).map (·.link)) ∧
    (classes.flatMap (·.members .enumeration)).Perm (maps.map (·.link)) ∧
    (typings.targets .message).Perm ((classes.filter (·.1.owners ≠ [])).map (·.2.name)) ∧
    (typings.targets .enumeration).Perm (typings.ownedMaps.map (·.name)) := by
  intro nestedEnums classes maps
  have each := classes_haveMembers made
  have owned := ownedMaps_eq made
  obtain ⟨messages, enums⟩ := flatMap_members each
  have targets (kind : TypeKind) :
      (classes.flatMap (·.members kind)).map (·.2.target) = typings.targets kind :=
    map_members_targets kind each.length_eq
  have classLinks : (classes.flatMap (·.members .message)).Perm
      ((classes.filter (·.1.owners ≠ [])).map (·.link)) := by
    rw [messages, map_link each, file.visibleMessages_eq]
    exact file.nested_perm.symm.map _
  have paired : maps = nestedEnums.map fun placed => (placed, placed.declared .owned) := by
    unfold maps
    rw [owned, ← List.map_prod_left_eq_zip]
  have mapLinks : classes.flatMap (·.members .enumeration) = maps.map (·.link) := by
    rw [enums, paired, List.map_map]
    rfl
  refine ⟨each, owned, classLinks, List.Perm.of_eq mapLinks, ?_, ?_⟩
  · rw [← targets]
    simpa [PlacedClass.link, Function.comp_def] using classLinks.map (·.2.target)
  · rw [← targets, mapLinks, paired, owned, List.map_map, List.map_map, List.map_map]
    exact List.Perm.refl _

end Typings

namespace Depot

/-- Of what is nested in `Stock`, the class leads to the shelves and to the units, but not to
the entry of the map. -/
theorem stock_members :
    ∃ typings, Typings.ofFile index file = .ok typings ∧
      (typings.targets .message).Perm ["Stock$Shelf"] ∧
      (typings.targets .enumeration).Perm ["Stock$Unit"] ∧
      typings.ownedMaps.map (·.name) = ["Stock$Unit"] := by
  obtain ⟨typings, made⟩ : ∃ typings, Typings.ofFile index file = .ok typings :=
    exists_value (by decide +kernel)
  obtain ⟨each, owned, _, _, messages, enums⟩ := Typings.statics_match_nested made
  have classNames := congrArg (List.map (·.2.target)) (map_link each)
  have nested : ((file.visibleMessages.filter (·.owners ≠ [])).map fun inner =>
      (inner.owners, inner.member)).map (·.2.target) = ["Stock$Shelf"] := by decide +kernel
  have mapNames : typings.ownedMaps.map (·.name) = ["Stock$Unit"] := by
    rw [owned]
    decide +kernel
  rw [nested, List.map_map] at classNames
  refine ⟨typings, made, ?_, ?_, mapNames⟩
  · rwa [← classNames]
  · rwa [← mapNames]

end Depot

end SchemaTypings
