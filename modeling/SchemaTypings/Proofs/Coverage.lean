import SchemaTypings.Proofs.HiddenTypes
import SchemaTypings.Proofs.Lockstep

/-! The declarations of a file cover its types, each exactly once: a class and a shape for every
message that is not hidden, a value map for every such enumeration, in the order of the tree.
An outline of the declarations follows the tree by recursion. It is the same as the outlines of
the single messages on the walk, one after the other, and those are what the pieces have. -/
namespace SchemaTypings

open Schema (Message Enumeration)

/-- A declaration less what the fields of a message put into it. -/
inductive Outline where
  | ofClass (name : String) (statics : List StaticMember)
  | ofShape (name : String)
  | ofValues (map : ValueMap)

namespace Outline

def class? : Outline → Option String
  | ofClass name _ => some name
  | _ => none

def shape? : Outline → Option String
  | ofShape name => some name
  | _ => none

def values? : Outline → Option ValueMap
  | ofValues map => some map
  | _ => none

end Outline

def Declaration.outline : Declaration → Outline
  | .ofClass decl => .ofClass decl.name decl.statics
  | .ofShape decl => .ofShape decl.name
  | .ofValues map => .ofValues map

def Typings.outline (typings : Typings) : List Outline := typings.declarations.map (·.outline)

namespace Schema

def Enumeration.declared (visibility : Visibility) (owners : TypePath)
    (enumeration : Enumeration) : ValueMap where
  name := (owners ++ [enumeration.localName] : TypePath).flat
  visibility := visibility
  entries := enumeration.values.map fun value => ⟨value.name.getD "", value.number.getD 0⟩

mutual
/-- The class of a message, the value maps of its enumerations, its shape, and then the same for
every message nested in it; nothing at all for an entry. -/
def Message.outline (owners : TypePath) : Message → List Outline
  | message@⟨_, _, nested, enums, _⟩ =>
    if message.isEntry then []
    else
      let path := owners ++ [message.localName]
      .ofClass path.flat (message.statics path) ::
        enums.map (fun enumeration => .ofValues (enumeration.declared .owned path)) ++
        .ofShape (path.flat ++ shapeSuffix) :: outlineEach path nested

def outlineEach (owners : TypePath) : List Message → List Outline
  | [] => []
  | message :: rest => message.outline owners ++ outlineEach owners rest
end

def File.outline (file : File) : List Outline :=
  outlineEach [] file.messages ++
    file.enums.map fun enumeration => .ofValues (enumeration.declared .exported [])

end Schema

namespace Placed

def declared (visibility : Visibility) (placed : Placed Enumeration) : ValueMap :=
  placed.part.declared visibility placed.owners

def outline (placed : Placed Message) : List Outline :=
  .ofClass placed.path.flat (placed.part.statics placed.path) ::
    placed.enums.map (fun enumeration => .ofValues (enumeration.declared .owned)) ++
    [.ofShape (placed.path.flat ++ shapeSuffix)]

theorem classes_outline (placed : Placed Message) :
    placed.outline.filterMap (·.class?) = [placed.path.flat] := by
  simp [outline, Outline.class?, List.filterMap_map]

theorem shapes_outline (placed : Placed Message) :
    placed.outline.filterMap (·.shape?) = [placed.path.flat ++ shapeSuffix] := by
  simp [outline, Outline.shape?, List.filterMap_map]

theorem values_outline (placed : Placed Message) :
    placed.outline.filterMap (·.values?) = placed.enums.map (·.declared .owned) := by
  simp [outline, Outline.values?, List.filterMap_map]

theorem length_outline (placed : Placed Message) :
    placed.outline.length = 2 + placed.enums.length := by
  simp [outline]
  omega

end Placed

namespace Schema

mutual
theorem Message.outline_eq_flatMap (owners : TypePath) : (message : Message) →
    message.outline owners = (message.walk Message.isDeclared owners).flatMap (·.outline)
  | ⟨name, fields, nested, enums, options⟩ => by
    cases entry : Message.isEntry ⟨name, fields, nested, enums, options⟩ with
    | true =>
      rw [Message.outline, Message.walk_passed owners _ (by simp [Message.isDeclared, entry]),
        if_pos entry]
      rfl
    | false =>
      rw [Message.outline, Message.walk_kept owners _ (by simp [Message.isDeclared, entry]),
        if_neg (by simp [entry]), List.flatMap_cons]
      simp [Placed.outline, Placed.path, Placed.enums, Placed.declared,
        outlineEach_eq_flatMap _ nested]

theorem outlineEach_eq_flatMap (owners : TypePath) : (messages : List Message) →
    outlineEach owners messages =
      (walkEach Message.isDeclared owners messages).flatMap (·.outline)
  | [] => rfl
  | message :: rest => by
    rw [outlineEach, walkEach, List.flatMap_append, message.outline_eq_flatMap owners,
      outlineEach_eq_flatMap owners rest]
end

namespace File

theorem outline_eq (file : File) :
    file.outline = file.visibleMessages.flatMap (·.outline) ++
      file.topEnums.map fun enumeration => .ofValues (enumeration.declared .exported) := by
  rw [visibleMessages_eq, outline, outlineEach_eq_flatMap, topEnums, List.map_map]
  rfl

theorem filterMap_outline {α : Type} (pick : Outline → Option α) (file : File) :
    file.outline.filterMap pick =
      file.visibleMessages.flatMap (fun placed => placed.outline.filterMap pick) ++
        file.topEnums.filterMap fun enumeration =>
          pick (.ofValues (enumeration.declared .exported)) := by
  rw [outline_eq, List.filterMap_append, List.filterMap_flatMap, List.filterMap_map]
  rfl

theorem classes_outline (file : File) :
    file.outline.filterMap (·.class?) = file.visibleMessages.map (·.path.flat) := by
  simp only [filterMap_outline, Placed.classes_outline]
  simp [Outline.class?, List.map_eq_flatMap]

theorem shapes_outline (file : File) :
    file.outline.filterMap (·.shape?) =
      file.visibleMessages.map (·.path.flat ++ shapeSuffix) := by
  simp only [filterMap_outline, Placed.shapes_outline]
  simp [Outline.shape?, List.map_eq_flatMap]

theorem values_outline (file : File) :
    file.outline.filterMap (·.values?) =
      file.visibleMessages.flatMap (fun placed => placed.enums.map (·.declared .owned)) ++
        file.topEnums.map (·.declared .exported) := by
  simp only [filterMap_outline, Placed.values_outline]
  simp [Outline.values?]

theorem length_outline (file : File) :
    file.outline.length = 2 * file.visibleMessages.length + file.visibleEnums.length := by
  rw [outline_eq, visibleEnums, List.length_append, List.length_append, List.length_map]
  have walked (walk : List (Placed Message)) : (walk.flatMap (·.outline)).length =
      2 * walk.length + (walk.flatMap (·.enums)).length := by
    induction walk with
    | nil => rfl
    | cons placed rest ih =>
      rw [List.flatMap_cons, List.flatMap_cons, List.length_append, List.length_append,
        List.length_cons, ih, placed.length_outline]
      omega
  rw [walked]
  omega

end File

end Schema

theorem valueMap_eq_ok {owners : TypePath} {enumeration : Enumeration} {map : ValueMap}
    (made : enumeration.valueMap owners = .ok map) :
    map = enumeration.declared (if owners.isEmpty then .exported else .owned) owners := by
  unfold Enumeration.valueMap at made
  cases named : enumeration.name with
  | none => simp [named] at made
  | some name =>
    rw [named] at made
    cases made
    simp [Enumeration.declared, Enumeration.localName, named]

theorem outline_of_maps {owners : TypePath} {visibility : Visibility}
    (placed : (if owners.isEmpty then Visibility.exported else .owned) = visibility)
    {enums : List Enumeration} {maps : List ValueMap}
    (each : List.Forall₂ (fun enumeration map => enumeration.valueMap owners = .ok map)
      enums maps) :
    (maps.map Declaration.ofValues).map (·.outline) =
      enums.map fun enumeration => .ofValues (enumeration.declared visibility owners) := by
  induction each with
  | nil => rfl
  | cons made _ ih =>
    rw [List.map_cons, List.map_cons, List.map_cons, ih, valueMap_eq_ok made, placed]
    rfl

namespace Scope

variable {scope : Scope}

theorem Makes.outline {placed : Placed Message} {piece : Piece}
    (makes : scope.Makes placed piece) :
    piece.declarations.map (·.outline) = placed.outline := by
  have nested : (if placed.path.isEmpty then Visibility.exported else .owned) = .owned := by
    simp [Placed.path]
  have maps := outline_of_maps nested makes.maps
  unfold Piece.declarations Placed.outline
  rw [List.map_append, List.map_cons, maps, Placed.enums, List.map_map]
  simp [Declaration.outline, makes.className, makes.statics, makes.shapeName, Placed.declared]

theorem outline_of_pieces {walk : List (Placed Message)} {pieces : List Piece}
    (each : List.Forall₂ scope.Makes walk pieces) :
    (pieces.flatMap (·.declarations)).map (·.outline) = walk.flatMap (·.outline) := by
  induction each with
  | nil => rfl
  | cons makes _ ih =>
    rw [List.flatMap_cons, List.flatMap_cons, List.map_append, makes.outline, ih]

end Scope

namespace Typings

variable {index : TypeIndex} {file : Schema.File} {typings : Typings}

theorem outline_eq (made : Typings.ofFile index file = .ok typings) :
    typings.outline = file.outline := by
  obtain ⟨pieces, maps, each, all, declarations⟩ := pieces_of_file made
  rw [outline, declarations, List.map_append, Scope.outline_of_pieces each,
    outline_of_maps rfl all, Schema.File.outline, Schema.outlineEach_eq_flatMap]
  rfl

/-- The declarations follow the tree of the types and have each type that is not hidden once.
Types that are hidden might as well be missing from the file. -/
theorem declarations_cover_types (made : Typings.ofFile index file = .ok typings) :
    typings.outline = file.outline ∧
    typings.outline.filterMap (·.class?) = file.visibleMessages.map (·.path.flat) ∧
    typings.outline.filterMap (·.shape?) =
      file.visibleMessages.map (·.path.flat ++ shapeSuffix) ∧
    typings.outline.filterMap (·.values?) =
      file.visibleMessages.flatMap (fun placed => placed.enums.map (·.declared .owned)) ++
        file.topEnums.map (·.declared .exported) ∧
    typings.declarations.length = 2 * file.visibleMessages.length + file.visibleEnums.length ∧
    Typings.ofFile index file.withoutEntries = .ok typings ∧
    ∀ placed ∈ file.withoutEntries.allMessages, placed.part.isEntry = false := by
  have outlined := outline_eq made
  have count : typings.declarations.length = typings.outline.length := by
    rw [outline, List.length_map]
  refine ⟨outlined, ?_, ?_, ?_, ?_, ?_, ?_⟩
  · rw [outlined, file.classes_outline]
  · rw [outlined, file.shapes_outline]
  · rw [outlined, file.values_outline]
  · rw [count, outlined, file.length_outline]
  · rw [ofFile_withoutEntries, made]
  · exact Schema.declared_of_withoutEntriesEach [] file.messages

end Typings

namespace Depot

/-- Of six types the entry of the map and the enumeration in it are hidden. -/
theorem file_covered :
    ∃ typings, Typings.ofFile index file = .ok typings ∧
      typings.outline.filterMap (·.class?) = ["Stock", "Stock$Shelf", "Entry"] ∧
      typings.declarations.length = 8 ∧
      Typings.ofFile index file.withoutEntries = .ok typings := by
  obtain ⟨typings, made⟩ : ∃ typings, Typings.ofFile index file = .ok typings :=
    exists_value (by decide +kernel)
  obtain ⟨_, classes, _, _, count, same, _⟩ := Typings.declarations_cover_types made
  refine ⟨typings, made, ?_, ?_, same⟩
  · rw [classes]
    decide +kernel
  · rw [count]
    decide +kernel

end Depot

end SchemaTypings
