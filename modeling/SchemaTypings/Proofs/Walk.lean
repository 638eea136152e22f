import SchemaTypings.TypeIndex

/-! Walks over the messages of a file: a message is met before those nested in it, and
these in their order. A walk keeps to the messages that it is told to keep; with any other
it leaves out everything nested in it. -/
namespace SchemaTypings

/-- A part of a file where it is met, under the names of the messages around it. -/
structure Placed (Part : Type) where
  owners : TypePath
  part : Part

namespace Schema

mutual
/-- The message and those nested in it, as far as `keep` allows. -/
def Message.walk (keep : Message → Bool) (owners : TypePath) : Message → List (Placed Message)
  | message@⟨_, _, nested, _, _⟩ =>
    if keep message then
      ⟨owners, message⟩ :: walkEach keep (owners ++ [message.localName]) nested
    else []

def walkEach (keep : Message → Bool) (owners : TypePath) : List Message → List (Placed Message)
  | [] => []
  | message :: rest => message.walk keep owners ++ walkEach keep owners rest
end

def anyMessage (_ : Message) : Bool := true

def Message.isDeclared (message : Message) : Bool := !message.isEntry

theorem Message.walk_kept {keep : Message → Bool} (owners : TypePath) (message : Message)
    (kept : keep message = true) :
    message.walk keep owners =
      ⟨owners, message⟩ :: walkEach keep (owners ++ [message.localName]) message.nested := by
  cases message
  rw [walk, if_pos kept]

theorem Message.walk_passed {keep : Message → Bool} (owners : TypePath) (message : Message)
    (passed : keep message = false) : message.walk keep owners = [] := by
  cases message
  rw [walk, if_neg (by simp [passed])]

mutual
/-- Whoever keeps more meets more, in the same order. -/
theorem Message.walk_sublist {few many : Message → Bool}
    (more : ∀ message, few message = true → many message = true) (owners : TypePath) :
    (message : Message) → (message.walk few owners).Sublist (message.walk many owners)
  | ⟨name, fields, nested, enums, options⟩ => by
    cases kept : few ⟨name, fields, nested, enums, options⟩ with
    | false =>
      rw [Message.walk_passed owners _ kept]
      exact List.nil_sublist _
    | true =>
      rw [Message.walk_kept owners _ kept, Message.walk_kept owners _ (more _ kept)]
      exact (walkEach_sublist more _ nested).cons_cons _

theorem walkEach_sublist {few many : Message → Bool}
    (more : ∀ message, few message = true → many message = true) (owners : TypePath) :
    (messages : List Message) →
      (walkEach few owners messages).Sublist (walkEach many owners messages)
  | [] => List.Sublist.refl _
  | message :: rest =>
    (message.walk_sublist more owners).append (walkEach_sublist more owners rest)
end

/-- A fact about lists of messages that passes to the whole list from the messages nested in the
first one and from those after it. -/
theorem forest_induction {motive : List Message → Prop} (nil : motive [])
    (cons : ∀ message rest, motive message.nested → motive rest → motive (message :: rest)) :
    (messages : List Message) → motive messages
  | [] => nil
  | ⟨_, _, nested, _, _⟩ :: rest =>
    cons _ rest (forest_induction nil cons nested) (forest_induction nil cons rest)

/-- A fact about messages that passes to a message from all those nested in it. -/
theorem Message.nested_induction {motive : Message → Prop}
    (step : ∀ message, (∀ inner ∈ message.nested, motive inner) → motive message)
    (message : Message) : motive message := by
  have each : ∀ inner ∈ [message], motive inner :=
    forest_induction (motive := fun messages => ∀ inner ∈ messages, motive inner)
      (fun _ mem => absurd mem List.not_mem_nil)
      (fun first _ nested later => List.forall_mem_cons.mpr ⟨step first nested, later⟩) [message]
  exact each message (.head _)

theorem walkEach_cons_kept {keep : Message → Bool} (owners : TypePath) {message : Message}
    (kept : keep message = true) (rest : List Message) :
    walkEach keep owners (message :: rest) =
      ⟨owners, message⟩ :: (walkEach keep (owners ++ [message.localName]) message.nested ++
        walkEach keep owners rest) := by
  rw [walkEach, message.walk_kept owners kept, List.cons_append]

theorem walkEach_cons_passed {keep : Message → Bool} (owners : TypePath) {message : Message}
    (passed : keep message = false) (rest : List Message) :
    walkEach keep owners (message :: rest) = walkEach keep owners rest := by
  rw [walkEach, message.walk_passed owners passed, List.nil_append]

def File.allMessages (file : File) : List (Placed Message) := walkEach anyMessage [] file.messages

def File.declaredMessages (file : File) : List (Placed Message) :=
  walkEach Message.isDeclared [] file.messages

theorem File.declaredMessages_sublist (file : File) :
    file.declaredMessages.Sublist file.allMessages :=
  walkEach_sublist (fun _ _ => rfl) [] file.messages

end Schema

namespace Placed

def path (placed : Placed Schema.Message) : TypePath := placed.owners ++ [placed.part.localName]

def enumPath (placed : Placed Schema.Enumeration) : TypePath :=
  placed.owners ++ [placed.part.localName]

def enums (placed : Placed Schema.Message) : List (Placed Schema.Enumeration) :=
  placed.part.enums.map fun enumeration => ⟨placed.path, enumeration⟩

end Placed

namespace Schema.File

def topEnums (file : File) : List (Placed Enumeration) :=
  file.enums.map fun enumeration => ⟨[], enumeration⟩

/-- The enumerations that get declarations: those nested in messages that do, and then
those at the top of the file. -/
def declaredEnums (file : File) : List (Placed Enumeration) :=
  file.declaredMessages.flatMap (·.enums) ++ file.topEnums

/-- The paths of all types of the file: each message, its enumerations, the messages
nested in it, and in the end the enumerations at the top. -/
def typePaths (file : File) : List TypePath :=
  file.allMessages.flatMap (fun placed => placed.path :: placed.enums.map (·.enumPath))
    ++ file.topEnums.map (·.enumPath)

theorem path_mem_typePaths_of_all {file : File} {placed : Placed Message}
    (met : placed ∈ file.allMessages) : placed.path ∈ file.typePaths :=
  List.mem_append_left _ (List.mem_flatMap.mpr ⟨placed, met, List.mem_cons_self⟩)

theorem path_mem_typePaths {file : File} {placed : Placed Message}
    (member : placed ∈ file.declaredMessages) : placed.path ∈ file.typePaths :=
  path_mem_typePaths_of_all (file.declaredMessages_sublist.subset member)

theorem enumPath_mem_typePaths {file : File} {placed : Placed Enumeration}
    (member : placed ∈ file.declaredEnums) : placed.enumPath ∈ file.typePaths := by
  rcases List.mem_append.mp member with inside | top
  · obtain ⟨holder, declared, nested⟩ := List.mem_flatMap.mp inside
    have met : holder ∈ file.allMessages := file.declaredMessages_sublist.subset declared
    exact List.mem_append_left _ (List.mem_flatMap.mpr
      ⟨holder, met, List.mem_cons_of_mem _ (List.mem_map_of_mem nested)⟩)
  · exact List.mem_append_right _ (List.mem_map_of_mem top)

theorem ne_nil_of_mem_typePaths {file : File} {path : TypePath} (member : path ∈ file.typePaths) :
    path ≠ [] := by
  rcases List.mem_append.mp member with inside | top
  · obtain ⟨placed, _, inside⟩ := List.mem_flatMap.mp inside
    rcases List.mem_cons.mp inside with rfl | nested
    · exact List.append_ne_nil_of_right_ne_nil _ (List.cons_ne_nil _ _)
    · obtain ⟨enumeration, _, rfl⟩ := List.mem_map.mp nested
      exact List.append_ne_nil_of_right_ne_nil _ (List.cons_ne_nil _ _)
  · obtain ⟨enumeration, _, rfl⟩ := List.mem_map.mp top
    exact List.append_ne_nil_of_right_ne_nil _ (List.cons_ne_nil _ _)

end Schema.File

end SchemaTypings
