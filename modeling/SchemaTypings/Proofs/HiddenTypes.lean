import SchemaTypings.Proofs.Emission

/-! Hidden types: the entries of maps and all that is nested in them, at whatever depth. The
messages that are not hidden are those that a walk which passes by entries meets; a file has
the same typings, or the same fault, once its hidden types are removed. -/
namespace SchemaTypings

open Schema (Message Enumeration)

namespace Schema

mutual
/-- The message and those nested in it, each with whether it is hidden. -/
def Message.tree (hidden : Bool) (owners : TypePath) : Message → List (Placed Message × Bool)
  | message@⟨_, _, nested, _, _⟩ =>
    (⟨owners, message⟩, hidden || message.isEntry) ::
      treeEach (hidden || message.isEntry) (owners ++ [message.localName]) nested

def treeEach (hidden : Bool) (owners : TypePath) : List Message → List (Placed Message × Bool)
  | [] => []
  | message :: rest => message.tree hidden owners ++ treeEach hidden owners rest
end

def visible (tree : List (Placed Message × Bool)) : List (Placed Message) :=
  (tree.filter (!·.2)).map (·.1)

theorem visible_append (first second : List (Placed Message × Bool)) :
    visible (first ++ second) = visible first ++ visible second := by
  unfold visible
  rw [List.filter_append, List.map_append]

theorem visible_cons (placed : Placed Message) (hidden : Bool)
    (rest : List (Placed Message × Bool)) :
    visible ((placed, hidden) :: rest) = if hidden then visible rest else placed :: visible rest := by
  cases hidden <;> rfl

mutual
theorem Message.visible_tree (hidden : Bool) (owners : TypePath) : (message : Message) →
    visible (message.tree hidden owners) =
      if hidden then [] else message.walk Message.isDeclared owners
  | ⟨name, fields, nested, enums, options⟩ => by
    rw [Message.tree, visible_cons, visible_treeEach]
    cases hidden with
    | true => rfl
    | false =>
      cases entry : Message.isEntry ⟨name, fields, nested, enums, options⟩ with
      | true =>
        rw [Message.walk_passed owners _ (by simp [Message.isDeclared, entry])]
        rfl
      | false =>
        rw [Message.walk_kept owners _ (by simp [Message.isDeclared, entry])]
        rfl

theorem visible_treeEach (hidden : Bool) (owners : TypePath) : (messages : List Message) →
    visible (treeEach hidden owners messages) =
      if hidden then [] else walkEach Message.isDeclared owners messages
  | [] => by cases hidden <;> rfl
  | message :: rest => by
    rw [treeEach, visible_append, message.visible_tree hidden owners,
      visible_treeEach hidden owners rest, walkEach]
    cases hidden <;> rfl
end

mutual
def Message.withoutEntries : Message → Message
  | ⟨name, fields, nested, enums, options⟩ =>
    ⟨name, fields, withoutEntriesEach nested, enums, options⟩

def withoutEntriesEach : List Message → List Message
  | [] => []
  | message :: rest =>
    if message.isEntry then withoutEntriesEach rest
    else message.withoutEntries :: withoutEntriesEach rest
end

namespace Message

theorem withoutEntries_eq (message : Message) :
    message.withoutEntries = { message with nested := withoutEntriesEach message.nested } := by
  cases message
  rw [withoutEntries]

theorem isEntry_withoutEntries (message : Message) :
    message.withoutEntries.isEntry = message.isEntry := by
  rw [withoutEntries_eq]
  rfl

theorem localName_withoutEntries (message : Message) :
    message.withoutEntries.localName = message.localName := by
  rw [withoutEntries_eq]
  rfl

end Message

theorem withoutEntriesEach_eq (messages : List Message) :
    withoutEntriesEach messages = (messages.filter (!·.isEntry)).map (·.withoutEntries) := by
  induction messages with
  | nil => rfl
  | cons message rest ih =>
    rw [withoutEntriesEach, List.filter_cons]
    cases message.isEntry <;> simp [ih]

theorem Message.statics_withoutEntries (path : TypePath) (message : Message) :
    message.withoutEntries.statics path = message.statics path := by
  rw [withoutEntries_eq]
  unfold statics
  simp [withoutEntriesEach_eq, List.filter_map, List.filter_filter, Function.comp_def,
    isEntry_withoutEntries, localName_withoutEntries]

mutual
theorem Message.declared_of_withoutEntries (owners : TypePath) :
    (message : Message) → message.isEntry = false →
      ∀ placed ∈ message.withoutEntries.walk anyMessage owners, placed.part.isEntry = false
  | ⟨name, fields, nested, enums, options⟩, plain => by
    rw [Message.withoutEntries, Message.walk_kept owners _ rfl, List.forall_mem_cons]
    exact ⟨plain, declared_of_withoutEntriesEach _ nested⟩

theorem declared_of_withoutEntriesEach (owners : TypePath) :
    (messages : List Message) →
      ∀ placed ∈ walkEach anyMessage owners (withoutEntriesEach messages),
        placed.part.isEntry = false
  | [] => by simp [withoutEntriesEach, walkEach]
  | message :: rest => by
    rw [withoutEntriesEach]
    have others := declared_of_withoutEntriesEach owners rest
    cases entry : message.isEntry with
    | true => exact others
    | false =>
      change ∀ placed ∈ message.withoutEntries.walk anyMessage owners ++
        walkEach anyMessage owners (withoutEntriesEach rest), placed.part.isEntry = false
      rw [List.forall_mem_append]
      exact ⟨message.declared_of_withoutEntries owners entry, others⟩
end

namespace File

def visibleMessages (file : File) : List (Placed Message) := visible (treeEach false [] file.messages)

theorem visibleMessages_eq (file : File) : file.visibleMessages = file.declaredMessages :=
  visible_treeEach false [] file.messages

/-- The enumerations of the messages that are not hidden; those at the top never are. -/
def visibleEnums (file : File) : List (Placed Enumeration) :=
  file.visibleMessages.flatMap (·.enums) ++ file.topEnums

def withoutEntries (file : File) : File :=
  { file with messages := withoutEntriesEach file.messages }

end File

end Schema

namespace Scope

theorem own_withoutEntries (scope : Scope) (owners : TypePath) (message : Message) :
    scope.own ⟨owners, message.withoutEntries⟩ = scope.own ⟨owners, message⟩ := by
  have statics (path : TypePath) := message.statics_withoutEntries path
  rw [Message.withoutEntries_eq] at statics ⊢
  unfold own ownFragment
  simp only [statics]

mutual
theorem fragment_withoutEntries (scope : Scope) (owners : TypePath) :
    (message : Message) →
      scope.fragment owners message.withoutEntries = scope.fragment owners message
  | ⟨name, fields, nested, enums, options⟩ => by
    have own := own_withoutEntries scope owners ⟨name, fields, nested, enums, options⟩
    have entry := Message.isEntry_withoutEntries ⟨name, fields, nested, enums, options⟩
    cases kept : Message.isDeclared ⟨name, fields, nested, enums, options⟩ with
    | false =>
      have passed := kept
      rw [Message.isDeclared, ← entry] at passed
      rw [fragment_passed scope owners _ kept, fragment_passed scope owners _ passed]
    | true =>
      have same := kept
      rw [Message.isDeclared, ← entry] at same
      rw [fragment_declared scope owners _ kept, fragment_declared scope owners _ same, own,
        Message.localName_withoutEntries, Message.withoutEntries]
      dsimp only
      rw [fragments_withoutEntries scope _ nested]

theorem fragments_withoutEntries (scope : Scope) (owners : TypePath) :
    (messages : List Message) →
      scope.fragments owners (Schema.withoutEntriesEach messages) =
        scope.fragments owners messages
  | [] => rfl
  | message :: rest => by
    rw [Schema.withoutEntriesEach, fragments]
    cases entry : message.isEntry with
    | true =>
      have passed : message.isDeclared = false := by simp [Message.isDeclared, entry]
      rw [if_pos rfl, fragments_withoutEntries scope owners rest,
        fragment_passed scope owners message passed]
      cases scope.fragments owners rest <;> rfl
    | false =>
      rw [if_neg Bool.false_ne_true, fragments, fragment_withoutEntries scope owners message,
        fragments_withoutEntries scope owners rest]
end

end Scope

/-- Nothing in a file that is hidden leaves a trace in its typings. -/
theorem Typings.ofFile_withoutEntries (index : TypeIndex) (file : Schema.File) :
    Typings.ofFile index file.withoutEntries = Typings.ofFile index file := by
  unfold Typings.ofFile Schema.File.withoutEntries
  simp only [Scope.fragments_withoutEntries]

end SchemaTypings
