import SchemaTypings.Artifact
import SchemaTypings.Proofs.FieldTypes
import SchemaTypings.Proofs.Walk

/-! What the typings of a file consist of. The declarations for a message and all messages
nested in it are those of each single message, in the order of the walk over the messages
that get declarations; the needs come from the fields of these messages and of no others. -/
namespace SchemaTypings

open Schema (Message Enumeration)

def Fragment.join (fragments : List Fragment) : Fragment :=
  ⟨fragments.flatMap (·.declarations), ⟨fragments.flatMap (·.needs.toList)⟩⟩

theorem Fragment.join_append (first second : List Fragment) :
    Fragment.join first ++ Fragment.join second = Fragment.join (first ++ second) := by
  unfold Fragment.join
  rw [List.flatMap_append, List.flatMap_append]
  rfl

namespace Scope

def own (scope : Scope) (placed : Placed Message) : Except Fault Fragment :=
  match placed.part.name with
  | none => .error (.nameless "message")
  | some name => do
    let path := placed.owners ++ [name]
    let members ← placed.part.fields.mapM scope.members
    let maps ← placed.part.enums.mapM (·.valueMap path)
    .ok (ownFragment path placed.part members maps)

theorem fragment_passed (scope : Scope) (owners : TypePath) (message : Message)
    (passed : message.isDeclared = false) : scope.fragment owners message = .ok {} := by
  have entry : message.isEntry = true := by simpa [Schema.Message.isDeclared] using passed
  obtain ⟨name, fields, nested, enums, options⟩ := message
  cases name <;> rw [fragment, if_pos entry]

theorem fragment_declared (scope : Scope) (owners : TypePath) (message : Message)
    (kept : message.isDeclared = true) :
    scope.fragment owners message = (do
      let first ← scope.own ⟨owners, message⟩
      let inner ← scope.fragments (owners ++ [message.localName]) message.nested
      .ok (first ++ inner)) := by
  have plain : ¬ message.isEntry = true := by simpa [Schema.Message.isDeclared] using kept
  obtain ⟨name, fields, nested, enums, options⟩ := message
  cases name with
  | none =>
    rw [fragment, if_neg plain]
    rfl
  | some name =>
    rw [fragment, if_neg plain]
    simp only [own, bind_assoc]
    rfl

mutual
theorem fragment_eq (scope : Scope) (owners : TypePath) : (message : Message) →
    scope.fragment owners message = (do
      let parts ← (message.walk Schema.Message.isDeclared owners).mapM scope.own
      .ok (Fragment.join parts))
  | ⟨name, fields, nested, enums, options⟩ => by
    cases kept : Message.isDeclared ⟨name, fields, nested, enums, options⟩ with
    | false =>
      rw [Schema.Message.walk_passed owners _ kept, fragment_passed scope owners _ kept]
      rfl
    | true =>
      rw [Schema.Message.walk_kept owners _ kept, fragment_declared scope owners _ kept,
        fragments_eq scope _ nested, List.mapM_cons]
      simp only [bind_assoc]
      rfl

theorem fragments_eq (scope : Scope) (owners : TypePath) : (messages : List Message) →
    scope.fragments owners messages = (do
      let parts ← (Schema.walkEach Schema.Message.isDeclared owners messages).mapM scope.own
      .ok (Fragment.join parts))
  | [] => rfl
  | message :: rest => by
    rw [fragments, fragment_eq scope owners message, fragments_eq scope owners rest,
      Schema.walkEach, List.mapM_append]
    simp only [bind_assoc, pure_bind, ← Fragment.join_append]
    rfl
end

theorem own_eq_ok {scope : Scope} {placed : Placed Message} {own : Fragment}
    (made : scope.own placed = .ok own) :
    ∃ members maps,
      List.Forall₂ (fun field result => scope.members field = .ok result)
        placed.part.fields members ∧
      List.Forall₂ (fun enumeration map => enumeration.valueMap placed.path = .ok map)
        placed.part.enums maps ∧
      own = ownFragment placed.path placed.part members maps := by
  unfold Scope.own at made
  cases named : placed.part.name with
  | none => simp [named] at made
  | some name =>
    have path : placed.owners ++ [name] = placed.path := by
      rw [Placed.path, Schema.Message.localName, named]
      rfl
    rw [named] at made
    simp only [path] at made
    obtain ⟨members, each, made⟩ := bind_eq_ok.mp made
    obtain ⟨maps, all, made⟩ := bind_eq_ok.mp made
    cases made
    exact ⟨members, maps, mapM_eq_ok.mp each, mapM_eq_ok.mp all, rfl⟩

end Scope

/-- What the fields of a file can refer to, as seen from the file. -/
def Schema.File.scope (file : Schema.File) (index : TypeIndex) : Scope := ⟨file.path, index⟩

/-- Typings consist of the parts for the declared messages, and then the value maps of the
enumerations at the top. -/
theorem Typings.ofFile_eq_ok {index : TypeIndex} {file : Schema.File} {typings : Typings}
    (made : Typings.ofFile index file = .ok typings) :
    ∃ parts maps,
      List.Forall₂ (fun placed part => (file.scope index).own placed = .ok part)
        file.declaredMessages parts ∧
      List.Forall₂ (fun enumeration map => enumeration.valueMap [] = .ok map) file.enums maps ∧
      typings = ⟨importsOf file.path file.dependencies (Fragment.join parts).needs,
        (Fragment.join parts).declarations ++ maps.map .ofValues⟩ := by
  unfold Typings.ofFile at made
  cases named : file.name with
  | none => simp [named] at made
  | some path =>
    have same : file.path = path := by rw [Schema.File.path, named]; rfl
    rw [named] at made
    simp only [← same] at made
    obtain ⟨fragment, emitted, made⟩ := bind_eq_ok.mp made
    obtain ⟨maps, all, made⟩ := bind_eq_ok.mp made
    cases made
    rw [Scope.fragments_eq] at emitted
    obtain ⟨parts, each, joined⟩ := bind_eq_ok.mp emitted
    cases joined
    exact ⟨parts, maps, mapM_eq_ok.mp each, mapM_eq_ok.mp all, rfl⟩

namespace Typings

/-- `typings` have, in one piece, the declarations made for one message alone. -/
def HasMessage (typings : Typings) (scope : Scope) (placed : Placed Message)
    (classDecl : ClassDecl) (shape : ShapeDecl) : Prop :=
  ∃ (maps : List ValueMap) (needs : Needs),
    let declarations := .ofClass classDecl :: maps.map .ofValues ++ [.ofShape shape]
    scope.own placed = .ok ⟨declarations, needs⟩ ∧ declarations <:+: typings.declarations

def HasEnum (typings : Typings) (placed : Placed Enumeration) (map : ValueMap) : Prop :=
  placed.part.valueMap placed.owners = .ok map ∧ .ofValues map ∈ typings.declarations

/-- The class and the shape made for the message have the field with these types. -/
def HasField (typings : Typings) (scope : Scope) (holder : Placed Message) (field : Schema.Field)
    (declared shaped : TypeExpr) : Prop :=
  ∃ classDecl shape, typings.HasMessage scope holder classDecl shape ∧
    scope.accessors field declared <:+: classDecl.accessors ∧
    scope.property field shaped ∈ shape.properties

variable {index : TypeIndex} {file : Schema.File} {typings : Typings}

theorem exists_part (made : Typings.ofFile index file = .ok typings) {placed : Placed Message}
    (member : placed ∈ file.declaredMessages) :
    ∃ part, (file.scope index).own placed = .ok part ∧
      part.declarations <:+: typings.declarations := by
  obtain ⟨parts, maps, each, _, rfl⟩ := ofFile_eq_ok made
  obtain ⟨part, among, own⟩ := exists_result each member
  refine ⟨part, own, ?_⟩
  have inside : part.declarations <:+: (Fragment.join parts).declarations :=
    List.infix_of_mem_flatten (List.mem_map_of_mem among)
  exact inside.trans (List.prefix_append _ _).isInfix

theorem HasMessage.names {scope : Scope} {placed : Placed Message} {classDecl : ClassDecl}
    {shape : ShapeDecl} (has : typings.HasMessage scope placed classDecl shape) :
    classDecl.name = placed.path.flat ∧ shape.name = placed.path.flat ++ shapeSuffix := by
  obtain ⟨maps, needs, own, _⟩ := has
  obtain ⟨members, made, _, _, equal⟩ := Scope.own_eq_ok own
  simp only [Scope.ownFragment, Fragment.mk.injEq, List.cons_append, List.cons.injEq,
    Declaration.ofClass.injEq] at equal
  obtain ⟨⟨rfl, tails⟩, _⟩ := equal
  have last := (List.append_inj' tails rfl).2
  simp only [List.cons.injEq, Declaration.ofShape.injEq, and_true] at last
  subst last
  exact ⟨rfl, rfl⟩

theorem exists_hasField (made : Typings.ofFile index file = .ok typings) {holder : Placed Message}
    (member : holder ∈ file.declaredMessages) {field : Schema.Field}
    (inside : field ∈ holder.part.fields) :
    ∃ declared shaped, (file.scope index).typed .accessor field = .ok declared ∧
      (file.scope index).typed .shape field = .ok shaped ∧
      typings.HasField (file.scope index) holder field declared.type shaped.type := by
  obtain ⟨part, own, infix_⟩ := exists_part made member
  obtain ⟨members, maps, each, _, rfl⟩ := Scope.own_eq_ok own
  obtain ⟨result, among, made⟩ := exists_result each inside
  obtain ⟨declared, shaped, first, second, rfl⟩ := Scope.members_eq_ok made
  refine ⟨declared, shaped, first, second, _, _, ⟨maps, _, own, infix_⟩, ?_, ?_⟩
  · exact List.infix_of_mem_flatten (List.mem_map_of_mem among)
  · exact List.mem_map.mpr ⟨_, among, rfl⟩

theorem exists_hasMessage (made : Typings.ofFile index file = .ok typings)
    {placed : Placed Message} (member : placed ∈ file.declaredMessages) :
    ∃ classDecl shape, typings.HasMessage (file.scope index) placed classDecl shape := by
  obtain ⟨part, own, infix_⟩ := exists_part made member
  obtain ⟨members, maps, _, _, rfl⟩ := Scope.own_eq_ok own
  exact ⟨_, _, maps, _, own, infix_⟩

theorem valueMap_name {placed : Placed Enumeration} {map : ValueMap}
    (made : placed.part.valueMap placed.owners = .ok map) : map.name = placed.enumPath.flat := by
  unfold Schema.Enumeration.valueMap at made
  cases named : placed.part.name with
  | none => simp [named] at made
  | some name =>
    rw [named] at made
    cases made
    rw [Placed.enumPath, Schema.Enumeration.localName, named]
    rfl

theorem exists_hasEnum (made : Typings.ofFile index file = .ok typings)
    {placed : Placed Enumeration} (member : placed ∈ file.declaredEnums) :
    ∃ map, typings.HasEnum placed map := by
  rcases List.mem_append.mp member with nested | top
  · obtain ⟨holder, declared, nested⟩ := List.mem_flatMap.mp nested
    obtain ⟨enumeration, inside, rfl⟩ := List.mem_map.mp nested
    obtain ⟨part, own, infix_⟩ := exists_part made declared
    obtain ⟨members, maps, _, all, rfl⟩ := Scope.own_eq_ok own
    obtain ⟨map, among, mapped⟩ := exists_result all inside
    refine ⟨map, mapped, infix_.subset (List.mem_append_left _ ?_)⟩
    exact List.mem_cons_of_mem _ (List.mem_map_of_mem among)
  · obtain ⟨enumeration, inside, rfl⟩ := List.mem_map.mp top
    obtain ⟨parts, maps, _, all, rfl⟩ := ofFile_eq_ok made
    obtain ⟨map, among, mapped⟩ := exists_result all inside
    exact ⟨map, mapped, List.mem_append_right _ (List.mem_map_of_mem among)⟩

end Typings

end SchemaTypings
