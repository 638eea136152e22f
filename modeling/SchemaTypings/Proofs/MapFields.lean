import SchemaTypings.Proofs.Acceptance
import SchemaTypings.Proofs.Lockstep
import SchemaTypings.Proofs.Marks

/-! How lists of messages show. A field that lists a message of its own file shows as a map or as
a list, and which of the two depends on the first message of the file that has the same last
name. That need not be the message that the field refers to: a message in another scope can
have the name and come before it. -/
namespace SchemaTypings

open Schema (Message)

namespace FieldView

/-- A map can be got but not set, and its type says nothing. -/
def ofMap (field : Schema.Field) : FieldView where
  stem := Name.capitalized field.localName ++ "Map"
  type := .any
  settable := false
  property := ⟨Name.uncapitalized field.localName ++ "Map", .any⟩

def ofList (field : Schema.Field) (name : String) : FieldView where
  stem := Name.capitalized field.localName ++ "List"
  type := .array (.named name)
  settable := true
  property := ⟨Name.uncapitalized field.localName ++ "List", .array (.named (name ++ shapeSuffix))⟩

def ofMessages (field : Schema.Field) (name : String) (entries : Bool) : FieldView :=
  if entries then .ofMap field else .ofList field name

theorem entries_unique {field : Schema.Field} {name : String} {first second : Bool}
    (same : (ofMessages field name first).property = (ofMessages field name second).property) :
    first = second := by
  have types := congrArg Property.type same
  cases first <;> cases second
  case false.false => rfl
  case true.true => rfl
  all_goals cases types

end FieldView

namespace Scope

variable {scope : Scope} {field : Schema.Field} {view : FieldView}

theorem multiplicity_of_list (list : field.isMessageList = true) :
    field.multiplicity = .repeated := by
  simpa using ((Bool.and_eq_true _ _).mp list).1

theorem suffix_of_list (list : field.isMessageList = true) :
    scope.suffix field = if scope.holdsMap field then "Map" else "List" := by
  simp [suffix, multiplicity_of_list list]

theorem fieldType_of_list {side : View} (list : field.isMessageList = true) (name : String) :
    fieldType side field (.named name) = .array (.named name) := by
  simp [fieldType, multiplicity_of_list list, TypeExpr.inArray, TypeExpr.wrap]

theorem Shows.eq_ofMap (shows_ : scope.Shows field view) (map : scope.holdsMap field = true) :
    view = .ofMap field := by
  obtain ⟨declared, shaped, first, second, rfl⟩ := shows_
  have list : field.isMessageList = true := ((Bool.and_eq_true _ _).mp map).1
  have suffix : scope.suffix field = "Map" := by rw [suffix_of_list list, if_pos map]
  have one := (typed_eq_any_iff first).mpr map
  have other := (typed_eq_any_iff second).mpr map
  simp [fieldView, property, FieldView.ofMap, suffix, map, one, other]

theorem Shows.eq_ofList (shows_ : scope.Shows field view) (plain : scope.holdsMap field = false)
    (list : field.isMessageList = true) {typeName : String}
    (refers : field.typeName = some typeName) {site : Site}
    (found : scope.index.get? typeName = some site) (here : site.file = scope.file) :
    view = .ofList field site.name := by
  obtain ⟨declared, shaped, first, second, rfl⟩ := shows_
  have reference : field.valueType = TypeKind.message.reference typeName := by
    rw [valueType_of_isMessageList list, refers]
    rfl
  have one := typed_eq_of_found plain reference found first
  have other := typed_eq_of_found plain reference found second
  have suffix : scope.suffix field = "List" := by
    rw [suffix_of_list list, if_neg (by simp [plain])]
  simp [fieldView, property, FieldView.ofList, one, other, referenceType, messageType, isForeign,
    here, suffix, plain, fieldType_of_list list]

theorem Shows.eq_ofMessages (shows_ : scope.Shows field view) (list : field.isMessageList = true)
    {typeName : String} (refers : field.typeName = some typeName) {site : Site}
    (found : scope.index.get? typeName = some site) (here : site.file = scope.file) :
    view = .ofMessages field site.name (scope.holdsMap field) := by
  cases map : scope.holdsMap field with
  | true => exact shows_.eq_ofMap map
  | false => exact shows_.eq_ofList map list refers found here

end Scope

namespace Typings

/-- The class and the shape made for the message show its field at this place in this way. -/
def ShowsAt (typings : Typings) (scope : Scope) (holder : Placed Message) (i : Nat)
    (view : FieldView) : Prop :=
  ∃ (classDecl : ClassDecl) (shape : ShapeDecl) (views : List FieldView),
    typings.HasMessage scope holder classDecl shape ∧
    views.length = holder.part.fields.length ∧
    classDecl.accessors = views.flatMap (·.accessors) ∧
    shape.properties = views.map (·.property) ∧ views[i]? = some view

variable {index : TypeIndex} {file : Schema.File} {typings : Typings} {holder : Placed Message}

theorem exists_showsAt (made : Typings.ofFile index file = .ok typings)
    (declared : holder ∈ file.declaredMessages) {i : Nat} {field : Schema.Field}
    (at_ : holder.part.fields[i]? = some field) :
    ∃ view, (file.scope index).Shows field view ∧
      typings.ShowsAt (file.scope index) holder i view := by
  obtain ⟨⟨declarations, needs⟩, own, infix_⟩ := exists_part made declared
  obtain ⟨piece, makes, same⟩ := Scope.exists_piece own
  change declarations = piece.declarations at same
  subst same
  obtain ⟨views, shown, accessors, properties⟩ := makes.fields
  obtain ⟨view, there, shows_⟩ := exists_result_at shown at_
  have message : typings.HasMessage (file.scope index) holder piece.classDecl piece.shape :=
    ⟨piece.maps, needs, own, infix_⟩
  exact ⟨view, shows_, piece.classDecl, piece.shape, views, message, shown.length_eq.symm,
    accessors, properties, there⟩

theorem HasMessage.shape_unique {scope : Scope} {one other : ClassDecl} {first second : ShapeDecl}
    (has : typings.HasMessage scope holder one first)
    (again : typings.HasMessage scope holder other second) : first = second := by
  obtain ⟨maps, needs, own, _⟩ := has
  obtain ⟨others, more, same, _⟩ := again
  have equal := Except.ok.inj (own.symm.trans same)
  -- the shape is the last of the declarations, whatever value maps are before it
  have lists := (Fragment.mk.inj equal).1
  simpa using (List.append_inj' lists rfl).2

theorem ShowsAt.property_unique {scope : Scope} {i : Nat} {first second : FieldView}
    (shows_ : typings.ShowsAt scope holder i first)
    (again : typings.ShowsAt scope holder i second) : first.property = second.property := by
  obtain ⟨_, shape, views, has, _, _, properties, there⟩ := shows_
  obtain ⟨_, other, more, hasAgain, _, _, same, place⟩ := again
  have property : shape.properties[i]? = some first.property := by
    rw [properties, List.getElem?_map, there]
    rfl
  rw [has.shape_unique hasAgain, same, List.getElem?_map, place] at property
  exact (Option.some.inj property).symm

end Typings

theorem TypePath.exists_qualified_eq (package : String) (owners : TypePath) (name : String) :
    ∃ before, (owners ++ [name] : TypePath).qualified package = before ++ "." ++ name := by
  unfold TypePath.qualified packageLead
  by_cases nested : owners = []
  · subst nested
    by_cases root : package.isEmpty = true
    · exact ⟨"", by simp [root]⟩
    · exact ⟨"." ++ package, by simp [root]⟩
  · rw [String.intercalate_append_of_ne_nil nested (List.cons_ne_nil _ _),
      String.intercalate_singleton, ← String.append_assoc, ← String.append_assoc]
    exact ⟨_, rfl⟩

theorem TypePath.lastPart_qualified (package : String) (owners : TypePath) {name : String}
    (plain : '.' ∉ name.toList) : LastPart ((owners ++ [name] : TypePath).qualified package) name :=
  ⟨plain, .inr (exists_qualified_eq package owners name)⟩

section File

variable {files : List Schema.File} {file : Schema.File}

/-- A field of the file has this message, also of the file, for the type of its items. -/
structure ListsMessage (file : Schema.File) (field : Schema.Field) (target : Placed Message) :
    Prop where
  list : field.isMessageList = true
  member : target ∈ file.allMessages
  refers : field.typeName = some (file.qualified target.path)

/-- Whether the first message of the file with the last name in the field's type is an entry. -/
def Schema.File.marksMap (file : Schema.File) (field : Schema.Field) : Bool :=
  (firstMark file.allMessages field.lastName).getD false

theorem ListsMessage.lastName_eq {field : Schema.Field} {target : Placed Message}
    (lists : ListsMessage file field target) (plain : '.' ∉ target.part.localName.toList) :
    field.lastName = target.part.localName := by
  unfold Schema.Field.lastName
  rw [lists.refers]
  exact lastPart_iff.mp (TypePath.lastPart_qualified _ _ plain)

theorem ListsMessage.marksMap_eq {field : Schema.Field} {target : Placed Message}
    (lists : ListsMessage file field target) (plain : '.' ∉ target.part.localName.toList)
    (agree : ∀ other ∈ file.allMessages, other.part.localName = target.part.localName →
      other.part.isEntry = target.part.isEntry) :
    file.marksMap field = target.part.isEntry := by
  unfold Schema.File.marksMap
  rw [lists.lastName_eq plain, firstMark_of_agreement lists.member agree]
  rfl

theorem Typings.shows_by_mark {typings : Typings}
    (made : Typings.ofFile (.ofFiles files) file = .ok typings)
    (paths : (files.map (·.path)).Nodup) (names : (declaredNames files).Nodup)
    (supplied : file ∈ files) {holder : Placed Message} (declared : holder ∈ file.declaredMessages)
    {i : Nat} {field : Schema.Field} (at_ : holder.part.fields[i]? = some field)
    {target : Placed Message} (lists : ListsMessage file field target) :
    typings.ShowsAt (file.scope (.ofFiles files)) holder i
      (.ofMessages field target.path.flat (file.marksMap field)) := by
  obtain ⟨view, shows_, there⟩ := exists_showsAt made declared at_
  have found := TypeIndex.get?_ofFiles_qualified names supplied
    (Schema.File.path_mem_typePaths_of_all lists.member)
  have same := shows_.eq_ofMessages lists.list lists.refers found rfl
  rw [Scope.holdsMap_ofFiles paths supplied, lists.list, Bool.true_and] at same
  subst same
  exact there

/-- A field that lists a message of its own file shows as the first message of that name in the
file tells, and so as the message itself tells if and only if the two are alike. -/
theorem shown_by_first_mark {request : Request} {artifacts : List Artifact}
    (accepted : request.artifacts = .ok artifacts) (paths : (request.files.map (·.path)).Nodup)
    (names : (declaredNames request.files).Nodup) (wanted : file ∈ request.wantedFiles)
    {holder : Placed Message} (declared : holder ∈ file.declaredMessages) {i : Nat}
    {field : Schema.Field} (at_ : holder.part.fields[i]? = some field) {target : Placed Message}
    (lists : ListsMessage file field target) :
    let scope := file.scope (.ofFiles request.files)
    let name := target.path.flat
    ∃ typings, Typings.ofFile (.ofFiles request.files) file = .ok typings ∧
      ⟨SchemaPath.artifactName file.path, typings.render⟩ ∈ artifacts ∧
      typings.ShowsAt scope holder i (.ofMessages field name (file.marksMap field)) ∧
      (typings.ShowsAt scope holder i (.ofMessages field name target.part.isEntry) ↔
        file.marksMap field = target.part.isEntry) ∧
      ('.' ∉ target.part.localName.toList →
        file.marksMap field =
          ((firstMark file.allMessages target.part.localName).getD false) ∧
        ((∀ other ∈ file.allMessages, other.part.localName = target.part.localName →
            other.part.isEntry = target.part.isEntry) →
          file.marksMap field = target.part.isEntry)) := by
  obtain ⟨typings, made, among⟩ := Request.exists_typings accepted wanted
  have shown := Typings.shows_by_mark made paths names (List.mem_of_mem_filter wanted) declared
    at_ lists
  refine ⟨typings, made, among, shown, ⟨?_, ?_⟩, ?_⟩
  · intro own
    exact FieldView.entries_unique (shown.property_unique own)
  · intro same
    rwa [same] at shown
  · intro plain
    refine ⟨?_, lists.marksMap_eq plain⟩
    unfold Schema.File.marksMap
    rw [lists.lastName_eq plain]

end File

namespace Depot

def request : Request := { wanted := ["depot/stock.proto"], files := [file] }

def shelves : Placed Message := ⟨["Stock"], shelf⟩

theorem shelves_declared : shelves ∈ file.declaredMessages :=
  List.mem_of_getElem? (i := 1) rfl

theorem entries_listed : ListsMessage file entries ⟨[], entry⟩ where
  list := by decide
  member := List.mem_of_getElem? (i := 3) rfl
  refers := by decide +kernel

/-- What a shelf lists are no entries of a map, but those of the counts come before them. -/
theorem entries_as_map :
    ∃ typings, Typings.ofFile index file = .ok typings ∧
      typings.ShowsAt (file.scope index) shelves 1 (.ofMap entries) ∧
      ¬ typings.ShowsAt (file.scope index) shelves 1 (.ofList entries "Entry") := by
  obtain ⟨artifacts, accepted⟩ : ∃ artifacts, request.artifacts = .ok artifacts :=
    exists_value (by decide +kernel)
  have map : file.marksMap entries = true := by decide +kernel
  obtain ⟨typings, made, _, shown, own, _⟩ :=
    shown_by_first_mark accepted (by decide +kernel) (by decide +kernel) List.mem_cons_self
      shelves_declared (i := 1) rfl entries_listed
  rw [map] at shown own
  refine ⟨typings, made, shown, ?_⟩
  intro list
  cases own.mp list

end Depot

/-- The message that the field lists need not be the one that decides. -/
theorem not_shown_by_own_mark :
    ¬ ∀ (request : Request) (artifacts : List Artifact) (file : Schema.File)
      (holder : Placed Message) (i : Nat) (field : Schema.Field) (target : Placed Message),
      request.artifacts = .ok artifacts → (request.files.map (·.path)).Nodup →
      (declaredNames request.files).Nodup → file ∈ request.wantedFiles →
      holder ∈ file.declaredMessages → holder.part.fields[i]? = some field →
      ListsMessage file field target →
      ∃ typings, Typings.ofFile (.ofFiles request.files) file = .ok typings ∧
        (target.part.isEntry = true →
          typings.ShowsAt (file.scope (.ofFiles request.files)) holder i (.ofMap field)) ∧
        (target.part.isEntry = false → typings.ShowsAt (file.scope (.ofFiles request.files))
          holder i (.ofList field target.path.flat)) := by
  intro always
  obtain ⟨artifacts, accepted⟩ : ∃ artifacts, Depot.request.artifacts = .ok artifacts :=
    exists_value (by decide +kernel)
  have paths : (Depot.request.files.map (·.path)).Nodup := by decide +kernel
  have names : (declaredNames Depot.request.files).Nodup := by decide +kernel
  have map : Depot.file.marksMap Depot.entries = true := by decide +kernel
  obtain ⟨typings, made, _, list⟩ := always Depot.request artifacts Depot.file Depot.shelves 1
    Depot.entries _ accepted paths names List.mem_cons_self Depot.shelves_declared rfl
    Depot.entries_listed
  have shown := Typings.shows_by_mark made paths names List.mem_cons_self Depot.shelves_declared
    (i := 1) rfl Depot.entries_listed
  rw [map] at shown
  have types := congrArg Property.type (shown.property_unique (list rfl))
  cases types

end SchemaTypings
