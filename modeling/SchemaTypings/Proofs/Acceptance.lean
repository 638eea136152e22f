import SchemaTypings.Request
import SchemaTypings.Proofs.Emission
import SchemaTypings.Proofs.Parameters
import SchemaTypings.Proofs.Sites

/-! Which requests are accepted, and what the others are told. Requests have faults of three
sorts: a pair of the parameter, references of fields in any file, and names that the
declarations of the wanted files would need. A request without a fault gets its artifacts.
That holds because the check of references goes over a walk that every emission is part of,
so that nothing but a missing name can stop an emission. -/
namespace SchemaTypings

open Schema (Message Enumeration)

/-- What is wrong with the reference of a field where `known` are the names of all types. -/
def Schema.Field.referenceFaults (known : List String) (field : Schema.Field) : List Fault :=
  match field.valueType.reference? with
  | none => []
  | some typeName =>
    if typeName = "" then [.untyped field.localName]
    else if typeName.toList.head? ≠ some '.' then [.unqualified typeName]
    else if typeName ∈ known then []
    else [.undeclared typeName field.localName]

def Schema.File.referenceFaults (known : List String) (file : Schema.File) : List Fault :=
  file.allMessages.flatMap fun placed => placed.part.fields.flatMap (·.referenceFaults known)

def Schema.Enumeration.nameFaults (enumeration : Enumeration) : List Fault :=
  if enumeration.name = none then [.nameless "enum"] else []

def Schema.Message.nameFaults (message : Message) : List Fault :=
  (if message.name = none then [.nameless "message"] else [])
    ++ message.enums.flatMap (·.nameFaults)

/-- The names that are missing in a file, in the order in which its declarations need them. -/
def Schema.File.nameFaults (file : Schema.File) : List Fault :=
  (if file.name = none then [.nameless "file"] else [])
    ++ file.declaredMessages.flatMap (·.part.nameFaults) ++ file.enums.flatMap (·.nameFaults)

namespace TypeIndex

variable {index : TypeIndex}

theorem reports_checkField {known : List String}
    (knows : ∀ name, index.get? name = none ↔ name ∉ known) (field : Schema.Field) :
    Reports (index.checkField field) (field.referenceFaults known) := by
  unfold checkField Schema.Field.referenceFaults locate
  cases field.valueType.reference? with
  | none => exact Reports.ok ()
  | some typeName =>
    dsimp only
    split_ifs with empty bare member
    · exact Reports.error _ _
    · exact Reports.error _ _
    · cases found : index.get? typeName with
      | none => exact absurd member ((knows typeName).mp found)
      | some site => exact Reports.ok ()
    · rw [(knows typeName).mpr member]
      exact Reports.error _ _

def checkPlaced (index : TypeIndex) (placed : Placed Message) : Except Fault Unit :=
  placed.part.fields.forM index.checkField

mutual
theorem checkMessage_eq_forM (index : TypeIndex) (owners : TypePath) : (message : Message) →
    index.checkMessage message =
      (message.walk Schema.anyMessage owners).forM index.checkPlaced
  | ⟨name, fields, nested, enums, options⟩ => by
    rw [checkMessage, Schema.Message.walk_kept owners _ rfl, checkMessages_eq_forM]
    rfl

theorem checkMessages_eq_forM (index : TypeIndex) (owners : TypePath) :
    (messages : List Message) → index.checkMessages messages =
      (Schema.walkEach Schema.anyMessage owners messages).forM index.checkPlaced
  | [] => rfl
  | message :: rest => by
    rw [checkMessages, checkMessage_eq_forM index owners, checkMessages_eq_forM index owners,
      Schema.walkEach]
    exact List.forM_append.symm
end

theorem reports_check (files : List Schema.File) :
    Reports ((ofFiles files).check files)
      (files.flatMap (·.referenceFaults (declaredNames files))) := by
  have knows := get?_ofFiles_eq_none files
  apply Reports.forM
  intro file _
  rw [checkMessages_eq_forM _ []]
  apply Reports.forM
  intro placed _
  apply Reports.forM
  intro field _
  exact reports_checkField knows field

/-- Whatever the declarations of the file refer to is in the index. -/
def Resolves (index : TypeIndex) (file : Schema.File) : Prop :=
  ∀ placed ∈ file.declaredMessages, ∀ field ∈ placed.part.fields, index.checkField field = .ok ()

theorem resolves_of_check {files : List Schema.File}
    (checked : (ofFiles files).check files = .ok ()) {file : Schema.File}
    (supplied : file ∈ files) : (ofFiles files).Resolves file := by
  intro placed member field inside
  have none := (reports_check files).eq_nil checked
  have met : placed ∈ file.allMessages := file.declaredMessages_sublist.subset member
  have ofFile := List.flatMap_eq_nil_iff.mp none file supplied
  have ofMessage := List.flatMap_eq_nil_iff.mp ofFile placed met
  have ofField := List.flatMap_eq_nil_iff.mp ofMessage field inside
  have reports := reports_checkField (get?_ofFiles_eq_none files) field
  rw [ofField] at reports
  obtain ⟨_, done⟩ := reports.exists_ok
  exact done

end TypeIndex

section Names

variable {index : TypeIndex}

theorem reports_valueMap (owners : TypePath) (enumeration : Enumeration) :
    Reports (enumeration.valueMap owners) enumeration.nameFaults := by
  unfold Schema.Enumeration.valueMap Schema.Enumeration.nameFaults
  cases enumeration.name with
  | none => exact Reports.error _ _
  | some name => exact Reports.ok _

theorem reports_own (scope : Scope) {placed : Placed Message}
    (checked : ∀ field ∈ placed.part.fields, scope.index.checkField field = .ok ()) :
    Reports (scope.own placed) placed.part.nameFaults := by
  unfold Scope.own Schema.Message.nameFaults
  cases placed.part.name with
  | none => exact Reports.error _ _
  | some name =>
    -- the members cannot fail, since every reference has been found
    obtain ⟨members, made⟩ := exists_results fun field inside =>
      Scope.exists_members (checked field inside)
    dsimp only
    rw [made]
    have maps : Reports (placed.part.enums.mapM (·.valueMap (placed.owners ++ [name])))
        (placed.part.enums.flatMap (·.nameFaults)) := by
      apply Reports.mapM
      intro enumeration _
      exact reports_valueMap _ enumeration
    exact maps.bind_ok fun _ _ => ⟨_, rfl⟩

theorem reports_ofFile {file : Schema.File} (resolves : index.Resolves file) :
    Reports (Typings.ofFile index file) file.nameFaults := by
  unfold Typings.ofFile Schema.File.nameFaults
  cases file.name with
  | none => exact Reports.error _ _
  | some path =>
    have parts : Reports (file.declaredMessages.mapM (Scope.own ⟨path, index⟩))
        (file.declaredMessages.flatMap (·.part.nameFaults)) := by
      apply Reports.mapM
      intro placed member
      exact reports_own ⟨path, index⟩ (resolves placed member)
    have fragment := parts.bind_ok fun parts _ => ⟨Fragment.join parts, rfl⟩
    have maps : Reports (file.enums.mapM (·.valueMap [])) (file.enums.flatMap (·.nameFaults)) := by
      apply Reports.mapM
      intro enumeration _
      exact reports_valueMap [] enumeration
    dsimp only
    rw [Scope.fragments_eq]
    apply fragment.bind
    intro _ _
    exact maps.bind_ok fun _ _ => ⟨_, rfl⟩

theorem reports_artifact {file : Schema.File} (resolves : index.Resolves file) :
    Reports (Artifact.ofFile index file) file.nameFaults :=
  (reports_ofFile resolves).bind_ok fun _ _ => ⟨_, rfl⟩

end Names

theorem Artifact.ofFile_eq_ok {index : TypeIndex} {file : Schema.File} {artifact : Artifact}
    (made : Artifact.ofFile index file = .ok artifact) :
    ∃ typings, Typings.ofFile index file = .ok typings ∧
      artifact = ⟨SchemaPath.artifactName file.path, typings.render⟩ := by
  obtain ⟨typings, emitted, made⟩ := bind_eq_ok.mp made
  exact ⟨typings, emitted, (Except.ok.inj made).symm⟩

theorem Artifact.names_ofFiles {index : TypeIndex} {files : List Schema.File}
    {artifacts : List Artifact}
    (each : List.Forall₂ (fun file artifact => Artifact.ofFile index file = .ok artifact)
      files artifacts) :
    artifacts.map (·.name) = files.map fun file => SchemaPath.artifactName file.path := by
  induction each with
  | nil => rfl
  | cons one _ ih =>
    obtain ⟨typings, _, rfl⟩ := Artifact.ofFile_eq_ok one
    rw [List.map_cons, List.map_cons, ih]

namespace Request

def wantedFiles (request : Request) : List Schema.File :=
  request.files.filter fun file => request.wanted.contains file.path

/-- The faults of the request in the order in which they are looked for. -/
def Faults (request : Request) (faults : List Fault) : Prop :=
  ∃ ofParameter, Settings.Faults (request.parameter.getD "").toList ofParameter ∧
    faults = ofParameter
      ++ request.files.flatMap (·.referenceFaults (declaredNames request.files))
      ++ request.wantedFiles.flatMap (·.nameFaults)

theorem exists_faults (request : Request) :
    ∃ faults, ∀ others, request.Faults others ↔ others = faults := by
  simp only [Faults, Settings.faults_iff, exists_eq_left]
  exact ⟨_, fun _ => Iff.rfl⟩

theorem Faults.reports {request : Request} {faults : List Fault} (known : request.Faults faults) :
    Reports request.artifacts faults := by
  obtain ⟨ofParameter, first, rfl⟩ := known
  unfold artifacts
  rw [List.append_assoc]
  apply first.reports.bind
  intro settings _
  apply (TypeIndex.reports_check request.files).bind
  intro _ checked
  have each (file : Schema.File) (member : file ∈ request.wantedFiles) :
      Reports (Artifact.ofFile (.ofFiles request.files) file) file.nameFaults := by
    have supplied : file ∈ request.files := List.mem_of_mem_filter member
    exact reports_artifact (TypeIndex.resolves_of_check checked supplied)
  exact (Reports.mapM each).bind_ok fun _ _ => ⟨_, rfl⟩

theorem artifacts_eq_ok {request : Request} {artifacts : List Artifact}
    (accepted : request.artifacts = .ok artifacts) :
    ∃ settings made, Settings.ofParameter (request.parameter.getD "") = .ok settings ∧
      List.Forall₂ (fun file artifact =>
        Artifact.ofFile (.ofFiles request.files) file = .ok artifact) request.wantedFiles made ∧
      artifacts = made ++ [Artifact.configuration settings (made.map (·.name))] := by
  obtain ⟨settings, set, accepted⟩ := bind_eq_ok.mp accepted
  obtain ⟨_, _, accepted⟩ := bind_eq_ok.mp accepted
  obtain ⟨made, each, accepted⟩ := bind_eq_ok.mp accepted
  cases accepted
  exact ⟨settings, made, set, mapM_eq_ok.mp each, rfl⟩

theorem exists_typings {request : Request} {artifacts : List Artifact}
    (accepted : request.artifacts = .ok artifacts) {file : Schema.File}
    (wanted : file ∈ request.wantedFiles) :
    ∃ typings, Typings.ofFile (.ofFiles request.files) file = .ok typings ∧
      ⟨SchemaPath.artifactName file.path, typings.render⟩ ∈ artifacts := by
  obtain ⟨settings, made, _, each, rfl⟩ := artifacts_eq_ok accepted
  obtain ⟨artifact, among, one⟩ := exists_result each wanted
  obtain ⟨typings, emitted, rfl⟩ := Artifact.ofFile_eq_ok one
  exact ⟨typings, emitted, List.mem_append_left _ among⟩

theorem names_of_artifacts {request : Request} {artifacts : List Artifact}
    (accepted : request.artifacts = .ok artifacts) :
    artifacts.map (·.name) =
      request.wantedFiles.map (fun file => SchemaPath.artifactName file.path)
        ++ [".flowconfig"] := by
  obtain ⟨settings, made, _, each, rfl⟩ := artifacts_eq_ok accepted
  rw [List.map_append, Artifact.names_ofFiles each]
  rfl

namespace Faults

variable {request : Request} {faults : List Fault}

theorem response_error (known : request.Faults faults) :
    request.response.error = faults.head?.map (·.report) := by
  have reports := known.reports
  unfold response
  cases run : request.artifacts with
  | ok artifacts =>
    rw [reports.eq_nil run]
    rfl
  | error fault =>
    rw [run] at reports
    have first : faults.head? = some fault := reports
    rw [first]
    rfl

theorem response_names (known : request.Faults faults) :
    request.response.artifacts.map (·.name) =
      if faults = [] then
        request.wantedFiles.map (fun file => SchemaPath.artifactName file.path) ++ [".flowconfig"]
      else [] := by
  have reports := known.reports
  unfold response
  cases run : request.artifacts with
  | ok artifacts =>
    rw [reports.eq_nil run, if_pos rfl]
    exact names_of_artifacts run
  | error fault =>
    rw [run] at reports
    have some_ : faults ≠ [] := by
      rintro rfl
      cases reports
    rw [if_neg some_]
    rfl

end Faults

/-- The response reports the first fault and has no artifacts, or there is no fault and it has
an artifact for every wanted file and the configuration. -/
theorem response_of_faults (request : Request) :
    ∃ faults, (∀ others, request.Faults others ↔ others = faults) ∧
      request.response.error = faults.head?.map (·.report) ∧
      request.response.artifacts.map (·.name) =
        if faults = [] then
          request.wantedFiles.map (fun file => SchemaPath.artifactName file.path) ++ [".flowconfig"]
        else [] := by
  obtain ⟨faults, only⟩ := request.exists_faults
  have known : request.Faults faults := (only faults).mpr rfl
  exact ⟨faults, only, known.response_error, known.response_names⟩

end Request

end SchemaTypings
