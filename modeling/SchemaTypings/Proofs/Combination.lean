import SchemaTypings.Proofs.Mappers

/-! Requests that differ only in what they want. What a file gets does not depend on which other
files are wanted, so a request for what either of two others wants is accepted if both are, and
its artifacts are theirs, in the order of the files. -/
namespace SchemaTypings.Request

theorem error_eq_none_iff (request : Request) :
    request.response.error = none ↔ request.Faults [] := by
  obtain ⟨faults, only⟩ := request.exists_faults
  have known : request.Faults faults := (only faults).mpr rfl
  rw [known.response_error, Option.map_eq_none_iff, List.head?_eq_none_iff, only, eq_comm]

theorem faults_nil_iff (request : Request) :
    request.Faults [] ↔
      Settings.Faults (request.parameter.getD "").toList [] ∧
      (∀ file ∈ request.files, file.referenceFaults (declaredNames request.files) = []) ∧
      ∀ file ∈ request.files, file.path ∈ request.wanted → file.nameFaults = [] := by
  simp only [Faults, wantedFiles, List.nil_eq, List.append_eq_nil_iff, List.flatMap_eq_nil_iff,
    List.mem_filter, List.contains_iff_mem, and_imp, and_assoc, and_left_comm,
    exists_eq_left]

theorem exists_delivers_of_response {request : Request} (accepted : request.response.error = none) :
    ∃ settings made, request.Delivers settings made request.response.artifacts := by
  unfold response at accepted ⊢
  cases run : request.artifacts with
  | ok artifacts => exact exists_delivers run
  | error fault =>
    rw [run] at accepted
    cases accepted

/-- What the file gets wherever it is one of these files and wanted. -/
def artifactOf (files : List Schema.File) (file : Schema.File) : Artifact :=
  match Artifact.ofFile (.ofFiles files) file with
  | .ok artifact => artifact
  | .error _ => ⟨"", ""⟩

theorem made_eq_map {files wanted : List Schema.File} {made : List Artifact}
    (each : List.Forall₂ (fun file artifact => Artifact.ofFile (.ofFiles files) file = .ok artifact)
      wanted made) : made = wanted.map (artifactOf files) := by
  induction each with
  | nil => rfl
  | cons one _ ih => rw [List.map_cons, ← ih, artifactOf, one]

/-- `both` wants what `first` or `second` does, of the same files and with the same parameter. -/
structure Combines (first second both : Request) : Prop where
  files : first.files = both.files ∧ second.files = both.files
  parameter : first.parameter = both.parameter ∧ second.parameter = both.parameter
  wanted : ∀ path, path ∈ both.wanted ↔ path ∈ first.wanted ∨ path ∈ second.wanted

namespace Combines

variable {first second both : Request}

theorem swap (combines : Combines first second both) : Combines second first both where
  files := combines.files.symm
  parameter := combines.parameter.symm
  wanted path := (combines.wanted path).trans or_comm

theorem faults_nil_iff (combines : Combines first second both) :
    both.Faults [] ↔ first.Faults [] ∧ second.Faults [] := by
  simp only [Request.faults_nil_iff, combines.files, combines.parameter, combines.wanted]
  constructor
  · rintro ⟨parameter, references, names⟩
    exact ⟨⟨parameter, references, fun file given wanted => names file given (.inl wanted)⟩,
      parameter, references, fun file given wanted => names file given (.inr wanted)⟩
  · rintro ⟨⟨parameter, references, names⟩, _, _, others⟩
    exact ⟨parameter, references, fun file given wanted =>
      wanted.elim (names file given) (others file given)⟩

theorem wantedFiles_eq (combines : Combines first second both) :
    both.wantedFiles = both.files.filter fun file =>
      first.wanted.contains file.path || second.wanted.contains file.path := by
  unfold wantedFiles
  apply List.filter_congr
  intro file _
  rw [Bool.eq_iff_iff]
  simpa using combines.wanted file.path

theorem wantedFiles_sublist (combines : Combines first second both) :
    first.wantedFiles.Sublist both.wantedFiles := by
  unfold wantedFiles
  rw [combines.files.1]
  apply List.monotone_filter_right
  intro file wanted
  have member : file.path ∈ first.wanted := by simpa using wanted
  simpa using (combines.wanted file.path).mpr (.inl member)

/-- What is wanted does not matter for the settings and for the single artifacts. -/
theorem delivers_of_alike {request part : Request} {settings : Settings}
    (set : Settings.ofParameter (request.parameter.getD "") = .ok settings)
    (files : part.files = request.files) (parameter : part.parameter = request.parameter)
    (accepted : part.response.error = none) :
    part.Delivers settings (part.wantedFiles.map (artifactOf request.files))
      part.response.artifacts := by
  obtain ⟨others, made, delivers⟩ := exists_delivers_of_response accepted
  have same : others = settings := by
    have again := delivers.set
    rw [parameter, set] at again
    exact (Except.ok.inj again).symm
  have mapped := made_eq_map delivers.each
  rw [files] at mapped
  rw [← same, ← mapped]
  exact delivers

end Combines

/-- A request for what either of two others wants is accepted if and only if both are. A file that
is wanted gets one artifact in all of them, and so each of the two gets a part of the artifacts
and of the lines of the configuration, in the same order. -/
theorem response_of_combined {first second both : Request} (combines : Combines first second both) :
    (both.response.error = none ↔ first.response.error = none ∧ second.response.error = none) ∧
    both.wantedFiles = (both.files.filter fun file =>
      first.wanted.contains file.path || second.wanted.contains file.path) ∧
    (both.response.error = none → ∃ settings make,
      (∀ part ∈ [first, second, both],
        part.Delivers settings (part.wantedFiles.map make) part.response.artifacts) ∧
      ∀ part ∈ [first, second],
        (part.wantedFiles.map make).Sublist (both.wantedFiles.map make) ∧
        (settings.mapperLines (part.wantedFiles.map make)).Sublist
          (settings.mapperLines (both.wantedFiles.map make))) := by
  have accepts : both.response.error = none ↔
      first.response.error = none ∧ second.response.error = none := by
    simp only [error_eq_none_iff, combines.faults_nil_iff]
  refine ⟨accepts, combines.wantedFiles_eq, ?_⟩
  intro accepted
  obtain ⟨one, other⟩ := accepts.mp accepted
  obtain ⟨settings, _, delivers⟩ := exists_delivers_of_response accepted
  refine ⟨settings, artifactOf both.files, ?_, ?_⟩
  · simp only [List.forall_mem_cons]
    exact ⟨Combines.delivers_of_alike delivers.set combines.files.1 combines.parameter.1 one,
      Combines.delivers_of_alike delivers.set combines.files.2 combines.parameter.2 other,
      Combines.delivers_of_alike delivers.set rfl rfl accepted, by simp⟩
  · have parts : ∀ part ∈ [first, second], part.wantedFiles.Sublist both.wantedFiles := by
      simp [combines.wantedFiles_sublist, combines.swap.wantedFiles_sublist]
    intro part member
    have made := (parts part member).map (artifactOf both.files)
    exact ⟨made, made.map _⟩

end SchemaTypings.Request

namespace SchemaTypings.Shop

def itemRequest : Request := { wanted := ["shop/item.proto"], files := [itemFile, orderFile] }

/-- The artifacts of the items and of the orders together are those that each gets alone. -/
theorem items_and_orders :
    ∃ item order configuration, bothRequest.response.artifacts = [item, order, configuration] ∧
      (∃ other, itemRequest.response.artifacts = [item, other]) ∧
      ∃ other, orderRequest.response.artifacts = [order, other] := by
  have combines : Request.Combines itemRequest orderRequest bothRequest :=
    ⟨⟨rfl, rfl⟩, ⟨rfl, rfl⟩, fun path => by
      simp [itemRequest, orderRequest, bothRequest, or_comm]⟩
  obtain ⟨_, _, gets⟩ := Request.response_of_combined combines
  have accepted : bothRequest.response.error = none := by decide +kernel
  obtain ⟨settings, make, delivers, _⟩ := gets accepted
  simp only [List.forall_mem_cons] at delivers
  obtain ⟨items, orders, all, _⟩ := delivers
  exact ⟨make itemFile, make orderFile, _, all.all_eq, ⟨_, items.all_eq⟩, ⟨_, orders.all_eq⟩⟩

end SchemaTypings.Shop
