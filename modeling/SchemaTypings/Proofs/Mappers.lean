import SchemaTypings.Proofs.ForeignReferences
import SchemaTypings.Proofs.Routes

/-! Whether the configuration leads imports to their artifacts. Its lines go by the endings of
texts only: an import ends with a slash and the stem of the artifact that it means, so the line
of that artifact takes it; and so does each line with a stem that the meant one ends with. -/
namespace SchemaTypings

/-- A line of the configuration: what is imported with this ending is looked up at `target`. -/
structure Mapper where
  stem : String
  target : String
  deriving DecidableEq, Repr

namespace Mapper

def render (mapper : Mapper) : String :=
  "module.name_mapper='^\\(.*\\)" ++ mapper.stem ++ "\\(\\.js\\)?$' -> '<PROJECT_ROOT>/"
    ++ mapper.target ++ "'\n"

/-- What the pattern of the line says, if the stem stands for itself. -/
def Matches (mapper : Mapper) (text : String) : Prop :=
  mapper.stem.toList <:+ text.toList ∨ (mapper.stem ++ ".js").toList <:+ text.toList

instance (mapper : Mapper) (text : String) : Decidable (mapper.Matches text) :=
  inferInstanceAs (Decidable (_ ∨ _))

end Mapper

def Settings.mapper (settings : Settings) (artifact : String) : Mapper :=
  ⟨SchemaPath.moduleOf artifact, settings.directory ++ "/" ++ artifact⟩

theorem Settings.render_mapper (settings : Settings) (artifact : String) :
    (settings.mapper artifact).render = Artifact.mapperLine settings artifact := by
  unfold Mapper.render Artifact.mapperLine mapper
  simp only [String.append_assoc]

def Settings.mapperLines (settings : Settings) (artifacts : List Artifact) : List String :=
  artifacts.map fun artifact => (settings.mapper artifact.name).render

/-- What an accepted request gets: the artifacts made for the wanted files, in their order, and
then the configuration with a line for each of these. -/
structure Request.Delivers (request : Request) (settings : Settings) (made all : List Artifact) :
    Prop where
  set : Settings.ofParameter (request.parameter.getD "") = .ok settings
  each : List.Forall₂ (fun file artifact => Artifact.ofFile (.ofFiles request.files) file =
    .ok artifact) request.wantedFiles made
  all_eq : all = made ++ [⟨".flowconfig", "[ignore]\n\n[include]\n\n[libs]\n\n[options]\n" ++
    .join (settings.mapperLines made)⟩]

theorem Request.exists_delivers {request : Request} {artifacts : List Artifact}
    (accepted : request.artifacts = .ok artifacts) :
    ∃ settings made, request.Delivers settings made artifacts := by
  obtain ⟨settings, made, set, each, rfl⟩ := artifacts_eq_ok accepted
  refine ⟨settings, made, set, each, ?_⟩
  unfold Artifact.configuration Settings.mapperLines
  simp only [Settings.render_mapper, List.map_map, Function.comp_def]

namespace SchemaPath

theorem moduleOf_artifactName (path : String) :
    moduleOf (artifactName path) = stem (.ofList (Text.afterLast '/' path.toList)) ++ "_pb" := by
  unfold moduleOf artifactName
  rw [String.toList_append, Text.withoutEnding_append, String.ofList_toList]

theorem artifactName_inj {first second : String}
    (same : moduleOf (artifactName first) = moduleOf (artifactName second)) :
    artifactName first = artifactName second := by
  rw [moduleOf_artifactName, moduleOf_artifactName] at same
  unfold artifactName
  rw [same]

theorem slash_not_mem_moduleOf (path : String) :
    '/' ∉ (moduleOf (artifactName path)).toList := by
  have last : '/' ∉ (String.ofList (Text.afterLast '/' path.toList)).toList := by
    rw [String.toList_ofList]
    rcases Text.exists_last '/' path.toList with absent | ⟨before, last, split, absent⟩
    · rwa [Text.afterLast_of_not_mem absent]
    · rwa [split, Text.afterLast_append before absent]
  rw [moduleOf_artifactName]
  exact slash_not_mem_stem last

theorem exists_ascent (path : String) : ∃ lead, ascent path = lead ++ "/" := by
  unfold ascent
  cases path.toList.count '/' with
  | zero => exact ⟨".", by decide⟩
  | succ depth =>
    have up : "../" = ".." ++ "/" := by decide
    refine ⟨.join (.replicate depth "../") ++ "..", ?_⟩
    change String.join (.replicate (depth + 1) "../") = _
    rw [List.replicate_succ', String.join_append, String.append_assoc, ← up]
    simp

theorem stem_eq (path : String) :
    ∃ lead, stem path = lead ++ stem (.ofList (Text.afterLast '/' path.toList)) ∧
      (lead = "" ∨ ∃ directory, lead = directory ++ "/") := by
  rcases last_slash path with absent | ⟨directory, last, rfl, absent⟩
  · refine ⟨"", ?_, .inl rfl⟩
    rw [Text.afterLast_of_not_mem absent, String.ofList_toList, String.empty_append]
  · refine ⟨directory ++ "/", ?_, .inr ⟨directory, rfl⟩⟩
    rw [toList_below, Text.afterLast_append _ absent, String.ofList_toList, stem_append]

/-- The route to a file ends with a slash and the module of its artifact. -/
theorem route_eq (current dependency : String) :
    ∃ lead, route current dependency = lead ++ "/" ++ moduleOf (artifactName dependency) := by
  obtain ⟨up, ascends⟩ := exists_ascent current
  obtain ⟨lead, cut, above⟩ := stem_eq dependency
  rw [moduleOf_artifactName, route, ascends, cut]
  rcases above with rfl | ⟨directory, rfl⟩
  · exact ⟨up, by simp only [String.append_assoc, String.empty_append]⟩
  · exact ⟨up ++ "/" ++ directory, by simp only [String.append_assoc]⟩

/-- A route is taken by the lines whose stem ends the module that it leads to. -/
theorem matches_route_iff (settings : Settings) (current dependency artifact : String) :
    (settings.mapper (artifactName artifact)).Matches (route current dependency ++ ".js") ↔
      (moduleOf (artifactName artifact)).toList <:+
        (moduleOf (artifactName dependency)).toList := by
  obtain ⟨lead, leads⟩ := route_eq current dependency
  have slash := slash_not_mem_moduleOf artifact
  have js : ".js".toList = ['.', 'j'] ++ ['s'] := by decide
  have pb : "_pb".toList = ['_', 'p'] ++ ['b'] := by decide
  -- the stem ends with another letter than the route
  have short : ¬ (moduleOf (artifactName artifact)).toList <:+
      (route current dependency ++ ".js").toList := by
    rw [String.toList_append, js, ← List.append_assoc, List.suffix_concat_iff,
      moduleOf_artifactName, String.toList_append, pb, ← List.append_assoc]
    rintro (none | ⟨front, same, _⟩)
    · simp at none
    · have letters := (List.append_inj' same rfl).2
      simp at letters
  unfold Mapper.Matches Settings.mapper
  rw [or_iff_right short, String.toList_append, String.toList_append, List.suffix_append_self_iff,
    leads, String.toList_append, String.toList_append, List.append_assoc]
  exact Text.suffix_behind_iff lead.toList slash

end SchemaPath

/-- The statements of an import, which name one source. -/
def Import.statements (entry : Import) (source : String) : String :=
  "import * as " ++ entry.module ++ " from \"" ++ source ++ "\";\n" ++
    if entry.types.toList = [] then "" else
      "import type \x7b" ++ String.intercalate ", " entry.types.toList ++ "\x7d from \"" ++
        source ++ "\";\n"

theorem Import.render_eq_statements (entry : Import) :
    entry.render = entry.statements (entry.path ++ ".js") := by
  have source : ".js\";\n" = ".js" ++ "\";\n" := by decide
  unfold statements
  rw [Import.render_eq, source]
  simp only [String.append_assoc]

section Typings

variable {index : TypeIndex} {file : Schema.File} {typings : Typings}

theorem Typings.routes_eq (made : Typings.ofFile index file = .ok typings) :
    typings.imports.map (·.path) = file.dependencies.map (SchemaPath.route file.path) := by
  obtain ⟨needs, shares, _⟩ := Typings.imports_eq made
  apply List.ext_getElem?
  intro k
  rw [shares, List.getElem?_map, List.getElem?_map, getElem?_importsOf, Option.map_map]
  rfl

theorem Typings.exists_dependency (made : Typings.ofFile index file = .ok typings) {k : Nat}
    {entry : Import} (at_ : typings.imports[k]? = some entry) :
    ∃ dependency, file.dependencies[k]? = some dependency ∧
      entry.path = SchemaPath.route file.path dependency := by
  have place := congrArg (·[k]?) (routes_eq made)
  simp only [List.getElem?_map, at_, Option.map_some] at place
  obtain ⟨dependency, there, route⟩ := Option.map_eq_some_iff.mp place.symm
  exact ⟨dependency, there, route.symm⟩

theorem Typings.exists_import (made : Typings.ofFile index file = .ok typings)
    {dependency : String} (depends : dependency ∈ file.dependencies) :
    ∃ entry ∈ typings.imports, entry.path = SchemaPath.route file.path dependency := by
  have route := List.mem_map_of_mem (f := SchemaPath.route file.path) depends
  rw [← routes_eq made] at route
  exact List.mem_map.mp route

end Typings

section Deliveries

variable {request : Request} {settings : Settings} {made all : List Artifact}

theorem Request.Delivers.exists_artifact_at (delivers : request.Delivers settings made all)
    {i : Nat} {file : Schema.File} (wanted : request.wantedFiles[i]? = some file) :
    ∃ typings, Typings.ofFile (.ofFiles request.files) file = .ok typings ∧
      made[i]? = some ⟨SchemaPath.artifactName file.path, typings.render⟩ := by
  obtain ⟨artifact, found, one⟩ := exists_result_at delivers.each wanted
  obtain ⟨typings, emitted, rfl⟩ := Artifact.ofFile_eq_ok one
  exact ⟨typings, emitted, found⟩

theorem Request.Delivers.exists_artifact (delivers : request.Delivers settings made all)
    {file : Schema.File} (wanted : file ∈ request.wantedFiles) :
    ∃ typings, Typings.ofFile (.ofFiles request.files) file = .ok typings ∧
      ⟨SchemaPath.artifactName file.path, typings.render⟩ ∈ made := by
  obtain ⟨i, at_⟩ := List.mem_iff_getElem?.mp wanted
  obtain ⟨typings, emitted, found⟩ := delivers.exists_artifact_at at_
  exact ⟨typings, emitted, List.mem_of_getElem? found⟩

end Deliveries

/-- The route to a file always ends with a slash and the module of its artifact. So whatever an
artifact imports of a file that is typed too is looked up where the artifact of that file is. -/
theorem imports_lead_to_artifacts :
    (∀ current dependency, ∃ lead, SchemaPath.route current dependency =
      lead ++ "/" ++ SchemaPath.moduleOf (SchemaPath.artifactName dependency)) ∧
    ∀ (request : Request) (artifacts : List Artifact), request.artifacts = .ok artifacts →
      ∃ settings made, request.Delivers settings made artifacts ∧
        ∀ (i : Nat) (file : Schema.File), request.wantedFiles[i]? = some file →
          ∃ typings, Typings.ofFile (.ofFiles request.files) file = .ok typings ∧
            made[i]? = some ⟨SchemaPath.artifactName file.path, typings.render⟩ ∧
            ∀ (k : Nat) (entry : Import), typings.imports[k]? = some entry →
              ∃ dependency source, file.dependencies[k]? = some dependency ∧
                source = SchemaPath.route file.path dependency ++ ".js" ∧
                entry.render = entry.statements source ∧
                ∀ (j : Nat) (other : Schema.File), request.wantedFiles[j]? = some other →
                  other.path = dependency →
                  ∃ artifact, made[j]? = some artifact ∧
                    artifact.name = SchemaPath.artifactName dependency ∧
                    (settings.mapper artifact.name).Matches source ∧
                    (settings.mapper artifact.name).target =
                      settings.directory ++ "/" ++ artifact.name := by
  refine ⟨SchemaPath.route_eq, ?_⟩
  intro request artifacts accepted
  obtain ⟨settings, made, delivers⟩ := Request.exists_delivers accepted
  refine ⟨settings, made, delivers, ?_⟩
  intro i file wanted
  obtain ⟨typings, emitted, found⟩ := delivers.exists_artifact_at wanted
  refine ⟨typings, emitted, found, ?_⟩
  intro k entry at_
  obtain ⟨dependency, depends, route⟩ := Typings.exists_dependency emitted at_
  refine ⟨dependency, _, depends, rfl, route ▸ entry.render_eq_statements, ?_⟩
  rintro j other generated rfl
  obtain ⟨_, _, there⟩ := delivers.exists_artifact_at generated
  have matched := SchemaPath.matches_route_iff settings file.path other.path other.path
  exact ⟨_, there, rfl, matched.mpr List.suffix_rfl, rfl⟩

namespace Shop

def bothRequest : Request :=
  { wanted := ["shop/order.proto", "shop/item.proto"], files := [itemFile, orderFile] }

/-- What the typings of the orders import of the items is taken by the line of the items. -/
theorem items_found :
    ∃ (settings : Settings) (made artifacts : List Artifact) (artifact : Artifact),
      bothRequest.artifacts = .ok artifacts ∧ bothRequest.Delivers settings made artifacts ∧
      made[0]? = some artifact ∧ artifact.name = "item_pb.js.flow" ∧
      (settings.mapper artifact.name).Matches "../shop/item_pb.js" := by
  obtain ⟨artifacts, accepted⟩ : ∃ artifacts, bothRequest.artifacts = .ok artifacts :=
    exists_value (by decide +kernel)
  obtain ⟨settings, made, delivers, each⟩ :=
    imports_lead_to_artifacts.2 bothRequest artifacts accepted
  have files : bothRequest.wantedFiles = [itemFile, orderFile] := rfl
  obtain ⟨typings, emitted, _, imports⟩ := each 1 orderFile (by rw [files]; rfl)
  obtain ⟨entry, at_⟩ : ∃ entry, typings.imports[0]? = some entry := by
    obtain ⟨needs, shares, _⟩ := Typings.imports_eq emitted
    rw [shares]
    exact ⟨_, rfl⟩
  obtain ⟨dependency, source, depends, same, _, found⟩ := imports 0 entry at_
  cases depends
  subst same
  obtain ⟨artifact, there, name, taken, _⟩ := found 0 itemFile (by rw [files]; rfl) rfl
  have route : SchemaPath.route orderFile.path "shop/item.proto" ++ ".js" =
      "../shop/item_pb.js" := by decide +kernel
  have artifactName : SchemaPath.artifactName "shop/item.proto" = "item_pb.js.flow" := by
    decide +kernel
  exact ⟨settings, made, artifacts, artifact, accepted, delivers, there, name.trans artifactName,
    route ▸ taken⟩

def reorderFile : Schema.File := { name := some "shop/reorder.proto" }

def cartFile : Schema.File :=
  { name := some "shop/cart.proto", dependencies := ["shop/reorder.proto"] }

/-- The name of the first file is an ending of that of the second one. -/
def cartRequest : Request :=
  { wanted := ["shop/cart.proto", "shop/order.proto", "shop/reorder.proto"]
    files := [itemFile, orderFile, reorderFile, cartFile] }

theorem cart_accepted : ∃ artifacts, cartRequest.artifacts = .ok artifacts :=
  exists_value (by decide +kernel)

theorem wanted_of_cart : cartRequest.wantedFiles = [orderFile, reorderFile, cartFile] := rfl

end Shop

theorem suffix_iff_of_ne {ending text : String} (differ : ending ≠ text) :
    ending.toList <:+ text.toList ↔ ∃ lead, lead ≠ "" ∧ text = lead ++ ending := by
  constructor
  · rintro ⟨lead, whole⟩
    have same : text = .ofList lead ++ ending := String.toList_inj.mp (by simp [whole])
    refine ⟨.ofList lead, ?_, same⟩
    intro empty
    rw [empty, String.empty_append] at same
    exact differ same.symm
  · rintro ⟨lead, _, rfl⟩
    rw [String.toList_append]
    exact List.suffix_append _ _

/-- The line of another artifact takes an import as well if, and only if, the module that is
meant ends with the module of that artifact. -/
theorem captured_iff_ending {request : Request} {artifacts : List Artifact}
    (accepted : request.artifacts = .ok artifacts) {file other : Schema.File}
    (wanted : file ∈ request.wantedFiles) {dependency : String}
    (depends : dependency ∈ file.dependencies) (besides : other ∈ request.wantedFiles)
    (differ : SchemaPath.artifactName other.path ≠ SchemaPath.artifactName dependency) :
    ∃ settings made typings, request.Delivers settings made artifacts ∧
      Typings.ofFile (.ofFiles request.files) file = .ok typings ∧
      ⟨SchemaPath.artifactName file.path, typings.render⟩ ∈ made ∧
      (∃ entry ∈ typings.imports, entry.path = SchemaPath.route file.path dependency) ∧
      ∃ artifact ∈ made, artifact.name = SchemaPath.artifactName other.path ∧
        ((settings.mapper artifact.name).Matches
            (SchemaPath.route file.path dependency ++ ".js") ↔
          ∃ lead, lead ≠ "" ∧ SchemaPath.moduleOf (SchemaPath.artifactName dependency) =
            lead ++ SchemaPath.moduleOf artifact.name) := by
  obtain ⟨settings, made, delivers⟩ := Request.exists_delivers accepted
  obtain ⟨typings, emitted, here⟩ := delivers.exists_artifact wanted
  obtain ⟨more, _, there⟩ := delivers.exists_artifact besides
  refine ⟨settings, made, typings, delivers, emitted, here, ?_, _, there, rfl, ?_⟩
  · exact Typings.exists_import emitted depends
  · rw [SchemaPath.matches_route_iff, suffix_iff_of_ne]
    exact mt SchemaPath.artifactName_inj differ

namespace Shop

theorem order_captures :
    ∃ (settings : Settings) (made artifacts : List Artifact) (artifact : Artifact),
      cartRequest.artifacts = .ok artifacts ∧ cartRequest.Delivers settings made artifacts ∧
      artifact ∈ made ∧ artifact.name = "order_pb.js.flow" ∧
      (settings.mapper artifact.name).Matches "../shop/reorder_pb.js" := by
  obtain ⟨artifacts, accepted⟩ := cart_accepted
  have wanted : cartFile ∈ cartRequest.wantedFiles := by simp [wanted_of_cart]
  have depends : "shop/reorder.proto" ∈ cartFile.dependencies := List.mem_cons_self
  have besides : orderFile ∈ cartRequest.wantedFiles := by simp [wanted_of_cart]
  obtain ⟨settings, made, typings, delivers, _, _, _, artifact, among, name, captured⟩ :=
    captured_iff_ending accepted wanted depends besides (by decide +kernel)
  have artifactName : SchemaPath.artifactName orderFile.path = "order_pb.js.flow" := by
    decide +kernel
  have route : SchemaPath.route cartFile.path "shop/reorder.proto" ++ ".js" =
      "../shop/reorder_pb.js" := by decide +kernel
  rw [name, artifactName, route] at captured
  refine ⟨settings, made, artifacts, artifact, accepted, delivers, among,
    name.trans artifactName, ?_⟩
  rw [name, artifactName]
  exact captured.mpr ⟨"re", by decide, by decide +kernel⟩

end Shop

/-- The line of an artifact can take imports of other modules. -/
theorem captured_by_ending :
    ¬ ∀ (request : Request) (artifacts : List Artifact) (file target other : Schema.File),
      request.artifacts = .ok artifacts → (request.files.map (·.path)).Nodup →
      file ∈ request.wantedFiles → target ∈ request.wantedFiles → other ∈ request.wantedFiles →
      target.path ∈ file.dependencies →
      SchemaPath.artifactName other.path ≠ SchemaPath.artifactName target.path →
      ∃ settings made, request.Delivers settings made artifacts ∧
        ¬ (settings.mapper (SchemaPath.artifactName other.path)).Matches
          (SchemaPath.route file.path target.path ++ ".js") := by
  intro always
  obtain ⟨artifacts, accepted⟩ := Shop.cart_accepted
  obtain ⟨settings, made, _, free⟩ := always Shop.cartRequest artifacts Shop.cartFile
    Shop.reorderFile Shop.orderFile accepted (by decide +kernel) (by simp [Shop.wanted_of_cart])
    (by simp [Shop.wanted_of_cart]) (by simp [Shop.wanted_of_cart]) List.mem_cons_self
    (by decide +kernel)
  apply free
  rw [SchemaPath.matches_route_iff]
  decide +kernel

end SchemaTypings
