import SchemaTypings.Plugin
import SchemaTypings.Proofs.Combination
import SchemaTypings.Proofs.Descriptions
import SchemaTypings.Proofs.Nesting

/-! A run of the plugin between bytes and bytes. Whoever reads what a run has written gets the
response that was meant, and a request gets its response by way of its bytes. -/
namespace SchemaTypings

theorem SchemaPath.artifactName_ne_configuration (path : String) :
    artifactName path ≠ ".flowconfig" := by
  intro same
  have ending : ".js.flow".toList <:+ ".flowconfig".toList := by
    rw [← same, artifactName, String.toList_append]
    exact List.suffix_append _ _
  exact absurd ending (by decide)

/-- A report and nothing else, or artifacts of which the last one, and no other, is the
configuration. -/
def Response.AllOrNothing (response : Response) : Prop :=
  (∃ report, response = { error := some report }) ∨
    ∃ made configuration, response = { artifacts := made ++ [configuration] } ∧
      configuration.name = ".flowconfig" ∧ ∀ artifact ∈ made, artifact.name ≠ ".flowconfig"

namespace Request

theorem decode_encode {request : Request}
    (depth : Wire.recordDepth request.toRecord ≤ Wire.nestingBudget)
    (short : request.encode.length < Wire.addressSpace) :
    decode request.encode = .ok request := by
  have read := Wire.decodeRecord_encodeRecord request.fits_toRecord depth short
  unfold decode encode
  rw [read]
  exact congrArg Except.ok request.ofRecord_toRecord

/-- The budget is exact: a request that is deeper is refused. -/
theorem decode_deep {request : Request}
    (deep : Wire.nestingBudget < Wire.recordDepth request.toRecord)
    (short : request.encode.length < Wire.addressSpace) :
    ∃ places, decode request.encode = .error (.undecodable ⟨.recursionLimit, places⟩) := by
  obtain ⟨places, stops⟩ := Wire.decodeRecord_deep request.fits_toRecord deep short
  refine ⟨places, ?_⟩
  unfold decode encode
  rw [stops]

theorem Delivers.name_ne_configuration {request : Request} {settings : Settings}
    {made all : List Artifact} (delivers : request.Delivers settings made all)
    {artifact : Artifact} (mem : artifact ∈ made) : artifact.name ≠ ".flowconfig" := by
  have named : artifact.name ∈ made.map (·.name) := List.mem_map_of_mem mem
  rw [Artifact.names_ofFiles delivers.each] at named
  obtain ⟨file, _, name⟩ := List.mem_map.mp named
  exact name ▸ SchemaPath.artifactName_ne_configuration file.path

theorem allOrNothing_response (request : Request) : request.response.AllOrNothing := by
  unfold response
  cases run : request.artifacts with
  | error fault => exact .inl ⟨fault.report, rfl⟩
  | ok artifacts =>
    obtain ⟨settings, made, delivers⟩ := exists_delivers run
    obtain rfl := delivers.all_eq
    exact .inr ⟨made, _, rfl, rfl, fun _ mem => delivers.name_ne_configuration mem⟩

end Request

namespace Response

theorem depth_le (response : Response) :
    Wire.recordDepth response.toRecord ≤ Wire.nestingBudget := by
  rw [Wire.recordDepth_le_iff]
  intro entry mem
  simp only [toRecord, List.mem_append, Schema.mem_textField, Schema.mem_recordFields,
    List.mem_map] at mem
  obtain ⟨s, _, rfl⟩ | ⟨_, ⟨artifact, _, rfl⟩, rfl⟩ := mem
  · exact Nat.zero_le _
  · have flat : Wire.recordDepth artifact.toRecord = 0 := by
      simp [Artifact.toRecord, Wire.recordDepth, Wire.Value.depth]
    simp [Wire.Value.depth, flat, Wire.nestingBudget]

theorem decode_encode {response : Response}
    (short : response.encode.length < Wire.addressSpace) :
    decode response.encode = .ok response := by
  have read := Wire.decodeRecord_encodeRecord response.fits_toRecord response.depth_le short
  unfold decode encode
  rw [read]
  exact congrArg Except.ok response.ofRecord_toRecord

theorem ofBytes_of_decode {bytes : List UInt8} {request : Request}
    (read : Request.decode bytes = .ok request) : ofBytes bytes = request.response := by
  unfold ofBytes
  rw [read]
  rfl

theorem allOrNothing_ofBytes (bytes : List UInt8) : (ofBytes bytes).AllOrNothing := by
  cases read : Request.decode bytes with
  | ok request =>
    rw [ofBytes_of_decode read]
    exact request.allOrNothing_response
  | error fault =>
    unfold ofBytes
    rw [read]
    exact .inl ⟨fault.report, rfl⟩

end Response

/-- Any bytes are answered: a run succeeds, and what it has written is read as the response to
them, which is a report or all artifacts. The bytes of a request get the response to the request.
Lengths are written in 64 bits, so nothing is said of more bytes than could be addressed. -/
theorem Plugin.run_delivers (input : List UInt8) :
    (run input).status = 0 ∧
    ((run input).output.length < Wire.addressSpace →
      Response.decode (run input).output = .ok (Response.ofBytes input)) ∧
    (Response.ofBytes input).AllOrNothing ∧
    ∀ request : Request, request.encode = input → input.length < Wire.addressSpace →
      Wire.recordDepth request.toRecord ≤ Wire.nestingBudget →
        Response.ofBytes input = request.response := by
  refine ⟨rfl, Response.decode_encode, Response.allOrNothing_ofBytes input, ?_⟩
  rintro request rfl short depth
  exact Response.ofBytes_of_decode (Request.decode_encode depth short)

namespace Shop

/-- A run on the bytes of a request for the items writes the bytes of their typings. -/
theorem items_delivered :
    Response.decode (Plugin.run itemRequest.encode).output = .ok itemRequest.response ∧
      itemRequest.response.error = none := by
  obtain ⟨_, reads, _, answers⟩ := Plugin.run_delivers itemRequest.encode
  have same := answers itemRequest rfl (by decide +kernel) (by decide +kernel)
  exact ⟨same ▸ reads (by decide +kernel), by decide +kernel⟩

end Shop

end SchemaTypings
