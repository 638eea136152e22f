import SchemaTypings.Artifact
import SchemaTypings.Schema.Record
import SchemaTypings.Wire.Record.Decode

/-! Requests of the schema compiler, and the response to each: all artifacts that it asks
for, or one fault and nothing else. Both are records of the wire. -/
namespace SchemaTypings

open Wire (Value Record)

/-- The paths of the files to make typings for, and every file that they may refer to. -/
structure Request where
  wanted : List String := []
  parameter : Option String := none
  files : List Schema.File := []
  deriving Repr

structure Response where
  error : Option String := none
  artifacts : List Artifact := []
  deriving DecidableEq, Repr

namespace Request

/-- The artifacts for the wanted files, in the order of the supplied ones, and last the
configuration for them. References are checked in all files, wanted or not. -/
def artifacts (request : Request) : Except Fault (List Artifact) := do
  let settings ← Settings.ofParameter (request.parameter.getD "")
  let index := TypeIndex.ofFiles request.files
  index.check request.files
  let wanted := request.files.filter fun file => request.wanted.contains file.path
  let artifacts ← wanted.mapM (Artifact.ofFile index)
  .ok (artifacts ++ [Artifact.configuration settings (artifacts.map (·.name))])

def precede : Nat × Value → Request → Request
  | (1, .text s), request => { request with wanted := s :: request.wanted }
  | (2, .text s), request => { request with parameter := request.parameter.or (some s) }
  | (15, .record r), request => { request with files := Schema.File.ofRecord r :: request.files }
  | _, request => request

def ofRecord (record : Record) : Request := record.foldr precede {}

def toRecord (request : Request) : Record :=
  request.wanted.map (fun s => (1, .text s)) ++ Schema.textField 2 request.parameter
    ++ Schema.recordFields 15 (request.files.map (·.toRecord))

def encode (request : Request) : List UInt8 := Wire.encodeRecord request.toRecord

def decode (bytes : List UInt8) : Except Fault Request :=
  match Wire.decodeRecord .request bytes with
  | .ok record => .ok (ofRecord record)
  | .error fault => .error (.undecodable fault)

end Request

namespace Artifact

def toRecord (artifact : Artifact) : Record :=
  [(1, .text artifact.name), (15, .text artifact.content)]

def precede : Nat × Value → Option String × Option String → Option String × Option String
  | (1, .text s), (name, content) => (name.or (some s), content)
  | (15, .text s), (name, content) => (name, content.or (some s))
  | _, fields => fields

def ofRecord (record : Record) : Artifact :=
  let (name, content) := record.foldr precede (none, none)
  ⟨name.getD "", content.getD ""⟩

end Artifact

namespace Response

def ofResult : Except Fault (List Artifact) → Response
  | .ok artifacts => { artifacts }
  | .error fault => { error := some fault.report }

def toRecord (response : Response) : Record :=
  Schema.textField 1 response.error ++ Schema.recordFields 15 (response.artifacts.map (·.toRecord))

def precede : Nat × Value → Response → Response
  | (1, .text s), response => { response with error := response.error.or (some s) }
  | (15, .record r), response =>
    { response with artifacts := Artifact.ofRecord r :: response.artifacts }
  | _, response => response

def ofRecord (record : Record) : Response := record.foldr precede {}

def encode (response : Response) : List UInt8 := Wire.encodeRecord response.toRecord

def decode (bytes : List UInt8) : Except Wire.Fault Response :=
  (Wire.decodeRecord .response bytes).map ofRecord

end Response

def Request.response (request : Request) : Response := .ofResult request.artifacts

/-- The response to the bytes of a request. Bytes that are none are one more fault. -/
def Response.ofBytes (bytes : List UInt8) : Response :=
  .ofResult (Request.decode bytes >>= Request.artifacts)

end SchemaTypings
