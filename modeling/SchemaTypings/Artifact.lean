import SchemaTypings.Fragment
import SchemaTypings.Settings
import SchemaTypings.Typings

/-! The generated files: the typings of each schema file, and a configuration by which
the type checker finds them. -/
namespace SchemaTypings

structure Artifact where
  name : String
  content : String
  deriving DecidableEq, Repr

/-- What the file at `path` imports, an entry for each dependency. The names needed of a
module go to the first dependency with that module. -/
def importsOf (path : String) : (dependencies : List String) → Needs → List Import
  | [], _ => []
  | dependency :: rest, needs =>
    let module := SchemaPath.identifier dependency
    let (types, needs) := needs.take module
    ⟨module, SchemaPath.route path dependency, types⟩ :: importsOf path rest needs

def Typings.ofFile (index : TypeIndex) (file : Schema.File) : Except Fault Typings :=
  match file.name with
  | none => .error (.nameless "file")
  | some path => do
    let fragment ← Scope.fragments ⟨path, index⟩ [] file.messages
    let maps ← file.enums.mapM (·.valueMap [])
    .ok ⟨importsOf path file.dependencies fragment.needs,
      fragment.declarations ++ maps.map .ofValues⟩

namespace Artifact

def ofFile (index : TypeIndex) (file : Schema.File) : Except Fault Artifact := do
  let typings ← Typings.ofFile index file
  .ok ⟨SchemaPath.artifactName file.path, typings.render⟩

def mapperLine (settings : Settings) (name : String) : String :=
  "module.name_mapper='^\\(.*\\)" ++ SchemaPath.moduleOf name
    ++ "\\(\\.js\\)?$' -> '<PROJECT_ROOT>/" ++ settings.directory ++ "/" ++ name ++ "'\n"

def configuration (settings : Settings) (names : List String) : Artifact :=
  ⟨".flowconfig", "[ignore]\n\n[include]\n\n[libs]\n\n[options]\n"
    ++ .join (names.map (mapperLine settings))⟩

end Artifact

end SchemaTypings
