import SchemaTypings.Text.Basic

/-! The path of a schema file, the artifact that declares its types, and how other
artifacts refer to that one. -/
namespace SchemaTypings.SchemaPath

def stem (path : String) : String :=
  .ofList (Text.withoutEnding ".proto".toList path.toList)

def separatorToUnderscore (c : Char) : Char :=
  if c = '/' ∨ c = '-' ∨ c = '.' then '_' else c

/-- The identifier by which the declarations of the file at `path` are imported. -/
def identifier (path : String) : String :=
  .ofList ((stem path).toList.map separatorToUnderscore) ++ "_pb"

/-- The artifact for the file at `path`. Directories do not show in it. -/
def artifactName (path : String) : String :=
  stem (.ofList (Text.afterLast '/' path.toList)) ++ "_pb" ++ ".js.flow"

def moduleOf (artifact : String) : String :=
  .ofList (Text.withoutEnding ".js.flow".toList artifact.toList)

def ascent (path : String) : String :=
  match path.toList.count '/' with
  | 0 => "./"
  | depth => .join (.replicate depth "../")

def route (current dependency : String) : String :=
  ascent current ++ stem dependency ++ "_pb"

end SchemaTypings.SchemaPath
