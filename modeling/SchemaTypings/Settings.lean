import SchemaTypings.Fault
import SchemaTypings.Text.Basic
import SchemaTypings.Text.Blank

/-! The settings of a run, read from the parameter of the request: pairs of a key and a
value with `=` between them, separated by commas. Blanks around pairs, keys and values
do not count, nor do blank pairs. The one key there is may come again; the last value
holds. -/
namespace SchemaTypings

structure Settings where
  /-- where the declarations are, below the root of the project -/
  directory : String := "decls"
  deriving DecidableEq, Repr

namespace Settings

def pairs (parameter : List Char) : List (List Char) :=
  ((parameter.splitOn ',').map (Text.trim Text.isBlank)).filter (!·.isEmpty)

/-- The directory that a pair gives: no slashes at its ends, and not empty. -/
def directory? (pair : List Char) : Option (List Char) :=
  match Text.cut? '=' pair with
  | none => none
  | some (key, value) =>
    let directory := Text.trim (· == '/') (Text.trim Text.isBlank value)
    if Text.trim Text.isBlank key = "decls_dir".toList ∧ directory ≠ [] then some directory
    else none

def ofPairs (settings : Settings) : List (List Char) → Except Fault Settings
  | [] => .ok settings
  | pair :: rest =>
    match directory? pair with
    | some directory => ofPairs { settings with directory := .ofList directory } rest
    | none => .error (.malformedPair (.ofList pair))

def ofParameter (parameter : String) : Except Fault Settings :=
  ofPairs {} (pairs parameter.toList)

end Settings

end SchemaTypings
