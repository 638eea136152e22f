import SchemaTypings.Declaration
import SchemaTypings.NameSet

/-! The typings of one schema file: what is imported, then all declarations. -/
namespace SchemaTypings

/-- A module as a whole, and names of types from it. -/
structure Import where
  module : String
  path : String
  types : NameSet := .empty
  deriving DecidableEq, Repr

/-- The line for the types is there only if there are any. -/
def Import.render (entry : Import) : String :=
  let source := " from \"" ++ entry.path ++ ".js\";\n"
  "import * as " ++ entry.module ++ source
    ++ if entry.types.isEmpty then ""
      else "import type \x7b" ++ String.intercalate ", " entry.types.toList ++ "\x7d" ++ source

structure Typings where
  imports : List Import := []
  declarations : List Declaration := []
  deriving Repr

namespace Typings

def header : String := "// @flow\n// GENERATED CODE -- DO NOT EDIT!\n\n"

def render (typings : Typings) : String :=
  header ++ .join (typings.imports.map (·.render))
    ++ (if typings.imports.isEmpty then "" else "\n")
    ++ .join (typings.declarations.map (·.render))

def withImport (entry : Import) (typings : Typings) : Typings :=
  { typings with imports := typings.imports ++ [entry] }

def withDeclarations (declarations : List Declaration) (typings : Typings) : Typings :=
  { typings with declarations := typings.declarations ++ declarations }

end Typings

end SchemaTypings
