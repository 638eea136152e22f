/-! Where a type is declared: the names of the messages around it, the outermost first,
and then its own. Schemas write such a path with dots after the package, declarations
with dollar signs. -/
namespace SchemaTypings

abbrev TypePath := List String

def TypePath.flat (path : TypePath) : String := String.intercalate "$" path

/-- What stands before the dotted path of every type of a package. -/
def packageLead (package : String) : String :=
  if package.isEmpty then "." else "." ++ package ++ "."

/-- The name by which fields anywhere refer to the type. -/
def TypePath.qualified (package : String) (path : TypePath) : String :=
  packageLead package ++ String.intercalate "." path

end SchemaTypings
