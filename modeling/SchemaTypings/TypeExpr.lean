/-! Type expressions of the declarations. An array or a nullable type of a union is the
union of the arrays or of the nullable members, so that no wrapper ever stands before
just the first member when it is written out. -/
namespace SchemaTypings

inductive TypeExpr where
  | number
  | string
  | boolean
  | any
  | uint8Array
  /-- stands where the schema has a type that nobody knows -/
  | unknown
  | named (name : String)
  | array (element : TypeExpr)
  | nullable (inner : TypeExpr)
  | union (members : List TypeExpr)
  deriving Repr

namespace TypeExpr

mutual
def render : TypeExpr → String
  | number => "number"
  | string => "string"
  | boolean => "boolean"
  | any => "any"
  | uint8Array => "Uint8Array"
  | unknown => "ERROR"
  | named name => name
  | array element => "Array<" ++ element.render ++ ">"
  | nullable inner => "?" ++ inner.render
  | union members => String.intercalate "|" (renderEach members)

def renderEach : List TypeExpr → List String
  | [] => []
  | type :: rest => type.render :: renderEach rest
end

/-- The type under a wrapper, each member on its own if it is a union. -/
def wrap (wrapper : TypeExpr → TypeExpr) : TypeExpr → TypeExpr
  | union members => union (members.map wrapper)
  | type => wrapper type

def inArray : TypeExpr → TypeExpr := wrap array

def orNull : TypeExpr → TypeExpr := wrap nullable

end TypeExpr

end SchemaTypings
