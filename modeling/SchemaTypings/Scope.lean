import SchemaTypings.Declaration
import SchemaTypings.Needs
import SchemaTypings.TypeIndex

/-! The types of fields as seen from one file. A type of another file is reached through
its module where a class refers to a class, and otherwise has to be imported by name. -/
namespace SchemaTypings

/-- The two declarations of a message that its fields show up in. -/
inductive View where
  | accessor
  | shape
  deriving DecidableEq, Repr

structure Typed where
  type : TypeExpr
  needs : Needs := {}
  deriving Repr

structure Scope where
  file : String
  index : TypeIndex

namespace Scope

def isForeign (scope : Scope) (site : Site) : Bool := site.file != scope.file

/-- Whether the field is a map: a list of messages whose own name, whatever scope it is
in, marks an entry of a map in this file. -/
def holdsMap (scope : Scope) (field : Schema.Field) : Bool :=
  field.isMessageList
    && scope.index.isEntry scope.file
      (.ofList (Text.afterLast '.' (field.typeName.getD "").toList))

def need (scope : Scope) (site : Site) (name : String) : Needs :=
  if scope.isForeign site then ⟨[⟨site.module, name⟩]⟩ else {}

def messageType (scope : Scope) (view : View) (site : Site) : Typed :=
  match view with
  | .accessor =>
    { type := .named (if scope.isForeign site then site.module ++ "." ++ site.name else site.name) }
  | .shape =>
    let name := site.name ++ shapeSuffix
    ⟨.named name, scope.need site name⟩

def enumerationType (scope : Scope) (site : Site) : Typed :=
  let name := site.name ++ unionSuffix
  ⟨.named name, scope.need site name⟩

def valueType (scope : Scope) (view : View) (field : Schema.Field) : Except Fault Typed :=
  match field.valueType with
  | .number => .ok { type := .number }
  | .integer64 asText => .ok { type := if asText then .string else .number }
  | .boolean => .ok { type := .boolean }
  | .text => .ok { type := .string }
  | .bytes => .ok { type := .union [.string, .uint8Array] }
  | .message typeName => do
    let site ← scope.index.locate field.localName typeName
    .ok (scope.messageType view site)
  | .enumeration typeName => do
    let site ← scope.index.locate field.localName typeName
    .ok (scope.enumerationType site)
  | .unknown _ => .ok { type := .unknown }

/-- The type of the field, given that of one value. A field that refers to another type
and is no list may be null in an accessor. -/
def fieldType (view : View) (field : Schema.Field) (value : TypeExpr) : TypeExpr :=
  match field.multiplicity, view with
  | .repeated, _ => value.inArray
  | _, .accessor => if field.valueType.reference?.isSome then value.orNull else value
  | _, .shape => value

/-- The type of a field in a view. That of a map says nothing, but its entries have to
be declared all the same. -/
def typed (scope : Scope) (view : View) (field : Schema.Field) : Except Fault Typed :=
  if scope.holdsMap field then do
    let _ ← scope.index.locate field.localName (field.typeName.getD "")
    .ok { type := .any }
  else do
    let value ← scope.valueType view field
    .ok { value with type := fieldType view field value.type }

end Scope

end SchemaTypings
