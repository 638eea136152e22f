import SchemaTypings.TypeExpr

/-! The declarations for the types of a schema and their text. A message has a class and
an object shape, an enumeration a value map with the union of its numbers. Every
declaration ends with a blank line. -/
namespace SchemaTypings

inductive TypeKind where
  | message
  | enumeration
  deriving DecidableEq, Repr

/-- What the name of a message's shape has after the name of its class. -/
def shapeSuffix : String := "Obj"

/-- What the name of an enumeration's union has after the name of its value map. -/
def unionSuffix : String := "Type"

def indented (line : String) : String := "  " ++ line

/-- Access to a field, named by the stem after the verb. -/
inductive Accessor where
  | getter (stem : String) (type : TypeExpr)
  | setter (stem : String) (type : TypeExpr)
  deriving Repr

def Accessor.render : Accessor → String
  | getter stem type => "get" ++ stem ++ "(): " ++ type.render ++ ";"
  | setter stem type => "set" ++ stem ++ "(val: " ++ type.render ++ "): void;"

structure StaticMember where
  kind : TypeKind
  name : String
  target : String
  deriving DecidableEq, Repr

def StaticMember.render (member : StaticMember) : String :=
  match member.kind with
  | .message => "static " ++ member.name ++ ": typeof " ++ member.target ++ ";"
  | .enumeration => "static " ++ member.name ++ ": " ++ member.target ++ ";"

structure ClassDecl where
  name : String
  accessors : List Accessor := []
  statics : List StaticMember := []
  deriving Repr

def conversionMembers (name : String) : List String :=
  let shape := name ++ shapeSuffix
  ["toObject(opt_includeInstance: ?boolean): " ++ shape ++ ";",
    "serializeBinary(): Uint8Array;",
    "serializeBinaryToWriter(writer: any): void;",
    "cloneMessage(): " ++ name ++ ";",
    "static deserializeBinary(bytes: any): " ++ name ++ ";",
    "static deserializeBinaryFromReader(msg: " ++ name ++ ", reader: any): " ++ name ++ ";",
    "static serializeBinaryToWriter(message: " ++ name ++ ", writer: any): void;",
    "static toObject(includeInstance: boolean|typeof undefined, msg: " ++ name ++ "): "
      ++ shape ++ ";"]

def ClassDecl.render (decl : ClassDecl) : String :=
  let members := decl.accessors.map (·.render) ++ conversionMembers decl.name
    ++ decl.statics.map (·.render)
  "declare export class " ++ decl.name ++ " \x7b\n"
    ++ .join (members.map fun member => indented member ++ "\n") ++ "\x7d\n\n"

structure Property where
  name : String
  type : TypeExpr
  deriving Repr

def Property.render (property : Property) : String :=
  property.name ++ ": " ++ property.type.render

structure ShapeDecl where
  name : String
  properties : List Property := []
  deriving Repr

def propertyLines : List Property → List String
  | [] => []
  | [last] => [indented last.render ++ "\n"]
  | first :: rest => (indented first.render ++ ",\n") :: propertyLines rest

def ShapeDecl.render (decl : ShapeDecl) : String :=
  "export type " ++ decl.name ++ " = \x7b\n" ++ .join (propertyLines decl.properties) ++ "\x7d\n\n"

/-- Whether a value map can be imported or is reached through its owner's class. -/
inductive Visibility where
  | exported
  | owned
  deriving DecidableEq, Repr

structure NamedNumber where
  name : String
  number : Int32
  deriving DecidableEq, Repr

def NamedNumber.literal (entry : NamedNumber) : String := entry.number.toInt.repr

structure ValueMap where
  name : String
  visibility : Visibility
  entries : List NamedNumber := []
  deriving DecidableEq, Repr

def ValueMap.opening (map : ValueMap) : String :=
  match map.visibility with
  | .exported => "declare export var " ++ map.name ++ ": \x7b\n"
  | .owned => "type " ++ map.name ++ " = \x7b\n"

/-- The map of names to numbers and the union of the numbers, both in the given order. -/
def ValueMap.render (map : ValueMap) : String :=
  map.opening
    ++ String.intercalate ",\n"
      (map.entries.map fun entry => indented (entry.name ++ ": " ++ entry.literal))
    ++ "\n\x7d\n\nexport type " ++ map.name ++ unionSuffix ++ " = "
    ++ String.intercalate " | " (map.entries.map (·.literal)) ++ ";\n\n"

inductive Declaration where
  | ofClass (decl : ClassDecl)
  | ofShape (decl : ShapeDecl)
  | ofValues (map : ValueMap)
  deriving Repr

def Declaration.render : Declaration → String
  | ofClass decl => decl.render
  | ofShape decl => decl.render
  | ofValues map => map.render

end SchemaTypings
