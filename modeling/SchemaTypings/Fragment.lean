import SchemaTypings.Name
import SchemaTypings.Scope

/-! The declarations for a message and everything nested in it: its class, the value maps
of its enumerations, its shape, and then the same for each message nested in it. Entries
of maps are not declared, nor is anything nested in them. -/
namespace SchemaTypings

structure Fragment where
  declarations : List Declaration := []
  needs : Needs := {}
  deriving Repr

instance : Append Fragment :=
  ⟨fun fragment more =>
    ⟨fragment.declarations ++ more.declarations, fragment.needs ++ more.needs⟩⟩

structure FieldMembers where
  accessors : List Accessor
  property : Property
  needs : Needs
  deriving Repr

/-- The value map of an enumeration, which only at the top of a file can be imported. -/
def Schema.Enumeration.valueMap (owners : TypePath) (enumeration : Schema.Enumeration) :
    Except Fault ValueMap :=
  match enumeration.name with
  | none => .error (.nameless "enum")
  | some name => .ok {
      name := (owners ++ [name] : TypePath).flat
      visibility := if owners.isEmpty then .exported else .owned
      entries := enumeration.values.map fun value => ⟨value.name.getD "", value.number.getD 0⟩ }

def Schema.Message.statics (path : TypePath) (message : Schema.Message) : List StaticMember :=
  (message.nested.filter (!·.isEntry)).map
      (fun nested => ⟨.message, nested.localName, (path ++ [nested.localName] : TypePath).flat⟩)
    ++ message.enums.map
      (fun nested => ⟨.enumeration, nested.localName, (path ++ [nested.localName] : TypePath).flat⟩)

namespace Scope

def suffix (scope : Scope) (field : Schema.Field) : String :=
  if field.multiplicity ≠ .repeated then "" else if scope.holdsMap field then "Map" else "List"

/-- A map can be got but not set. -/
def members (scope : Scope) (field : Schema.Field) : Except Fault FieldMembers := do
  let declared ← scope.typed .accessor field
  let shaped ← scope.typed .shape field
  let stem := Name.capitalized field.localName ++ scope.suffix field
  .ok {
    accessors := .getter stem declared.type
      :: if scope.holdsMap field then [] else [.setter stem declared.type]
    property := ⟨Name.uncapitalized field.localName ++ scope.suffix field, shaped.type⟩
    needs := declared.needs ++ shaped.needs }

/-- The message's own declarations, from the members and value maps made for it. -/
def ownFragment (path : TypePath) (message : Schema.Message) (members : List FieldMembers)
    (maps : List ValueMap) : Fragment :=
  let classDecl : ClassDecl :=
    ⟨path.flat, members.flatMap (·.accessors), message.statics path⟩
  let shape : ShapeDecl := ⟨path.flat ++ shapeSuffix, members.map (·.property)⟩
  ⟨.ofClass classDecl :: maps.map .ofValues ++ [.ofShape shape],
    ⟨members.flatMap (·.needs.toList)⟩⟩

mutual
def fragment (scope : Scope) (owners : TypePath) : Schema.Message → Except Fault Fragment
  | message@⟨name, fields, nested, enums, _⟩ =>
    if message.isEntry then .ok {}
    else match name with
      | none => .error (.nameless "message")
      | some name => do
        let path := owners ++ [name]
        let members ← fields.mapM scope.members
        let maps ← enums.mapM (·.valueMap path)
        let inner ← fragments scope path nested
        .ok (ownFragment path message members maps ++ inner)

def fragments (scope : Scope) (owners : TypePath) : List Schema.Message → Except Fault Fragment
  | [] => .ok {}
  | message :: rest => do
    let first ← fragment scope owners message
    let others ← fragments scope owners rest
    .ok (first ++ others)
end

end Scope

end SchemaTypings
