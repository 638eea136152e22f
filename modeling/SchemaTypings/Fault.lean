import SchemaTypings.Wire.Fault

/-! Why a request has no typings. The report has the cause in words on its first lines
and, indented by a space on the last one, all parts of the fault. -/
namespace SchemaTypings

inductive Fault where
  /-- a field refers to a type that no supplied file declares -/
  | undeclared (typeName field : String)
  /-- a field refers to a type by a name without a dot in front -/
  | unqualified (typeName : String)
  /-- a field has to refer to a type and does not -/
  | untyped (field : String)
  /-- a description of this sort has to have a name -/
  | nameless (sort : String)
  /-- a pair of the parameter sets nothing -/
  | malformedPair (pair : String)
  | undecodable (fault : Wire.Fault)
  deriving DecidableEq, Repr

namespace Fault

def message : Fault → String
  | undeclared typeName field =>
    "unresolved type " ++ typeName ++ " referenced by field " ++ field
  | unqualified typeName => "type name " ++ typeName ++ " is not fully qualified"
  | untyped field => "field " ++ field ++ " has no type name"
  | nameless sort => sort ++ " descriptor has no name"
  | malformedPair pair => "invalid plugin parameter: " ++ pair
  | undecodable fault => "failed to decode request: " ++ fault.message

def details : Fault → String
  | undeclared typeName field =>
    "UnresolvedType \x7b type_name: " ++ Text.quoted typeName ++ ", field: " ++ Text.quoted field
      ++ " \x7d"
  | unqualified typeName => "UnqualifiedTypeName(" ++ Text.quoted typeName ++ ")"
  | untyped field => "MissingTypeName(" ++ Text.quoted field ++ ")"
  | nameless sort => "MissingName(" ++ Text.quoted sort ++ ")"
  | malformedPair pair => "InvalidParameter(" ++ Text.quoted pair ++ ")"
  | undecodable fault => "Decode(" ++ fault.details ++ ")"

def report (fault : Fault) : String := fault.message ++ ":\n " ++ fault.details

end Fault

end SchemaTypings
