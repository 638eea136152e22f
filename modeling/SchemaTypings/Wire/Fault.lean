import SchemaTypings.Text.Quoted

/-! Why bytes are no wire form of a record: a cause, and the fields that were being
read when it arose. -/
namespace SchemaTypings.Wire

/-- How the value of a field is laid out, as its key says. -/
inductive WireType where
  | varint
  | sixtyFourBit
  | lengthDelimited
  | startGroup
  | endGroup
  | thirtyTwoBit
  deriving DecidableEq, Repr

def WireType.code : WireType → Nat
  | .varint => 0
  | .sixtyFourBit => 1
  | .lengthDelimited => 2
  | .startGroup => 3
  | .endGroup => 4
  | .thirtyTwoBit => 5

def WireType.ofCode? : Nat → Option WireType
  | 0 => some .varint
  | 1 => some .sixtyFourBit
  | 2 => some .lengthDelimited
  | 3 => some .startGroup
  | 4 => some .endGroup
  | 5 => some .thirtyTwoBit
  | _ => none

theorem WireType.ofCode?_code (wireType : WireType) : ofCode? wireType.code = some wireType := by
  cases wireType <;> rfl

def WireType.name : WireType → String
  | .varint => "Varint"
  | .sixtyFourBit => "SixtyFourBit"
  | .lengthDelimited => "LengthDelimited"
  | .startGroup => "StartGroup"
  | .endGroup => "EndGroup"
  | .thirtyTwoBit => "ThirtyTwoBit"

inductive Cause where
  | invalidVarint
  | invalidKey (key : Nat)
  | invalidWireType (code : Nat)
  | invalidFieldNumber
  | unexpectedWireType (actual expected : WireType)
  | bufferUnderflow
  | lengthExceeded
  | recursionLimit
  | invalidText
  | unmatchedEndGroup
  deriving DecidableEq, Repr

def Cause.description : Cause → String
  | .invalidVarint => "invalid varint"
  | .invalidKey key => "invalid key value: " ++ key.repr
  | .invalidWireType code => "invalid wire type value: " ++ code.repr
  | .invalidFieldNumber => "invalid tag value: 0"
  | .unexpectedWireType actual expected =>
    "invalid wire type: " ++ actual.name ++ " (expected " ++ expected.name ++ ")"
  | .bufferUnderflow => "buffer underflow"
  | .lengthExceeded => "delimited length exceeded"
  | .recursionLimit => "recursion limit reached"
  | .invalidText => "invalid string value: data is not UTF-8 encoded"
  | .unmatchedEndGroup => "unexpected end group tag"

structure Place where
  record : String
  field : String
  deriving DecidableEq, Repr

/-- `places` lists the fields that enclose the failure, the innermost first. -/
structure Fault where
  cause : Cause
  places : List Place
  deriving DecidableEq, Repr

def Fault.within (place : Place) (fault : Fault) : Fault :=
  { fault with places := fault.places ++ [place] }

def Fault.message (fault : Fault) : String :=
  "failed to decode Protobuf message: "
    ++ .join (fault.places.map fun place => place.record ++ "." ++ place.field ++ ": ")
    ++ fault.cause.description

def Fault.details (fault : Fault) : String :=
  let places := fault.places.map fun place =>
    "(" ++ Text.quoted place.record ++ ", " ++ Text.quoted place.field ++ ")"
  "DecodeError \x7b description: " ++ Text.quoted fault.cause.description
    ++ ", stack: [" ++ String.intercalate ", " places ++ "] \x7d"

end SchemaTypings.Wire
