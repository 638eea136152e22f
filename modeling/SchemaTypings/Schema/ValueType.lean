import SchemaTypings.Schema

/-! What a field holds and how many of it, read off the codes of its description. -/
namespace SchemaTypings.Schema

inductive ValueType where
  | number
  /-- an integer of 64 bits, which may be asked for as text -/
  | integer64 (asText : Bool)
  | boolean
  | text
  | bytes
  | message (typeName : String)
  | enumeration (typeName : String)
  | unknown (code : Int32)
  deriving DecidableEq, Repr

inductive Multiplicity where
  | optional
  | required
  | repeated
  deriving DecidableEq, Repr

/-- The option code that asks for text in place of a number. -/
def FieldOptions.wantsText (options : FieldOptions) : Bool :=
  options.jsType == some 1

def Field.code (field : Field) : Int32 := field.typeCode.getD 0

def Field.valueType (field : Field) : ValueType :=
  match field.code.toInt with
  | 1 | 2 | 5 | 7 | 13 | 15 | 17 => .number
  | 3 | 4 | 6 | 16 | 18 => .integer64 (field.options.any (·.wantsText))
  | 8 => .boolean
  | 9 => .text
  | 12 => .bytes
  | 10 | 11 => .message (field.typeName.getD "")
  | 14 => .enumeration (field.typeName.getD "")
  | _ => .unknown field.code

def Field.multiplicity (field : Field) : Multiplicity :=
  if field.labelCode = some 2 then .required
  else if field.labelCode = some 3 then .repeated
  else .optional

/-- Whether the field is a list of messages that are no groups. -/
def Field.isMessageList (field : Field) : Bool :=
  field.multiplicity == .repeated && field.code == 11

def ValueType.reference? : ValueType → Option String
  | .message typeName => some typeName
  | .enumeration typeName => some typeName
  | _ => none

end SchemaTypings.Schema
