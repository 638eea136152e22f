import SchemaTypings.Schema
import SchemaTypings.Wire.Record

/-! Descriptions as records of the wire and back. A record is read from its end: each
field is put before what the later ones gave. A single value that a later field has
given stands; a record inside joins its later occurrences as if all were one; a list
takes every occurrence. -/
namespace SchemaTypings.Schema

open Wire (Value Record)

def signed (word : UInt64) : Int32 := word.toUInt32.toInt32

def word (n : Int32) : UInt64 := n.toInt64.toUInt64

def wordOfBool (b : Bool) : UInt64 := if b then 1 else 0

def textField (number : Nat) (text : Option String) : Record :=
  text.toList.map fun s => (number, .text s)

def numberField (number : Nat) (n : Option Int32) : Record :=
  n.toList.map fun n => (number, .varint (word n))

def recordFields (number : Nat) (records : List Record) : Record :=
  records.map fun r => (number, .record r)

def EnumValue.precede : Nat × Value → EnumValue → EnumValue
  | (1, .text s), value => { value with name := value.name.or (some s) }
  | (2, .varint n), value => { value with number := value.number.or (some (signed n)) }
  | _, value => value

def EnumValue.ofRecord (record : Record) : EnumValue := record.foldr precede {}

def EnumValue.toRecord (value : EnumValue) : Record :=
  textField 1 value.name ++ numberField 2 value.number

def Enumeration.precede : Nat × Value → Enumeration → Enumeration
  | (1, .text s), enumeration => { enumeration with name := enumeration.name.or (some s) }
  | (2, .record r), enumeration =>
    { enumeration with values := EnumValue.ofRecord r :: enumeration.values }
  | _, enumeration => enumeration

def Enumeration.ofRecord (record : Record) : Enumeration := record.foldr precede {}

def Enumeration.toRecord (enumeration : Enumeration) : Record :=
  textField 1 enumeration.name ++ recordFields 2 (enumeration.values.map (·.toRecord))

def FieldOptions.precede : Nat × Value → FieldOptions → FieldOptions
  | (6, .varint n), options => { options with jsType := options.jsType.or (some (signed n)) }
  | _, options => options

def FieldOptions.toRecord (options : FieldOptions) : Record := numberField 6 options.jsType

def Field.precede : Nat × Value → Field → Field
  | (1, .text s), field => { field with name := field.name.or (some s) }
  | (3, .varint n), field => { field with number := field.number.or (some (signed n)) }
  | (4, .varint n), field => { field with labelCode := field.labelCode.or (some (signed n)) }
  | (5, .varint n), field => { field with typeCode := field.typeCode.or (some (signed n)) }
  | (6, .text s), field => { field with typeName := field.typeName.or (some s) }
  | (8, .record r), field =>
    { field with options := some (r.foldr FieldOptions.precede (field.options.getD {})) }
  | _, field => field

def Field.ofRecord (record : Record) : Field := record.foldr precede {}

def Field.toRecord (field : Field) : Record :=
  textField 1 field.name ++ numberField 3 field.number ++ numberField 4 field.labelCode
    ++ numberField 5 field.typeCode ++ textField 6 field.typeName
    ++ recordFields 8 (field.options.toList.map (·.toRecord))

def MessageOptions.precede : Nat × Value → MessageOptions → MessageOptions
  | (7, .varint n), options => { options with mapEntry := options.mapEntry.or (some (n != 0)) }
  | _, options => options

def MessageOptions.toRecord (options : MessageOptions) : Record :=
  options.mapEntry.toList.map fun b => (7, .varint (wordOfBool b))

mutual
def Message.ofRecord : Record → Message
  | [] => {}
  | (number, value) :: rest => precedeMessage number value (Message.ofRecord rest)

def precedeMessage : Nat → Value → Message → Message
  | 1, .text s, message => { message with name := message.name.or (some s) }
  | 2, .record r, message => { message with fields := Field.ofRecord r :: message.fields }
  | 3, .record r, message => { message with nested := Message.ofRecord r :: message.nested }
  | 4, .record r, message => { message with enums := Enumeration.ofRecord r :: message.enums }
  | 7, .record r, message =>
    { message with options := some (r.foldr MessageOptions.precede (message.options.getD {})) }
  | _, _, message => message
end

mutual
def Message.toRecord : Message → Record
  | ⟨name, fields, nested, enums, options⟩ =>
    textField 1 name ++ recordFields 2 (fields.map (·.toRecord)) ++ nestedToRecord nested
      ++ recordFields 4 (enums.map (·.toRecord))
      ++ recordFields 7 (options.toList.map (·.toRecord))

def nestedToRecord : List Message → Record
  | [] => []
  | message :: rest => (3, .record message.toRecord) :: nestedToRecord rest
end

def File.precede : Nat × Value → File → File
  | (1, .text s), file => { file with name := file.name.or (some s) }
  | (2, .text s), file => { file with package := file.package.or (some s) }
  | (3, .text s), file => { file with dependencies := s :: file.dependencies }
  | (4, .record r), file => { file with messages := Message.ofRecord r :: file.messages }
  | (5, .record r), file => { file with enums := Enumeration.ofRecord r :: file.enums }
  | _, file => file

def File.ofRecord (record : Record) : File := record.foldr precede {}

def File.toRecord (file : File) : Record :=
  textField 1 file.name ++ textField 2 file.package
    ++ file.dependencies.map (fun s => (3, .text s))
    ++ recordFields 4 (file.messages.map (·.toRecord))
    ++ recordFields 5 (file.enums.map (·.toRecord))

end SchemaTypings.Schema
