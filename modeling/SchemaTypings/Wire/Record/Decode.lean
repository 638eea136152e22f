import SchemaTypings.Wire.Format
import SchemaTypings.Wire.Record

/-! Reading a record of a given kind. Fields of other numbers are skipped. A record
inside another does not narrow the input: its last field may reach beyond the length
given for the record, which is found out only afterwards. -/
namespace SchemaTypings.Wire

def expecting {α : Type} (expected actual : WireType) (read : Reader α) : Reader α :=
  if actual = expected then read else fun _ => fail (.unexpectedWireType actual expected)

def readWord : Reader UInt64 := .map Nat.toUInt64 readVarint

def readDouble : Reader UInt64 :=
  .map (fun bytes => (ofLittleEndian bytes).toUInt64) (readBytes 8)

def readBlock : Reader (List UInt8) := fun input => do
  let (length, input) ← readVarint input
  readBytes length input

def readText : Reader String := fun input => do
  let (bytes, input) ← readBlock input
  match String.fromUTF8? ⟨bytes.toArray⟩ with
  | some text => .ok (text, input)
  | none => fail .invalidText

/-- The value after a key with layout `wireType`; `nested` reads the records inside. -/
def readValue (nested : Kind → Reader Record) (wireType : WireType) : Content → Reader Value
  | .varint => expecting .varint wireType (.map .varint readWord)
  | .varints =>
    if wireType = .lengthDelimited then .map .varints (readDelimited (readUntil readWord))
    else expecting .varint wireType (.map (fun n => .varints [n]) readWord)
  | .double => expecting .sixtyFourBit wireType (.map .double readDouble)
  | .text => expecting .lengthDelimited wireType (.map .text readText)
  | .bytes => expecting .lengthDelimited wireType (.map .bytes readBlock)
  | .record kind => expecting .lengthDelimited wireType (.map .record (nested kind))

/-- A key and the value that belongs to it, or nothing for a number that the format does
not know. A failure in a value is placed at its field; one in a key or in a skipped
value has no field to be placed at. -/
def readField (nested : Kind → Reader Record) (budget : Nat) (format : Format) :
    Reader (Option (Nat × Value)) := fun input => do
  let (key, input) ← readKey input
  match format.field? key.number with
  | none =>
    let input ← skipField budget key input
    .ok (none, input)
  | some field =>
    match readValue nested key.wireType field.content input with
    | .ok (value, input) => .ok (some (key.number, value), input)
    | .error fault => .error (fault.within ⟨format.name, field.name⟩)

/-- The fields up to `limit`. Records nest at most `budget` levels deep. -/
def readRecord : (budget : Nat) → Kind → (limit : Nat) → Reader Record
  | 0, kind, limit =>
    .map (List.filterMap id) (readUntil
      (readField (fun _ _ => fail .recursionLimit) 0 kind.format) limit)
  | budget + 1, kind, limit =>
    .map (List.filterMap id) (readUntil
      (readField (fun inner => readDelimited (readRecord budget inner)) (budget + 1) kind.format)
      limit)

def nestingBudget : Nat := 100

/-- The record of this kind that all of `bytes` is the wire form of. -/
def decodeRecord (kind : Kind) (bytes : List UInt8) : Except Fault Record :=
  (readRecord nestingBudget kind 0 (.ofList bytes)).map (·.1)

end SchemaTypings.Wire
