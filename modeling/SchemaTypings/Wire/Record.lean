import SchemaTypings.Wire.Key

/-! A record is the list of its fields in the order they are written, each with its
number. A number may come any number of times; what that means is for the reader of
the record to say. Here too is the wire form of a record. -/
namespace SchemaTypings.Wire

inductive Value where
  | varint (n : UInt64)
  | varints (ns : List UInt64)
  | double (bits : UInt64)
  | text (s : String)
  | bytes (bytes : List UInt8)
  | record (fields : List (Nat × Value))

abbrev Record := List (Nat × Value)

def ofLittleEndian (bytes : List UInt8) : Nat :=
  bytes.foldr (fun byte high => byte.toNat + 256 * high) 0

def littleEndian : (count n : Nat) → List UInt8
  | 0, _ => []
  | count + 1, n => (n % 256).toUInt8 :: littleEndian count (n / 256)

def encodeDelimited (number : Nat) (bytes : List UInt8) : List UInt8 :=
  Key.encode ⟨number, .lengthDelimited⟩ ++ encodeVarint bytes.length ++ bytes

mutual
def Value.encode (number : Nat) : Value → List UInt8
  | .varint n => Key.encode ⟨number, .varint⟩ ++ encodeVarint n.toNat
  | .varints ns => encodeDelimited number (ns.flatMap fun n => encodeVarint n.toNat)
  | .double bits => Key.encode ⟨number, .sixtyFourBit⟩ ++ littleEndian 8 bits.toNat
  | .text s => encodeDelimited number s.toUTF8.data.toList
  | .bytes bytes => encodeDelimited number bytes
  | .record fields => encodeDelimited number (encodeRecord fields)

def encodeRecord : List (Nat × Value) → List UInt8
  | [] => []
  | (number, value) :: rest => value.encode number ++ encodeRecord rest
end

end SchemaTypings.Wire
