import SchemaTypings.Wire.Varint

/-! The key before every field: its number and the layout of its value. A field that
is not known is skipped by its key alone. -/
namespace SchemaTypings.Wire

structure Key where
  number : Nat
  wireType : WireType
  deriving DecidableEq, Repr

def Key.encode (key : Key) : List UInt8 :=
  encodeVarint (8 * key.number + key.wireType.code)

def readKey : Reader Key := fun input => do
  let (key, input) ← readVarint input
  if 0x100000000 ≤ key then fail (.invalidKey key)
  else match WireType.ofCode? (key % 8) with
    | none => fail (.invalidWireType (key % 8))
    | some wireType =>
      if key / 8 = 0 then fail .invalidFieldNumber
      else .ok (⟨key / 8, wireType⟩, input)

theorem readKey_encode (key : Key) (rest : List UInt8) (known : key.number ≠ 0)
    (bound : key.number < 0x20000000) :
    readKey (.ofList (key.encode ++ rest)) = .ok (key, .ofList rest) := by
  obtain ⟨number, wireType⟩ := key
  have code : wireType.code < 8 := by cases wireType <;> decide
  have small : 8 * number + wireType.code < 0x100000000 := by simp at bound; omega
  have layout : (8 * number + wireType.code) % 8 = wireType.code := by omega
  have whole : (8 * number + wireType.code) / 8 = number := by omega
  have read := readVarint_encodeVarint (8 * number + wireType.code) rest (by omega)
  simp only [readKey, Key.encode, read, bind, Except.bind, layout, whole, WireType.ofCode?_code]
  rw [if_neg (by omega), if_neg known]

/-- The input after the end of group `number`, for a `skip` of one field. Every round
takes a byte at least, so when `rounds` bytes are used up the input has ended too soon. -/
def skipGroup (skip : Key → Input → Except Fault Input) (number : Nat) :
    (rounds : Nat) → Input → Except Fault Input
  | 0, _ => fail .invalidVarint
  | rounds + 1, input => do
    let (key, input) ← readKey input
    if key.wireType = .endGroup then
      if key.number = number then .ok input else fail .unmatchedEndGroup
    else
      let input ← skip key input
      skipGroup skip number rounds input

/-- The input after the value of a field with this key. Groups nest at most `budget`
levels deep. -/
def skipField : (budget : Nat) → Key → Input → Except Fault Input
  | 0, _, _ => fail .recursionLimit
  | budget + 1, key, input =>
    match key.wireType with
    | .varint => (readVarint input).map (·.2)
    | .sixtyFourBit => (readBytes 8 input).map (·.2)
    | .thirtyTwoBit => (readBytes 4 input).map (·.2)
    | .lengthDelimited => do
      let (length, input) ← readVarint input
      (readBytes length input).map (·.2)
    | .startGroup => skipGroup (skipField budget) key.number input.size input
    | .endGroup => fail .unmatchedEndGroup

end SchemaTypings.Wire
