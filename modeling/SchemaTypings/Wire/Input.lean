import SchemaTypings.Wire.Fault

/-! The bytes that are still to be read, with their number at hand, and the two ways
to take bytes off them. A reader gives a value and the input after it. -/
namespace SchemaTypings.Wire

structure Input where
  bytes : List UInt8
  size : Nat
  size_eq : size = bytes.length

def Input.ofList (bytes : List UInt8) : Input := ⟨bytes, bytes.length, rfl⟩

theorem Input.eq_ofList (input : Input) : input = ofList input.bytes := by
  obtain ⟨bytes, size, rfl⟩ := input
  rfl

@[simp] theorem Input.size_ofList (bytes : List UInt8) : (ofList bytes).size = bytes.length := rfl

def Input.next? : Input → Option (UInt8 × Input)
  | ⟨[], _, _⟩ => none
  | ⟨byte :: bytes, size, size_eq⟩ => some (byte, ⟨bytes, size - 1, by simp [size_eq]⟩)

def Input.take? (count : Nat) (input : Input) : Option (List UInt8 × Input) :=
  if count ≤ input.size then
    some (input.bytes.take count,
      ⟨input.bytes.drop count, input.size - count, by simp [input.size_eq]⟩)
  else none

@[simp] theorem Input.next?_nil : (ofList []).next? = none := rfl

@[simp] theorem Input.next?_cons (byte : UInt8) (bytes : List UInt8) :
    (ofList (byte :: bytes)).next? = some (byte, ofList bytes) := rfl

@[simp] theorem Input.take?_append (bytes rest : List UInt8) :
    (ofList (bytes ++ rest)).take? bytes.length = some (bytes, ofList rest) := by
  simp [take?, ofList]

abbrev Reader (α : Type) := Input → Except Fault (α × Input)

def fail {α : Type} (cause : Cause) : Except Fault α := .error ⟨cause, []⟩

def Reader.map {α β : Type} (f : α → β) (read : Reader α) : Reader β := fun input => do
  let (value, input) ← read input
  .ok (f value, input)

def readBytes (count : Nat) : Reader (List UInt8) := fun input =>
  match input.take? count with
  | some taken => .ok taken
  | none => fail .bufferUnderflow

/-- Readings by `step`, one after the other, until at most `limit` bytes are left or
`rounds` readings are done. -/
def readUpTo {α : Type} (step : Reader α) (limit : Nat) : (rounds : Nat) → Reader (List α)
  | 0, input => .ok ([], input)
  | rounds + 1, input =>
    if input.size ≤ limit then .ok ([], input)
    else do
      let (value, input) ← step input
      let (values, input) ← readUpTo step limit rounds input
      .ok (value :: values, input)

/-- Readings by `step` until at most `limit` bytes are left. Every step takes a byte
at least, so there are never more of them than bytes. -/
def readUntil {α : Type} (step : Reader α) (limit : Nat) : Reader (List α) := fun input =>
  readUpTo step limit input.size input

end SchemaTypings.Wire
