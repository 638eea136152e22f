import SchemaTypings.Wire.Input

/-! Numbers below 2^64 in seven bits a byte, the low bits first. Every byte but the
last has its top bit set. -/
namespace SchemaTypings.Wire

def encodeVarint (n : Nat) : List UInt8 :=
  if n < 128 then [n.toUInt8] else (n % 128 + 128).toUInt8 :: encodeVarint (n / 128)

/-- A number in at most `places` bytes, where the last place holds one bit only. -/
def readPlaces : (places : Nat) → Input → Option (Nat × Input)
  | 0, _ => none
  | places + 1, input => do
    let (byte, input) ← input.next?
    if 128 ≤ byte.toNat then
      let (high, input) ← readPlaces places input
      some (byte.toNat - 128 + 128 * high, input)
    else if places = 0 ∧ 1 < byte.toNat then none
    else some (byte.toNat, input)

/-- Ten places hold 64 bits. Needless places are allowed. -/
def readVarint : Reader Nat := fun input =>
  match readPlaces 10 input with
  | some read => .ok read
  | none => fail .invalidVarint

theorem readPlaces_encodeVarint (places n : Nat) (rest : List UInt8)
    (bound : n >>> (7 * places + 1) = 0) :
    readPlaces (places + 1) (.ofList (encodeVarint n ++ rest)) = some (n, .ofList rest) := by
  induction places generalizing n with
  | zero =>
    have small : n < 2 := by simpa [Nat.shiftRight_eq_div_pow] using bound
    have byte : n.toUInt8.toNat = n := by simp; omega
    rw [encodeVarint, if_pos (by omega)]
    simp [readPlaces, byte]
    omega
  | succ places ih =>
    rw [encodeVarint, readPlaces]
    split
    · have byte : n.toUInt8.toNat = n := by simp; omega
      simp [byte]
      omega
    · have byte : (n % 128 + 128).toUInt8.toNat = n % 128 + 128 := by simp; omega
      have high : (n / 128) >>> (7 * places + 1) = 0 := by
        have seven : n / 128 = n >>> 7 := (Nat.shiftRight_eq_div_pow n 7).symm
        rw [seven, ← Nat.shiftRight_add, ← bound]
        congr 1
        omega
      simp only [List.cons_append, Input.next?_cons, Option.bind_eq_bind, Option.bind_some, byte,
        ih _ high]
      rw [if_pos (Nat.le_add_left 128 _), show n % 128 + 128 - 128 + 128 * (n / 128) = n by omega]

/-- A number is read back from its bytes, whatever follows them. -/
theorem readVarint_encodeVarint (n : Nat) (rest : List UInt8) (bound : n < 0x10000000000000000) :
    readVarint (.ofList (encodeVarint n ++ rest)) = .ok (n, .ofList rest) := by
  have none_above : n >>> 64 = 0 := by
    rw [Nat.shiftRight_eq_div_pow]
    exact Nat.div_eq_of_lt bound
  simp [readVarint, readPlaces_encodeVarint 9 n rest none_above]

/-- A length, and then what `body` reads. It is told how many bytes are left over at
its end, and has to stop exactly there. -/
def readDelimited {α : Type} (body : (limit : Nat) → Reader α) : Reader α := fun input => do
  let (length, input) ← readVarint input
  if input.size < length then fail .bufferUnderflow
  else
    let limit := input.size - length
    let (value, input) ← body limit input
    if input.size = limit then .ok (value, input) else fail .lengthExceeded

end SchemaTypings.Wire
