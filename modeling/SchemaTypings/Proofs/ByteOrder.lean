import Mathlib.Algebra.Group.Nat.Defs
import Mathlib.Tactic.Common

/-! The order of texts is that of their bytes. In UTF-8 the code of a character is written
in base 64, the highest digit first, and with more digits the first byte is higher, so the
bytes of two characters compare as their codes do, whatever comes after them. -/
namespace SchemaTypings.Text

def extraBytes (code : Nat) : Nat :=
  if code ≤ 0x7f then 0 else if code ≤ 0x7ff then 1 else if code ≤ 0xffff then 2 else 3

/-- The highest digit, added to a mark for the number of digits. -/
def firstByte (code : Nat) : Nat :=
  if code ≤ 0x7f then code
  else if code ≤ 0x7ff then code / 64 + 0xc0
  else if code ≤ 0xffff then code / 4096 + 0xe0
  else code / 262144 + 0xf0

/-- The lowest digits, a byte for each. -/
def laterBytes (code : Nat) : Nat → List UInt8
  | 0 => []
  | count + 1 => .ofNat (code / 64 ^ count % 64 + 128) :: laterBytes code count

theorem code_lt (c : Char) : c.val.toNat < 0x110000 := by
  have valid := c.valid
  simp only [UInt32.isValidChar, Nat.isValidChar] at valid
  omega

theorem encode_char (c : Char) : String.utf8EncodeChar c =
    .ofNat (firstByte c.val.toNat) :: laterBytes c.val.toNat (extraBytes c.val.toNat) := by
  have valid := code_lt c
  unfold String.utf8EncodeChar firstByte extraBytes
  generalize c.val.toNat = code at *
  dsimp only
  split_ifs with one two three
  · rfl
  · have high : code / 64 % 32 = code / 64 := by omega
    simp [laterBytes, high]
  · have high : code / 4096 % 16 = code / 4096 := by omega
    simp [laterBytes, high]
  · have high : code / 262144 % 8 = code / 262144 := by omega
    simp [laterBytes, high]

theorem firstByte_mono {m n : Nat} (below : m < n) (valid : n < 0x110000) :
    firstByte m < firstByte n ∨ firstByte m = firstByte n ∧ extraBytes m = extraBytes n ∧
      m / 64 ^ extraBytes n = n / 64 ^ extraBytes n := by
  unfold firstByte extraBytes
  split_ifs <;> omega

theorem firstByte_lt {n : Nat} (valid : n < 0x110000) : firstByte n < 256 := by
  unfold firstByte
  split_ifs <;> omega

theorem laterBytes_lt {m n : Nat} (below : m < n) (first second : List UInt8) (count : Nat)
    (same : m / 64 ^ count = n / 64 ^ count) :
    laterBytes m count ++ first < laterBytes n count ++ second := by
  induction count with
  | zero => simp at same; omega
  | succ count ih =>
    have upper : m / 64 ^ count / 64 = n / 64 ^ count / 64 := by
      rw [Nat.div_div_eq_div_mul, Nat.div_div_eq_div_mul, ← Nat.pow_succ, same]
    have ordered : m / 64 ^ count ≤ n / 64 ^ count := Nat.div_le_div_right (Nat.le_of_lt below)
    rw [laterBytes, laterBytes, List.cons_append, List.cons_append, List.cons_lt_cons_iff]
    rcases Nat.lt_or_eq_of_le ordered with less | equal
    · left
      rw [UInt8.lt_iff_toNat_lt, UInt8.toNat_ofNat', UInt8.toNat_ofNat']
      omega
    · right
      exact ⟨by rw [equal], ih equal⟩

theorem encode_char_lt {c d : Char} (below : c < d) (first second : List UInt8) :
    String.utf8EncodeChar c ++ first < String.utf8EncodeChar d ++ second := by
  have less : c.val.toNat < d.val.toNat := below
  have valid := code_lt d
  have bound := firstByte_lt valid
  rw [encode_char, encode_char, List.cons_append, List.cons_append, List.cons_lt_cons_iff]
  rcases firstByte_mono less valid with ahead | ⟨same, count, upper⟩
  · left
    rw [UInt8.lt_iff_toNat_lt, UInt8.toNat_ofNat', UInt8.toNat_ofNat']
    omega
  · right
    rw [same, count]
    exact ⟨rfl, laterBytes_lt less first second _ upper⟩

theorem bytes_eq (text : String) :
    text.toUTF8.data.toList = text.toList.flatMap String.utf8EncodeChar := by
  rw [String.toUTF8_eq_toByteArray, ← String.utf8Encode_toList, List.utf8Encode,
    List.toList_data_toByteArray]

theorem encode_lt {first second : List Char} (below : first < second) :
    first.flatMap String.utf8EncodeChar < second.flatMap String.utf8EncodeChar := by
  induction below with
  | @nil c rest =>
    rw [List.flatMap_nil, List.flatMap_cons, encode_char]
    exact List.nil_lt_cons _ _
  | rel below => exact encode_char_lt below _ _
  | cons _ ih => exact List.append_left_lt ih

theorem bytes_lt {first second : String} (below : first < second) :
    first.toUTF8.data.toList < second.toUTF8.data.toList := by
  rw [bytes_eq, bytes_eq]
  exact encode_lt (String.lt_iff.mp below)

/-- Texts are in the order of their bytes. -/
theorem bytes_lt_iff (first second : String) :
    first.toUTF8.data.toList < second.toUTF8.data.toList ↔ first < second := by
  refine ⟨fun ordered => ?_, bytes_lt⟩
  by_contra reversed
  by_cases above : second < first
  · exact List.lt_asymm ordered (bytes_lt above)
  · have same := String.le_antisymm (String.not_lt.mp above) (String.not_lt.mp reversed)
    exact List.lt_irrefl _ (same ▸ ordered)

end SchemaTypings.Text
