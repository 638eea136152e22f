import Mathlib.Data.List.Basic
import SchemaTypings.Wire.Record.Decode

/-! The wire form of what records are made of. Every reader takes back what was written for
it, whatever comes after: words, blocks, texts, sequences, and then single fields. -/
namespace SchemaTypings.Wire

/-- `read` takes `a` off the bytes written for it and leaves what follows. -/
def Reads {α : Type} (read : Reader α) (written : List UInt8) (a : α) : Prop :=
  ∀ rest, read (.ofList (written ++ rest)) = .ok (a, .ofList rest)

/-- `body` reads as far as the bytes written for `a` go if it is told how many are left then. -/
def ReadsUpTo {α : Type} (body : (limit : Nat) → Reader α) (written : List UInt8) (a : α) :
    Prop :=
  ∀ rest, body rest.length (.ofList (written ++ rest)) = .ok (a, .ofList rest)

/-- As many bytes as a machine of 64 bits can address. No length is as high. -/
def addressSpace : Nat := 0x10000000000000000

/-- Bytes after their number. -/
def delimited (bytes : List UInt8) : List UInt8 := encodeVarint bytes.length ++ bytes

theorem length_le_delimited (bytes : List UInt8) : bytes.length ≤ (delimited bytes).length := by
  simp [delimited]

section Readers

variable {α β : Type} {read : Reader α} {written bytes : List UInt8} {a : α}

theorem Reads.map (reads : Reads read written a) (f : α → β) :
    Reads (.map f read) written (f a) := by
  intro rest
  unfold Reader.map
  rw [reads rest]
  rfl

theorem Reads.expecting (reads : Reads read written a) (wireType : WireType) :
    Reads (expecting wireType wireType read) written a := by
  intro rest
  unfold Wire.expecting
  rw [if_pos rfl, reads rest]

theorem reads_varint {n : Nat} (bound : n < addressSpace) : Reads readVarint (encodeVarint n) n :=
  fun rest => readVarint_encodeVarint n rest bound

theorem reads_word (n : UInt64) : Reads readWord (encodeVarint n.toNat) n := by
  have reads := (reads_varint n.toNat_lt).map Nat.toUInt64
  have same : n.toNat.toUInt64 = n := by simp
  rwa [same] at reads

theorem reads_bytes (bytes : List UInt8) : Reads (readBytes bytes.length) bytes bytes := by
  intro rest
  unfold readBytes
  rw [Input.take?_append]

theorem reads_block (short : bytes.length < addressSpace) :
    Reads readBlock (delimited bytes) bytes := by
  intro rest
  unfold readBlock delimited
  rw [List.append_assoc, reads_varint short (bytes ++ rest)]
  exact reads_bytes bytes rest

theorem fromUTF8?_toUTF8 (s : String) :
    String.fromUTF8? ⟨s.toUTF8.data.toList.toArray⟩ = some s :=
  dif_pos s.isValidUTF8

theorem reads_text {s : String} (short : s.toUTF8.data.toList.length < addressSpace) :
    Reads readText (delimited s.toUTF8.data.toList) s := by
  intro rest
  have taken := reads_block short rest
  simp only [readText, taken, bind, Except.bind, fromUTF8?_toUTF8]

theorem readDelimited_delimited (body : (limit : Nat) → Reader α)
    (short : bytes.length < addressSpace) (rest : List UInt8) :
    readDelimited body (.ofList (delimited bytes ++ rest)) =
      (body rest.length (.ofList (bytes ++ rest)) >>= fun (value, input) =>
        if input.size = rest.length then .ok (value, input) else fail .lengthExceeded) := by
  have enough : ¬ (bytes ++ rest).length < bytes.length := by simp
  have left : (bytes ++ rest).length - bytes.length = rest.length := by simp
  have taken := reads_varint short (bytes ++ rest)
  simp only [readDelimited, delimited, List.append_assoc, taken, bind, Except.bind,
    Input.size_ofList, enough, if_false, left]

theorem ReadsUpTo.delimited {body : (limit : Nat) → Reader α} (reads : ReadsUpTo body bytes a)
    (short : bytes.length < addressSpace) : Reads (readDelimited body) (delimited bytes) a := by
  intro rest
  rw [readDelimited_delimited body short, reads rest]
  exact if_pos rfl

end Readers

section Repetition

variable {α β : Type} {step : Reader β} {write : α → List UInt8} {f : α → β}

theorem length_le_flatMap {items : List α} (some_byte : ∀ item ∈ items, write item ≠ []) :
    items.length ≤ (items.flatMap write).length := by
  induction items with
  | nil => simp
  | cons item items ih =>
    have first := List.length_pos_iff.mpr (some_byte item (.head _))
    have later := ih fun item mem => some_byte item (.tail _ mem)
    simp only [List.flatMap_cons, List.length_append, List.length_cons]
    omega

/-- Items that each take a byte at least are read one after the other, a round for each. -/
theorem readUpTo_append {items : List α}
    (each : ∀ item ∈ items, Reads step (write item) (f item))
    (some_byte : ∀ item ∈ items, write item ≠ []) (rounds : Nat) (after rest : List UInt8) :
    readUpTo step rest.length (items.length + rounds)
        (.ofList (items.flatMap write ++ after ++ rest)) =
      (readUpTo step rest.length rounds (.ofList (after ++ rest))).map
        fun read => (items.map f ++ read.1, read.2) := by
  induction items with
  | nil =>
    rw [List.length_nil, Nat.zero_add, List.flatMap_nil, List.nil_append]
    cases readUpTo step rest.length rounds (.ofList (after ++ rest)) <;> rfl
  | cons item items ih =>
    have first := List.length_pos_iff.mpr (some_byte item (.head _))
    have unread : ¬ (write item ++ (items.flatMap write ++ (after ++ rest))).length
        ≤ rest.length := by
      simp only [List.length_append]
      omega
    -- one round for the first item, and the others are left for the induction
    have count : (item :: items).length + rounds = items.length + rounds + 1 := by
      rw [List.length_cons]
      omega
    have taken := each item (.head _) (items.flatMap write ++ (after ++ rest))
    have later := ih (fun item mem => each item (.tail _ mem))
      fun item mem => some_byte item (.tail _ mem)
    rw [List.append_assoc] at later
    simp only [count, readUpTo, List.flatMap_cons, List.append_assoc, Input.size_ofList, unread,
      if_false, taken, bind, Except.bind, later]
    cases readUpTo step rest.length rounds (.ofList (after ++ rest)) <;> rfl

theorem readUpTo_rest (rounds : Nat) (rest : List UInt8) :
    readUpTo step rest.length rounds (.ofList rest) = .ok ([], .ofList rest) := by
  cases rounds with
  | zero => rfl
  | succ rounds => exact if_pos (Nat.le_refl _)

/-- There are bytes enough for a round for each item, so a reading of many items is one of the
first of them and then one of the others. -/
theorem readUntil_append {items : List α}
    (each : ∀ item ∈ items, Reads step (write item) (f item))
    (some_byte : ∀ item ∈ items, write item ≠ []) (after rest : List UInt8) :
    ∃ rounds, after.length + rest.length ≤ rounds ∧
      readUntil step rest.length (.ofList (items.flatMap write ++ after ++ rest)) =
        (readUpTo step rest.length rounds (.ofList (after ++ rest))).map
          fun read => (items.map f ++ read.1, read.2) := by
  have enough := length_le_flatMap some_byte
  refine ⟨(items.flatMap write ++ after ++ rest).length - items.length, ?_, ?_⟩
  · simp only [List.length_append]
    omega
  · have count : (Input.ofList (items.flatMap write ++ after ++ rest)).size = items.length +
        ((items.flatMap write ++ after ++ rest).length - items.length) := by
      simp only [Input.size_ofList, List.length_append]
      omega
    rw [readUntil, count]
    exact readUpTo_append each some_byte _ after rest

theorem readUntil_flatMap {items : List α}
    (each : ∀ item ∈ items, Reads step (write item) (f item))
    (some_byte : ∀ item ∈ items, write item ≠ []) :
    ReadsUpTo (readUntil step) (items.flatMap write) (items.map f) := by
  intro rest
  obtain ⟨rounds, _, reads⟩ := readUntil_append each some_byte [] rest
  rw [List.append_nil, List.nil_append, readUpTo_rest] at reads
  rw [reads, Except.map, List.append_nil]

end Repetition

section Numbers

theorem encodeVarint_ne_nil (n : Nat) : encodeVarint n ≠ [] := by
  rw [encodeVarint]
  split <;> exact List.cons_ne_nil _ _

theorem length_littleEndian (count n : Nat) : (littleEndian count n).length = count := by
  induction count generalizing n with
  | zero => rfl
  | succ count ih => simp [littleEndian, ih]

theorem ofLittleEndian_littleEndian (count n : Nat) (bound : n >>> (8 * count) = 0) :
    ofLittleEndian (littleEndian count n) = n := by
  induction count generalizing n with
  | zero =>
    have zero : n = 0 := by simpa using bound
    rw [zero]
    rfl
  | succ count ih =>
    have byte : (n % 256).toUInt8.toNat = n % 256 := by simp
    have high : (n / 256) >>> (8 * count) = 0 := by
      have eight : n / 256 = n >>> 8 := (Nat.shiftRight_eq_div_pow n 8).symm
      rw [eight, ← Nat.shiftRight_add, ← bound]
      congr 1
      omega
    have later := ih (n / 256) high
    simp only [ofLittleEndian, littleEndian, List.foldr_cons, byte] at later ⊢
    omega

theorem reads_double (bits : UInt64) : Reads readDouble (littleEndian 8 bits.toNat) bits := by
  have none_above : bits.toNat >>> (8 * 8) = 0 := by
    rw [Nat.shiftRight_eq_div_pow]
    exact Nat.div_eq_of_lt bits.toNat_lt
  have reads := reads_bytes (littleEndian 8 bits.toNat)
  rw [length_littleEndian] at reads
  have read := reads.map fun bytes => (ofLittleEndian bytes).toUInt64
  have same : bits.toNat.toUInt64 = bits := by simp
  rwa [ofLittleEndian_littleEndian 8 _ none_above, same] at read

theorem reads_words {ns : List UInt64}
    (short : (ns.flatMap fun n => encodeVarint n.toNat).length < addressSpace) :
    Reads (readDelimited (readUntil readWord))
      (delimited (ns.flatMap fun n => encodeVarint n.toNat)) ns := by
  have reads : ReadsUpTo (readUntil readWord) (ns.flatMap fun n => encodeVarint n.toNat)
      (ns.map id) :=
    readUntil_flatMap (fun n _ => reads_word n) fun n _ => encodeVarint_ne_nil n.toNat
  rw [List.map_id] at reads
  exact reads.delimited short

end Numbers

section Values

def Value.wireType : Value → WireType
  | .varint _ => .varint
  | .double _ => .sixtyFourBit
  | _ => .lengthDelimited

/-- What is written for a value after its key. -/
def Value.payload : Value → List UInt8
  | .varint n => encodeVarint n.toNat
  | .varints ns => delimited (ns.flatMap fun n => encodeVarint n.toNat)
  | .double bits => littleEndian 8 bits.toNat
  | .text s => delimited s.toUTF8.data.toList
  | .bytes content => delimited content
  | .record fields => delimited (encodeRecord fields)

theorem Value.encode_eq (number : Nat) (value : Value) :
    value.encode number = Key.encode ⟨number, value.wireType⟩ ++ value.payload := by
  cases value <;>
    simp only [encode, wireType, payload, encodeDelimited, delimited, List.append_assoc]

theorem Value.encode_ne_nil (number : Nat) (value : Value) : value.encode number ≠ [] := by
  rw [encode_eq]
  exact List.append_ne_nil_of_left_ne_nil (encodeVarint_ne_nil _) _

theorem encodeRecord_eq (fields : Record) :
    encodeRecord fields = fields.flatMap fun entry => entry.2.encode entry.1 := by
  induction fields with
  | nil => simp [encodeRecord]
  | cons entry fields ih => rw [encodeRecord, ih, List.flatMap_cons]

theorem length_encode_le {fields : Record} {entry : Nat × Value} (mem : entry ∈ fields) :
    (entry.2.encode entry.1).length ≤ (encodeRecord fields).length := by
  let write (entry : Nat × Value) := entry.2.encode entry.1
  have mem : write entry ∈ fields.map write := List.mem_map_of_mem mem
  rw [encodeRecord_eq, List.flatMap_def]
  exact (List.sublist_flatten_of_mem mem).length_le

end Values

mutual
/-- The value is one of this sort of content. -/
inductive Value.Suits : Content → Value → Prop
  | varint (n : UInt64) : Value.Suits .varint (.varint n)
  | varints (ns : List UInt64) : Value.Suits .varints (.varints ns)
  | double (bits : UInt64) : Value.Suits .double (.double bits)
  | text (s : String) : Value.Suits .text (.text s)
  | bytes (content : List UInt8) : Value.Suits .bytes (.bytes content)
  | record {kind : Kind} {fields : Record} (each : ∀ entry ∈ fields, Fits kind entry) :
    Value.Suits (.record kind) (.record fields)

/-- The format knows the number of the field, and the value suits it. -/
inductive Fits : Kind → Nat × Value → Prop
  | field {kind : Kind} {number : Nat} {value : Value} {field : FieldFormat}
    (known : kind.format.field? number = some field) (suits : Value.Suits field.content value) :
    Fits kind (number, value)
end

theorem numbers_in_bounds (kind : Kind) :
    ∀ field ∈ kind.format.fields, field.number ≠ 0 ∧ field.number < 0x20000000 := by
  cases kind <;> decide

theorem number_of_field? {kind : Kind} {number : Nat} {field : FieldFormat}
    (known : kind.format.field? number = some field) : number ≠ 0 ∧ number < 0x20000000 := by
  have same : field.number = number := by simpa using List.find?_some known
  exact same ▸ numbers_in_bounds kind field (List.mem_of_find?_eq_some known)

/-- The key of a field is read back, and then it is up to the value. -/
theorem readField_encode {kind : Kind} {number : Nat} {field : FieldFormat}
    (known : kind.format.field? number = some field) (nested : Kind → Reader Record)
    (budget : Nat) (value : Value) (rest : List UInt8) :
    readField nested budget kind.format (.ofList (value.encode number ++ rest)) =
      match readValue nested value.wireType field.content (.ofList (value.payload ++ rest)) with
      | .ok (value, input) => .ok (some (number, value), input)
      | .error fault => .error (fault.within ⟨kind.format.name, field.name⟩) := by
  obtain ⟨positive, bound⟩ := number_of_field? known
  have key := readKey_encode ⟨number, value.wireType⟩ (value.payload ++ rest) positive bound
  cases run : readValue nested value.wireType field.content (.ofList (value.payload ++ rest)) with
  | ok read =>
    simp only [readField, Value.encode_eq, List.append_assoc, key, bind, Except.bind, known, run]
  | error fault =>
    simp only [readField, Value.encode_eq, List.append_assoc, key, bind, Except.bind, known, run]

end SchemaTypings.Wire
