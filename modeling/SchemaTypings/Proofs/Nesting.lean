import SchemaTypings.Proofs.WireForm

/-! Whole records. A record in a record takes one level of the budget, so every induction here is
one on the budget. A record is read back from its wire form if it is no deeper than the budget,
and otherwise refused for its depth. -/
namespace SchemaTypings.Wire

mutual
/-- How many levels of records there are in the value. -/
def Value.depth : Value → Nat
  | .record fields => recordDepth fields + 1
  | _ => 0

/-- How many levels of records there are below the record. -/
def recordDepth : List (Nat × Value) → Nat
  | [] => 0
  | (_, value) :: rest => max value.depth (recordDepth rest)
end

theorem recordDepth_le_iff {fields : Record} {budget : Nat} :
    recordDepth fields ≤ budget ↔ ∀ entry ∈ fields, entry.2.depth ≤ budget := by
  induction fields with
  | nil => simp [recordDepth]
  | cons entry fields ih => rw [recordDepth, Nat.max_le, ih, List.forall_mem_cons]

/-- The reader of the records inside a record that is read on this budget. -/
def nestedReader : (budget : Nat) → Kind → Reader Record
  | 0, _ => fun _ => fail .recursionLimit
  | budget + 1, kind => readDelimited (readRecord budget kind)

theorem readRecord_eq (budget : Nat) (kind : Kind) :
    readRecord budget kind = fun limit => .map (List.filterMap id)
      (readUntil (readField (nestedReader budget) budget kind.format) limit) := by
  cases budget <;> rfl

/-- `nested` takes back the records of every kind that have less than `budget` levels below. -/
def ReadsBelow (budget : Nat) (nested : Kind → Reader Record) : Prop :=
  ∀ kind fields, (∀ entry ∈ fields, Fits kind entry) → recordDepth fields < budget →
    (encodeRecord fields).length < addressSpace →
      Reads (nested kind) (delimited (encodeRecord fields)) fields

section Records

variable {budget : Nat} {nested : Kind → Reader Record}

theorem reads_value (inner : ReadsBelow budget nested) {content : Content} {value : Value}
    (suits : value.Suits content) (depth : value.depth ≤ budget)
    (short : value.payload.length < addressSpace) :
    Reads (readValue nested value.wireType content) value.payload value := by
  have within {bytes : List UInt8} (short : (delimited bytes).length < addressSpace) :
      bytes.length < addressSpace := Nat.lt_of_le_of_lt (length_le_delimited bytes) short
  cases suits with
  | varint n => exact ((reads_word n).map Value.varint).expecting .varint
  | varints ns => exact (reads_words (within short)).map Value.varints
  | double bits => exact ((reads_double bits).map Value.double).expecting .sixtyFourBit
  | text s => exact ((reads_text (within short)).map Value.text).expecting .lengthDelimited
  | bytes content => exact ((reads_block (within short)).map Value.bytes).expecting .lengthDelimited
  | @record kind fields each =>
    rw [Value.depth] at depth
    have reads := inner kind fields each depth (within short)
    exact (reads.map Value.record).expecting .lengthDelimited

theorem reads_entry (inner : ReadsBelow budget nested) {kind : Kind} {entry : Nat × Value}
    (fits : Fits kind entry) (depth : entry.2.depth ≤ budget)
    (short : (entry.2.encode entry.1).length < addressSpace) :
    Reads (readField nested budget kind.format) (entry.2.encode entry.1) (some entry) := by
  obtain @⟨_, number, value, field, known, suits⟩ := fits
  rw [Value.encode_eq, List.length_append] at short
  have reads := reads_value inner suits depth (Nat.lt_of_le_of_lt (Nat.le_add_left _ _) short)
  intro rest
  rw [readField_encode known, reads rest]

theorem reads_fields (inner : ReadsBelow budget (nestedReader budget)) {kind : Kind}
    {fields : Record} (fits : ∀ entry ∈ fields, Fits kind entry)
    (depth : recordDepth fields ≤ budget) (short : (encodeRecord fields).length < addressSpace) :
    ReadsUpTo (readRecord budget kind) (encodeRecord fields) fields := by
  have each : ∀ entry ∈ fields,
      Reads (readField (nestedReader budget) budget kind.format) (entry.2.encode entry.1)
        (some entry) := fun entry mem =>
    reads_entry inner (fits entry mem) (recordDepth_le_iff.mp depth entry mem)
      (Nat.lt_of_le_of_lt (length_encode_le mem) short)
  have reads := readUntil_flatMap each fun entry _ => entry.2.encode_ne_nil entry.1
  rw [← encodeRecord_eq] at reads
  intro rest
  have kept : (fields.map some).filterMap id = fields := by simp
  simp only [readRecord_eq, Reader.map, reads rest, bind, Except.bind, kept]

end Records

/-- One level less of the budget is enough for what is one level less deep. -/
theorem readsBelow_nestedReader (budget : Nat) : ReadsBelow budget (nestedReader budget) := by
  induction budget with
  | zero => exact fun kind fields _ deep => absurd deep (Nat.not_lt_zero _)
  | succ budget ih =>
    intro kind fields fits depth short
    exact (reads_fields ih fits (Nat.le_of_lt_succ depth) short).delimited short

/-- A record whose fields the format knows is read back from its wire form, as deep as the
budget allows. -/
theorem decodeRecord_encodeRecord {kind : Kind} {fields : Record}
    (fits : ∀ entry ∈ fields, Fits kind entry) (depth : recordDepth fields ≤ nestingBudget)
    (short : (encodeRecord fields).length < addressSpace) :
    decodeRecord kind (encodeRecord fields) = .ok fields := by
  have reads := reads_fields (readsBelow_nestedReader nestingBudget) fits depth short []
  rw [List.append_nil, List.length_nil] at reads
  rw [decodeRecord, reads]
  rfl

section Refusals

variable {α β : Type} {read : Reader α} {written bytes : List UInt8}

/-- `read` stops inside what is written, as it nests too deep. -/
def Refuses (read : Reader α) (written : List UInt8) : Prop :=
  ∀ rest, ∃ places, read (.ofList (written ++ rest)) = .error ⟨.recursionLimit, places⟩

/-- `body` stops inside what is written if it is told how many bytes are left after it. -/
def RefusesUpTo (body : (limit : Nat) → Reader α) (written : List UInt8) : Prop :=
  ∀ rest, ∃ places,
    body rest.length (.ofList (written ++ rest)) = .error ⟨.recursionLimit, places⟩

theorem Refuses.map (refuses : Refuses read written) (f : α → β) :
    Refuses (.map f read) written := by
  intro rest
  obtain ⟨places, stops⟩ := refuses rest
  exact ⟨places, by rw [Reader.map, stops]; rfl⟩

theorem RefusesUpTo.delimited {body : (limit : Nat) → Reader α} (refuses : RefusesUpTo body bytes)
    (short : bytes.length < addressSpace) : Refuses (readDelimited body) (delimited bytes) := by
  intro rest
  obtain ⟨places, stops⟩ := refuses rest
  exact ⟨places, by rw [readDelimited_delimited body short, stops]; rfl⟩

theorem refuses_readUntil {step : Reader β} {write : α → List UInt8} {f : α → β}
    {before after : List α} {item : α}
    (each : ∀ item ∈ before, Reads step (write item) (f item))
    (some_byte : ∀ item, write item ≠ []) (refuses : Refuses step (write item)) :
    RefusesUpTo (readUntil step) ((before ++ item :: after).flatMap write) := by
  intro rest
  obtain ⟨rounds, enough, reads⟩ := readUntil_append each (fun item _ => some_byte item)
    (write item ++ after.flatMap write) rest
  obtain ⟨places, stops⟩ := refuses (after.flatMap write ++ rest)
  have first := List.length_pos_iff.mpr (some_byte item)
  rw [List.length_append] at enough
  obtain ⟨rounds, rfl⟩ : ∃ more, rounds = more + 1 := ⟨rounds - 1, by omega⟩
  have unread : ¬ (write item ++ (after.flatMap write ++ rest)).length ≤ rest.length := by
    simp only [List.length_append]
    omega
  refine ⟨places, ?_⟩
  rw [List.flatMap_append, List.flatMap_cons, reads]
  simp only [readUpTo, List.append_assoc, Input.size_ofList, unread, if_false, stops, bind,
    Except.bind, Except.map]

end Refusals

/-- `nested` refuses the records of every kind that have `budget` levels below, or more. -/
def RefusesFrom (budget : Nat) (nested : Kind → Reader Record) : Prop :=
  ∀ kind fields, (∀ entry ∈ fields, Fits kind entry) → budget ≤ recordDepth fields →
    (encodeRecord fields).length < addressSpace →
      Refuses (nested kind) (delimited (encodeRecord fields))

section DeepRecords

variable {budget : Nat} {nested : Kind → Reader Record}

theorem refuses_value (inner : RefusesFrom budget nested) {content : Content} {value : Value}
    (suits : value.Suits content) (deep : budget < value.depth)
    (short : value.payload.length < addressSpace) :
    Refuses (readValue nested value.wireType content) value.payload := by
  cases suits with
  | @record kind fields each =>
    have small := Nat.lt_of_le_of_lt (length_le_delimited _) short
    rw [Value.depth] at deep
    have refuses := inner kind fields each (Nat.le_of_lt_succ deep) small
    exact refuses.map Value.record
  | _ => exact absurd deep (Nat.not_lt_zero _)

theorem refuses_entry (inner : RefusesFrom budget nested) {kind : Kind} {entry : Nat × Value}
    (fits : Fits kind entry) (deep : budget < entry.2.depth)
    (short : (entry.2.encode entry.1).length < addressSpace) :
    Refuses (readField nested budget kind.format) (entry.2.encode entry.1) := by
  obtain @⟨_, number, value, field, known, suits⟩ := fits
  rw [Value.encode_eq, List.length_append] at short
  have refuses := refuses_value inner suits deep (Nat.lt_of_le_of_lt (Nat.le_add_left _ _) short)
  intro rest
  obtain ⟨places, stops⟩ := refuses rest
  exact ⟨_, by rw [readField_encode known, stops]; rfl⟩

theorem exists_deep {fields : Record} (deep : budget < recordDepth fields) :
    ∃ before entry after, fields = before ++ entry :: after ∧ budget < entry.2.depth ∧
      ∀ entry ∈ before, entry.2.depth ≤ budget := by
  induction fields with
  | nil => exact absurd deep (Nat.not_lt_zero _)
  | cons first fields ih =>
    by_cases here : budget < first.2.depth
    · exact ⟨[], first, fields, rfl, here, fun _ mem => absurd mem List.not_mem_nil⟩
    · have later : budget < recordDepth fields := by
        rw [recordDepth] at deep
        omega
      obtain ⟨before, entry, after, rfl, deeper, others⟩ := ih later
      exact ⟨first :: before, entry, after, rfl, deeper,
        List.forall_mem_cons.mpr ⟨Nat.le_of_not_lt here, others⟩⟩

theorem refuses_fields (reads : ReadsBelow budget (nestedReader budget))
    (refuses : RefusesFrom budget (nestedReader budget)) {kind : Kind} {fields : Record}
    (fits : ∀ entry ∈ fields, Fits kind entry) (deep : budget < recordDepth fields)
    (short : (encodeRecord fields).length < addressSpace) :
    RefusesUpTo (readRecord budget kind) (encodeRecord fields) := by
  -- the fields before the first one that is too deep are read, and that one stops the reading
  obtain ⟨before, entry, after, rfl, deeper, others⟩ := exists_deep deep
  have shorter : ∀ other ∈ before ++ entry :: after,
      (other.2.encode other.1).length < addressSpace := fun other mem =>
    Nat.lt_of_le_of_lt (length_encode_le mem) short
  rw [List.forall_mem_append, List.forall_mem_cons] at fits shorter
  have each : ∀ other ∈ before,
      Reads (readField (nestedReader budget) budget kind.format) (other.2.encode other.1)
        (some other) := fun other mem =>
    reads_entry reads (fits.1 other mem) (others other mem) (shorter.1 other mem)
  have stops : RefusesUpTo (readUntil (readField (nestedReader budget) budget kind.format))
      ((before ++ entry :: after).flatMap fun other => other.2.encode other.1) :=
    refuses_readUntil each (fun other => other.2.encode_ne_nil other.1)
      (refuses_entry refuses fits.2.1 deeper shorter.2.1)
  rw [← encodeRecord_eq] at stops
  intro rest
  obtain ⟨places, stops⟩ := stops rest
  refine ⟨places, ?_⟩
  simp only [readRecord_eq, Reader.map, stops, bind, Except.bind]

end DeepRecords

theorem refusesFrom_nestedReader (budget : Nat) : RefusesFrom budget (nestedReader budget) := by
  induction budget with
  | zero => exact fun _ _ _ _ _ _ => ⟨[], rfl⟩
  | succ budget ih =>
    intro kind fields fits deep short
    exact (refuses_fields (readsBelow_nestedReader budget) ih fits deep short).delimited short

/-- A record that is deeper than the budget is refused for just that. -/
theorem decodeRecord_deep {kind : Kind} {fields : Record}
    (fits : ∀ entry ∈ fields, Fits kind entry) (deep : nestingBudget < recordDepth fields)
    (short : (encodeRecord fields).length < addressSpace) :
    ∃ places, decodeRecord kind (encodeRecord fields) = .error ⟨.recursionLimit, places⟩ := by
  obtain ⟨places, stops⟩ := refuses_fields (readsBelow_nestedReader nestingBudget)
    (refusesFrom_nestedReader nestingBudget) fits deep short []
  rw [List.append_nil, List.length_nil] at stops
  exact ⟨places, by rw [decodeRecord, stops]; rfl⟩

end SchemaTypings.Wire
