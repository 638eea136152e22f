import Mathlib.Data.List.Basic
import SchemaTypings.Proofs.Walk
import SchemaTypings.Proofs.WireForm
import SchemaTypings.Request

/-! Descriptions, requests and responses are read back from the records made of them, and
such a record has only fields that its format knows. A record is read from its end: what a part
of it gives is told on top of what the parts after it have given. -/
namespace SchemaTypings

open Wire (Value Record Kind Fits)

section Parts

variable {α β : Type} {precede : Nat × Value → α → α} {write : β → Nat × Value}

/-- `put` tells what is read when this item, or none, has been written. -/
theorem foldr_option (put : Option β → α)
    (first : ∀ item, precede (write item) (put none) = put (some item)) (item : Option β) :
    (item.toList.map write).foldr precede (put none) = put item := by
  cases item with
  | none => rfl
  | some item => exact first item

/-- `put` tells what is read when these items have been written. -/
theorem foldr_list (put : List β → α) {items : List β}
    (each : ∀ item ∈ items, ∀ rest, precede (write item) (put rest) = put (item :: rest)) :
    (items.map write).foldr precede (put []) = put items := by
  induction items with
  | nil => rfl
  | cons item items ih =>
    rw [List.map_cons, List.foldr_cons, ih fun item mem => each item (.tail _ mem)]
    exact each item (.head _) items

end Parts

namespace Schema

theorem signed_word (n : Int32) : signed (word n) = n := by
  have low : (n.toBitVec.signExtend 64).setWidth 32 = n.toBitVec := by
    ext i small
    have inside : i < 64 := by omega
    rw [BitVec.getElem_setWidth, BitVec.getLsbD_signExtend]
    simp [small, inside]
  simpa [signed, word, ← Int32.toBitVec_inj] using low

theorem wordOfBool_ne_zero (b : Bool) : (wordOfBool b != 0) = b := by
  cases b <;> rfl

section Fields

variable {α β : Type} {precede : Nat × Value → α → α} {number : Nat} {entry : Nat × Value}

theorem foldr_textField (put : Option String → α)
    (first : ∀ s, precede (number, .text s) (put none) = put (some s)) (text : Option String) :
    (textField number text).foldr precede (put none) = put text :=
  foldr_option put first text

theorem foldr_numberField (put : Option Int32 → α)
    (first : ∀ n, precede (number, .varint (word n)) (put none) = put (some n))
    (n : Option Int32) : (numberField number n).foldr precede (put none) = put n :=
  foldr_option put first n

theorem recordFields_map (write : β → Record) (items : List β) :
    recordFields number (items.map write) =
      items.map fun item => (number, .record (write item)) := by
  simp [recordFields]

theorem foldr_recordFields {write : β → Record} (put : List β → α) {items : List β}
    (each : ∀ item ∈ items, ∀ rest,
      precede (number, .record (write item)) (put rest) = put (item :: rest)) :
    (recordFields number (items.map write)).foldr precede (put []) = put items := by
  rw [recordFields_map]
  exact foldr_list put each

theorem foldr_recordField {write : β → Record} (put : Option β → α)
    (first : ∀ item, precede (number, .record (write item)) (put none) = put (some item))
    (item : Option β) :
    (recordFields number (item.toList.map write)).foldr precede (put none) = put item := by
  rw [recordFields_map]
  exact foldr_option put first item

@[simp] theorem mem_textField {text : Option String} :
    entry ∈ textField number text ↔ ∃ s, text = some s ∧ (number, .text s) = entry := by
  simp [textField]

@[simp] theorem mem_numberField {n : Option Int32} :
    entry ∈ numberField number n ↔ ∃ i, n = some i ∧ (number, .varint (word i)) = entry := by
  simp [numberField]

@[simp] theorem mem_recordFields {records : List Record} :
    entry ∈ recordFields number records ↔ ∃ r ∈ records, (number, .record r) = entry := by
  simp [recordFields]

end Fields

theorem EnumValue.ofRecord_toRecord (value : EnumValue) : ofRecord value.toRecord = value := by
  obtain ⟨name, number⟩ := value
  have numbered : (numberField 2 number).foldr precede {} = { number } :=
    foldr_numberField (fun number => ({ number } : EnumValue))
      (fun n => by simp [precede, signed_word]) number
  have named : (textField 1 name).foldr precede { number } = { name, number } :=
    foldr_textField (fun name => ({ name, number } : EnumValue)) (fun _ => rfl) name
  rw [ofRecord, toRecord, List.foldr_append, numbered, named]

theorem EnumValue.fits_toRecord (value : EnumValue) :
    ∀ entry ∈ value.toRecord, Fits .enumValue entry := by
  intro entry mem
  simp only [toRecord, List.mem_append, mem_textField, mem_numberField] at mem
  obtain ⟨s, _, rfl⟩ | ⟨n, _, rfl⟩ := mem
  · exact .field rfl (.text s)
  · exact .field rfl (.varint _)

theorem Enumeration.ofRecord_toRecord (enumeration : Enumeration) :
    ofRecord enumeration.toRecord = enumeration := by
  obtain ⟨name, values⟩ := enumeration
  have listed : (recordFields 2 (values.map (·.toRecord))).foldr precede {} = { values } :=
    foldr_recordFields (fun values => ({ values } : Enumeration)) fun value _ rest => by
      rw [precede, value.ofRecord_toRecord]
  have named : (textField 1 name).foldr precede { values } = { name, values } :=
    foldr_textField (fun name => ({ name, values } : Enumeration)) (fun _ => rfl) name
  rw [ofRecord, toRecord, List.foldr_append, listed, named]

theorem Enumeration.fits_toRecord (enumeration : Enumeration) :
    ∀ entry ∈ enumeration.toRecord, Fits .enumeration entry := by
  intro entry mem
  simp only [toRecord, List.mem_append, mem_textField, mem_recordFields, List.mem_map] at mem
  obtain ⟨s, _, rfl⟩ | ⟨_, ⟨value, _, rfl⟩, rfl⟩ := mem
  · exact .field rfl (.text s)
  · exact .field rfl (.record value.fits_toRecord)

theorem FieldOptions.precede_toRecord (options : FieldOptions) :
    options.toRecord.foldr precede {} = options := by
  obtain ⟨jsType⟩ := options
  exact foldr_numberField (fun jsType => ({ jsType } : FieldOptions))
    (fun n => by simp [precede, signed_word]) jsType

theorem FieldOptions.fits_toRecord (options : FieldOptions) :
    ∀ entry ∈ options.toRecord, Fits .fieldOptions entry := by
  intro entry mem
  obtain ⟨n, _, rfl⟩ := mem_numberField.mp mem
  exact .field rfl (.varint _)

theorem Field.ofRecord_toRecord (field : Field) : ofRecord field.toRecord = field := by
  obtain ⟨name, number, labelCode, typeCode, typeName, options⟩ := field
  have optioned : (recordFields 8 (options.toList.map (·.toRecord))).foldr precede {} =
      { options } :=
    foldr_recordField (fun options => ({ options } : Field))
      (fun o => by simp [precede, o.precede_toRecord]) options
  have referred : (textField 6 typeName).foldr precede { options } = { typeName, options } :=
    foldr_textField (fun typeName => ({ typeName, options } : Field)) (fun _ => rfl) typeName
  have typed : (numberField 5 typeCode).foldr precede { typeName, options } =
      { typeCode, typeName, options } :=
    foldr_numberField (fun typeCode => ({ typeCode, typeName, options } : Field))
      (fun n => by simp [precede, signed_word]) typeCode
  have labelled : (numberField 4 labelCode).foldr precede { typeCode, typeName, options } =
      { labelCode, typeCode, typeName, options } :=
    foldr_numberField (fun labelCode => ({ labelCode, typeCode, typeName, options } : Field))
      (fun n => by simp [precede, signed_word]) labelCode
  have numbered : (numberField 3 number).foldr precede
      { labelCode, typeCode, typeName, options } =
        { number, labelCode, typeCode, typeName, options } :=
    foldr_numberField
      (fun number => ({ number, labelCode, typeCode, typeName, options } : Field))
      (fun n => by simp [precede, signed_word]) number
  have named : (textField 1 name).foldr precede
      { number, labelCode, typeCode, typeName, options } =
        { name, number, labelCode, typeCode, typeName, options } :=
    foldr_textField
      (fun name => ({ name, number, labelCode, typeCode, typeName, options } : Field))
      (fun _ => rfl) name
  simp only [ofRecord, toRecord, List.foldr_append, optioned, referred, typed, labelled, numbered,
    named]

theorem Field.fits_toRecord (field : Field) : ∀ entry ∈ field.toRecord, Fits .field entry := by
  intro entry mem
  simp only [toRecord, List.mem_append, mem_textField, mem_numberField, mem_recordFields,
    List.mem_map] at mem
  obtain ((((⟨s, _, rfl⟩ | ⟨n, _, rfl⟩) | ⟨n, _, rfl⟩) | ⟨n, _, rfl⟩) | ⟨s, _, rfl⟩) |
    ⟨_, ⟨options, _, rfl⟩, rfl⟩ := mem
  · exact .field rfl (.text s)
  · exact .field rfl (.varint _)
  · exact .field rfl (.varint _)
  · exact .field rfl (.varint _)
  · exact .field rfl (.text s)
  · exact .field rfl (.record options.fits_toRecord)

theorem MessageOptions.precede_toRecord (options : MessageOptions) :
    options.toRecord.foldr precede {} = options := by
  obtain ⟨mapEntry⟩ := options
  exact foldr_option (fun mapEntry => ({ mapEntry } : MessageOptions))
    (fun b => by simp [precede, wordOfBool_ne_zero]) mapEntry

theorem MessageOptions.fits_toRecord (options : MessageOptions) :
    ∀ entry ∈ options.toRecord, Fits .messageOptions entry := by
  intro entry mem
  obtain ⟨b, _, rfl⟩ := List.mem_map.mp mem
  exact .field rfl (.varint _)

theorem Message.ofRecord_eq (record : Record) :
    ofRecord record = record.foldr (fun entry => precedeMessage entry.1 entry.2) {} := by
  induction record with
  | nil => simp [ofRecord]
  | cons entry record ih => rw [ofRecord, List.foldr_cons, ih]

theorem nestedToRecord_eq (nested : List Message) :
    nestedToRecord nested = recordFields 3 (nested.map (·.toRecord)) := by
  induction nested with
  | nil => simp [nestedToRecord, recordFields]
  | cons message nested ih => rw [nestedToRecord, ih]; rfl

theorem Message.ofRecord_toRecord (message : Message) : ofRecord message.toRecord = message := by
  induction message using Message.nested_induction with
  | step message nested_read =>
    obtain ⟨name, fields, nested, enums, options⟩ := message
    let precede (entry : Nat × Value) := precedeMessage entry.1 entry.2
    have optioned : (recordFields 7 (options.toList.map (·.toRecord))).foldr precede {} =
        { options } :=
      foldr_recordField (fun options => ({ options } : Message))
        (fun o => by simp [precede, precedeMessage, o.precede_toRecord]) options
    have counted : (recordFields 4 (enums.map (·.toRecord))).foldr precede { options } =
        { enums, options } :=
      foldr_recordFields (fun enums => ({ enums, options } : Message)) fun enumeration _ rest => by
        simp [precede, precedeMessage, enumeration.ofRecord_toRecord]
    have owned : (recordFields 3 (nested.map (·.toRecord))).foldr precede { enums, options } =
        { nested, enums, options } :=
      foldr_recordFields (fun nested => ({ nested, enums, options } : Message))
        fun inner mem rest => by simp [precede, precedeMessage, nested_read inner mem]
    have held : (recordFields 2 (fields.map (·.toRecord))).foldr precede
        { nested, enums, options } = { fields, nested, enums, options } :=
      foldr_recordFields (fun fields => ({ fields, nested, enums, options } : Message))
        fun field _ rest => by simp [precede, precedeMessage, field.ofRecord_toRecord]
    have named : (textField 1 name).foldr precede { fields, nested, enums, options } =
        { name, fields, nested, enums, options } :=
      foldr_textField (fun name => ({ name, fields, nested, enums, options } : Message))
        (fun s => by simp [precede, precedeMessage]) name
    simp only [ofRecord_eq, toRecord, nestedToRecord_eq, List.foldr_append]
    rw [optioned, counted, owned, held, named]

theorem Message.fits_toRecord (message : Message) :
    ∀ entry ∈ message.toRecord, Fits .message entry := by
  induction message using Message.nested_induction with
  | step message nested_fit =>
    obtain ⟨name, fields, nested, enums, options⟩ := message
    intro entry mem
    simp only [toRecord, nestedToRecord_eq, List.mem_append, mem_textField, mem_recordFields,
      List.mem_map] at mem
    obtain (((⟨s, _, rfl⟩ | ⟨_, ⟨field, _, rfl⟩, rfl⟩) | ⟨_, ⟨inner, mem, rfl⟩, rfl⟩) |
      ⟨_, ⟨enumeration, _, rfl⟩, rfl⟩) | ⟨_, ⟨options, _, rfl⟩, rfl⟩ := mem
    · exact .field rfl (.text s)
    · exact .field rfl (.record field.fits_toRecord)
    · exact .field rfl (.record (nested_fit inner mem))
    · exact .field rfl (.record enumeration.fits_toRecord)
    · exact .field rfl (.record options.fits_toRecord)

theorem File.ofRecord_toRecord (file : File) : ofRecord file.toRecord = file := by
  obtain ⟨name, package, dependencies, messages, enums⟩ := file
  have counted : (recordFields 5 (enums.map (·.toRecord))).foldr precede {} = { enums } :=
    foldr_recordFields (fun enums => ({ enums } : File)) fun enumeration _ rest => by
      rw [precede, enumeration.ofRecord_toRecord]
  have declared : (recordFields 4 (messages.map (·.toRecord))).foldr precede { enums } =
      { messages, enums } :=
    foldr_recordFields (fun messages => ({ messages, enums } : File)) fun message _ rest => by
      rw [precede, message.ofRecord_toRecord]
  have depended : (dependencies.map fun s => (3, Value.text s)).foldr precede
      { messages, enums } = { dependencies, messages, enums } :=
    foldr_list (fun dependencies => ({ dependencies, messages, enums } : File)) fun _ _ _ => rfl
  have packaged : (textField 2 package).foldr precede { dependencies, messages, enums } =
      { package, dependencies, messages, enums } :=
    foldr_textField (fun package => ({ package, dependencies, messages, enums } : File))
      (fun _ => rfl) package
  have named : (textField 1 name).foldr precede { package, dependencies, messages, enums } =
      { name, package, dependencies, messages, enums } :=
    foldr_textField (fun name => ({ name, package, dependencies, messages, enums } : File))
      (fun _ => rfl) name
  simp only [ofRecord, toRecord, List.foldr_append]
  rw [counted, declared, depended, packaged, named]

theorem File.fits_toRecord (file : File) : ∀ entry ∈ file.toRecord, Fits .file entry := by
  intro entry mem
  simp only [toRecord, List.mem_append, mem_textField, mem_recordFields, List.mem_map] at mem
  obtain (((⟨s, _, rfl⟩ | ⟨s, _, rfl⟩) | ⟨s, _, rfl⟩) | ⟨_, ⟨message, _, rfl⟩, rfl⟩) |
    ⟨_, ⟨enumeration, _, rfl⟩, rfl⟩ := mem
  · exact .field rfl (.text s)
  · exact .field rfl (.text s)
  · exact .field rfl (.text s)
  · exact .field rfl (.record message.fits_toRecord)
  · exact .field rfl (.record enumeration.fits_toRecord)

end Schema

theorem Request.ofRecord_toRecord (request : Request) : ofRecord request.toRecord = request := by
  obtain ⟨wanted, parameter, files⟩ := request
  have supplied : (Schema.recordFields 15 (files.map (·.toRecord))).foldr precede {} = { files } :=
    Schema.foldr_recordFields (fun files => ({ files } : Request)) fun file _ rest => by
      rw [precede, file.ofRecord_toRecord]
  have set : (Schema.textField 2 parameter).foldr precede { files } = { parameter, files } :=
    Schema.foldr_textField (fun parameter => ({ parameter, files } : Request)) (fun _ => rfl)
      parameter
  have asked : (wanted.map fun s => (1, Value.text s)).foldr precede { parameter, files } =
      { wanted, parameter, files } :=
    foldr_list (fun wanted => ({ wanted, parameter, files } : Request)) fun _ _ _ => rfl
  simp only [ofRecord, toRecord, List.foldr_append]
  rw [supplied, set, asked]

theorem Request.fits_toRecord (request : Request) :
    ∀ entry ∈ request.toRecord, Fits .request entry := by
  intro entry mem
  simp only [toRecord, List.mem_append, Schema.mem_textField, Schema.mem_recordFields,
    List.mem_map] at mem
  obtain (⟨s, _, rfl⟩ | ⟨s, _, rfl⟩) | ⟨_, ⟨file, _, rfl⟩, rfl⟩ := mem
  · exact .field rfl (.text s)
  · exact .field rfl (.text s)
  · exact .field rfl (.record file.fits_toRecord)

theorem Artifact.ofRecord_toRecord (artifact : Artifact) : ofRecord artifact.toRecord = artifact :=
  rfl

theorem Artifact.fits_toRecord (artifact : Artifact) :
    ∀ entry ∈ artifact.toRecord, Fits .artifact entry := by
  have named : Fits .artifact (1, .text artifact.name) := .field rfl (.text _)
  have filled : Fits .artifact (15, .text artifact.content) := .field rfl (.text _)
  simpa [toRecord] using ⟨named, filled⟩

theorem Response.ofRecord_toRecord (response : Response) :
    ofRecord response.toRecord = response := by
  obtain ⟨error, artifacts⟩ := response
  have listed : (Schema.recordFields 15 (artifacts.map (·.toRecord))).foldr precede {} =
      { artifacts } :=
    Schema.foldr_recordFields (fun artifacts => ({ artifacts } : Response))
      fun artifact _ rest => by rw [precede, artifact.ofRecord_toRecord]
  have told : (Schema.textField 1 error).foldr precede { artifacts } = { error, artifacts } :=
    Schema.foldr_textField (fun error => ({ error, artifacts } : Response)) (fun _ => rfl) error
  rw [ofRecord, toRecord, List.foldr_append, listed, told]

theorem Response.fits_toRecord (response : Response) :
    ∀ entry ∈ response.toRecord, Fits .response entry := by
  intro entry mem
  simp only [toRecord, List.mem_append, Schema.mem_textField, Schema.mem_recordFields,
    List.mem_map] at mem
  obtain ⟨s, _, rfl⟩ | ⟨_, ⟨artifact, _, rfl⟩, rfl⟩ := mem
  · exact .field rfl (.text s)
  · exact .field rfl (.record artifact.fits_toRecord)

end SchemaTypings
