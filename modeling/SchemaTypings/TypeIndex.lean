import Std.Data.TreeMap
import SchemaTypings.Fault
import SchemaTypings.Schema.ValueType
import SchemaTypings.SchemaPath
import SchemaTypings.TypePath

/-! All types of the supplied files by the name that fields refer to them with. A name
that is declared again stands for its last declaration. Apart from that, the messages of
each file are marked, by their own names only, as entries of maps or not; here the first
message of a name counts, where a message comes before those nested in it. -/
namespace SchemaTypings

structure Site where
  file : String
  module : String
  name : String
  deriving DecidableEq, Repr

structure Origin where
  file : String
  module : String
  package : String
  deriving DecidableEq, Repr

def Origin.ofFile (file : Schema.File) : Origin :=
  ⟨file.path, SchemaPath.identifier file.path, file.package.getD ""⟩

def Origin.site (origin : Origin) (path : TypePath) : Site :=
  ⟨origin.file, origin.module, path.flat⟩

/-- `sites` by the names of types, `marks` by file and then by the name of a message. -/
structure TypeIndex where
  sites : Std.TreeMap String Site := ∅
  marks : Std.TreeMap String (Std.TreeMap String Bool) := ∅

namespace TypeIndex

def get? (index : TypeIndex) (typeName : String) : Option Site := index.sites[typeName]?

/-- Whether the message of this name in `file` is an entry of a map, if there is one. -/
def mark? (index : TypeIndex) (file name : String) : Option Bool :=
  (index.marks.getD file ∅)[name]?

def isEntry (index : TypeIndex) (file name : String) : Bool :=
  (index.mark? file name).getD false

def size (index : TypeIndex) : Nat := index.sites.size

def isEmpty (index : TypeIndex) : Bool := index.sites.isEmpty

def declare (origin : Origin) (index : TypeIndex) (path : TypePath) : TypeIndex :=
  { index with sites := index.sites.insert (path.qualified origin.package) (origin.site path) }

/-- The mark counts only if the file has none of this name yet. -/
def mark (origin : Origin) (index : TypeIndex) (name : String) (isEntry : Bool) : TypeIndex :=
  let names := (index.marks.getD origin.file ∅).insertIfNew name isEntry
  { index with marks := index.marks.insert origin.file names }

theorem get?_declare (origin : Origin) (index : TypeIndex) (path : TypePath) (typeName : String) :
    (index.declare origin path).get? typeName =
      if path.qualified origin.package = typeName then some (origin.site path)
      else index.get? typeName := by
  simp [get?, declare, Std.TreeMap.getElem?_insert]

theorem mark?_declare (origin : Origin) (index : TypeIndex) (path : TypePath) (file name : String) :
    (index.declare origin path).mark? file name = index.mark? file name := rfl

theorem get?_mark (origin : Origin) (index : TypeIndex) (name : String) (isEntry : Bool)
    (typeName : String) :
    (index.mark origin name isEntry).get? typeName = index.get? typeName := rfl

theorem mark?_mark (origin : Origin) (index : TypeIndex) (name : String) (isEntry : Bool)
    (file other : String) :
    (index.mark origin name isEntry).mark? file other =
      if origin.file = file ∧ name = other then some ((index.mark? file other).getD isEntry)
      else index.mark? file other := by
  by_cases same : origin.file = file
  · subst same
    simp only [mark?, mark, Std.TreeMap.getD_insert_self, Std.TreeMap.getElem?_insertIfNew,
      Std.compare_eq_iff_eq, true_and]
    by_cases named : name = other
    · subst named
      by_cases old : name ∈ index.marks.getD origin.file ∅ <;> simp [old]
    · simp [named]
  · simp [mark?, mark, Std.TreeMap.getD_insert, same]

def addEnums (origin : Origin) (owners : TypePath) (index : TypeIndex)
    (enums : List Schema.Enumeration) : TypeIndex :=
  enums.foldl
    (fun index enumeration => index.declare origin (owners ++ [enumeration.localName])) index

mutual
/-- The index with a message, then its enumerations, then the messages nested in it. -/
def addMessage (origin : Origin) (owners : TypePath) (index : TypeIndex) :
    Schema.Message → TypeIndex
  | message@⟨_, _, nested, enums, _⟩ =>
    let path := owners ++ [message.localName]
    let index := (index.declare origin path).mark origin message.localName message.isEntry
    addMessages origin path (index.addEnums origin path enums) nested

def addMessages (origin : Origin) (owners : TypePath) (index : TypeIndex) :
    List Schema.Message → TypeIndex
  | [] => index
  | message :: rest => addMessages origin owners (addMessage origin owners index message) rest
end

def addFile (index : TypeIndex) (file : Schema.File) : TypeIndex :=
  let origin := Origin.ofFile file
  (index.addMessages origin [] file.messages).addEnums origin [] file.enums

def ofFiles (files : List Schema.File) : TypeIndex := files.foldl addFile {}

def locate (index : TypeIndex) (field typeName : String) : Except Fault Site :=
  if typeName = "" then .error (.untyped field)
  else if typeName.toList.head? ≠ some '.' then .error (.unqualified typeName)
  else match index.get? typeName with
    | some site => .ok site
    | none => .error (.undeclared typeName field)

def checkField (index : TypeIndex) (field : Schema.Field) : Except Fault Unit :=
  match field.valueType.reference? with
  | some typeName => (index.locate field.localName typeName).map fun _ => ()
  | none => .ok ()

mutual
/-- Every field of the message resolves, then every one of those nested in it. -/
def checkMessage (index : TypeIndex) : Schema.Message → Except Fault Unit
  | ⟨_, fields, nested, _, _⟩ => do
    fields.forM index.checkField
    checkMessages index nested

def checkMessages (index : TypeIndex) : List Schema.Message → Except Fault Unit
  | [] => .ok ()
  | message :: rest => do
    checkMessage index message
    checkMessages index rest
end

def check (index : TypeIndex) (files : List Schema.File) : Except Fault Unit :=
  files.forM fun file => index.checkMessages file.messages

end TypeIndex

end SchemaTypings
