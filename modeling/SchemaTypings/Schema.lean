/-! Schema files as the schema compiler describes them: messages with fields, messages
and enumerations nested in messages, and what a file depends on. A description may
leave out nearly everything; a name that is absent is not an empty name. Codes for
types and labels are kept as they come, known or not. -/
namespace SchemaTypings.Schema

structure EnumValue where
  name : Option String := none
  number : Option Int32 := none
  deriving DecidableEq, Repr

structure Enumeration where
  name : Option String := none
  values : List EnumValue := []
  deriving DecidableEq, Repr

structure FieldOptions where
  jsType : Option Int32 := none
  deriving DecidableEq, Repr

structure Field where
  name : Option String := none
  number : Option Int32 := none
  labelCode : Option Int32 := none
  typeCode : Option Int32 := none
  typeName : Option String := none
  options : Option FieldOptions := none
  deriving DecidableEq, Repr

structure MessageOptions where
  mapEntry : Option Bool := none
  deriving DecidableEq, Repr

structure Message where
  name : Option String := none
  fields : List Field := []
  nested : List Message := []
  enums : List Enumeration := []
  options : Option MessageOptions := none
  deriving Repr

structure File where
  name : Option String := none
  package : Option String := none
  dependencies : List String := []
  messages : List Message := []
  enums : List Enumeration := []
  deriving Repr

def Enumeration.localName (enumeration : Enumeration) : String := enumeration.name.getD ""

def Field.localName (field : Field) : String := field.name.getD ""

def Message.localName (message : Message) : String := message.name.getD ""

def File.path (file : File) : String := file.name.getD ""

/-- Whether the message only holds the key and the value of a map. -/
def Message.isEntry (message : Message) : Bool :=
  (message.options.bind (·.mapEntry)).getD false

end SchemaTypings.Schema
