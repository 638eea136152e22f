import SchemaTypings.Text.LowerCase

/-! Names of generated members from names of schema fields. A separator, which is a
hyphen or an underscore, before a word character goes away and the character becomes a
capital; every other letter keeps its case. The usual names, lower-case words with one
underscore between each two, are put together from their words. -/
namespace SchemaTypings.Name

def isSeparator (c : Char) : Bool := c == '-' || c == '_'

def isWordChar (c : Char) : Bool := c.isAlphanum || c == '_'

/-- The text after its first character: separators before a word character dropped. -/
def capitalizeRest : List Char → List Char
  | c :: d :: rest =>
    if isSeparator c && isWordChar d then d.toUpper :: capitalizeRest rest
    else c :: capitalizeRest (d :: rest)
  | rest => rest

def capitalizeWords : List Char → List Char
  | [] => []
  | c :: rest =>
    if isWordChar c then c.toUpper :: capitalizeRest rest else capitalizeRest (c :: rest)

def isPlainWord (word : List Char) : Bool :=
  !word.isEmpty && word.all fun c => c.isLower || c.isDigit

/-- The words of a name in the usual style; none if it is in another one. -/
def plainWords? (name : List Char) : Option (List (List Char)) :=
  let words := name.splitOn '_'
  if words.all isPlainWord then some words else none

def capitalizeWord : List Char → List Char
  | [] => []
  | c :: rest => c.toUpper :: rest

def capitalized (name : String) : String :=
  .ofList <| match plainWords? name.toList with
    | some words => words.flatMap capitalizeWord
    | none => capitalizeWords name.toList

def lowerFirst : List Char → List Char
  | [] => []
  | c :: rest => Text.lowerCase c ++ rest

/-- The name as it stands in an object shape. -/
def uncapitalized (name : String) : String :=
  .ofList <| match plainWords? name.toList with
    | some [] => []
    | some (first :: words) => first ++ words.flatMap capitalizeWord
    | none => lowerFirst (capitalizeWords name.toList)

end SchemaTypings.Name
