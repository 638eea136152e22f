import SchemaTypings.Text.Unprintable

/-! Text in double quotes on one line. A quote and a backslash are written with a
backslash before them, NUL, tab, line feed and carriage return by a letter, and every
other character without a printed form by its code point. -/
namespace SchemaTypings.Text

def escapePoint (c : Char) : List Char :=
  '\\' :: 'u' :: '{' :: Nat.toDigits 16 c.toNat ++ ['}']

def escapeChar (c : Char) : List Char :=
  if c = '"' then ['\\', '"']
  else if c = '\\' then ['\\', '\\']
  else if c = '\x00' then ['\\', '0']
  else if c = '\t' then ['\\', 't']
  else if c = '\n' then ['\\', 'n']
  else if c = '\r' then ['\\', 'r']
  else if isUnprintable c then escapePoint c
  else [c]

def quoted (text : String) : String :=
  .ofList ('"' :: text.toList.flatMap escapeChar ++ ['"'])

end SchemaTypings.Text
