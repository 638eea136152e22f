/-! Character classes given as a list of code point ranges. -/
namespace SchemaTypings.Text

structure Range where
  first : Nat
  last : Nat

def Range.contains (range : Range) (c : Char) : Bool :=
  range.first ≤ c.toNat && c.toNat ≤ range.last

def inRanges (ranges : List Range) (c : Char) : Bool :=
  ranges.any (·.contains c)

end SchemaTypings.Text
