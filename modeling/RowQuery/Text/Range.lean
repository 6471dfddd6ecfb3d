/-! # Ranges of characters -/

namespace RowQuery.Text

/-- The characters from one code point to another, both included. -/
abbrev Range := Nat × Nat

/-- Whether a character lies in one of the ranges. -/
def inRanges (ranges : List Range) (c : Char) : Bool :=
  ranges.any fun range => range.1 ≤ c.toNat && c.toNat ≤ range.2

end RowQuery.Text
