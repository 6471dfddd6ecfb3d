/-! # Indented lines -/

namespace RowQuery.Text

/-- The start of a line at a depth: two blanks for each level. -/
def indent (depth : Nat) : String := String.ofList (List.replicate (2 * depth) ' ')

end RowQuery.Text
