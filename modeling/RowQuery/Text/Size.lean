/-! # Sizes in bytes -/

namespace RowQuery.Text

/-- The number of bytes some characters take. -/
def byteLength : List Char → Nat
  | [] => 0
  | c :: rest => c.utf8Size + byteLength rest

end RowQuery.Text
