import RowQuery.Text.Cluster
import RowQuery.Text.Size

/-! # Typed lines

Input is read line by line. A backspace in a line takes away the cluster typed before it.
-/

namespace RowQuery.Shell

/-- The lines of some characters, each with the line feed that ends it, given the characters of the
first line that were read already, latest first. -/
def linesAfter (started : List Char) : List Char → List (List Char)
  | [] => if started.isEmpty then [] else [started.reverse]
  | c :: rest =>
    if c = '\n' then (c :: started).reverse :: linesAfter [] rest
    else linesAfter (c :: started) rest

/-- The lines of a text, each with the line feed that ends it. -/
def inputLines (text : String) : List String := (linesAfter [] text.toList).map String.ofList

/-- A line without its line feed and the carriage return before that. -/
def withoutLineEnd (line : List Char) : List Char :=
  match line.reverse with
  | '\n' :: '\r' :: before => before.reverse
  | '\n' :: before => before.reverse
  | _ => line

/-- What stands of a line as it is typed. -/
structure TypedLine where
  /-- The characters that stand, latest first. -/
  kept : List Char := []
  /-- The sizes of the clusters that backspaces can take away, latest first. A size is held in one
  byte, so that of a longer cluster only the remainder is taken away. -/
  sizes : List UInt8 := []

namespace TypedLine

/-- Characters without those that take up the first so many bytes; nothing if that splits one. -/
def dropBytes? : Nat → List Char → Option (List Char)
  | 0, rest => some rest
  | _ + 1, [] => none
  | count + 1, c :: rest =>
    if c.utf8Size ≤ count + 1 then dropBytes? (count + 1 - c.utf8Size) rest else none

/-- Types a cluster; nothing if a backspace would split a character. -/
def type? (line : TypedLine) (cluster : List Char) : Option TypedLine :=
  if cluster = ['\x08'] then
    match line.sizes with
    | [] => some line
    | size :: sizes => (dropBytes? size.toNat line.kept).map (⟨·, sizes⟩)
  else
    some ⟨cluster.reverse ++ line.kept, (Text.byteLength cluster).toUInt8 :: line.sizes⟩

/-- The text that stands when a line of input has been typed; nothing if a backspace would split a
character. -/
def read? (line : String) : Option String :=
  ((Text.clusters (withoutLineEnd line.toList)).foldlM type? {}).map
    fun typed => String.ofList typed.kept.reverse

end TypedLine

end RowQuery.Shell
