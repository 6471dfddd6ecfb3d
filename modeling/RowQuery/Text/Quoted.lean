import RowQuery.Text.HiddenTable

/-! # Quoted text

Three ways to write a text between quotes: query literals double their single quotes, plan and row
descriptions name hidden characters by number, and JSON escapes its controls.
-/

namespace RowQuery.Text

/-- Characters with every single quote written twice. -/
def doubleQuotes : List Char → List Char
  | [] => []
  | c :: rest => if c = '\'' then '\'' :: '\'' :: doubleQuotes rest else c :: doubleQuotes rest

/-- A text as a query literal: between single quotes, with inner quotes doubled. -/
def quoteLiteral (text : String) : String :=
  String.ofList ('\'' :: doubleQuotes text.toList ++ ['\''])

/-- The hexadecimal digits of a number, without leading zeros. -/
def hexDigits (number : Nat) : List Char := Nat.toDigits 16 number

/-- A character of a description between double quotes. -/
def describeChar (c : Char) : List Char :=
  if c = '"' then ['\\', '"']
  else if c = '\\' then ['\\', '\\']
  else if c = '\n' then ['\\', 'n']
  else if c = '\r' then ['\\', 'r']
  else if c = '\t' then ['\\', 't']
  else if c = '\x00' then ['\\', '0']
  else if 0x20 ≤ c.toNat && c.toNat < 0x7f then [c]
  else if inRanges hiddenRanges c then
    ['\\', 'u', '\x7b'] ++ hexDigits c.toNat ++ ['\x7d']
  else [c]

/-- A text described between double quotes, with hidden characters named by number. -/
def describe (text : String) : String :=
  String.ofList ('"' :: text.toList.flatMap describeChar ++ ['"'])

/-- A list described between brackets. -/
def describeList (items : List String) : String := "[" ++ ", ".intercalate items ++ "]"

/-- A character of a JSON string. -/
def jsonChar (c : Char) : List Char :=
  if c = '"' then ['\\', '"']
  else if c = '\\' then ['\\', '\\']
  else if c = '\x08' then ['\\', 'b']
  else if c = '\x0c' then ['\\', 'f']
  else if c = '\n' then ['\\', 'n']
  else if c = '\r' then ['\\', 'r']
  else if c = '\t' then ['\\', 't']
  else if c.toNat < 0x20 then
    ['\\', 'u'] ++ List.replicate (4 - (hexDigits c.toNat).length) '0' ++ hexDigits c.toNat
  else [c]

/-- A text as a JSON string. -/
def jsonString (text : String) : String :=
  String.ofList ('"' :: text.toList.flatMap jsonChar ++ ['"'])

end RowQuery.Text
