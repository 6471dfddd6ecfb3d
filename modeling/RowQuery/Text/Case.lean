import RowQuery.Text.CaseTable

/-! # Letter case

Keywords ignore the case of the letters `A` to `Z` only. Column names ignore the case of every
letter: they are compared by their lower-case form, in which a capital sigma that ends a word takes
its final form.
-/

namespace RowQuery.Text

/-- Whether two texts differ at most in the case of the letters `A` to `Z`. -/
def sameIgnoringCase (left right : String) : Bool :=
  left.toList.map Char.toLower = right.toList.map Char.toLower

namespace CaseRun

/-- Whether a code point belongs to the run. -/
def contains (run : CaseRun) (code : Nat) : Bool :=
  run.first ≤ code && code ≤ run.last && (code - run.first) % run.step = 0

end CaseRun

/-- The lower-case form of a character out of context: itself unless it has another. -/
def lowerChar (c : Char) : List Char :=
  if c = 'İ' then ['i', '\u0307']
  else match lowerRuns.find? (·.contains c.toNat) with
    | some run => [Char.ofNat (c.toNat + run.offset).toNat]
    | none => [c]

/-- Whether the first character that contexts do not look past is cased. -/
def meetsCased (context : List Char) : Bool :=
  match context.dropWhile (inRanges caseIgnorableRanges) with
  | [] => false
  | c :: _ => inRanges casedRanges c

/-- The lower-case form of some characters, given the characters before them, nearest first. A
capital sigma is final when it follows a cased character and none follows it. -/
def lowerAfter (before : List Char) : List Char → List Char
  | [] => []
  | c :: rest =>
    let mapped :=
      if c = 'Σ' then [if meetsCased before && !meetsCased rest then 'ς' else 'σ'] else lowerChar c
    mapped ++ lowerAfter (c :: before) rest

/-- The lower-case form of a text. -/
def lower (text : String) : String := String.ofList (lowerAfter [] text.toList)

end RowQuery.Text
