import RowQuery.Shape

/-! # Conversions between shapes

The values of a running query become the values of its result by a conversion that is planned once:
text that may be absent becomes text that is not, and everything else stays as it is.
-/

namespace RowQuery

/-- How values of one shape become values of another. -/
inductive Conversion where
  /-- The values stay as they are. -/
  | identity
  /-- Text that may be absent becomes text; absent text becomes the empty text. -/
  | unwrapText
  /-- The fields of a tuple are converted one by one, a nested tuple being the last field. -/
  | tuple (fields : List Conversion)
  deriving Inhabited

namespace Conversion

mutual

/-- The conversion from one shape to another, if there is one. -/
def plan : Shape → Shape → Option Conversion
  | .tuple actual, .tuple wanted => (planAll actual wanted).map .tuple
  | .tuple _, _ => none
  | _, .tuple _ => none
  | .row actual, .row wanted => if actual = wanted then some .identity else none
  | .field actual, .field wanted =>
    if actual = wanted then some .identity
    else if actual = .nullableText ∧ wanted = .text then some .unwrapText
    else none
  | .row _, .field _ => none
  | .field _, .row _ => none

/-- The conversions of the fields of two tuples of the same length. -/
def planAll : List Shape → List Shape → Option (List Conversion)
  | [], [] => some []
  | actual :: actuals, wanted :: wanteds =>
    match plan actual wanted, planAll actuals wanteds with
    | some first, some others => some (first :: others)
    | _, _ => none
  | _, _ => none

end

mutual

/-- The description of a conversion. -/
def describe : Conversion → String
  | .identity => "Identity"
  | .unwrapText => "UnwrapText"
  | .tuple fields => "Tuple(" ++ Text.describeList (describeAll fields) ++ ")"

/-- The descriptions of some conversions. -/
def describeAll : List Conversion → List String
  | [] => []
  | conversion :: rest => conversion.describe :: describeAll rest

end

end Conversion

end RowQuery
