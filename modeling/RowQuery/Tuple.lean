/-! # Tuples nested in sevens

A tuple holds up to seven fields directly; the fields beyond the seventh are held by a further
tuple nested in it. Projections, buffers and result types are all such tuples, of columns, of
column buffers and of field types.
-/

namespace RowQuery

/-- The number of fields a tuple holds before it nests the others. -/
def maxFields : Nat := 7

/-- Fields, and possibly a further tuple with the fields that come after them. -/
inductive Tuple (α : Type) where
  /-- Fields with none after them. -/
  | last (fields : List α)
  /-- Fields with further ones nested after them. -/
  | more (fields : List α) (rest : Tuple α)
  deriving DecidableEq, Inhabited

namespace Tuple

variable {α β : Type}

/-- The fields held directly. -/
def fields : Tuple α → List α
  | .last fields => fields
  | .more fields _ => fields

/-- All fields in order, the nested ones included. -/
def toList : Tuple α → List α
  | .last fields => fields
  | .more fields rest => fields ++ rest.toList

/-- The tuple of the same nesting with every field changed. -/
def map (change : α → β) : Tuple α → Tuple β
  | .last fields => .last (fields.map change)
  | .more fields rest => .more (fields.map change) (rest.map change)

/-- Whether every block but the last holds seven fields, and the last at least one and at most
seven. -/
def Full : Tuple α → Prop
  | .last fields => fields ≠ [] ∧ fields.length ≤ maxFields
  | .more fields rest => fields.length = maxFields ∧ rest.Full

/-- Whether a tuple is nested in sevens can be decided. -/
def decideFull : (tuple : Tuple α) → Decidable tuple.Full
  | .last [] => isFalse fun full => full.1 rfl
  | .last (first :: rest) =>
    if short : (first :: rest).length ≤ maxFields then isTrue ⟨List.cons_ne_nil first rest, short⟩
    else isFalse fun full => short full.2
  | .more fields rest =>
    match decEq fields.length maxFields, decideFull rest with
    | isTrue seven, isTrue full => isTrue ⟨seven, full⟩
    | isFalse other, _ => isFalse fun full => other full.1
    | _, isFalse ragged => isFalse fun full => ragged full.2

instance (tuple : Tuple α) : Decidable tuple.Full := decideFull tuple

end Tuple

end RowQuery
