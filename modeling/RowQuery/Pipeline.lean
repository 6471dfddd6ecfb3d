import RowQuery.Buffer
import RowQuery.Predicate
import RowQuery.Text.Indent

/-! # Pipelines

A pipeline passes rows through a chain of stages to its end, where they are written to the result.
Projections are deferred: a stage that projects only notes the projection, every stage sees the row
as it was read, and the end writes the row through the projection noted last.
-/

namespace RowQuery

variable {R : Type}

/-- A stage of a pipeline. -/
inductive Stage (R : Type) where
  /-- Passes on the rows that meet a predicate. -/
  | filter (predicate : Predicate R)
  /-- Notes a projection. -/
  | project (projection : Projection R)
  /-- Passes on the rows that meet a predicate and notes a projection. -/
  | filterProject (predicate : Predicate R) (projection : Projection R)

/-- The stages of a chain, from its root to the end that writes the rows. -/
abbrev Pipeline (R : Type) := List (Stage R)

namespace Stage

/-- The name of a stage. -/
def name : Stage R → String
  | .filter _ => "Filter"
  | .project _ => "Project"
  | .filterProject _ _ => "FilterProject"

/-- The predicate that rows must meet to pass. -/
def predicate? : Stage R → Option (Predicate R)
  | .filter predicate => some predicate
  | .project _ => none
  | .filterProject predicate _ => some predicate

/-- The projection that is noted. -/
def projection? : Stage R → Option (Projection R)
  | .filter _ => none
  | .project projection => some projection
  | .filterProject _ projection => some projection

/-- A stage as plans show it. -/
def text : Stage R → String
  | .filter predicate => "Filter: " ++ predicate.text
  | .project projection => "Project: " ++ projection.text
  | .filterProject predicate projection =>
    "FilterProject: " ++ predicate.text ++ " -> " ++ projection.text

end Stage

namespace Pipeline

/-- The name of the end of every chain. -/
def endName : String := "Terminal"

/-- The names of the stages and of the end. -/
def names (stages : Pipeline R) : List String := stages.map Stage.name ++ [endName]

/-- The projection through which rows are written at the end, the last one of the chain; whole rows
are written if there is none. -/
def terminalProjection (stages : Pipeline R) : Option (Projection R) :=
  (stages.filterMap Stage.projection?).getLast?

/-- Passes a row along the stages with the projection noted so far. -/
def process : Pipeline R → Option (Projection R) → R → Buffer R → Execution R (Buffer R)
  | [], pending, row, buffer => buffer.emit pending row
  | .filter predicate :: rest, pending, row, buffer => do
    if ← predicate.evaluate row then process rest pending row buffer else pure buffer
  | .project projection :: rest, _, row, buffer => process rest (some projection) row buffer
  | .filterProject predicate projection :: rest, _, row, buffer => do
    if ← predicate.evaluate row then process rest (some projection) row buffer else pure buffer

/-- Passes rows along the stages one by one. -/
def processAll (stages : Pipeline R) (rows : List R) (buffer : Buffer R) :
    Execution R (Buffer R) :=
  rows.foldlM (fun written row => process stages none row written) buffer

/-- How a chain without predicates can be written at once: whole, or through one projection. -/
inductive Batch (R : Type) where
  /-- All rows are copied. -/
  | copy
  /-- All rows are written through a projection. -/
  | project (projection : Projection R)

/-- The batch that a chain is, if it is one. -/
def batch? : Pipeline R → Option (Batch R)
  | [] => some .copy
  | [.project projection] => some (.project projection)
  | _ => none

/-- Runs the rows through the chain, as a batch when that is possible and wanted. -/
def run (stages : Pipeline R) (batches : Bool) (rows : List R) (buffer : Buffer R) :
    Execution R (Buffer R) :=
  match batches, batch? stages with
  | true, some .copy => buffer.emitAll none rows
  | true, some (.project projection) => buffer.emitAll (some projection) rows
  | _, _ => processAll stages rows buffer

/-- The constant of a comparison as plans show it. -/
def constantText (unit : Comparison R) : String :=
  unit.column.name ++ " " ++ unit.operator.symbol ++ " " ++ unit.constant.type.name ++ ": " ++
    unit.constant.literalText

/-- The lines of a chain whose root is at a depth: each stage, below it the constants of its
comparisons, and one level deeper the stages after it. -/
def lines (depth : Nat) : Pipeline R → List String
  | [] => [Text.indent depth ++ endName]
  | stage :: rest =>
    let units := match stage.predicate? with
      | some predicate => predicate.units
      | none => []
    (Text.indent depth ++ stage.text) ::
      units.map (fun unit => Text.indent depth ++ "  | " ++ constantText unit) ++
        lines (depth + 1) rest

/-- A chain as plans show it. -/
def text (stages : Pipeline R) : String := String.join ((lines 0 stages).map (· ++ "\n"))

end Pipeline

end RowQuery
