import RowQuery.Pipeline.Fusion
import RowQuery.Query.Parser
import RowQuery.Result

/-! # Plans

A query text is compiled once into a plan and then run over any rows. A plan for a result type
gives the elements of its results as values of that type.
-/

namespace RowQuery

variable {R : Type} [RowType R]

/-- The choices in compiling and running queries. -/
structure Config where
  /-- Whether neighbouring stages are fused. -/
  optimize : Bool := true
  /-- Whether rows are written at once where no predicate is involved. -/
  batches : Bool := true
  deriving DecidableEq

/-- A pipeline before fusion, with the shapes of its result. -/
structure Draft (R : Type) where
  /-- The stages. -/
  stages : Pipeline R
  /-- The shape of the elements while the query runs. -/
  runtimeShape : Shape
  /-- The shape of the elements as a result. -/
  publicShape : Shape

namespace Draft

/-- The projection of a selection, or none for whole rows. The rows must have a schema in either
case, and names are resolved in order. -/
def select (scope : Scope R) (selection : Selection) :
    Except QueryError (Option (Projection R)) := do
  let _ ← scope.schema.mapError .catalog
  match selection with
  | .all => return none
  | .columns names =>
    let columns ← (names.mapM scope.resolve).mapError .catalog
    let projection ← Projection.ofColumns columns
    return some projection

/-- The draft that writes rows through a projection, or whole. -/
def ofProjection : Option (Projection R) → Draft R
  | none => ⟨[], .row (RowType.name R), .row (RowType.name R)⟩
  | some projection => ⟨[.project projection], projection.runtimeShape, projection.publicShape⟩

/-- The draft with a predicate at its root. -/
def filtered (draft : Draft R) (predicate : Predicate R) : Draft R :=
  { draft with stages := .filter predicate :: draft.stages }

/-- The draft of a query: first its selection is resolved, then its condition. -/
def build (scope : Scope R) (query : Query) : Except QueryError (Draft R) := do
  let projection ← select scope query.selection
  match query.condition with
  | none => return ofProjection projection
  | some condition =>
    let predicate ← Predicate.lower scope condition
    return (ofProjection projection).filtered predicate

end Draft

/-- A compiled query. -/
structure Plan (R : Type) where
  /-- The text of the query. -/
  text : String
  /-- The stages that rows pass. -/
  stages : Pipeline R
  /-- The shape of the elements while the query runs. -/
  runtimeShape : Shape
  /-- The shape of the elements as a result. -/
  publicShape : Shape
  /-- The choices that the plan was compiled with. -/
  config : Config

namespace Plan

/-- The plan of a draft. -/
def ofDraft (config : Config) (text : String) (draft : Draft R) : Plan R where
  text := text
  stages := if config.optimize then Pipeline.fuse draft.stages else draft.stages
  runtimeShape := draft.runtimeShape
  publicShape := draft.publicShape
  config := config

/-- The plan of a query text. -/
def compile (scope : Scope R) (config : Config) (text : String) : Except QueryError (Plan R) := do
  let query ← (Query.parse text).mapError .parse
  let draft ← Draft.build scope query
  return ofDraft config text draft

/-- Runs a plan over some rows. -/
def run (plan : Plan R) (rows : List R) : Execution R (Buffer R) :=
  Pipeline.run plan.stages plan.config.batches rows
    (Buffer.forProjection (Pipeline.terminalProjection plan.stages))

/-- A plan as it is shown. -/
def describe (plan : Plan R) : String :=
  "Query: " ++ plan.text ++ "\nResult: " ++ plan.publicShape.text ++ " (runtime " ++
    plan.runtimeShape.text ++ ")\n" ++ Pipeline.text plan.stages

end Plan

/-- A plan whose results are given as elements of a result type. -/
structure TypedPlan (R : Type) (type : ResultType) where
  /-- The plan. -/
  plan : Plan R
  /-- How the values of the running query become elements. -/
  conversion : Conversion

/-- The plan for a result type, which must ask for the shape of the plan's result. -/
def Plan.typed (plan : Plan R) (type : ResultType) : Except QueryError (TypedPlan R type) :=
  let requested := type.shape R
  if plan.publicShape = requested then
    match Conversion.plan plan.runtimeShape requested with
    | some conversion => .ok ⟨plan, conversion⟩
    | none => .error (.shapeMismatch plan.publicShape requested)
  else .error (.shapeMismatch plan.publicShape requested)

/-- Runs a plan over some rows and takes the elements out of its buffer. -/
def TypedPlan.execute {type : ResultType} (typed : TypedPlan R type) (rows : List R) :
    Execution R (Except QueryError (Array (type.Element R))) := do
  let buffer ← typed.plan.run rows
  match type.materialize buffer typed.conversion with
  | some elements => return .ok elements
  | none => return .error (.shapeMismatch buffer.shape (type.shape R))

end RowQuery
