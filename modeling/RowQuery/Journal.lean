import RowQuery.Plan
import RowQuery.Query.Document

/-! # Journals

The notable steps of registering, compiling and running, in the order in which they happen. A
compilation that fails has the journal of the steps before the failure.
-/

namespace RowQuery

/-- How much detail an event gives. -/
inductive Detail where
  /-- A step of a compilation. -/
  | debug
  /-- A step of a run. -/
  | trace
  deriving DecidableEq

/-- The parts of the library that note events. -/
inductive Part where
  | catalog
  | plan
  | draft
  | predicate
  | fusion
  | pipeline
  deriving DecidableEq

/-- A notable step. -/
inductive Event where
  /-- A schema was registered. -/
  | registered (columns : Nat) (rowType : String)
  /-- A text was read as a query. -/
  | parsed (query : Query)
  /-- A selection became a projection. -/
  | projected (projection : String) (shape : Shape)
  /-- A comparison got its constant. -/
  | specialized (comparison : String) (type : ValueType) (constant : Value)
  /-- A draft was completed. -/
  | built (names : List String)
  /-- Two neighbouring stages were fused. -/
  | fused (first second : String)
  /-- A plan was completed. -/
  | compiled (names : List String) (text : String)
  /-- A conversion to a result type was planned. -/
  | converted (runtime requested : Shape) (conversion : Conversion)
  /-- All rows were copied at once. -/
  | copied (rows : Nat)
  /-- All rows were projected at once. -/
  | batched (rows : Nat)
  /-- A run was completed. -/
  | produced (kept rows : Nat)

namespace Event

/-- The part that noted an event. -/
def part : Event → Part
  | .registered _ _ => .catalog
  | .parsed _ => .plan
  | .projected _ _ => .draft
  | .specialized _ _ _ => .predicate
  | .built _ => .draft
  | .fused _ _ => .fusion
  | .compiled _ _ => .plan
  | .converted _ _ _ => .plan
  | .copied _ => .pipeline
  | .batched _ => .pipeline
  | .produced _ _ => .plan

/-- The detail of an event. -/
def detail : Event → Detail
  | .copied _ => .trace
  | .batched _ => .trace
  | .produced _ _ => .trace
  | _ => .debug

/-- Names of stages between brackets. -/
def nameList (names : List String) : String := Text.describeList (names.map Text.describe)

/-- The message of an event. -/
def message : Event → String
  | .registered columns rowType =>
    "Registering " ++ Text.natText columns ++ " columns for row type " ++ rowType
  | .parsed query => "Parsed query: " ++ query.describe
  | .projected projection shape =>
    "Projection " ++ projection ++ " with runtime shape " ++ shape.text
  | .specialized comparison type constant =>
    "Specialized comparison " ++ comparison ++ " as " ++ type.name ++ " " ++ constant.literalText
  | .built names => "Built pipeline " ++ nameList names
  | .fused first second => "Fusing " ++ first ++ " -> " ++ second
  | .compiled names text => "Compiled pipeline " ++ nameList names ++ " for `" ++ text ++ "`"
  | .converted runtime requested conversion =>
    "Conversion from " ++ runtime.text ++ " to " ++ requested.text ++ ": " ++ conversion.describe
  | .copied rows => "Batch copy of " ++ Text.natText rows ++ " rows"
  | .batched rows => "Batch projection of " ++ Text.natText rows ++ " rows"
  | .produced kept rows =>
    "Query produced " ++ Text.natText kept ++ " of " ++ Text.natText rows ++ " rows"

end Event

variable {R : Type} [RowType R]

/-- The journal of registering a schema. -/
def Schema.journal (schema : Schema R) : List Event :=
  [.registered schema.size (RowType.name R)]

/-- The journal of lowering a condition: one event for each comparison before the first failure. -/
def Predicate.journal (scope : Scope R) : Condition → List Event
  | .comparison name operator literal =>
    match lower scope (.comparison name operator literal) with
    | .ok predicate =>
      predicate.units.map fun unit => .specialized unit.text unit.column.type unit.constant
    | .error _ => []
  | .and left right =>
    journal scope left ++ (if (lower scope left).isOk then journal scope right else [])
  | .or left right =>
    journal scope left ++ (if (lower scope left).isOk then journal scope right else [])
  | .not inner => journal scope inner

omit [RowType R] in
/-- The journal of fusing a chain. -/
def Pipeline.fusionJournal : Pipeline R → List Event
  | .filter _ :: .project _ :: rest => .fused "Filter" "Project" :: fusionJournal rest
  | .project _ :: .filter _ :: rest => .fused "Project" "Filter" :: fusionJournal rest
  | _ :: rest => fusionJournal rest
  | [] => []

omit [RowType R] in
/-- The journal of running a chain over some rows. -/
def Pipeline.runJournal (stages : Pipeline R) (batches : Bool) (rows : List R) : List Event :=
  match batches, batch? stages with
  | true, some .copy => [.copied rows.length]
  | true, some (.project _) => [.batched rows.length]
  | _, _ => []

namespace Draft

/-- The journal of drafting a query. -/
def journal (scope : Scope R) (query : Query) : List Event :=
  match select scope query.selection with
  | .error _ => []
  | .ok projection =>
    let projected := match projection with
      | some projection => [.projected projection.text projection.runtimeShape]
      | none => []
    let lowered := match query.condition with
      | some condition => Predicate.journal scope condition
      | none => []
    let built := match build scope query with
      | .ok draft => [.built (Pipeline.names draft.stages)]
      | .error _ => []
    projected ++ lowered ++ built

end Draft

namespace Plan

/-- The journal of compiling a query text. -/
def journal (scope : Scope R) (config : Config) (text : String) : List Event :=
  match Query.parse text with
  | .error _ => []
  | .ok query =>
    let compiled := match Draft.build scope query with
      | .ok draft =>
        (if config.optimize then Pipeline.fusionJournal draft.stages else []) ++
          [.compiled (Pipeline.names (ofDraft config text draft).stages) text]
      | .error _ => []
    .parsed query :: Draft.journal scope query ++ compiled

/-- The journal of planning the conversion to a result type. -/
def typedJournal (plan : Plan R) (type : ResultType) : List Event :=
  match plan.typed type with
  | .ok typed => [.converted plan.runtimeShape (type.shape R) typed.conversion]
  | .error _ => []

omit [RowType R] in
/-- The journal of running a plan over some rows. -/
def runJournal (plan : Plan R) (rows : List R) : List Event :=
  let produced := match (plan.run rows).run.value with
    | .ok buffer => [.produced buffer.size rows.length]
    | .error _ => []
  Pipeline.runJournal plan.stages plan.config.batches rows ++ produced

end Plan

end RowQuery
