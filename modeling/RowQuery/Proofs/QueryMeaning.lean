import RowQuery.Demo
import RowQuery.Plan
import RowQuery.Proofs.ConditionMeaning
import RowQuery.Proofs.PipelineMeaning

/-! # The meaning of a query

A query keeps the rows of which its condition holds and shows them whole or by their selected
columns (`Buffer.Shows`). Every plan of the query comes to a buffer that shows exactly that,
whichever way it was compiled (`Plan.run_shows_query`).
-/

namespace RowQuery

variable {R : Type}

/-- Whether a row is in the result of a query: its condition, if it has one, holds. -/
def Query.keeps (query : Query) (schema : Schema R) (row : R) : Bool :=
  query.condition.all (Condition.holds schema row)

/-- Whether a buffer shows what is selected from some rows: the rows themselves, or under each
selected name, at the place of the name and at the index of a row, the value that the column of the
name has in the row, and nothing else. -/
def Buffer.Shows (buffer : Buffer R) (schema : Schema R) (kept : List R) : Selection → Prop
  | .all => buffer = .rows kept.toArray
  | .columns names => ∃ columns : List (Column R), names.map schema.find? = columns.map some ∧
      buffer.columns.length = columns.length ∧
      ∀ (place : Nat) (column : Column R), columns[place]? = some column →
        ∃ values : ColumnBuffer, buffer.columns[place]? = some values ∧
          ∀ index : Nat, values.get? index = kept[index]?.map column.value

/-! ## Selections -/

/-- A single column is projected by itself, and several as a tuple. -/
theorem Projection.ofColumns_eq_ok {columns : List (Column R)} {projection : Projection R}
    (made : Projection.ofColumns columns = .ok projection) :
    (∃ single, columns = [single] ∧ projection = .column single) ∨
      (2 ≤ columns.length ∧ projection = .tuple (Tuple.ofList columns)) := by
  match columns, made with
  | [single], rfl => exact .inl ⟨single, rfl, rfl⟩
  | first :: second :: rest, made =>
      rw [ofColumns_of_two, Except.ok.injEq] at made
      exact .inr ⟨by simp only [List.length_cons]; omega, made.symm⟩

/-- A projection has the columns it was made of. -/
theorem Projection.columns_of_ofColumns {columns : List (Column R)} {projection : Projection R}
    (made : Projection.ofColumns columns = .ok projection) : projection.columns = columns := by
  obtain ⟨single, rfl, rfl⟩ | ⟨-, rfl⟩ := Projection.ofColumns_eq_ok made
  · rfl
  · exact Tuple.toList_ofList columns

/-- A projection nests its columns in full sevens. -/
theorem Projection.full_of_ofColumns {columns : List (Column R)} {nested : Tuple (Column R)}
    (made : Projection.ofColumns columns = .ok (.tuple nested)) : nested.Full := by
  obtain ⟨single, rfl, other⟩ | ⟨wide, same⟩ := Projection.ofColumns_eq_ok made
  · cases other
  · cases same
    exact Tuple.full_ofList (List.ne_nil_of_length_pos (by omega))

variable [RowType R]

/-- Names that all resolve stand for the columns of the schema under them. -/
theorem Scope.find?_of_mapM_resolve {scope : Scope R} {schema : Schema R}
    (registered : scope.registered = some schema) {names : List String}
    {columns : List (Column R)} (resolved : names.mapM scope.resolve = .ok columns) :
    names.map schema.find? = columns.map some := by
  induction names generalizing columns with
  | nil =>
      cases resolved
      rfl
  | cons name names ih =>
      rw [List.mapM_cons] at resolved
      obtain ⟨column, found, resolved⟩ := ok_of_bind_eq_ok resolved
      obtain ⟨others, rest, resolved⟩ := ok_of_bind_eq_ok resolved
      cases resolved
      obtain ⟨same, again, present⟩ := Scope.resolve_eq_ok_iff.mp found
      cases registered.symm.trans again
      rw [List.map_cons, List.map_cons, present, ih rest]

/-- What a selection comes to: no projection for whole rows, and otherwise a projection of the
columns that its names stand for. -/
theorem Draft.select_eq_ok {scope : Scope R} {selection : Selection}
    {projection : Option (Projection R)}
    (selected : Draft.select scope selection = .ok projection) :
    ∃ schema, scope.registered = some schema ∧
      ((selection = .all ∧ projection = none) ∨
        ∃ names columns made, selection = .columns names ∧
          names.map schema.find? = columns.map some ∧
          Projection.ofColumns columns = .ok made ∧ projection = some made) := by
  unfold Draft.select at selected
  obtain ⟨schema, seen, selected⟩ := ok_of_bind_eq_ok selected
  have registered : scope.registered = some schema := by
    have known := ok_of_mapError_eq_ok seen
    unfold Scope.schema at known
    split at known
    · rename_i found
      cases known
      exact found
    · cases known
  refine ⟨schema, registered, ?_⟩
  cases selection with
  | all => exact .inl ⟨rfl, (Except.ok.inj selected).symm⟩
  | columns names =>
      obtain ⟨columns, resolved, selected⟩ := ok_of_bind_eq_ok selected
      obtain ⟨made, built, selected⟩ := ok_of_bind_eq_ok selected
      exact .inr ⟨names, columns, made, rfl,
        Scope.find?_of_mapM_resolve registered (ok_of_mapError_eq_ok resolved), built,
        (Except.ok.inj selected).symm⟩

/-- The projection of a selection nests its columns in full sevens. -/
theorem Draft.nested_of_select {scope : Scope R} {selection : Selection}
    {projection : Option (Projection R)}
    (selected : Draft.select scope selection = .ok projection) : Projection.Nested projection := by
  rintro nested rfl
  obtain ⟨-, -, ⟨-, whole⟩ | ⟨-, columns, made, -, -, built, same⟩⟩ := Draft.select_eq_ok selected
  · cases whole
  · cases same
    exact Projection.full_of_ofColumns built

/-- The buffer that holds rows through the projection of a selection shows that selection. -/
theorem Buffer.shows_holding {scope : Scope R} {schema : Schema R}
    (registered : scope.registered = some schema) {selection : Selection}
    {projection : Option (Projection R)} (selected : Draft.select scope selection = .ok projection)
    (kept : List R) : (Buffer.holding projection kept).Shows schema kept selection := by
  obtain ⟨seen, same, whole | named⟩ := Draft.select_eq_ok selected
  · obtain ⟨rfl, rfl⟩ := whole
    rfl
  · obtain ⟨names, columns, made, rfl, resolved, built, rfl⟩ := named
    cases registered.symm.trans same
    have sameColumns := Projection.columns_of_ofColumns built
    refine ⟨columns, resolved, ?_, ?_⟩
    · rw [Buffer.columns_holding, sameColumns, List.length_map]
    · intro place column present
      refine ⟨column.gather kept, ?_, column.get?_gather kept⟩
      rw [Buffer.columns_holding, sameColumns, List.getElem?_map, present, Option.map_some]

/-! ## Plans -/

/-- A draft without a condition writes through its projection, and keeps every row. -/
theorem Draft.stages_ofProjection (projection : Option (Projection R)) :
    Pipeline.terminalProjection (Draft.ofProjection projection).stages = projection ∧
      ∀ row, Pipeline.passes (Draft.ofProjection projection).stages row = true := by
  cases projection with
  | none => exact ⟨rfl, fun _ => rfl⟩
  | some projection => exact ⟨rfl, fun _ => rfl⟩

/-- The draft of a query writes through the projection of its selection the rows that the query
keeps. -/
theorem Draft.build_eq_ok {scope : Scope R} {query : Query} {draft : Draft R}
    (built : Draft.build scope query = .ok draft) :
    ∃ projection, Draft.select scope query.selection = .ok projection ∧
      Pipeline.terminalProjection draft.stages = projection ∧
      ∀ schema, scope.registered = some schema →
        ∀ row, Pipeline.passes draft.stages row = query.keeps schema row := by
  unfold Draft.build at built
  obtain ⟨projection, selected, built⟩ := ok_of_bind_eq_ok built
  refine ⟨projection, selected, ?_⟩
  obtain ⟨written, passed⟩ := Draft.stages_ofProjection projection
  cases restricted : query.condition with
  | none =>
      rw [restricted] at built
      cases built
      refine ⟨written, fun schema registered row => ?_⟩
      rw [passed, Query.keeps, restricted, Option.all_none]
  | some condition =>
      rw [restricted] at built
      obtain ⟨predicate, lowered, built⟩ := ok_of_bind_eq_ok built
      cases built
      refine ⟨(Pipeline.terminalProjection_cons _ _).trans ?_, fun schema registered row => ?_⟩
      · rw [written, Stage.projection?, Option.or_none]
      · have meets := Predicate.value_evaluate_of_lower registered lowered row
        rw [Draft.filtered, Pipeline.passes_cons, passed, Stage.predicate?, Option.all_some,
          Bool.and_true, meets, Query.keeps, restricted, Option.all_some]

/-- A text compiles if it is a query that has a draft, whatever the configuration. -/
theorem Plan.compile_eq_ok_iff {scope : Scope R} {config : Config} {text : String} {plan : Plan R} :
    Plan.compile scope config text = .ok plan ↔
      ∃ query draft, Query.parse text = .ok query ∧ Draft.build scope query = .ok draft ∧
        plan = Plan.ofDraft config text draft := by
  unfold Plan.compile
  constructor
  · intro compiled
    obtain ⟨query, parsed, compiled⟩ := ok_of_bind_eq_ok compiled
    obtain ⟨draft, built, compiled⟩ := ok_of_bind_eq_ok compiled
    exact ⟨query, draft, ok_of_mapError_eq_ok parsed, built, (Except.ok.inj compiled).symm⟩
  · rintro ⟨query, draft, parsed, built, rfl⟩
    rw [parsed]
    change (Draft.build scope query >>= fun draft => .ok (Plan.ofDraft config text draft)) = _
    rw [built]
    rfl

omit [RowType R] in
/-- The plan of a draft writes what the draft writes. -/
theorem Plan.outcome_run_ofDraft (config : Config) (text : String) (draft : Draft R)
    (rows : List R) :
    outcome ((Plan.ofDraft config text draft).run rows) =
      .ok (Buffer.holding (Pipeline.terminalProjection draft.stages)
        (rows.filter (Pipeline.passes draft.stages))) := by
  unfold Plan.run
  rw [Pipeline.outcome_run]
  simp only [Plan.ofDraft]
  split
  · rw [Pipeline.terminalProjection_fuse, funext (Pipeline.passes_fuse draft.stages)]
  · rfl

/-- A compiled plan comes to the buffer that holds the kept rows through the projection of the
selection, whichever way it was compiled. -/
theorem Plan.outcome_run_of_compile {scope : Scope R} {config : Config} {text : String}
    {query : Query} {plan : Plan R} (parsed : Query.parse text = .ok query)
    (compiled : Plan.compile scope config text = .ok plan) :
    ∃ schema projection, scope.registered = some schema ∧
      Draft.select scope query.selection = .ok projection ∧
      ∀ rows, outcome (plan.run rows) =
        .ok (Buffer.holding projection (rows.filter (query.keeps schema))) := by
  obtain ⟨same, draft, parsedAgain, built, rfl⟩ := Plan.compile_eq_ok_iff.mp compiled
  cases parsed.symm.trans parsedAgain
  obtain ⟨projection, selected, written, keeps⟩ := Draft.build_eq_ok built
  obtain ⟨schema, registered, -⟩ := Draft.select_eq_ok selected
  refine ⟨schema, projection, registered, selected, fun rows => ?_⟩
  rw [Plan.outcome_run_ofDraft, written, funext (keeps schema registered)]

/-- **The result of a query.** Whenever a text that is a query compiles, with any configuration, its
plan run over any rows shows exactly the rows of which the query's condition holds, in their order:
whole, or by the values of the selected columns. The result is never longer than the rows, and no
other configuration changes it. -/
theorem Plan.run_shows_query (scope : Scope R) (config : Config) (text : String) (query : Query)
    (plan : Plan R) (parsed : Query.parse text = .ok query)
    (compiled : Plan.compile scope config text = .ok plan) (rows : List R) :
    ∃ schema buffer, scope.registered = some schema ∧ outcome (plan.run rows) = .ok buffer ∧
      buffer.Shows schema (rows.filter (query.keeps schema)) query.selection ∧
      buffer.size = (rows.filter (query.keeps schema)).length ∧ buffer.size ≤ rows.length ∧
      ∀ other : Config, ∃ otherPlan, Plan.compile scope other text = .ok otherPlan ∧
        outcome (otherPlan.run rows) = .ok buffer := by
  obtain ⟨schema, projection, registered, selected, runs⟩ :=
    Plan.outcome_run_of_compile parsed compiled
  have size := Buffer.size_holding (Draft.nested_of_select selected)
    (rows.filter (query.keeps schema))
  refine ⟨schema, _, registered, runs rows, Buffer.shows_holding registered selected _, size,
    size ▸ List.length_filter_le _ _, fun other => ?_⟩
  obtain ⟨same, draft, parsedAgain, built, -⟩ := Plan.compile_eq_ok_iff.mp compiled
  cases parsed.symm.trans parsedAgain
  have compiledOther : Plan.compile scope other text = .ok (Plan.ofDraft other text draft) :=
    Plan.compile_eq_ok_iff.mpr ⟨query, draft, parsed, built, rfl⟩
  obtain ⟨schemaAgain, projectionAgain, registeredAgain, selectedAgain, runsAgain⟩ :=
    Plan.outcome_run_of_compile parsed compiledOther
  cases registered.symm.trans registeredAgain
  cases selected.symm.trans selectedAgain
  exact ⟨_, compiledOther, runsAgain rows⟩

namespace Demo

/-- An employee without a team, whose salary is not a number. -/
def newcomer : Person :=
  ⟨6, "Frank", 23, "Oslo", Binary32.nan, "Research", false, 0, "NO", none, "Junior"⟩

/-- The employees and the newcomer. -/
def staff : List Person := people ++ [newcomer]

/-- Columns of every type. -/
def mixedSchema : Schema Person := Schema.ofColumns
  [⟨"name", 1, .text (·.name)⟩, ⟨"age", 2, .integer (·.age)⟩, ⟨"salary", 4, .float (·.salary)⟩,
   ⟨"lead", 6, .boolean (·.isManager)⟩, ⟨"team", 9, .nullableText (·.team)⟩]

/-- A query that reads all of them. -/
def mixedText : String :=
  "SELECT Name, SALARY, team FROM $ WHERE salary < 195000 AND NOT Team >= 'ML' OR " ++
    "lead = true AND age != 34"

/-- The query that this text spells. -/
def mixedQuery : Query where
  selection := .columns ["Name", "SALARY", "team"]
  condition := some (.or
    (.and (.comparison "salary" .lessThan (.integer 195000))
      (.not (.comparison "Team" .greaterOrEqual (.string "ML"))))
    (.and (.comparison "lead" .equals (.boolean true))
      (.comparison "age" .notEqual (.integer 34))))

end Demo

/-- The query keeps Barbara, whose salary is below the bound and whose team comes before the other
one, Charles and Eve, who lead others, and the newcomer, since what is not a number comes before all
numbers and an absent team before all teams. -/
theorem Plan.run_shows_query_mixed :
    Query.parse Demo.mixedText = .ok Demo.mixedQuery ∧
      ∃ plan, Plan.compile ⟨some Demo.mixedSchema⟩ ⟨true, true⟩ Demo.mixedText = .ok plan ∧
        ∃ buffer, outcome (plan.run Demo.staff) = .ok buffer ∧
          (Demo.staff.filter (Demo.mixedQuery.keeps Demo.mixedSchema)).map Person.name =
            ["Barbara", "Charles", "Eve", "Frank"] ∧
          buffer.columns = [.text #[some "Barbara", some "Charles", some "Eve", some "Frank"],
            .float #[⟨0x48127c00⟩, ⟨0x484d1400⟩, ⟨0x4856d800⟩, ⟨0x7fc00000⟩],
            .text #[some "Compiler", some "ML", none, none]] ∧
          buffer.Shows Demo.mixedSchema
            (Demo.staff.filter (Demo.mixedQuery.keeps Demo.mixedSchema)) Demo.mixedQuery.selection ∧
          buffer.size = 4 ∧
          ∀ other : Config, ∃ otherPlan,
            Plan.compile ⟨some Demo.mixedSchema⟩ other Demo.mixedText = .ok otherPlan ∧
              outcome (otherPlan.run Demo.staff) = .ok buffer := by
  have parsed : Query.parse Demo.mixedText = .ok Demo.mixedQuery := by decide +kernel
  have ran : (Plan.compile ⟨some Demo.mixedSchema⟩ ⟨true, true⟩ Demo.mixedText).toOption.bind
      (fun plan => (outcome (plan.run Demo.staff)).toOption.map Buffer.columns) =
      some [.text #[some "Barbara", some "Charles", some "Eve", some "Frank"],
        .float #[⟨0x48127c00⟩, ⟨0x484d1400⟩, ⟨0x4856d800⟩, ⟨0x7fc00000⟩],
        .text #[some "Compiler", some "ML", none, none]] := by decide +kernel
  have kept : (Demo.staff.filter (Demo.mixedQuery.keeps Demo.mixedSchema)).map Person.name =
      ["Barbara", "Charles", "Eve", "Frank"] := by decide +kernel
  cases compiled : Plan.compile ⟨some Demo.mixedSchema⟩ ⟨true, true⟩ Demo.mixedText with
  | error cause =>
      rw [compiled] at ran
      cases ran
  | ok plan =>
      obtain ⟨schema, buffer, registered, finished, shows, size, -, others⟩ :=
        Plan.run_shows_query ⟨some Demo.mixedSchema⟩ ⟨true, true⟩ Demo.mixedText Demo.mixedQuery
          plan parsed compiled Demo.staff
      obtain rfl : Demo.mixedSchema = schema := Option.some_inj.mp registered
      rw [compiled, Except.toOption, Option.bind_some, finished] at ran
      have four := congrArg List.length kept
      rw [List.length_map] at four
      exact ⟨parsed, plan, rfl, buffer, finished, kept, Option.some_inj.mp ran, shows,
        size.trans four, others⟩

/-- Two of the columns of employees. -/
def Demo.teams : Scope Person :=
  ⟨some (Schema.ofColumns [⟨"age", 2, .integer (·.age)⟩, ⟨"team", 9, .nullableText (·.team)⟩])⟩

/-- The teams and ages of employees who have a team and are not too young. -/
def Demo.teamText : String := "SELECT Team, age FROM $ WHERE NOT (team = null OR age < 30)"

/-- The query that this text spells. -/
def Demo.teamQuery : Query where
  selection := .columns ["Team", "age"]
  condition := some (.not (.or (.comparison "team" .equals .null)
    (.comparison "age" .lessThan (.integer 30))))

end RowQuery
