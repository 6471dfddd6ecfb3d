import RowQuery.Proofs.QueryMeaning
import RowQuery.Proofs.TypedElements

/-! # Typed results of a query

Every plan has exactly one result type, the one whose shape is that of its result. The plan for it
never fails: it gives an element for each row that the query keeps (`ResultType.Gives`), and text is
unwrapped only where it is never absent (`TypedPlan.UnwrapsPresent`).
-/

namespace RowQuery

variable {R : Type}

/-- Whether the elements of a result are what is selected from some rows, one element for each row
and in their order: the rows themselves, or for each selected name the value that the column of the
name has in the row, which is absent only where the column is of nullable text. -/
def ResultType.Gives (type : ResultType) (elements : Array (type.Element R)) (schema : Schema R)
    (kept : List R) : Selection → Prop
  | .all => elements.toList.map type.entry = kept.map .row
  | .columns names => ∃ columns : List (Column R), names.map schema.find? = columns.map some ∧
      (elements.toList.map fun element => (type.entry element).values) =
        kept.map (fun row => columns.map fun column => column.value row) ∧
      ∀ element ∈ elements, ∀ place : Nat,
        (type.entry element).values[place]? = some (.text none) →
          ∃ column, columns[place]? = some column ∧ column.fieldType = .nullableText

/-- Whether every column of a buffer that a plan would unwrap holds text without absences. -/
def TypedPlan.UnwrapsPresent {type : ResultType} (typed : TypedPlan R type) (buffer : Buffer R) :
    Prop :=
  ∀ place : Nat, typed.conversion.leaves[place]? = some .unwrapText →
    ∃ values, buffer.columns[place]? = some (.text values) ∧ none ∉ values

variable [RowType R]

/-! ## Plans for result types -/

/-- A condition changes the rows that are kept, and not the shapes. -/
theorem Draft.shapes_of_build {scope : Scope R} {query : Query} {draft : Draft R}
    {projection : Option (Projection R)} (built : Draft.build scope query = .ok draft)
    (selected : Draft.select scope query.selection = .ok projection) :
    draft.runtimeShape = (Draft.ofProjection projection).runtimeShape ∧
      draft.publicShape = (Draft.ofProjection projection).publicShape := by
  unfold Draft.build at built
  obtain ⟨same, selectedAgain, built⟩ := ok_of_bind_eq_ok built
  cases selected.symm.trans selectedAgain
  cases restricted : query.condition with
  | none =>
      rw [restricted] at built
      cases built
      exact ⟨rfl, rfl⟩
  | some condition =>
      rw [restricted] at built
      obtain ⟨predicate, -, built⟩ := ok_of_bind_eq_ok built
      cases built
      exact ⟨rfl, rfl⟩

/-- A plan can be had for the result type of its shape. -/
theorem Plan.typed_of_shape {plan : Plan R} {type : ResultType} {conversion : Conversion}
    (asked : type.shape R = plan.publicShape)
    (planned : Conversion.plan plan.runtimeShape (type.shape R) = some conversion) :
    plan.typed type = .ok ⟨plan, conversion⟩ := by
  simp only [Plan.typed, asked.symm, if_true, planned]

/-- A plan cannot be had for a result type of another shape. -/
theorem Plan.typed_of_other {plan : Plan R} {type : ResultType}
    (differs : type.shape R ≠ plan.publicShape) :
    plan.typed type = .error (.shapeMismatch plan.publicShape (type.shape R)) :=
  if_neg differs.symm

/-- The plan for a result type comes to the elements that can be taken out of the buffer. -/
theorem TypedPlan.outcome_execute {type : ResultType} {typed : TypedPlan R type} {rows : List R}
    {buffer : Buffer R} {elements : Array (type.Element R)}
    (runs : outcome (typed.plan.run rows) = .ok buffer)
    (taken : type.materialize buffer typed.conversion = some elements) :
    outcome (typed.execute rows) = .ok (.ok elements) := by
  unfold TypedPlan.execute
  rw [outcome_bind_of_ok _ runs, taken]
  rfl

/-! ## What the elements are -/

omit [RowType R] in
/-- Text is absent from an element only where its column is of nullable text. -/
theorem Projection.absent_of_values {projection : Projection R}
    (nested : Projection.Nested (some projection)) {row : R} {place : Nat}
    (absent : ((resultType (some projection) nested).entry
      (element (some projection) nested row)).values[place]? = some (.text none)) :
    ∃ column, projection.columns[place]? = some column ∧ column.fieldType = .nullableText := by
  rw [values_element, List.getElem?_map, Option.map_eq_some_iff] at absent
  obtain ⟨column, present, lacking⟩ := absent
  exact ⟨column, present, Column.fieldType_of_value_none lacking⟩

/-- The elements of rows through the projection of a selection are what is selected. -/
theorem Projection.gives_elements {scope : Scope R} {schema : Schema R}
    (registered : scope.registered = some schema) {selection : Selection}
    {projection : Option (Projection R)} (nested : Projection.Nested projection)
    (selected : Draft.select scope selection = .ok projection) (kept : List R) :
    (resultType projection nested).Gives (kept.map (element projection nested)).toArray schema kept
      selection := by
  obtain ⟨seen, same, ⟨rfl, rfl⟩ | ⟨names, columns, made, rfl, resolved, built, rfl⟩⟩ :=
    Draft.select_eq_ok selected
  · exact List.map_map
  · cases registered.symm.trans same
    have sameColumns := Projection.columns_of_ofColumns built
    refine ⟨columns, resolved, ?_, ?_⟩
    · rw [List.map_map]
      refine List.map_congr_left fun row _ => ?_
      rw [← sameColumns]
      exact values_element made nested row
    · intro element member place absent
      rw [List.mem_toArray] at member
      obtain ⟨row, -, rfl⟩ := List.mem_map.mp member
      rw [← sameColumns]
      exact absent_of_values nested absent

omit [RowType R] in
/-- Only the columns of text that is never absent are unwrapped. -/
theorem Projection.unwraps_present {type : ResultType} (plan : Plan R)
    (projection : Option (Projection R)) (kept : List R) :
    (⟨plan, conversion projection⟩ : TypedPlan R type).UnwrapsPresent
      (Buffer.holding projection kept) := by
  intro place unwraps
  cases projection with
  | none =>
      simp only [conversion, Conversion.leaves, List.getElem?_singleton] at unwraps
      split at unwraps <;> cases unwraps
  | some projection =>
      rw [leaves_conversion, List.getElem?_map, Option.map_eq_some_iff] at unwraps
      obtain ⟨column, present, unwraps⟩ := unwraps
      obtain ⟨values, text, whole⟩ := Column.gather_of_unwrapText kept unwraps
      refine ⟨values, ?_, whole⟩
      rw [Buffer.columns_holding, List.getElem?_map, present, Option.map_some, text]

/-- **Typed results.** A compiled plan has exactly one result type, the one that asks for the shape
of its result, and refuses every other one by naming both shapes. Over any rows the plan for that
type gives, without an error, an element for each row that the query keeps, with the values of the
selected columns; text is absent only where its column allows it, and where it is unwrapped it never
was absent. -/
theorem Plan.typed_total_and_exact (scope : Scope R) (config : Config) (text : String)
    (plan : Plan R) (compiled : Plan.compile scope config text = .ok plan) :
    ∃ (query : Query) (schema : Schema R) (type : ResultType) (typed : TypedPlan R type),
      Query.parse text = .ok query ∧ scope.registered = some schema ∧
      (∀ other : ResultType, other.shape R = plan.publicShape ↔ other = type) ∧
      plan.typed type = .ok typed ∧
      (∀ other : ResultType, other ≠ type →
        plan.typed other = .error (.shapeMismatch plan.publicShape (other.shape R))) ∧
      ∀ rows : List R, ∃ buffer elements,
        outcome (typed.plan.run rows) = .ok buffer ∧ typed.UnwrapsPresent buffer ∧
        outcome (typed.execute rows) = .ok (.ok elements) ∧
        type.Gives elements schema (rows.filter (query.keeps schema)) query.selection := by
  obtain ⟨query, draft, parsed, built, same⟩ := Plan.compile_eq_ok_iff.mp compiled
  obtain ⟨schema, projection, registered, selected, runs⟩ :=
    Plan.outcome_run_of_compile parsed compiled
  obtain ⟨runtime, result⟩ := Draft.shapes_of_build built selected
  have nested := Draft.nested_of_select selected
  have asked : (Projection.resultType projection nested).shape R = plan.publicShape := by
    rw [Projection.shape_resultType, same, ← result]
    rfl
  have planned : Conversion.plan plan.runtimeShape
      ((Projection.resultType projection nested).shape R) =
        some (Projection.conversion projection) := by
    rw [← Projection.plan_conversion projection nested, same, ← runtime]
    rfl
  have only : ∀ other : ResultType, other.shape R = plan.publicShape ↔
      other = Projection.resultType projection nested := by
    intro other
    constructor
    · intro shape
      exact ResultType.shape_injective (shape.trans asked.symm)
    · rintro rfl
      exact asked
  refine ⟨query, schema, _, _, parsed, registered, only, Plan.typed_of_shape asked planned, ?_, ?_⟩
  · intro other differs
    exact Plan.typed_of_other fun shape => differs ((only other).mp shape)
  · intro rows
    exact ⟨_, _, runs rows, Projection.unwraps_present plan projection _,
      TypedPlan.outcome_execute (runs rows) (Projection.materialize_holding projection nested _),
      Projection.gives_elements registered nested selected _⟩

namespace Demo

/-- Nine columns, so that two of them are nested; some are of text and one of nullable text. -/
def wideText : String :=
  "SELECT name, id, age, city, salary, department, isManager, Team, level FROM $ WHERE age > 30"

/-- The query that this text spells. -/
def wideQuery : Query where
  selection := .columns ["name", "id", "age", "city", "salary", "department", "isManager", "Team",
    "level"]
  condition := some (.comparison "age" .greaterThan (.integer 30))

/-- The text is read as the query. -/
theorem parse_wideText : Query.parse wideText = .ok wideQuery := by
  decide +kernel

/-- The type of its results. -/
def wideType : ResultType :=
  .tuple (.more [.text, .integer, .integer, .text, .float, .text, .boolean]
    (.last [.nullableText, .text])) (by decide)

/-- The values of its results. -/
def wideValues : List (List Value) :=
  [[.text (some "Ada"), .integer 1, .integer 34, .text (some "Seattle"), .float ⟨0x482fc800⟩,
      .text (some "Engineering"), .boolean true, .text (some "Runtime"), .text (some "Senior")],
    [.text (some "Charles"), .integer 3, .integer 44, .text (some "Helsinki"), .float ⟨0x484d1400⟩,
      .text (some "Research"), .boolean true, .text (some "ML"), .text (some "Principal")],
    [.text (some "David"), .integer 4, .integer 31, .text (some "Palo Alto"), .float ⟨0x483e6e00⟩,
      .text (some "Product"), .boolean false, .text (some "Runtime"), .text (some "Senior")],
    [.text (some "Eve"), .integer 5, .integer 39, .text (some "Seattle"), .float ⟨0x4856d800⟩,
      .text (some "Product"), .boolean true, .text none, .text (some "Staff")]]

end Demo

/-- The employees over thirty as nested tuples, one of them without a team; single texts cannot be
asked for. -/
theorem Plan.typed_total_and_exact_wide :
    ∃ plan, Plan.compile Demo.scope ⟨true, true⟩ Demo.wideText = .ok plan ∧
      ∃ typed : TypedPlan Person Demo.wideType,
        (∀ other : ResultType, other.shape Person = plan.publicShape ↔ other = Demo.wideType) ∧
        plan.typed Demo.wideType = .ok typed ∧
        (∀ other : ResultType, other ≠ Demo.wideType →
          plan.typed other = .error (.shapeMismatch plan.publicShape (other.shape Person))) ∧
        plan.typed (.field .text) = .error (.shapeMismatch plan.publicShape (.field .text)) ∧
        ∃ buffer elements, outcome (typed.plan.run Demo.people) = .ok buffer ∧
          typed.UnwrapsPresent buffer ∧
          outcome (typed.execute Demo.people) = .ok (.ok elements) ∧
          (elements.toList.map fun element => (Demo.wideType.entry element).values) =
            Demo.wideValues ∧
          Demo.wideType.Gives elements Person.schema
            (Demo.people.filter (Demo.wideQuery.keeps Person.schema)) Demo.wideQuery.selection := by
  have executed : ((Plan.compile Demo.scope ⟨true, true⟩ Demo.wideText).toOption.bind fun plan =>
      (plan.typed Demo.wideType).toOption.bind fun typed =>
        ((outcome (typed.execute Demo.people)).toOption.bind Except.toOption).map fun elements =>
          (plan.publicShape,
            elements.toList.map fun element => (Demo.wideType.entry element).values)) =
      some (Demo.wideType.shape Person, Demo.wideValues) := by decide +kernel
  cases compiled : Plan.compile Demo.scope ⟨true, true⟩ Demo.wideText with
  | error cause =>
      rw [compiled] at executed
      cases executed
  | ok plan =>
      obtain ⟨query, schema, type, typed, same, registered, only, planned, others, results⟩ :=
        Plan.typed_total_and_exact Demo.scope ⟨true, true⟩ Demo.wideText plan compiled
      obtain rfl : Demo.wideQuery = query := Except.ok.inj (Demo.parse_wideText.symm.trans same)
      obtain rfl : Person.schema = schema := Option.some_inj.mp registered
      rw [compiled, Except.toOption, Option.bind_some] at executed
      obtain ⟨asked, made, executed⟩ := Option.bind_eq_some_iff.mp executed
      obtain ⟨found, came, both⟩ := Option.map_eq_some_iff.mp executed
      obtain ⟨shape, values⟩ := Prod.mk.inj both
      obtain rfl : Demo.wideType = type := (only _).mp shape.symm
      obtain ⟨buffer, elements, ran, present, finished, gives⟩ := results Demo.people
      -- What was evaluated is the plan and the elements of the theorem.
      obtain rfl : typed = asked := by
        rw [planned] at made
        exact Option.some_inj.mp made
      obtain rfl : elements = found := by
        rw [finished] at came
        exact Option.some_inj.mp came
      exact ⟨plan, rfl, typed, only, planned, others, others _ (by decide), buffer, elements, ran,
        present, finished, values, gives⟩

end RowQuery
