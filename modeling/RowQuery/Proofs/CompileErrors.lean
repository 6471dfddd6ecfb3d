import RowQuery.Proofs.QueryMeaning
import RowQuery.Proofs.QueryReading

/-! # Failures of compilation

A text is checked in stages: its tokens, the query that they form, the schema of the rows, the
selected names, and the comparisons of the condition from left to right. The first thing that is
wrong (`Plan.fault?`) is what compiling the text reports, with any configuration
(`Plan.compile_reports_fault`).
-/

namespace RowQuery

/-! ## Faults -/

/-- Whether a literal may be compared with a field. -/
def Literal.fits : Literal → FieldType → Bool
  | .integer _, .integer => true
  | .integer _, .float => true
  | .float _, .float => true
  | .boolean _, .boolean => true
  | .string _, .text => true
  | .string _, .nullableText => true
  | .null, .text => true
  | .null, .nullableText => true
  | _, _ => false

/-- The names and literals that a condition compares, from left to right. -/
def Condition.comparisons : Condition → List (String × Literal)
  | .comparison name _ literal => [(name, literal)]
  | .and left right => left.comparisons ++ right.comparisons
  | .or left right => left.comparisons ++ right.comparisons
  | .not inner => inner.comparisons

section Faults

variable {R : Type} [RowType R]

/-- What is wrong with a selected name. -/
def Schema.nameFault? (schema : Schema R) (name : String) : Option QueryError :=
  match schema.find? name with
  | some _ => none
  | none => some (.catalog (.unknownColumn name (RowType.name R)))

/-- What is wrong with the comparison of a name and a literal. -/
def Schema.comparisonFault? (schema : Schema R) (comparison : String × Literal) :
    Option QueryError :=
  match schema.find? comparison.1 with
  | some column =>
    if comparison.2.fits column.fieldType then none
    else some (.typeMismatch column.type column.name comparison.2)
  | none => some (.catalog (.unknownColumn comparison.1 (RowType.name R)))

/-- What is wrong first with a query over the rows of a schema. -/
def Query.fault? (schema : Schema R) (query : Query) : Option QueryError :=
  (query.selection.names.findSome? schema.nameFault?).or
    (query.condition.bind fun condition =>
      condition.comparisons.findSome? schema.comparisonFault?)

/-- What is wrong first with the text of a query. -/
def Plan.fault? (scope : Scope R) (text : String) : Option QueryError :=
  match Token.tokenize text with
  | .error unterminated => some (.parse (.unterminatedString unterminated.position))
  | .ok tokens =>
    match Query.ofTokens tokens with
    | .error cause => some (.parse cause)
    | .ok query =>
      match scope.registered with
      | none => some (.catalog (.notRegistered (RowType.name R)))
      | some schema => query.fault? schema

end Faults

/-! ## Steps that fail -/

section Failure

variable {ε ε' α β γ : Type}

/-- The failure of a step, if it fails. -/
def failure? : Except ε α → Option ε
  | .ok _ => none
  | .error cause => some cause

/-- The failure of a step is the error that it ends in. -/
theorem failure?_eq_some_iff {step : Except ε α} {cause : ε} :
    failure? step = some cause ↔ step = .error cause := by
  cases step <;> simp [failure?]

/-- A step without a failure has a value. -/
theorem failure?_eq_none_iff {step : Except ε α} :
    failure? step = none ↔ ∃ value, step = .ok value := by
  cases step <;> simp [failure?]

/-- Changing the value of a step keeps its failure. -/
theorem failure?_map (step : Except ε α) (change : α → β) :
    failure? (step.map change) = failure? step := by
  cases step <;> rfl

private theorem failure?_mapError (step : Except ε α) (change : ε → ε') :
    failure? (step.mapError change) = (failure? step).map change := by
  cases step <;> rfl

/-- Of two steps in a row the first that fails is reported. -/
theorem failure?_bind {first : Except ε α} {next : α → Except ε β} {rest : Option ε}
    (later : ∀ value, first = .ok value → failure? (next value) = rest) :
    failure? (first >>= next) = (failure? first).or rest := by
  cases first with
  | ok value => exact later value rfl
  | error cause => rfl

private theorem failure?_bind_of_none {first : Except ε α} {next : α → Except ε β}
    (later : ∀ value, first = .ok value → failure? (next value) = none) :
    failure? (first >>= next) = failure? first := by
  rw [failure?_bind later, Option.or_none]

/-- The failure of two steps is that of the first one that fails. -/
theorem failure?_join (first : Except ε α) (second : Except ε β) (join : α → β → γ) :
    failure? (do let left ← first; let right ← second; return join left right) =
      (failure? first).or (failure? second) := by
  apply failure?_bind
  intro left _
  apply failure?_bind_of_none
  intro right _
  rfl

/-- Of a step for each item the first that fails is reported. -/
theorem failure?_mapM (step : α → Except ε β) (items : List α) :
    failure? (items.mapM step) = items.findSome? fun item => failure? (step item) := by
  induction items with
  | nil => rfl
  | cons item items ih =>
      rw [List.mapM_cons, failure?_join, ih, List.findSome?_cons]
      cases failure? (step item) <;> rfl

end Failure

/-! ## Conditions -/

private theorem Literal.isSome_constant? (literal : Literal) (type : FieldType) :
    (literal.constant? type.valueType).isSome = literal.fits type := by
  cases type <;> cases literal <;> rfl

variable {R : Type}

/-- A literal that fits its column can be compared with it by every operator. -/
theorem Comparison.failure?_make (identifier : String) (column : Column R) (operator : Operator)
    (literal : Literal) :
    failure? (make identifier column operator literal) =
      if literal.fits column.fieldType then none
      else some (.typeMismatch column.type column.name literal) := by
  rw [← Literal.isSome_constant?]
  change _ = if (literal.constant? column.type).isSome then none else _
  unfold make Column.specialize
  cases found : literal.constant? column.type with
  | none => rfl
  | some constant =>
      -- The constant is of the column's type, so the second check never fails.
      simp only [Literal.type_constant? found, ↓reduceIte, Option.isSome_some]
      rfl

/-- A projection can be made of any columns, if there are some. -/
theorem Projection.failure?_ofColumns {columns : List (Column R)} (nonempty : columns ≠ []) :
    failure? (ofColumns columns) = none := by
  match columns, nonempty with
  | [_], _ => rfl
  | first :: second :: others, _ =>
      rw [ofColumns_of_two]
      rfl

/-! ## Queries over the rows of a schema -/

section Registered

variable [RowType R] {scope : Scope R} {schema : Schema R}
  (registered : scope.registered = some schema)

include registered

private theorem Scope.schema_of_registered : scope.schema = .ok schema := by
  unfold Scope.schema
  rw [registered]

private theorem Scope.resolve_of_registered (name : String) :
    scope.resolve name =
      (schema.find? name).elim (.error (.unknownColumn name (RowType.name R))) .ok := by
  unfold Scope.resolve
  rw [Scope.schema_of_registered registered]
  cases found : schema.find? name <;> simp [found]

/-- The first of some names at fault is reported. -/
theorem Scope.failure?_mapM_resolve (names : List String) :
    failure? ((names.mapM scope.resolve).mapError QueryError.catalog) =
      names.findSome? schema.nameFault? := by
  rw [failure?_mapError, failure?_mapM, List.map_findSome?]
  congr 1
  funext name
  unfold Schema.nameFault?
  rw [Function.comp_apply, Scope.resolve_of_registered registered]
  cases schema.find? name <;> rfl

/-- The leftmost comparison at fault is reported. -/
theorem Predicate.failure?_lower (condition : Condition) :
    failure? (lower scope condition) =
      condition.comparisons.findSome? schema.comparisonFault? := by
  induction condition with
  | comparison name operator literal =>
      rw [lower, Scope.resolve_of_registered registered, Condition.comparisons,
        List.findSome?_singleton]
      unfold Schema.comparisonFault?
      cases schema.find? name with
      | none => rfl
      | some column => exact (failure?_map _ _).trans (Comparison.failure?_make ..)
  | and left right ihLeft ihRight =>
      rw [lower, failure?_join, ihLeft, ihRight, Condition.comparisons, List.findSome?_append]
  | or left right ihLeft ihRight =>
      rw [lower, failure?_join, ihLeft, ihRight, Condition.comparisons, List.findSome?_append]
  | not inner ih => rw [lower, failure?_map, ih, Condition.comparisons]

private theorem Draft.select_columns (names : List String) :
    select scope (.columns names) = (do
      let columns ← (names.mapM scope.resolve).mapError QueryError.catalog
      let projection ← Projection.ofColumns columns
      return some projection) := by
  unfold select
  rw [Scope.schema_of_registered registered]
  rfl

/-- A selection of one column at least fails at its first name at fault. -/
theorem Draft.failure?_select {selection : Selection} (nonempty : selection ≠ .columns []) :
    failure? (select scope selection) = selection.names.findSome? schema.nameFault? := by
  cases selection with
  | all =>
      unfold select
      rw [Scope.schema_of_registered registered]
      rfl
  | columns names =>
      rw [Draft.select_columns registered, Selection.names,
        ← Scope.failure?_mapM_resolve registered]
      apply failure?_bind_of_none
      intro columns resolved
      -- There are as many columns as names, so the projection has one at least.
      have sameLength := congrArg List.length
        (Scope.find?_of_mapM_resolve registered (ok_of_mapError_eq_ok resolved))
      rw [List.length_map, List.length_map] at sameLength
      have present : columns ≠ [] := by
        rintro rfl
        exact nonempty (congrArg Selection.columns (List.length_eq_zero_iff.mp sameLength))
      exact (failure?_bind_of_none fun _ _ => rfl).trans (Projection.failure?_ofColumns present)

/-- Building a draft fails with the fault of the query. -/
theorem Draft.failure?_build {query : Query} (nonempty : query.selection ≠ .columns []) :
    failure? (build scope query) = query.fault? schema := by
  unfold build Query.fault?
  rw [← Draft.failure?_select registered nonempty]
  apply failure?_bind
  intro projection _
  cases query.condition with
  | none => rfl
  | some condition =>
      rw [Option.bind_some, ← Predicate.failure?_lower registered]
      exact failure?_bind_of_none fun _ _ => rfl

end Registered

/-! ## Texts -/

/-- A query that is read from tokens does not select an empty list of columns. -/
theorem Query.selection_of_ofTokens {tokens : List Token} {query : Query}
    (accepted : Query.ofTokens tokens = .ok query) : query.selection ≠ .columns [] := by
  obtain ⟨derivation, -, rfl⟩ := Grammar.query_derives accepted
  change derivation.selection.selection ≠ _
  cases derivation.selection with
  | all star whole => nofun
  | columns names nonempty allowed =>
      intro empty
      exact nonempty (List.map_eq_nil_iff.mp (Selection.columns.inj empty))

variable [RowType R]

/-- Without a schema building fails since the rows are not registered. -/
theorem Draft.failure?_build_of_unregistered {scope : Scope R}
    (missing : scope.registered = none) (query : Query) :
    failure? (build scope query) = some (.catalog (.notRegistered (RowType.name R))) := by
  unfold build select Scope.schema
  rw [missing]
  rfl

/-- What a text comes to before any choice of configuration. -/
def Draft.ofText (scope : Scope R) (text : String) : Except QueryError (Draft R) := do
  let query ← (Query.parse text).mapError .parse
  build scope query

/-- Compiling fails only while drafting, so the configuration has no part in it. -/
theorem Plan.compile_eq_map (scope : Scope R) (config : Config) (text : String) :
    compile scope config text = (Draft.ofText scope text).map (ofDraft config text) := by
  unfold compile Draft.ofText
  cases Query.parse text with
  | error cause => rfl
  | ok query =>
      change (Draft.build scope query >>= fun draft => pure (ofDraft config text draft)) =
        (Draft.build scope query).map (ofDraft config text)
      cases Draft.build scope query <;> rfl

/-- Drafting fails with the fault of the text. -/
theorem Draft.failure?_ofText (scope : Scope R) (text : String) :
    failure? (ofText scope text) = Plan.fault? scope text := by
  unfold ofText Query.parse Plan.fault?
  cases Token.tokenize text with
  | error unterminated => rfl
  | ok tokens =>
      cases accepted : Query.ofTokens tokens with
      | error cause =>
          simp only [accepted]
          rfl
      | ok query =>
          simp only [accepted]
          cases registered : scope.registered with
          | none => exact Draft.failure?_build_of_unregistered registered query
          | some schema =>
              exact Draft.failure?_build registered (Query.selection_of_ofTokens accepted)

/-- A query that can be read is at fault by a column that is not there or by a literal of another
type. -/
theorem Query.fault?_cases {schema : Schema R} {query : Query} {cause : QueryError}
    (wrong : query.fault? schema = some cause) :
    (∃ name, cause = .catalog (.unknownColumn name (RowType.name R))) ∨
      ∃ type name literal, cause = .typeMismatch type name literal := by
  rcases Option.or_eq_some_iff.mp wrong with selected | ⟨-, compared⟩
  · obtain ⟨name, -, fault⟩ := List.exists_of_findSome?_eq_some selected
    unfold Schema.nameFault? at fault
    split at fault
    · cases fault
    · cases fault
      exact .inl ⟨name, rfl⟩
  · obtain ⟨condition, -, compared⟩ := Option.bind_eq_some_iff.mp compared
    obtain ⟨⟨name, literal⟩, -, fault⟩ := List.exists_of_findSome?_eq_some compared
    unfold Schema.comparisonFault? at fault
    split at fault
    · split at fault
      · cases fault
      · cases fault
        exact .inr ⟨_, _, _, rfl⟩
    · cases fault
      exact .inl ⟨name, rfl⟩

/-- A fault is a text that is no query, a name that does not resolve or a literal that does not
fit. -/
theorem Plan.fault?_cases {scope : Scope R} {text : String} {cause : QueryError}
    (wrong : fault? scope text = some cause) :
    (∃ reason, cause = .parse reason) ∨ (∃ reason, cause = .catalog reason) ∨
      ∃ type name literal, cause = .typeMismatch type name literal := by
  unfold fault? at wrong
  split at wrong
  · cases wrong
    exact .inl ⟨_, rfl⟩
  · split at wrong
    · cases wrong
      exact .inl ⟨_, rfl⟩
    · split at wrong
      · cases wrong
        exact .inr (.inl ⟨_, rfl⟩)
      · rcases Query.fault?_cases wrong with ⟨name, rfl⟩ | mismatch
        · exact .inr (.inl ⟨_, rfl⟩)
        · exact .inr (.inr mismatch)

/-- **Compiling a text reports what is wrong with it first.** It fails with exactly the first fault
of the text, whatever the configuration, and a text without a fault has one draft that every
configuration makes its plan of. An empty selection, an empty tuple or an operator that cannot
compare a column with its constant is never reported. -/
theorem Plan.compile_reports_fault (scope : Scope R) (text : String) :
    (∀ config cause,
      Plan.compile scope config text = .error cause ↔ Plan.fault? scope text = some cause) ∧
    (Plan.fault? scope text = none ↔ ∃ draft, ∀ config,
      Plan.compile scope config text = .ok (Plan.ofDraft config text draft)) ∧
    ∀ config, Plan.compile scope config text ≠ .error .emptySelection ∧
      Plan.compile scope config text ≠ .error .emptyTuple ∧
      ∀ operator type column,
        Plan.compile scope config text ≠ .error (.unsupportedOperator operator type column) := by
  have stages (config : Config) :
      failure? (Plan.compile scope config text) = Plan.fault? scope text := by
    rw [Plan.compile_eq_map, failure?_map, Draft.failure?_ofText]
  have known {config : Config} {cause : QueryError}
      (failed : Plan.compile scope config text = .error cause) :=
    Plan.fault?_cases ((stages config).symm.trans (failure?_eq_some_iff.mpr failed))
  refine ⟨?_, ⟨?_, ?_⟩, fun config => ⟨?_, ?_, ?_⟩⟩
  · intro config cause
    rw [← failure?_eq_some_iff, stages]
  · intro faultless
    rw [← Draft.failure?_ofText] at faultless
    obtain ⟨draft, drafted⟩ := failure?_eq_none_iff.mp faultless
    refine ⟨draft, fun config => ?_⟩
    rw [Plan.compile_eq_map, drafted]
    rfl
  · rintro ⟨draft, compiled⟩
    exact (stages ⟨true, true⟩).symm.trans (failure?_eq_none_iff.mpr ⟨_, compiled _⟩)
  · intro failed
    rcases known failed with ⟨_, ⟨⟩⟩ | ⟨_, ⟨⟩⟩ | ⟨_, _, _, ⟨⟩⟩
  · intro failed
    rcases known failed with ⟨_, ⟨⟩⟩ | ⟨_, ⟨⟩⟩ | ⟨_, _, _, ⟨⟩⟩
  · intro operator type column failed
    rcases known failed with ⟨_, ⟨⟩⟩ | ⟨_, ⟨⟩⟩ | ⟨_, _, _, ⟨⟩⟩

-- A selected name is reported before a comparison, and of two names the first.
example : Plan.fault? Demo.teams "SELECT Team, pay, wage FROM $ WHERE age = '30'" =
    some (.catalog (.unknownColumn "pay" (RowType.name Person))) := by decide +kernel

end RowQuery
