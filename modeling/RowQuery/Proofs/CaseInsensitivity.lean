import RowQuery.Proofs.CompileErrors
import RowQuery.Proofs.ParserCase
import RowQuery.Proofs.TypedResults

/-! # Queries in any letter case

Two texts that differ only in the case of letters outside quoted strings compile to plans with the
same shapes and the same results, or both fail in the same way (`Plan.compile_ignores_case`). Names
are looked up in a form that does not depend on case, so queries that are the same up to the case of
their names select the same columns, keep the same rows and have faults of the same kind.
-/

namespace RowQuery

variable {R : Type}

/-! ## Names -/

/-- Columns are found in any case. -/
theorem Schema.find?_foldCase (schema : Schema R) (name : String) :
    schema.find? (Text.foldCase name) = schema.find? name := by
  unfold find?
  rw [Text.lower_foldCase]

private theorem Schema.map_find?_of_foldCase (schema : Schema R) {names others : List String}
    (same : names.map Text.foldCase = others.map Text.foldCase) :
    names.map schema.find? = others.map schema.find? := by
  have found := congrArg (List.map schema.find?) same
  rwa [List.map_map, List.map_map,
    show schema.find? ∘ Text.foldCase = schema.find? from funext schema.find?_foldCase] at found

/-! ## Results -/

/-- Which rows meet a condition does not depend on the case of its names. -/
theorem Condition.holds_foldCase (schema : Schema R) (row : R) (condition : Condition) :
    condition.foldCase.holds schema row = condition.holds schema row := by
  induction condition with
  | comparison name operator literal => rw [foldCase, holds, holds, Schema.find?_foldCase]
  | and left right ihLeft ihRight => rw [foldCase, holds, holds, ihLeft, ihRight]
  | or left right ihLeft ihRight => rw [foldCase, holds, holds, ihLeft, ihRight]
  | not inner ih => rw [foldCase, holds, holds, ih]

/-- Which rows a query keeps does not depend on the case of its names. -/
theorem Query.keeps_foldCase (schema : Schema R) (row : R) (query : Query) :
    query.foldCase.keeps schema row = query.keeps schema row := by
  unfold keeps foldCase
  cases query.condition with
  | none => rfl
  | some condition => exact condition.holds_foldCase schema row

variable [RowType R] {scope : Scope R}

/-- Selections that are the same up to case have the same projection. -/
theorem Draft.select_of_foldCase {selection other : Selection}
    (same : selection.foldCase = other.foldCase) {projection projection' : Option (Projection R)}
    (selected : select scope selection = .ok projection)
    (selectedToo : select scope other = .ok projection') : projection = projection' := by
  obtain ⟨schema, registered, ⟨rfl, rfl⟩ | ⟨names, columns, made, rfl, resolved, built, rfl⟩⟩ :=
    select_eq_ok selected
  · obtain ⟨-, -, ⟨-, rfl⟩ | ⟨others, -, -, rfl, -⟩⟩ := select_eq_ok selectedToo
    · rfl
    · cases same
  · obtain ⟨again, registeredToo,
      ⟨rfl, -⟩ | ⟨others, columns', made', rfl, resolvedToo, builtToo, rfl⟩⟩ :=
      select_eq_ok selectedToo
    · cases same
    · cases registered.symm.trans registeredToo
      rw [schema.map_find?_of_foldCase (Selection.columns.inj same), resolvedToo] at resolved
      cases (List.map_inj_right fun _ _ => Option.some.inj).mp resolved
      cases built.symm.trans builtToo
      rfl

/-! ## Failures -/

private theorem Schema.kind_nameFault?_foldCase (schema : Schema R) (name : String) :
    (schema.nameFault? (Text.foldCase name)).map QueryError.kind =
      (schema.nameFault? name).map QueryError.kind := by
  unfold nameFault?
  rw [find?_foldCase]
  cases schema.find? name <;> rfl

private theorem Schema.kind_comparisonFault?_foldCase (schema : Schema R)
    (comparison : String × Literal) :
    (schema.comparisonFault? (Text.foldCase comparison.1, comparison.2)).map QueryError.kind =
      (schema.comparisonFault? comparison).map QueryError.kind := by
  unfold comparisonFault?
  rw [find?_foldCase]
  cases schema.find? comparison.1 <;> rfl

private theorem Condition.comparisons_foldCase (condition : Condition) :
    condition.foldCase.comparisons =
      condition.comparisons.map fun comparison =>
        (Text.foldCase comparison.1, comparison.2) := by
  induction condition with
  | comparison name operator literal => rfl
  | and left right ihLeft ihRight =>
      rw [foldCase, comparisons, comparisons, ihLeft, ihRight, List.map_append]
  | or left right ihLeft ihRight =>
      rw [foldCase, comparisons, comparisons, ihLeft, ihRight, List.map_append]
  | not inner ih => rw [foldCase, comparisons, comparisons, ih]

private theorem Selection.names_foldCase (selection : Selection) :
    selection.foldCase.names = selection.names.map Text.foldCase := by
  cases selection <;> rfl

/-- If changing an item keeps the kind of its fault, changing all of them keeps the kind of the
first one. -/
theorem kind_findSome?_map {α : Type} {fault? : α → Option QueryError} {change : α → α}
    (same : ∀ item, (fault? (change item)).map QueryError.kind =
      (fault? item).map QueryError.kind) (items : List α) :
    ((items.map change).findSome? fault?).map QueryError.kind =
      (items.findSome? fault?).map QueryError.kind := by
  induction items with
  | nil => rfl
  | cons item items ih =>
      have first := same item
      rw [List.map_cons, List.findSome?_cons, List.findSome?_cons]
      cases found : fault? item with
      | none =>
          rw [found] at first
          rw [Option.map_eq_none_iff.mp first]
          exact ih
      | some cause =>
          rw [found] at first
          obtain ⟨changed, foundToo, kind⟩ := Option.map_eq_some_iff.mp first
          rw [foundToo]
          exact congrArg some kind

/-- What is wrong with a query does not depend on the case of its names. -/
theorem Query.kind_fault?_foldCase (schema : Schema R) (query : Query) :
    (query.foldCase.fault? schema).map QueryError.kind =
      (query.fault? schema).map QueryError.kind := by
  unfold fault? foldCase
  rw [Option.map_or, Option.map_or, Selection.names_foldCase,
    kind_findSome?_map schema.kind_nameFault?_foldCase]
  cases query.condition with
  | none => rfl
  | some condition =>
      rw [Option.map_some, Option.bind_some, Option.bind_some, Condition.comparisons_foldCase,
        kind_findSome?_map schema.kind_comparisonFault?_foldCase]

/-- The kind of the first fault of a text, given what it is read as. -/
def Plan.faultKind? (scope : Scope R) : Except ParseError Query → Option ErrorKind
  | .error cause => some cause.kind
  | .ok query => scope.registered.elim (some .schemaError) fun schema =>
      (query.fault? schema).map QueryError.kind

/-- The kind of a fault depends on the text only up to case. -/
theorem Plan.kind_fault? (scope : Scope R) (text : String) :
    (fault? scope text).map QueryError.kind =
      faultKind? scope (((Query.parse text).map Query.foldCase).mapError ParseError.foldCase) := by
  unfold fault? Query.parse
  cases Token.tokenize text with
  | error unterminated => rfl
  | ok tokens =>
      simp only
      cases Query.ofTokens tokens with
      | error cause => exact congrArg some cause.kind_foldCase.symm
      | ok query =>
          change _ = faultKind? scope (.ok query.foldCase)
          unfold faultKind?
          cases scope.registered with
          | none => rfl
          | some schema => exact (query.kind_fault?_foldCase schema).symm

/-! ## Plans -/

/-- Plans of alike texts have the same shapes and come to the same results. -/
theorem Plan.same_of_alike {config : Config} {text other : String} {plan otherPlan : Plan R}
    (alike : Text.AlikeOutsideStrings text other)
    (compiled : compile scope config text = .ok plan)
    (compiledToo : compile scope config other = .ok otherPlan) :
    plan.runtimeShape = otherPlan.runtimeShape ∧ plan.publicShape = otherPlan.publicShape ∧
      ∀ rows : List R, ∃ buffer, outcome (plan.run rows) = .ok buffer ∧
        outcome (otherPlan.run rows) = .ok buffer := by
  obtain ⟨query, draft, parsed, built, shaped⟩ := compile_eq_ok_iff.mp compiled
  obtain ⟨queryToo, draftToo, parsedToo, builtToo, shapedToo⟩ := compile_eq_ok_iff.mp compiledToo
  have same : query.foldCase = queryToo.foldCase := by
    have alikeQueries := Query.parse_alike alike
    rw [parsed, parsedToo] at alikeQueries
    exact Except.ok.inj alikeQueries
  obtain ⟨schema, projection, registered, selected, runs⟩ := outcome_run_of_compile parsed compiled
  obtain ⟨again, projectionToo, registeredToo, selectedToo, runsToo⟩ :=
    outcome_run_of_compile parsedToo compiledToo
  cases registered.symm.trans registeredToo
  cases Draft.select_of_foldCase (congrArg Query.selection same) selected selectedToo
  have keeps : query.keeps schema = queryToo.keeps schema := by
    funext row
    rw [← Query.keeps_foldCase, same, Query.keeps_foldCase]
  obtain ⟨runtime, result⟩ := Draft.shapes_of_build built selected
  obtain ⟨runtimeToo, resultToo⟩ := Draft.shapes_of_build builtToo selectedToo
  refine ⟨?_, ?_, fun rows => ⟨_, runs rows, keeps ▸ runsToo rows⟩⟩
  · rw [shaped, shapedToo]
    exact runtime.trans runtimeToo.symm
  · rw [shaped, shapedToo]
    exact result.trans resultToo.symm

/-- **Letter case matters only inside strings.** Two texts that differ only in the case of the
letters `A` to `Z` outside quoted strings both fail to compile, with faults of the same kind, or
both compile, to plans with the same shapes that come to the same buffer over any rows. -/
theorem Plan.compile_ignores_case (scope : Scope R) (config : Config) (text other : String)
    (alike : Text.AlikeOutsideStrings text other) :
    (∃ cause otherCause, Plan.compile scope config text = .error cause ∧
      Plan.compile scope config other = .error otherCause ∧ cause.kind = otherCause.kind) ∨
    ∃ plan otherPlan, Plan.compile scope config text = .ok plan ∧
      Plan.compile scope config other = .ok otherPlan ∧
      plan.runtimeShape = otherPlan.runtimeShape ∧ plan.publicShape = otherPlan.publicShape ∧
      ∀ rows : List R, ∃ buffer, outcome (plan.run rows) = .ok buffer ∧
        outcome (otherPlan.run rows) = .ok buffer := by
  have kinds : (failure? (Plan.compile scope config text)).map QueryError.kind =
      (failure? (Plan.compile scope config other)).map QueryError.kind := by
    rw [Plan.compile_eq_map, Plan.compile_eq_map, failure?_map, failure?_map,
      Draft.failure?_ofText, Draft.failure?_ofText, Plan.kind_fault?, Plan.kind_fault?,
      Query.parse_alike alike]
  cases compiled : Plan.compile scope config text with
  | error cause =>
      rw [compiled] at kinds
      obtain ⟨otherCause, failed, same⟩ := Option.map_eq_some_iff.mp kinds.symm
      exact .inl ⟨cause, otherCause, rfl, failure?_eq_some_iff.mp failed, same.symm⟩
  | ok plan =>
      rw [compiled] at kinds
      obtain ⟨otherPlan, compiledToo⟩ :=
        failure?_eq_none_iff.mp (Option.map_eq_none_iff.mp kinds.symm)
      exact .inr ⟨plan, otherPlan, rfl, compiledToo, Plan.same_of_alike alike compiled compiledToo⟩

/-- The ages in a team whose name has capitals and a quote in it, and outside teams. -/
def Demo.agesText : String :=
  "SELECT age FROM $ WHERE Team = " ++ Text.quoteLiteral "It's ML" ++ " OR NOT team != NULL"

/-- The same query with other capitals outside the string. -/
def Demo.agesTextToo : String :=
  "select AGE from $ where tEAM = " ++ Text.quoteLiteral "It's ML" ++ " or not TEAM != null"

/-- Keywords, names and the absent value are written in another case, and the string is not. -/
theorem Plan.compile_ignores_case_ages :
    Text.AlikeOutsideStrings Demo.agesText Demo.agesTextToo ∧
      ∃ plan otherPlan, Plan.compile Demo.teams ⟨true, true⟩ Demo.agesText = .ok plan ∧
        Plan.compile Demo.teams ⟨true, true⟩ Demo.agesTextToo = .ok otherPlan ∧
        plan.runtimeShape = otherPlan.runtimeShape ∧ plan.publicShape = otherPlan.publicShape ∧
        ∀ rows : List Person, ∃ buffer, outcome (plan.run rows) = .ok buffer ∧
          outcome (otherPlan.run rows) = .ok buffer := by
  have alike : Text.AlikeOutsideStrings Demo.agesText Demo.agesTextToo := by
    unfold Text.AlikeOutsideStrings Demo.agesText Demo.agesTextToo
    simp only [String.toList_append, List.append_assoc]
    apply Text.Alike.letters (by decide +kernel) (by decide +kernel)
    apply Text.Alike.string "It's ML" (by decide)
    exact Text.Alike.of_letters (by decide +kernel) (by decide +kernel)
  have compiles : (Plan.compile Demo.teams ⟨true, true⟩ Demo.agesText).isOk = true := by
    decide +kernel
  refine ⟨alike, ?_⟩
  rcases Plan.compile_ignores_case Demo.teams ⟨true, true⟩ _ _ alike with
    ⟨cause, -, failed, -⟩ | same
  · rw [failed] at compiles
    cases compiles
  · exact same

end RowQuery
