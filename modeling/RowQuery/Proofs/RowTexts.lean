import RowQuery.Proofs.TypedResults
import RowQuery.Proofs.ValueTexts
import RowQuery.Shell

/-! # The texts of result rows

Every column of the buffer that a plan fills is as long as the first one, so no value is passed over
when a row is written out, and the text of a row is that of the selected columns' values, however
they are nested (`Selection.Shows`). A table has one entry for each of these texts and ends in their
number (`Shell.tableOf`).
-/

namespace RowQuery

variable {R : Type}

/-- Whether a text is the one of a row in the result of a selection: the description of the whole
row, the text of the value of a single column, or the texts of the values of several columns in
their order, between parentheses and with commas in between. -/
def Selection.Shows [RowType R] (selection : Selection) (schema : Schema R) (row : R)
    (text : String) : Prop :=
  match selection with
  | .all => text = RowType.describe row
  | .columns [name] =>
      ∃ column, schema.find? name = some column ∧ (column.value row).ShownAs text
  | .columns names => ∃ (columns : List (Column R)) (texts : List String),
      names.map schema.find? = columns.map some ∧
      List.Forall₂ (fun column => (column.value row).ShownAs) columns texts ∧
      text = "(" ++ ", ".intercalate texts ++ ")"

/-- A table with a header, some entries and their number below. -/
def Shell.tableOf (header : String) (entries : List String) : String :=
  "\n".intercalate (["| " ++ header ++ " |",
      "+" ++ String.ofList (List.replicate (header.utf8ByteSize + 2) '-') ++ "+"] ++
    entries.map ("| " ++ ·) ++ ["(" ++ toString entries.length ++ " rows)"]) ++ "\n"

/-- Whether the texts of a buffer are some entries, which show rows through a selection. -/
structure Buffer.Spells [RowType R] (buffer : Buffer R) (schema : Schema R) (kept : List R)
    (selection : Selection) (entries : List String) : Prop where
  /-- There is a text at an index exactly if it is that of a row of the buffer. -/
  present : ∀ index, (buffer.rowText? index).isSome = true ↔ index < buffer.size
  sized : buffer.size = kept.length
  /-- The entries are these texts. -/
  listed : ∀ index, entries[index]? = buffer.rowText? index
  /-- There is one entry for each row, in their order, and it shows what is selected. -/
  shown : List.Forall₂ (selection.Shows schema) kept entries
  /-- A table has the entries in its lines, and their number in its last line. -/
  tabled : ∀ shape : Shape, Shell.tableText shape buffer = Shell.tableOf shape.text entries

/-! ## Texts by the columns of a projection -/

/-- Where there is a row, no column of a buffer is passed over. -/
theorem Column.filterMap_get?_gather (columns : List (Column R)) {rows : List R} {index : Nat}
    {row : R} (present : rows[index]? = some row) :
    (columns.map fun column => column.gather rows).filterMap (·.get? index) =
      columns.map fun column => column.value row := by
  have held : (ColumnBuffer.get? · index) ∘ (fun column : Column R => column.gather rows) =
      some ∘ fun column => column.value row := by
    funext column
    exact (column.get?_gather rows index).trans (congrArg _ present)
  rw [List.filterMap_map, held, List.filterMap_eq_map]

/-- The texts of the values of some columns, as a row has them. -/
theorem Column.shownAs_values (columns : List (Column R)) (row : R) :
    List.Forall₂ (fun column => (column.value row).ShownAs) columns
      (columns.map fun column => (column.value row).tableText) := by
  rw [List.forall₂_map_right_iff, List.forall₂_same]
  exact fun column _ => (column.value row).shownAs_tableText

variable [RowType R]

/-- The text of a row that is written through a projection, or whole. -/
def Projection.rowText : Option (Projection R) → R → String
  | none, row => RowType.describe row
  | some (.column single), row => (single.value row).tableText
  | some (.tuple columns), row =>
    "(" ++ ", ".intercalate (columns.toList.map fun column => (column.value row).tableText) ++ ")"

/-- The text at an index is that of the row written there, and there is none beyond the rows. -/
theorem Buffer.rowText?_holding {projection : Option (Projection R)}
    (nested : Projection.Nested projection) (rows : List R) (index : Nat) :
    (Buffer.holding projection rows).rowText? index =
      rows[index]?.map (Projection.rowText projection) := by
  match projection with
  | none =>
      rw [holding, rowText?, List.getElem?_toArray]
      rfl
  | some (.column single) =>
      rw [holding, rowText?, single.get?_gather, Option.map_map]
      rfl
  | some (.tuple columns) =>
      have count : (columns.map fun column => column.gather rows).rowCount = rows.length :=
        Buffer.size_holding nested rows
      rw [holding, rowText?, count]
      by_cases inside : index < rows.length
      · have present := List.getElem?_eq_getElem inside
        rw [if_pos inside, present, Tuple.toList_map]
        simp only [Column.filterMap_get?_gather columns.toList present, List.map_map]
        rfl
      · rw [if_neg inside, List.getElem?_eq_none (Nat.le_of_not_lt inside), Option.map_none]

/-- The table of a buffer has the texts of the rows as its entries. -/
theorem Shell.tableText_holding {projection : Option (Projection R)}
    (nested : Projection.Nested projection) (rows : List R) (shape : Shape) :
    Shell.tableText shape (Buffer.holding projection rows) =
      Shell.tableOf shape.text (rows.map (Projection.rowText projection)) := by
  have taken : ∀ index row, rows[index]? = some row →
      (Buffer.holding projection rows).rowText? index =
        some (Projection.rowText projection row) := by
    intro index row present
    rw [Buffer.rowText?_holding nested, present, Option.map_some]
  have entries : (List.range rows.length).filterMap (Buffer.holding projection rows).rowText? =
      rows.map (Projection.rowText projection) := by
    have mapped := congrArg (List.filterMap id) (map_range_of_rows taken)
    rw [List.filterMap_map, List.filterMap_map] at mapped
    exact mapped.trans (congrFun List.filterMap_eq_map' rows)
  simp only [Shell.tableText, Shell.tableOf, Buffer.size_holding nested, entries, List.length_map,
    Text.natText_eq_toString]

/-! ## Texts by a selection -/

/-- The text of a row through the projection of a selection shows what is selected. -/
theorem Selection.shows_rowText {scope : Scope R} {schema : Schema R}
    (registered : scope.registered = some schema) {selection : Selection}
    {projection : Option (Projection R)} (selected : Draft.select scope selection = .ok projection)
    (row : R) : selection.Shows schema row (Projection.rowText projection row) := by
  obtain ⟨seen, same, ⟨rfl, rfl⟩ | ⟨names, columns, made, rfl, resolved, built, rfl⟩⟩ :=
    Draft.select_eq_ok selected
  · rfl
  · cases registered.symm.trans same
    have lengths : names.length = columns.length := by
      simpa only [List.length_map] using congrArg List.length resolved
    obtain ⟨single, rfl, rfl⟩ | ⟨several, rfl⟩ := Projection.ofColumns_eq_ok built
    · obtain ⟨name, rfl⟩ := List.length_eq_one_iff.mp lengths
      exact ⟨single, List.singleton_inj.mp resolved, (single.value row).shownAs_tableText⟩
    · -- Two names or more are not the case of a single one.
      match names, lengths with
      | first :: second :: others, _ =>
          refine ⟨columns, _, resolved, Column.shownAs_values columns row, ?_⟩
          rw [Projection.rowText, Tuple.toList_ofList]
      | [], lengths | [_], lengths =>
          simp only [List.length_nil, List.length_singleton] at lengths
          omega

/-- What a buffer spells that rows have been written into through the projection of a selection. -/
theorem Buffer.spells_holding {scope : Scope R} {schema : Schema R}
    (registered : scope.registered = some schema) {selection : Selection}
    {projection : Option (Projection R)} (selected : Draft.select scope selection = .ok projection)
    (kept : List R) :
    (Buffer.holding projection kept).Spells schema kept selection
      (kept.map (Projection.rowText projection)) := by
  have nested := Draft.nested_of_select selected
  have texts := Buffer.rowText?_holding nested kept
  refine ⟨?_, Buffer.size_holding nested kept, ?_, ?_, Shell.tableText_holding nested kept⟩
  · intro index
    rw [texts, Buffer.size_holding nested, Option.isSome_map]
    simp
  · intro index
    rw [texts, List.getElem?_map]
  · rw [List.forall₂_map_right_iff, List.forall₂_same]
    exact fun row _ => Selection.shows_rowText registered selected row

/-- The buffer that a compiled plan fills spells the rows that the query keeps. -/
theorem Plan.spells_of_compile {scope : Scope R} {config : Config} {text : String} {plan : Plan R}
    (compiled : Plan.compile scope config text = .ok plan) :
    ∃ query schema, Query.parse text = .ok query ∧ scope.registered = some schema ∧
      ∀ rows : List R, ∃ buffer entries, outcome (plan.run rows) = .ok buffer ∧
        buffer.Spells schema (rows.filter (query.keeps schema)) query.selection entries := by
  obtain ⟨query, -, parsed, -, -⟩ := Plan.compile_eq_ok_iff.mp compiled
  obtain ⟨schema, projection, registered, selected, runs⟩ :=
    Plan.outcome_run_of_compile parsed compiled
  exact ⟨query, schema, parsed, registered, fun rows =>
    ⟨_, _, runs rows, Buffer.spells_holding registered selected _⟩⟩

/-- **The texts of a result.** The buffer that a compiled plan fills from any rows has a text for
each row that the query keeps and no other: if several columns are selected, the texts of the values
of these columns in the row, joined in order, however the buffer nests them. What is shown for a
query over the employees is therefore a table with one entry for each employee that the query keeps,
above their number. -/
theorem Plan.row_texts_match_buffer (scope : Scope R) (config : Config) (text : String) :
    (∀ plan : Plan R, Plan.compile scope config text = .ok plan →
      ∃ query schema, Query.parse text = .ok query ∧ scope.registered = some schema ∧
        ∀ rows : List R, ∃ buffer entries, outcome (plan.run rows) = .ok buffer ∧
          buffer.Spells schema (rows.filter (query.keeps schema)) query.selection entries) ∧
    ∀ plan : Plan Person, Shell.plan config text = .ok plan →
      ∃ query buffer entries, Query.parse text = .ok query ∧
        outcome (plan.run Demo.people) = .ok buffer ∧
        buffer.Spells Person.schema (Demo.people.filter (query.keeps Person.schema))
          query.selection entries ∧
        Shell.resultText plan = Shell.tableOf plan.publicShape.text entries := by
  refine ⟨fun plan => Plan.spells_of_compile, fun plan planned => ?_⟩
  obtain ⟨query, schema, parsed, registered, filled⟩ :=
    Plan.spells_of_compile (ok_of_mapError_eq_ok planned)
  obtain rfl : Person.schema = schema := Option.some_inj.mp registered
  obtain ⟨buffer, entries, runs, spells⟩ := filled Demo.people
  refine ⟨query, buffer, entries, parsed, runs, spells, ?_⟩
  -- What is shown is the table of the buffer, since no run of a compiled plan faults.
  have ran : (plan.run Demo.people).run.value = .ok buffer := runs
  rw [← spells.tabled, Shell.resultText, ran]

/-- The texts of the employees over thirty, by nine columns. -/
def Demo.wideEntries : List String :=
  ["(Ada, 1, 34, Seattle, 180000, Engineering, true, Runtime, Senior)",
    "(Charles, 3, 44, Helsinki, 210000, Research, true, ML, Principal)",
    "(David, 4, 31, Palo Alto, 195000, Product, false, Runtime, Senior)",
    "(Eve, 5, 39, Seattle, 220000, Product, true, NULL, Staff)"]

/-- Nine columns of the employees over thirty, two of them nested, as texts and as a table. -/
theorem Plan.row_texts_match_buffer_wide :
    ∃ plan, Plan.compile Demo.scope ⟨true, true⟩ Demo.wideText = .ok plan ∧
      (∀ rows : List Person, ∃ buffer entries, outcome (plan.run rows) = .ok buffer ∧
        buffer.Spells Person.schema (rows.filter (Demo.wideQuery.keeps Person.schema))
          Demo.wideQuery.selection entries) ∧
      (∃ buffer, outcome (plan.run Demo.people) = .ok buffer ∧
        (List.range 5).map buffer.rowText? = Demo.wideEntries.map some ++ [none] ∧
        buffer.Spells Person.schema (Demo.people.filter (Demo.wideQuery.keeps Person.schema))
          Demo.wideQuery.selection Demo.wideEntries) ∧
      Shell.plan ⟨true, true⟩ Demo.wideText = .ok plan ∧
      Shell.resultText plan =
        "| (String, i32, i32, String, f32, String, bool, (Option<String>, String)) |\n" ++
        "+-------------------------------------------------------------------------+\n" ++
        "| (Ada, 1, 34, Seattle, 180000, Engineering, true, Runtime, Senior)\n" ++
        "| (Charles, 3, 44, Helsinki, 210000, Research, true, ML, Principal)\n" ++
        "| (David, 4, 31, Palo Alto, 195000, Product, false, Runtime, Senior)\n" ++
        "| (Eve, 5, 39, Seattle, 220000, Product, true, NULL, Staff)\n" ++
        "(4 rows)\n" := by
  have ran : ((Plan.compile Demo.scope ⟨true, true⟩ Demo.wideText).toOption.bind fun plan =>
      (outcome (plan.run Demo.people)).toOption.map fun buffer =>
        (plan.publicShape.text, (List.range 4).map buffer.rowText?)) =
      some ("(String, i32, i32, String, f32, String, bool, (Option<String>, String))",
        Demo.wideEntries.map some) := by decide +kernel
  cases compiled : Plan.compile Demo.scope ⟨true, true⟩ Demo.wideText with
  | error cause =>
      rw [compiled] at ran
      cases ran
  | ok plan =>
      have planned : Shell.plan ⟨true, true⟩ Demo.wideText = .ok plan := by
        rw [Shell.plan, compiled]
        rfl
      obtain ⟨filled, shown⟩ := Plan.row_texts_match_buffer Demo.scope ⟨true, true⟩ Demo.wideText
      obtain ⟨query, schema, same, registered, filled⟩ := filled plan compiled
      obtain rfl : Demo.wideQuery = query := Except.ok.inj (Demo.parse_wideText.symm.trans same)
      obtain rfl : Person.schema = schema := Option.some_inj.mp registered
      obtain ⟨query, buffer, entries, same, runs, spells, table⟩ := shown plan planned
      obtain rfl : Demo.wideQuery = query := Except.ok.inj (Demo.parse_wideText.symm.trans same)
      rw [compiled, Except.toOption, Option.bind_some, runs] at ran
      obtain ⟨header, texts⟩ := Prod.mk.inj (Option.some_inj.mp ran)
      -- The entries are known by the texts at their indices.
      obtain rfl : Demo.wideEntries = entries := by
        have count : entries.length = 4 := spells.shown.length_eq.symm.trans (by decide +kernel)
        have listed := @map_range_of_rows _ _ entries buffer.rowText? id
          fun index entry present => (spells.listed index).symm.trans present
        rw [count, texts] at listed
        exact (Option.some_injective String).list_map listed
      refine ⟨plan, rfl, filled, ⟨buffer, runs, ?_, spells⟩, planned, ?_⟩
      · rw [← funext spells.listed]
        rfl
      · rw [table, header]
        decide +kernel

end RowQuery
