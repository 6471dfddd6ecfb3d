import RowQuery.Buffer
import RowQuery.Proofs.TupleNesting

/-! # What a buffer holds after its writes

The outcome of an execution leaves its reads aside. A buffer made for a projection and written
through it, row by row or all rows at once, holds the columns of the projection gathered over the
rows written so far (`Buffer.emit_holding`, `Buffer.emitAll_holding`); no write faults.
-/

namespace RowQuery

variable {R α β : Type}

/-! ## Outcomes -/

/-- What an execution comes to, its reads left aside. -/
def outcome (execution : Execution R α) : Except Fault α := (ExceptT.run execution).value

/-- Returning a value comes to that value. -/
@[simp] theorem outcome_pure (value : α) : outcome (pure value : Execution R α) = .ok value := rfl

/-- A traced value in an execution comes to the value, whatever it traces. -/
@[simp] theorem outcome_lift (traced : Traced R α) :
    outcome (liftM traced : Execution R α) = .ok traced.value := rfl

/-- A step that succeeds hands its value to the next one. -/
theorem outcome_bind_of_ok {first : Execution R α} {value : α} (next : α → Execution R β)
    (succeeds : outcome first = .ok value) : outcome (first >>= next) = outcome (next value) := by
  change (ExceptT.bindCont next (ExceptT.run first).value).value = _
  rw [show (ExceptT.run first).value = .ok value from succeeds]
  rfl

/-- What a traced value leaves behind does not change what follows. -/
@[simp] theorem outcome_lift_bind (traced : Traced R α) (next : α → Execution R β) :
    outcome ((liftM traced : Execution R α) >>= next) = outcome (next traced.value) :=
  outcome_bind_of_ok next (outcome_lift traced)

/-- A fold of steps that each succeed from every state it reaches succeeds. -/
theorem outcome_foldlM {σ : Type} (step : σ → α → Execution R σ) (state : List α → σ)
    (steps : ∀ done item, outcome (step (state done) item) = .ok (state (done ++ [item])))
    (items done : List α) :
    outcome (items.foldlM step (state done)) = .ok (state (done ++ items)) := by
  induction items generalizing done with
  | nil => simp only [List.foldlM_nil, outcome_pure, List.append_nil]
  | cons item items ih =>
      rw [List.foldlM_cons, outcome_bind_of_ok _ (steps done item), ih, List.append_assoc,
        List.singleton_append]

/-! ## Columns gathered over rows -/

namespace Column

/-- The values of a column in some rows, as a column buffer. -/
def gather (column : Column R) (rows : List R) : ColumnBuffer :=
  match column.accessor with
  | .integer get => .integer (rows.map get).toArray
  | .float get => .float (rows.map get).toArray
  | .boolean get => .boolean (rows.map get).toArray
  | .text get => .text (rows.map fun row => some (get row)).toArray
  | .nullableText get => .text (rows.map get).toArray

/-- The value at an index is that of the row at the index. -/
theorem get?_gather (column : Column R) (rows : List R) (index : Nat) :
    (column.gather rows).get? index = rows[index]?.map column.value := by
  have values : column.value = column.accessor.value := rfl
  rw [values]
  unfold gather
  cases column.accessor <;> simp [ColumnBuffer.get?, Function.comp_def] <;> rfl

/-- A column has a value for each row. -/
@[simp] theorem size_gather (column : Column R) (rows : List R) :
    (column.gather rows).size = rows.length := by
  unfold gather
  cases column.accessor <;> simp [ColumnBuffer.size]

/-- The values of a column have its type. -/
@[simp] theorem type_gather (column : Column R) (rows : List R) :
    (column.gather rows).type = column.type := by
  unfold gather type fieldType
  cases column.accessor <;> rfl

/-- The empty buffer of a column's type is the column gathered over no rows. -/
theorem empty_eq_gather (column : Column R) :
    ColumnBuffer.empty column.type = column.gather [] := by
  unfold gather type fieldType
  cases column.accessor <;> rfl

/-- Writing a column in one more row adds its value. -/
theorem write_gather (column : Column R) (rows : List R) (row : R) :
    outcome ((column.gather rows).write column row) = .ok (column.gather (rows ++ [row])) := by
  unfold ColumnBuffer.write
  rw [outcome_lift_bind]
  unfold gather Column.read value
  cases column.accessor <;>
    simp [ColumnBuffer.push?, Accessor.value]

/-- Writing a column in further rows at once adds their values. -/
theorem writeAll_gather (column : Column R) (rows more : List R) :
    outcome ((column.gather rows).writeAll column more) = .ok (column.gather (rows ++ more)) := by
  rw [ColumnBuffer.writeAll, if_pos (type_gather column rows)]
  exact outcome_foldlM _ column.gather (write_gather column) more rows

end Column

/-! ## Tuples of buffers -/

section Fields

variable {write : ColumnBuffer → Column R → Execution R ColumnBuffer} {rows later : List R}
  (writes : ∀ column, outcome (write (column.gather rows) column) = .ok (column.gather later))

include writes

/-- Fields are written one by one: if a column can always be written, so can several. -/
theorem outcome_writeFields_gather (columns : List (Column R)) :
    outcome (writeFields write (columns.map fun column => column.gather rows) columns) =
      .ok (columns.map fun column => column.gather later) := by
  induction columns with
  | nil => rfl
  | cons column columns ih =>
      simp only [List.map_cons, writeFields]
      rw [outcome_bind_of_ok _ (writes column), outcome_bind_of_ok _ ih]
      rfl

/-- The same for a tuple: the nested fields are written after the others. -/
theorem outcome_writeTuple_gather (columns : Tuple (Column R)) :
    outcome (writeTuple write (columns.map fun column => column.gather rows) columns) =
      .ok (columns.map fun column => column.gather later) := by
  induction columns with
  | last fields =>
      simp only [Tuple.map, writeTuple]
      rw [outcome_bind_of_ok _ (outcome_writeFields_gather writes fields)]
      rfl
  | more fields rest ih =>
      simp only [Tuple.map, writeTuple]
      rw [outcome_bind_of_ok _ (outcome_writeFields_gather writes fields),
        outcome_bind_of_ok _ ih]
      rfl

end Fields

/-! ## Whole buffers -/

/-- Whether a projection, if it is a tuple, nests its columns in full sevens. -/
def Projection.Nested (projection : Option (Projection R)) : Prop :=
  ∀ columns, projection = some (.tuple columns) → columns.Full

namespace Buffer

/-- The buffer that holds some rows, through a projection or whole. -/
def holding : Option (Projection R) → List R → Buffer R
  | none, kept => .rows kept.toArray
  | some (.column single), kept => .column (single.gather kept)
  | some (.tuple columns), kept => .tuple (columns.map fun field => field.gather kept)

/-- The columns of a buffer in order, the nested ones included. -/
def columns : Buffer R → List ColumnBuffer
  | .rows _ => []
  | .column values => [values]
  | .tuple fields => fields.toList

/-- A fresh buffer holds no rows. -/
theorem forProjection_eq_holding (projection : Option (Projection R)) :
    forProjection projection = holding projection [] := by
  match projection with
  | none => rfl
  | some (.column single) => rw [forProjection, holding, single.empty_eq_gather]
  | some (.tuple columns) => simp only [forProjection, holding, Column.empty_eq_gather]

/-- Through a projection a buffer holds the projection's columns, gathered over the rows. -/
theorem columns_holding (projection : Projection R) (rows : List R) :
    (holding (some projection) rows).columns =
      projection.columns.map fun column => column.gather rows := by
  cases projection with
  | column single => rfl
  | tuple columns => exact Tuple.toList_map _ columns

/-- A projection whose nesting is full has a first column, which tells the number of rows. -/
theorem size_holding {projection : Option (Projection R)} (nested : Projection.Nested projection)
    (rows : List R) : (holding projection rows).size = rows.length := by
  match projection with
  | none => exact List.size_toArray
  | some (.column single) => exact single.size_gather rows
  | some (.tuple columns) =>
      simp only [holding, size, Tuple.rowCount, Tuple.fields_map]
      cases heads : columns.fields with
      | nil => exact absurd heads (nested columns rfl).fields_ne_nil
      | cons first others => exact first.size_gather rows

/-- A row that is written comes after the rows held before. -/
theorem emit_holding (projection : Option (Projection R)) (rows : List R) (row : R) :
    outcome ((holding projection rows).emit projection row) =
      .ok (holding projection (rows ++ [row])) := by
  match projection with
  | none => simp [holding, emit]
  | some (.column single) =>
      simp only [holding, emit]
      rw [outcome_bind_of_ok _ (single.write_gather rows row)]
      rfl
  | some (.tuple columns) =>
      have writes (field : Column R) := field.write_gather rows row
      simp only [holding, emit]
      rw [outcome_bind_of_ok _ (outcome_writeTuple_gather writes columns)]
      rfl

/-- Rows that are written at once come, in their order, after the rows held before. -/
theorem emitAll_holding (projection : Option (Projection R)) (rows more : List R) :
    outcome ((holding projection rows).emitAll projection more) =
      .ok (holding projection (rows ++ more)) := by
  match projection with
  | none => simp [holding, emitAll]
  | some (.column single) =>
      simp only [holding, emitAll]
      rw [outcome_bind_of_ok _ (single.writeAll_gather rows more)]
      rfl
  | some (.tuple columns) =>
      have writes (field : Column R) := field.writeAll_gather rows more
      simp only [holding, emitAll]
      rw [outcome_bind_of_ok _ (outcome_writeTuple_gather writes columns)]
      rfl

end Buffer

end RowQuery
