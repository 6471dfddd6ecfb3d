import Mathlib.Data.List.Perm.Basic
import RowQuery.Proofs.PipelineMeaning

/-! # What a pipeline reads

The trace of an execution is the list of its reads. A row that passes along a chain is read by the
chain's predicates, up to the first one that fails, and if none fails by the columns of the last
projection (`Pipeline.trace_process`). Rows that are written at once are read column by column
instead of row by row, and nothing else is read (`Pipeline.trace_run_perm`).

With what the chain writes this gives its whole meaning (`Pipeline.run_keeps_and_projects`), and
fusion changes neither of the two (`Pipeline.run_fuse_unseen`).
-/

namespace RowQuery

variable {R α β : Type}

/-! ## Traces -/

/-- The reads of an execution in order, whatever it comes to. -/
def trace (execution : Execution R α) : List (Read R) := (ExceptT.run execution).reads

@[simp] private theorem trace_pure (value : α) : trace (pure value : Execution R α) = [] := rfl

/-- A step that succeeds is followed by the reads of the next one. -/
theorem trace_bind_of_ok {first : Execution R α} {value : α} (next : α → Execution R β)
    (succeeds : outcome first = .ok value) :
    trace (first >>= next) = trace first ++ trace (next value) := by
  change trace first ++ (ExceptT.bindCont next (ExceptT.run first).value).reads = _
  rw [show (ExceptT.run first).value = .ok value from succeeds]
  rfl

@[simp] private theorem trace_lift_bind (traced : Traced R α) (next : α → Execution R β) :
    trace ((liftM traced : Execution R α) >>= next) =
      traced.reads ++ trace (next traced.value) := by
  rw [trace_bind_of_ok next (outcome_lift traced)]
  change (traced.reads ++ []) ++ _ = _
  rw [List.append_nil]

/-- A fold of steps that each succeed from every state it reaches reads what the steps read. -/
theorem trace_foldlM {σ : Type} (step : σ → α → Execution R σ) (state : List α → σ)
    (reads : α → List (Read R))
    (steps : ∀ done item, outcome (step (state done) item) = .ok (state (done ++ [item])))
    (seen : ∀ done item, trace (step (state done) item) = reads item) (items done : List α) :
    trace (items.foldlM step (state done)) = items.flatMap reads := by
  induction items generalizing done with
  | nil => rfl
  | cons item items ih =>
      rw [List.foldlM_cons, trace_bind_of_ok _ (steps done item), seen, ih, List.flatMap_cons]

/-! ## Writes -/

/-- A write reads its column in its row, once, even if the value does not fit. -/
theorem ColumnBuffer.trace_write (buffer : ColumnBuffer) (column : Column R) (row : R) :
    trace (buffer.write column row) = [⟨row, column⟩] := by
  unfold ColumnBuffer.write
  rw [trace_lift_bind]
  split <;> rfl

/-- Writing rows into a column reads it once for each row. -/
theorem Column.trace_writeAll_gather (column : Column R) (rows more : List R) :
    trace ((column.gather rows).writeAll column more) = more.map fun row => ⟨row, column⟩ := by
  rw [ColumnBuffer.writeAll, if_pos (column.type_gather rows)]
  rw [trace_foldlM _ column.gather (fun row => [⟨row, column⟩]) column.write_gather
    (fun done row => (column.gather done).trace_write column row)]
  exact List.map_eq_flatMap.symm

section Fields

variable {write : ColumnBuffer → Column R → Execution R ColumnBuffer} {rows later : List R}
  {reads : Column R → List (Read R)}
  (writes : ∀ column, outcome (write (column.gather rows) column) = .ok (column.gather later))
  (seen : ∀ column, trace (write (column.gather rows) column) = reads column)

include writes seen

private theorem trace_writeFields_gather (columns : List (Column R)) :
    trace (writeFields write (columns.map fun column => column.gather rows) columns) =
      columns.flatMap reads := by
  induction columns with
  | nil => rfl
  | cons column columns ih =>
      simp only [List.map_cons, writeFields, List.flatMap_cons]
      rw [trace_bind_of_ok _ (writes column),
        trace_bind_of_ok _ (outcome_writeFields_gather writes columns), seen, ih, trace_pure,
        List.append_nil]

/-- The nested columns of a tuple are read after the others. -/
theorem trace_writeTuple_gather (columns : Tuple (Column R)) :
    trace (writeTuple write (columns.map fun column => column.gather rows) columns) =
      columns.toList.flatMap reads := by
  induction columns with
  | last fields =>
      simp only [Tuple.map, writeTuple, Tuple.toList]
      rw [trace_bind_of_ok _ (outcome_writeFields_gather writes fields),
        trace_writeFields_gather writes seen, trace_pure, List.append_nil]
  | more fields rest ih =>
      simp only [Tuple.map, writeTuple, Tuple.toList, List.flatMap_append]
      rw [trace_bind_of_ok _ (outcome_writeFields_gather writes fields),
        trace_bind_of_ok _ (outcome_writeTuple_gather writes rest),
        trace_writeFields_gather writes seen, ih, trace_pure, List.append_nil]

end Fields

/-- The columns that are written through a projection; whole rows are written without any. -/
def Projection.written : Option (Projection R) → List (Column R)
  | none => []
  | some projection => projection.columns

namespace Buffer

/-- Whole rows are copied without a read; otherwise each column of the projection is read once. -/
theorem trace_emit_holding (projection : Option (Projection R)) (rows : List R) (row : R) :
    trace ((holding projection rows).emit projection row) =
      (Projection.written projection).map fun column => ⟨row, column⟩ := by
  match projection with
  | none => rfl
  | some (.column single) =>
      simp only [holding, emit]
      rw [trace_bind_of_ok _ (single.write_gather rows row), ColumnBuffer.trace_write]
      rfl
  | some (.tuple columns) =>
      have writes (column : Column R) := column.write_gather rows row
      simp only [holding, emit]
      rw [trace_bind_of_ok _ (outcome_writeTuple_gather writes columns),
        trace_writeTuple_gather writes fun column => (column.gather rows).trace_write column row,
        trace_pure, List.append_nil]
      exact List.map_eq_flatMap.symm

/-- Rows that are written at once are read column by column. -/
theorem trace_emitAll_holding (projection : Option (Projection R)) (rows more : List R) :
    trace ((holding projection rows).emitAll projection more) =
      (Projection.written projection).flatMap fun column => more.map fun row => ⟨row, column⟩ := by
  match projection with
  | none => rfl
  | some (.column single) =>
      simp only [holding, emitAll]
      rw [trace_bind_of_ok _ (single.writeAll_gather rows more), single.trace_writeAll_gather]
      rfl
  | some (.tuple columns) =>
      have writes (column : Column R) := column.writeAll_gather rows more
      simp only [holding, emitAll]
      rw [trace_bind_of_ok _ (outcome_writeTuple_gather writes columns),
        trace_writeTuple_gather writes fun column => column.trace_writeAll_gather rows more,
        trace_pure, List.append_nil]
      rfl

end Buffer

namespace Pipeline

/-! ## Chains -/

/-- The reads of some predicates on a row, each tried only if the ones before it are met. -/
def testReads (row : R) : List (Predicate R) → List (Read R)
  | [] => []
  | predicate :: others =>
    let tested := predicate.evaluate row
    tested.reads ++ if tested.value then testReads row others else []

/-- The reads of a row on its way through a chain to a projection. -/
def rowReads (stages : Pipeline R) (projection : Option (Projection R)) (row : R) :
    List (Read R) :=
  testReads row (stages.filterMap Stage.predicate?) ++
    if passes stages row then (Projection.written projection).map fun column => ⟨row, column⟩
    else []

/-- A predicate that a row meets adds its reads in front, and one that it fails ends them. -/
theorem rowReads_of_predicate {stage : Stage R} {predicate : Predicate R}
    (tests : stage.predicate? = some predicate) (rest : Pipeline R)
    (projection : Option (Projection R)) (row : R) :
    rowReads (stage :: rest) projection row = (predicate.evaluate row).reads ++
      if (predicate.evaluate row).value then rowReads rest projection row else [] := by
  unfold rowReads
  rw [passes_cons, List.filterMap_cons_some tests, tests, testReads]
  cases met : (predicate.evaluate row).value with
  | true => simp [met]
  | false => simp [met]

/-- The buffer was made for the projection that the chain ends with, so every write succeeds. -/
theorem trace_process (stages : Pipeline R) (pending : Option (Projection R)) (row : R)
    (kept : List R) :
    trace (process stages pending row
        (Buffer.holding ((terminalProjection stages).or pending) kept)) =
      rowReads stages ((terminalProjection stages).or pending) row := by
  induction stages generalizing pending with
  | nil => exact Buffer.trace_emit_holding pending kept row
  | cons stage rest ih =>
      have noted : (terminalProjection (stage :: rest)).or pending =
          (terminalProjection rest).or (stage.projection?.or pending) := by
        rw [terminalProjection_cons, Option.or_assoc]
      rw [noted]
      cases stage with
      | project projection => exact ih (some projection)
      | filter predicate =>
          rw [process, trace_lift_bind, rowReads_of_predicate rfl]
          cases (predicate.evaluate row).value with
          | true => exact congrArg _ (ih pending)
          | false => rfl
      | filterProject predicate projection =>
          rw [process, trace_lift_bind, rowReads_of_predicate rfl]
          cases (predicate.evaluate row).value with
          | true => exact congrArg _ (ih (some projection))
          | false => rfl

/-- Rows passed along one by one are read one after the other. -/
theorem trace_processAll (stages : Pipeline R) (rows : List R) :
    trace (processAll stages rows (Buffer.holding (terminalProjection stages) [])) =
      rows.flatMap (rowReads stages (terminalProjection stages)) := by
  have step (done : List R) (row : R) := outcome_process stages none row
    (done.filter (passes stages))
  have read (done : List R) (row : R) := trace_process stages none row
    (done.filter (passes stages))
  simp only [Option.or_none, ← List.filter_append] at step read
  exact trace_foldlM (fun written row => process stages none row written)
    (fun done => Buffer.holding (terminalProjection stages) (done.filter (passes stages)))
    _ step read rows []

/-- Reading some cells row by row or column by column differs in the order alone. -/
theorem reads_by_row_perm (rows : List R) (columns : List (Column R)) :
    (columns.flatMap fun column => rows.map fun row => (⟨row, column⟩ : Read R)).Perm
      (rows.flatMap fun row => columns.map fun column => ⟨row, column⟩) := by
  induction columns with
  | nil => simp
  | cons column columns ih =>
      rw [List.flatMap_cons]
      refine (ih.append_left _).trans ?_
      exact List.map_append_flatMap_perm rows _ _

/-- The buffer that a run starts with, empty and made for the projection that the chain ends
with. -/
def fresh (stages : Pipeline R) : Buffer R := Buffer.forProjection (terminalProjection stages)

/-- Writing rows at once reads the cells that passing them along one by one reads. -/
theorem trace_run_perm (stages : Pipeline R) (rows : List R) :
    (trace (run stages true rows (fresh stages))).Perm
      (trace (run stages false rows (fresh stages))) := by
  cases found : batch? stages with
  | none =>
      have same : run stages true rows (fresh stages) = run stages false rows (fresh stages) := by
        simp only [run, found]
      rw [same]
  | some batch =>
      have single : run stages false rows (fresh stages) =
          processAll stages rows (fresh stages) := rfl
      rw [single, fresh, Buffer.forProjection_eq_holding, trace_processAll]
      -- A chain that is written at once tests nothing, so its rows are read for their columns only.
      obtain ⟨rfl, -⟩ | ⟨projection, rfl, -⟩ := batch?_cases found
      · have read := Buffer.trace_emitAll_holding none [] rows
        exact read ▸ reads_by_row_perm rows []
      · have read := Buffer.trace_emitAll_holding (some projection) [] rows
        exact read ▸ reads_by_row_perm rows projection.columns

-- The order does change: by column when two rows are written at once, and by row otherwise.
example :
    let columns : List (Column Nat) :=
      [⟨"small", 0, .boolean (· < 5)⟩, ⟨"zero", 1, .boolean (· = 0)⟩]
    let stages : Pipeline Nat := [.project (.tuple (.last columns))]
    (trace (run stages true [3, 8] (fresh stages))).map (·.row) = [3, 8, 3, 8] ∧
      (trace (run stages false [3, 8] (fresh stages))).map (·.row) = [3, 3, 8, 8] := ⟨rfl, rfl⟩

/-- **The meaning of a chain.** Whatever its stages, running a chain never faults. It keeps, in
their order, the rows that meet every predicate of the chain, and writes them through the last
projection, or whole if there is none. Whether rows are written at once does not change what is
written, and changes the reads in their order alone. -/
theorem run_keeps_and_projects (stages : Pipeline R) (rows : List R) :
    (∀ batches, outcome (run stages batches rows (fresh stages)) =
        .ok (Buffer.holding (stages.filterMap Stage.projection?).getLast?
          (rows.filter fun row => (stages.filterMap Stage.predicate?).all fun predicate =>
            (predicate.evaluate row).value))) ∧
      (trace (run stages true rows (fresh stages))).Perm
        (trace (run stages false rows (fresh stages))) := by
  constructor
  · intro batches
    exact outcome_run stages batches rows
  · exact trace_run_perm stages rows

/-! ## Fusion -/

/-- A fused stage takes a row the way of the two stages that it stands for: the predicate reads the
row as it was, so it may be tested before the projection is noted. -/
theorem process_fuse (stages : Pipeline R) (pending : Option (Projection R)) (row : R)
    (buffer : Buffer R) :
    process (fuse stages) pending row buffer = process stages pending row buffer := by
  fun_induction fuse stages generalizing pending with
  | case1 predicate projection rest ih => simp only [process, ih]
  | case2 projection predicate rest ih => simp only [process, ih]
  | case3 stage rest _ _ ih => cases stage <;> simp only [process, ih]
  | case4 => rfl

private theorem exists_fuse_cons (stage : Stage R) (rest : Pipeline R) :
    ∃ first others, fuse (stage :: rest) = first :: others := by
  unfold fuse
  split
  · exact ⟨_, _, rfl⟩
  · exact ⟨_, _, rfl⟩
  · rename_i same
    cases same
    exact ⟨_, _, rfl⟩
  · rename_i none
    cases none

private theorem batch?_of_two (first second : Stage R) (rest : Pipeline R) :
    batch? (first :: second :: rest) = none := by
  cases first <;> rfl

/-- Fusion neither makes a chain one that is written at once nor stops it from being one. -/
theorem batch?_fuse (stages : Pipeline R) : batch? (fuse stages) = batch? stages := by
  fun_induction fuse stages with
  | case1 predicate projection rest => rfl
  | case2 projection predicate rest => rfl
  | case3 stage rest _ _ =>
      cases rest with
      | nil => rfl
      | cons second rest =>
          obtain ⟨first, others, fused⟩ := exists_fuse_cons second rest
          rw [fused, batch?_of_two, batch?_of_two]
  | case4 => rfl

/-- Fusing does not change a run, neither its result nor what it reads. -/
theorem run_fuse (stages : Pipeline R) (batches : Bool) (rows : List R) (buffer : Buffer R) :
    run (fuse stages) batches rows buffer = run stages batches rows buffer := by
  have one : process (fuse stages) none = process stages none := by
    funext row written
    exact process_fuse stages none row written
  unfold run processAll
  rw [batch?_fuse, one]

/-- **Fusion is not seen.** A fused chain ends with the same projection, and running it over some
rows, at once or one by one, reads the same columns of the same rows in the same order and comes to
the same buffer. -/
theorem run_fuse_unseen (stages : Pipeline R) (batches : Bool) (rows : List R) :
    terminalProjection (fuse stages) = terminalProjection stages ∧
      ∃ buffer, outcome (run stages batches rows (fresh stages)) = .ok buffer ∧
        outcome (run (fuse stages) batches rows (fresh (fuse stages))) = .ok buffer ∧
        trace (run (fuse stages) batches rows (fresh (fuse stages))) =
          trace (run stages batches rows (fresh stages)) := by
  have projected := terminalProjection_fuse stages
  have same : run (fuse stages) batches rows (fresh (fuse stages)) =
      run stages batches rows (fresh stages) := by
    rw [run_fuse, fresh, projected, fresh]
  have written := outcome_run stages batches rows
  exact ⟨projected, _, written, same ▸ written, congrArg trace same⟩

end Pipeline

end RowQuery
