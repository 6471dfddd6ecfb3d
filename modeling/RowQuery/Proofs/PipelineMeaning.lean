import RowQuery.Pipeline.Fusion
import RowQuery.Proofs.BufferContents

/-! # What a pipeline writes

A chain of stages keeps the rows that meet all its predicates and writes them, in their order,
through its last projection (`Pipeline.outcome_run`). Fusing stages changes neither which rows are
kept nor the last projection (`Pipeline.passes_fuse`, `Pipeline.terminalProjection_fuse`), and
writing rows at once comes to the same as passing them along one by one.
-/

namespace RowQuery.Pipeline

variable {R : Type}

/-- Whether a row meets every predicate of a chain. -/
def passes (stages : Pipeline R) (row : R) : Bool :=
  (stages.filterMap Stage.predicate?).all fun predicate => (predicate.evaluate row).value

/-- A row passes a stage with a predicate if it meets the predicate and passes the others. -/
theorem passes_cons (stage : Stage R) (rest : Pipeline R) (row : R) :
    passes (stage :: rest) row =
      (stage.predicate?.all (fun predicate => (predicate.evaluate row).value) &&
        passes rest row) := by
  unfold passes
  cases found : stage.predicate? with
  | none => simp only [List.filterMap_cons, found, Option.all_none, Bool.true_and]
  | some predicate => simp only [List.filterMap_cons, found, List.all_cons, Option.all_some]

@[simp] private theorem terminalProjection_nil : terminalProjection ([] : Pipeline R) = none := rfl

/-- The projection of a stage counts only if no later stage has one. -/
theorem terminalProjection_cons (stage : Stage R) (rest : Pipeline R) :
    terminalProjection (stage :: rest) = (terminalProjection rest).or stage.projection? := by
  unfold terminalProjection
  cases found : stage.projection? with
  | none => simp only [List.filterMap_cons, found, Option.or_none]
  | some projection =>
      simp only [List.filterMap_cons, found, List.getLast?_cons]
      cases (rest.filterMap Stage.projection?).getLast? <;> rfl

/-! ## Runs -/

/-- A row passed along a chain is written through the last projection if it meets every predicate,
and otherwise leaves the buffer as it is. The buffer was made for that projection, which is the one
noted so far if no stage has another. -/
theorem outcome_process (stages : Pipeline R) (pending : Option (Projection R)) (row : R)
    (kept : List R) :
    outcome (process stages pending row
        (Buffer.holding ((terminalProjection stages).or pending) kept)) =
      .ok (Buffer.holding ((terminalProjection stages).or pending)
        (kept ++ [row].filter (passes stages))) := by
  induction stages generalizing pending with
  | nil =>
      simp only [process, terminalProjection_nil, Option.none_or]
      exact Buffer.emit_holding pending kept row
  | cons stage rest ih =>
      have noted : (terminalProjection (stage :: rest)).or pending =
          (terminalProjection rest).or (stage.projection?.or pending) := by
        rw [terminalProjection_cons, Option.or_assoc]
      rw [noted]
      cases stage with
      | project projection =>
          have kept' : passes (.project projection :: rest) = passes rest :=
            funext fun row => passes_cons _ rest row
          rw [process, kept']
          exact ih (some projection)
      | filter predicate =>
          rw [process, outcome_lift_bind]
          cases met : (predicate.evaluate row).value with
          | true =>
              simpa [passes_cons, Stage.predicate?, met, Stage.projection?, List.filter_cons]
                using ih pending
          | false => simp [passes_cons, Stage.predicate?, met]
      | filterProject predicate projection =>
          rw [process, outcome_lift_bind]
          cases met : (predicate.evaluate row).value with
          | true =>
              simpa [passes_cons, Stage.predicate?, met, Stage.projection?, List.filter_cons]
                using ih (some projection)
          | false => simp [passes_cons, Stage.predicate?, met]

/-- Rows passed along a chain one by one leave the rows that meet every predicate, in order. -/
theorem outcome_processAll (stages : Pipeline R) (rows : List R) :
    outcome (processAll stages rows (Buffer.holding (terminalProjection stages) [])) =
      .ok (Buffer.holding (terminalProjection stages) (rows.filter (passes stages))) := by
  have run := outcome_foldlM (fun written row => process stages none row written)
    (fun done => Buffer.holding (terminalProjection stages) (done.filter (passes stages)))
    (fun done row => by
      have step := outcome_process stages none row (done.filter (passes stages))
      rw [Option.or_none, ← List.filter_append] at step
      exact step) rows []
  simpa only [processAll, List.filter_nil, List.nil_append] using run

/-- A chain that can be written at once has no stage, or a projection for its only one. -/
theorem batch?_cases {stages : Pipeline R} {batch : Batch R} (found : batch? stages = some batch) :
    (stages = [] ∧ batch = .copy) ∨
      ∃ projection, stages = [.project projection] ∧ batch = .project projection := by
  unfold batch? at found
  split at found
  · exact .inl ⟨rfl, (Option.some.inj found).symm⟩
  · exact .inr ⟨_, rfl, (Option.some.inj found).symm⟩
  · exact absurd found (Option.some_ne_none _).symm

/-- Without predicates every row passes. -/
theorem filter_passes_of_batch? {stages : Pipeline R} {batch : Batch R}
    (found : batch? stages = some batch) (rows : List R) : rows.filter (passes stages) = rows := by
  apply List.filter_eq_self.mpr
  intro row _
  obtain ⟨rfl, -⟩ | ⟨projection, rfl, -⟩ := batch?_cases found
  · rfl
  · rfl

/-- **What a chain writes.** Running a chain over some rows, at once where that is possible or one
by one, writes the rows that meet every predicate, in their order, through the last projection. -/
theorem outcome_run (stages : Pipeline R) (batches : Bool) (rows : List R) :
    outcome (run stages batches rows (Buffer.forProjection (terminalProjection stages))) =
      .ok (Buffer.holding (terminalProjection stages) (rows.filter (passes stages))) := by
  rw [Buffer.forProjection_eq_holding]
  unfold run
  split
  · rename_i copied
    rw [filter_passes_of_batch? copied]
    obtain ⟨rfl, -⟩ | ⟨projection, -, other⟩ := batch?_cases copied
    · exact Buffer.emitAll_holding none [] rows
    · cases other
  · rename_i projection projected
    rw [filter_passes_of_batch? projected]
    obtain ⟨-, other⟩ | ⟨same, rfl, noted⟩ := batch?_cases projected
    · cases other
    · cases noted
      exact Buffer.emitAll_holding (some projection) [] rows
  · exact outcome_processAll stages rows

/-! ## Fusion -/

/-- Fusion leaves every row's way through the chain open or closed as it was. -/
theorem passes_fuse (stages : Pipeline R) (row : R) :
    passes (fuse stages) row = passes stages row := by
  fun_induction fuse stages with
  | case1 predicate projection rest ih =>
      simp only [passes_cons, ih, Stage.predicate?, Option.all_some, Option.all_none, Bool.true_and]
  | case2 projection predicate rest ih =>
      simp only [passes_cons, ih, Stage.predicate?, Option.all_some, Option.all_none, Bool.true_and]
  | case3 stage rest _ _ ih => simp only [passes_cons, ih]
  | case4 => rfl

/-- Fusion keeps the last projection. -/
theorem terminalProjection_fuse (stages : Pipeline R) :
    terminalProjection (fuse stages) = terminalProjection stages := by
  fun_induction fuse stages with
  | case1 predicate projection rest ih =>
      simp only [terminalProjection_cons, ih, Stage.projection?, Option.or_none]
  | case2 projection predicate rest ih =>
      simp only [terminalProjection_cons, ih, Stage.projection?, Option.or_none]
  | case3 stage rest _ _ ih => simp only [terminalProjection_cons, ih]
  | case4 => rfl

end RowQuery.Pipeline
