import Mathlib.Data.List.Forall2
import RowQuery.Demo
import RowQuery.Proofs.ConditionMeaning
import RowQuery.Proofs.PipelineReads
import RowQuery.Proofs.TypedElements

/-! # Writes through projections of one shape

A buffer that is made for a projection can be written through any projection of the same runtime
shape, over whatever columns. A write adds to each column of the buffer the values that the column
at the same place has in the rows written (`Buffer.extended`), so the columns stay equally long
(`Buffer.writes_stay_rectangular`).
-/

namespace RowQuery

variable {R α β γ δ : Type}

/-! ## Tuples of the same nesting -/

namespace Tuple

/-- Tuples of the same nesting whose fields are related place by place. -/
inductive Aligned (related : α → β → Prop) : Tuple α → Tuple β → Prop
  | last {fields : List α} {others : List β} (heads : List.Forall₂ related fields others) :
      Aligned related (.last fields) (.last others)
  | more {fields : List α} {others : List β} {rest : Tuple α} {otherRest : Tuple β}
      (heads : List.Forall₂ related fields others) (nested : Aligned related rest otherRest) :
      Aligned related (.more fields rest) (.more others otherRest)

/-- The fields of two tuples, put together place by place. -/
def zipWith (combine : α → β → γ) : Tuple α → Tuple β → Tuple γ
  | .more fields rest, .more others otherRest =>
    .more (List.zipWith combine fields others) (rest.zipWith combine otherRest)
  | items, others => .last (List.zipWith combine items.fields others.fields)

private theorem map_eq_map_iff_forall₂ {first : α → δ} {second : β → δ} {items : List α}
    {others : List β} : items.map first = others.map second ↔
      List.Forall₂ (fun item other => first item = second other) items others := by
  rw [← List.forall₂_eq_eq_eq, List.forall₂_map_left_iff, List.forall₂_map_right_iff]

/-- Two tuples are aligned by what is seen of their fields if they look the same. -/
theorem map_eq_map_iff_aligned {first : α → δ} {second : β → δ} {items : Tuple α}
    {others : Tuple β} : items.map first = others.map second ↔
      Aligned (fun item other => first item = second other) items others := by
  constructor
  · intro same
    induction items generalizing others with
    | last fields =>
        cases others with
        | last more => exact .last (map_eq_map_iff_forall₂.mp (Tuple.last.inj same))
        | more more rest => cases same
    | more fields rest ih =>
        cases others with
        | last more => cases same
        | more more otherRest =>
            obtain ⟨heads, nested⟩ := Tuple.more.inj same
            exact .more (map_eq_map_iff_forall₂.mp heads) (ih nested)
  · intro aligned
    induction aligned with
    | last heads => exact congrArg Tuple.last (map_eq_map_iff_forall₂.mpr heads)
    | more heads nested ih => rw [Tuple.map, Tuple.map, map_eq_map_iff_forall₂.mpr heads, ih]

namespace Aligned

variable {related : α → β → Prop} {items : Tuple α} {others : Tuple β}

/-- Aligned tuples are aligned as lists. -/
theorem toList (aligned : Aligned related items others) :
    List.Forall₂ related items.toList others.toList := by
  induction aligned with
  | last heads => exact heads
  | more heads nested ih => exact List.rel_append heads ih

/-- Combining aligned tuples does not depend on how they are nested. -/
theorem toList_zipWith (aligned : Aligned related items others) (combine : α → β → γ) :
    (items.zipWith combine others).toList = List.zipWith combine items.toList others.toList := by
  induction aligned with
  | last heads => rfl
  | more heads nested ih =>
      rw [zipWith, Tuple.toList, Tuple.toList, Tuple.toList, ih,
        List.zipWith_append heads.length_eq]

end Aligned

/-- What is not changed by putting fields together is the same afterwards. -/
theorem map_zipWith_eq_map {combine : α → β → α} {view : α → δ} {related : α → β → Prop}
    (kept : ∀ item other, view (combine item other) = view item) {items : Tuple α}
    {others : Tuple β} (aligned : Aligned related items others) :
    (items.zipWith combine others).map view = items.map view := by
  have keeps {fields : List α} {more : List β} (heads : List.Forall₂ related fields more) :
      (List.zipWith combine fields more).map view = fields.map view := by
    induction heads with
    | nil => rfl
    | cons head tail ih => rw [List.zipWith_cons_cons, List.map_cons, kept, ih, List.map_cons]
  induction aligned with
  | last heads => exact congrArg Tuple.last (keeps heads)
  | more heads nested ih => rw [zipWith, Tuple.map, Tuple.map, keeps heads, ih]

private theorem zipWith_eq_self {combine : α → β → α}
    (kept : ∀ item other, combine item other = item)
    {related : α → β → Prop} {items : Tuple α} {others : Tuple β}
    (aligned : Aligned related items others) : items.zipWith combine others = items := by
  have same (whole : Tuple α) : whole.map id = whole := by
    induction whole with
    | last fields => exact congrArg Tuple.last (List.map_id _)
    | more fields rest ih => rw [Tuple.map, List.map_id, ih]
  rw [← same (items.zipWith combine others), map_zipWith_eq_map kept aligned, same]

private theorem zipWith_zipWith {earlier later : α → β → α} {related : α → β → Prop}
    {items : Tuple α}
    {others : Tuple β} (aligned : Aligned related items others) :
    (items.zipWith earlier others).zipWith later others =
      items.zipWith (fun item other => later (earlier item other) other) others := by
  have twice (fields : List α) (more : List β) :
      List.zipWith later (List.zipWith earlier fields more) more =
        List.zipWith (fun item other => later (earlier item other) other) fields more := by
    induction fields generalizing more with
    | nil => rfl
    | cons item fields ih =>
        cases more with
        | nil => rfl
        | cons other more => exact congrArg _ (ih more)
  induction aligned with
  | last heads => exact congrArg Tuple.last (twice _ _)
  | more heads nested ih => rw [zipWith, zipWith, zipWith, twice, ih]

end Tuple

/-! ## Columns -/

namespace ColumnBuffer

/-- The values of a buffer in order. -/
def values : ColumnBuffer → List Value
  | .integer values => values.toList.map .integer
  | .float values => values.toList.map .float
  | .boolean values => values.toList.map .boolean
  | .text values => values.toList.map .text

/-- The buffer with some values added at the end; values of another type are passed over. -/
def extend (buffer : ColumnBuffer) (added : List Value) : ColumnBuffer :=
  added.foldl (fun written value => (written.push? value).getD written) buffer

private theorem length_values (buffer : ColumnBuffer) : buffer.values.length = buffer.size := by
  cases buffer <;> simp [values, size]

private theorem values_empty (type : ValueType) : (empty type).values = [] := by
  cases type <;> rfl

/-- Values can be appended in two parts. -/
theorem extend_append (buffer : ColumnBuffer) (added more : List Value) :
    buffer.extend (added ++ more) = (buffer.extend added).extend more :=
  List.foldl_append

/-- A value of its type is added to a buffer. -/
theorem push?_of_type {buffer : ColumnBuffer} {value : Value} (fits : value.type = buffer.type) :
    ∃ written, buffer.push? value = some written ∧ written.values = buffer.values ++ [value] := by
  cases buffer <;> cases value <;> cases fits <;> simp [push?, values]

/-- Appending keeps the type of a column. -/
theorem type_extend (buffer : ColumnBuffer) (added : List Value) :
    (buffer.extend added).type = buffer.type := by
  induction added generalizing buffer with
  | nil => rfl
  | cons value added ih =>
      have step : ((buffer.push? value).getD buffer).type = buffer.type := by
        cases buffer <;> cases value <;> rfl
      exact (ih _).trans step

/-- Values of the type of a column are all appended. -/
theorem values_extend {buffer : ColumnBuffer} {added : List Value}
    (fits : ∀ value ∈ added, value.type = buffer.type) :
    (buffer.extend added).values = buffer.values ++ added := by
  induction added generalizing buffer with
  | nil => exact (List.append_nil _).symm
  | cons value added ih =>
      obtain ⟨fitsHere, fitsLater⟩ := List.forall_mem_cons.mp fits
      obtain ⟨written, pushed, appended⟩ := push?_of_type fitsHere
      have same : buffer.extend [value] = written := by
        simp only [extend, List.foldl_cons, List.foldl_nil, pushed, Option.getD_some]
      have sameType : written.type = buffer.type := same ▸ type_extend buffer [value]
      rw [← List.singleton_append, extend_append, same, ih (by rwa [sameType]), appended,
        List.append_assoc]

private theorem fieldType_eq_of_type {buffer other : ColumnBuffer}
    (same : buffer.type = other.type) :
    buffer.fieldType = other.fieldType := by
  cases buffer <;> cases other <;> first | rfl | cases same

variable {buffer : ColumnBuffer} {column : Column R}

/-- A row is written into a column of the right type by appending its value. -/
theorem outcome_write (fits : buffer.type = column.type) (row : R) :
    outcome (buffer.write column row) = .ok (buffer.extend [column.value row]) := by
  obtain ⟨written, pushed, -⟩ := push?_of_type ((column.type_value row).trans fits.symm)
  unfold write
  rw [outcome_lift_bind]
  simp only [Column.read, extend, List.foldl_cons, List.foldl_nil, pushed, outcome_pure,
    Option.getD_some]

/-- Rows are written into a column of the right type by appending their values. -/
theorem outcome_writeAll (fits : buffer.type = column.type) (rows : List R) :
    outcome (buffer.writeAll column rows) = .ok (buffer.extend (rows.map column.value)) := by
  rw [writeAll, if_pos fits]
  apply outcome_foldlM _ (fun done => buffer.extend (done.map column.value)) _ rows []
  intro done row
  rw [outcome_write ((type_extend ..).trans fits), ← extend_append, List.map_append]
  rfl

end ColumnBuffer

/-! ## Tuples of columns -/

section Fields

variable {write : ColumnBuffer → Column R → Execution R ColumnBuffer}
  {written : ColumnBuffer → Column R → ColumnBuffer}
  (writes : ∀ buffer column, buffer.type = column.type →
    outcome (write buffer column) = .ok (written buffer column))

include writes

/-- Writing into columns that all have the right type reaches every one. -/
theorem outcome_writeFields_aligned {buffers : List ColumnBuffer} {columns : List (Column R)}
    (fits : List.Forall₂ (fun buffer column => buffer.type = column.type) buffers columns) :
    outcome (writeFields write buffers columns) = .ok (List.zipWith written buffers columns) := by
  induction fits with
  | nil => rfl
  | cons head tail ih =>
      rw [writeFields, outcome_bind_of_ok _ (writes _ _ head), outcome_bind_of_ok _ ih]
      rfl

/-- Writing into nested columns that all have the right type reaches every one. -/
theorem outcome_writeTuple_aligned {buffers : Tuple ColumnBuffer} {columns : Tuple (Column R)}
    (fits : Tuple.Aligned (fun buffer column => buffer.type = column.type) buffers columns) :
    outcome (writeTuple write buffers columns) = .ok (buffers.zipWith written columns) := by
  induction fits with
  | last heads =>
      rw [writeTuple, outcome_bind_of_ok _ (outcome_writeFields_aligned writes heads)]
      rfl
  | more heads nested ih =>
      rw [writeTuple, outcome_bind_of_ok _ (outcome_writeFields_aligned writes heads),
        outcome_bind_of_ok _ ih]
      rfl

end Fields

/-! ## Whole buffers -/

private theorem FieldType.valueType_runtime (type : FieldType) :
    type.runtime.valueType = type.valueType := by
  cases type <;> rfl

namespace Buffer

/-- The buffer with some rows added through a projection that fits it. -/
def extended (buffer : Buffer R) (projection : Option (Projection R)) (rows : List R) : Buffer R :=
  match buffer, projection with
  | .rows kept, none => .rows (kept ++ rows.toArray)
  | .column values, some (.column single) => .column (values.extend (rows.map single.value))
  | .tuple fields, some (.tuple columns) =>
    .tuple (fields.zipWith (fun values field => values.extend (rows.map field.value)) columns)
  | other, _ => other

/-- Whether a buffer has a column of the right type for each column that a projection writes. -/
inductive Fits : Buffer R → Option (Projection R) → Prop
  | rows (kept : Array R) : Fits (.rows kept) none
  | column {values : ColumnBuffer} {single : Column R} (typed : values.type = single.type) :
      Fits (.column values) (some (.column single))
  | tuple {fields : Tuple ColumnBuffer} {columns : Tuple (Column R)}
      (aligned : Tuple.Aligned (fun values field => values.type = field.type) fields columns) :
      Fits (.tuple fields) (some (.tuple columns))

/-- The empty buffer of a projection fits it. -/
theorem forProjection_fits (projection : Option (Projection R)) :
    (forProjection projection).Fits projection := by
  have typed (field : Column R) : (ColumnBuffer.empty field.type).type = field.type := by
    cases field.type <;> rfl
  match projection with
  | none => exact .rows #[]
  | some (.column single) => exact .column (typed single)
  | some (.tuple columns) =>
      apply Fits.tuple
      rw [← Tuple.map_eq_map_iff_aligned, Tuple.map_map]
      simp only [typed]

/-- A shape tells the nesting of a tuple and the types of its fields, so a buffer that fits one
projection fits every other of the same shape. -/
theorem Fits.through {buffer : Buffer R} {one other : Option (Projection R)}
    (fits : buffer.Fits one)
    (same : other.map Projection.runtimeShape = one.map Projection.runtimeShape) :
    buffer.Fits other := by
  cases fits with
  | rows kept =>
      cases Option.map_eq_none_iff.mp same
      exact .rows kept
  | column typed =>
      rename_i values single
      obtain ⟨projection, rfl, shaped⟩ := Option.map_eq_some_iff.mp same
      cases projection with
      | column field =>
          have types := congrArg FieldType.valueType (Shape.field.inj shaped)
          rw [FieldType.valueType_runtime, FieldType.valueType_runtime] at types
          exact .column (typed.trans types.symm)
      | tuple columns =>
          obtain ⟨fields, nested⟩ := Shape.ofTuple_eq_tuple
            (columns.map fun field => .field field.fieldType.runtime)
          cases nested.symm.trans shaped
  | tuple aligned =>
      rename_i fields columns
      obtain ⟨projection, rfl, shaped⟩ := Option.map_eq_some_iff.mp same
      cases projection with
      | column field =>
          obtain ⟨fields, nested⟩ := Shape.ofTuple_eq_tuple
            (columns.map fun field => .field field.fieldType.runtime)
          cases shaped.trans nested
      | tuple others =>
          have runtime : others.map (fun field => field.fieldType.runtime) =
              columns.map fun field => field.fieldType.runtime := by
            apply Shape.ofTuple_fields_injective
            rw [Tuple.map_map, Tuple.map_map]
            exact shaped
          have types := congrArg (Tuple.map FieldType.valueType) runtime
          simp only [Tuple.map_map, FieldType.valueType_runtime] at types
          apply Fits.tuple
          rw [← Tuple.map_eq_map_iff_aligned] at aligned ⊢
          exact aligned.trans types.symm

/-! ### One write -/

section Write

variable {buffer : Buffer R} {projection : Option (Projection R)} (fits : buffer.Fits projection)

include fits

/-- Writing a row into a buffer that fits appends it, without a fault. -/
theorem outcome_emit (row : R) :
    outcome (buffer.emit projection row) = .ok (buffer.extended projection [row]) := by
  cases fits with
  | rows kept => simp [emit, extended]
  | column typed =>
      rw [emit, outcome_bind_of_ok _ (ColumnBuffer.outcome_write typed row)]
      rfl
  | tuple aligned =>
      have writes (values : ColumnBuffer) (field : Column R) (typed : values.type = field.type) :=
        ColumnBuffer.outcome_write typed row
      rw [emit, outcome_bind_of_ok _ (outcome_writeTuple_aligned writes aligned)]
      rfl

/-- Writing rows at once into a buffer that fits appends them, without a fault. -/
theorem outcome_emitAll (rows : List R) :
    outcome (buffer.emitAll projection rows) = .ok (buffer.extended projection rows) := by
  cases fits with
  | rows kept => simp [emitAll, extended]
  | column typed =>
      rw [emitAll, outcome_bind_of_ok _ (ColumnBuffer.outcome_writeAll typed rows)]
      rfl
  | tuple aligned =>
      have writes (values : ColumnBuffer) (field : Column R) (typed : values.type = field.type) :=
        ColumnBuffer.outcome_writeAll typed rows
      rw [emitAll, outcome_bind_of_ok _ (outcome_writeTuple_aligned writes aligned)]
      rfl

private theorem extended_nil : buffer.extended projection [] = buffer := by
  cases fits with
  | rows kept => simp [extended]
  | column typed => rfl
  | tuple aligned => exact congrArg Buffer.tuple (Tuple.zipWith_eq_self (fun _ _ => rfl) aligned)

/-- Rows can be appended in two parts. -/
theorem extended_append (rows more : List R) :
    buffer.extended projection (rows ++ more) =
      (buffer.extended projection rows).extended projection more := by
  cases fits with
  | rows kept => simp [extended]
  | column typed => simp only [extended, List.map_append, ColumnBuffer.extend_append]
  | tuple aligned =>
      simp only [extended, List.map_append, ColumnBuffer.extend_append,
        Tuple.zipWith_zipWith aligned]

private theorem shape_extended [RowType R] (rows : List R) :
    (buffer.extended projection rows).shape = buffer.shape := by
  have kept (values : ColumnBuffer) (added : List Value) :=
    ColumnBuffer.fieldType_eq_of_type (values.type_extend added)
  cases fits with
  | rows kept => rfl
  | column typed => exact congrArg Shape.field (kept ..)
  | tuple aligned =>
      apply congrArg Shape.ofTuple
      apply Tuple.map_zipWith_eq_map _ aligned
      intro values field
      exact congrArg Shape.field (kept ..)

/-- Appending rows keeps a buffer fitting. -/
theorem fits_extended (rows : List R) : (buffer.extended projection rows).Fits projection := by
  cases fits with
  | rows kept => exact .rows _
  | column typed => exact .column ((ColumnBuffer.type_extend ..).trans typed)
  | tuple aligned =>
      apply Fits.tuple
      rw [← Tuple.map_eq_map_iff_aligned] at aligned ⊢
      rw [Tuple.map_zipWith_eq_map (fun values field => values.type_extend _)
        (Tuple.map_eq_map_iff_aligned.mp aligned), aligned]

/-- The columns of a buffer and of a projection that it fits are of the same types in order. -/
theorem columns_forall₂ :
    List.Forall₂ (fun values column => values.type = column.type) buffer.columns
      (Projection.written projection) := by
  cases fits with
  | rows kept => exact .nil
  | column typed => exact .cons typed .nil
  | tuple aligned => exact aligned.toList

/-- Appending rows appends the values that they have in each column. -/
theorem columns_extended (rows : List R) :
    (buffer.extended projection rows).columns =
      List.zipWith (fun values column => values.extend (rows.map column.value)) buffer.columns
        (Projection.written projection) := by
  cases fits with
  | rows kept => rfl
  | column typed => rfl
  | tuple aligned => exact aligned.toList_zipWith _

/-- Rows that are written one by one leave the same buffer as all at once. -/
theorem outcome_emit_one_by_one (rows : List R) :
    outcome (rows.foldlM (fun written row => written.emit projection row) buffer) =
      .ok (buffer.extended projection rows) := by
  have step (done : List R) (row : R) :
      outcome ((buffer.extended projection done).emit projection row) =
        .ok (buffer.extended projection (done ++ [row])) := by
    rw [outcome_emit (fits_extended fits done), extended_append fits]
  have run := outcome_foldlM (fun written row => written.emit projection row)
    (buffer.extended projection) step rows []
  rwa [extended_nil fits, List.nil_append] at run

end Write

/-! ### Runs of writes -/

/-- A write to a buffer: of one row, or of some rows at once. -/
inductive Step (R : Type) where
  | emit (projection : Option (Projection R)) (row : R)
  | emitAll (projection : Option (Projection R)) (rows : List R)

namespace Step

/-- The projection that a step writes through. -/
def projection : Step R → Option (Projection R)
  | .emit projection _ => projection
  | .emitAll projection _ => projection

/-- The rows that a step writes. -/
def rows : Step R → List R
  | .emit _ row => [row]
  | .emitAll _ rows => rows

/-- Takes a step on a buffer. -/
def apply (buffer : Buffer R) : Step R → Execution R (Buffer R)
  | .emit projection row => buffer.emit projection row
  | .emitAll projection rows => buffer.emitAll projection rows

/-- The values that a step writes to the column at a place. -/
def values (place : Nat) (step : Step R) : List Value :=
  (Projection.written step.projection)[place]?.elim [] fun column => step.rows.map column.value

/-- A step appends its rows to a buffer that fits its projection. -/
theorem outcome_apply {buffer : Buffer R} {step : Step R} (fits : buffer.Fits step.projection) :
    outcome (step.apply buffer) = .ok (buffer.extended step.projection step.rows) := by
  cases step with
  | emit projection row => exact outcome_emit fits row
  | emitAll projection rows => exact outcome_emitAll fits rows

end Step

/-- Whether a buffer holds what some steps have written to it, through projections of the shape that
it was made for. -/
structure Holds (buffer : Buffer R) (projection : Option (Projection R)) (steps : List (Step R)) :
    Prop where
  /-- The buffer still fits its projection. -/
  fits : buffer.Fits projection
  /-- Without a projection it holds the rows themselves. -/
  whole : projection = none → buffer = .rows (steps.flatMap Step.rows).toArray
  /-- A column holds the values of the columns that the steps had at its place. -/
  column : ∀ (place : Nat) (values : ColumnBuffer), buffer.columns[place]? = some values →
    values.size = (steps.flatMap Step.rows).length ∧
      values.values = steps.flatMap (Step.values place)

/-- The empty buffer of a projection holds what no step has written. -/
theorem holds_forProjection (projection : Option (Projection R)) :
    (forProjection projection).Holds projection [] where
  fits := forProjection_fits projection
  whole := by
    rintro rfl
    rfl
  column := by
    intro place values found
    have empty : values.values = [] := by
      have member := List.mem_of_getElem? found
      match projection with
      | none => cases member
      | some (.column single) =>
          cases List.mem_singleton.mp member
          exact ColumnBuffer.values_empty _
      | some (.tuple columns) =>
          rw [forProjection, Buffer.columns, Tuple.toList_map] at member
          obtain ⟨field, -, rfl⟩ := List.mem_map.mp member
          exact ColumnBuffer.values_empty _
    exact ⟨by rw [← ColumnBuffer.length_values, empty]; rfl, empty⟩

/-- **One step.** A step through a projection of the right shape succeeds and adds its rows to what
the buffer holds. -/
theorem Holds.apply {buffer : Buffer R} {projection : Option (Projection R)}
    {done : List (Step R)} (holds : buffer.Holds projection done) {step : Step R}
    (fitting : step.projection.map Projection.runtimeShape =
      projection.map Projection.runtimeShape) :
    outcome (step.apply buffer) = .ok (buffer.extended step.projection step.rows) ∧
      (buffer.extended step.projection step.rows).Holds projection (done ++ [step]) := by
  have fits := holds.fits.through fitting
  refine ⟨Step.outcome_apply fits, (fits_extended fits _).through fitting.symm, ?_, ?_⟩
  · rintro rfl
    have unprojected : step.projection = none := Option.map_eq_none_iff.mp fitting
    rw [holds.whole rfl, unprojected]
    simp [extended]
  · intro place values found
    rw [columns_extended fits, List.getElem?_zipWith_eq_some] at found
    obtain ⟨earlier, column, present, through, rfl⟩ := found
    obtain ⟨counted, before⟩ := holds.column place earlier present
    -- The column of the step has the type of the buffer's column at its place.
    have typed : earlier.type = column.type := by
      obtain ⟨inside, rfl⟩ := List.getElem?_eq_some_iff.mp present
      obtain ⟨within, rfl⟩ := List.getElem?_eq_some_iff.mp through
      exact (columns_forall₂ fits).get inside within
    have added : (earlier.extend (step.rows.map column.value)).values =
        earlier.values ++ step.rows.map column.value := by
      apply ColumnBuffer.values_extend
      intro value member
      obtain ⟨row, -, rfl⟩ := List.mem_map.mp member
      exact (column.type_value row).trans typed.symm
    constructor
    · rw [← ColumnBuffer.length_values, added, List.length_append, ColumnBuffer.length_values,
        counted, List.length_map, List.flatMap_append, List.flatMap_singleton, List.length_append]
    · rw [added, before, List.flatMap_append, List.flatMap_singleton, Step.values, through,
        Option.elim_some]

variable [RowType R]

/-- **A run of steps.** By induction, every run of steps through projections of the right shape
succeeds, and the buffer holds in the end what all of them have written. -/
theorem Holds.run {buffer : Buffer R} {projection : Option (Projection R)}
    {done : List (Step R)} (holds : buffer.Holds projection done) {steps : List (Step R)}
    (fitting : ∀ step ∈ steps, step.projection.map Projection.runtimeShape =
      projection.map Projection.runtimeShape) :
    ∃ written, outcome (steps.foldlM Step.apply buffer) = .ok written ∧
      written.shape = buffer.shape ∧ written.Holds projection (done ++ steps) := by
  induction steps generalizing buffer done with
  | nil => exact ⟨buffer, rfl, rfl, by rwa [List.append_nil]⟩
  | cons step steps ih =>
      obtain ⟨here, later⟩ := List.forall_mem_cons.mp fitting
      obtain ⟨taken, holdsStep⟩ := holds.apply here
      obtain ⟨written, ran, shaped, holdsAll⟩ := ih holdsStep later
      refine ⟨written, ?_, ?_, ?_⟩
      · rw [List.foldlM_cons, outcome_bind_of_ok _ taken, ran]
      · rw [shaped, shape_extended (holds.fits.through here)]
      · rwa [List.append_assoc, List.singleton_append] at holdsAll

/-- **Writes keep a buffer rectangular.** A buffer made for a projection is written in steps, each
of one row or of some rows at once, through projections of the same runtime shape over whatever
columns. No step faults and the shape of the buffer stays as it was. Whole rows are held in the
order of the steps. Otherwise every column, the nested ones included, is as long as there were rows,
and holds step by step the values that the column at its place had in the rows of the step. From
there, writing further rows at once comes to the same as writing them one by one. -/
theorem writes_stay_rectangular (projection : Option (Projection R)) (steps : List (Step R))
    (fitting : ∀ step ∈ steps, step.projection.map Projection.runtimeShape =
      projection.map Projection.runtimeShape) :
    ∃ buffer, outcome (steps.foldlM Step.apply (forProjection projection)) = .ok buffer ∧
      buffer.shape = (forProjection projection).shape ∧
      (projection = none → buffer = .rows (steps.flatMap Step.rows).toArray) ∧
      buffer.columns.length = (Projection.written projection).length ∧
      (∀ (place : Nat) (values : ColumnBuffer), buffer.columns[place]? = some values →
        values.size = (steps.flatMap Step.rows).length ∧
          values.values = steps.flatMap (Step.values place)) ∧
      ∀ (other : Option (Projection R)) (rows : List R),
        other.map Projection.runtimeShape = projection.map Projection.runtimeShape →
        ∃ next, outcome (buffer.emitAll other rows) = .ok next ∧
          outcome (rows.foldlM (fun written row => written.emit other row) buffer) = .ok next := by
  obtain ⟨buffer, ran, shaped, holds⟩ := (holds_forProjection projection).run fitting
  rw [List.nil_append] at holds
  refine ⟨buffer, ran, shaped, holds.whole, (columns_forall₂ holds.fits).length_eq,
    holds.column, ?_⟩
  intro other rows same
  have fits := holds.fits.through same
  exact ⟨_, outcome_emitAll fits rows, outcome_emit_one_by_one fits rows⟩

end Buffer

namespace Demo

/-- Eight columns of employees, so that the last of them is nested. -/
def eightColumns (eighth : Column Person) : Option (Projection Person) :=
  some (.tuple (.more
    [⟨"id", 0, .integer (·.id)⟩, ⟨"name", 1, .text (·.name)⟩, ⟨"age", 2, .integer (·.age)⟩,
      ⟨"city", 3, .text (·.city)⟩, ⟨"salary", 4, .float (·.salary)⟩,
      ⟨"department", 5, .text (·.department)⟩, ⟨"isManager", 6, .boolean (·.isManager)⟩]
    (.last [eighth])))

/-- With the level of employees. -/
def withLevel : Option (Projection Person) := eightColumns ⟨"level", 10, .text (·.level)⟩

/-- With their team, which may be absent. -/
def withTeam : Option (Projection Person) := eightColumns ⟨"team", 9, .nullableText (·.team)⟩

/-- The employees one by one with their levels, and then at once with their teams. -/
def writes : List (Buffer.Step Person) :=
  people.map (.emit withLevel) ++ [.emitAll withTeam people]

end Demo

/-- Levels and teams share a nested column: as it is written, text may be absent in both. -/
theorem Buffer.writes_stay_rectangular_employees :
    (∀ step ∈ Demo.writes, step.projection.map Projection.runtimeShape =
      Demo.withLevel.map Projection.runtimeShape) ∧
    ∃ buffer, outcome (Demo.writes.foldlM Step.apply (forProjection Demo.withLevel)) = .ok buffer ∧
      buffer.shape = (forProjection Demo.withLevel).shape ∧
      (Demo.withLevel = none → buffer = .rows (Demo.writes.flatMap Step.rows).toArray) ∧
      buffer.columns.length = (Projection.written Demo.withLevel).length ∧
      (∀ (place : Nat) (values : ColumnBuffer), buffer.columns[place]? = some values →
        values.size = (Demo.writes.flatMap Step.rows).length ∧
          values.values = Demo.writes.flatMap (Step.values place)) ∧
      ∀ (other : Option (Projection Person)) (rows : List Person),
        other.map Projection.runtimeShape = Demo.withLevel.map Projection.runtimeShape →
        ∃ next, outcome (buffer.emitAll other rows) = .ok next ∧
          outcome (rows.foldlM (fun written row => written.emit other row) buffer) = .ok next := by
  have fitting : ∀ step ∈ Demo.writes, step.projection.map Projection.runtimeShape =
      Demo.withLevel.map Projection.runtimeShape := by
    intro step member
    rcases List.mem_append.mp member with single | last
    · obtain ⟨person, -, rfl⟩ := List.mem_map.mp single
      rfl
    · cases List.mem_singleton.mp last
      rfl
  exact ⟨fitting, writes_stay_rectangular Demo.withLevel Demo.writes fitting⟩

end RowQuery
