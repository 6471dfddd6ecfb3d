import Mathlib.Data.List.FinRange
import RowQuery.Demo
import RowQuery.Proofs.BufferWrites
import RowQuery.Proofs.ConversionPlans

/-! # Elements taken out of a buffer

A buffer whose columns are equally long has as many elements, and the element at an index holds what
the columns hold there, place by place and with the nesting of the columns (`Buffer.Gives`). If the
shape of the buffer can be converted to that of a result type, the planned conversion takes out
exactly these elements (`ResultType.materialize_planned`).
-/

namespace RowQuery

variable {R : Type}

/-! ## What an element holds -/

/-- The value that a value becomes: absent text is read as the empty text where text is
unwrapped. -/
def Conversion.read : Conversion → Value → Value
  | .unwrapText, .text none => .text (some "")
  | _, value => value

namespace Buffer

variable (index : Nat)

/-- Whether some values are those of as many columns at an index, each converted. -/
inductive GivesFields : List ColumnBuffer → List Conversion → List Value → Prop
  | nil : GivesFields [] [] []
  | cons {column : ColumnBuffer} {value : Value} (present : column.get? index = some value)
      (conversion : Conversion) {columns : List ColumnBuffer} {conversions : List Conversion}
      {values : List Value} (others : GivesFields columns conversions values) :
      GivesFields (column :: columns) (conversion :: conversions)
        (conversion.read value :: values)

/-- Whether a tuple of values is that of a tuple of columns at an index. The conversion of the
nested columns is the last one. -/
inductive GivesTuple : Tuple ColumnBuffer → List Conversion → Tuple Value → Prop
  | last {columns : List ColumnBuffer} {conversions : List Conversion} {values : List Value}
      (fields : GivesFields index columns conversions values) :
      GivesTuple (.last columns) conversions (.last values)
  | more {columns : List ColumnBuffer} {conversions inner : List Conversion} {values : List Value}
      {rest : Tuple ColumnBuffer} {others : Tuple Value}
      (fields : GivesFields index columns conversions values)
      (nested : GivesTuple rest inner others) :
      GivesTuple (.more columns rest) (conversions ++ [.tuple inner]) (.more values others)

/-- Whether an element is what a buffer holds at an index, converted. -/
inductive Gives : Buffer R → Conversion → Entry R → Prop
  | row {rows : Array R} {row : R} (present : rows[index]? = some row) :
      Gives (.rows rows) .identity (.row row)
  | value {column : ColumnBuffer} {value : Value} (present : column.get? index = some value)
      (conversion : Conversion) :
      Gives (.column column) conversion (.value (conversion.read value))
  | tuple {columns : Tuple ColumnBuffer} {conversions : List Conversion} {values : Tuple Value}
      (fields : GivesTuple index columns conversions values) :
      Gives (.tuple columns) (.tuple conversions) (.tuple values)

end Buffer

/-! ## Single columns -/

namespace ColumnBuffer

/-- Whether a column holds what the values of a field type are while a query runs. -/
def Stores (buffer : ColumnBuffer) (type : FieldType) : Prop := buffer.fieldType = type.runtime

private theorem runtime_fieldType (buffer : ColumnBuffer) :
    buffer.fieldType.runtime = buffer.fieldType := by
  cases buffer <;> rfl

/-- A column that stores the fields of a type gives all of them. -/
theorem takeColumn_of_stores {buffer : ColumnBuffer} {type : FieldType}
    (stores : buffer.Stores type) :
    ∃ column, takeColumn type buffer (.ofField type) = some column ∧ column.size = buffer.size ∧
      ∀ index element, column[index]? = some element → ∃ value, buffer.get? index = some value ∧
        (Conversion.ofField type).read value = type.toValue element := by
  cases type with
  | text =>
      cases buffer <;> cases stores
      rename_i values
      refine ⟨_, rfl, Array.size_map, fun index element present => ?_⟩
      rw [Array.getElem?_map] at present
      obtain ⟨value, found, rfl⟩ := Option.map_eq_some_iff.mp present
      refine ⟨.text value, ?_, ?_⟩
      · rw [get?, found, Option.map_some]
      · cases value <;> rfl
  | _ =>
      cases buffer <;> cases stores
      rename_i values
      refine ⟨values, rfl, rfl, fun index element present => ⟨_, ?_, rfl⟩⟩
      rw [get?, present, Option.map_some]

end ColumnBuffer

/-! ## Tuples of columns -/

/-- What is taken at all indices below a number, if it is taken at every one. -/
theorem mapM_range_of_taken {β : Type} {count : Nat} {take : Nat → Option β}
    {holds : Nat → β → Prop}
    (takes : ∀ index < count, ∃ value, take index = some value ∧ holds index value) :
    ∃ values, (Array.range count).mapM take = some values ∧ values.size = count ∧
      ∀ index value, values[index]? = some value → holds index value := by
  choose value taken fulfils using fun index : Fin count => takes index index.isLt
  have placed {index : Nat} {place : Fin count}
      (present : (List.finRange count)[index]? = some place) : index = place := by
    obtain ⟨below, rfl⟩ := List.getElem?_eq_some_iff.mp present
    rw [List.getElem_finRange]
    rfl
  have all : (Array.range (List.finRange count).length).mapM take =
      some ((List.finRange count).map value).toArray := by
    refine mapM_range_of_rows fun index place present => ?_
    rw [placed present]
    exact taken place
  rw [List.length_finRange] at all
  refine ⟨_, all, by simp, fun index element present => ?_⟩
  rw [List.getElem?_toArray, List.getElem?_map] at present
  obtain ⟨place, found, rfl⟩ := Option.map_eq_some_iff.mp present
  rw [placed found]
  exact fulfils place

variable {types : Tuple FieldType} {columns : Tuple ColumnBuffer} {count : Nat}

/-- Columns that store the fields of some types give all of them, at every index. -/
theorem takeFields_of_stores {fields : List FieldType} {buffers : List ColumnBuffer}
    (stores : List.Forall₂ ColumnBuffer.Stores buffers fields)
    (sizes : ∀ buffer ∈ buffers, buffer.size = count) (further : List Conversion) :
    ∃ take, takeFields fields buffers (fields.map Conversion.ofField ++ further) = some take ∧
      ∀ index < count, ∃ values, take index = some values ∧
        Buffer.GivesFields index buffers (fields.map Conversion.ofField)
          (FieldValues.toList fields values) := by
  induction stores with
  | nil => exact ⟨_, rfl, fun index _ => ⟨(), rfl, .nil⟩⟩
  | @cons buffer type buffers fields head tail ih =>
      obtain ⟨size, otherSizes⟩ := List.forall_mem_cons.mp sizes
      obtain ⟨column, taken, sameSize, holds⟩ := ColumnBuffer.takeColumn_of_stores head
      obtain ⟨take, takenOthers, takes⟩ := ih otherSizes
      refine ⟨fun index => do
        let value ← column[index]?
        let values ← take index
        return (value, values), ?_, fun index below => ?_⟩
      · change (takeColumn type buffer (Conversion.ofField type) >>= _) = _
        rw [taken]
        change (takeFields fields buffers (fields.map Conversion.ofField ++ further) >>= _) = _
        rw [takenOthers]
        rfl
      · obtain ⟨values, takenHere, gives⟩ := takes index below
        have inside : index < column.size := by rw [sameSize, size]; exact below
        have present := Array.getElem?_eq_getElem inside
        obtain ⟨value, found, read⟩ := holds index _ present
        refine ⟨(column[index], values), ?_, ?_⟩
        · simp only [present, takenHere]
          rfl
        · change Buffer.GivesFields index (buffer :: buffers) _ (type.toValue column[index] :: _)
          rw [← read]
          exact .cons found _ gives

/-- The first column tells the number of rows. -/
theorem exists_first_column (full : types.Full)
    (stores : Tuple.Aligned ColumnBuffer.Stores columns types) :
    ∃ first ∈ columns.toList, columns.rowCount = first.size := by
  have nonempty := full.fields_ne_nil
  cases stores with
  | last heads =>
      cases heads with
      | nil => exact absurd rfl nonempty
      | cons head tail => exact ⟨_, List.mem_cons_self, rfl⟩
  | more heads nested =>
      cases heads with
      | nil => exact absurd rfl nonempty
      | cons head tail => exact ⟨_, List.mem_append_left _ List.mem_cons_self, rfl⟩

private theorem rowCount_of_sizes (full : types.Full)
    (stores : Tuple.Aligned ColumnBuffer.Stores columns types)
    (sizes : ∀ buffer ∈ columns.toList, buffer.size = count) : columns.rowCount = count := by
  obtain ⟨first, member, rows⟩ := exists_first_column full stores
  rw [rows, sizes first member]

/-- Columns of equal length that hold what a tuple of field types is while a query runs give a tuple
for each of their rows. -/
theorem takeTuple_of_stores (full : types.Full)
    (stores : Tuple.Aligned ColumnBuffer.Stores columns types)
    (sizes : ∀ buffer ∈ columns.toList, buffer.size = count) :
    ∃ elements, takeTuple types columns (Conversion.ofFields types) = some elements ∧
      elements.size = count ∧ ∀ index element, elements[index]? = some element →
        Buffer.GivesTuple index columns (Conversion.ofFields types)
          (TupleValue.toTuple types element) := by
  induction stores with
  | last heads =>
      obtain ⟨take, taken, takes⟩ := takeFields_of_stores heads sizes []
      rw [List.append_nil] at taken
      obtain ⟨elements, mapped, size, gives⟩ := mapM_range_of_taken takes
      rw [← rowCount_of_sizes full (.last heads) sizes] at mapped
      refine ⟨elements, takeTuple_last taken mapped, size, fun index element present => ?_⟩
      exact .last (gives index element present)
  | @more buffers fields rest otherRest heads nested ih =>
      -- Seven conversions are for the columns here, and the eighth is for the nested ones.
      have rows := rowCount_of_sizes full (.more heads nested) sizes
      obtain ⟨seven, restFull⟩ := full
      obtain ⟨sizesHere, otherSizes⟩ := List.forall_mem_append.mp sizes
      obtain ⟨others, takenOthers, otherSize, givesOthers⟩ := ih restFull otherSizes
      obtain ⟨take, taken, takes⟩ := takeFields_of_stores heads sizesHere
        [.tuple (Conversion.ofFields otherRest)]
      have takesBoth : ∀ index < count, ∃ element, (take index >>= fun values =>
            others[index]? >>= fun other => some (values, other)) = some element ∧
          Buffer.GivesTuple index (.more buffers rest)
            (Conversion.ofFields (.more fields otherRest))
            (TupleValue.toTuple (.more fields otherRest) element) := by
        intro index below
        obtain ⟨values, takenHere, gives⟩ := takes index below
        have present := Array.getElem?_eq_getElem (otherSize ▸ below)
        refine ⟨(values, _), ?_, .more gives (givesOthers index _ present)⟩
        rw [takenHere, present]
        rfl
      obtain ⟨elements, mapped, size, gives⟩ := mapM_range_of_taken takesBoth
      rw [← rows] at mapped
      have lengths : (fields.map Conversion.ofField).length = maxFields := by
        rw [List.length_map, seven]
      refine ⟨elements, takeTuple_more (heads.length_eq.trans seven) ?_ ?_ taken takenOthers mapped,
        size, gives⟩
      · rw [← lengths]
        exact List.length_append
      · rw [← lengths]
        exact List.getElem?_concat_length

/-! ## Planned conversions -/

/-- If the columns of a buffer can be converted to a tuple of field types, they hold what these are
while a query runs. -/
theorem Conversion.tuple_of_plan {conversion : Conversion}
    (planned : Conversion.plan (Shape.ofTuple (columns.map fun values => .field values.fieldType))
      (Shape.ofTuple (types.map .field)) = some conversion) :
    Tuple.Aligned ColumnBuffer.Stores columns types ∧ conversion = .tuple (ofFields types) := by
  have same := runtime_eq_of_plan planned
  simp only [Shape.runtime_ofTuple, Tuple.map_map, Shape.runtime,
    ColumnBuffer.runtime_fieldType] at same
  rw [← Tuple.map_map ColumnBuffer.fieldType Shape.field,
    ← Tuple.map_map FieldType.runtime Shape.field] at same
  have stores := Shape.ofTuple_fields_injective same
  refine ⟨Tuple.map_eq_map_iff_aligned.mp stores, ?_⟩
  have expected := plan_fields types
  rw [← Tuple.map_map FieldType.runtime Shape.field, ← stores, Tuple.map_map, planned] at expected
  exact Option.some.inj expected

variable [RowType R]

/-- A planned conversion takes every element out of a buffer whose columns are equally long. -/
theorem ResultType.materialize_planned {type : ResultType} {buffer : Buffer R}
    {conversion : Conversion}
    (level : ∀ left ∈ buffer.columns, ∀ right ∈ buffer.columns, left.size = right.size)
    (planned : Conversion.plan buffer.shape (type.shape R) = some conversion) :
    ∃ elements, type.materialize buffer conversion = some elements ∧
      elements.size = buffer.size ∧ ∀ index element, elements[index]? = some element →
        Buffer.Gives index buffer conversion (type.entry element) := by
  match buffer, type with
  | .rows rows, .row =>
      have same : some Conversion.identity = some conversion :=
        (Conversion.plan_leaf rfl).symm.trans planned
      cases same
      exact ⟨rows, rfl, rfl, fun index row present => .row present⟩
  | .column column, .field type =>
      have same := Conversion.runtime_eq_of_plan planned
      simp only [Buffer.shape, ResultType.shape, Shape.runtime, column.runtime_fieldType,
        Shape.field.injEq] at same
      have expected := Conversion.plan_field type
      rw [← same] at expected
      cases expected.symm.trans planned
      obtain ⟨elements, taken, size, holds⟩ := column.takeColumn_of_stores same
      refine ⟨elements, taken, size, fun index element present => ?_⟩
      obtain ⟨value, found, read⟩ := holds index element present
      rw [ResultType.entry, ← read]
      exact .value found _
  | .tuple columns, .tuple types full =>
      obtain ⟨stores, rfl⟩ := Conversion.tuple_of_plan planned
      obtain ⟨first, member, count⟩ := exists_first_column full stores
      obtain ⟨elements, taken, size, gives⟩ :=
        takeTuple_of_stores full stores fun column inside => level column inside first member
      refine ⟨elements, taken, size.trans count.symm, fun index element present => ?_⟩
      exact .tuple (gives index element present)
  | .rows rows, .field type => cases planned
  | .rows rows, .tuple types full => cases types <;> cases planned
  | .column column, .row => cases planned
  | .column column, .tuple types full => cases types <;> cases planned
  | .tuple columns, .row => cases columns <;> cases planned
  | .tuple columns, .field type => cases columns <;> cases planned

/-- **Conversions are planned exactly and honoured.** A shape can be converted to another if and
only if the other comes from it by replacing leaves of nullable text by text. The planned conversion
unwraps text at the leaves that are replaced, changes nothing at the other leaves, and goes into
every tuple. If the shape of a buffer whose columns are equally long can be converted to that of a
result type, the result has as many elements as the buffer has rows, and the element at an index
holds, place by place, what the columns hold there, absent text being read as the empty text where
it is unwrapped and nowhere else. -/
theorem Conversion.plan_exact_and_honoured :
    (∀ actual wanted : Shape,
      ((∃ conversion, plan actual wanted = some conversion) ↔
        Relation.ReflTransGen Shape.Unwraps actual wanted) ∧
      ∀ conversion, plan actual wanted = some conversion →
        ∀ path, Suits (conversion.part? path) (actual.part? path) (wanted.part? path)) ∧
    ∀ (buffer : Buffer R) (type : ResultType) (conversion : Conversion),
      (∀ left ∈ buffer.columns, ∀ right ∈ buffer.columns, left.size = right.size) →
      plan buffer.shape (type.shape R) = some conversion →
      ∃ elements, type.materialize buffer conversion = some elements ∧
        elements.size = buffer.size ∧ ∀ index element, elements[index]? = some element →
          Buffer.Gives index buffer conversion (type.entry element) := by
  refine ⟨fun actual wanted => ⟨exists_plan_iff, fun conversion => suits_of_plan⟩, ?_⟩
  intro buffer type conversion level planned
  exact type.materialize_planned level planned

namespace Demo

/-- Two rows of eight columns. The second and the eighth are text, and absent in the first row. -/
def twoRows : Buffer Person :=
  .tuple (.more [.integer #[1, 2], .text #[none, some "Bo"], .integer #[30, 41],
    .boolean #[true, false], .integer #[0, 7], .text #[some "core", some ""], .integer #[3, 3]]
    (.last [.text #[none, some "x"]]))

/-- Eight fields, of which the second is text and the eighth may be absent. -/
def eightFields : ResultType :=
  .tuple (.more [.integer, .text, .integer, .boolean, .integer, .text, .integer]
    (.last [.nullableText])) (by decide)

/-- The conversion of the eight fields. -/
def eightConversions : Conversion :=
  .tuple [.identity, .unwrapText, .identity, .identity, .identity, .unwrapText, .identity,
    .tuple [.identity]]

end Demo

/-- The absent text becomes the empty text in the second field and stays absent in the eighth. -/
theorem Conversion.plan_exact_and_honoured_nested :
    (∀ left ∈ Demo.twoRows.columns, ∀ right ∈ Demo.twoRows.columns, left.size = right.size) ∧
    plan Demo.twoRows.shape (Demo.eightFields.shape Person) = some Demo.eightConversions ∧
    (∃ elements, Demo.eightFields.materialize Demo.twoRows Demo.eightConversions = some elements ∧
      elements.size = 2 ∧ ∀ index element, elements[index]? = some element →
        Buffer.Gives index Demo.twoRows Demo.eightConversions (Demo.eightFields.entry element)) ∧
    (Demo.eightFields.materialize Demo.twoRows Demo.eightConversions).bind
        (fun elements => elements[0]?.map fun element => (Demo.eightFields.entry element).values) =
      some [.integer 1, .text (some ""), .integer 30, .boolean true, .integer 0,
        .text (some "core"), .integer 3, .text none] := by
  have level : ∀ left ∈ Demo.twoRows.columns, ∀ right ∈ Demo.twoRows.columns,
      left.size = right.size := by
    decide
  have planned : plan Demo.twoRows.shape (Demo.eightFields.shape Person) =
      some Demo.eightConversions := rfl
  exact ⟨level, planned, plan_exact_and_honoured.2 _ Demo.eightFields _ level planned,
    by decide +kernel⟩

end RowQuery
