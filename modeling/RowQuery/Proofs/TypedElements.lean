import RowQuery.Plan
import RowQuery.Proofs.BufferContents

/-! # The elements of typed results

Different result types ask for different shapes (`ResultType.shape_injective`). What is written
through a projection has one result type that fits it: the conversion from the shape of the written
values to the shape of the result exists (`Projection.plan_conversion`), and it takes out of the
buffer one element for each row (`Projection.materialize_holding`), which holds the values of the
projection's columns in that row (`Projection.values_element`).
-/

namespace RowQuery

variable {R : Type}

/-! ## Shapes of result types -/

/-- The shape of a tuple is one of a tuple. -/
theorem Shape.ofTuple_eq_tuple (shapes : Tuple Shape) :
    ∃ fields, Shape.ofTuple shapes = .tuple fields := by
  cases shapes with
  | last fields => exact ⟨fields, rfl⟩
  | more fields rest => exact ⟨_, rfl⟩

/-- The shape of a tuple of fields tells the fields and how they are nested, since a nested tuple is
the only field that is a tuple itself. -/
theorem Shape.ofTuple_fields_injective {left right : Tuple FieldType}
    (same : Shape.ofTuple (left.map .field) = Shape.ofTuple (right.map .field)) : left = right := by
  have fieldsInjective : ∀ {types others : List FieldType},
      types.map Shape.field = others.map .field → types = others :=
    (List.map_inj_right fun _ _ => Shape.field.inj).mp
  have notField : ∀ (types : List FieldType) (shapes : Tuple Shape),
      Shape.ofTuple shapes ∉ types.map Shape.field := by
    intro types shapes member
    obtain ⟨fields, nested⟩ := Shape.ofTuple_eq_tuple shapes
    obtain ⟨type, -, single⟩ := List.mem_map.mp member
    rw [nested] at single
    cases single
  -- A tuple with a nested one ends in a field that is a tuple, and one without does not.
  induction left generalizing right with
  | last types =>
      cases right with
      | last others => rw [fieldsInjective (Shape.tuple.inj same)]
      | more others rest =>
          have fields : types.map Shape.field = others.map .field ++ [_] := Shape.tuple.inj same
          exact absurd (fields ▸ List.mem_append_right _ List.mem_cons_self)
            (notField types (rest.map .field))
  | more types rest ih =>
      cases right with
      | last others =>
          have fields : types.map Shape.field ++ [_] = others.map .field := Shape.tuple.inj same
          exact absurd (fields ▸ List.mem_append_right _ List.mem_cons_self)
            (notField others (rest.map .field))
      | more others otherRest =>
          obtain ⟨heads, nested⟩ := List.append_inj' (Shape.tuple.inj same) rfl
          rw [fieldsInjective heads, ih (List.cons.inj nested).1]

/-- Different result types ask for different shapes. -/
theorem ResultType.shape_injective [RowType R] {left right : ResultType}
    (same : left.shape R = right.shape R) : left = right := by
  cases left with
  | row =>
      cases right with
      | row => rfl
      | field type => cases same
      | tuple types full =>
          obtain ⟨fields, nested⟩ := Shape.ofTuple_eq_tuple (types.map .field)
          cases (same.trans nested)
  | field type =>
      cases right with
      | row => cases same
      | field other => rw [Shape.field.inj same]
      | tuple types full =>
          obtain ⟨fields, nested⟩ := Shape.ofTuple_eq_tuple (types.map .field)
          cases (same.trans nested)
  | tuple types full =>
      obtain ⟨fields, nested⟩ := Shape.ofTuple_eq_tuple (types.map .field)
      cases right with
      | row => cases (nested.symm.trans same)
      | field other => cases (nested.symm.trans same)
      | tuple others otherFull => simp only [Shape.ofTuple_fields_injective same]

/-! ## Conversions to field types -/

namespace Conversion

/-- The conversion to a field type from what its values are while a query runs. -/
def ofField : FieldType → Conversion
  | .text => .unwrapText
  | _ => .identity

/-- The conversions to a tuple of field types, the one for the nested fields being the last. -/
def ofFields : Tuple FieldType → List Conversion
  | .last types => types.map ofField
  | .more types rest => types.map ofField ++ [.tuple (ofFields rest)]

mutual

/-- The conversions of single fields within a conversion, in order. -/
def leaves : Conversion → List Conversion
  | .identity => [.identity]
  | .unwrapText => [.unwrapText]
  | .tuple fields => leavesAll fields

/-- The conversions of single fields within some conversions, in order. -/
def leavesAll : List Conversion → List Conversion
  | [] => []
  | conversion :: rest => conversion.leaves ++ leavesAll rest

end

/-- A field is converted to its own type. -/
theorem plan_field (type : FieldType) :
    plan (.field type.runtime) (.field type) = some (ofField type) := by
  cases type <;> rfl

/-- Single fields before others do not change how the others are converted. -/
theorem planAll_fields_append (types : List FieldType) {actual wanted : List Shape}
    {others : List Conversion} (planned : planAll actual wanted = some others) :
    planAll (types.map (fun type => .field type.runtime) ++ actual)
      (types.map .field ++ wanted) = some (types.map ofField ++ others) := by
  induction types with
  | nil => exact planned
  | cons type types ih =>
      simp only [List.map_cons, List.cons_append, planAll, plan_field, ih]

/-- The fields of a tuple are converted to their own types. -/
theorem plan_fields (types : Tuple FieldType) :
    plan (Shape.ofTuple (types.map fun type => .field type.runtime))
      (Shape.ofTuple (types.map .field)) = some (.tuple (ofFields types)) := by
  induction types with
  | last types =>
      have planned := planAll_fields_append types (show planAll [] [] = some [] from rfl)
      simp only [List.append_nil] at planned
      simp only [Tuple.map, Shape.ofTuple, plan, planned, Option.map_some, ofFields]
  | more types rest ih =>
      have nested : planAll [Shape.ofTuple (rest.map fun type => .field type.runtime)]
          [Shape.ofTuple (rest.map .field)] = some [.tuple (ofFields rest)] := by
        simp only [planAll, ih]
      simp only [Tuple.map, Shape.ofTuple, plan, planAll_fields_append types nested,
        Option.map_some, ofFields]

private theorem leaves_ofField (type : FieldType) : (ofField type).leaves = [ofField type] := by
  cases type <;> simp only [ofField, leaves]

private theorem leavesAll_fields_append (types : List FieldType) (others : List Conversion) :
    leavesAll (types.map ofField ++ others) = types.map ofField ++ leavesAll others := by
  induction types with
  | nil => rfl
  | cons type types ih =>
      simp only [List.map_cons, List.cons_append, leavesAll, leaves_ofField, ih, List.nil_append]

/-- A tuple of fields is converted field by field. -/
theorem leavesAll_ofFields (types : Tuple FieldType) :
    leavesAll (ofFields types) = types.toList.map ofField := by
  induction types with
  | last types =>
      have leaf := leavesAll_fields_append types []
      simpa only [List.append_nil, leavesAll, ofFields, Tuple.toList] using leaf
  | more types rest ih =>
      simp only [ofFields, leavesAll_fields_append, leavesAll, leaves, ih, List.append_nil,
        Tuple.toList, List.map_append]

end Conversion

/-! ## Fields taken out of columns -/

/-- The field that is read out of a row, as a value of its type. -/
def Accessor.field : (accessor : Accessor R) → R → accessor.fieldType.Value
  | .integer get, row => get row
  | .float get, row => get row
  | .boolean get, row => get row
  | .text get, row => get row
  | .nullableText get, row => get row

namespace Column

/-- The field of a column in a row, as a value of its type. -/
def field (column : Column R) (row : R) : column.fieldType.Value := column.accessor.field row

/-- The fields of some columns in a row. -/
def fields : (columns : List (Column R)) → R → FieldValues (columns.map fieldType)
  | [], _ => ()
  | column :: columns, row => (column.field row, fields columns row)

/-- The fields of a tuple of columns in a row. -/
def nestedFields : (columns : Tuple (Column R)) → R → TupleValue (columns.map fieldType)
  | .last columns, row => fields columns row
  | .more columns rest, row => (fields columns row, nestedFields rest row)

private theorem toValue_field (column : Column R) (row : R) :
    column.fieldType.toValue (column.field row) = column.value row := by
  obtain ⟨name, place, accessor⟩ := column
  cases accessor <;> rfl

private theorem toList_fields (columns : List (Column R)) (row : R) :
    FieldValues.toList (columns.map fieldType) (fields columns row) =
      columns.map fun column => column.value row := by
  induction columns with
  | nil => rfl
  | cons column columns ih =>
      change column.fieldType.toValue (column.field row) ::
        FieldValues.toList (columns.map fieldType) (fields columns row) = _
      rw [toValue_field, ih, List.map_cons]

/-- The fields of nested columns in a row are their values, with the same nesting. -/
theorem toTuple_nestedFields (columns : Tuple (Column R)) (row : R) :
    TupleValue.toTuple (columns.map fieldType) (nestedFields columns row) =
      columns.map fun column => column.value row := by
  induction columns with
  | last columns => simp only [Tuple.map, TupleValue.toTuple, nestedFields, toList_fields]
  | more columns rest ih =>
      simp only [Tuple.map, TupleValue.toTuple, nestedFields, toList_fields, ih]

/-- Only a column of nullable text has rows in which its value is absent. -/
theorem fieldType_of_value_none {column : Column R} {row : R}
    (absent : column.value row = .text none) : column.fieldType = .nullableText := by
  obtain ⟨name, place, accessor⟩ := column
  cases accessor <;> first | rfl | cases absent

/-- A column whose values are unwrapped holds text in every row. -/
theorem gather_of_unwrapText {column : Column R} (rows : List R)
    (unwraps : Conversion.ofField column.fieldType = .unwrapText) :
    ∃ values, column.gather rows = .text values ∧ none ∉ values := by
  obtain ⟨name, place, accessor⟩ := column
  cases accessor with
  | text get =>
      refine ⟨_, rfl, ?_⟩
      simp
  | _ => cases unwraps

/-- What is taken out of a column is its field in every row. -/
theorem takeColumn_gather (column : Column R) (rows : List R) :
    takeColumn column.fieldType (column.gather rows) (Conversion.ofField column.fieldType) =
      some (rows.map column.field).toArray := by
  obtain ⟨name, place, accessor⟩ := column
  cases accessor with
  | text get =>
      change some (((rows.map fun row => some (get row)).toArray).map (·.getD "")) = _
      simp only [List.map_toArray, List.map_map]
      rfl
  | _ => rfl

/-- Conversions after those of the columns are not looked at. -/
theorem takeFields_gather (columns : List (Column R)) (rows : List R)
    (further : List Conversion) :
    ∃ take, takeFields (columns.map fieldType) (columns.map fun column => column.gather rows)
        ((columns.map fieldType).map Conversion.ofField ++ further) = some take ∧
      ∀ index row, rows[index]? = some row → take index = some (fields columns row) := by
  induction columns with
  | nil => exact ⟨_, rfl, fun _ _ _ => rfl⟩
  | cons column columns ih =>
      obtain ⟨take, taken, takes⟩ := ih
      refine ⟨fun index => do
        let value ← (rows.map column.field).toArray[index]?
        let values ← take index
        return (value, values), ?_, fun index row present => ?_⟩
      · change (takeColumn column.fieldType (column.gather rows)
          (Conversion.ofField column.fieldType) >>= _) = _
        rw [takeColumn_gather]
        change (takeFields (columns.map fieldType) _
          ((columns.map fieldType).map Conversion.ofField ++ further) >>= _) = _
        rw [taken]
        rfl
      · simp only [List.getElem?_toArray, List.getElem?_map, present, takes index row present]
        rfl

end Column

/-- What is taken at the indices of some rows, if something is taken for every row. -/
theorem map_range_of_rows {β : Type} {rows : List R} {take : Nat → Option β} {value : R → β}
    (takes : ∀ index row, rows[index]? = some row → take index = some (value row)) :
    (List.range rows.length).map take = rows.map fun row => some (value row) := by
  refine List.ext_getElem (by simp) fun index _ inside => ?_
  rw [List.length_map] at inside
  rw [List.getElem_map, List.getElem_map, List.getElem_range,
    takes index rows[index] (List.getElem?_eq_getElem inside)]

/-- What is taken at the indices of some rows, one after the other, if it is taken at every one. -/
theorem mapM_range_of_rows {β : Type} {rows : List R} {take : Nat → Option β} {value : R → β}
    (takes : ∀ index row, rows[index]? = some row → take index = some (value row)) :
    (Array.range rows.length).mapM take = some (rows.map value).toArray := by
  have listed : (List.range rows.length).mapM take = some (rows.map value) := by
    have taken := congrArg (List.mapM id) (map_range_of_rows takes)
    rw [List.mapM_map, List.mapM_map] at taken
    exact taken.trans List.mapM_pure
  rw [← List.toArray_range, List.mapM_toArray, listed]
  rfl

section Blocks

variable {types : List FieldType} {buffers : List ColumnBuffer} {conversions : List Conversion}
  {take : Nat → Option (FieldValues types)}

/-- Elements without nesting are taken index by index. -/
theorem takeTuple_last {elements : Array (FieldValues types)}
    (taken : takeFields types buffers conversions = some take)
    (mapped : (Array.range (Tuple.last buffers).rowCount).mapM take = some elements) :
    takeTuple (.last types) (.last buffers) conversions = some elements := by
  rw [takeTuple, taken]
  exact mapped

/-- Elements with nesting are taken index by index, with the nested ones at their end. -/
theorem takeTuple_more {rest : Tuple FieldType} {bufferRest : Tuple ColumnBuffer}
    {inner : List Conversion} {others : Array (TupleValue rest)}
    {elements : Array (FieldValues types × TupleValue rest)} (seven : buffers.length = maxFields)
    (eight : conversions.length = maxFields + 1)
    (last : conversions[maxFields]? = some (.tuple inner))
    (taken : takeFields types buffers conversions = some take)
    (nested : takeTuple rest bufferRest inner = some others)
    (mapped : ((Array.range (Tuple.more buffers bufferRest).rowCount).mapM fun index =>
      take index >>= fun values => others[index]? >>= fun other => some (values, other)) =
        some elements) :
    takeTuple (.more types rest) (.more buffers bufferRest) conversions = some elements := by
  rw [takeTuple, if_pos ⟨seven, eight⟩, last]
  simp only [taken, nested]
  exact mapped

end Blocks

private theorem Column.rowCount_gather {columns : Tuple (Column R)} (full : columns.Full)
    (rows : List R) :
    (columns.map fun column => column.gather rows).rowCount = rows.length := by
  have nested : Projection.Nested (some (.tuple columns)) := by
    rintro _ ⟨⟩
    exact full
  exact Buffer.size_holding nested rows

/-- A tuple of columns nested in full sevens gives the tuple of its fields in each row. -/
theorem Column.takeTuple_gather {columns : Tuple (Column R)} (full : columns.Full)
    (rows : List R) :
    takeTuple (columns.map fieldType) (columns.map fun column => column.gather rows)
        (Conversion.ofFields (columns.map fieldType)) =
      some (rows.map (nestedFields columns)).toArray := by
  have count := rowCount_gather full rows
  induction columns with
  | last columns =>
      obtain ⟨take, taken, takes⟩ := takeFields_gather columns rows []
      rw [List.append_nil] at taken
      refine takeTuple_last taken ?_
      rw [show (Tuple.last _).rowCount = rows.length from count]
      exact mapM_range_of_rows takes
  | more columns rest ih =>
      -- Seven conversions are for the columns here, and the eighth is for the nested ones.
      obtain ⟨seven, restFull⟩ := full
      have nested := ih restFull (rowCount_gather restFull rows)
      obtain ⟨take, taken, takes⟩ := takeFields_gather columns rows
        [.tuple (Conversion.ofFields (rest.map fieldType))]
      have heads : ((columns.map fieldType).map Conversion.ofField).length = maxFields := by
        rw [List.length_map, List.length_map, seven]
      refine takeTuple_more (by rw [List.length_map, seven]) ?_ ?_ taken nested ?_
      · rw [← heads]
        exact List.length_append
      · rw [← heads]
        exact List.getElem?_concat_length
      · rw [show (Tuple.more _ _).rowCount = rows.length from count]
        refine mapM_range_of_rows fun index row present => ?_
        rw [takes index row present, List.getElem?_toArray, List.getElem?_map, present]
        rfl

/-! ## Projections -/

/-- An element's values in order, the nested ones included; a whole row has none. -/
def Entry.values : Entry R → List Value
  | .row _ => []
  | .value single => [single]
  | .tuple values => values.toList

namespace Projection

/-- The result type of what is written through a projection, or of whole rows. -/
def resultType : (projection : Option (Projection R)) → Nested projection → ResultType
  | none, _ => .row
  | some (.column single), _ => .field single.fieldType
  | some (.tuple columns), nested =>
    .tuple (columns.map Column.fieldType) ((Tuple.full_map _ columns).mpr (nested columns rfl))

/-- The element that a row becomes. -/
def element : (projection : Option (Projection R)) → (nested : Nested projection) → R →
    (resultType projection nested).Element R
  | none, _, row => row
  | some (.column single), _, row => single.field row
  | some (.tuple columns), _, row => Column.nestedFields columns row

/-- The conversion from the written values to the elements. -/
def conversion : Option (Projection R) → Conversion
  | none => .identity
  | some (.column single) => .ofField single.fieldType
  | some (.tuple columns) => .tuple (Conversion.ofFields (columns.map Column.fieldType))

variable (projection : Option (Projection R)) (nested : Nested projection)

/-- A buffer written through a projection gives the element of each row, in order. -/
theorem materialize_holding (rows : List R) :
    (resultType projection nested).materialize (Buffer.holding projection rows)
        (conversion projection) =
      some (rows.map (element projection nested)).toArray := by
  match projection, nested with
  | none, _ => exact congrArg (fun kept => some (List.toArray kept)) (List.map_id rows).symm
  | some (.column single), _ => exact single.takeColumn_gather rows
  | some (.tuple columns), nested => exact Column.takeTuple_gather (nested columns rfl) rows

variable [RowType R]

/-- The result type of a projection has the shape of its results. -/
theorem shape_resultType :
    (resultType projection nested).shape R = (Draft.ofProjection projection).publicShape := by
  match projection, nested with
  | none, _ => rfl
  | some (.column single), _ => rfl
  | some (.tuple columns), _ =>
      change Shape.ofTuple ((columns.map Column.fieldType).map .field) = _
      rw [Tuple.map_map]
      rfl

/-- The values as they are written can be converted to the result. -/
theorem plan_conversion :
    Conversion.plan (Draft.ofProjection projection).runtimeShape
        ((resultType projection nested).shape R) = some (conversion projection) := by
  match projection, nested with
  | none, _ => exact if_pos rfl
  | some (.column single), _ => exact Conversion.plan_field single.fieldType
  | some (.tuple columns), _ =>
      have planned := Conversion.plan_fields (columns.map Column.fieldType)
      rw [Tuple.map_map] at planned
      exact planned

omit [RowType R] in
/-- The values of an element are those of the projection's columns in the row. -/
theorem values_element (projection : Projection R) (nested : Nested (some projection)) (row : R) :
    ((resultType (some projection) nested).entry (element (some projection) nested row)).values =
      projection.columns.map fun column => column.value row := by
  cases projection with
  | column single => exact congrArg (fun value => [value]) (single.toValue_field row)
  | tuple columns =>
      have values := Column.toTuple_nestedFields columns row
      exact (congrArg Tuple.toList values).trans (Tuple.toList_map _ columns)

omit [RowType R] in
/-- The single fields of a result are converted by the types of the columns. -/
theorem leaves_conversion (projection : Projection R) :
    (conversion (some projection)).leaves =
      projection.columns.map fun column => Conversion.ofField column.fieldType := by
  cases projection with
  | column single =>
      rw [conversion, Conversion.leaves_ofField]
      rfl
  | tuple columns =>
      rw [conversion, Conversion.leaves, Conversion.leavesAll_ofFields, Tuple.toList_map,
        List.map_map]
      rfl

end Projection

end RowQuery
