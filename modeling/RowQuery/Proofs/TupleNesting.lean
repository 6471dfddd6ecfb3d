import RowQuery.Projection

/-! # Nesting in sevens

Nesting a list of fields keeps them all, in order (`Tuple.toList_ofList`), and every block but the
last is full (`Tuple.full_ofList`). Changing the fields keeps the nesting. The check that a
projection makes at each level of its nesting fails at the outermost one or not at all, so the
columns of a projection are nested in just this way (`Projection.nest_of_ne_nil`).
-/

namespace RowQuery

variable {α β γ : Type}

namespace Tuple

/-- The fields in sevens, each seven nested in the one before. -/
def ofList (items : List α) : Tuple α :=
  if maxFields < items.length then
    .more (items.take maxFields) (ofList (items.drop maxFields))
  else .last items
termination_by items.length
decreasing_by simp only [maxFields, List.length_drop] at *; omega

/-- Two changes of the fields are one. -/
@[simp] theorem map_map (first : α → β) (second : β → γ) (items : Tuple α) :
    (items.map first).map second = items.map fun item => second (first item) := by
  induction items with
  | last fields => simp only [Tuple.map, List.map_map, Function.comp_def]
  | more fields rest ih => simp only [Tuple.map, List.map_map, Function.comp_def, ih]

/-- The fields of a changed tuple in order. -/
@[simp] theorem toList_map (change : α → β) (items : Tuple α) :
    (items.map change).toList = items.toList.map change := by
  induction items with
  | last fields => rfl
  | more fields rest ih => rw [Tuple.map, Tuple.toList, Tuple.toList, ih, List.map_append]

/-- The fields that a changed tuple holds directly. -/
@[simp] theorem fields_map (change : α → β) (items : Tuple α) :
    (items.map change).fields = items.fields.map change := by
  cases items <;> rfl

/-- No field is lost or moved by the nesting. -/
@[simp] theorem toList_ofList (items : List α) : (ofList items).toList = items := by
  fun_induction ofList items with
  | case1 items wide ih => rw [Tuple.toList, ih, List.take_append_drop]
  | case2 items narrow => rfl

/-- Fields that do not fit into one block leave some over. -/
theorem drop_ne_nil {items : List α} (wide : maxFields < items.length) :
    items.drop maxFields ≠ [] := by
  rw [ne_eq, List.drop_eq_nil_iff, Nat.not_le]
  exact wide

/-- One field or more are nested in full sevens, and what is left over is not empty. -/
theorem full_ofList {items : List α} (nonempty : items ≠ []) : (ofList items).Full := by
  fun_induction ofList items with
  | case1 items wide ih =>
      refine ⟨?_, ih (drop_ne_nil wide)⟩
      rw [List.length_take, Nat.min_eq_left (Nat.le_of_lt wide)]
  | case2 items narrow => exact ⟨nonempty, Nat.le_of_not_lt narrow⟩

/-- The nesting does not depend on what the fields are. -/
@[simp] theorem full_map (change : α → β) (items : Tuple α) :
    (items.map change).Full ↔ items.Full := by
  induction items with
  | last fields => simp only [Tuple.map, Full, List.length_map, ne_eq, List.map_eq_nil_iff]
  | more fields rest ih => simp only [Tuple.map, Full, List.length_map, ih]

/-- A tuple nested in sevens holds a field directly. -/
theorem Full.fields_ne_nil {items : Tuple α} (full : items.Full) : items.fields ≠ [] := by
  cases items with
  | last fields => exact full.1
  | more fields rest =>
      intro empty
      have seven := full.1
      rw [show fields = [] from empty] at seven
      cases seven

end Tuple

namespace Projection

variable {R : Type}

/-- One column or more are nested in sevens. No level but the outermost can be found empty, since a
level is only entered for the columns that are left over. -/
theorem nest_of_ne_nil {columns : List (Column R)} (nonempty : columns ≠ []) :
    nest columns = .ok (Tuple.ofList columns) := by
  fun_induction nest columns with
  | case1 columns empty => exact absurd (List.isEmpty_iff.mp empty) nonempty
  | case2 columns occupied wide ih =>
      rw [ih (Tuple.drop_ne_nil wide), Tuple.ofList.eq_1 columns, if_pos wide]
      rfl
  | case3 columns occupied narrow =>
      rw [Tuple.ofList, if_neg narrow]
      rfl

/-- One column or more are projected as their nesting in sevens. -/
theorem ofTuple_of_ne_nil {columns : List (Column R)} (nonempty : columns ≠ []) :
    ofTuple columns = .ok (.tuple (Tuple.ofList columns)) := by
  rw [ofTuple, nest_of_ne_nil nonempty]
  rfl

/-- Two columns or more are projected as a tuple. -/
theorem ofColumns_of_two (first second : Column R) (others : List (Column R)) :
    ofColumns (first :: second :: others) =
      .ok (.tuple (Tuple.ofList (first :: second :: others))) :=
  ofTuple_of_ne_nil (List.cons_ne_nil first (second :: others))

end Projection

end RowQuery
