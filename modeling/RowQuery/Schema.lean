import RowQuery.Column

/-! # Schemas

A schema lists the columns of a type of rows. No two of them share a name, whatever the case of its
letters; a column added under a name that is taken replaces the earlier one and comes last.

The list stands for an ordered map from names in lower case to columns. `Schema.add` is the
insertion of that map: what was under the key is removed, and the new column goes to the end and not
to the place of the old one. `Schema.find?` is its look-up: there is at most one column under a key.
-/

namespace RowQuery

/-- The columns of a type of rows, in order. -/
structure Schema (R : Type) where
  /-- The columns in the order of their latest additions. -/
  columns : List (Column R)
  /-- No two columns share a name. -/
  distinct : (columns.map Column.key).Nodup

namespace Schema

variable {R : Type}

/-- The schema without columns. -/
def empty : Schema R := ⟨[], List.nodup_nil⟩

/-- The schema with a column added at the end, in place of any other of its name. -/
def add (schema : Schema R) (column : Column R) : Schema R where
  columns := schema.columns.filter (·.key ≠ column.key) ++ [column]
  distinct := by
    rw [List.map_append, List.nodup_append]
    refine ⟨?_, by simp, ?_⟩
    · exact schema.distinct.sublist (List.filter_sublist.map _)
    · intro key taken other added same
      simp only [List.map_cons, List.map_nil, List.mem_singleton] at added
      obtain ⟨old, kept, rfl⟩ := List.mem_map.1 taken
      have differs := (List.mem_filter.1 kept).2
      simp only [decide_eq_true_eq] at differs
      exact differs (same.trans added)

/-- The schema of some columns, added in order. -/
def ofColumns (columns : List (Column R)) : Schema R := columns.foldl add empty

/-- The column with a name, whatever the case of its letters. -/
def find? (schema : Schema R) (name : String) : Option (Column R) :=
  schema.columns.find? (·.key = Text.lower name)

/-- The number of columns. -/
def size (schema : Schema R) : Nat := schema.columns.length

/-- A schema as messages describe it. -/
def describe (schema : Schema R) : String := Text.describeList (schema.columns.map (·.describe))

end Schema

end RowQuery
