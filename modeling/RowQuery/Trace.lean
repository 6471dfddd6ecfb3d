import RowQuery.Column

/-! # Traces of reads

Every read of a column in a row is recorded, so that what a query reads, and in which order, is
part of what it computes.
-/

namespace RowQuery

/-- A read of a column in a row. -/
structure Read (R : Type) where
  /-- The row that is read. -/
  row : R
  /-- The column that is read. -/
  column : Column R

/-- A value with the reads that led to it, in order. -/
structure Traced (R α : Type) where
  /-- The value. -/
  value : α
  /-- The reads, the first one first. -/
  reads : List (Read R)

namespace Traced

variable {R α β : Type}

instance : Monad (Traced R) where
  pure value := ⟨value, []⟩
  bind first next :=
    let second := next first.value
    ⟨second.value, first.reads ++ second.reads⟩

@[simp] theorem value_pure (value : α) : (pure value : Traced R α).value = value := rfl

@[simp] theorem reads_pure (value : α) : (pure value : Traced R α).reads = [] := rfl

@[simp] theorem value_bind (first : Traced R α) (next : α → Traced R β) :
    (first >>= next).value = (next first.value).value := rfl

@[simp] theorem reads_bind (first : Traced R α) (next : α → Traced R β) :
    (first >>= next).reads = first.reads ++ (next first.value).reads := rfl

end Traced

/-- Reads a column in a row. -/
def Column.read {R : Type} (column : Column R) (row : R) : Traced R Value :=
  ⟨column.value row, [⟨row, column⟩]⟩

end RowQuery
