import RowQuery.ErrorKind
import RowQuery.Schema

/-! # Catalogs

A catalog holds a schema for each kind of rows that has been registered. A query over rows of one
kind sees only that kind's schema: its scope.
-/

namespace RowQuery

/-- A family of row types, one for each kind. -/
class RowFamily (κ : Type) where
  /-- The rows of a kind. -/
  Row : κ → Type
  /-- The rows of every kind can be queried. -/
  rowType : (kind : κ) → RowType (Row kind)

instance {κ : Type} [RowFamily κ] (kind : κ) : RowType (RowFamily.Row kind) :=
  RowFamily.rowType kind

/-- Why a name is not resolved. -/
inductive CatalogError where
  /-- The rows of the named type have no schema. -/
  | notRegistered (rowType : String)
  /-- The schema of the named type has no such column. -/
  | unknownColumn (column : String) (rowType : String)
  deriving DecidableEq

namespace CatalogError

/-- The message of a failure. -/
def message : CatalogError → String
  | .notRegistered rowType => "Schema for row type '" ++ rowType ++ "' has not been registered"
  | .unknownColumn column rowType =>
    "Column '" ++ column ++ "' is not registered for row type '" ++ rowType ++ "'"

/-- The kind of a failure. -/
def kind : CatalogError → ErrorKind
  | .notRegistered _ => .schemaError
  | .unknownColumn _ _ => .unknownColumn

end CatalogError

/-- What a query over one type of rows sees: its schema, if there is one. -/
structure Scope (R : Type) where
  /-- The registered schema. -/
  registered : Option (Schema R)

namespace Scope

variable {R : Type} [RowType R]

/-- The schema, which must have been registered. -/
def schema (scope : Scope R) : Except CatalogError (Schema R) :=
  match scope.registered with
  | some schema => .ok schema
  | none => .error (.notRegistered (RowType.name R))

/-- The column that a name stands for. -/
def resolve (scope : Scope R) (name : String) : Except CatalogError (Column R) :=
  match scope.schema with
  | .error cause => .error cause
  | .ok schema =>
    match schema.find? name with
    | some column => .ok column
    | none => .error (.unknownColumn name (RowType.name R))

end Scope

/-- The registered schemas of every kind of rows. -/
structure Catalog (κ : Type) [RowFamily κ] where
  /-- The scope of the rows of a kind. -/
  scope : (kind : κ) → Scope (RowFamily.Row kind)

namespace Catalog

variable {κ : Type} [RowFamily κ]

/-- The catalog without schemas. -/
def empty : Catalog κ := ⟨fun _ => ⟨none⟩⟩

/-- The catalog with a schema registered for a kind, in place of any earlier one. -/
def register [DecidableEq κ] (catalog : Catalog κ) (kind : κ)
    (schema : Schema (RowFamily.Row kind)) : Catalog κ where
  scope other := if same : kind = other then same ▸ ⟨some schema⟩ else catalog.scope other

/-- Whether a kind has a schema. -/
def isRegistered (catalog : Catalog κ) (kind : κ) : Bool := (catalog.scope kind).registered.isSome

end Catalog

end RowQuery
