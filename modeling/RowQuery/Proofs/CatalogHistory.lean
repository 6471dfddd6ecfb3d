import Mathlib.Data.Finset.Card
import Mathlib.Data.List.Nodup
import RowQuery.Catalog

/-! # Schemas and catalogs after any history

What a schema holds is decided by the history of its additions: for each name the column added last
under it, in the order of these last additions (`Schema.Records`). One more addition keeps this up
(`Schema.Records.add`), so it holds after any number of them. In the same way a catalog knows for
each kind of rows the schema registered last for it, whatever was registered for other kinds
(`Catalog.Records`), and its answers depend on nothing else (`Scope.AnswersFrom`).
-/

namespace RowQuery

/-! ## Schemas -/

namespace Schema

variable {R : Type}

/-- Whether a history has a column at some time under a name that is not added again later. -/
def isLastUse (history : List (Column R)) (time : Nat) : Bool :=
  match history.drop time with
  | [] => false
  | column :: later => later.all (·.key ≠ column.key)

/-- The times in order at which the names of a history are used for the last time. -/
def lastUses (history : List (Column R)) : List Nat :=
  (List.range history.length).filter (isLastUse history)

/-- The column that a history adds last under a name, whatever the case of its letters. -/
def lastNamed? (history : List (Column R)) (name : String) : Option (Column R) :=
  (history.filter (·.key = Text.lower name)).getLast?

/-- Whether a schema holds what a history of additions leaves. -/
structure Records (schema : Schema R) (history : List (Column R)) : Prop where
  /-- The columns are those added at the times of last use, in the order of these times. -/
  listed : schema.columns.map some = (lastUses history).map (history[·]?)
  /-- Every name of the history is the name of one column, and no other name is. -/
  once : ∀ key, (schema.columns.map Column.key).count key =
    if key ∈ history.map Column.key then 1 else 0
  /-- There are as many columns as distinct names. -/
  sized : schema.size = (history.map Column.key).toFinset.card
  /-- A name is looked up as the column added last under it. -/
  found : ∀ name, schema.find? name = lastNamed? history name

private theorem lt_length_of_mem_lastUses {history : List (Column R)} {time : Nat}
    (member : time ∈ lastUses history) : time < history.length :=
  List.mem_range.mp (List.mem_filter.mp member).1

/-- An addition is a last use, and it ends those of its name. -/
theorem lastUses_concat (history : List (Column R)) (column : Column R) :
    lastUses (history ++ [column]) =
      (lastUses history).filter (fun time => history[time]?.all (·.key ≠ column.key)) ++
        [history.length] := by
  have newest : isLastUse (history ++ [column]) history.length = true := by
    simp [isLastUse]
  have earlier : ∀ time ∈ List.range history.length,
      isLastUse (history ++ [column]) time =
        (history[time]?.all (·.key ≠ column.key) && isLastUse history time) := by
    intro time member
    have inside := List.mem_range.mp member
    rw [isLastUse, isLastUse, List.drop_append_of_le_length inside.le,
      List.drop_eq_getElem_cons inside, List.getElem?_eq_getElem inside, Option.all_some,
      List.cons_append]
    simp only [List.all_append, List.all_cons, List.all_nil, Bool.and_true, ne_eq]
    rw [Bool.and_comm, decide_eq_decide.mpr (not_congr eq_comm)]
  rw [lastUses, List.length_append, List.length_singleton, List.range_succ, List.filter_append,
    List.filter_congr earlier, ← List.filter_filter, List.filter_singleton, newest]
  rfl

/-- Adding a column drops the one with its key and puts it at the end. -/
theorem columns_add (schema : Schema R) (column : Column R) :
    (schema.add column).columns = schema.columns.filter (·.key ≠ column.key) ++ [column] := rfl

/-- After a column has been added, its name finds it and other names find what they did. -/
theorem find?_add (schema : Schema R) (column : Column R) (name : String) :
    (schema.add column).find? name =
      if column.key = Text.lower name then some column else schema.find? name := by
  unfold find?
  rw [columns_add, List.find?_append, List.find?_filter, List.find?_singleton]
  by_cases same : column.key = Text.lower name
  · rw [List.find?_eq_none.mpr]
    · simp [same]
    · intro other _
      simp [same]
  · have unnamed : decide (column.key = Text.lower name) = false := decide_eq_false same
    rw [if_neg same, unnamed, if_neg Bool.false_ne_true, Option.or_none]
    congr 1
    funext other
    by_cases named : other.key = Text.lower name
    · simp [named, Ne.symm same]
    · simp [named]

private theorem mem_keys_add (schema : Schema R) (column : Column R) (key : String) :
    key ∈ (schema.add column).columns.map Column.key ↔
      key ∈ schema.columns.map Column.key ∨ key = column.key := by
  simp only [columns_add, List.map_append, List.mem_append, List.mem_map, List.mem_filter,
    List.map_cons, List.map_nil, List.mem_singleton, decide_eq_true_eq]
  constructor
  · rintro (⟨other, ⟨member, -⟩, named⟩ | same)
    · exact .inl ⟨other, member, named⟩
    · exact .inr same
  · rintro (⟨other, member, named⟩ | same)
    · by_cases replaced : other.key = column.key
      · exact .inr (named.symm.trans replaced)
      · exact .inl ⟨other, ⟨member, replaced⟩, named⟩
    · exact .inr same

/-- The schema without columns records that nothing was added. -/
theorem records_empty : (empty : Schema R).Records [] where
  listed := rfl
  once _ := by simp [empty]
  sized := rfl
  found _ := rfl

namespace Records

variable {schema : Schema R} {history : List (Column R)}

private theorem mem_keys_iff (records : schema.Records history) (key : String) :
    key ∈ schema.columns.map Column.key ↔ key ∈ history.map Column.key := by
  rw [← List.count_pos_iff, records.once]
  split <;> simp_all

/-- **One more addition.** A schema that holds what a history leaves holds after an addition what
the longer history leaves. -/
theorem add (records : schema.Records history) (column : Column R) :
    (schema.add column).Records (history ++ [column]) := by
  have names (key : String) : key ∈ (schema.add column).columns.map Column.key ↔
      key ∈ (history ++ [column]).map Column.key := by
    rw [mem_keys_add, records.mem_keys_iff, List.map_append, List.mem_append, List.map_singleton,
      List.mem_singleton]
  have distinct := (schema.add column).distinct
  refine ⟨?_, ?_, ?_, ?_⟩
  · -- Of the columns before, those of other names stay, and so do their times.
    have kept : ((lastUses history).filter fun time =>
          history[time]?.all (·.key ≠ column.key)).map ((history ++ [column])[·]?) =
        ((lastUses history).map (history[·]?)).filter (Option.all (·.key ≠ column.key)) := by
      rw [List.filter_map]
      refine List.map_congr_left fun time member => ?_
      exact List.getElem?_append_left (lt_length_of_mem_lastUses (List.mem_filter.mp member).1)
    rw [columns_add, lastUses_concat, List.map_append, List.map_append, kept, ← records.listed,
      List.filter_map]
    simp [Function.comp_def]
  · intro key
    rw [distinct.count]
    simp only [names]
  · rw [size, ← List.length_map Column.key, ← List.toFinset_card_of_nodup distinct]
    congr 1
    ext key
    rw [List.mem_toFinset, List.mem_toFinset, names]
  · intro name
    rw [find?_add, records.found, lastNamed?, lastNamed?, List.filter_append]
    by_cases same : column.key = Text.lower name
    · simp [same]
    · simp [same]

/-- Adding columns to a schema adds them to what it records. -/
theorem foldl_add (records : schema.Records history) (additions : List (Column R)) :
    (additions.foldl Schema.add schema).Records (history ++ additions) := by
  induction additions generalizing schema history with
  | nil => rwa [List.append_nil]
  | cons column additions ih =>
      -- The addition joins the history, so the step applies again to what is left.
      have further := ih (records.add column)
      rwa [List.append_assoc, List.singleton_append] at further

end Records

/-- A schema made of columns records them. -/
theorem records_ofColumns (additions : List (Column R)) :
    (ofColumns additions).Records additions :=
  records_empty.foldl_add additions

end Schema

/-! ## Catalogs -/

/-- What a scope answers if a schema, or none, is the one to be consulted: it gives the schema, it
resolves the names that the schema has, and it refuses a name that the schema lacks as it was
written; without a schema it refuses everything. -/
structure Scope.AnswersFrom {R : Type} [RowType R] (scope : Scope R)
    (consulted : Option (Schema R)) : Prop where
  known : ∀ schema, scope.schema = .ok schema ↔ consulted = some schema
  unknown : ∀ cause, scope.schema = .error cause ↔
    consulted = none ∧ cause = .notRegistered (RowType.name R)
  resolves : ∀ name column, scope.resolve name = .ok column ↔
    ∃ schema, consulted = some schema ∧ schema.find? name = some column
  refuses : ∀ name cause, scope.resolve name = .error cause ↔
    consulted = none ∧ cause = .notRegistered (RowType.name R) ∨
      ∃ schema, consulted = some schema ∧ schema.find? name = none ∧
        cause = .unknownColumn name (RowType.name R)

/-- A scope answers from what is registered in it. -/
theorem Scope.answersFrom_registered {R : Type} [RowType R] (scope : Scope R) :
    scope.AnswersFrom scope.registered := by
  cases registered : scope.registered with
  | none =>
      have unregistered : scope.schema = .error (.notRegistered (RowType.name R)) := by
        rw [Scope.schema, registered]
      constructor <;> simp [resolve, unregistered, eq_comm]
  | some schema =>
      have given : scope.schema = .ok schema := by
        rw [Scope.schema, registered]
      constructor
      · simp [given]
      · simp [given]
      · intro name column
        cases found : schema.find? name <;> simp [resolve, given, found]
      · intro name cause
        cases found : schema.find? name <;> simp [resolve, given, found, eq_comm]

namespace Catalog

/-- A schema that is registered for a kind of rows. -/
abbrev Registration (κ : Type) [RowFamily κ] := (kind : κ) × Schema (RowFamily.Row kind)

variable {κ : Type} [RowFamily κ] [DecidableEq κ]

/-- The schema of a registration, if it is for rows of a kind. -/
def schemaFor? (kind : κ) (registration : Registration κ) :
    Option (Schema (RowFamily.Row kind)) :=
  if same : registration.1 = kind then some (same ▸ registration.2) else none

/-- The schema that a history registers last for rows of a kind. -/
def lastSchema? (kind : κ) (history : List (Registration κ)) :
    Option (Schema (RowFamily.Row kind)) :=
  (history.filterMap (schemaFor? kind)).getLast?

def ofRegistrations (history : List (Registration κ)) : Catalog κ :=
  history.foldl (fun catalog registration => catalog.register registration.1 registration.2) empty

/-- Whether a catalog holds for every kind of rows the schema registered last for it. -/
def Records (catalog : Catalog κ) (history : List (Registration κ)) : Prop :=
  ∀ kind, (catalog.scope kind).registered = lastSchema? kind history

/-- A registration sets the schema of its own kind of rows and no other. -/
theorem registered_register (catalog : Catalog κ) (registration : Registration κ) (kind : κ) :
    ((catalog.register registration.1 registration.2).scope kind).registered =
      (schemaFor? kind registration).or (catalog.scope kind).registered := by
  obtain ⟨other, schema⟩ := registration
  by_cases same : other = kind
  · subst same
    simp [register, schemaFor?]
  · simp [register, schemaFor?, same]

/-- **One more registration.** A catalog that holds what a history leaves holds after a registration
what the longer history leaves. -/
theorem Records.register {catalog : Catalog κ} {history : List (Registration κ)}
    (records : catalog.Records history) (registration : Registration κ) :
    (catalog.register registration.1 registration.2).Records (history ++ [registration]) := by
  intro kind
  rw [registered_register, records kind, lastSchema?, lastSchema?, List.filterMap_append,
    List.getLast?_append]
  cases given : schemaFor? kind registration <;> simp [given]

/-- A catalog made of registrations records them. -/
theorem records_ofRegistrations (history : List (Registration κ)) :
    (ofRegistrations history).Records history := by
  induction history using List.reverseRecOn with
  | nil => exact fun kind => rfl
  | append_singleton history registration ih =>
      rw [ofRegistrations, List.foldl_append]
      exact ih.register registration

/-- **What a catalog answers after any history.** However columns were added to a schema, it lists
for each name the column added last under it, in the order of these additions, it has as many
columns as there are names, and it finds a name as the column added last. However schemas were
registered for rows of different kinds, the answers about rows of a kind come from the schema
registered last for them, if there is one. -/
theorem answers_from_last_writes :
    (∀ (R : Type) (additions : List (Column R)),
      (Schema.ofColumns additions).Records additions) ∧
    ∀ (registrations : List (Registration κ)) (kind : κ),
      ((ofRegistrations registrations).scope kind).AnswersFrom
        (lastSchema? kind registrations) := by
  refine ⟨fun R additions => Schema.records_ofColumns additions, fun registrations kind => ?_⟩
  rw [← records_ofRegistrations registrations kind]
  exact Scope.answersFrom_registered _

end Catalog

end RowQuery
