import Mathlib.Data.List.Forall2
import Mathlib.Logic.Relation
import RowQuery.Conversion

/-! # Which conversions there are

A shape can be converted to another exactly if the other comes from it by replacing leaves of
nullable text by text, one after the other (`Conversion.exists_plan_iff`). The planned conversion
has the nesting of the shapes: it unwraps text at the leaves that were replaced and changes nothing
at the other leaves (`Conversion.suits_of_plan`).
-/

namespace RowQuery

namespace Shape

/-- Whether a shape is a tuple and no leaf. -/
def isTuple : Shape → Bool
  | .tuple _ => true
  | _ => false

/-- The part of a shape at the end of a path, which gives the place of a field in each tuple on the
way. -/
def part? : Shape → List Nat → Option Shape
  | shape, [] => some shape
  | .tuple fields, place :: path => fields[place]?.bind fun field => field.part? path
  | _, _ :: _ => none

/-- Whether a shape comes from another by replacing one leaf of nullable text by text. -/
inductive Unwraps : Shape → Shape → Prop
  | leaf : Unwraps (.field .nullableText) (.field .text)
  | inside (front back : List Shape) {field changed : Shape} (unwraps : Unwraps field changed) :
      Unwraps (.tuple (front ++ field :: back)) (.tuple (front ++ changed :: back))

/-- The shape that values have while a query runs, when all text may be absent. -/
def runtime : Shape → Shape
  | .row name => .row name
  | .field type => .field type.runtime
  | .tuple fields => .tuple (fields.map runtime)

/-- Induction over a shape, with a hypothesis for every field of a tuple. -/
theorem fields_induction {motive : Shape → Prop} (row : ∀ name, motive (.row name))
    (field : ∀ type, motive (.field type))
    (tuple : ∀ fields, (∀ inner ∈ fields, motive inner) → motive (.tuple fields)) :
    ∀ shape, motive shape
  | .row name => row name
  | .field type => field type
  | .tuple fields => tuple fields fun inner _ => fields_induction row field tuple inner

/-- If each field of a tuple comes to another in some steps, the tuple comes to that of the
others. -/
theorem unwraps_tuple {fields others : List Shape}
    (unwraps : List.Forall₂ (Relation.ReflTransGen Unwraps) fields others) :
    Relation.ReflTransGen Unwraps (.tuple fields) (.tuple others) := by
  -- The fields are replaced from the left; those in front are done.
  suffices ∀ front, Relation.ReflTransGen Unwraps (.tuple (front ++ fields))
      (.tuple (front ++ others)) from this []
  induction unwraps with
  | nil => exact fun front => .refl
  | @cons field other fields others head tail ih =>
      intro front
      have first : Relation.ReflTransGen Unwraps (.tuple (front ++ field :: fields))
          (.tuple (front ++ other :: fields)) :=
        Relation.ReflTransGen.lift (fun inner => Shape.tuple (front ++ inner :: fields))
          (fun _ _ unwraps => Unwraps.inside front fields unwraps) field other head
      have later := ih (front ++ [other])
      rw [List.append_assoc, List.append_assoc] at later
      exact first.trans later

private theorem Unwraps.runtime_eq {shape changed : Shape} (unwraps : Unwraps shape changed) :
    shape.runtime = changed.runtime := by
  induction unwraps with
  | leaf =>
      rw [runtime, runtime]
      rfl
  | inside front back unwraps ih =>
      simp only [runtime, List.map_append, List.map_cons, ih]

/-- The runtime shape of a tuple is the tuple of the runtime shapes of its parts. -/
theorem runtime_ofTuple (shapes : Tuple Shape) :
    (ofTuple shapes).runtime = ofTuple (shapes.map runtime) := by
  induction shapes with
  | last fields => simp only [ofTuple, runtime, Tuple.map]
  | more fields rest ih =>
      simp only [ofTuple, runtime, Tuple.map, List.map_append, List.map_cons, List.map_nil, ih]

end Shape

namespace Conversion

/-- The part of a conversion at the end of a path. -/
def part? : Conversion → List Nat → Option Conversion
  | conversion, [] => some conversion
  | .tuple fields, place :: path => fields[place]?.bind fun field => field.part? path
  | _, _ :: _ => none

/-- Whether a part of a conversion does to the part of a shape at the same place what makes it the
part of another. -/
structure Suits (part : Option Conversion) (actual wanted : Option Shape) : Prop where
  /-- Text is unwrapped exactly if nullable text is replaced by text. -/
  replaced : part = some .unwrapText ↔
    actual = some (.field .nullableText) ∧ wanted = some (.field .text)
  /-- Nothing is changed exactly if a leaf stays the same. -/
  kept : part = some .identity ↔
    ∃ leaf, leaf.isTuple = false ∧ actual = some leaf ∧ wanted = some leaf
  /-- Fields are converted one by one exactly in a tuple. -/
  nested : (∃ fields, part = some (.tuple fields)) ↔ ∃ fields, actual = some (.tuple fields)

/-! ## Plans -/

variable {actual wanted : Shape} {conversion : Conversion} {actuals wanteds : List Shape}
  {conversions : List Conversion}

/-- A shape that is not a tuple needs no conversion to itself. -/
theorem plan_leaf {leaf : Shape} (plain : leaf.isTuple = false) :
    plan leaf leaf = some .identity := by
  cases leaf with
  | row name => exact if_pos rfl
  | field type => exact if_pos rfl
  | tuple fields => cases plain

private theorem planAll_cons_eq_some :
    planAll (actual :: actuals) (wanted :: wanteds) = some conversions ↔
      ∃ first others, plan actual wanted = some first ∧ planAll actuals wanteds = some others ∧
        conversions = first :: others := by
  rw [planAll]
  cases plan actual wanted <;> cases planAll actuals wanteds <;> simp [eq_comm]

/-- What is planned at the root of two shapes. -/
theorem plan_cases (planned : plan actual wanted = some conversion) :
    (actual = .field .nullableText ∧ wanted = .field .text ∧ conversion = .unwrapText) ∨
      (actual.isTuple = false ∧ wanted = actual ∧ conversion = .identity) ∨
      ∃ actuals wanteds conversions, actual = .tuple actuals ∧ wanted = .tuple wanteds ∧
        conversion = .tuple conversions ∧ planAll actuals wanteds = some conversions := by
  match actual, wanted with
  | .tuple actuals, .tuple wanteds =>
      rw [plan] at planned
      obtain ⟨conversions, all, rfl⟩ := Option.map_eq_some_iff.mp planned
      exact .inr (.inr ⟨actuals, wanteds, conversions, rfl, rfl, rfl, all⟩)
  | .row name, .row other =>
      by_cases same : name = other
      · subst same
        rw [plan_leaf rfl] at planned
        cases planned
        exact .inr (.inl ⟨rfl, rfl, rfl⟩)
      · rw [plan, if_neg same] at planned
        cases planned
  | .field type, .field other =>
      by_cases same : type = other
      · subst same
        rw [plan_leaf rfl] at planned
        cases planned
        exact .inr (.inl ⟨rfl, rfl, rfl⟩)
      · by_cases unwraps : type = .nullableText ∧ other = .text
        · obtain ⟨rfl, rfl⟩ := unwraps
          cases planned
          exact .inl ⟨rfl, rfl, rfl⟩
        · rw [plan, if_neg same, if_neg unwraps] at planned
          cases planned

/-! ## Shapes that can be converted -/

private theorem forall₂_replace {α β : Type} {related : α → β → Prop} {items : List α}
    {front back : List β}
    {old new : β} (all : List.Forall₂ related items (front ++ old :: back))
    (replace : ∀ item, related item old → related item new) :
    List.Forall₂ related items (front ++ new :: back) := by
  induction front generalizing items with
  | nil =>
      obtain ⟨item, rest, head, tail, rfl⟩ := List.forall₂_cons_right_iff.mp all
      exact .cons (replace item head) tail
  | cons first front ih =>
      obtain ⟨item, rest, head, tail, rfl⟩ := List.forall₂_cons_right_iff.mp all
      exact .cons head (ih tail)

/-- Shapes can be converted together if each one can. -/
theorem exists_planAll_iff : (∃ conversions, planAll actuals wanteds = some conversions) ↔
    List.Forall₂ (fun actual wanted => ∃ conversion, plan actual wanted = some conversion) actuals
      wanteds := by
  induction actuals generalizing wanteds with
  | nil => cases wanteds <;> simp [planAll]
  | cons actual actuals ih =>
      cases wanteds with
      | nil => simp [planAll]
      | cons wanted wanteds =>
          rw [List.forall₂_cons, ← ih]
          constructor
          · rintro ⟨conversions, planned⟩
            obtain ⟨first, others, head, tail, -⟩ := planAll_cons_eq_some.mp planned
            exact ⟨⟨first, head⟩, others, tail⟩
          · rintro ⟨⟨first, head⟩, others, tail⟩
            exact ⟨first :: others, planAll_cons_eq_some.mpr ⟨first, others, head, tail, rfl⟩⟩

/-- A tuple can be converted if each of its parts can. -/
theorem exists_plan_tuple_iff :
    (∃ conversion, plan (.tuple actuals) (.tuple wanteds) = some conversion) ↔
      List.Forall₂ (fun actual wanted => ∃ conversion, plan actual wanted = some conversion) actuals
        wanteds := by
  rw [← exists_planAll_iff, plan]
  simp only [Option.map_eq_some_iff]
  constructor
  · rintro ⟨-, conversions, planned, -⟩
    exact ⟨conversions, planned⟩
  · rintro ⟨conversions, planned⟩
    exact ⟨_, conversions, planned, rfl⟩

/-- Every shape can be converted to itself. -/
theorem exists_plan_self (shape : Shape) : ∃ conversion, plan shape shape = some conversion := by
  induction shape using Shape.fields_induction with
  | row name => exact ⟨.identity, plan_leaf rfl⟩
  | field type => exact ⟨.identity, plan_leaf rfl⟩
  | tuple fields ih =>
      rw [exists_plan_tuple_iff, List.forall₂_same]
      exact ih

/-- A conversion can be planned only to what unwrapping leads to. -/
theorem unwraps_of_plan (planned : plan actual wanted = some conversion) :
    Relation.ReflTransGen Shape.Unwraps actual wanted := by
  induction actual using Shape.fields_induction generalizing wanted conversion with
  | row name =>
      obtain ⟨⟨⟩, -⟩ | ⟨-, rfl, -⟩ | ⟨_, _, _, ⟨⟩, -⟩ := plan_cases planned
      exact .refl
  | field type =>
      obtain ⟨⟨⟩, rfl, -⟩ | ⟨-, rfl, -⟩ | ⟨_, _, _, ⟨⟩, -⟩ := plan_cases planned
      · exact .single .leaf
      · exact .refl
  | tuple fields ih =>
      obtain ⟨⟨⟩, -⟩ | ⟨⟨⟩, -⟩ | ⟨_, wanteds, conversions, ⟨⟩, rfl, -, all⟩ := plan_cases planned
      apply Shape.unwraps_tuple
      have each := exists_planAll_iff.mp ⟨conversions, all⟩
      refine ((List.forall₂_and_left fields wanteds).mpr ⟨@ih, each⟩).imp ?_
      rintro field other ⟨reaches, conversion, plannedField⟩
      exact reaches plannedField

/-- One more leaf may be replaced in what a shape is converted to. -/
theorem exists_plan_of_unwraps {changed : Shape} (unwraps : Shape.Unwraps wanted changed)
    (planned : plan actual wanted = some conversion) :
    ∃ conversion, plan actual changed = some conversion := by
  induction unwraps generalizing actual conversion with
  | leaf =>
      obtain ⟨-, ⟨⟩, -⟩ | ⟨-, rfl, -⟩ | ⟨_, _, _, -, ⟨⟩, -⟩ := plan_cases planned
      exact ⟨.unwrapText, rfl⟩
  | inside front back unwraps ih =>
      obtain ⟨-, ⟨⟩, -⟩ | ⟨leaf, rfl, -⟩ | ⟨actuals, _, conversions, rfl, ⟨⟩, -, all⟩ :=
        plan_cases planned
      · cases leaf
      · rw [exists_plan_tuple_iff]
        refine forall₂_replace (exists_planAll_iff.mp ⟨conversions, all⟩) ?_
        rintro field ⟨inner, plannedField⟩
        exact ih plannedField

/-- A shape can be converted to exactly the shapes that come from it by replacing leaves of nullable
text. -/
theorem exists_plan_iff : (∃ conversion, plan actual wanted = some conversion) ↔
    Relation.ReflTransGen Shape.Unwraps actual wanted := by
  constructor
  · rintro ⟨conversion, planned⟩
    exact unwraps_of_plan planned
  · intro reaches
    induction reaches with
    | refl => exact exists_plan_self actual
    | tail _ unwraps ih =>
        obtain ⟨conversion, planned⟩ := ih
        exact exists_plan_of_unwraps unwraps planned

/-- A conversion changes no more than whether text can be absent. -/
theorem runtime_eq_of_plan (planned : plan actual wanted = some conversion) :
    actual.runtime = wanted.runtime := by
  have reaches := unwraps_of_plan planned
  clear planned
  induction reaches with
  | refl => rfl
  | tail _ unwraps ih => exact ih.trans unwraps.runtime_eq

/-! ## What is done to each part -/

/-- Whether two parts of shapes and a part of a conversion are all missing, or there and the one
that is planned. -/
inductive Planned : Option Shape → Option Shape → Option Conversion → Prop
  | none : Planned none none none
  | some {actual wanted : Shape} {conversion : Conversion}
      (planned : plan actual wanted = some conversion) :
      Planned (some actual) (some wanted) (some conversion)

private theorem planned_getElem? (all : planAll actuals wanteds = some conversions) (place : Nat) :
    Planned actuals[place]? wanteds[place]? conversions[place]? := by
  induction actuals generalizing wanteds conversions place with
  | nil =>
      cases wanteds with
      | nil =>
          cases all
          exact .none
      | cons wanted wanteds => cases all
  | cons actual actuals ih =>
      cases wanteds with
      | nil => cases all
      | cons wanted wanteds =>
          obtain ⟨first, others, head, tail, rfl⟩ := planAll_cons_eq_some.mp all
          cases place with
          | zero => exact .some head
          | succ place => exact ih tail place

/-- The conversion of a part is a part of the conversion. -/
theorem planned_part? (planned : plan actual wanted = some conversion) (path : List Nat) :
    Planned (actual.part? path) (wanted.part? path) (conversion.part? path) := by
  induction path generalizing actual wanted conversion with
  | nil =>
      rw [Shape.part?, Shape.part?, part?]
      exact .some planned
  | cons place path ih =>
      obtain ⟨rfl, rfl, rfl⟩ | ⟨leaf, rfl, rfl⟩ |
        ⟨actuals, wanteds, conversions, rfl, rfl, rfl, all⟩ := plan_cases planned
      · exact .none
      · cases wanted with
        | tuple fields => cases leaf
        | row name => exact .none
        | field type => exact .none
      · rw [Shape.part?, Shape.part?, part?]
        have aligned := planned_getElem? all place
        generalize actuals[place]? = field, wanteds[place]? = other,
          conversions[place]? = inner at aligned ⊢
        cases aligned with
        | none => exact .none
        | some plannedField => exact ih plannedField

/-- The planned conversion unwraps the text that is replaced and changes nothing else. -/
theorem suits_of_plan (planned : plan actual wanted = some conversion) (path : List Nat) :
    Suits (conversion.part? path) (actual.part? path) (wanted.part? path) := by
  have aligned := planned_part? planned path
  generalize actual.part? path = part, wanted.part? path = other,
    conversion.part? path = inner at aligned ⊢
  cases aligned with
  | none => constructor <;> simp
  | @some shape target conversion plannedPart =>
      obtain ⟨rfl, rfl, rfl⟩ | ⟨leaf, rfl, rfl⟩ | ⟨_, _, _, rfl, rfl, rfl, -⟩ :=
        plan_cases plannedPart
      · constructor <;> simp
      · refine ⟨by simp +contextual, by simpa using leaf, ?_⟩
        cases target with
        | tuple fields => cases leaf
        | row name => simp
        | field type => simp
      · constructor <;> simp [Shape.isTuple]

end Conversion

end RowQuery
