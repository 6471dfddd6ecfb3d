import RowQuery.Proofs.TypedResults

/-! # The texts of shapes

A text that begins with the text of a shape without rows tells the shape and what comes after it
(`Shape.RowFree.cancels`): the first letter tells the names of fields and tuples apart, and
after each field of a tuple a comma or a closing parenthesis says how the tuple goes on. Shapes
without rows are therefore told apart by their texts, and so are the two shapes of a refused result
type.
-/

namespace RowQuery

/-- Different field types have names with different first letters, so a text that begins with the
name of one tells the type and what comes after it. -/
theorem FieldType.name_cancel {left right : FieldType} {leftRest rightRest : List Char}
    (same : left.name.toList ++ leftRest = right.name.toList ++ rightRest) :
    left = right ∧ leftRest = rightRest := by
  cases left <;> cases right <;> simp_all [name]

namespace Shape

/-- Whether no part of a shape is a whole row. -/
inductive RowFree : Shape → Prop
  | field (type : FieldType) : RowFree (.field type)
  | tuple {fields : List Shape} (inner : ∀ shape ∈ fields, RowFree shape) : RowFree (.tuple fields)

/-- The end of a tuple's text, from some fields on that are not the first. -/
def laterText (fields : List Shape) : List Char :=
  fields.flatMap (fun shape => ',' :: ' ' :: shape.text.toList) ++ [')']

/-- The end of a tuple's text after its first field; the comma after a field that is the only one
is not followed by a blank. -/
def afterFirst : List Shape → List Char
  | [] => [',', ')']
  | second :: fields => laterText (second :: fields)

private theorem laterText_cons (shape : Shape) (fields : List Shape) :
    laterText (shape :: fields) = ',' :: ' ' :: (shape.text.toList ++ laterText fields) := by
  simp [laterText]

private theorem toList_intercalate_texts (first : Shape) (fields : List Shape) :
    (", ".intercalate (texts (first :: fields))).toList ++ [')'] =
      first.text.toList ++ laterText fields := by
  induction fields generalizing first with
  | nil => simp [texts, laterText]
  | cons second fields ih =>
      rw [texts, texts, String.intercalate_cons_cons, ← texts, String.toList_append,
        String.toList_append, List.append_assoc, ih second, laterText_cons]
      simp

def afterOpening : List Shape → List Char
  | [] => [')']
  | first :: fields => first.text.toList ++ afterFirst fields

private theorem toList_text_tuple (fields : List Shape) :
    (Shape.tuple fields).text.toList = '(' :: afterOpening fields := by
  match fields with
  | [] => simp [text, texts, afterOpening]
  | [only] => simp [text, texts, afterOpening, afterFirst]
  | first :: second :: fields =>
      have joined := toList_intercalate_texts first (second :: fields)
      rw [afterOpening, afterFirst, ← joined]
      simp [text]

/-- Whether a text that begins with a shape's text tells the shape and what comes after it. -/
def Cancels (left : Shape) : Prop :=
  ∀ (right : Shape) (leftRest rightRest : List Char), right.RowFree →
    left.text.toList ++ leftRest = right.text.toList ++ rightRest →
      left = right ∧ leftRest = rightRest

/-- The letters with which the text of a shape without rows can begin. -/
def firstLetters : List Char := ['i', 'f', 'b', 'S', 'O', '(']

private theorem RowFree.exists_firstLetter {shape : Shape} (free : shape.RowFree) :
    ∃ letter ∈ firstLetters, ∃ rest, shape.text.toList = letter :: rest := by
  cases free with
  | field type => cases type <;> simp [text, FieldType.name, firstLetters]
  | tuple inner => exact ⟨'(', by simp [firstLetters], _, toList_text_tuple _⟩

section Fields

variable {lefts rights : List Shape} {leftRest rightRest : List Char}

/-- The later fields of two tuples can be told apart, since each of them follows a comma and the
last one is followed by the closing parenthesis. -/
theorem laterText_cancel (cancels : ∀ shape ∈ lefts, shape.Cancels)
    (free : ∀ shape ∈ rights, shape.RowFree)
    (same : laterText lefts ++ leftRest = laterText rights ++ rightRest) :
    lefts = rights ∧ leftRest = rightRest := by
  induction lefts generalizing rights with
  | nil =>
      cases rights with
      | nil => simpa [laterText] using same
      | cons right rights => simp [laterText] at same
  | cons left lefts ih =>
      cases rights with
      | nil => simp [laterText] at same
      | cons right rights =>
          obtain ⟨headCancels, tailCancels⟩ := List.forall_mem_cons.mp cancels
          obtain ⟨headFree, tailFree⟩ := List.forall_mem_cons.mp free
          rw [laterText_cons, laterText_cons] at same
          simp only [List.cons_append, List.append_assoc, List.cons.injEq, true_and] at same
          obtain ⟨rfl, later⟩ := headCancels right _ _ headFree same
          obtain ⟨rfl, rest⟩ := ih tailCancels tailFree later
          exact ⟨rfl, rest⟩

/-- What follows the first part of a tuple can be read in one way only. -/
theorem afterFirst_cancel (cancels : ∀ shape ∈ lefts, shape.Cancels)
    (free : ∀ shape ∈ rights, shape.RowFree)
    (same : afterFirst lefts ++ leftRest = afterFirst rights ++ rightRest) :
    lefts = rights ∧ leftRest = rightRest := by
  cases lefts with
  | nil =>
      cases rights with
      | nil => simpa [afterFirst] using same
      | cons right rights => simp [afterFirst, laterText_cons] at same
  | cons left lefts =>
      cases rights with
      | nil => simp [afterFirst, laterText_cons] at same
      | cons right rights => exact laterText_cancel cancels free same

/-- A field does not begin with a closing parenthesis, so the empty tuple is told apart. -/
theorem afterOpening_ne_closing {shape : Shape} (free : shape.RowFree) (fields : List Shape)
    (rest closed : List Char) : afterOpening (shape :: fields) ++ rest ≠ ')' :: closed := by
  intro same
  obtain ⟨letter, member, others, begins⟩ := free.exists_firstLetter
  rw [afterOpening, begins] at same
  rw [(List.cons.inj same).1] at member
  simp [firstLetters] at member

/-- What follows the opening of a tuple can be read in one way only. -/
theorem afterOpening_cancel (cancels : ∀ shape ∈ lefts, shape.Cancels)
    (leftFree : ∀ shape ∈ lefts, shape.RowFree) (free : ∀ shape ∈ rights, shape.RowFree)
    (same : afterOpening lefts ++ leftRest = afterOpening rights ++ rightRest) :
    lefts = rights ∧ leftRest = rightRest := by
  cases lefts with
  | nil =>
      cases rights with
      | nil => simpa [afterOpening] using same
      | cons right rights =>
          exact absurd same.symm (afterOpening_ne_closing (free right List.mem_cons_self) _ _ _)
  | cons left lefts =>
      cases rights with
      | nil => exact absurd same (afterOpening_ne_closing (leftFree left List.mem_cons_self) _ _ _)
      | cons right rights =>
          obtain ⟨headCancels, tailCancels⟩ := List.forall_mem_cons.mp cancels
          obtain ⟨headFree, tailFree⟩ := List.forall_mem_cons.mp free
          simp only [afterOpening, List.append_assoc] at same
          obtain ⟨rfl, later⟩ := headCancels right _ _ headFree same
          obtain ⟨rfl, rest⟩ := afterFirst_cancel tailCancels tailFree later
          exact ⟨rfl, rest⟩

end Fields

/-- **Unique reading.** A text that begins with the text of a shape without rows begins with that of
no other one. -/
theorem RowFree.cancels {left : Shape} (free : left.RowFree) : left.Cancels := by
  have notOpening (type : FieldType) (rest opened : List Char) :
      (Shape.field type).text.toList ++ rest ≠ '(' :: opened := by
    cases type <;> simp [text, FieldType.name]
  -- The induction is on the left shape; the right one may be any, so no second induction is needed.
  induction free with
  | field type =>
      intro right leftRest rightRest rightFree same
      cases rightFree with
      | field other =>
          obtain ⟨rfl, rest⟩ := FieldType.name_cancel same
          exact ⟨rfl, rest⟩
      | tuple inner =>
          rw [toList_text_tuple] at same
          exact absurd same (notOpening type _ _)
  | tuple inner ih =>
      intro right leftRest rightRest rightFree same
      rw [toList_text_tuple] at same
      cases rightFree with
      | field other => exact absurd same.symm (notOpening other _ _)
      | tuple rightInner =>
          rw [toList_text_tuple] at same
          obtain ⟨rfl, rest⟩ := afterOpening_cancel ih inner rightInner (List.cons.inj same).2
          exact ⟨rfl, rest⟩

/-- Shapes without rows have texts of their own. -/
theorem RowFree.eq_of_text_eq {left right : Shape} (leftFree : left.RowFree)
    (rightFree : right.RowFree) (same : left.text = right.text) : left = right :=
  (leftFree.cancels right [] [] rightFree (by rw [same])).1

private theorem rowFree_ofTuple {shapes : Tuple Shape}
    (free : ∀ shape ∈ shapes.toList, shape.RowFree) :
    (ofTuple shapes).RowFree := by
  induction shapes with
  | last fields => exact .tuple free
  | more fields rest ih =>
      refine .tuple fun shape member => ?_
      rw [Tuple.toList] at free
      rcases List.mem_append.mp member with direct | nested
      · exact free shape (List.mem_append_left _ direct)
      · rw [List.mem_singleton.mp nested]
        exact ih fun shape member => free shape (List.mem_append_right _ member)

private theorem rowFree_fields {α : Type} (items : Tuple α) (type : α → FieldType) :
    (ofTuple (items.map fun item => .field (type item))).RowFree := by
  refine rowFree_ofTuple fun shape member => ?_
  rw [Tuple.toList_map] at member
  obtain ⟨item, -, rfl⟩ := List.mem_map.mp member
  exact .field _

end Shape

/-! ## Refused result types -/

variable {R : Type} [RowType R]

/-- A result has whole rows, or no rows in its shape. -/
theorem ResultType.shape_cases (type : ResultType) :
    type.shape R = .row (RowType.name R) ∨ (type.shape R).RowFree := by
  cases type with
  | row => exact .inl rfl
  | field type => exact .inr (.field type)
  | tuple types full => exact .inr (Shape.rowFree_fields types id)

/-- The shape of a compiled plan's result is that of some result type, and the values that the plan
writes can be converted to it. -/
theorem Plan.resultType_of_compile {scope : Scope R} {config : Config} {text : String}
    {plan : Plan R} (compiled : Plan.compile scope config text = .ok plan) :
    ∃ (type : ResultType) (conversion : Conversion), type.shape R = plan.publicShape ∧
      Conversion.plan plan.runtimeShape (type.shape R) = some conversion := by
  obtain ⟨query, draft, parsed, built, rfl⟩ := Plan.compile_eq_ok_iff.mp compiled
  obtain ⟨-, projection, -, selected, -⟩ := Plan.outcome_run_of_compile parsed compiled
  obtain ⟨runtime, result⟩ := Draft.shapes_of_build built selected
  have nested := Draft.nested_of_select selected
  refine ⟨Projection.resultType projection nested, Projection.conversion projection, ?_, ?_⟩
  · exact (Projection.shape_resultType projection nested).trans result.symm
  · rw [← Projection.plan_conversion projection nested, ← runtime]
    rfl

/-- A result type is refused for its shape only. -/
theorem Plan.refused_for_shape {scope : Scope R} {config : Config} {text : String}
    {plan : Plan R} (compiled : Plan.compile scope config text = .ok plan) {type : ResultType}
    {cause : QueryError} (refused : plan.typed type = .error cause) :
    plan.publicShape ≠ type.shape R ∧
      cause = .shapeMismatch plan.publicShape (type.shape R) := by
  by_cases asked : type.shape R = plan.publicShape
  · obtain ⟨own, conversion, ownShape, planned⟩ := Plan.resultType_of_compile compiled
    rw [ownShape, ← asked] at planned
    rw [Plan.typed_of_shape asked planned] at refused
    cases refused
  · rw [Plan.typed_of_other asked] at refused
    exact ⟨Ne.symm asked, (Except.error.inj refused).symm⟩

/-- **Shapes can be told apart by their texts.** No two shapes without rows have the same text. If
the name of the row type is not the text of such a shape, then a plan that refuses a result type
names in its message two different texts for the shape it produces and the shape requested. -/
theorem Shape.texts_unambiguous :
    (∀ left right : Shape, left.RowFree → right.RowFree → left.text = right.text → left = right) ∧
    ∀ (scope : Scope R) (config : Config) (text : String) (plan : Plan R) (type : ResultType)
        (cause : QueryError), (∀ shape : Shape, shape.RowFree → shape.text ≠ RowType.name R) →
      Plan.compile scope config text = .ok plan → plan.typed type = .error cause →
        plan.publicShape.text ≠ (type.shape R).text ∧
        cause = .shapeMismatch plan.publicShape (type.shape R) ∧
        cause.message = "Query produces " ++ plan.publicShape.text ++ " but " ++
          (type.shape R).text ++ " was requested" := by
  refine ⟨fun left right => RowFree.eq_of_text_eq, ?_⟩
  intro scope config text plan type cause unmistakable compiled refused
  obtain ⟨differs, rfl⟩ := Plan.refused_for_shape compiled refused
  refine ⟨fun same => differs ?_, rfl, rfl⟩
  obtain ⟨own, -, ownShape, -⟩ := Plan.resultType_of_compile compiled
  rw [← ownShape] at same ⊢
  -- The name of the row type matters where one of the shapes is a whole row and the other is not.
  rcases own.shape_cases (R := R) with whole | free <;>
    rcases type.shape_cases (R := R) with otherWhole | otherFree
  · rw [whole, otherWhole]
  · rw [whole] at same
    exact absurd same.symm (unmistakable _ otherFree)
  · rw [otherWhole] at same
    exact absurd same (unmistakable _ free)
  · exact free.eq_of_text_eq otherFree same

/-- The name of the type of employees is not the text of a shape without rows. -/
theorem Demo.text_ne_person {shape : Shape} (free : shape.RowFree) :
    shape.text ≠ RowType.name Person := by
  intro same
  obtain ⟨letter, member, rest, begins⟩ := free.exists_firstLetter
  rw [same, show RowType.name Person = "typedsql::demo::Person" from rfl] at begins
  simp only [String.reduceToList, List.cons.injEq] at begins
  rw [← begins.1] at member
  simp [Shape.firstLetters] at member

/-- Seven whole numbers and a text. -/
def Demo.eighths : ResultType :=
  .tuple (.more (List.replicate 7 .integer) (.last [.text])) (by decide)

def Demo.eighthsShape : Shape :=
  .tuple (List.replicate 7 (.field .integer) ++ [.tuple [.field .text]])

/-- A tuple with another one nested in it, and a plan for pairs that is asked for whole rows. -/
theorem Shape.texts_unambiguous_teams :
    (Demo.eighths.shape Person).RowFree ∧ Demo.eighthsShape.RowFree ∧
      (Demo.eighths.shape Person).text = Demo.eighthsShape.text ∧
      Demo.eighths.shape Person = Demo.eighthsShape ∧
      ∃ plan cause, Plan.compile Demo.teams ⟨true, true⟩ Demo.teamText = .ok plan ∧
        plan.typed .row = .error cause ∧
        plan.publicShape.text ≠ (ResultType.row.shape Person).text ∧
        cause = .shapeMismatch plan.publicShape (ResultType.row.shape Person) ∧
        cause.message = "Query produces " ++ plan.publicShape.text ++ " but " ++
          (ResultType.row.shape Person).text ++ " was requested" := by
  obtain ⟨injective, messages⟩ := Shape.texts_unambiguous (R := Person)
  have free : (Demo.eighths.shape Person).RowFree := Shape.rowFree_fields _ id
  have nestedFree : Demo.eighthsShape.RowFree := by
    refine .tuple fun shape member => ?_
    rcases List.mem_append.mp member with direct | nested
    · rw [List.eq_of_mem_replicate direct]
      exact .field .integer
    · rw [List.mem_singleton.mp nested]
      exact Shape.rowFree_fields (.last [()]) fun _ => .text
  have same : (Demo.eighths.shape Person).text = Demo.eighthsShape.text := by decide +kernel
  have refuses : (Plan.compile Demo.teams ⟨true, true⟩ Demo.teamText).toOption.map
      (fun plan => (plan.typed .row).isOk) = some false := by decide +kernel
  refine ⟨free, nestedFree, same, injective _ _ free nestedFree same, ?_⟩
  cases compiled : Plan.compile Demo.teams ⟨true, true⟩ Demo.teamText with
  | error cause =>
      rw [compiled] at refuses
      cases refuses
  | ok plan =>
      rw [compiled] at refuses
      cases refused : plan.typed .row with
      | ok typed =>
          rw [Except.toOption, Option.map_some, refused] at refuses
          cases refuses
      | error cause =>
          exact ⟨plan, cause, rfl, refused, messages Demo.teams ⟨true, true⟩ Demo.teamText plan .row
            cause (fun _ => Demo.text_ne_person) compiled refused⟩

end RowQuery
