import Mathlib.Data.List.Chain
import RowQuery.Pipeline.Fusion

/-! # The chain that fusion comes to

Two neighbouring stages fuse if one of them filters and the other projects (`Stage.fused?`). A chain
can be fused in different ways, since a stage that could fuse with both its neighbours has to leave
one of them alone (`Pipeline.FusesTo`). The single pass from the root is one of these ways, leaves
no pair that could still fuse, and no other way comes to fewer stages
(`Pipeline.fuse_best_normal_form`).
-/

namespace RowQuery

variable {R : Type}

/-- The stage that a filter and a projection next to each other become. -/
def Stage.fused? : Stage R → Stage R → Option (Stage R)
  | .filter predicate, .project projection => some (.filterProject predicate projection)
  | .project projection, .filter predicate => some (.filterProject predicate projection)
  | _, _ => none

namespace Pipeline

/-- Whether a chain comes from another by fusing some pairs of neighbours, no stage twice. -/
inductive FusesTo : Pipeline R → Pipeline R → Prop
  | nil : FusesTo [] []
  /-- A stage that is left alone. -/
  | keep (stage : Stage R) {rest other : Pipeline R} (later : FusesTo rest other) :
      FusesTo (stage :: rest) (stage :: other)
  /-- Two neighbours that are replaced. -/
  | pair {first second joined : Stage R} (fuses : first.fused? second = some joined)
      {rest other : Pipeline R} (later : FusesTo rest other) :
      FusesTo (first :: second :: rest) (joined :: other)

/-- Whether no two neighbours of a chain could fuse. -/
def Settled (stages : Pipeline R) : Prop :=
  stages.IsChain fun first second => first.fused? second = none

/-! ## The pass -/

private theorem fuse_singleton (stage : Stage R) : fuse [stage] = [stage] := by
  cases stage <;> rfl

variable {first second joined : Stage R}

private theorem fuse_of_pair (fuses : first.fused? second = some joined) (rest : Pipeline R) :
    fuse (first :: second :: rest) = joined :: fuse rest := by
  cases first <;> cases second <;> cases fuses <;> rfl

private theorem fuse_of_apart (apart : first.fused? second = none) (rest : Pipeline R) :
    fuse (first :: second :: rest) = first :: fuse (second :: rest) := by
  rw [fuse]
  · rintro predicate projection later rfl ⟨⟩
    cases apart
  · rintro projection predicate later rfl ⟨⟩
    cases apart

/-! ## Nothing is left to fuse -/

/-- A fused stage fuses with no neighbour. -/
theorem fused?_of_joined (fuses : first.fused? second = some joined) (stage : Stage R) :
    stage.fused? joined = none ∧ joined.fused? stage = none := by
  cases first <;> cases second <;> cases fuses <;> cases stage <;> exact ⟨rfl, rfl⟩

/-- A chain starts as before, or with a fused stage. -/
theorem fused?_head_fuse {stage : Stage R} (apart : stage.fused? first = none)
    (rest : Pipeline R) : ∀ next ∈ (fuse (first :: rest)).head?, stage.fused? next = none := by
  cases rest with
  | nil =>
      rw [fuse_singleton]
      rintro next ⟨⟩
      exact apart
  | cons second rest =>
      cases fuses : first.fused? second with
      | none =>
          rw [fuse_of_apart fuses]
          rintro next ⟨⟩
          exact apart
      | some joined =>
          rw [fuse_of_pair fuses]
          rintro next ⟨⟩
          exact (fused?_of_joined fuses stage).1

/-- The pass looks at a stage before the one after it is rewritten, but rewriting makes no new
pair. -/
theorem settled_fuse : ∀ stages : Pipeline R, Settled (fuse stages)
  | [] => List.isChain_nil
  | [stage] => by
      rw [fuse_singleton]
      exact List.isChain_singleton stage
  | first :: second :: rest => by
      cases fuses : first.fused? second with
      | none =>
          rw [fuse_of_apart fuses]
          exact (settled_fuse (second :: rest)).cons (fused?_head_fuse fuses rest)
      | some joined =>
          rw [fuse_of_pair fuses]
          exact (settled_fuse rest).cons fun next _ => (fused?_of_joined fuses next).2

/-- Fusing changes nothing where no pair fuses. -/
theorem Settled.fuse_eq_self {stages : Pipeline R} (settled : Settled stages) :
    fuse stages = stages := by
  induction settled with
  | nil => rfl
  | singleton stage => exact fuse_singleton stage
  | cons_cons apart later ih => rw [fuse_of_apart apart, ih]

private theorem Settled.not_pair {stages front back : Pipeline R} (settled : Settled stages)
    (fuses : first.fused? second = some joined) : stages ≠ front ++ first :: second :: back := by
  rintro rfl
  have apart := (List.isChain_cons_cons.mp settled.right_of_append).1
  cases fuses.symm.trans apart

/-! ## No other way is shorter -/

/-- Fusing gives what pairs of stages fuse to from the left. -/
theorem fusesTo_fuse : ∀ stages : Pipeline R, FusesTo stages (fuse stages)
  | [] => .nil
  | [stage] => by
      rw [fuse_singleton]
      exact .keep stage .nil
  | first :: second :: rest => by
      cases fuses : first.fused? second with
      | none =>
          rw [fuse_of_apart fuses]
          exact .keep first (fusesTo_fuse (second :: rest))
      | some joined =>
          rw [fuse_of_pair fuses]
          exact .pair fuses (fusesTo_fuse rest)

/-- A further stage at the root costs one stage at most, and saves none. Each of the two bounds
needs the other: if the stage fuses with its neighbour, that neighbour is missing from what follows.
-/
theorem length_fuse_cons (stage : Stage R) (rest : Pipeline R) :
    (fuse rest).length ≤ (fuse (stage :: rest)).length ∧
      (fuse (stage :: rest)).length ≤ (fuse rest).length + 1 := by
  induction rest generalizing stage with
  | nil =>
      rw [fuse_singleton]
      exact ⟨Nat.zero_le 1, Nat.le_refl 1⟩
  | cons second rest ih =>
      obtain ⟨lower, upper⟩ := ih second
      cases fuses : stage.fused? second with
      | none =>
          rw [fuse_of_apart fuses, List.length_cons]
          exact ⟨Nat.le_succ _, Nat.le_refl _⟩
      | some joined =>
          rw [fuse_of_pair fuses, List.length_cons]
          exact ⟨upper, Nat.succ_le_succ lower⟩

/-- Leaving a stage alone gains nothing over the pass, which fuses it as soon as it can. -/
theorem FusesTo.length_fuse_le {stages other : Pipeline R} (fused : FusesTo stages other) :
    (fuse stages).length ≤ other.length := by
  induction fused with
  | nil => exact Nat.le_refl 0
  | @keep stage rest other later ih =>
      calc (fuse (stage :: rest)).length
          ≤ (fuse rest).length + 1 := (length_fuse_cons stage rest).2
        _ ≤ other.length + 1 := Nat.succ_le_succ ih
  | pair fuses later ih =>
      rw [fuse_of_pair fuses]
      exact Nat.succ_le_succ ih

/-- **Fusion comes to a best normal form.** In a fused chain no filter stands directly before a
projection and no projection directly before a filter, and fusing it again changes nothing. It comes
from the chain by fusing some pairs of neighbours, no stage twice, and no chain that comes about in
this way has fewer stages. -/
theorem fuse_best_normal_form (stages : Pipeline R) :
    (∀ (front back : Pipeline R) (predicate : Predicate R) (projection : Projection R),
      fuse stages ≠ front ++ .filter predicate :: .project projection :: back ∧
        fuse stages ≠ front ++ .project projection :: .filter predicate :: back) ∧
      fuse (fuse stages) = fuse stages ∧
      FusesTo stages (fuse stages) ∧
      ∀ other : Pipeline R, FusesTo stages other → (fuse stages).length ≤ other.length := by
  have settled := settled_fuse stages
  refine ⟨?_, settled.fuse_eq_self, fusesTo_fuse stages, fun other => FusesTo.length_fuse_le⟩
  intro front back predicate projection
  exact ⟨settled.not_pair rfl, settled.not_pair rfl⟩

end Pipeline

namespace Demo

/-- Whether a number is small. -/
def small : Column Nat := ⟨"small", 0, .boolean (· < 5)⟩

/-- The predicate of small numbers. -/
def isSmall : Predicate Nat :=
  .comparison ⟨"small", small, .equals, .boolean true, .boolean true⟩

/-- A chain whose two inner stages could fuse with either of their neighbours. -/
def alternating : Pipeline Nat :=
  [.filter isSmall, .project (.column small), .filter isSmall, .project (.column small)]

/-- The same chain with its inner stages fused, which leaves the outer ones alone. -/
def fusedInside : Pipeline Nat :=
  [.filter isSmall, .filterProject isSmall (.column small), .project (.column small)]

end Demo

/-- A bad choice of pairs leaves three stages where the pass leaves two. -/
theorem Pipeline.fuse_best_normal_form_alternating :
    FusesTo Demo.alternating Demo.fusedInside ∧ Demo.fusedInside.length = 3 ∧
      (fuse Demo.alternating).length ≤ Demo.fusedInside.length ∧
      (fuse Demo.alternating).length = 2 := by
  have inside : FusesTo Demo.alternating Demo.fusedInside :=
    .keep _ (.pair rfl (.keep _ .nil))
  exact ⟨inside, rfl, (fuse_best_normal_form Demo.alternating).2.2.2 _ inside, rfl⟩

end RowQuery
