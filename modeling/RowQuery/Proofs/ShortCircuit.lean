import Mathlib.Data.List.Nodup
import RowQuery.Demo
import RowQuery.Predicate

/-! # What a predicate reads of a row

The comparisons of a predicate are the leaves of its tree, and a path of branches leads to each of
them (`Predicate.leaves`). A row is read at a leaf exactly if every conjunction with the leaf on its
right has a left side that holds, and every disjunction with the leaf on its right one that fails
(`Predicate.Reached`). The leaves that are reached are read from left to right, once each, and the
outcome depends on what is read there alone (`Predicate.reads_exactly_reached`).
-/

namespace RowQuery

/-- The ways down from a node of a predicate. -/
inductive Branch where
  | left
  | right
  /-- From a negation to what it negates. -/
  | inner
  deriving DecidableEq

namespace Predicate

variable {R : Type}

/-! ## Outcomes and reads of each node -/

/-- A comparison reads its column once. -/
theorem evaluate_comparison (unit : Comparison R) (row : R) :
    (comparison unit).evaluate row =
      ⟨unit.accepts (unit.column.value row), [⟨row, unit.column⟩]⟩ := rfl

/-- A conjunction reads what its right side reads only if its left side holds. -/
theorem evaluate_and (left right : Predicate R) (row : R) :
    (and left right).evaluate row =
      ⟨(left.evaluate row).value && (right.evaluate row).value,
        (left.evaluate row).reads ++
          if (left.evaluate row).value then (right.evaluate row).reads else []⟩ := by
  rw [evaluate]
  change Traced.mk _ _ = _
  cases (left.evaluate row).value <;> rfl

/-- A disjunction reads what its right side reads only if its left side does not hold. -/
theorem evaluate_or (left right : Predicate R) (row : R) :
    (or left right).evaluate row =
      ⟨(left.evaluate row).value || (right.evaluate row).value,
        (left.evaluate row).reads ++
          if !(left.evaluate row).value then (right.evaluate row).reads else []⟩ := by
  rw [evaluate]
  change Traced.mk _ _ = _
  cases (left.evaluate row).value <;> rfl

/-- A negation reads what it negates. -/
theorem evaluate_not (inner : Predicate R) (row : R) :
    (not inner).evaluate row = ⟨!(inner.evaluate row).value, (inner.evaluate row).reads⟩ := by
  rw [evaluate]
  exact congrArg (Traced.mk _) (List.append_nil _)

/-! ## Leaves -/

/-- The part of a predicate below a branch. -/
def child? : Predicate R → Branch → Option (Predicate R)
  | .and left _, .left => some left
  | .and _ right, .right => some right
  | .or left _, .left => some left
  | .or _ right, .right => some right
  | .not inner, .inner => some inner
  | _, _ => none

/-- The part of a predicate at the end of a path from its root. -/
def part? (predicate : Predicate R) : List Branch → Option (Predicate R)
  | [] => some predicate
  | branch :: path => (predicate.child? branch).bind fun child => child.part? path

/-- A comparison with the path to it, seen from above a branch. -/
def under (branch : Branch) (leaf : List Branch × Comparison R) : List Branch × Comparison R :=
  (branch :: leaf.1, leaf.2)

/-- The comparisons of a predicate from left to right, each with the path that leads to it. -/
def leaves : Predicate R → List (List Branch × Comparison R)
  | .comparison unit => [([], unit)]
  | .and left right => left.leaves.map (under .left) ++ right.leaves.map (under .right)
  | .or left right => left.leaves.map (under .left) ++ right.leaves.map (under .right)
  | .not inner => inner.leaves.map (under .inner)

private theorem map_snd_under (branch : Branch) (leaves : List (List Branch × Comparison R)) :
    (leaves.map (under branch)).map Prod.snd = leaves.map Prod.snd := by
  rw [List.map_map]
  rfl

/-- The leaves of a predicate are its comparisons, from left to right. -/
theorem map_snd_leaves (predicate : Predicate R) :
    predicate.leaves.map Prod.snd = predicate.units := by
  induction predicate with
  | comparison unit => rfl
  | and left right ihLeft ihRight =>
      rw [leaves, List.map_append, map_snd_under, map_snd_under, ihLeft, ihRight, units]
  | or left right ihLeft ihRight =>
      rw [leaves, List.map_append, map_snd_under, map_snd_under, ihLeft, ihRight, units]
  | not inner ih => rw [leaves, map_snd_under, ih, units]

private theorem mem_map_under {branch : Branch} {leaves : List (List Branch × Comparison R)}
    {path : List Branch} {unit : Comparison R} :
    (path, unit) ∈ leaves.map (under branch) ↔
      ∃ below, path = branch :: below ∧ (below, unit) ∈ leaves := by
  constructor
  · intro member
    obtain ⟨⟨below, other⟩, listed, same⟩ := List.mem_map.mp member
    cases same
    exact ⟨below, rfl, listed⟩
  · rintro ⟨below, rfl, listed⟩
    exact List.mem_map.mpr ⟨(below, unit), listed, rfl⟩

/-- The leaves are the comparisons that paths lead to. -/
theorem mem_leaves {predicate : Predicate R} {path : List Branch} {unit : Comparison R} :
    (path, unit) ∈ predicate.leaves ↔ predicate.part? path = some (.comparison unit) := by
  induction predicate generalizing path with
  | comparison other => cases path <;> simp [leaves, part?, child?, eq_comm]
  | and left right ihLeft ihRight =>
      rw [leaves, List.mem_append, mem_map_under, mem_map_under]
      rcases path with _ | ⟨_ | _ | _, path⟩ <;> simp [part?, child?, ihLeft, ihRight]
  | or left right ihLeft ihRight =>
      rw [leaves, List.mem_append, mem_map_under, mem_map_under]
      rcases path with _ | ⟨_ | _ | _, path⟩ <;> simp [part?, child?, ihLeft, ihRight]
  | not inner ih =>
      rw [leaves, mem_map_under]
      rcases path with _ | ⟨_ | _ | _, path⟩ <;> simp [part?, child?, ih]

private theorem map_fst_under (branch : Branch) (leaves : List (List Branch × Comparison R)) :
    (leaves.map (under branch)).map Prod.fst = (leaves.map Prod.fst).map (branch :: ·) := by
  rw [List.map_map, List.map_map]
  rfl

private theorem nodup_under {leaves : List (List Branch × Comparison R)}
    (distinct : (leaves.map Prod.fst).Nodup) (branch : Branch) :
    ((leaves.map (under branch)).map Prod.fst).Nodup := by
  rw [map_fst_under]
  exact distinct.map fun _ _ same => (List.cons.inj same).2

/-- Paths to the left and to the right part at the first branch. -/
theorem nodup_sides {left right : List (List Branch × Comparison R)}
    (distinctLeft : (left.map Prod.fst).Nodup) (distinctRight : (right.map Prod.fst).Nodup) :
    ((left.map (under .left) ++ right.map (under .right)).map Prod.fst).Nodup := by
  rw [List.map_append]
  refine (nodup_under distinctLeft .left).append (nodup_under distinctRight .right) ?_
  rw [map_fst_under, map_fst_under]
  intro path onLeft onRight
  obtain ⟨below, -, rfl⟩ := List.mem_map.mp onLeft
  obtain ⟨other, -, same⟩ := List.mem_map.mp onRight
  cases same

/-- No path leads to two leaves. -/
theorem nodup_leaves (predicate : Predicate R) : (predicate.leaves.map Prod.fst).Nodup := by
  induction predicate with
  | comparison unit => exact List.nodup_singleton _
  | and left right ihLeft ihRight => exact nodup_sides ihLeft ihRight
  | or left right ihLeft ihRight => exact nodup_sides ihLeft ihRight
  | not inner ih => exact nodup_under ih .inner

/-! ## Leaves that are reached -/

/-- Whether evaluation comes to the end of a path: each conjunction with the end on its right has a
left side that holds, and each disjunction with the end on its right one that fails. -/
structure Reached (predicate : Predicate R) (row : R) (path : List Branch) : Prop where
  conjunctions : ∀ above below left right, path = above ++ .right :: below →
    predicate.part? above = some (.and left right) → (left.evaluate row).value = true
  disjunctions : ∀ above below left right, path = above ++ .right :: below →
    predicate.part? above = some (.or left right) → (left.evaluate row).value = false

/-- Whether evaluation goes on below a branch. -/
def opens : Predicate R → R → Branch → Bool
  | .and left _, row, .right => (left.evaluate row).value
  | .or left _, row, .right => !(left.evaluate row).value
  | _, _, _ => true

/-- Only a step to the right can be barred. -/
theorem reached_iff {predicate : Predicate R} {row : R} {path : List Branch} :
    predicate.Reached row path ↔ ∀ above below node, path = above ++ .right :: below →
      predicate.part? above = some node → node.opens row .right = true := by
  constructor
  · intro reached above below node same found
    cases node with
    | comparison unit => rfl
    | and left right => exact reached.conjunctions above below left right same found
    | or left right =>
        rw [opens, reached.disjunctions above below left right same found]
        rfl
    | not inner => rfl
  · intro opened
    constructor
    · intro above below left right same found
      exact opened above below _ same found
    · intro above below left right same found
      simpa only [opens, Bool.not_eq_true'] using opened above below _ same found

private theorem reached_nil (predicate : Predicate R) (row : R) : predicate.Reached row [] := by
  rw [reached_iff]
  intro above below node same
  simp at same

/-- A path is reached if its first step is open and the rest is reached from there. -/
theorem reached_cons {predicate child : Predicate R} {branch : Branch}
    (down : predicate.child? branch = some child) {row : R} {path : List Branch} :
    predicate.Reached row (branch :: path) ↔
      predicate.opens row branch = true ∧ child.Reached row path := by
  rw [reached_iff, reached_iff]
  constructor
  · intro opened
    constructor
    · cases branch with
      | left => cases predicate <;> rfl
      | right => exact opened [] path predicate rfl rfl
      | inner => cases predicate <;> rfl
    · intro above below node same found
      apply opened (branch :: above) below node (congrArg (branch :: ·) same)
      rw [part?, down]
      exact found
  · rintro ⟨first, opened⟩ above below node same found
    cases above with
    | nil =>
        cases same
        cases found
        exact first
    | cons step above =>
        cases same
        rw [part?, down] at found
        exact opened above below node rfl found

private theorem reached_of_child?_eq_none {predicate : Predicate R} {branch : Branch}
    (leaf : predicate.child? branch = none) (row : R) (path : List Branch) :
    predicate.Reached row (branch :: path) := by
  rw [reached_iff]
  intro above below node same found
  cases above with
  | nil =>
      cases same
      cases found
      cases predicate with
      | comparison unit => rfl
      | and left right => cases leaf
      | or left right => cases leaf
      | not inner => rfl
  | cons step above =>
      cases same
      rw [part?, leaf] at found
      cases found

instance decidableReached (row : R) :
    (predicate : Predicate R) → (path : List Branch) → Decidable (predicate.Reached row path)
  | predicate, [] => .isTrue (reached_nil predicate row)
  | predicate, branch :: path =>
    match down : predicate.child? branch with
    | some child =>
      have := decidableReached row child path
      decidable_of_iff _ (reached_cons down).symm
    | none => .isTrue (reached_of_child?_eq_none down row path)

/-- Below a branch that is open the same leaves are reached as in the part by itself, and below any
other none. -/
theorem reads_under {predicate child : Predicate R} {branch : Branch}
    (down : predicate.child? branch = some child) (row : R)
    (leaves : List (List Branch × Comparison R)) :
    ((leaves.map (under branch)).filter fun leaf => predicate.Reached row leaf.1).map
        (fun leaf => (⟨row, leaf.2.column⟩ : Read R)) =
      if predicate.opens row branch then
        (leaves.filter fun leaf => child.Reached row leaf.1).map fun leaf => ⟨row, leaf.2.column⟩
      else [] := by
  have reached (leaf : List Branch × Comparison R) :
      predicate.Reached row (under branch leaf).1 ↔
        predicate.opens row branch = true ∧ child.Reached row leaf.1 := reached_cons down
  rw [List.filter_map]
  split
  · rename_i opened
    rw [List.map_map]
    apply congrArg (List.map _)
    apply List.filter_congr
    intro leaf _
    exact decide_eq_decide.mpr ((reached leaf).trans (and_iff_right opened))
  · rename_i shut
    have dropped (leaf : List Branch × Comparison R) :
        ¬predicate.Reached row (under branch leaf).1 := fun kept => shut ((reached leaf).mp kept).1
    rw [List.filter_eq_nil_iff.mpr fun leaf _ => by simpa using dropped leaf]
    rfl

/-- The left part of a junction is always open, so its reads come first, and those of the right part
follow if its branch is open. -/
theorem reads_evaluate (predicate : Predicate R) (row : R) :
    (predicate.evaluate row).reads =
      (predicate.leaves.filter fun leaf => predicate.Reached row leaf.1).map
        fun leaf => ⟨row, leaf.2.column⟩ := by
  induction predicate with
  | comparison unit => simp [evaluate_comparison, leaves, reached_nil]
  | and left right ihLeft ihRight =>
      rw [evaluate_and, leaves, List.filter_append, List.map_append, reads_under rfl,
        reads_under rfl, ← ihLeft, ← ihRight]
      rfl
  | or left right ihLeft ihRight =>
      rw [evaluate_or, leaves, List.filter_append, List.map_append, reads_under rfl,
        reads_under rfl, ← ihLeft, ← ihRight]
      rfl
  | not inner ih =>
      rw [evaluate_not, leaves, reads_under rfl, ← ih]
      rfl

/-! ## Rows that agree -/

/-- Rows that agree in what is read come to the same. -/
theorem value_evaluate_of_agree {predicate : Predicate R} {row other : R}
    (agree : ∀ read ∈ (predicate.evaluate row).reads,
      read.column.value other = read.column.value row) :
    (predicate.evaluate other).value = (predicate.evaluate row).value := by
  induction predicate with
  | comparison unit =>
      have same := agree ⟨row, unit.column⟩ List.mem_cons_self
      exact congrArg unit.accepts same
  | and left right ihLeft ihRight =>
      -- The right side is read only if the left side holds, and matters only then.
      rw [evaluate_and] at agree
      obtain ⟨agreeLeft, agreeRight⟩ := List.forall_mem_append.mp agree
      rw [evaluate_and, evaluate_and]
      dsimp only
      rw [ihLeft agreeLeft]
      cases holds : (left.evaluate row).value with
      | true =>
          rw [holds] at agreeRight
          exact ihRight agreeRight
      | false => rfl
  | or left right ihLeft ihRight =>
      rw [evaluate_or] at agree
      obtain ⟨agreeLeft, agreeRight⟩ := List.forall_mem_append.mp agree
      rw [evaluate_or, evaluate_or]
      dsimp only
      rw [ihLeft agreeLeft]
      cases holds : (left.evaluate row).value with
      | true => rfl
      | false =>
          rw [holds] at agreeRight
          exact ihRight agreeRight
  | not inner ih =>
      rw [evaluate_not] at agree ⊢
      rw [evaluate_not]
      exact congrArg Bool.not (ih agree)

/-- **A predicate reads exactly the leaves that it reaches.** The leaves of a predicate are its
comparisons from left to right, one for each path to a comparison. Evaluated on a row, it reads
their columns in this order, a leaf once if it is reached and else not at all. On every other row
with the same values in the columns that were read, the outcome is the same. -/
theorem reads_exactly_reached (predicate : Predicate R) (row : R) :
    predicate.leaves.map Prod.snd = predicate.units ∧
      (predicate.leaves.map Prod.fst).Nodup ∧
      (∀ path unit,
        (path, unit) ∈ predicate.leaves ↔ predicate.part? path = some (.comparison unit)) ∧
      (predicate.evaluate row).reads =
        (predicate.leaves.filter fun leaf => predicate.Reached row leaf.1).map
          (fun leaf => ⟨row, leaf.2.column⟩) ∧
      ∀ other, (∀ read ∈ (predicate.evaluate row).reads,
          read.column.value other = read.column.value row) →
        (predicate.evaluate other).value = (predicate.evaluate row).value :=
  ⟨predicate.map_snd_leaves, predicate.nodup_leaves, fun _ _ => mem_leaves,
    predicate.reads_evaluate row, fun _ agree => value_evaluate_of_agree agree⟩

end Predicate

namespace Demo

/-- Employees who are not past an age without a team, and who lead others or earn enough. -/
def established : Predicate Person :=
  .and
    (.not (.and
      (.comparison ⟨"team", ⟨"team", 9, .nullableText (·.team)⟩, .equals, .null, .text none⟩)
      (.comparison ⟨"age", ⟨"age", 2, .integer (·.age)⟩, .greaterThan, .integer 30, .integer 30⟩)))
    (.or
      (.comparison ⟨"isManager", ⟨"isManager", 6, .boolean (·.isManager)⟩, .equals, .boolean true,
        .boolean true⟩)
      (.comparison ⟨"salary", ⟨"salary", 4, .float (·.salary)⟩, .greaterOrEqual, .integer 170000,
        .float (Binary32.ofInt 170000)⟩))

/-- An employee with a team who leads others. -/
def lead : Person := people.head (List.cons_ne_nil _ _)

/-- The same at another age, with a salary that is not a number. -/
def changedLead : Person := { lead with age := 20, salary := Binary32.nan }

end Demo

/-- Neither age nor salary is read, so both may change. -/
theorem Predicate.reads_exactly_reached_lead :
    (Demo.established.evaluate Demo.lead).reads.map (·.column.name) = ["team", "isManager"] ∧
      (∀ read ∈ (Demo.established.evaluate Demo.lead).reads,
        read.column.value Demo.changedLead = read.column.value Demo.lead) ∧
      (Demo.established.evaluate Demo.changedLead).value =
        (Demo.established.evaluate Demo.lead).value := by
  have agree : ∀ read ∈ (Demo.established.evaluate Demo.lead).reads,
      read.column.value Demo.changedLead = read.column.value Demo.lead := by
    intro read member
    rcases member with _ | ⟨_, _ | ⟨_, ⟨⟩⟩⟩ <;> rfl
  obtain ⟨-, -, -, -, unchanged⟩ := Predicate.reads_exactly_reached Demo.established Demo.lead
  exact ⟨rfl, agree, unchanged Demo.changedLead agree⟩

end RowQuery
