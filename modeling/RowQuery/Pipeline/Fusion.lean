import RowQuery.Pipeline

/-! # Fusion of stages

A filter and a projection next to each other, in either order, become one stage. The pairs are
found in a single pass from the root.
-/

namespace RowQuery.Pipeline

variable {R : Type}

/-- The chain with neighbouring filters and projections fused, leftmost pairs first. -/
def fuse : Pipeline R → Pipeline R
  | .filter predicate :: .project projection :: rest =>
    .filterProject predicate projection :: fuse rest
  | .project projection :: .filter predicate :: rest =>
    .filterProject predicate projection :: fuse rest
  | stage :: rest => stage :: fuse rest
  | [] => []

end RowQuery.Pipeline
