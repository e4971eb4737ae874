/-
FilterChips.Drag.Commit — what a finished drag asks of the sequence.
-/
namespace FilterChips

namespace Drag

/-- What a finished drag asks of the sequence. -/
inductive Commit where
  /-- The chip at an index was dropped on the trash. -/
  | remove (index : Nat)
  /-- The chip at `source` is to move into the slot `target`. -/
  | reorder (source target : Nat)
  /-- The chip was released where it was taken. -/
  | unchanged
  /-- The drag was given up. -/
  | cancelled
  deriving DecidableEq, Repr

/-- The written form of a commit. -/
def Commit.describe : Commit → String
  | .remove index => s!"Remove \x7b index: {index} \x7d"
  | .reorder source target => s!"Reorder \x7b from: {source}, to: {target} \x7d"
  | .unchanged => "Unchanged"
  | .cancelled => "Cancelled"

end Drag

end FilterChips
