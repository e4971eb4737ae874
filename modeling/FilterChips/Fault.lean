/-
FilterChips.Fault — the ways in which an operation can be refused because its caller broke a promise
or its result is out of range.
-/
namespace FilterChips

/-- Why an operation has no result. -/
inductive Fault where
  /-- A drag was begun while another one was active. -/
  | dragActive
  /-- A size on the screen passed the largest number of rows or columns. -/
  | sizeOverflow
  deriving DecidableEq, Repr

/-- The wording of a fault. -/
def Fault.message : Fault → String
  | .dragActive => "begin_drag called while a drag is already active"
  | .sizeOverflow => "attempt to add with overflow"

end FilterChips
