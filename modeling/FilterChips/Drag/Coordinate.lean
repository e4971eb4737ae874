/-
FilterChips.Drag.Coordinate — the numbers in which positions on the drag surface are measured.

Geometry uses a handful of operations, so that it can be read both over double-precision numbers,
where it runs, and over exact ones.
-/
import FilterChips.Number.Double

namespace FilterChips

/-- Numbers that can serve as coordinates. -/
class Coordinate (α : Type) extends Add α, Sub α, Mul α, LT α, LE α, Min α, Max α where
  /-- A natural number as a coordinate. -/
  ofNat : Nat → α
  /-- Half of a number. -/
  half : α → α
  /-- Whether the straight way over `dx` across and `dy` down is shorter than a limit. -/
  shorterThan : (dx dy limit : α) → Bool
  /-- The whole number that names the row of a top edge. -/
  rowKey : α → Int
  decideLt : DecidableLT α
  decideLe : DecidableLE α

namespace Coordinate

instance {α : Type} [Coordinate α] : DecidableLT α := decideLt

instance {α : Type} [Coordinate α] : DecidableLE α := decideLe

end Coordinate

/-- Double-precision coordinates; rows are named by the nearest integer of 64 bits. -/
instance : Coordinate Double where
  ofNat := Double.ofNat
  half := Double.half
  shorterThan dx dy limit := Double.hypot dx dy < limit
  rowKey := Double.roundToInt64
  decideLt := Double.decideLt
  decideLe := Double.decideLe

end FilterChips
