/-
Numbers that metric values are computed with. The library is written once for every such
type: programs run with binary floating point, exact statements are made with rationals.
-/

namespace CrateMetrics

/-- Arithmetic and comparison of metric values. Comparisons with a value that is not a
number are false. -/
class Scalar (α : Type) extends Add α, Mul α, Div α where
  ofCount : Nat → α
  lt : α → α → Bool
  le : α → α → Bool

/-- The larger of two numbers, the second of two equal ones. What is not a number gives way
to the other. -/
def Scalar.larger {α : Type} [Scalar α] (left right : α) : α :=
  if Scalar.lt right left then left
  else if Scalar.le right right then right
  else left

instance : Scalar Float where
  ofCount := Float.ofNat
  lt left right := left < right
  le left right := left ≤ right

end CrateMetrics
