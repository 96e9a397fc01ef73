import Fffb.Hid.Report
import Mathlib.Algebra.Order.Field.Rat
import Mathlib.Data.Rat.Floor

/-
The floating-point arithmetic of the simulator, as a parameter.

`F` holds the values of a double.  A float is a double that `single` leaves
alone, and an operation that the source performs on floats is the operation on
doubles followed by `single`.  Comparisons may be false both ways, so that a
not-a-number is admitted.  On the rationals every operation is exact.
-/

namespace Fffb

class FloatArith (F : Type) extends Neg F, Add F, Sub F, Mul F, Div F, LT F, LE F, BEq F where
  /-- A literal of the source. -/
  lit : ℚ → F
  /-- Rounding to single precision. -/
  single : F → F
  /-- `static_cast` to an unsigned byte. -/
  toU8 : F → U8
  /-- `static_cast` to an `int`. -/
  toInt : F → Int
  decidableLT : DecidableRel (fun left right : F => left < right)
  decidableLE : DecidableRel (fun left right : F => left ≤ right)

namespace FloatArith

variable {F : Type} [FloatArith F]

scoped instance (left right : F) : Decidable (left < right) := decidableLT left right

scoped instance (left right : F) : Decidable (left ≤ right) := decidableLE left right

end FloatArith

/-- Truncation toward zero. -/
def truncate (value : ℚ) : Int := value.num.tdiv value.den

instance : FloatArith ℚ where
  lit value := value
  single value := value
  toU8 value := BitVec.ofInt 8 (truncate value)
  toInt := truncate
  decidableLT := inferInstance
  decidableLE := inferInstance

end Fffb
