import Mathlib.Algebra.Order.Field.Basic
import Mathlib.Algebra.Order.Group.MinMax
import Mathlib.Tactic.GCongr
import Mathlib.Tactic.Linarith
import Mathlib.Tactic.Ring

/-
Curves that change no faster than a given rate.

A curve put together from pieces has the rate of its pieces as long as they
meet where one gives way to the next; capping a curve, raising it to a floor,
moving it or scaling it down never makes it faster.
-/

namespace Fffb

variable {K : Type*} [Field K] [LinearOrder K] [IsStrictOrderedRing K]

/-- Over any distance the curve changes by at most the rate times the distance. -/
def Steady (rate : K) (curve : K → K) : Prop :=
  ∀ left right, |curve left - curve right| ≤ rate * |left - right|

namespace Steady

variable {rate : K} {curve before after : K → K}

theorem of_le {smaller : K} (steady : Steady smaller curve) (le : smaller ≤ rate) :
    Steady rate curve := by
  intro left right
  calc |curve left - curve right|
      ≤ smaller * |left - right| := steady left right
    _ ≤ rate * |left - right| := by gcongr

theorem of_line (offset slope : K) (line : ∀ point, curve point = offset + slope * point)
    (bound : |slope| ≤ rate) : Steady rate curve := by
  intro left right
  have difference : curve left - curve right = slope * (left - right) := by
    rw [line, line]
    ring
  rw [difference, abs_mul]
  gcongr

theorem cap (steady : Steady rate curve) (top : K) :
    Steady rate fun point => min top (curve point) := by
  intro left right
  have capped := abs_min_sub_min_le_max top (curve left) top (curve right)
  rw [sub_self, abs_zero, max_eq_right (abs_nonneg _)] at capped
  exact capped.trans (steady left right)

theorem raise (steady : Steady rate curve) (bottom : K) :
    Steady rate fun point => max (curve point) bottom := by
  intro left right
  exact (abs_max_sub_max_le_abs _ _ _).trans (steady left right)

omit [IsStrictOrderedRing K] in
theorem shift (steady : Steady rate curve) (offset : K) :
    Steady rate fun point => offset + curve point := by
  intro left right
  rw [add_sub_add_left_eq_sub]
  exact steady left right

theorem scale (steady : Steady rate curve) (factor : K) :
    Steady (rate * |factor|) fun point => curve point * factor := by
  intro left right
  rw [← sub_mul, abs_mul, mul_right_comm]
  exact mul_le_mul_of_nonneg_right (steady left right) (abs_nonneg factor)

/-- Two points on either side of the joint are as far from each other as they
are from the joint together, and there the pieces meet. -/
private theorem across {joint left right : K} (meet : before joint = after joint)
    (first : Steady rate before) (second : Steady rate after) (below : left ≤ joint)
    (above : joint ≤ right) : |before left - after right| ≤ rate * |left - right| := by
  have apart : |left - joint| + |joint - right| = |left - right| := by
    rw [abs_of_nonpos (by linarith), abs_of_nonpos (by linarith), abs_of_nonpos (by linarith)]
    ring
  calc |before left - after right|
      ≤ |before left - before joint| + |before joint - after right| := abs_sub_le _ _ _
    _ = |before left - before joint| + |after joint - after right| := by rw [meet]
    _ ≤ rate * |left - joint| + rate * |joint - right| :=
        add_le_add (first left joint) (second joint right)
    _ = rate * |left - right| := by rw [← mul_add, apart]

theorem glue {joint : K} (meet : before joint = after joint) (first : Steady rate before)
    (second : Steady rate after) :
    Steady rate fun point => if point ≤ joint then before point else after point := by
  intro left right
  dsimp only
  split_ifs with leftBelow rightBelow rightBelow
  · exact first left right
  · exact across meet first second leftBelow (le_of_not_ge rightBelow)
  · rw [abs_sub_comm, abs_sub_comm left right]
    exact across meet first second rightBelow (le_of_not_ge leftBelow)
  · exact second left right

end Steady

end Fffb
