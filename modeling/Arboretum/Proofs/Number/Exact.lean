import Mathlib.Analysis.Real.Sqrt
import Mathlib.Analysis.SpecialFunctions.Trigonometric.Basic
import Arboretum.Number.Scalar

/-!
The real numbers as a number system in which nothing is rounded. The rules of growth and of
animation are read over them where a law is about exact arithmetic.
-/

namespace Arboretum

set_option autoImplicit false

noncomputable instance : Scalar ℝ where
  decideLt _ _ := inferInstance
  decideLe _ _ := inferInstance
  isFinite _ := true
  isNaN _ := false
  squareRoot := Real.sqrt
  sine := Real.sin
  cosine := Real.cos
  halfTurn := Real.pi
  integerPart value := if 0 ≤ value then ⌊value⌋ else ⌈value⌉
  ceiling value := ⌈value⌉
  wholeQuotient value period := ⌊value / period⌋
  remainder value period := value - period * ⌊value / period⌋
  ofInt? value := some value
  ofRatio? dividend divisor := some (dividend / divisor)
  diagonal width height := Real.sqrt (width * width + height * height)

namespace Exact

theorem zero_eq : (0.0 : ℝ) = 0 := by norm_num

theorem one_eq : (1.0 : ℝ) = 1 := by norm_num

theorem larger_eq (first second : ℝ) : Scalar.larger first second = max first second := by
  rw [Scalar.larger]
  split
  · rename_i less
    exact (max_eq_right (le_of_lt less)).symm
  · rename_i atLeast
    exact (max_eq_left (not_lt.mp atLeast)).symm

theorem smaller_eq (first second : ℝ) : Scalar.smaller first second = min first second := by
  rw [Scalar.smaller]
  split
  · rename_i less
    exact (min_eq_right (le_of_lt less)).symm
  · rename_i atLeast
    exact (min_eq_left (not_lt.mp atLeast)).symm

theorem quotient_eq {dividend divisor : ℝ} (nonzero : divisor ≠ 0) :
    Scalar.quotient dividend divisor = .ok (dividend / divisor) := by
  rw [Scalar.quotient, if_neg]
  intro same
  exact nonzero ((eq_of_beq same).trans zero_eq)

end Exact

end Arboretum
