import Mathlib.Data.Rat.Floor
import Mathlib.Algebra.Order.Field.Basic
import Mathlib.Tactic.Linarith
import Mathlib.Tactic.FieldSimp

set_option autoImplicit false

namespace Decimals

def numeric (scale : Nat) (value : Rat) : Rat :=
  let digits := ⌊|value| * 10 ^ scale + 1 / 2⌋
  (if 0 ≤ value then digits else -digits) / 10 ^ scale

variable {scale : Nat} {value : Rat} {digits : Int}

theorem tenth_pos (scale : Nat) : (0 : Rat) < 10 ^ scale := by positivity

theorem le_numeric_iff (positive : 0 < digits) :
    (digits : Rat) / 10 ^ scale ≤ numeric scale value ↔
      ((digits : Rat) - 1 / 2) / 10 ^ scale ≤ value := by
  have unit := tenth_pos scale
  have one : (1 : Rat) ≤ digits := by exact_mod_cast positive
  rw [numeric, div_le_div_iff_of_pos_right unit, div_le_iff₀ unit]
  by_cases sign : 0 ≤ value
  · rw [if_pos sign, abs_of_nonneg sign, Int.cast_le, Int.le_floor]
    constructor <;> intro bound <;> linarith
  · have negative := not_le.mp sign
    rw [if_neg sign]
    have below : value * 10 ^ scale < 0 := mul_neg_of_neg_of_pos negative unit
    have floored : 0 ≤ ⌊|value| * 10 ^ scale + 1 / 2⌋ := Int.floor_nonneg.mpr (by positivity)
    have cast : ((-⌊|value| * 10 ^ scale + 1 / 2⌋ : Int) : Rat) ≤ 0 := by
      exact_mod_cast neg_nonpos.mpr floored
    constructor <;> intro bound <;> linarith

theorem lt_numeric_iff (positive : 0 < digits) :
    (digits : Rat) / 10 ^ scale < numeric scale value ↔
      ((digits : Rat) + 1 / 2) / 10 ^ scale ≤ value := by
  have unit := tenth_pos scale
  have next : (digits : Rat) / 10 ^ scale < numeric scale value ↔
      ((digits + 1 : Int) : Rat) / 10 ^ scale ≤ numeric scale value := by
    rw [numeric, div_lt_div_iff_of_pos_right unit, div_le_div_iff_of_pos_right unit]
    rw [Int.cast_lt, Int.cast_le, Int.add_one_le_iff]
  rw [next, le_numeric_iff (by omega), Int.cast_add, Int.cast_one]
  have same : (digits : Rat) + 1 - 1 / 2 = digits + 1 / 2 := by ring
  rw [same]

end Decimals
