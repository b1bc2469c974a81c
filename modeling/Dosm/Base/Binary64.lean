import Mathlib.Data.Int.Log
import Mathlib.Data.Rat.Floor
import Mathlib.Tactic.FieldSimp
import Mathlib.Tactic.Linarith
import Mathlib.Tactic.NormNum
import Mathlib.Tactic.Positivity
import Mathlib.Tactic.Ring

namespace Dosm.Binary64

/-! The numbers of binary64 among the rationals, and rounding to the nearest of them.

A number of the format is a multiple of a power of two, at most 2 ^ 53 times the power; the
least power is 2 ^ -1074. Between two of them the one with the even multiple is taken.
-/

/-- The nearest integer, of two the even one. -/
def roundEven (value : ℚ) : ℤ :=
  if value - ⌊value⌋ < 1 / 2 then ⌊value⌋
  else if 1 / 2 < value - ⌊value⌋ then ⌊value⌋ + 1
  else if ⌊value⌋ % 2 = 0 then ⌊value⌋ else ⌊value⌋ + 1

def exponent (value : ℚ) : ℤ := max (Int.log 2 |value| - 52) (-1074)

def nearest (value : ℚ) : ℚ := roundEven (value / 2 ^ exponent value) * 2 ^ exponent value

def largest : ℚ := (2 ^ 53 - 1 : ℤ) * 2 ^ (971 : ℤ)

structure Finite where
  value : ℚ
  exact : nearest value = value
  within : |value| ≤ largest

section Integers

variable {value larger : ℚ} {count : ℤ}

theorem roundEven_intCast (count : ℤ) : roundEven count = count := by
  simp [roundEven]

theorem floor_le_roundEven (value : ℚ) : ⌊value⌋ ≤ roundEven value := by
  unfold roundEven
  split_ifs <;> omega

theorem roundEven_le_floor (value : ℚ) : roundEven value ≤ ⌊value⌋ + 1 := by
  unfold roundEven
  split_ifs <;> omega

theorem roundEven_mono (ordered : value ≤ larger) : roundEven value ≤ roundEven larger := by
  rcases (Int.floor_mono ordered).lt_or_eq with below | same
  · have upper := roundEven_le_floor value
    have lower := floor_le_roundEven larger
    omega
  · unfold roundEven
    rw [← same]
    split_ifs <;> first | omega | linarith

theorem roundEven_neg (value : ℚ) : roundEven (-value) = -roundEven value := by
  by_cases whole : value = ⌊value⌋
  · rw [whole, ← Int.cast_neg, roundEven_intCast, roundEven_intCast]
  · have above : (⌊value⌋ : ℚ) < value := lt_of_le_of_ne (Int.floor_le value) (Ne.symm whole)
    have below := Int.lt_floor_add_one value
    have floor : ⌊-value⌋ = -⌊value⌋ - 1 := by
      rw [Int.floor_eq_iff]
      push_cast
      constructor <;> linarith
    unfold roundEven
    rw [floor]
    push_cast
    split_ifs <;> first | omega | linarith

theorem roundEven_le (bound : value ≤ count) : roundEven value ≤ count := by
  have rounded := roundEven_mono bound
  rwa [roundEven_intCast] at rounded

theorem le_roundEven (bound : count ≤ value) : count ≤ roundEven value := by
  have rounded := roundEven_mono bound
  rwa [roundEven_intCast] at rounded

end Integers

section Rounding

variable {value larger bound : ℚ} {count power : ℤ}

theorem power_pos (power : ℤ) : (0 : ℚ) < 2 ^ power := zpow_pos (by norm_num) _

theorem power_add (power : ℤ) (extra : ℕ) : (2 : ℚ) ^ (power + extra) = (2 ^ extra : ℤ) * 2 ^ power := by
  rw [zpow_add₀ (by norm_num), mul_comm, zpow_natCast, Int.cast_pow, Int.cast_ofNat]

theorem exponent_neg (value : ℚ) : exponent (-value) = exponent value := by
  rw [exponent, abs_neg, exponent]

theorem nearest_neg (value : ℚ) : nearest (-value) = -nearest value := by
  rw [nearest, exponent_neg, neg_div, roundEven_neg, nearest]
  push_cast
  ring

@[simp] theorem nearest_zero : nearest 0 = 0 := by
  have rounded := roundEven_intCast 0
  rw [Int.cast_zero] at rounded
  rw [nearest, zero_div, rounded, Int.cast_zero, zero_mul]

theorem minimum_le_exponent (value : ℚ) : -1074 ≤ exponent value := le_max_right _ _

theorem lt_power_exponent (value : ℚ) : |value| < 2 ^ (exponent value + 53) := by
  have counted := le_max_left (Int.log 2 |value| - 52) (-1074)
  calc |value| < 2 ^ (Int.log 2 |value| + 1) := Int.lt_zpow_succ_log_self (by decide) _
    _ ≤ 2 ^ (exponent value + 53) := zpow_le_zpow_right₀ (by norm_num) (by unfold exponent; omega)

theorem power_exponent_le (positive : 0 < value) (normal : -1074 < exponent value) :
    2 ^ (exponent value + 52) ≤ value := by
  have same : exponent value + 52 = Int.log 2 |value| := by
    unfold exponent at normal ⊢
    omega
  rw [same, abs_of_pos positive]
  exact_mod_cast Int.zpow_log_le_self (by decide) positive

theorem exponent_mono (positive : 0 < value) (ordered : value ≤ larger) : exponent value ≤ exponent larger := by
  have logs : Int.log 2 |value| ≤ Int.log 2 |larger| := by
    rw [abs_of_pos positive, abs_of_pos (positive.trans_le ordered)]
    exact Int.log_mono_right positive ordered
  unfold exponent
  omega

theorem exponent_le (bound : |value| < 2 ^ (power + 53)) (least : -1074 ≤ power) (nonzero : value ≠ 0) :
    exponent value ≤ power := by
  have counted : Int.log 2 |value| < power + 53 := by
    rw [← Int.lt_zpow_iff_log_lt (by decide) (abs_pos.mpr nonzero)]
    exact_mod_cast bound
  unfold exponent
  omega

theorem nearest_small (bound : |count| < 2 ^ 53) (least : -1074 ≤ power) :
    nearest (count * 2 ^ power) = count * 2 ^ power := by
  rcases eq_or_ne count 0 with rfl | nonzero
  · simp
  have size : |(count : ℚ) * 2 ^ power| < 2 ^ (power + 53) := by
    rw [abs_mul, abs_of_pos (power_pos power), add_comm, zpow_add₀ (by norm_num)]
    refine mul_lt_mul_of_pos_right ?_ (power_pos power)
    exact_mod_cast bound
  have nonzero : (count : ℚ) * 2 ^ power ≠ 0 :=
    mul_ne_zero (Int.cast_ne_zero.mpr nonzero) (power_pos power).ne'
  obtain ⟨extra, split⟩ := Int.le.dest (exponent_le size least nonzero)
  have whole : (count : ℚ) * 2 ^ power / 2 ^ exponent (count * 2 ^ power) = (count * 2 ^ extra : ℤ) := by
    rw [div_eq_iff (power_pos _).ne']
    push_cast
    rw [mul_assoc, ← zpow_natCast, ← zpow_add₀ (by norm_num), add_comm (extra : ℤ), split]
  rw [nearest, whole, roundEven_intCast, ← whole, div_mul_cancel₀ _ (power_pos _).ne']

theorem nearest_exact (bound : |count| ≤ 2 ^ 53) (least : -1074 ≤ power) :
    nearest (count * 2 ^ power) = count * 2 ^ power := by
  rcases bound.lt_or_eq with less | full
  · exact nearest_small less least
  · have parts : ∃ part, count = part * 2 := ⟨count / 2, by grind⟩
    have half : (count : ℚ) * 2 ^ power = (count / 2 : ℤ) * 2 ^ (power + 1) := by
      obtain ⟨part, rfl⟩ := parts
      rw [Int.mul_ediv_cancel _ (by decide), zpow_add_one₀ (by norm_num)]
      push_cast
      ring
    rw [half]
    exact nearest_small (by grind) (by omega)

theorem nearest_intCast (bound : |count| ≤ 2 ^ 53) : nearest count = count := by
  have exact := @nearest_exact count 0 bound (by decide)
  rwa [zpow_zero, mul_one] at exact

theorem nearest_nonneg (nonneg : 0 ≤ value) : 0 ≤ nearest value := by
  have rounded : 0 ≤ roundEven (value / 2 ^ exponent value) := by
    apply le_roundEven
    rw [Int.cast_zero]
    exact div_nonneg nonneg (power_pos _).le
  exact mul_nonneg (Int.cast_nonneg rounded) (power_pos _).le

theorem nearest_le_power (value : ℚ) : nearest value ≤ 2 ^ (exponent value + 53) := by
  have scaled : value / 2 ^ exponent value ≤ (2 ^ 53 : ℤ) := by
    rw [div_le_iff₀ (power_pos _), ← power_add]
    exact (le_abs_self value).trans (lt_power_exponent value).le
  have rounded : (roundEven (value / 2 ^ exponent value) : ℚ) ≤ (2 ^ 53 : ℤ) :=
    Int.cast_le.mpr (roundEven_le scaled)
  calc nearest value ≤ (2 ^ 53 : ℤ) * 2 ^ exponent value := mul_le_mul_of_nonneg_right rounded (power_pos _).le
    _ = 2 ^ (exponent value + 53) := (power_add _ 53).symm

theorem power_le_nearest (positive : 0 < value) (normal : -1074 < exponent value) :
    2 ^ (exponent value + 52) ≤ nearest value := by
  have scaled : (2 ^ 52 : ℤ) ≤ value / 2 ^ exponent value := by
    rw [le_div_iff₀ (power_pos _), ← power_add]
    exact power_exponent_le positive normal
  have rounded : ((2 ^ 52 : ℤ) : ℚ) ≤ roundEven (value / 2 ^ exponent value) := Int.cast_le.mpr (le_roundEven scaled)
  calc (2 : ℚ) ^ (exponent value + 52) = (2 ^ 52 : ℤ) * 2 ^ exponent value := power_add _ 52
    _ ≤ nearest value := mul_le_mul_of_nonneg_right rounded (power_pos _).le

theorem nearest_mono_pos (positive : 0 < value) (ordered : value ≤ larger) : nearest value ≤ nearest larger := by
  rcases (exponent_mono positive ordered).lt_or_eq with below | same
  · have normal : -1074 < exponent larger := (minimum_le_exponent value).trans_lt below
    calc nearest value ≤ 2 ^ (exponent value + 53) := nearest_le_power value
      _ ≤ 2 ^ (exponent larger + 52) := zpow_le_zpow_right₀ (by norm_num) (by omega)
      _ ≤ nearest larger := power_le_nearest (positive.trans_le ordered) normal
  · rw [nearest, nearest, ← same]
    refine mul_le_mul_of_nonneg_right (Int.cast_le.mpr (roundEven_mono ?_)) (power_pos _).le
    exact div_le_div_of_nonneg_right ordered (power_pos _).le

theorem nearest_mono (ordered : value ≤ larger) : nearest value ≤ nearest larger := by
  rcases lt_trichotomy value 0 with negative | rfl | positive
  · rcases lt_or_ge larger 0 with below | above
    · have mirrored := nearest_mono_pos (neg_pos.mpr below) (neg_le_neg ordered)
      rw [nearest_neg, nearest_neg] at mirrored
      exact neg_le_neg_iff.mp mirrored
    · have mirrored := nearest_nonneg (neg_pos.mpr negative).le
      rw [nearest_neg] at mirrored
      exact (neg_nonneg.mp mirrored).trans (nearest_nonneg above)
  · rw [nearest_zero]
    exact nearest_nonneg ordered
  · exact nearest_mono_pos positive ordered

theorem nearest_nearest (value : ℚ) : nearest (nearest value) = nearest value := by
  refine nearest_exact ?_ (minimum_le_exponent value)
  have scaled : |value / 2 ^ exponent value| ≤ (2 ^ 53 : ℤ) := by
    rw [abs_div, abs_of_pos (power_pos _), div_le_iff₀ (power_pos _), ← power_add]
    exact (lt_power_exponent value).le
  rw [abs_le] at scaled ⊢
  have lower : ((-2 ^ 53 : ℤ) : ℚ) ≤ value / 2 ^ exponent value := by exact_mod_cast scaled.1
  exact ⟨le_roundEven lower, roundEven_le scaled.2⟩

theorem nearest_largest : nearest largest = largest := nearest_exact (by decide) (by decide)

theorem abs_nearest_le (exact : nearest bound = bound) (within : |value| ≤ bound) : |nearest value| ≤ bound := by
  rw [abs_le] at within ⊢
  constructor
  · have lower := nearest_mono within.1
    rwa [nearest_neg, exact] at lower
  · have upper := nearest_mono within.2
    rwa [exact] at upper

end Rounding

/-! The numbers as a type. -/

/-- The nearest number, unless it is beyond the largest. -/
def toFinite (value : ℚ) : Option Finite :=
  if within : |nearest value| ≤ largest then some ⟨nearest value, nearest_nearest value, within⟩ else none

theorem toFinite_of_le {value : ℚ} (within : |value| ≤ largest) :
    ∃ number, toFinite value = some number ∧ number.value = nearest value := by
  unfold toFinite
  rw [dif_pos (abs_nearest_le nearest_largest within)]
  exact ⟨_, rfl, rfl⟩

theorem largest_eq : largest = ((2 ^ 53 - 1) * 2 ^ 971 : ℤ) := by
  rw [largest, Int.cast_mul, Int.cast_pow, Int.cast_ofNat]
  rfl

theorem intCast_le_largest {count : ℤ} (bound : |count| ≤ 2 ^ 53) : |(count : ℚ)| ≤ largest := by
  have wide : (2 ^ 53 : ℤ) ≤ (2 ^ 53 - 1) * 2 ^ 971 := by decide +kernel
  rw [largest_eq]
  exact_mod_cast bound.trans wide

namespace Finite

def ofInt (count : ℤ) (bound : |count| ≤ 2 ^ 53) : Finite := ⟨count, nearest_intCast bound, intCast_le_largest bound⟩

def neg (number : Finite) : Finite where
  value := -number.value
  exact := by rw [nearest_neg, number.exact]
  within := by
    rw [abs_neg]
    exact number.within

end Finite

/-- The nearest value with so many decimals, of two the even one. -/
def roundDecimal (decimals : ℕ) (value : ℚ) : ℚ := roundEven (value * 10 ^ decimals) / 10 ^ decimals

section Decimals

variable {decimals : ℕ} {value bound : ℚ} {count : ℤ}

theorem roundDecimal_le (bounded : value ≤ count) : roundDecimal decimals value ≤ count := by
  have scaled : value * 10 ^ decimals ≤ (count * 10 ^ decimals : ℤ) := by
    push_cast
    exact mul_le_mul_of_nonneg_right bounded (by positivity)
  have rounded : (roundEven (value * 10 ^ decimals) : ℚ) ≤ (count * 10 ^ decimals : ℤ) :=
    Int.cast_le.mpr (roundEven_le scaled)
  rw [roundDecimal, div_le_iff₀ (by positivity)]
  exact_mod_cast rounded

theorem le_roundDecimal (bounded : count ≤ value) : count ≤ roundDecimal decimals value := by
  have scaled : (count * 10 ^ decimals : ℤ) ≤ value * 10 ^ decimals := by
    push_cast
    exact mul_le_mul_of_nonneg_right bounded (by positivity)
  have rounded : ((count * 10 ^ decimals : ℤ) : ℚ) ≤ roundEven (value * 10 ^ decimals) :=
    Int.cast_le.mpr (le_roundEven scaled)
  rw [roundDecimal, le_div_iff₀ (by positivity)]
  exact_mod_cast rounded

theorem abs_roundDecimal_le (bounded : |value| ≤ count) : |roundDecimal decimals value| ≤ count := by
  rw [abs_le] at bounded ⊢
  have lower : ((-count : ℤ) : ℚ) ≤ value := by exact_mod_cast bounded.1
  have rounded := @le_roundDecimal decimals value _ lower
  exact ⟨by exact_mod_cast rounded, roundDecimal_le bounded.2⟩

theorem abs_nearest_roundDecimal_le (within : |value| ≤ largest) : |nearest (roundDecimal decimals value)| ≤ largest := by
  refine abs_nearest_le nearest_largest ?_
  rw [largest_eq] at within ⊢
  exact abs_roundDecimal_le within

/-- Rounding to decimals stays within the format. -/
def Finite.roundTo (decimals : ℕ) (number : Finite) : Finite :=
  ⟨nearest (roundDecimal decimals number.value), nearest_nearest _, abs_nearest_roundDecimal_le number.within⟩

theorem Finite.roundTo_le {number : Finite} (bound : |count| ≤ 2 ^ 53) (bounded : number.value ≤ count) :
    (number.roundTo decimals).value ≤ count := by
  have rounded := nearest_mono (@roundDecimal_le decimals _ _ bounded)
  rwa [nearest_intCast bound] at rounded

theorem Finite.le_roundTo {number : Finite} (bound : |count| ≤ 2 ^ 53) (bounded : count ≤ number.value) :
    count ≤ (number.roundTo decimals).value := by
  have rounded := nearest_mono (@le_roundDecimal decimals _ _ bounded)
  rwa [nearest_intCast bound] at rounded

end Decimals

end Dosm.Binary64
