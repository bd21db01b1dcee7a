import DocumentQuery.Number.Binary64
import DocumentQuery.Number.Shortest
import Mathlib.Algebra.Order.Group.Int
import Mathlib.Order.Compare
import Mathlib.Order.Monotone.Odd

/-! Rounding of integers. The magnitude of a double-precision number, which orders it by its bits,
is read as a multiple of the smallest positive number. So read, the magnitude of an integer is the
integer rounded to a significand of 53 bits, and integers are compared as they are after rounding.
Rounding keeps their order but not all their differences; an integer is alone when it is told from
all others.
-/

set_option autoImplicit false

namespace DocumentQuery.Binary64

/-- How many of the last bits of a number do not fit a significand of 53 bits. -/
def surplus (n : Nat) : Nat :=
  n.log2 - 52

/-- A number rounded to a significand of 53 bits, a half to the even one. -/
def roundNat (n : Nat) : Nat :=
  roundQuotient n (1 <<< surplus n) <<< surplus n

section Quotient

variable {num num' den bound : Nat}

theorem le_roundQuotient (num den : Nat) : num / den ≤ roundQuotient num den := by
  simp only [roundQuotient]
  split <;> omega

theorem roundQuotient_le (num den : Nat) : roundQuotient num den ≤ num / den + 1 := by
  simp only [roundQuotient]
  split <;> omega

theorem le_roundQuotient_of_mul_le (positive : 0 < den) (le : bound * den ≤ num) :
    bound ≤ roundQuotient num den :=
  ((Nat.le_div_iff_mul_le positive).2 le).trans (le_roundQuotient num den)

theorem roundQuotient_le_of_lt_mul (positive : 0 < den) (lt : num < bound * den) :
    roundQuotient num den ≤ bound :=
  (roundQuotient_le num den).trans ((Nat.div_lt_iff_lt_mul positive).2 lt)

theorem roundQuotient_of_dvd (positive : 0 < den) (divides : den ∣ num) :
    roundQuotient num den = num / den := by
  have rest : num % den = 0 := Nat.mod_eq_zero_of_dvd divides
  simp only [roundQuotient, rest]
  rw [if_pos (.inl positive)]

theorem roundQuotient_one (num : Nat) : roundQuotient num 1 = num := by
  rw [roundQuotient_of_dvd Nat.one_pos (Nat.one_dvd num), Nat.div_one]

theorem roundQuotient_mono (le : num ≤ num') : roundQuotient num den ≤ roundQuotient num' den := by
  have floors : num / den ≤ num' / den := Nat.div_le_div_right le
  rcases Nat.lt_or_eq_of_le floors with lower | same
  · exact (roundQuotient_le num den).trans (Nat.le_trans lower (le_roundQuotient num' den))
  · -- With one floor in common, the larger rest is rounded up if the smaller one is.
    have rests : num % den ≤ num' % den := by
      have whole := Nat.div_add_mod num den
      have whole' := Nat.div_add_mod num' den
      rw [← same] at whole'
      omega
    simp only [roundQuotient, ← same]
    split <;> split <;> omega

end Quotient

section Naturals

variable {n m : Nat}

theorem one_shiftLeft_pos (k : Nat) : 0 < 1 <<< k := by
  rw [Nat.one_shiftLeft]
  exact Nat.two_pow_pos k

theorem shiftLeft_mono (le : n ≤ m) (k : Nat) : n <<< k ≤ m <<< k := by
  rw [Nat.shiftLeft_eq, Nat.shiftLeft_eq]
  exact Nat.mul_le_mul_right _ le

theorem one_shiftLeft_mono (le : n ≤ m) : 1 <<< n ≤ 1 <<< m := by
  rw [Nat.one_shiftLeft, Nat.one_shiftLeft]
  exact Nat.pow_le_pow_right Nat.two_pos le

theorem one_shiftLeft_mul (j k : Nat) : 1 <<< j * 1 <<< k = 1 <<< (j + k) := by
  rw [Nat.one_shiftLeft, Nat.one_shiftLeft, Nat.one_shiftLeft, Nat.pow_add]

theorem one_shiftLeft_log2_le (positive : n ≠ 0) : 1 <<< n.log2 ≤ n := by
  rw [Nat.one_shiftLeft]
  exact Nat.log2_self_le positive

theorem lt_one_shiftLeft_log2 (n : Nat) : n < 1 <<< (n.log2 + 1) := by
  rw [Nat.one_shiftLeft]
  exact Nat.lt_log2_self

theorem one_shiftLeft_log2_le_roundNat (positive : n ≠ 0) : 1 <<< n.log2 ≤ roundNat n := by
  have split : n.log2 = (n.log2 - surplus n) + surplus n := by
    rw [surplus]
    omega
  have le : 1 <<< (n.log2 - surplus n) * 1 <<< surplus n ≤ n := by
    rw [one_shiftLeft_mul, ← split]
    exact one_shiftLeft_log2_le positive
  calc 1 <<< n.log2 = 1 <<< (n.log2 - surplus n) <<< surplus n := by
        rw [← Nat.shiftLeft_add, ← split]
    _ ≤ roundNat n := shiftLeft_mono (le_roundQuotient_of_mul_le (one_shiftLeft_pos _) le) _

theorem roundNat_le_one_shiftLeft_log2 (n : Nat) : roundNat n ≤ 1 <<< (n.log2 + 1) := by
  have split : n.log2 + 1 = (n.log2 + 1 - surplus n) + surplus n := by
    rw [surplus]
    omega
  have lt : n < 1 <<< (n.log2 + 1 - surplus n) * 1 <<< surplus n := by
    rw [one_shiftLeft_mul, ← split]
    exact lt_one_shiftLeft_log2 n
  calc roundNat n ≤ 1 <<< (n.log2 + 1 - surplus n) <<< surplus n :=
        shiftLeft_mono (roundQuotient_le_of_lt_mul (one_shiftLeft_pos _) lt) _
    _ = 1 <<< (n.log2 + 1) := by rw [← Nat.shiftLeft_add, ← split]

theorem log2_mono (le : n ≤ m) : n.log2 ≤ m.log2 := by
  rcases Nat.eq_zero_or_pos n with rfl | positive
  · exact Nat.zero_le _
  · exact (Nat.le_log2 (by omega)).2 ((Nat.log2_self_le (by omega)).trans le)

theorem roundNat_mono (le : n ≤ m) : roundNat n ≤ roundNat m := by
  rcases Nat.eq_zero_or_pos m with rfl | positive
  · rw [Nat.le_zero.1 le]
  · rcases Nat.lt_or_eq_of_le (log2_mono le) with lower | same
    · calc roundNat n ≤ 1 <<< (n.log2 + 1) := roundNat_le_one_shiftLeft_log2 n
        _ ≤ 1 <<< m.log2 := one_shiftLeft_mono lower
        _ ≤ roundNat m := one_shiftLeft_log2_le_roundNat (by omega)
    · rw [roundNat, roundNat, surplus, surplus, same]
      exact shiftLeft_mono (roundQuotient_mono le) _

theorem roundNat_of_dvd (divides : 1 <<< surplus n ∣ n) : roundNat n = n := by
  rw [roundNat, roundQuotient_of_dvd (one_shiftLeft_pos _) divides, Nat.shiftLeft_eq,
    ← Nat.one_shiftLeft, Nat.div_mul_cancel divides]

theorem roundNat_shiftLeft {s : Nat} (small : s ≤ 1 <<< 53) (k : Nat) :
    roundNat (s <<< k) = s <<< k := by
  apply roundNat_of_dvd
  rcases Nat.lt_or_eq_of_le small with lower | rfl
  · have le : surplus (s <<< k) ≤ k := by
      have lt : s <<< k < 1 <<< (53 + k) := by
        rw [← one_shiftLeft_mul, Nat.shiftLeft_eq, ← Nat.one_shiftLeft]
        exact Nat.mul_lt_mul_of_pos_right lower (one_shiftLeft_pos k)
      rcases Nat.eq_zero_or_pos (s <<< k) with zero | positive
      · rw [zero, surplus, Nat.log2_zero]
        omega
      · rw [Nat.one_shiftLeft] at lt
        have log := (Nat.log2_lt (by omega)).2 lt
        rw [surplus]
        omega
    rw [Nat.shiftLeft_eq s, Nat.one_shiftLeft]
    exact Nat.dvd_mul_left_of_dvd (Nat.pow_dvd_pow 2 (by rwa [← Nat.shiftLeft_eq])) s
  · rw [← Nat.shiftLeft_add, Nat.one_shiftLeft, Nat.one_shiftLeft, surplus, Nat.log2_two_pow]
    exact Nat.pow_dvd_pow 2 (by omega)

theorem roundNat_of_le (small : n ≤ 1 <<< 53) : roundNat n = n :=
  roundNat_shiftLeft small 0

/-- The significand of a rounded number has 53 bits, or it is the power of two after those. -/
theorem roundQuotient_surplus_le (n : Nat) : roundQuotient n (1 <<< surplus n) ≤ 1 <<< 53 := by
  apply roundQuotient_le_of_lt_mul (one_shiftLeft_pos _)
  rw [one_shiftLeft_mul]
  refine (lt_one_shiftLeft_log2 n).trans_le (one_shiftLeft_mono ?_)
  rw [surplus]
  omega

theorem roundNat_roundNat (n : Nat) : roundNat (roundNat n) = roundNat n :=
  roundNat_shiftLeft (roundQuotient_surplus_le n) _

end Naturals

section Magnitudes

variable {n m : Nat}

/-- The value of a finite magnitude, counted in the smallest positive number. -/
def units (magnitude : Nat) : Nat :=
  (significand magnitude).1 <<< ((significand magnitude).2 + 1074).natAbs

theorem units_of_lt {magnitude : Nat} (small : magnitude < 1 <<< 52) :
    units magnitude = magnitude := by
  have exponent : magnitude >>> 52 = 0 := by omega
  simp [units, significand, exponent]

theorem units_of_le {magnitude : Nat} (large : 1 <<< 52 ≤ magnitude) :
    units magnitude = (magnitude % (1 <<< 52) + (1 <<< 52)) <<< (magnitude >>> 52 - 1) := by
  have exponent : magnitude >>> 52 ≠ 0 := by omega
  have places : (((magnitude >>> 52 : Nat) : Int) - 1075 + 1074).natAbs = magnitude >>> 52 - 1 := by
    omega
  simp only [units, significand, if_neg exponent, places]

/-- A significand of 53 bits is put together with an exponent, and the greatest carries into it. -/
theorem units_add {s : Nat} (low : 1 <<< 52 ≤ s) (high : s ≤ 1 <<< 53) (exponent : Nat) :
    units (s + exponent <<< 52) = s <<< exponent := by
  have width : (1 <<< 52 : Nat) = 4503599627370496 := rfl
  rw [units_of_le (by omega), width]
  rcases Nat.lt_or_eq_of_le high with lower | whole
  · have place : (s + exponent <<< 52) >>> 52 - 1 = exponent := by omega
    have rest : (s + exponent <<< 52) % 4503599627370496 + 4503599627370496 = s := by omega
    rw [place, rest]
  · have place : (s + exponent <<< 52) >>> 52 - 1 = 1 + exponent := by omega
    have rest : (s + exponent <<< 52) % 4503599627370496 + 4503599627370496 = 1 <<< 52 := by omega
    rw [place, rest, Nat.shiftLeft_add, whole, ← Nat.shiftLeft_add 1]

theorem units_strictMono : StrictMono units := by
  have width : (1 <<< 52 : Nat) = 4503599627370496 := rfl
  refine strictMono_nat_of_lt_succ fun magnitude => ?_
  rcases Nat.lt_trichotomy (magnitude + 1) (1 <<< 52) with small | next | large
  · rw [units_of_lt small, units_of_lt (Nat.lt_of_succ_lt small)]
    exact Nat.lt_succ_self magnitude
  · have least : units (1 <<< 52 + 0 <<< 52) = 1 <<< 52 <<< 0 :=
      units_add (Nat.le_refl _) (by omega) 0
    rw [Nat.zero_shiftLeft, Nat.shiftLeft_zero, Nat.add_zero] at least
    rw [next, least, units_of_lt (by omega)]
    omega
  · -- The next significand goes with the same exponent.
    have whole :
        magnitude = (magnitude % (1 <<< 52) + 1 <<< 52) + (magnitude >>> 52 - 1) <<< 52 := by
      rw [width]
      omega
    have low : 1 <<< 52 ≤ magnitude % (1 <<< 52) + 1 <<< 52 := Nat.le_add_left _ _
    have high : magnitude % (1 <<< 52) + 1 <<< 52 < 1 <<< 53 := by
      rw [width]
      omega
    generalize magnitude % (1 <<< 52) + 1 <<< 52 = s at whole low high
    generalize magnitude >>> 52 - 1 = exponent at whole
    rw [whole, Nat.add_right_comm, units_add low (Nat.le_of_lt high),
      units_add (Nat.le_succ_of_le low) high, Nat.shiftLeft_eq, Nat.shiftLeft_eq]
    exact Nat.mul_lt_mul_of_pos_right (Nat.lt_succ_self s) (Nat.two_pow_pos exponent)

theorem floorLog2_one (positive : n ≠ 0) : floorLog2 n 1 = n.log2 := by
  have reached : ¬ n < 1 <<< n.log2 := Nat.not_lt.2 (one_shiftLeft_log2_le positive)
  have nonneg : ¬ (n.log2 : Int) < 0 := by omega
  have one : (1 : Nat).log2 = 0 := by decide
  simp only [floorLog2, scaleDown, one, Int.natCast_zero, Int.sub_zero, if_neg nonneg,
    Int.natAbs_natCast, if_neg reached]

/-- A number brought to 53 bits at least has a significand of as many bits, or the power of two
after these. -/
theorem roundQuotient_widened (positive : n ≠ 0) :
    1 <<< 52 ≤ roundQuotient (n <<< (52 - n.log2)) (1 <<< surplus n) ∧
      roundQuotient (n <<< (52 - n.log2)) (1 <<< surplus n) ≤ 1 <<< 53 := by
  have low : n.log2 + (52 - n.log2) = 52 + surplus n := by
    rw [surplus]
    omega
  have high : n.log2 + 1 + (52 - n.log2) = 53 + surplus n := by omega
  constructor
  · apply le_roundQuotient_of_mul_le (one_shiftLeft_pos _)
    rw [one_shiftLeft_mul, ← low, Nat.shiftLeft_add]
    exact shiftLeft_mono (one_shiftLeft_log2_le positive) _
  · apply roundQuotient_le_of_lt_mul (one_shiftLeft_pos _)
    rw [one_shiftLeft_mul, ← high, Nat.shiftLeft_add, Nat.shiftLeft_eq n,
      Nat.shiftLeft_eq (1 <<< _)]
    exact Nat.mul_lt_mul_of_pos_right (lt_one_shiftLeft_log2 n) (Nat.two_pow_pos _)

theorem magnitudeOfRatio_one (positive : n ≠ 0) (small : n < 1 <<< 64) :
    magnitudeOfRatio n 1 =
      roundQuotient (n <<< (52 - n.log2)) (1 <<< surplus n) + (n.log2 + 1022) <<< 52 := by
  have log : n.log2 < 64 := (Nat.log2_lt positive).2 (by rwa [← Nat.one_shiftLeft])
  have exponent : max ((n.log2 : Int) - 52) (-1074) = n.log2 - 52 := by omega
  have place : ((n.log2 : Int) - 52 + 1074).natAbs = n.log2 + 1022 := by omega
  have scaled : scaleDown n 1 ((n.log2 : Int) - 52) = (n <<< (52 - n.log2), 1 <<< surplus n) := by
    rw [scaleDown, surplus]
    split
    · have none : n.log2 - 52 = 0 := by omega
      have missing : ((n.log2 : Int) - 52).natAbs = 52 - n.log2 := by omega
      rw [none, missing, Nat.shiftLeft_zero]
    · have none : 52 - n.log2 = 0 := by omega
      have excess : ((n.log2 : Int) - 52).natAbs = n.log2 - 52 := by omega
      rw [none, excess, Nat.shiftLeft_zero]
  have finite : roundQuotient (n <<< (52 - n.log2)) (1 <<< surplus n) +
      (n.log2 + 1022) <<< 52 ≤ infinite := by
    have fits := (roundQuotient_widened positive).2
    rw [infinite]
    omega
  simp only [magnitudeOfRatio, if_neg positive, floorLog2_one positive, exponent, scaled, place]
  exact Nat.min_eq_left finite

/-- The magnitude of a number stands for the rounded number. -/
theorem units_magnitudeOfRatio (small : n < 1 <<< 64) :
    units (magnitudeOfRatio n 1) = roundNat n <<< 1074 := by
  by_cases positive : n = 0
  · subst positive
    rfl
  · obtain ⟨low, high⟩ := roundQuotient_widened positive
    rw [magnitudeOfRatio_one positive small, units_add low high, roundNat, surplus,
      ← Nat.shiftLeft_add]
    rcases Nat.le_total n.log2 52 with few | many
    · have none : n.log2 - 52 = 0 := by omega
      have places : 52 - n.log2 + (n.log2 + 1022) = 0 + 1074 := by omega
      rw [none, Nat.shiftLeft_zero, roundQuotient_one, roundQuotient_one, ← Nat.shiftLeft_add,
        places]
    · have none : 52 - n.log2 = 0 := by omega
      have places : n.log2 + 1022 = n.log2 - 52 + 1074 := by omega
      rw [none, Nat.shiftLeft_zero, places]

end Magnitudes

section Signs

def bySign (f : Nat → Nat) (n : Int) : Int :=
  if n < 0 then -(f n.natAbs : Int) else f n.natAbs

variable {f : Nat → Nat}

theorem bySign_neg (zero : f 0 = 0) (n : Int) : bySign f (-n) = -bySign f n := by
  rcases Int.lt_trichotomy n 0 with below | rfl | above
  · rw [bySign, bySign, if_neg (by omega), if_pos below, Int.natAbs_neg, Int.neg_neg]
  · simp [bySign, zero]
  · rw [bySign, bySign, if_pos (by omega), if_neg (by omega), Int.natAbs_neg]

theorem bySign_bySign (zero : f 0 = 0) (g : Nat → Nat) (n : Int) :
    bySign f (bySign g n) = bySign (fun k => f (g k)) n := by
  have natCast (k : Nat) : bySign f k = f k := by simp [bySign]
  rw [bySign.eq_def g, bySign.eq_def fun k => f (g k)]
  split
  · rw [bySign_neg zero, natCast]
  · exact natCast _

theorem bySign_lt (zero : f 0 = 0) (mono : StrictMono f) {n m : Int} (lt : n < m) :
    bySign f n < bySign f m := by
  refine strictMono_of_odd_strictMonoOn_nonneg (bySign_neg zero) (fun n low m low' lt => ?_) lt
  rw [Set.mem_Ici] at low low'
  rw [bySign, bySign, if_neg (by omega), if_neg (by omega)]
  exact Int.ofNat_lt.2 (mono (by omega))

theorem bySign_le (zero : f 0 = 0) (mono : Monotone f) {n m : Int} (le : n ≤ m) :
    bySign f n ≤ bySign f m := by
  refine monotone_of_odd_of_monotoneOn_nonneg (bySign_neg zero) (fun n low m low' le => ?_) le
  rw [Set.mem_Ici] at low low'
  rw [bySign, bySign, if_neg (by omega), if_neg (by omega)]
  exact Int.ofNat_le.2 (mono (by omega))

theorem compare_bySign (zero : f 0 = 0) (mono : StrictMono f) (n m : Int) :
    compare (bySign f n) (bySign f m) = compare n m := by
  rcases lt_trichotomy n m with below | rfl | above
  · rw [compare_lt_iff_lt.2 below, compare_lt_iff_lt.2 (bySign_lt zero mono below)]
  · rw [compare_eq_iff_eq.2 rfl, compare_eq_iff_eq.2 rfl]
  · rw [compare_gt_iff_gt.2 above, compare_gt_iff_gt.2 (bySign_lt zero mono above)]

end Signs

section Integers

theorem magnitudeOfRatio_le (num den : Nat) : magnitudeOfRatio num den ≤ infinite := by
  rw [magnitudeOfRatio]
  split
  · exact Nat.zero_le _
  · exact Nat.min_le_right _ _

theorem magnitude_ofMagnitude {magnitude : Nat} (fits : magnitude ≤ infinite) (negative : Bool) :
    (ofMagnitude negative magnitude).magnitude = magnitude := by
  rw [infinite] at fits
  cases negative <;> simp [ofMagnitude, Binary64.magnitude] <;> omega

theorem isNegative_ofMagnitude {magnitude : Nat} (fits : magnitude ≤ infinite) (negative : Bool) :
    (ofMagnitude negative magnitude).isNegative = negative := by
  rw [infinite] at fits
  cases negative <;> simp [ofMagnitude, isNegative] <;> omega

theorem isNaN_ofInt (n : Int) : (ofInt n).isNaN = false := by
  have fits := magnitudeOfRatio_le n.natAbs 1
  rw [isNaN, ofInt, magnitude_ofMagnitude fits]
  exact decide_eq_false (by omega)

theorem rank_ofInt (n : Int) : (ofInt n).rank = bySign (magnitudeOfRatio · 1) n := by
  have fits := magnitudeOfRatio_le n.natAbs 1
  rw [rank, ofInt, magnitude_ofMagnitude fits, isNegative_ofMagnitude fits, bySign]
  simp only [decide_eq_true_eq]

def rounded (n : Int) : Int :=
  bySign roundNat n

theorem bySign_units_rank {n : Int} (small : n.natAbs < 1 <<< 64) :
    bySign units (ofInt n).rank = bySign (· <<< 1074) (rounded n) := by
  rw [rank_ofInt, rounded, bySign_bySign (by rfl), bySign_bySign (Nat.zero_shiftLeft 1074), bySign,
    bySign, units_magnitudeOfRatio small]

/-- Integers are compared as they are after rounding. -/
theorem compare?_ofInt {n m : Int} (small : n.natAbs < 1 <<< 64) (small' : m.natAbs < 1 <<< 64) :
    (ofInt n).compare? (ofInt m) = some (compare (rounded n) (rounded m)) := by
  have shifted : StrictMono fun k : Nat => k <<< 1074 := by
    intro j k lt
    simp only [Nat.shiftLeft_eq]
    exact Nat.mul_lt_mul_of_pos_right lt (Nat.two_pow_pos 1074)
  rw [compare?, isNaN_ofInt, isNaN_ofInt, ← compare_bySign (by rfl) units_strictMono,
    bySign_units_rank small, bySign_units_rank small',
    compare_bySign (Nat.zero_shiftLeft 1074) shifted]
  rfl

theorem rounded_mono {n m : Int} (le : n ≤ m) : rounded n ≤ rounded m :=
  bySign_le (roundNat_of_le (Nat.zero_le _)) (fun _ _ => roundNat_mono) le

theorem lt_of_rounded_lt {n m : Int} (lt : rounded n < rounded m) : n < m :=
  lt_of_not_ge fun ge => absurd (rounded_mono ge) (by omega)

end Integers

section Alone

variable {a b : Nat}

/-- Numbers that no other is rounded to or with: those of 53 bits at most, and of those of 54 bits
the even ones that are not divisible by four, as a half goes to their neighbours. -/
def Alone (a : Nat) : Prop :=
  a < 1 <<< 53 ∨ (a < 1 <<< 54 ∧ a % 4 = 2)

theorem roundNat_of_54_bits (low : 1 <<< 53 ≤ a) (high : a < 1 <<< 54) :
    roundNat a = roundQuotient a 2 <<< 1 := by
  have positive : a ≠ 0 := by omega
  have log : a.log2 = 53 := by
    refine Nat.le_antisymm (Nat.le_of_lt_succ ?_) ?_
    · exact (Nat.log2_lt positive).2 (by rwa [← Nat.one_shiftLeft])
    · exact (Nat.le_log2 positive).2 (by rwa [← Nat.one_shiftLeft])
  rw [roundNat, surplus, log]
  rfl

theorem Alone.roundNat_eq (alone : Alone a) : roundNat a = a := by
  rcases Nat.lt_or_ge a (1 <<< 53) with small | large
  · exact roundNat_of_le (Nat.le_of_lt small)
  · obtain ⟨high, rest⟩ := alone.resolve_left (Nat.not_lt.2 large)
    rw [roundNat_of_54_bits large high, roundQuotient_of_dvd Nat.two_pos (by omega)]
    omega

theorem Alone.eq_of_roundNat (alone : Alone a) (same : roundNat b = roundNat a) : b = a := by
  rw [alone.roundNat_eq] at same
  have least : roundNat (1 <<< 53) = 1 <<< 53 := roundNat_of_le (Nat.le_refl _)
  rcases Nat.lt_or_ge b (1 <<< 53) with small | large
  · rwa [roundNat_of_le (Nat.le_of_lt small)] at same
  · have reached := roundNat_mono large
    obtain ⟨high, rest⟩ := alone.resolve_left (by omega)
    have below : b < 1 <<< 54 := by
      by_contra beyond
      have next : roundNat (1 <<< 54) = 1 <<< 54 := roundNat_shiftLeft (s := 1) (by decide) 54
      have := roundNat_mono (Nat.not_lt.1 beyond)
      omega
    rw [roundNat_of_54_bits large below] at same
    simp only [roundQuotient] at same
    split at same <;> omega

theorem log2_succ (positive : a ≠ 0) (even : 2 ∣ a) : (a + 1).log2 = a.log2 := by
  obtain ⟨half, rfl⟩ := even
  refine Nat.le_antisymm (Nat.le_of_lt_succ ?_) (log2_mono (Nat.le_succ _))
  have below := lt_one_shiftLeft_log2 (2 * half)
  rw [Nat.shiftLeft_succ] at below
  rw [Nat.log2_lt (by omega), ← Nat.one_shiftLeft, Nat.shiftLeft_succ]
  omega

/-- One more than a multiple is rounded down, from the middle of two to an even quotient. -/
theorem roundQuotient_mul_add_one {q den : Nat} (down : 2 < den ∨ (den = 2 ∧ q % 2 = 0)) :
    roundQuotient (q * den + 1) den = q := by
  have floor : (q * den + 1) / den = q := by
    rw [Nat.add_comm, Nat.add_mul_div_right _ _ (by omega), Nat.div_eq_of_lt (by omega),
      Nat.zero_add]
  have rest : (q * den + 1) % den = 1 := by
    rw [Nat.add_comm, Nat.add_mul_mod_self_right, Nat.mod_eq_of_lt (by omega)]
  rw [roundQuotient, floor, rest]
  exact if_pos (down.imp id fun half => ⟨half.1.symm, half.2⟩)

theorem roundNat_succ (fixed : roundNat a = a) (crowded : ¬ Alone a) : roundNat (a + 1) = a := by
  have large : 1 <<< 53 ≤ a := Nat.not_lt.1 fun small => crowded (.inl small)
  have log : 53 ≤ a.log2 := (Nat.le_log2 (by omega)).2 (by rwa [← Nat.one_shiftLeft])
  obtain ⟨k, excess⟩ : ∃ k, surplus a = k + 1 := by
    refine ⟨a.log2 - 53, ?_⟩
    rw [surplus]
    omega
  obtain ⟨q, whole⟩ : ∃ q, a = q * 1 <<< (k + 1) := by
    refine ⟨roundQuotient a (1 <<< (k + 1)), ?_⟩
    rw [roundNat, excess, Nat.shiftLeft_eq _ (k + 1), ← Nat.one_shiftLeft] at fixed
    exact fixed.symm
  have even : 2 ∣ a := by
    rw [whole, Nat.shiftLeft_succ]
    exact Nat.dvd_mul_left_of_dvd (Nat.dvd_mul_right 2 _) q
  have down : 2 < 1 <<< (k + 1) ∨ (1 <<< (k + 1) = 2 ∧ q % 2 = 0) := by
    cases k with
    | succ k =>
      have := one_shiftLeft_pos k
      rw [Nat.shiftLeft_succ, Nat.shiftLeft_succ]
      exact .inl (by omega)
    | zero =>
      have bits : a.log2 = 53 := by
        rw [surplus] at excess
        omega
      have high := lt_one_shiftLeft_log2 a
      rw [bits] at high
      have half : a % 4 ≠ 2 := fun half => crowded (.inr ⟨high, half⟩)
      exact .inr ⟨rfl, by omega⟩
  calc roundNat (a + 1) = roundQuotient (q * 1 <<< (k + 1) + 1) (1 <<< (k + 1)) <<< (k + 1) := by
        rw [roundNat, surplus, log2_succ (by omega) even, ← surplus, excess, ← whole]
    _ = q <<< (k + 1) := by rw [roundQuotient_mul_add_one down]
    _ = a := by rw [Nat.shiftLeft_eq, ← Nat.one_shiftLeft, ← whole]

/-- A number that is not alone is rounded as a neighbour is. The two greatest are taken together
with the one below them. -/
theorem exists_roundNat_eq (crowded : ¬ Alone a) (fits : a ≤ 1 <<< 63) :
    ∃ b, b ≠ a ∧ 0 < b ∧ b < 1 <<< 63 ∧ roundNat b = roundNat a := by
  have large : 1 <<< 53 ≤ a := Nat.not_lt.1 fun small => crowded (.inl small)
  rcases Nat.lt_or_ge (a + 1) (1 <<< 63) with inside | top
  · rcases Nat.lt_trichotomy (roundNat a) a with down | kept | up
    · refine ⟨a - 1, by omega, by omega, by omega, ?_⟩
      refine Nat.le_antisymm (roundNat_mono (Nat.sub_le a 1)) ?_
      rw [← roundNat_roundNat a]
      exact roundNat_mono (Nat.le_sub_one_of_lt down)
    · refine ⟨a + 1, by omega, by omega, inside, ?_⟩
      rw [roundNat_succ kept crowded, kept]
    · refine ⟨a + 1, by omega, by omega, inside, ?_⟩
      refine Nat.le_antisymm ?_ (roundNat_mono (Nat.le_succ a))
      rw [← roundNat_roundNat a]
      exact roundNat_mono up
  · refine ⟨1 <<< 63 - 2, by omega, by omega, by omega, ?_⟩
    have above : 1 <<< 63 = roundNat (1 <<< 63 - 2) := by decide +kernel
    have whole : 1 <<< 63 = roundNat (1 <<< 63) := by decide +kernel
    refine Nat.le_antisymm (roundNat_mono (by omega)) ?_
    rw [← above, whole]
    exact roundNat_mono fits

/-- An integer that is alone is told from all others after rounding. -/
theorem rounded_eq_iff {n m : Int} (alone : Alone n.natAbs) : rounded m = rounded n ↔ m = n := by
  constructor
  · intro same
    have kept := alone.roundNat_eq
    have positive (other : m.natAbs ≠ 0) : 0 < roundNat m.natAbs :=
      (one_shiftLeft_pos _).trans_le (one_shiftLeft_log2_le_roundNat other)
    have size : roundNat m.natAbs = roundNat n.natAbs := by
      rw [rounded, rounded, bySign, bySign] at same
      split at same <;> split at same <;> omega
    have sizes := alone.eq_of_roundNat size
    rw [rounded, rounded, bySign, bySign, sizes, kept] at same
    split at same <;> split at same <;> omega
  · rintro rfl
    rfl

theorem rounded_lt_iff {n m : Int} (alone : Alone n.natAbs) :
    (rounded n < rounded m ↔ n < m) ∧ (rounded m < rounded n ↔ m < n) := by
  have apart : rounded m = rounded n ↔ m = n := rounded_eq_iff alone
  refine ⟨⟨lt_of_rounded_lt, fun lt => ?_⟩, ⟨lt_of_rounded_lt, fun lt => ?_⟩⟩
  · exact (rounded_mono lt.le).lt_of_ne fun same => lt.ne' (apart.1 same.symm)
  · exact (rounded_mono lt.le).lt_of_ne fun same => lt.ne (apart.1 same)

/-- An integer that is not alone is confused with another one of 64 bits. -/
theorem exists_rounded_eq {n : Int} (crowded : ¬ Alone n.natAbs) (fits : n.natAbs ≤ 1 <<< 63) :
    ∃ m, m ≠ n ∧ m.natAbs < 1 <<< 63 ∧ rounded m = rounded n := by
  obtain ⟨b, other, positive, below, same⟩ := exists_roundNat_eq crowded fits
  rcases lt_or_ge n 0 with negative | nonneg
  · refine ⟨-b, by omega, by omega, ?_⟩
    rw [rounded, rounded, bySign, bySign, if_pos (by omega), if_pos negative, Int.natAbs_neg,
      Int.natAbs_natCast, same]
  · refine ⟨b, by omega, by omega, ?_⟩
    rw [rounded, rounded, bySign, bySign, if_neg (by omega), if_neg (by omega), Int.natAbs_natCast,
      same]

end Alone

end DocumentQuery.Binary64
