import Mathlib.Tactic.Common
import Mathlib.Data.Nat.Log
import Mathlib.Tactic.Ring
import Mathlib.Tactic.Linarith

/-!
# Products of doubles, truncated

Facts about the model of binary64 that comes with Lean: how a positive integer
is represented, how the product of two positive doubles is rounded, and what is
left when the product is truncated to an integer.

`toInt_mul` says what decides a truncated product, and `toInt_mul_ratio` applies
it to a literal: an integer times the double nearest to a ratio, truncated, is
the quotient in integers, as long as the double does not fall short of the ratio
by too much.
-/

namespace DigmaE605
namespace Arithmetic

open Float.Model Float.Model.UnpackedFloat

/-! ## Shifting a mantissa -/

theorem shiftRight_zero (em : ExtendedMantissa) : em >>> 0 = em := rfl

theorem shiftRight_succ (em : ExtendedMantissa) (n : ℕ) :
    em >>> (n + 1) = (em >>> n).shiftRightOne := rfl

/-- The bits that are shifted out: the last one, and whether any other is set. -/
theorem shiftRight_exact (mantissa n : ℕ) :
    (ExtendedMantissa.mk mantissa false false) >>> (n + 1) =
      ⟨mantissa / 2 ^ (n + 1), mantissa / 2 ^ n % 2 != 0, mantissa % 2 ^ n != 0⟩ := by
  induction n with
  | zero =>
      rw [shiftRight_succ, shiftRight_zero]
      simp [ExtendedMantissa.shiftRightOne, Nat.mod_one]
  | succ n ih =>
      have hsplit := Nat.mod_pow_succ (b := 2) (k := n) (x := mantissa)
      have hpow : 0 < 2 ^ n := Nat.two_pow_pos n
      rw [shiftRight_succ, ih, ExtendedMantissa.shiftRightOne]
      have hmantissa : mantissa / 2 ^ (n + 1) / 2 = mantissa / 2 ^ (n + 1 + 1) := by
        rw [Nat.div_div_eq_div_mul, ← Nat.pow_succ]
      -- The bit that was shifted out before joins the sticky ones.
      have hsticky : (mantissa / 2 ^ n % 2 != 0 || mantissa % 2 ^ n != 0) =
          (mantissa % 2 ^ (n + 1) != 0) := by
        rw [hsplit]
        rcases Nat.mod_two_eq_zero_or_one (mantissa / 2 ^ n) with hbit | hbit
        · simp [hbit]
        · simp [hbit]
      rw [hmantissa, hsticky]

/-- The mantissa that is left after `shift` bits were rounded off. -/
def rounded (mantissa shift : ℕ) : ℕ :=
  (ExtendedMantissa.mk mantissa false false >>> shift).roundedMantissa

/-- Where the first bit shifted out is 0, it rounds down. -/
theorem rounded_down {mantissa n : ℕ} (hbit : mantissa / 2 ^ n % 2 = 0) :
    rounded mantissa (n + 1) = mantissa / 2 ^ (n + 1) := by
  unfold rounded
  rw [shiftRight_exact, hbit]
  cases hsticky : mantissa % 2 ^ n != 0 <;> rfl

/-- Where it is 1, it rounds up, or, halfway, to the even side. -/
theorem rounded_up {mantissa n : ℕ} (hbit : mantissa / 2 ^ n % 2 = 1) :
    rounded mantissa (n + 1) =
      if mantissa % 2 ^ n = 0 then mantissa / 2 ^ (n + 1) + mantissa / 2 ^ (n + 1) % 2
      else mantissa / 2 ^ (n + 1) + 1 := by
  unfold rounded
  rw [shiftRight_exact, hbit]
  by_cases hsticky : mantissa % 2 ^ n = 0
  · rw [if_pos hsticky, hsticky]
    rfl
  · have hset : (mantissa % 2 ^ n != 0) = true := by simpa using hsticky
    rw [if_neg hsticky, hset]
    rfl

/-- Rounding is to nearest. -/
theorem rounded_nearest (mantissa shift : ℕ) :
    2 * (rounded mantissa shift * 2 ^ shift) ≤ 2 * mantissa + 2 ^ shift ∧
      2 * mantissa ≤ 2 * (rounded mantissa shift * 2 ^ shift) + 2 ^ shift := by
  cases shift with
  | zero =>
      have hexact : rounded mantissa 0 = mantissa := rfl
      rw [hexact]
      omega
  | succ n =>
      have hdiv := Nat.div_add_mod mantissa (2 ^ (n + 1))
      have hrest := Nat.mod_pow_succ (b := 2) (k := n) (x := mantissa)
      have hlow : mantissa % 2 ^ n < 2 ^ n := Nat.mod_lt _ (Nat.two_pow_pos n)
      have hpow : 2 ^ (n + 1) = 2 * 2 ^ n := by rw [Nat.pow_succ, Nat.mul_comm]
      rw [Nat.mul_comm (2 ^ (n + 1))] at hdiv
      rcases Nat.mod_two_eq_zero_or_one (mantissa / 2 ^ n) with hbit | hbit
      · rw [rounded_down hbit]
        rw [hbit] at hrest
        omega
      · rw [rounded_up hbit]
        rw [hbit] at hrest
        generalize mantissa / 2 ^ (n + 1) = high at *
        have hnext : (high + 1) * 2 ^ (n + 1) = high * 2 ^ (n + 1) + 2 ^ (n + 1) :=
          Nat.succ_mul _ _
        split
        · -- Halfway both neighbours are nearest.
          rcases Nat.mod_two_eq_zero_or_one high with heven | hodd
          · rw [heven, Nat.add_zero]
            omega
          · rw [hodd, hnext]
            omega
        · rw [hnext]
          omega

/-! ## Rounding to 53 bits -/

theorem log2_eq {n k : ℕ} (hlow : 2 ^ k ≤ n) (hhigh : n < 2 ^ (k + 1)) : n.log2 = k := by
  have hne : n ≠ 0 := by
    have := Nat.two_pow_pos k
    omega
  rw [Nat.log2_eq_iff hne]
  exact ⟨hlow, hhigh⟩

theorem log2_mul_two_pow {n : ℕ} (hpos : 0 < n) (k : ℕ) : (n * 2 ^ k).log2 = n.log2 + k := by
  have hne : n ≠ 0 := Nat.pos_iff_ne_zero.mp hpos
  obtain ⟨hlow, hhigh⟩ := (Nat.log2_eq_iff hne).mp rfl
  refine log2_eq ?_ ?_
  · rw [Nat.pow_add]
    exact Nat.mul_le_mul_right _ hlow
  · rw [Nat.add_right_comm, Nat.pow_add]
    exact Nat.mul_lt_mul_of_pos_right hhigh (Nat.two_pow_pos k)

/-- The exponent at which a number has 53 bits. -/
theorem targetExponent_eq (mantissa : ℕ) (exponent : ℤ) :
    Format.binary64.targetExponent (totalExponent mantissa exponent) =
      max (mantissa.log2 + exponent - 52) (-1074) := by
  change max ((mantissa.log2 : ℤ) + 1 + exponent - 53) (-1074) = _
  omega

/-- A mantissa of 53 bits is left as it is. -/
theorem shiftToTargetExponent_of_log2 {mantissa : ℕ} {exponent : ℤ} (hbits : mantissa.log2 ≤ 52)
    (hexponent : -1074 ≤ exponent) :
    shiftToTargetExponent .binary64 mantissa exponent .exact =
      (⟨mantissa, false, false⟩, exponent) := by
  have hshift : (Format.binary64.targetExponent (totalExponent mantissa exponent) -
      exponent).toNat = 0 := by
    rw [targetExponent_eq]
    omega
  unfold shiftToTargetExponent shiftToExponent
  simp only [hshift]
  simp [shiftRight_zero, ExtendedMantissa.ofMantissaAndAccuracy]

/-- The bits beyond the 53rd are shifted out. -/
theorem shiftToTargetExponent_long {mantissa shift : ℕ} {exponent : ℤ}
    (hbits : mantissa.log2 = 52 + shift) (hexponent : -1074 ≤ exponent + shift) :
    shiftToTargetExponent .binary64 mantissa exponent .exact =
      (ExtendedMantissa.mk mantissa false false >>> shift, exponent + shift) := by
  have hshift : (Format.binary64.targetExponent (totalExponent mantissa exponent) -
      exponent).toNat = shift := by
    rw [targetExponent_eq]
    omega
  unfold shiftToTargetExponent shiftToExponent
  simp only [hshift]
  rfl

theorem le_rounded {mantissa shift q : ℕ}
    (h : 2 * (q * 2 ^ shift) < 2 * mantissa + 2 ^ shift) : q ≤ rounded mantissa shift := by
  obtain ⟨-, hlow⟩ := rounded_nearest mantissa shift
  have hscaled : q * 2 ^ shift < (rounded mantissa shift + 1) * 2 ^ shift := by
    rw [Nat.succ_mul]
    omega
  exact Nat.lt_succ_iff.mp (Nat.lt_of_mul_lt_mul_right hscaled)

theorem rounded_lt {mantissa shift q : ℕ}
    (h : 2 * mantissa + 2 ^ shift < 2 * (q * 2 ^ shift)) : rounded mantissa shift < q := by
  obtain ⟨hhigh, -⟩ := rounded_nearest mantissa shift
  have hscaled : rounded mantissa shift * 2 ^ shift < q * 2 ^ shift := by omega
  exact Nat.lt_of_mul_lt_mul_right hscaled

/-- What is left of a long mantissa has 53 bits, or is the power of two above
them. -/
theorem rounded_bounds {mantissa shift : ℕ} (hbits : mantissa.log2 = 52 + shift) :
    2 ^ 52 ≤ rounded mantissa shift ∧ rounded mantissa shift ≤ 2 ^ 53 := by
  have hpow : 0 < 2 ^ shift := Nat.two_pow_pos shift
  have hne : mantissa ≠ 0 := by
    rintro rfl
    rw [Nat.log2_zero] at hbits
    omega
  obtain ⟨hlow, hhigh⟩ := (Nat.log2_eq_iff hne).mp hbits
  rw [Nat.pow_add] at hlow
  rw [Nat.add_right_comm, Nat.pow_add] at hhigh
  constructor
  · exact le_rounded (by omega)
  · refine Nat.lt_succ_iff.mp (rounded_lt ?_)
    omega

/-- Rounding shifts twice: to 53 bits, and again if the rounded mantissa grew. -/
theorem roundWithAccuracy_eq {mantissa : ℕ} {exponent exponent₁ exponent₂ : ℤ} {sign : Sign}
    {first second : ExtendedMantissa} (hpos : 0 < second.mantissa)
    (hfirst : shiftToTargetExponent .binary64 mantissa exponent .exact = (first, exponent₁))
    (hsecond : shiftToTargetExponent .binary64 first.roundedMantissa exponent₁ .exact =
      (second, exponent₂)) :
    roundWithAccuracy .binary64 sign mantissa exponent .exact =
      .finite sign second.mantissa exponent₂ hpos := by
  unfold roundWithAccuracy
  rw [hfirst]
  change (match shiftToTargetExponent .binary64 first.roundedMantissa exponent₁ .exact with
    | (final, exponent) =>
      if h : final.mantissa = 0 then UnpackedFloat.zero sign
      else .finite sign final.mantissa exponent (Nat.pos_of_ne_zero h)) = _
  rw [hsecond]
  exact dif_neg (Nat.pos_iff_ne_zero.mp hpos)

theorem roundWithAccuracy_of_log2 {mantissa : ℕ} {exponent : ℤ} {sign : Sign}
    (hpos : 0 < mantissa) (hbits : mantissa.log2 ≤ 52) (hexponent : -1074 ≤ exponent) :
    roundWithAccuracy .binary64 sign mantissa exponent .exact =
      .finite sign mantissa exponent hpos := by
  have hkept := shiftToTargetExponent_of_log2 hbits hexponent
  have hround : (ExtendedMantissa.mk mantissa false false).roundedMantissa = mantissa := rfl
  have hpos' : 0 < (ExtendedMantissa.mk mantissa false false).mantissa := hpos
  refine roundWithAccuracy_eq hpos' hkept ?_
  rwa [hround]

/-! ## Truncation -/

/-- A double that counts `2 ^ places` units to one truncates to the quotient. -/
theorem toInt_finite {mantissa places : ℕ} (hpos : 0 < mantissa) (lower upper : ℤ) :
    (UnpackedFloat.finite .positive mantissa (-places) hpos).toInt lower upper =
      (mantissa / 2 ^ places : ℕ) := by
  have hshift : (ExtendedMantissa.mk mantissa false false >>> places).mantissa =
      mantissa / 2 ^ places := by
    cases places with
    | zero => simp [shiftRight_zero]
    | succ n => rw [shiftRight_exact]
  have hnone : (-(places : ℤ) - 0).toNat = 0 := by omega
  have hplaces : (0 - (-(places : ℤ) - (0 : ℕ))).toNat = places := by omega
  have hvalue : (UnpackedFloat.finite .positive mantissa (-places) hpos).toInt lower upper =
      (ExtendedMantissa.mk (mantissa <<< (-(places : ℤ) - 0).toNat) false false >>>
        (0 - (-(places : ℤ) - ((-(places : ℤ) - 0).toNat : ℕ))).toNat).mantissa := rfl
  rw [hvalue, hnone, hplaces, Nat.shiftLeft_zero, hshift]

/-- What is left of a long mantissa that counts `2 ^ places` units to one
truncates to the quotient, whether it was renormalized or not. -/
theorem toInt_roundWithAccuracy {mantissa shift places : ℕ} {exponent : ℤ}
    (hbits : mantissa.log2 = 52 + shift) (hplaces : exponent + shift = -(places : ℤ))
    (hpos : 0 < places) (hnormal : places ≤ 1074) (lower upper : ℤ) :
    (roundWithAccuracy .binary64 .positive mantissa exponent .exact).toInt lower upper =
      (rounded mantissa shift / 2 ^ places : ℕ) := by
  obtain ⟨hlow, hhigh⟩ := rounded_bounds hbits
  have hnotTiny : -1074 ≤ exponent + shift := by omega
  have hfirst := shiftToTargetExponent_long hbits hnotTiny
  have hround : (ExtendedMantissa.mk mantissa false false >>> shift).roundedMantissa =
      rounded mantissa shift := rfl
  rw [hplaces] at hfirst
  have hleft : 0 < rounded mantissa shift := by omega
  rcases Nat.lt_or_ge (rounded mantissa shift) (2 ^ 53) with hlt | hge
  · -- The mantissa has 53 bits already.
    have hsecond : shiftToTargetExponent .binary64 (rounded mantissa shift) (-(places : ℤ)) .exact =
        (⟨rounded mantissa shift, false, false⟩, -(places : ℤ)) :=
      shiftToTargetExponent_of_log2 (by rw [log2_eq hlow hlt]) (by omega)
    rw [roundWithAccuracy_eq hleft hfirst hsecond]
    exact toInt_finite _ _ _
  · -- The mantissa grew to `2 ^ 53`, and is shifted once more.
    have hfull : rounded mantissa shift = 2 ^ 53 := by omega
    obtain ⟨fewer, rfl⟩ : ∃ fewer, places = fewer + 1 := ⟨places - 1, by omega⟩
    have hsecond : shiftToTargetExponent .binary64 (rounded mantissa shift)
        (-((fewer + 1 : ℕ) : ℤ)) .exact = (⟨2 ^ 52, false, false⟩, -(fewer : ℤ)) := by
      rw [hfull, shiftToTargetExponent_long (by decide : (2 ^ 53).log2 = 52 + 1) (by omega)]
      refine Prod.ext rfl ?_
      simp only
      omega
    rw [roundWithAccuracy_eq (Nat.two_pow_pos 52) hfirst hsecond, hfull]
    have hquotient : 2 ^ 53 / 2 ^ (fewer + 1) = 2 ^ 52 / 2 ^ fewer := by
      have hhalf : 2 ^ 53 / 2 = 2 ^ 52 := by norm_num
      rw [Nat.pow_succ 2 fewer, Nat.mul_comm, ← Nat.div_div_eq_div_mul, hhalf]
    rw [hquotient]
    exact toInt_finite _ _ _

/-! ## Integers and products -/

/-- A positive integer below `2 ^ 53` is represented exactly, with 53 bits. -/
theorem ofInt_pos {n places : ℕ} (hpos : 0 < n) (hplaces : n.log2 + places = 52)
    (hleft : 0 < n * 2 ^ places) :
    UnpackedFloat.ofInt .binary64 n =
      .finite .positive (n * 2 ^ places) (-(places : ℤ)) hleft := by
  have hcompare : compare (n : ℤ) 0 = .gt := by
    rw [compare_gt_iff_gt]
    omega
  have hshift : (0 - Format.binary64.targetExponent (totalExponent n 0)).toNat = places := by
    rw [targetExponent_eq]
    omega
  have hbits : (n * 2 ^ places).log2 ≤ 52 := by
    rw [log2_mul_two_pow hpos]
    omega
  -- The mantissa is shifted left, so nothing is rounded off.
  have hround : UnpackedFloat.ofInt .binary64 n =
      UnpackedFloat.round .binary64 .positive n 0 := by
    unfold UnpackedFloat.ofInt UnpackedFloat.normalize
    rw [hcompare]
    rfl
  have hshifted : UnpackedFloat.round .binary64 .positive n 0 =
      roundWithAccuracy .binary64 .positive
        (n <<< (0 - Format.binary64.targetExponent (totalExponent n 0)).toNat)
        (0 - (0 - Format.binary64.targetExponent (totalExponent n 0)).toNat) .exact := rfl
  rw [hround, hshifted, hshift, Nat.shiftLeft_eq, zero_sub]
  exact roundWithAccuracy_of_log2 hleft hbits (by omega)

/-- The rule for a truncated product: it is `q` if the exact product exceeds `q`
less half a unit, and stays half a unit below `q + 1`. -/
theorem toInt_mul {m₁ m₂ shift places q : ℕ} {e₁ e₂ : ℤ} {hm₁ : 0 < m₁} {hm₂ : 0 < m₂}
    (hbits : (m₁ * m₂).log2 = 52 + shift) (hplaces : e₁ + e₂ + shift = -(places : ℤ))
    (hpos : 0 < places) (hnormal : places ≤ 1074)
    (hlow : 2 * (q * 2 ^ (places + shift)) < 2 * (m₁ * m₂) + 2 ^ shift)
    (hhigh : 2 * (m₁ * m₂) + 2 ^ shift < 2 * ((q + 1) * 2 ^ (places + shift)))
    (lower upper : ℤ) :
    (mul .binary64 (.finite .positive m₁ e₁ hm₁) (.finite .positive m₂ e₂ hm₂)).toInt
      lower upper = q := by
  have hround := toInt_roundWithAccuracy hbits hplaces hpos hnormal lower upper
  have hproduct : (mul .binary64 (.finite .positive m₁ e₁ hm₁) (.finite .positive m₂ e₂ hm₂)) =
      roundWithAccuracy .binary64 .positive (m₁ * m₂) (e₁ + e₂) .exact := rfl
  rw [hproduct, hround]
  rw [Nat.pow_add, ← Nat.mul_assoc q] at hlow
  rw [Nat.pow_add, ← Nat.mul_assoc (q + 1)] at hhigh
  -- Rounding to nearest crosses neither bound.
  have hleast := le_rounded hlow
  have hmost := rounded_lt hhigh
  congr 1
  refine Nat.div_eq_of_lt_le ?_ ?_
  · exact hleast
  · exact hmost

/-- The product of two mantissas of 53 bits has 105 or 106 bits, so 52 or 53 of
them are rounded off. -/
theorem log2_product {m c : ℕ} (hm : 2 ^ 52 ≤ m) (hm' : m < 2 ^ 53) (hc : 2 ^ 52 ≤ c)
    (hc' : c < 2 ^ 53) : ∃ shift, (m * c).log2 = 52 + shift ∧ 52 ≤ shift ∧ shift ≤ 53 := by
  have hleast : 2 ^ 104 ≤ m * c := by
    calc 2 ^ 104 = 2 ^ 52 * 2 ^ 52 := by norm_num
      _ ≤ m * c := Nat.mul_le_mul hm hc
  have hmost : m * c < 2 ^ 106 := by
    calc m * c < 2 ^ 53 * 2 ^ 53 := Nat.mul_lt_mul'' hm' hc'
      _ = 2 ^ 106 := by norm_num
  have hne : m * c ≠ 0 := by omega
  have hlog104 := (Nat.le_log2 hne).mpr hleast
  have hlog106 := (Nat.log2_lt hne).mpr hmost
  exact ⟨(m * c).log2 - 52, by omega, by omega, by omega⟩

/-- A mantissa times a double close to a ratio is less than half a unit below the
quotient, and more than half a unit below the next one.  The double may exceed
the ratio by far more than it may fall short of it: what is missing is made up
for only where the product is rounded up to an integer. -/
theorem ratio_bounds {n num den c below above places shift : ℕ} (hden : 0 < den)
    (hmantissa : n * 2 ^ places < 2 ^ 53) (hfew : 52 ≤ shift) (hmany : shift ≤ 53)
    (hratio : den * c + below = num * 2 ^ 52 + above) (hbelow : 4 * below ≤ den)
    (habove : 4 * above + 2 * den < 2 ^ places) :
    2 * (num * n / den * 2 ^ (places + 52)) < 2 * (n * 2 ^ places * c) + 2 ^ shift ∧
      2 * (n * 2 ^ places * c) + 2 ^ shift < 2 * ((num * n / den + 1) * 2 ^ (places + 52)) := by
  have hunit : 2 ^ 52 ≤ 2 ^ shift := Nat.pow_le_pow_right (by decide) hfew
  have hunit' : 2 ^ shift ≤ 2 ^ 53 := Nat.pow_le_pow_right (by decide) hmany
  have hwhole : 2 ^ (places + 52) = 2 ^ places * 2 ^ 52 := Nat.pow_add _ _ _
  have hquotient := Nat.div_add_mod (num * n) den
  have hrest := Nat.mod_lt (num * n) hden
  -- `den` times the product, in units of the last place of the result
  have hproduct : den * (n * 2 ^ places * c) + below * (n * 2 ^ places) =
      num * n * 2 ^ (places + 52) + above * (n * 2 ^ places) := by
    calc den * (n * 2 ^ places * c) + below * (n * 2 ^ places)
        = n * 2 ^ places * (den * c + below) := by ring
      _ = n * 2 ^ places * (num * 2 ^ 52 + above) := by rw [hratio]
      _ = num * n * 2 ^ (places + 52) + above * (n * 2 ^ places) := by rw [hwhole]; ring
  rw [← hquotient] at hproduct
  have hshort : 2 * (below * (n * 2 ^ places)) < den * 2 ^ shift := by
    have hhalf : 4 * (below * (n * 2 ^ places)) < 2 * (den * 2 ^ 52) := by
      calc 4 * (below * (n * 2 ^ places)) = 4 * below * (n * 2 ^ places) := by ring
        _ ≤ den * (n * 2 ^ places) := Nat.mul_le_mul_right _ hbelow
        _ < den * 2 ^ (52 + 1) := Nat.mul_lt_mul_of_pos_left hmantissa hden
        _ = 2 * (den * 2 ^ 52) := by ring
    have hunits := Nat.mul_le_mul_left den hunit
    omega
  have hlong : 2 * (above * (n * 2 ^ places)) + den * 2 ^ shift < 2 * 2 ^ (places + 52) := by
    calc 2 * (above * (n * 2 ^ places)) + den * 2 ^ shift
        ≤ 2 * (above * 2 ^ 53) + den * 2 ^ 53 :=
          Nat.add_le_add (Nat.mul_le_mul_left 2 (Nat.mul_le_mul_left above hmantissa.le))
            (Nat.mul_le_mul_left den hunit')
      _ = (4 * above + 2 * den) * 2 ^ 52 := by ring
      _ < 2 ^ places * 2 ^ 52 := Nat.mul_lt_mul_of_pos_right habove (Nat.two_pow_pos 52)
      _ ≤ 2 * 2 ^ (places + 52) := by omega
  generalize n * 2 ^ places = m at *
  have hwhole' : (den * (num * n / den) + num * n % den) * 2 ^ (places + 52) =
      den * (num * n / den * 2 ^ (places + 52)) + num * n % den * 2 ^ (places + 52) := by ring
  have hscaled : den * (2 * (m * c) + 2 ^ shift) = 2 * (den * (m * c)) + den * 2 ^ shift := by ring
  rw [hwhole'] at hproduct
  -- Both bounds are compared after they were multiplied by `den`.
  refine ⟨Nat.lt_of_mul_lt_mul_left (a := den) ?_, Nat.lt_of_mul_lt_mul_left (a := den) ?_⟩
  · rw [hscaled, Nat.mul_left_comm]
    omega
  · have hrest' : (num * n % den + 1) * 2 ^ (places + 52) ≤ den * 2 ^ (places + 52) :=
      Nat.mul_le_mul_right _ hrest
    have hnext : den * (2 * ((num * n / den + 1) * 2 ^ (places + 52))) =
        2 * (den * (num * n / den * 2 ^ (places + 52))) + 2 * (den * 2 ^ (places + 52)) := by ring
    rw [Nat.succ_mul] at hrest'
    rw [hscaled, hnext]
    omega

/-- An integer times a double close to a ratio, truncated. -/
theorem toInt_mul_ratio {n num den c below above places : ℕ} {hc : 0 < c} (hpos : 0 < n)
    (hplaces : n.log2 + places = 52) (hlow : 2 ^ 52 ≤ c) (hhigh : c < 2 ^ 53) (hden : 0 < den)
    (hratio : den * c + below = num * 2 ^ 52 + above) (hbelow : 4 * below ≤ den)
    (habove : 4 * above + 2 * den < 2 ^ places) (lower upper : ℤ) :
    (mul .binary64 (UnpackedFloat.ofInt .binary64 n) (.finite .positive c (-52) hc)).toInt
      lower upper = (num * n / den : ℕ) := by
  have hm₁ : 0 < n * 2 ^ places := Nat.mul_pos hpos (Nat.two_pow_pos _)
  have hlog : (n * 2 ^ places).log2 = 52 := by rw [log2_mul_two_pow hpos, hplaces]
  obtain ⟨hmlow, hmhigh⟩ := (Nat.log2_eq_iff (Nat.pos_iff_ne_zero.mp hm₁)).mp hlog
  obtain ⟨shift, hshift, hfew, hmany⟩ := log2_product hmlow hmhigh hlow hhigh
  have hmanyPlaces : 2 ≤ places := by
    by_contra hfewPlaces
    have hpow : 2 ^ places ≤ 2 ^ 1 := Nat.pow_le_pow_right (by decide) (by omega)
    omega
  obtain ⟨hleast, hmost⟩ := ratio_bounds hden hmhigh hfew hmany hratio hbelow habove
  have hunits : places + 52 - shift + shift = places + 52 := by omega
  have hexponent : -(places : ℤ) + -52 + shift = -((places + 52 - shift : ℕ) : ℤ) := by omega
  rw [ofInt_pos hpos hplaces hm₁]
  refine toInt_mul hshift hexponent (by omega) (by omega) ?_ ?_ lower upper
  · rw [hunits]
    exact hleast
  · rw [hunits]
    exact hmost

theorem mul_finite_comm {m₁ m₂ : ℕ} {e₁ e₂ : ℤ} {hm₁ : 0 < m₁} {hm₂ : 0 < m₂} :
    mul .binary64 (.finite .positive m₁ e₁ hm₁) (.finite .positive m₂ e₂ hm₂) =
      mul .binary64 (.finite .positive m₂ e₂ hm₂) (.finite .positive m₁ e₁ hm₁) := by
  change roundWithAccuracy .binary64 .positive (m₁ * m₂) (e₁ + e₂) .exact =
    roundWithAccuracy .binary64 .positive (m₂ * m₁) (e₂ + e₁) .exact
  rw [Nat.mul_comm, Int.add_comm]

/-- An integer of up to `2 ^ 30` has places to spare in a double. -/
theorem exists_places {n : ℕ} (hpos : 0 < n) (hsmall : n ≤ 2 ^ 30) :
    ∃ places, n.log2 + places = 52 ∧ 2 ^ 22 ≤ 2 ^ places := by
  have hlog : n.log2 < 31 := (Nat.log2_lt (by omega)).mpr (by omega)
  exact ⟨52 - n.log2, by omega, Nat.pow_le_pow_right (by decide) (by omega)⟩

end Arithmetic
end DigmaE605
