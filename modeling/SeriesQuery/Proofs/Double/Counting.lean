import SeriesQuery.Proofs.Double.Storage
import Mathlib.Order.Compare
import Mathlib.Tactic.Ring

/-!
# Counting in doubles

A double is stored as a sign, an exponent and a mantissa of 53 bits, and what a calculation gives is
rounded to such a number. Nothing is lost as long as a count fits into the mantissa, and once it
does not, adding one gives the same double again.

* `IsNormal m e` : `m * 2 ^ e` is stored with its full mantissa;
* `IsNormal.round_shifted`, `round_short` : it is what rounding makes of a longer or a shorter
  mantissa of the same value;
* `IsNormal.unpack_pack` : it is read back as it was stored;
* `ofNat_eq` : the double of a whole number;
* `ofNat_add_one`, `ofNat_top_add_one` : adding one to it;
* `tally_add_one` : counting, from any number on.
-/

namespace SeriesQuery.Double

open Float.Model (Format UnpackedFloat totalExponent pack)
open Float.Model.UnpackedFloat

/-! ## Numbers in place -/

/-- A number whose mantissa has its full length. -/
structure IsNormal (m : Nat) (e : Int) : Prop where
  lower : 2 ^ 52 ≤ m
  upper : m < 2 ^ 53
  least : -1074 ≤ e
  greatest : e ≤ 971

theorem log2_mul_two_pow {m : Nat} (hm : m ≠ 0) (k : Nat) : (m * 2 ^ k).log2 = m.log2 + k := by
  obtain ⟨hlower, hupper⟩ := (Nat.log2_eq_iff hm).mp rfl
  refine (Nat.log2_eq_iff (Nat.mul_ne_zero hm (Nat.two_pow_pos k).ne')).mpr ⟨?_, ?_⟩
  · rw [Nat.pow_add]
    exact Nat.mul_le_mul_right _ hlower
  · rw [Nat.add_right_comm, Nat.pow_add]
    exact Nat.mul_lt_mul_of_pos_right hupper (Nat.two_pow_pos k)

namespace IsNormal

variable {m : Nat} {e : Int} (h : IsNormal m e)
include h

theorem pos : 0 < m := (Nat.two_pow_pos 52).trans_le h.lower

theorem log2_eq : m.log2 = 52 := (Nat.log2_eq_iff h.pos.ne').mpr ⟨h.lower, h.upper⟩

theorem targetExponent_shifted (k : Nat) :
    Format.binary64.targetExponent (totalExponent (m * 2 ^ k) (e - k)) = e := by
  have hleast : Format.binary64.minExponent = -1074 := by decide
  have hbits : Format.binary64.mantissaBits = 53 := by decide
  have hlog : (m * 2 ^ k).log2 = 52 + k := (log2_mul_two_pow h.pos.ne' k).trans (by rw [h.log2_eq])
  have hle := h.least
  rw [Format.targetExponent, totalExponent, hlog, hleast, hbits]
  omega

end IsNormal

theorem shiftRight_exact (m k : Nat) :
    (⟨m * 2 ^ k, false, false⟩ : ExtendedMantissa) >>> k = ⟨m, false, false⟩ := by
  induction k generalizing m with
  | zero => rw [Nat.pow_zero, Nat.mul_one]; rfl
  | succ k ih =>
    have hstep : (⟨m * 2 ^ (k + 1), false, false⟩ : ExtendedMantissa) >>> (k + 1) =
        ((⟨m * 2 * 2 ^ k, false, false⟩ : ExtendedMantissa) >>> k).shiftRightOne := by
      rw [Nat.mul_assoc, ← Nat.pow_succ']
      rfl
    rw [hstep, ih (m * 2), ExtendedMantissa.shiftRightOne]
    simp

namespace IsNormal

variable {m : Nat} {e : Int} (h : IsNormal m e)
include h

theorem shiftToTargetExponent_shifted (k : Nat) :
    shiftToTargetExponent .binary64 (m * 2 ^ k) (e - k) .exact = (⟨m, false, false⟩, e) := by
  have hback : (e - (e - k)).toNat = k := by omega
  rw [shiftToTargetExponent, h.targetExponent_shifted, shiftToExponent, hback]
  dsimp only [ExtendedMantissa.ofMantissaAndAccuracy]
  rw [shiftRight_exact, Int.sub_add_cancel]

/-- Nothing is lost where only zeros are cut off. -/
theorem roundWithAccuracy_shifted (s : Sign) (k : Nat) :
    roundWithAccuracy .binary64 s (m * 2 ^ k) (e - k) .exact = .finite s m e h.pos := by
  have hplace : shiftToTargetExponent .binary64 m e .exact = (⟨m, false, false⟩, e) := by
    simpa using h.shiftToTargetExponent_shifted 0
  rw [roundWithAccuracy, h.shiftToTargetExponent_shifted k]
  dsimp only [ExtendedMantissa.roundedMantissa, ExtendedMantissa.accuracy,
    Accuracy.roundToNearestEven]
  rw [hplace]
  exact dif_neg h.pos.ne'

theorem round_shifted (s : Sign) (k : Nat) :
    UnpackedFloat.round .binary64 s (m * 2 ^ k) (e - k) = .finite s m e h.pos := by
  have hnone : (e - k - e).toNat = 0 := by omega
  rw [UnpackedFloat.round, h.targetExponent_shifted, decreaseExponent, hnone]
  dsimp only
  rw [Nat.shiftLeft_zero, Int.natCast_zero, Int.sub_zero]
  exact h.roundWithAccuracy_shifted s k

/-- The exponent as it is stored. -/
theorem pack_eq (s : Sign) :
    UnpackedFloat.pack .binary64 (.finite s m e h.pos) =
      packComponents .binary64 s (BitVec.ofNat 11 (e + 1075).toNat) (BitVec.ofNat 52 m) := by
  have hgreatest := h.greatest
  have hbiased : (e + Format.binary64.exponentBias + (52 : Nat)).toNat = (e + 1075).toNat := by
    have hbias : Format.binary64.exponentBias = 1023 := by decide
    rw [hbias]
    omega
  have hfinite : ¬2 ^ 11 ≤ (e + 1075).toNat + 1 := by omega
  have hfull : 52 + 1 = Format.binary64.mantissaBits := by decide
  delta UnpackedFloat.pack
  dsimp only
  rw [hbiased, if_neg hfinite, h.log2_eq, if_pos hfull]

/-- Neither the stored exponent of zeros nor that of infinities. -/
theorem ofNat_biased_ne {k : Nat} (hk : k ≤ 2047) (hne : (e + 1075).toNat ≠ k) :
    BitVec.ofNat 11 (e + 1075).toNat ≠ BitVec.ofNat 11 k := by
  have hgreatest := h.greatest
  intro heq
  have heq := congrArg BitVec.toNat heq
  rw [BitVec.toNat_ofNat, BitVec.toNat_ofNat, Nat.mod_eq_of_lt (by omega),
    Nat.mod_eq_of_lt (by omega)] at heq
  exact hne heq

theorem toNat_mantissa : 2 ^ 52 + (BitVec.ofNat 52 m).toNat = m := by
  have hupper := h.upper
  have hrest : m % 2 ^ 52 = m - 2 ^ 52 := by
    rw [Nat.mod_eq_sub_mod h.lower]
    exact Nat.mod_eq_of_lt (by omega)
  rw [BitVec.toNat_ofNat, hrest]
  exact Nat.add_sub_cancel' h.lower

theorem unpack_pack (s : Sign) :
    (pack (.finite s m e h.pos)).unpack = .finite s m e h.pos := by
  have hleast := h.least
  have hgreatest := h.greatest
  have hbiased : (BitVec.ofNat 11 (e + 1075).toNat).toNat = (e + 1075).toNat :=
    Nat.mod_eq_of_lt (by omega)
  have hinfinite : BitVec.ofNat 11 (e + 1075).toNat ≠ -1#11 :=
    h.ofNat_biased_ne (k := 2047) (by decide) (by omega)
  have hzero : BitVec.ofNat 11 (e + 1075).toNat ≠ 0#11 :=
    h.ofNat_biased_ne (by decide) (by omega)
  show UnpackedFloat.unpack .binary64 (UnpackedFloat.pack .binary64 (.finite s m e h.pos)) = _
  rw [h.pack_eq, unpack_packComponents s _ hinfinite hzero (h.pos.trans_eq h.toNat_mantissa.symm)]
  refine (UnpackedFloat.finite.injEq ..).mpr ⟨rfl, h.toNat_mantissa, ?_⟩
  rw [hbiased]
  omega

end IsNormal

/-- Zeros are put behind a mantissa that is too short. -/
theorem round_short {n j : Nat} {d : Int} (h : IsNormal (n * 2 ^ j) (d - j)) (s : Sign) :
    UnpackedFloat.round .binary64 s n d = .finite s (n * 2 ^ j) (d - j) h.pos := by
  have hn : n ≠ 0 := fun hzero => h.pos.ne' (by rw [hzero, Nat.zero_mul])
  have htotal : totalExponent n d = totalExponent (n * 2 ^ j) (d - j) := by
    rw [totalExponent, totalExponent, log2_mul_two_pow hn]
    omega
  have htarget : Format.binary64.targetExponent (totalExponent n d) = d - j := by
    simpa [htotal] using h.targetExponent_shifted 0
  have hshift : (d - (d - j)).toNat = j := by omega
  rw [UnpackedFloat.round, htarget, decreaseExponent, hshift]
  dsimp only
  have hplace := h.roundWithAccuracy_shifted s 0
  rw [Nat.pow_zero, Nat.mul_one, Int.natCast_zero, Int.sub_zero] at hplace
  rw [Nat.shiftLeft_eq]
  exact hplace

/-! ## Whole numbers -/

/-- How many zeros are put behind a whole number. -/
def padding (n : Nat) : Nat := 52 - n.log2

theorem padding_le (n : Nat) : padding n ≤ 52 := Nat.sub_le _ _

theorem isNormal_padded {n : Nat} (hpos : 0 < n) (h : n < 2 ^ 53) :
    IsNormal (n * 2 ^ padding n) (0 - padding n) := by
  obtain ⟨hlower, hupper⟩ := (Nat.log2_eq_iff hpos.ne').mp rfl
  have hlog : n.log2 ≤ 52 := by
    have := (Nat.log2_lt hpos.ne').mpr h
    omega
  have hpad : n.log2 + padding n = 52 := by
    unfold padding
    omega
  refine ⟨?_, ?_, by omega, by omega⟩
  · rw [← hpad, Nat.pow_add]
    exact Nat.mul_le_mul_right _ hlower
  · have hsucc : 53 = n.log2 + 1 + padding n := by omega
    rw [hsucc, Nat.pow_add]
    exact Nat.mul_lt_mul_of_pos_right hupper (Nat.two_pow_pos _)

/-- A number, packed. -/
def ofNormal {m : Nat} {e : Int} (h : IsNormal m e) : Float := ⟨pack (.finite .positive m e h.pos)⟩

theorem isNormal_one : IsNormal (2 ^ 52) (-52) := ⟨by decide, by decide, by decide, by decide⟩

theorem mul_one {m : Nat} {e : Int} (h : IsNormal m e) :
    ofNormal h * ofNormal isNormal_one = ofNormal h := by
  show (⟨pack (UnpackedFloat.mul .binary64 (pack (.finite .positive m e h.pos)).unpack
    (pack (.finite .positive (2 ^ 52) (-52) isNormal_one.pos)).unpack)⟩ : Float) = _
  rw [h.unpack_pack, isNormal_one.unpack_pack]
  exact congrArg (fun x => (⟨pack x⟩ : Float)) (h.roundWithAccuracy_shifted .positive 52)

theorem toFloat_eq {n : Nat} (hpos : 0 < n) (h : n < 2 ^ 53) :
    n.toUInt64.toFloat = ofNormal (isNormal_padded hpos h) := by
  have hword : n.toUInt64.toNat = n := Nat.mod_eq_of_lt (h.trans (by decide))
  have hpositive : compare (n : Int) 0 = .gt := compare_gt_iff_gt.mpr (Int.natCast_pos.mpr hpos)
  show (⟨pack (UnpackedFloat.normalize .binary64 (n.toUInt64.toNat : Int) 0 .positive)⟩ : Float) = _
  rw [hword, UnpackedFloat.normalize, hpositive]
  exact congrArg (fun x => (⟨pack x⟩ : Float)) (round_short (isNormal_padded hpos h) .positive)

theorem ofNat_eq {n : Nat} (hpos : 0 < n) (h : n < 2 ^ 53) :
    Float.ofNat n = ofNormal (isNormal_padded hpos h) := by
  have hone : Float.exactlyRepresentablePowersOfTen[0] = ofNormal isNormal_one := by decide +kernel
  show Float.ofScientific n false 0 = _
  rw [Float.ofScientific, dif_pos ⟨h, by decide⟩]
  show n.toUInt64.toFloat * Float.exactlyRepresentablePowersOfTen[0] = _
  rw [toFloat_eq hpos h, hone, mul_one]

/-- Both summands are brought to the exponent of one, where their sum is a multiple of it. -/
theorem add_one {n p : Nat} (hp : p ≤ 52) (h : IsNormal (n * 2 ^ p) (0 - p)) :
    ofNormal h + ofNormal isNormal_one =
      ⟨pack (UnpackedFloat.round .binary64 .positive ((n + 1) * 2 ^ 52) (-52))⟩ := by
  have hexponent : min (0 - (p : Int)) (-52) = -52 := Int.min_eq_right (by omega)
  have hshift : (0 - (p : Int) - -52).toNat = 52 - p := by omega
  have hones : n * 2 ^ p * 2 ^ (52 - p) = n * 2 ^ 52 := by
    rw [Nat.mul_assoc, ← Nat.pow_add, Nat.add_sub_cancel' hp]
  have hsum : ((n * 2 ^ 52 : Nat) : Int) + ((2 ^ 52 : Nat) : Int) = ((n + 1) * 2 ^ 52 : Nat) := by
    push_cast
    ring
  have hpositive : compare (((n + 1) * 2 ^ 52 : Nat) : Int) 0 = .gt :=
    compare_gt_iff_gt.mpr (Int.natCast_pos.mpr (Nat.mul_pos n.succ_pos (by decide)))
  have hadd : UnpackedFloat.add .binary64 (.finite .positive (n * 2 ^ p) (0 - p) h.pos)
      (.finite .positive (2 ^ 52) (-52) isNormal_one.pos) =
        UnpackedFloat.normalize .binary64 ((n * 2 ^ 52 : Nat) + (2 ^ 52 : Nat)) (-52)
          .positive := by
    delta UnpackedFloat.add
    dsimp only
    rw [hexponent, decreaseExponent, decreaseExponent, hshift, Nat.shiftLeft_eq, hones]
    rfl
  show (⟨pack (UnpackedFloat.add .binary64
    (pack (.finite .positive (n * 2 ^ p) (0 - p) h.pos)).unpack
    (pack (.finite .positive (2 ^ 52) (-52) isNormal_one.pos)).unpack)⟩ : Float) = _
  rw [h.unpack_pack, isNormal_one.unpack_pack, hadd, hsum, UnpackedFloat.normalize, hpositive]
  rfl

theorem round_ones {n : Nat} (hpos : 0 < n) (h : n < 2 ^ 53) :
    (⟨pack (UnpackedFloat.round .binary64 .positive (n * 2 ^ 52) (-52))⟩ : Float) =
      ofNormal (isNormal_padded hpos h) := by
  have hle := padding_le n
  have hones : n * 2 ^ 52 = n * 2 ^ padding n * 2 ^ (52 - padding n) := by
    rw [Nat.mul_assoc, ← Nat.pow_add, Nat.add_sub_cancel' hle]
  have hexponent : (-52 : Int) = 0 - padding n - (52 - padding n : Nat) := by omega
  rw [hones, hexponent, (isNormal_padded hpos h).round_shifted]
  rfl

/-- Below `2 ^ 53` counting is exact. -/
theorem ofNat_add_one {n : Nat} (h : n < 2 ^ 53) :
    Float.ofNat n + Float.ofNat 1 = Float.ofNat (n + 1) := by
  have hone : Float.ofNat 1 = ofNormal isNormal_one := by decide +kernel
  rcases Nat.eq_zero_or_pos n with rfl | hpos
  · decide +kernel
  · rcases Nat.lt_or_eq_of_le h with hlt | heq
    · rw [ofNat_eq hpos h, ofNat_eq n.succ_pos hlt, hone, add_one (padding_le n),
        round_ones n.succ_pos hlt]
    · obtain rfl : n = 2 ^ 53 - 1 := by omega
      decide +kernel

/-- There it stays. -/
theorem ofNat_top_add_one : Float.ofNat (2 ^ 53) + Float.ofNat 1 = Float.ofNat (2 ^ 53) := by
  decide +kernel

/-- How far one gets by adding one so many times. -/
def tally (n : Nat) : Float := Float.ofNat (min n (2 ^ 53))

theorem tally_add_one (n : Nat) : tally n + Float.ofNat 1 = tally (n + 1) := by
  unfold tally
  rcases Nat.lt_or_ge n (2 ^ 53) with h | h
  · rw [Nat.min_eq_left h.le, Nat.min_eq_left h, ofNat_add_one h]
  · rw [Nat.min_eq_right h, Nat.min_eq_right (h.trans n.le_succ), ofNat_top_add_one]

end SeriesQuery.Double
