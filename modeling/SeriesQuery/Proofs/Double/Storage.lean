import Mathlib.Algebra.Group.Nat.Defs

/-!
# How doubles are stored

A double is 64 bits: a sign, an exponent of 11 bits and a mantissa of 52. Zeros and small numbers
have an exponent of their own and their mantissa as it is, infinities and NaN have another one; all
other mantissas have 53 bits, of which the first one is not stored.

* `unpack_packComponents` : a full mantissa is read with the bit that is not stored;
* `fields` : the three parts as they are stored, `eq_of_fields` : which are all there is;
* `fieldsOf`, `fields_eq` : they are known by what the double stands for, unless it is NaN;
* `eq_of_unpack` : so doubles that stand for the same are the same.
-/

namespace SeriesQuery.Double

open Float.Model (Format UnpackedFloat)
open Float.Model.UnpackedFloat

/-! ## Single fields -/

/-- The first bit is the sign. -/
theorem ofBitVec_unpackSign (s : Sign) (e : BitVec 11) (m : BitVec 52) :
    Sign.ofBitVec (unpackSign (packComponents .binary64 s e m)) = s := by
  have hfirst : unpackSign (packComponents .binary64 s e m) = s.toBitVec := by
    show (s.toBitVec ++ e ++ m).extractLsb' (52 + 11) 1 = s.toBitVec
    rw [BitVec.append_assoc]
    exact BitVec.extractLsb'_append_eq_left
  rw [hfirst]
  cases s <;> rfl

theorem toBitVec_ofBitVec (b : BitVec 1) : (Sign.ofBitVec b).toBitVec = b := by
  decide +revert

/-- The first bit of a full mantissa. -/
theorem toNat_one_append (m : BitVec 52) : (1#1 ++ m).toNat = 2 ^ 52 + m.toNat := by
  have happend : (1#1 ++ m).toNat = 2 ^ 52 * 1 ||| m.toNat := rfl
  rw [happend, ← Nat.two_pow_add_eq_or_of_lt m.isLt, Nat.mul_one]

/-- A full mantissa is read with the bit that is not stored. -/
theorem unpack_packComponents (s : Sign) {e : BitVec 11} (m : BitVec 52) (hinfinite : e ≠ -1#11)
    (hzero : e ≠ 0#11) (hpos : 0 < 2 ^ 52 + m.toNat) :
    UnpackedFloat.unpack .binary64 (packComponents .binary64 s e m) =
      .finite s (2 ^ 52 + m.toNat) (e.toNat - 1075) hpos := by
  have hexponent : unpackExponent (packComponents .binary64 s e m) = e :=
    unpackExponent_packComponents
  have hbias : (Format.binary64.exponentBias : Int) + (52 : Nat) = 1075 := by decide
  delta UnpackedFloat.unpack
  dsimp only
  rw [hexponent, if_neg hinfinite, if_neg hzero, hbias]
  refine (UnpackedFloat.finite.injEq ..).mpr ⟨ofBitVec_unpackSign s e m, ?_, rfl⟩
  rw [toNat_one_append, unpackMantissa_packComponents]

/-! ## All fields -/

/-- Sign, exponent and mantissa as they are stored. -/
def fields (b : BitVec Format.binary64.numBits) : BitVec 1 × Nat × Nat :=
  (unpackSign b, (unpackExponent b).toNat, (unpackMantissa b).toNat)

theorem eq_of_fields {b c : BitVec Format.binary64.numBits} (h : fields b = fields c) : b = c := by
  obtain ⟨hsign, hrest⟩ := Prod.ext_iff.mp h
  have hsign : b.toNat >>> 63 % 2 ^ 1 = c.toNat >>> 63 % 2 ^ 1 := congrArg BitVec.toNat hsign
  have hexponent : b.toNat >>> 52 % 2 ^ 11 = c.toNat >>> 52 % 2 ^ 11 := congrArg Prod.fst hrest
  have hmantissa : b.toNat >>> 0 % 2 ^ 52 = c.toNat >>> 0 % 2 ^ 52 := congrArg Prod.snd hrest
  simp only [Nat.shiftRight_eq_div_pow] at hsign hexponent hmantissa
  have hb : b.toNat < 2 ^ 64 := b.isLt
  have hc : c.toNat < 2 ^ 64 := c.isLt
  exact BitVec.eq_of_toNat_eq (by omega)

/-- The fields of a number or an infinity. -/
def fieldsOf : UnpackedFloat → BitVec 1 × Nat × Nat
  | .notANumber => (0, 0, 0)
  | .infinity s => (s.toBitVec, 2047, 0)
  | .zero s => (s.toBitVec, 0, 0)
  | .finite s m e _ =>
    if m < 2 ^ 52 then (s.toBitVec, 0, m) else (s.toBitVec, (e + 1075).toNat, m - 2 ^ 52)

theorem fieldsOf_short {s : Sign} {m : Nat} {e : Int} (hm : 0 < m) (h : m < 2 ^ 52) :
    fieldsOf (.finite s m e hm) = (s.toBitVec, 0, m) := if_pos h

theorem fieldsOf_full {s : Sign} {m : Nat} {e : Int} (hm : 0 < m) (h : ¬m < 2 ^ 52) :
    fieldsOf (.finite s m e hm) = (s.toBitVec, (e + 1075).toNat, m - 2 ^ 52) := if_neg h

theorem fields_eq (b : BitVec Format.binary64.numBits)
    (hb : UnpackedFloat.unpack .binary64 b ≠ .notANumber) :
    fields b = fieldsOf (UnpackedFloat.unpack .binary64 b) := by
  have hbias : (Format.binary64.exponentBias : Int) + (52 : Nat) = 1075 := by decide
  have hsign : unpackSign b = (Sign.ofBitVec (unpackSign b)).toBitVec :=
    (toBitVec_ofBitVec (unpackSign b)).symm
  revert hb
  delta UnpackedFloat.unpack fields
  dsimp only
  -- in turn: infinity, NaN, zero, a small number, any other number
  by_cases hinfinite : unpackExponent b = -1#11
  · rw [if_pos hinfinite]
    by_cases hnone : unpackMantissa b = 0#52
    · intro _
      rw [if_pos hnone, hinfinite, hnone]
      exact Prod.ext hsign rfl
    · rw [if_neg hnone]
      exact fun hb => absurd rfl hb
  rw [if_neg hinfinite]
  by_cases hsmall : unpackExponent b = 0#11
  · rw [if_pos hsmall]
    by_cases hzero : unpackMantissa b = 0#52
    · intro _
      rw [dif_pos hzero, hsmall, hzero]
      exact Prod.ext hsign rfl
    · intro _
      rw [dif_neg hzero, fieldsOf_short _ (BitVec.isLt _), hsmall]
      exact Prod.ext hsign rfl
  · intro _
    have hfull : ¬(1#1 ++ unpackMantissa b).toNat < 2 ^ 52 := by
      rw [toNat_one_append]
      omega
    rw [if_neg hsmall, fieldsOf_full _ hfull, toNat_one_append, Nat.add_sub_cancel_left, hbias,
      Int.sub_add_cancel, Int.toNat_natCast, ← hsign]

theorem eq_of_unpack {x y : Float} (h : x.toModel.unpack = y.toModel.unpack)
    (hx : x.toModel.unpack ≠ .notANumber) : x = y := by
  have hy : y.toModel.unpack ≠ .notANumber := fun hnan => hx (h.trans hnan)
  have hfields : fields x.toModel.toBits.toBitVec = fields y.toModel.toBits.toBitVec := by
    rw [fields_eq _ hx, fields_eq _ hy]
    exact congrArg fieldsOf h
  have hbits := UInt64.toBitVec_inj.mp (eq_of_fields hfields)
  obtain ⟨⟨_, _⟩⟩ := x
  obtain ⟨⟨_, _⟩⟩ := y
  subst hbits
  rfl

end SeriesQuery.Double
