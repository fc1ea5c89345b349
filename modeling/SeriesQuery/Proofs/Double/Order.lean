import SeriesQuery.Proofs.Double.Storage
import Mathlib.Data.Prod.Lex
import Mathlib.Order.Compare

/-!
# The order of doubles

A double that is not NaN has a rank: its sign and whether it is zero, finite or infinite, and for
numbers the exponent and the mantissa. Comparing doubles is comparing their ranks, and what has no
rank compares to nothing.

* `Double.rank` : the rank;
* `Double.rank_eq_none_iff` : NaN is what has none;
* `Double.lt_iff`, `Double.le_iff` : the comparisons;
* `Double.Same`, `Double.same_of_rank` : of one rank are just the two zeros.
-/

namespace SeriesQuery.Double

open Float.Model (UnpackedFloat)

/-! ## Ranks -/

abbrev Rank := Int ×ₗ Int ×ₗ Int

/-- By class, then by exponent and by mantissa. -/
def place (c e m : Int) : Rank := toLex (c, toLex (e, m))

def rankOf : UnpackedFloat → Option Rank
  | .notANumber => none
  | .infinity .negative => some (place (-2) 0 0)
  | .finite .negative m e _ => some (place (-1) (-e) (-m))
  | .zero _ => some (place 0 0 0)
  | .finite .positive m e _ => some (place 1 e m)
  | .infinity .positive => some (place 2 0 0)

theorem compare_place (c e₁ m₁ e₂ m₂ : Int) :
    compare (place c e₁ m₁) (place c e₂ m₂) = (compare e₁ e₂).then (compare m₁ m₂) := by
  have hsame : compare c c = .eq := compare_eq_iff_eq.mpr rfl
  simp only [place, Prod.Lex.compare_def, compareLex, compareOn, ofLex_toLex, hsame,
    Ordering.then]

theorem compare_neg (a b : Int) : compare (-a) (-b) = (compare a b).swap := by
  rw [← Int.compare_swap]
  simp only [compare, compareOfLessAndEq]
  grind

theorem compare_natCast (m n : Nat) : compare (m : Int) (n : Int) = compare m n := by
  simp only [compare, compareOfLessAndEq, Int.ofNat_lt, Int.ofNat_inj]

theorem compare_eq (x y : UnpackedFloat) :
    x.compare y = (rankOf x).bind fun a => (rankOf y).map (compare a) := by
  -- two numbers of one sign are the only case that the classes do not decide
  have hpositive (m n : Nat) (e d : Int) (hm : 0 < m) (hn : 0 < n) :
      (UnpackedFloat.finite .positive m e hm).compare (.finite .positive n d hn) =
        some (compare (place 1 e m) (place 1 d n)) := by
    rw [compare_place, compare_natCast]
    rfl
  have hnegative (m n : Nat) (e d : Int) (hm : 0 < m) (hn : 0 < n) :
      (UnpackedFloat.finite .negative m e hm).compare (.finite .negative n d hn) =
        some (compare (place (-1) (-e) (-m)) (place (-1) (-d) (-n))) := by
    rw [compare_place, compare_neg, compare_neg, compare_natCast, ← Ordering.swap_then]
    rfl
  cases x with
  | notANumber => rfl
  | zero s => rcases y with (_ | _) | _ | _ | ⟨_ | _⟩ <;> rfl
  | infinity s => cases s <;> rcases y with (_ | _) | _ | _ | ⟨_ | _⟩ <;> rfl
  | finite s m e hm =>
    cases y with
    | notANumber => cases s <;> rfl
    | zero t => cases s <;> rfl
    | infinity t => cases s <;> cases t <;> rfl
    | finite t n d hn =>
      cases s <;> cases t
      · exact hnegative m n e d hm hn
      · rfl
      · rfl
      · exact hpositive m n e d hm hn

/-! ## Comparisons -/

def rank (x : Float) : Option Rank := rankOf x.toModel.unpack

theorem rank_eq_none_iff {x : Float} : rank x = none ↔ x.isNaN = true := by
  have hnan : x.isNaN = x.toModel.unpack.isNaN := rfl
  rw [hnan, rank]
  rcases x.toModel.unpack with (_ | _) | _ | _ | ⟨_ | _⟩
  case notANumber => exact iff_of_true rfl rfl
  all_goals exact iff_of_false nofun nofun

/-- Comparing succeeds on two ranks only. -/
theorem compare_eq_some_iff {x y : Float} {o : Ordering} :
    x.toModel.unpack.compare y.toModel.unpack = some o ↔
      ∃ a ∈ rank x, ∃ b ∈ rank y, compare a b = o := by
  rw [compare_eq, Option.bind_eq_some_iff]
  simp only [Option.map_eq_some_iff, rank, Option.mem_def]

theorem lt_iff {x y : Float} : x < y ↔ ∃ a ∈ rank x, ∃ b ∈ rank y, a < b := by
  have hlt : x < y ↔ x.toModel.unpack.compare y.toModel.unpack = some .lt :=
    decide_eq_true_iff.trans beq_iff_eq
  rw [hlt, compare_eq_some_iff]
  simp only [compare_lt_iff_lt]

theorem le_iff {x y : Float} : x ≤ y ↔ ∃ a ∈ rank x, ∃ b ∈ rank y, a ≤ b := by
  have hle : x ≤ y ↔ ∃ o, x.toModel.unpack.compare y.toModel.unpack = some o ∧ o.isLE = true :=
    decide_eq_true_iff.trans (Option.any_eq_true ..)
  rw [hle]
  constructor
  · rintro ⟨o, hcompare, ho⟩
    obtain ⟨a, ha, b, hb, rfl⟩ := compare_eq_some_iff.mp hcompare
    exact ⟨a, ha, b, hb, compare_le_iff_le.mp (Ordering.isLE_iff_ne_gt.mp ho)⟩
  · rintro ⟨a, ha, b, hb, h⟩
    exact ⟨_, compare_eq_some_iff.mpr ⟨a, ha, b, hb, rfl⟩,
      Ordering.isLE_iff_ne_gt.mpr (compare_le_iff_le.mpr h)⟩

/-! ## Equal numbers -/

theorem place_inj {c d e₁ e₂ m₁ m₂ : Int} :
    place c e₁ m₁ = place d e₂ m₂ ↔ c = d ∧ e₁ = e₂ ∧ m₁ = m₂ := by
  simp [place]

/-- Only the zeros share a rank. -/
theorem eq_of_rankOf {u v : UnpackedFloat} (h : rankOf u = rankOf v) (hu : rankOf u ≠ none) :
    u = v ∨ ∃ s t, u = .zero s ∧ v = .zero t := by
  have hv : rankOf v ≠ none := h ▸ hu
  have hplace {c d e₁ e₂ m₁ m₂ : Int} (h : some (place c e₁ m₁) = some (place d e₂ m₂)) :
      c = d ∧ e₁ = e₂ ∧ m₁ = m₂ := place_inj.mp (Option.some.inj h)
  rcases u with (_ | _) | _ | s | ⟨_ | _, m, e, _⟩ <;>
    rcases v with (_ | _) | _ | t | ⟨_ | _, n, d, _⟩
  case zero.zero => exact .inr ⟨s, t, rfl, rfl⟩
  case finite.negative.finite.negative =>
    obtain ⟨-, hexponent, hmantissa⟩ := hplace h
    obtain rfl := Int.neg_inj.mp hexponent
    obtain rfl := Int.ofNat_inj.mp (Int.neg_inj.mp hmantissa)
    exact .inl rfl
  case finite.positive.finite.positive =>
    obtain ⟨-, rfl, hmantissa⟩ := hplace h
    obtain rfl := Int.ofNat_inj.mp hmantissa
    exact .inl rfl
  -- the classes tell all others apart
  all_goals
    first
    | exact .inl rfl
    | exact absurd rfl hu
    | exact absurd rfl hv
    | exact absurd (hplace h).1 (by decide)

/-- The same double, up to the sign of zero. -/
def Same (x y : Float) : Prop := x = y ∨ x = 0 ∧ y = -0 ∨ x = -0 ∧ y = 0

theorem eq_zero_of_unpack {x : Float} {s : UnpackedFloat.Sign} (h : x.toModel.unpack = .zero s) :
    x = 0 ∨ x = -0 := by
  have hx : x.toModel.unpack ≠ .notANumber := fun hnan => nomatch h.symm.trans hnan
  cases s with
  | positive => exact .inl (eq_of_unpack (h.trans rfl) hx)
  | negative => exact .inr (eq_of_unpack (h.trans rfl) hx)

theorem same_of_rank {x y : Float} {a : Rank} (hx : rank x = some a) (hy : rank y = some a) :
    Same x y := by
  have hne : rank x ≠ none := fun hnone => nomatch hx.symm.trans hnone
  rcases eq_of_rankOf (hx.trans hy.symm) hne with h | ⟨s, t, hs, ht⟩
  · exact .inl (eq_of_unpack h fun hnan => hne (congrArg rankOf hnan))
  · rcases eq_zero_of_unpack hs with rfl | rfl <;> rcases eq_zero_of_unpack ht with rfl | rfl
    · exact .inl rfl
    · exact .inr (.inl ⟨rfl, rfl⟩)
    · exact .inr (.inr ⟨rfl, rfl⟩)
    · exact .inl rfl

end SeriesQuery.Double
