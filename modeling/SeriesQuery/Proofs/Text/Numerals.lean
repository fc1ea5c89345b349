import SeriesQuery.Decimal.Text
import SeriesQuery.Proofs.Text.Accepts

/-!
# Numbers read back from their text

* `Decimal.digitsText n`, `Int.repr n` : integers are read back by `readInt?`;
* `Numeral` : a sign, digits and digits behind a point, `Numeral.text` and `Numeral.value`;
* `Numeral.readNumber?_text` : what the text of one is read as;
* `Parser.digits_append` : a run of digits is read up to its end;
* `exists_positional` : digits with a point behind the first of them, or with zeros around them;
* `exists_numeral_of_isFinite` : a finite double is printed as a numeral.
-/

namespace SeriesQuery

/-! ## Integers -/

/-- Not empty, and digits only. -/
structure IsDigits (cs : List Char) : Prop where
  ne_nil : cs ≠ []
  isDigit : ∀ c ∈ cs, c.isDigit = true

def isSignOrDigit (c : Char) : Bool := c == '-' || c.isDigit

namespace IsDigits

variable {cs ds : List Char}

theorem exists_cons (h : IsDigits cs) : ∃ c ds, cs = c :: ds ∧ c.isDigit = true := by
  obtain ⟨c, ds, rfl⟩ := List.exists_cons_of_ne_nil h.ne_nil
  exact ⟨c, ds, rfl, h.isDigit c List.mem_cons_self⟩

theorem append_left (hcs : IsDigits cs) (hds : ∀ d ∈ ds, d.isDigit = true) :
    IsDigits (cs ++ ds) where
  ne_nil := List.append_ne_nil_of_left_ne_nil hcs.ne_nil ds
  isDigit := List.forall_mem_append.mpr ⟨hcs.isDigit, hds⟩

theorem stops (h : IsDigits ds) {cs : List Char} (hcs : cs.any Char.isDigit = false)
    (rest : List Char) : Stops cs.contains (ds ++ rest) := by
  obtain ⟨d, ds, rfl, hd⟩ := h.exists_cons
  exact Stops.contains_cons_iff.mpr fun hmem =>
    Bool.eq_false_iff.mp (eq_false_of_any hcs hmem) hd

/-- With a sign in front of them if need be. -/
theorem stops_signed (h : IsDigits ds) {sign : List Char} (hsign : sign = [] ∨ sign = ['-'])
    (hcs : cs.any isSignOrDigit = false) (rest : List Char) :
    Stops cs.contains (sign ++ ds ++ rest) := by
  rcases hsign with rfl | rfl
  · obtain ⟨d, ds, rfl, hd⟩ := h.exists_cons
    refine Stops.contains_cons_iff.mpr fun hmem => ?_
    have := eq_false_of_any hcs hmem
    simp [isSignOrDigit, hd] at this
  · exact Stops.contains_cons_iff.mpr fun hmem => absurd (eq_false_of_any hcs hmem) (by decide)

end IsDigits

namespace Parser

variable {ds rest : List Char}

theorem digits_append (hds : IsDigits ds) (hrest : Stops Char.isDigit rest) :
    digits (ds ++ rest) = .done ds rest :=
  takeWhile1_append hds.ne_nil hds.isDigit hrest

theorem digits_refused (h : Stops Char.isDigit rest) : digits rest = .refused rest :=
  takeWhile1_refused h

end Parser

theorem isDigits_digitsText (n : Nat) : IsDigits (Decimal.digitsText n) where
  ne_nil := Nat.toDigits_ne_nil
  isDigit _ hc := Nat.isDigit_of_mem_toDigits (by decide) (by decide) hc

theorem natOfDigits_digitsText (n : Nat) : natOfDigits (Decimal.digitsText n) = n :=
  Nat.ofDigitChars_ten_toDigits

theorem readInt?_of_isDigits {cs : List Char} (h : IsDigits cs) :
    readInt? cs = some (natOfDigits cs : Int) := by
  obtain ⟨c, ds, rfl, hc⟩ := h.exists_cons
  have hnat : readInt?.nat? (c :: ds) = some (natOfDigits (c :: ds) : Int) :=
    if_pos (List.all_eq_true.mpr h.isDigit)
  unfold readInt?
  split
  · next heq =>
    obtain ⟨rfl, -⟩ := List.cons.inj heq
    exact absurd hc (by decide)
  · next heq =>
    obtain ⟨rfl, -⟩ := List.cons.inj heq
    exact absurd hc (by decide)
  · exact hnat

theorem readInt?_negative {cs : List Char} (h : IsDigits cs) :
    readInt? ('-' :: cs) = some (-(natOfDigits cs : Int)) := by
  have hnat : readInt?.nat? cs = some (natOfDigits cs : Int) := by
    obtain ⟨c, ds, rfl, -⟩ := h.exists_cons
    exact if_pos (List.all_eq_true.mpr h.isDigit)
  rw [readInt?, hnat]
  rfl

/-- The text of an integer is a sign, if it is negative, and digits. -/
theorem exists_digits_repr (n : Int) : ∃ sign ds, n.repr.toList = sign ++ ds ∧
    (sign = [] ∨ sign = ['-']) ∧ IsDigits ds ∧ readInt? (sign ++ ds) = some n := by
  cases n with
  | ofNat m =>
    refine ⟨[], Decimal.digitsText m, ?_, .inl rfl, isDigits_digitsText m, ?_⟩
    · exact Nat.toList_repr
    · rw [List.nil_append, readInt?_of_isDigits (isDigits_digitsText m), natOfDigits_digitsText]
      rfl
  | negSucc m =>
    refine ⟨['-'], Decimal.digitsText (m + 1), ?_, .inr rfl, isDigits_digitsText _, ?_⟩
    · rw [Int.repr, String.toList_append, Nat.toList_repr]
      rfl
    · rw [List.singleton_append, readInt?_negative (isDigits_digitsText _), natOfDigits_digitsText]
      rfl

/-! ## Decimal numbers -/

structure Numeral where
  negative : Bool
  whole : List Char
  fraction : List Char
  isDigits_whole : IsDigits whole
  isDigit_fraction : ∀ c ∈ fraction, c.isDigit = true

namespace Numeral

def magnitudeText (x : Numeral) : List Char :=
  x.whole ++ if x.fraction.isEmpty then [] else '.' :: x.fraction

def text (x : Numeral) : List Char := (if x.negative then ['-'] else []) ++ x.magnitudeText

def magnitude (x : Numeral) : Float :=
  floatOfDecimal (natOfDigits (x.whole ++ x.fraction)) (-x.fraction.length)

def value (x : Numeral) : Float := if x.negative then -x.magnitude else x.magnitude

variable (x : Numeral)

theorem stops_text {cs : List Char} (hcs : cs.any isSignOrDigit = false)
    (rest : List Char) : Stops cs.contains (x.text ++ rest) := by
  have hsign : (if x.negative then ['-'] else []) = [] ∨
      (if x.negative then ['-'] else []) = ['-'] := by
    cases x.negative
    · exact .inl rfl
    · exact .inr rfl
  rw [text, magnitudeText, ← List.append_assoc, List.append_assoc]
  exact x.isDigits_whole.stops_signed hsign hcs _

theorem takeWhile_magnitudeText :
    x.magnitudeText.takeWhile Char.isDigit = x.whole ∧
      x.magnitudeText.dropWhile Char.isDigit =
        if x.fraction.isEmpty then [] else '.' :: x.fraction := by
  refine Stops.takeWhile_append ?_ x.isDigits_whole.isDigit
  split
  · exact Stops.nil
  · exact Stops.cons (by decide)

theorem readMagnitude?_text : readMagnitude? x.magnitudeText = some x.magnitude := by
  obtain ⟨htake, hdrop⟩ := x.takeWhile_magnitudeText
  have hwhole : x.whole.isEmpty = false := by simpa using x.isDigits_whole.ne_nil
  unfold readMagnitude? magnitude
  rw [htake, hdrop]
  by_cases hfraction : x.fraction.isEmpty = true
  · rw [if_pos hfraction, List.isEmpty_iff.mp hfraction]
    dsimp only
    rw [hwhole]
    rfl
  · obtain ⟨htake', hdrop'⟩ := Stops.nil.takeWhile_append x.isDigit_fraction
    rw [List.append_nil] at htake' hdrop'
    rw [if_neg hfraction]
    refine Option.bind_eq_some_iff.mpr ⟨(), ?_, ?_⟩
    · rw [hwhole]
      rfl
    · dsimp only
      split
      · change some (floatOfDecimal (natOfDigits (x.whole ++ x.fraction.takeWhile Char.isDigit))
          (0 - (x.fraction.takeWhile Char.isDigit).length)) = _
        rw [htake', Int.zero_sub]
      · next heq => exact absurd (hdrop'.symm.trans heq) (List.cons_ne_nil _ _).symm

/-- What begins with a digit is none of the names of numbers. -/
theorem toLower_ne_of_isDigit {c : Char} {cs : List Char} (hc : c.isDigit = true) {name : String}
    (hname : name.toList.head?.any Char.isDigit = false) :
    (String.ofList (c :: cs)).toLower ≠ name := by
  rintro rfl
  have hlower : c.toLower = c := by
    unfold Char.toLower
    unfold Char.isDigit at hc
    split
    · next h =>
      simp [UInt32.le_iff_toNat_le] at h hc
      omega
    · rfl
  have hhead : (String.ofList (c :: cs)).toLower.toList.head? = some c := by
    change (String.map Char.toLower (String.ofList (c :: cs))).toList.head? = some c
    rw [String.toList_map, String.toList_ofList, List.map_cons, List.head?_cons, hlower]
  rw [hhead] at hname
  exact absurd hc (Bool.eq_false_iff.mp hname)

theorem readNumber?_text : readNumber? x.text = some x.value := by
  obtain ⟨c, ds, hcs, hc⟩ := x.isDigits_whole.exists_cons
  have hcons : x.magnitudeText =
      c :: (ds ++ if x.fraction.isEmpty then [] else '.' :: x.fraction) := by
    rw [magnitudeText, hcs, List.cons_append]
  have hname (name : String) (h : name.toList.head?.any Char.isDigit = false) :
      (String.ofList x.magnitudeText).toLower ≠ name := by
    rw [hcons]
    exact toLower_ne_of_isDigit hc h
  have hnan := hname "nan" (by decide)
  have hinf := hname "inf" (by decide)
  have hinfinity := hname "infinity" (by decide)
  have hminus : c ≠ '-' := fun h => absurd (h ▸ hc) (by decide)
  have hplus : c ≠ '+' := fun h => absurd (h ▸ hc) (by decide)
  unfold text value
  -- The names are tried before the digits, behind a sign as well as without one.
  cases x.negative
  · unfold readNumber?
    dsimp only [Bool.false_eq_true, if_false, List.nil_append]
    split
    · next heq =>
      rw [hcons] at heq
      exact absurd (List.cons.inj heq).1 hminus
    · next heq =>
      rw [hcons] at heq
      exact absurd (List.cons.inj heq).1 hplus
    · split <;> first | contradiction | exact x.readMagnitude?_text
  · rw [if_pos rfl, if_pos rfl, List.singleton_append]
    unfold readNumber?
    refine (congrArg (Option.map (-·)) ?_ : _ = Option.map (-·) (some x.magnitude))
    dsimp only
    split <;> first | contradiction | exact x.readMagnitude?_text

end Numeral

/-- Digits are laid out with the point among them, behind them or before them. -/
theorem exists_positional {digits : List Char} (hds : IsDigits digits) (wholeEnd : List Char)
    (point : Int) : ∃ whole fraction, IsDigits whole ∧ (∀ c ∈ fraction, c.isDigit = true) ∧
      (whole = ['0'] ∨ whole.head? = digits.head?) ∧
      Decimal.positionalText wholeEnd digits point =
        whole ++ if fraction.isEmpty then wholeEnd else '.' :: fraction := by
  have hzeros (n : Nat) : ∀ c ∈ List.replicate n '0', c.isDigit = true := fun c hc =>
    List.eq_of_mem_replicate hc ▸ rfl
  unfold Decimal.positionalText
  split
  · refine ⟨['0'], List.replicate (-point).toNat '0' ++ digits, isDigits_digitsText 0,
      List.forall_mem_append.mpr ⟨hzeros _, hds.isDigit⟩, .inl rfl, ?_⟩
    simp [hds.ne_nil]
  · split
    · refine ⟨digits ++ List.replicate (point.toNat - digits.length) '0', [],
        hds.append_left (hzeros _), List.forall_mem_nil _, .inr ?_, by simp⟩
      rw [List.head?_append, Option.or_of_isSome (List.isSome_head?.mpr hds.ne_nil)]
    · next hpos hlt =>
      have hwhole : digits.take point.toNat ≠ [] := by
        simp [hds.ne_nil]
        omega
      have hfraction : digits.drop point.toNat ≠ [] := by
        simp
        omega
      refine ⟨digits.take point.toNat, digits.drop point.toNat,
        ⟨hwhole, fun c hc => hds.isDigit c (List.mem_of_mem_take hc)⟩,
        fun c hc => hds.isDigit c (List.mem_of_mem_drop hc), .inr ?_, ?_⟩
      · rw [List.head?_take, if_neg (by omega)]
      · simp [hfraction]

theorem exists_numeral (negative : Bool) (d : Decimal) : ∃ x : Numeral,
    x.negative = negative ∧ x.magnitudeText = d.text .plain := by
  unfold Decimal.text
  split
  · exact ⟨⟨negative, ['0'], [], isDigits_digitsText 0, List.forall_mem_nil _⟩, rfl, rfl⟩
  · dsimp only
    have hplain (point : Int) : NumberStyle.plain.isPositional point = true := rfl
    obtain ⟨whole, fraction, hwhole, hfraction, -, heq⟩ :=
      exists_positional (isDigits_digitsText d.digits) NumberStyle.plain.wholeEnd
        ((Decimal.digitsText d.digits).length + d.exponent)
    rw [if_pos (hplain _), heq]
    exact ⟨⟨negative, whole, fraction, hwhole, hfraction⟩, rfl, rfl⟩

theorem isFinite_iff {v : Float} : v.isFinite = true ↔ v.isNaN = false ∧ v.isInf = false := by
  change v.toModel.unpack.isFinite = true ↔
    v.toModel.unpack.isNaN = false ∧ v.toModel.unpack.isInf = false
  cases v.toModel.unpack with
  | finite => exact ⟨fun _ => ⟨rfl, rfl⟩, fun _ => rfl⟩
  | zero => exact ⟨fun _ => ⟨rfl, rfl⟩, fun _ => rfl⟩
  | infinity => exact ⟨nofun, fun h => nomatch h.2⟩
  | notANumber => exact ⟨nofun, fun h => nomatch h.1⟩

theorem exists_numeral_of_isFinite {v : Float} (h : v.isFinite = true) :
    ∃ x : Numeral, (plainText v).toList = x.text := by
  have hkind := isFinite_iff.mp h
  obtain ⟨x, hnegative, hx⟩ :=
    exists_numeral (Binary.isNegative v) ((Binary.ofFloat v).shortest NumberStyle.plain.tie)
  refine ⟨x, ?_⟩
  unfold plainText shortestText floatText
  rw [if_neg (Bool.eq_false_iff.mp hkind.1), if_neg (Bool.eq_false_iff.mp hkind.2),
    String.toList_ofList, Numeral.text, hnegative, hx, signText]

end SeriesQuery
