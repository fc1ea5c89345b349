import SeriesQuery.Proofs.Query.Places
import SeriesQuery.Proofs.Query.Reading
import SeriesQuery.Proofs.Text.Numerals
import SeriesQuery.Proofs.Text.Replies
import Mathlib.Data.List.TakeWhile

/-!
# Pieces of a query read back from their text

Words, brackets and numbers are read back from the way they are printed, whatever follows, as long
as that begins with one of the marks of the grammar.

* `Marked s` : a mark, which is part of no word, value or number, begins `s`;
* `Idle s` : if anything, a gap, a comma or a closing brace begins `s`;
* `IsIdentifier`, `Bracket.Formed` : what the grammar reads, for all words and brackets;
* `Grammar.identifier_append`, `Grammar.bracket_append`, `Grammar.number_append` : the pieces are
  read back;
* `Grammar.identifier_ensures`, `Grammar.bracket_ensures_formed` : nothing else is read.
-/

namespace SeriesQuery

open Text (Located)

/-! ## Marks -/

/-- Characters that stand between the words, values and numbers of an expression. -/
def marks : List Char :=
  [' ', '\t', '\r', '\n', '[', ']', '\x7b', '\x7d', '(', ')', '!', ',', ':', '|', '"', '\'']

/-- If anything, a mark begins `s`. -/
def Marked (s : List Char) : Prop := ∀ c ∈ s.head?, c ∈ marks

def isWordStart (c : Char) : Bool := Text.isAlphabetic c || c == '_'

def isWordChar (c : Char) : Bool := Text.isAlphanumeric c || c == '_' || c == '.'

theorem isValueChar_of_isWordChar {c : Char} (h : isWordChar c = true) : isValueChar c = true := by
  unfold isWordChar at h
  unfold isValueChar
  simp at h ⊢
  tauto

theorem isWordChar_of_isWordStart {c : Char} (h : isWordStart c = true) :
    isWordChar c = true := by
  unfold isWordStart at h
  unfold isWordChar Text.isAlphanumeric
  simp at h ⊢
  tauto

theorem any_isValueChar_marks : marks.any isValueChar = false := by decide +kernel

theorem isWordStart_of_isDigit {c : Char} (h : c.isDigit = true) : isWordStart c = false := by
  have hdigits : ∀ n < 58, 48 ≤ n → isWordStart (Char.ofNat n) = false := by decide +kernel
  have hc : 48 ≤ c.toNat ∧ c.toNat < 58 := by
    unfold Char.isDigit at h
    simp [UInt32.le_iff_toNat_le] at h
    omega
  have := hdigits c.toNat hc.2 hc.1
  rwa [Char.ofNat_toNat] at this

theorem Text.exists_of_inRanges {n : Nat} : ∀ {rs : List (Nat × Nat)}, inRanges rs n = true →
    ∃ r ∈ rs, r.1 ≤ n ∧ n ≤ r.2
  | (lo, hi) :: rs, h => by
    unfold inRanges at h
    split at h
    · contradiction
    · rcases (Bool.or_eq_true _ _).mp h with hn | hn
      · exact ⟨(lo, hi), List.mem_cons_self, by omega, of_decide_eq_true hn⟩
      · obtain ⟨r, hr, hbounds⟩ := exists_of_inRanges hn
        exact ⟨r, List.mem_cons_of_mem _ hr, hbounds⟩

theorem isWordStart_of_isBlank {c : Char} (h : Text.isBlank c = true) : isWordStart c = false := by
  have hblank : ∀ r ∈ Text.blankRanges, ∀ n ∈ List.range' r.1 (r.2 + 1 - r.1),
      isWordStart (Char.ofNat n) = false := by decide +kernel
  obtain ⟨r, hr, hbounds⟩ := Text.exists_of_inRanges h
  have hmem : c.toNat ∈ List.range' r.1 (r.2 + 1 - r.1) := by
    rw [List.mem_range'_1]
    omega
  have := hblank r hr c.toNat hmem
  rwa [Char.ofNat_toNat] at this

theorem any_isDigit_marks : marks.any Char.isDigit = false := by decide

namespace Marked

variable {s : List Char}

theorem nil : Marked [] := fun _ h => absurd h (Option.not_mem_none _)

theorem cons {c : Char} (h : c ∈ marks) (s : List Char) : Marked (c :: s) := by
  rintro _ ⟨⟩
  exact h

theorem stops {p : Char → Bool} (h : Marked s) (hp : marks.any p = false) : Stops p s :=
  fun c hc => eq_false_of_any hp (h c hc)

theorem stops_value (h : Marked s) : Stops isValueChar s := h.stops any_isValueChar_marks

theorem stops_word (h : Marked s) : Stops isWordChar s :=
  h.stops_value.mono fun _ => isValueChar_of_isWordChar

theorem stops_digit (h : Marked s) : Stops Char.isDigit s := h.stops any_isDigit_marks

end Marked

/-- A character of a value is none of the marks. -/
theorem stops_of_isValueChar {c : Char} (h : isValueChar c = true) {cs : List Char}
    (hcs : cs ⊆ marks) (s : List Char) : Stops cs.contains (c :: s) := by
  refine Stops.contains_cons_iff.mpr fun hc => ?_
  exact Bool.eq_false_iff.mp (eq_false_of_any any_isValueChar_marks (hcs hc)) h

/-! ## Idle texts -/

/-- What stands between the items of a list, or ends it. -/
def idleChars : List Char := [' ', '\t', '\r', '\n', ',', '\x7d']

/-- Nothing begins `s` that could begin an item of a list. -/
def Idle (s : List Char) : Prop := ∀ c ∈ s.head?, c ∈ idleChars

theorem any_isWordStart_idleChars : idleChars.any isWordStart = false := by decide +kernel

namespace Idle

theorem nil : Idle [] := fun _ h => absurd h (Option.not_mem_none _)

theorem cons {c : Char} (h : c ∈ idleChars) (s : List Char) : Idle (c :: s) := by
  rintro _ ⟨⟩
  exact h

theorem stops {s : List Char} (h : Idle s) {p : Char → Bool} (hp : idleChars.any p = false) :
    Stops p s :=
  fun c hc => eq_false_of_any hp (h c hc)

end Idle

/-! ## Words -/

/-- A letter or an underscore, then letters, numbers, underscores and points. -/
def IsIdentifier (name : String) : Prop :=
  ∃ c cs, name.toList = c :: cs ∧ isWordStart c = true ∧ ∀ d ∈ cs, isWordChar d = true

namespace IsIdentifier

variable {name : String}

theorem isWordChar (h : IsIdentifier name) : ∀ c ∈ name.toList, isWordChar c = true := by
  obtain ⟨c, cs, hname, hc, hcs⟩ := h
  rw [hname, List.forall_mem_cons]
  exact ⟨isWordChar_of_isWordStart hc, hcs⟩

theorem stops (h : IsIdentifier name) {cs : List Char} (hcs : cs ⊆ marks) (s : List Char) :
    Stops cs.contains (name.toList ++ s) := by
  obtain ⟨c, ds, hname, hc, -⟩ := h
  rw [hname]
  exact stops_of_isValueChar (isValueChar_of_isWordChar (isWordChar_of_isWordStart hc)) hcs _

theorem stops_start (h : IsIdentifier name) {p : Char → Bool}
    (hp : ∀ c, p c = true → isWordStart c = false) (s : List Char) :
    Stops p (name.toList ++ s) := by
  obtain ⟨c, ds, hname, hc, -⟩ := h
  rw [hname]
  exact Stops.cons (Bool.eq_false_iff.mpr fun hpc => Bool.eq_false_iff.mp (hp c hpc) hc)

/-- It begins with neither a sign nor a digit, as a number does. -/
theorem stops_number (h : IsIdentifier name) (s : List Char) :
    Stops ['-'].contains (name.toList ++ s) ∧ Stops Char.isDigit (name.toList ++ s) := by
  have hsign : [('-' : Char)].any isWordStart = false := by decide +kernel
  exact ⟨h.stops_start (fun c hc => eq_false_of_any hsign (List.contains_iff_mem.mp hc)) s,
    h.stops_start (fun _ => isWordStart_of_isDigit) s⟩

end IsIdentifier

namespace Grammar

open SeriesQuery.Parser

theorem identifier_eq : identifier = (do
    let first ← takeWhile1 isWordStart
    let rest ← Parser.takeWhile isWordChar
    return String.ofList (first ++ rest)) := rfl

theorem identifier_eq_done {name : String} {s rest : List Char} :
    identifier s = .done name rest ↔
      s = name.toList ++ rest ∧ IsIdentifier name ∧ Stops isWordChar rest := by
  simp only [identifier_eq, bind_eq_done, takeWhile1_eq_done, takeWhile_eq_done, pure_eq_done]
  constructor
  · rintro ⟨first, mid, ⟨rfl, hne, hfirst, -⟩, more, mid, ⟨rfl, hmore, hrest⟩, rfl, rfl⟩
    obtain ⟨c, cs, rfl⟩ := List.exists_cons_of_ne_nil hne
    rw [List.forall_mem_cons] at hfirst
    refine ⟨by simp, ⟨c, cs ++ more, String.toList_ofList, hfirst.1, ?_⟩, hrest⟩
    exact List.forall_mem_append.mpr ⟨fun d hd => isWordChar_of_isWordStart (hfirst.2 d hd), hmore⟩
  · rintro ⟨rfl, h, hrest⟩
    have hword := h.isWordChar
    obtain ⟨c, cs, hname, hc, -⟩ := h
    -- The first run ends at the first character that is no letter, the second one at the rest.
    obtain ⟨hsplit, hfirst, hstop⟩ :=
      takeWhile_eq_done.mp (rfl : Parser.takeWhile isWordStart name.toList = _)
    have hne : name.toList.takeWhile isWordStart ≠ [] := by
      rw [hname, List.takeWhile_cons_of_pos hc]
      exact List.cons_ne_nil _ _
    have hstop : Stops isWordStart (name.toList.dropWhile isWordStart ++ rest) := by
      cases hmore : name.toList.dropWhile isWordStart with
      | nil => exact hrest.mono fun _ => isWordChar_of_isWordStart
      | cons d ds => exact (hmore ▸ hstop).append (List.cons_ne_nil d ds)
    rw [hsplit] at hword
    refine ⟨_, _, ⟨?_, hne, hfirst, hstop⟩, _, rest,
      ⟨rfl, (List.forall_mem_append.mp hword).2, hrest⟩, ?_, rfl⟩
    · rw [← List.append_assoc, ← hsplit]
    · rw [← hsplit, String.ofList_toList]

theorem identifier_ensures : identifier.Ensures IsIdentifier :=
  fun _ _ _ h => (identifier_eq_done.mp h).2.1

theorem identifier_append {name : String} (h : IsIdentifier name) {rest : List Char}
    (hrest : Marked rest) : identifier (name.toList ++ rest) = .done name rest :=
  identifier_eq_done.mpr ⟨rfl, h, hrest.stops_word⟩

theorem identifier_refused {s : List Char} (h : Stops isWordStart s) :
    identifier s = .refused s := by
  rw [identifier_eq, bind_of_refused (takeWhile1_refused h)]

end Grammar

/-! ## Brackets -/

def Bracket.ms : Bracket → Int
  | .offset ms | .step ms => ms

/-- What can be read: within range, and a number of seconds. -/
structure Bracket.Formed (b : Bracket) : Prop where
  inRange : b.InRange
  seconds : Time.second ∣ b.ms

theorem toList_toString (s : String) : (toString s).toList = s.toList := rfl

theorem toList_toString_char (c : Char) : (toString c).toList = [c] := String.toList_singleton c

theorem Bracket.exists_text (b : Bracket) : ∃ s, b.text.toList = '[' :: s := by
  cases b with
  | offset ms => exact ⟨_, by simp [Bracket.text, toList_toString]; rfl⟩
  | step ms =>
    unfold Bracket.text
    dsimp only
    split <;> simp [toList_toString]

/-- A number of seconds is one of the unit that it is printed in. -/
theorem Time.inUnits_spec {ms : Int} (h : second ∣ ms) : ∃ n unit letter,
    inUnits ms = (n, letter) ∧ (unit, letter) ∈ units ∧ n * unit = ms := by
  unfold inUnits
  split
  · next unit letter hfind =>
    have hdvd := List.find?_some hfind
    rw [Bool.and_eq_true, decide_eq_true_eq, decide_eq_true_eq] at hdvd
    exact ⟨_, unit, letter, rfl, List.mem_of_find?_eq_some hfind,
      Int.tdiv_mul_cancel (Int.dvd_of_emod_eq_zero hdvd.2)⟩
  · exact ⟨_, second, 's', rfl, by decide, Int.tdiv_mul_cancel h⟩

theorem Time.one_le_of_mem_units {unit : Int} {letter : Char} (h : (unit, letter) ∈ units) :
    1 ≤ unit := by
  have hunits : ∀ u ∈ units, 1 ≤ u.1 := by decide
  exact hunits (unit, letter) h

theorem Time.fits_of_mul {n unit ms : Int} {letter : Char} (hunit : (unit, letter) ∈ units)
    (hms : n * unit = ms) (h : fits ms = true) : fits n = true := by
  have hunit := one_le_of_mem_units hunit
  have hle : min ms 0 ≤ n ∧ n ≤ max ms 0 := by
    rcases Int.le_total 0 n with hn | hn
    · have := Int.mul_le_mul_of_nonneg_left hunit hn
      omega
    · have := Int.mul_le_mul_of_nonpos_left hn hunit
      omega
  unfold fits least greatest at h ⊢
  simp at h ⊢
  omega

namespace Grammar

open SeriesQuery.Parser

variable {rest mid : List Char}

theorem unit_cons {unit : Int} {letter : Char} (h : (unit, letter) ∈ Time.units)
    (rest : List Char) : Grammar.unit (letter :: rest) = .done unit rest := by
  simp only [Time.units, List.mem_cons, Prod.mk.injEq, List.not_mem_nil, or_false] at h
  rcases h with ⟨rfl, rfl⟩ | ⟨rfl, rfl⟩ | ⟨rfl, rfl⟩ | ⟨rfl, rfl⟩ | ⟨rfl, rfl⟩ <;> rfl

theorem boundedInt_of_done {p : Parser (List Char)} {s cs : List Char} {n : Int}
    (h : p s = .done cs mid) (hn : readInt? cs = some n) (hfits : Time.fits n = true) :
    boundedInt p s = .done n mid :=
  filterMap_of_done h (by rw [hn]; exact if_pos hfits)

theorem scale_of_fits {n unit ms : Int} (hms : n * unit = ms) (h : Time.fits ms = true)
    (place s : List Char) : scale place n unit s = .done ms s := by
  rw [scale, hms, Time.checked?, if_pos h]

section Durations

variable {n unit ms : Int} {letter : Char} {sign ds : List Char}

/-- The letter of a unit is no digit, no sign, no colon and no blank. -/
theorem stops_letter (h : (unit, letter) ∈ Time.units) (rest : List Char) :
    Stops Char.isDigit (letter :: rest) ∧ Stops ['+', '-'].contains (letter :: rest) ∧
      Stops [':'].contains (letter :: rest) ∧ Stops blankChars.contains (letter :: rest) := by
  have hletters : ∀ u ∈ Time.units, u.2.isDigit = false ∧ ['+', '-'].contains u.2 = false ∧
      [':'].contains u.2 = false ∧ blankChars.contains u.2 = false := by decide
  simp only [Stops.cons_iff]
  exact hletters (unit, letter) h

theorem signedDigits_append (hsign : sign = [] ∨ sign = ['-']) (hds : IsDigits ds)
    (hrest : Stops Char.isDigit rest) :
    signedDigits (sign ++ ds ++ rest) = .done (sign ++ ds) rest := by
  unfold signedDigits
  rcases hsign with rfl | rfl
  · have hstop : Stops ['+', '-'].contains (ds ++ rest) := hds.stops (by decide) rest
    rw [List.nil_append, bind_of_done (optional_of_refused (oneOf_refused hstop)),
      bind_of_done (digits_append hds hrest)]
    rfl
  · rw [List.append_assoc, List.singleton_append,
      bind_of_done (optional_of_done (oneOf_cons (by decide) _)),
      bind_of_done (digits_append hds hrest)]
    rfl

variable (rest) (hunit : (unit, letter) ∈ Time.units)
include hunit

theorem offsetSpec_append (hsign : sign = [] ∨ sign = ['-']) (hds : IsDigits ds)
    (hn : readInt? (sign ++ ds) = some n) (hms : n * unit = ms) (hfits : Time.fits ms = true) :
    offsetSpec (sign ++ ds ++ ':' :: letter :: rest) = .done ms rest := by
  obtain ⟨-, -, -, hblank⟩ := stops_letter hunit rest
  have hcolon : Stops Char.isDigit (':' :: letter :: rest) := Stops.cons (by decide)
  have hn := boundedInt_of_done (signedDigits_append hsign hds hcolon) hn
    (Time.fits_of_mul hunit hms hfits)
  refine (bind_of_done hn).trans ?_
  rw [bind_of_done (blanks_of_stops (Stops.cons (by decide))),
    bind_of_done (char_cons ':' _), bind_of_done (blanks_of_stops hblank),
    bind_of_done (unit_cons hunit rest), scale_of_fits hms hfits]

/-- Without a number there is no offset. -/
theorem offsetSpec_refused_letter : ∃ place, offsetSpec (letter :: rest) = .refused place := by
  obtain ⟨hdigit, hsign, -, -⟩ := stops_letter hunit rest
  have hdigits : signedDigits (letter :: rest) = .refused (letter :: rest) := by
    unfold signedDigits
    rw [bind_of_done (optional_of_refused (oneOf_refused hsign)),
      bind_of_refused (digits_refused hdigit)]
  exact ⟨_, bind_of_refused (filterMap_of_refused _ hdigits)⟩

/-- Without a colon there is no offset. -/
theorem offsetSpec_refused_digits (hds : IsDigits ds) (hn : readInt? ds = some n)
    (hfits : Time.fits n = true) :
    ∃ place, offsetSpec (ds ++ letter :: rest) = .refused place := by
  obtain ⟨hdigit, -, hcolon, hblank⟩ := stops_letter hunit rest
  have hn := boundedInt_of_done (signedDigits_append (.inl rfl) hds hdigit) hn hfits
  refine ⟨letter :: rest, (bind_of_done hn).trans ?_⟩
  rw [bind_of_done (blanks_of_stops hblank), bind_of_refused (char_refused hcolon)]

theorem stepSpec_letter (hpos : 0 < unit) (hfits : Time.fits unit = true) :
    stepSpec (letter :: rest) = .done unit rest := by
  obtain ⟨hdigit, -, -, -⟩ := stops_letter hunit rest
  have hnone := bind_of_refused (f := fun n => do blanks; return n)
    (filterMap_of_refused (fun cs => (readInt? cs).bind Time.checked?) (digits_refused hdigit))
  refine (bind_of_done (optional_of_refused hnone)).trans ?_
  rw [bind_of_done (unit_cons hunit rest), Option.getD_none,
    bind_of_done (scale_of_fits (Int.one_mul unit) hfits _ _), if_neg (by omega)]
  rfl

theorem stepSpec_digits (hds : IsDigits ds) (hn : readInt? ds = some n) (hms : n * unit = ms)
    (hfits : Time.fits ms = true) (hpos : 0 < ms) :
    stepSpec (ds ++ letter :: rest) = .done ms rest := by
  obtain ⟨hdigit, -, -, hblank⟩ := stops_letter hunit rest
  have hn := boundedInt_of_done (digits_append hds hdigit) hn
    (Time.fits_of_mul hunit hms hfits)
  have hsome : (do let n ← boundedInt digits; blanks; return n : Parser Int)
      (ds ++ letter :: rest) = .done n (letter :: rest) := by
    rw [bind_of_done hn, bind_of_done (blanks_of_stops hblank)]
    rfl
  refine (bind_of_done (optional_of_done hsome)).trans ?_
  rw [bind_of_done (unit_cons hunit rest), Option.getD_some,
    bind_of_done (scale_of_fits hms hfits _ _), if_neg (by omega)]
  rfl

end Durations

theorem inBrackets_of_done {p : Parser α} {a : α} {s : List Char}
    (hs : Stops blankChars.contains s) (h : p s = .done a (']' :: rest)) :
    inBrackets p ('[' :: s) = .done a rest := by
  unfold inBrackets
  rw [bind_of_done (char_cons '[' s), bind_of_done (blanks_of_stops hs), bind_of_done h,
    bind_of_done (blanks_of_stops (Stops.cons (by decide))),
    bind_of_done (char_cons ']' rest)]
  rfl

theorem offset_append {ms : Int} (h : (Bracket.offset ms).Formed) (rest : List Char) :
    bracket ((Bracket.offset ms).text.toList ++ rest) = .done (.offset ms) rest := by
  obtain ⟨n, unit, letter, hunits, hunit, hms⟩ := Time.inUnits_spec h.seconds
  obtain ⟨sign, ds, htext, hsign, hds, hn⟩ := exists_digits_repr n
  have htext : (Bracket.offset ms).text.toList ++ rest =
      '[' :: (sign ++ ds ++ ':' :: letter :: ']' :: rest) := by
    dsimp only [Bracket.ms] at hunits
    simp [Bracket.text, hunits, htext, toList_toString, toList_toString_char]
  have hblank : Stops blankChars.contains (sign ++ ds ++ ':' :: letter :: ']' :: rest) :=
    hds.stops_signed hsign (by decide) _
  have hspec := offsetSpec_append (']' :: rest) hunit hsign hds hn hms h.inRange
  rw [htext]
  exact inBrackets_of_done hblank (orElse_of_done _ (map_of_done Bracket.offset hspec))

theorem step_append {ms : Int} (h : (Bracket.step ms).Formed) (rest : List Char) :
    bracket ((Bracket.step ms).text.toList ++ rest) = .done (.step ms) rest := by
  obtain ⟨n, unit, letter, hunits, hunit, hms⟩ := Time.inUnits_spec h.seconds
  obtain ⟨hpos, hfits⟩ := h.inRange
  dsimp only [Bracket.ms] at hunits hms
  by_cases hone : n = 1
  · have htext : (Bracket.step ms).text.toList ++ rest = '[' :: letter :: ']' :: rest := by
      simp [Bracket.text, hunits, hone, toList_toString, toList_toString_char]
    obtain rfl : unit = ms := by rw [← hms, hone, Int.one_mul]
    obtain ⟨place, hoffset⟩ := offsetSpec_refused_letter (']' :: rest) hunit
    have hspec := stepSpec_letter (']' :: rest) hunit hpos hfits
    rw [htext]
    refine inBrackets_of_done (stops_letter hunit _).2.2.2 ?_
    exact (orElse_of_refused _ (map_of_refused _ hoffset)).trans (map_of_done Bracket.step hspec)
  · have hn : 0 ≤ n := by
      by_contra hneg
      have := Int.mul_le_mul_of_nonpos_left (by omega : n ≤ 0) (Time.one_le_of_mem_units hunit)
      omega
    obtain ⟨m, rfl⟩ := Int.eq_ofNat_of_zero_le hn
    have htext : (Bracket.step ms).text.toList ++ rest =
        '[' :: (Decimal.digitsText m ++ letter :: ']' :: rest) := by
      simp [Bracket.text, hunits, toList_toString, toList_toString_char]
      exact Nat.toList_repr
    have hds := isDigits_digitsText m
    have hm : readInt? (Decimal.digitsText m) = some (m : Int) := by
      rw [readInt?_of_isDigits hds, natOfDigits_digitsText]
    obtain ⟨place, hoffset⟩ := offsetSpec_refused_digits (']' :: rest) hunit hds hm
      (Time.fits_of_mul hunit hms hfits)
    have hspec := stepSpec_digits (']' :: rest) hunit hds hm hms hfits hpos
    rw [htext]
    refine inBrackets_of_done (hds.stops (by decide) _) ?_
    exact (orElse_of_refused _ (map_of_refused _ hoffset)).trans (map_of_done Bracket.step hspec)

theorem bracket_append {b : Bracket} (h : b.Formed) (rest : List Char) :
    bracket (b.text.toList ++ rest) = .done b rest :=
  match b with
  | .offset _ => offset_append h rest
  | .step _ => step_append h rest

/-! ### What is read -/

theorem unit_ensures : Grammar.unit.Ensures (Time.second ∣ ·) := by
  refine ensures_bind fun letter => ensures_pure ?_
  have hunits : ∀ u ∈ Time.units, Time.second ∣ u.1 := by decide
  cases hfind : Time.units.find? (·.2 = letter) with
  | none => exact Int.dvd_refl _
  | some u => exact hunits u (List.mem_of_find?_eq_some hfind)

theorem scale_ensures_dvd (place : List Char) (n : Int) {unit : Int} (h : Time.second ∣ unit) :
    (scale place n unit).Ensures (Time.second ∣ ·) := by
  intro s ms rest hms
  unfold scale Time.checked? at hms
  split at hms
  · next heq =>
    obtain ⟨rfl, -⟩ := Reply.done.inj hms
    split at heq
    · exact Option.some.inj heq ▸ Int.dvd_mul_of_dvd_right h
    · contradiction
  · contradiction

theorem bracket_ensures_formed : bracket.Ensures Bracket.Formed := by
  have hoffset : offsetSpec.Ensures (Time.second ∣ ·) := by
    intro s
    refine ensures_bind (fun n => ?_) s
    refine ensures_bind fun _ => ensures_bind fun _ => ensures_bind fun _ => ?_
    exact unit_ensures.bind fun _ hunit => scale_ensures_dvd s n hunit
  have hstep : stepSpec.Ensures (Time.second ∣ ·) := by
    intro s
    refine ensures_bind (fun n => ?_) s
    refine unit_ensures.bind fun _ hunit => ?_
    refine (scale_ensures_dvd s (n.getD 1) hunit).bind fun ms hms => ?_
    split
    · exact ensures_refuse
    · exact ensures_pure hms
  have hseconds : bracket.Ensures fun b => Time.second ∣ b.ms :=
    inBrackets_ensures <|
      (hoffset.map Bracket.offset fun _ h => h).orElse (hstep.map Bracket.step fun _ h => h)
  exact fun s b rest h => ⟨bracket_ensures s b rest h, hseconds s b rest h⟩

/-! ## Numbers -/

theorem number_append (x : Numeral) {rest : List Char} (hrest : Marked rest) :
    number (x.text ++ rest) = .done (.number x.value) rest := by
  have hpoint : Stops ['.'].contains rest := hrest.stops (by decide)
  have hsign : optional (char '-') (x.text ++ rest) =
      .done (if x.negative then some '-' else none) (x.magnitudeText ++ rest) := by
    unfold Numeral.text
    cases x.negative
    · have hstop : Stops ['-'].contains (x.magnitudeText ++ rest) := by
        rw [Numeral.magnitudeText, List.append_assoc]
        exact x.isDigits_whole.stops (by decide) _
      exact optional_of_refused (char_refused hstop)
    · exact optional_of_done (char_cons '-' _)
  have hsome : (if x.negative then some '-' else none).isSome = x.negative := by
    cases x.negative <;> rfl
  unfold number
  rw [bind_of_done hsign, Numeral.magnitudeText, List.append_assoc, Numeral.value]
  by_cases hfraction : x.fraction = []
  · have hnone : (do let _ ← char '.'; digits : Parser _) rest = .refused rest :=
      bind_of_refused (char_refused hpoint)
    rw [hfraction, List.isEmpty_nil, if_pos rfl, List.nil_append,
      bind_of_done (digits_append x.isDigits_whole hrest.stops_digit),
      bind_of_done (optional_of_refused hnone)]
    simp [Numeral.magnitude, hfraction, hsome]
    rfl
  · have hds : IsDigits x.fraction := ⟨hfraction, x.isDigit_fraction⟩
    have hsome' : (do let _ ← char '.'; digits : Parser _) ('.' :: (x.fraction ++ rest)) =
        .done x.fraction rest := by
      rw [bind_of_done (char_cons '.' _), digits_append hds hrest.stops_digit]
    have hempty : ¬x.fraction.isEmpty = true := by simpa using hfraction
    rw [if_neg hempty, List.cons_append,
      bind_of_done (digits_append x.isDigits_whole (Stops.cons (by decide))),
      bind_of_done (optional_of_done hsome')]
    simp [Numeral.magnitude, hsome]
    rfl

/-- A number begins with a sign or a digit. -/
theorem number_refused {s : List Char} (hsign : Stops ['-'].contains s)
    (hdigit : Stops Char.isDigit s) : number s = .refused s := by
  unfold number
  rw [bind_of_done (optional_of_refused (char_refused hsign)),
    bind_of_refused (digits_refused hdigit)]

end Grammar

end SeriesQuery
