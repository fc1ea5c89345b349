import SeriesQuery.Json.Reader
import SeriesQuery.Proofs.Text.Numerals
import Mathlib.Data.List.Basic

/-!
# JSON numbers read back from their text

* `Json.Closes s` : what may follow a value;
* `Json.IsNumber token` : a sign, a whole part, a fraction and an exponent, of which only the whole
  part must be there;
* `Json.numberToken_append` : such a token is read back wherever a value can end;
* `Json.isNumber_repr`, `Json.isNumber_shortestText` : integers and finite doubles are written so.
-/

namespace SeriesQuery.Json

open SeriesQuery.Parser

/-! ## Tokens -/

/-- What follows a value in a list or an object: a comma or a closing bracket, if anything. -/
def closers : List Char := [',', ']', '\x7d']

def Closes (s : List Char) : Prop := ∀ c ∈ s.head?, c ∈ closers

namespace Closes

variable {s : List Char}

theorem nil : Closes [] := fun _ h => absurd h (Option.not_mem_none _)

theorem cons {c : Char} (h : c ∈ closers) (s : List Char) : Closes (c :: s) := by
  rintro _ ⟨⟩
  exact h

theorem stops {p : Char → Bool} (h : Closes s) (hp : closers.any p = false) : Stops p s :=
  fun c hc => eq_false_of_any hp (h c hc)

end Closes

/-- Zero, or digits that begin with another one. -/
def IsWhole (ds : List Char) : Prop := ds = ['0'] ∨ IsDigits ds ∧ ds.head? ≠ some '0'

/-- Nothing, or a point and digits. -/
def IsFraction (cs : List Char) : Prop := cs = [] ∨ ∃ ds, IsDigits ds ∧ cs = '.' :: ds

/-- Nothing, or a signed exponent. -/
def IsExponent (cs : List Char) : Prop :=
  cs = [] ∨ ∃ sign ds, sign ∈ ['+', '-'] ∧ IsDigits ds ∧ cs = 'e' :: sign :: ds

/-- What a number is without its sign. -/
def IsMagnitude (cs : List Char) : Prop := ∃ whole fraction exponent, IsWhole whole ∧
  IsFraction fraction ∧ IsExponent exponent ∧ cs = whole ++ (fraction ++ exponent)

def IsNumber (token : List Char) : Prop :=
  ∃ sign cs, (sign = [] ∨ sign = ['-']) ∧ IsMagnitude cs ∧ token = sign ++ cs

section Parts

variable {cs rest : List Char}

theorem IsWhole.isDigits (h : IsWhole cs) : IsDigits cs := by
  rcases h with rfl | ⟨h, -⟩
  · exact ⟨List.cons_ne_nil _ _, List.forall_mem_singleton.mpr rfl⟩
  · exact h

theorem IsWhole.wholeDigits_append (h : IsWhole cs) (hrest : Stops Char.isDigit rest) :
    wholeDigits (cs ++ rest) = .done cs rest := by
  rcases h with rfl | ⟨h, hzero⟩
  · exact orElse_of_done _ (bind_of_done (char_cons '0' rest))
  · obtain ⟨c, ds, rfl, -⟩ := h.exists_cons
    have hc : c ≠ '0' := fun hc => hzero (congrArg some hc)
    have hstops : Stops ['0'].contains (c :: (ds ++ rest)) :=
      Stops.contains_cons_iff.mpr (by simpa using hc)
    rw [wholeDigits, List.cons_append, orElse_of_refused _ (bind_of_refused (char_refused hstops))]
    exact digits_append h hrest

theorem IsFraction.optional_append (h : IsFraction cs) (hpoint : Stops ['.'].contains rest)
    (hrest : Stops Char.isDigit rest) : ∃ part, optional fractionDigits (cs ++ rest) =
      .done part rest ∧ part.getD [] = cs := by
  rcases h with rfl | ⟨ds, hds, rfl⟩
  · exact ⟨none, optional_of_refused (bind_of_refused (char_refused hpoint)), rfl⟩
  · refine ⟨some ('.' :: ds), optional_of_done ?_, rfl⟩
    rw [fractionDigits, List.cons_append, bind_of_done (char_cons '.' _),
      bind_of_done (commit_of_done (digits_append hds hrest))]
    rfl

theorem IsExponent.optional_append (h : IsExponent cs) (hsign : Stops ['e', 'E'].contains rest)
    (hrest : Stops Char.isDigit rest) : ∃ part, optional exponentDigits (cs ++ rest) =
      .done part rest ∧ part.getD [] = cs := by
  rcases h with rfl | ⟨sign, ds, hsign, hds, rfl⟩
  · exact ⟨none, optional_of_refused (bind_of_refused (oneOf_refused hsign)), rfl⟩
  · refine ⟨some ('e' :: sign :: ds), optional_of_done ?_, rfl⟩
    have hsign : ['+', '-'].contains sign = true := List.contains_iff_mem.mpr hsign
    rw [exponentDigits, List.cons_append, bind_of_done (oneOf_cons rfl _), List.cons_append,
      bind_of_done (optional_of_done (oneOf_cons hsign _)),
      bind_of_done (commit_of_done (digits_append hds hrest))]
    rfl

theorem IsExponent.stops (h : IsExponent cs) {p : Char → Bool} (hp : p 'e' = false)
    (hrest : Stops p rest) : Stops p (cs ++ rest) := by
  rcases h with rfl | ⟨sign, ds, -, -, rfl⟩
  · exact hrest
  · exact Stops.cons hp

theorem IsFraction.stops (h : IsFraction cs) {p : Char → Bool} (hp : p '.' = false)
    (hrest : Stops p rest) : Stops p (cs ++ rest) := by
  rcases h with rfl | ⟨ds, -, rfl⟩
  · exact hrest
  · exact Stops.cons hp

end Parts

theorem IsNumber.stops {token : List Char} (h : IsNumber token) {cs : List Char}
    (hcs : cs.any isSignOrDigit = false) (rest : List Char) :
    Stops cs.contains (token ++ rest) := by
  obtain ⟨sign, _, hsign, ⟨whole, fraction, exponent, hwhole, -, -, rfl⟩, rfl⟩ := h
  have hstops := hwhole.isDigits.stops_signed hsign hcs (fraction ++ exponent ++ rest)
  simpa only [List.append_assoc] using hstops

theorem numberToken_append {token : List Char} (h : IsNumber token) {rest : List Char}
    (hrest : Closes rest) : numberToken (token ++ rest) = .done token rest := by
  obtain ⟨sign, _, hsign, ⟨whole, fraction, exponent, hwhole, hfraction, hexponent, rfl⟩, rfl⟩ := h
  have hdigit : Stops Char.isDigit rest := hrest.stops (by decide)
  have hdigit' : Stops Char.isDigit (exponent ++ rest) := hexponent.stops (by decide) hdigit
  have hpoint : Stops ['.'].contains (exponent ++ rest) :=
    hexponent.stops (by decide) (hrest.stops (by decide))
  obtain ⟨fracPart, hfracRead, hfracPart⟩ := hfraction.optional_append hpoint hdigit'
  obtain ⟨expPart, hexpRead, hexpPart⟩ :=
    hexponent.optional_append (hrest.stops (by decide)) hdigit
  have hwholeRead := hwhole.wholeDigits_append (hfraction.stops (by decide) hdigit')
  have hsignRead : ∃ part, optional (char '-') (sign ++ (whole ++ (fraction ++ (exponent ++ rest))))
      = .done part (whole ++ (fraction ++ (exponent ++ rest))) ∧ part.toList = sign := by
    rcases hsign with rfl | rfl
    · have hstops : Stops ['-'].contains (whole ++ (fraction ++ (exponent ++ rest))) :=
        hwhole.isDigits.stops (by decide) _
      exact ⟨none, optional_of_refused (char_refused hstops), rfl⟩
    · exact ⟨some '-', optional_of_done (char_cons '-' _), rfl⟩
  obtain ⟨signPart, hsignRead, hsignPart⟩ := hsignRead
  simp only [List.append_assoc]
  rw [numberToken, bind_of_done hsignRead, bind_of_done hwholeRead, bind_of_done hfracRead,
    bind_of_done hexpRead, hsignPart, hfracPart, hexpPart, List.append_assoc, List.append_assoc]
  rfl

/-! ## Integers and doubles as tokens -/

theorem head?_digitsText {n : Nat} (h : 0 < n) : (Decimal.digitsText n).head? ≠ some '0' := by
  induction n using Nat.strongRecOn with
  | ind n ih =>
    rcases Nat.lt_or_ge n 10 with hlt | hge
    · have hdigits : ∀ m < 10, 0 < m → Nat.digitChar m ≠ '0' := by decide
      rw [Decimal.digitsText, Nat.toDigits_of_lt_base hlt]
      exact fun heq => hdigits n hlt h (Option.some.inj heq)
    · have hpos : 0 < n / 10 := Nat.div_pos hge (by decide)
      rw [Decimal.digitsText, Nat.toDigits_of_base_le (by decide) hge,
        List.head?_append_of_ne_nil _ Nat.toDigits_ne_nil]
      exact ih (n / 10) (Nat.div_lt_self h (by decide)) hpos

theorem isWhole_digitsText (n : Nat) : IsWhole (Decimal.digitsText n) := by
  rcases Nat.eq_zero_or_pos n with rfl | hpos
  · exact .inl rfl
  · exact .inr ⟨isDigits_digitsText n, head?_digitsText hpos⟩

theorem isMagnitude_digitsText (n : Nat) : IsMagnitude (Decimal.digitsText n) :=
  ⟨_, [], [], isWhole_digitsText n, .inl rfl, .inl rfl, (List.append_nil _).symm⟩

theorem isNumber_repr (n : Int) : IsNumber n.repr.toList := by
  cases n with
  | ofNat m => exact ⟨[], _, .inl rfl, isMagnitude_digitsText m, Nat.toList_repr⟩
  | negSucc m =>
    refine ⟨['-'], _, .inr rfl, isMagnitude_digitsText (m + 1), ?_⟩
    rw [Int.repr, String.toList_append, Nat.toList_repr]
    rfl

/-! ### Layouts of doubles -/

section Layouts

variable {digits : List Char}

theorem isFraction_wholeEnd : IsFraction NumberStyle.data.wholeEnd :=
  .inr ⟨['0'], isDigits_digitsText 0, rfl⟩

theorem isWhole_take (hds : IsDigits digits) (hhead : digits.head? ≠ some '0') {n : Nat}
    (hn : 0 < n) : IsWhole (digits.take n) := by
  refine .inr ⟨⟨?_, fun c hc => hds.isDigit c (List.mem_of_mem_take hc)⟩, ?_⟩
  · simp [hds.ne_nil]
    omega
  · rwa [List.head?_take, if_neg (by omega)]

theorem isFraction_drop (hds : IsDigits digits) {n : Nat} (hn : n < digits.length) :
    IsFraction ('.' :: digits.drop n) := by
  refine .inr ⟨digits.drop n, ⟨?_, fun c hc => hds.isDigit c (List.mem_of_mem_drop hc)⟩, rfl⟩
  simp
  omega

theorem isMagnitude_positionalText (hds : IsDigits digits) (hhead : digits.head? ≠ some '0')
    (point : Int) :
    IsMagnitude (Decimal.positionalText NumberStyle.data.wholeEnd digits point) := by
  obtain ⟨whole, fraction, hwhole, hfraction, hstart, heq⟩ :=
    exists_positional hds NumberStyle.data.wholeEnd point
  refine ⟨whole, _, [], ?_, ?_, .inl rfl, by rw [heq, List.append_nil]⟩
  · rcases hstart with hzero | hfirst
    · exact .inl hzero
    · exact .inr ⟨hwhole, hfirst ▸ hhead⟩
  · split
    · exact isFraction_wholeEnd
    · next hne => exact .inr ⟨fraction, ⟨by simpa using hne, hfraction⟩, rfl⟩

theorem isMagnitude_exponentText (hds : IsDigits digits) (hhead : digits.head? ≠ some '0')
    (point : Int) : IsMagnitude (Decimal.exponentText digits point) := by
  have hfraction : IsFraction
      (if (digits.drop 1).isEmpty then [] else '.' :: digits.drop 1) := by
    split
    · exact .inl rfl
    · next hmore =>
      refine isFraction_drop hds ?_
      rwa [List.isEmpty_iff, List.drop_eq_nil_iff, Nat.not_le] at hmore
  have hsign : (if point - 1 < 0 then '-' else '+') ∈ ['+', '-'] := by
    split <;> decide
  exact ⟨_, _, _, isWhole_take hds hhead Nat.one_pos, hfraction,
    .inr ⟨_, _, hsign, isDigits_digitsText (point - 1).natAbs, rfl⟩,
    by simp [Decimal.exponentText]⟩

end Layouts

theorem isMagnitude_text (d : Decimal) : IsMagnitude (d.text .data) := by
  unfold Decimal.text
  split
  · exact ⟨['0'], _, [], .inl rfl, isFraction_wholeEnd, .inl rfl, rfl⟩
  · next hne =>
    have hds := isDigits_digitsText d.digits
    have hhead := head?_digitsText (Nat.pos_of_ne_zero hne)
    dsimp only
    split
    · exact isMagnitude_positionalText hds hhead _
    · exact isMagnitude_exponentText hds hhead _

theorem isNumber_shortestText {v : Float} (hnan : v.isNaN = false) (hinf : v.isInf = false) :
    IsNumber (shortestText .data v).toList := by
  have hsign : signText v = [] ∨ signText v = ['-'] := by
    unfold signText
    split
    · exact .inr rfl
    · exact .inl rfl
  unfold shortestText floatText
  rw [if_neg (Bool.eq_false_iff.mp hnan), if_neg (Bool.eq_false_iff.mp hinf),
    String.toList_ofList]
  exact ⟨signText v, _, hsign, isMagnitude_text _, rfl⟩

end SeriesQuery.Json
