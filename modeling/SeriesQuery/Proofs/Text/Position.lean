import SeriesQuery.Text.Position
import Mathlib.Data.List.Infix
import Mathlib.Data.Prod.Lex

/-!
# Lines and columns

Each character of a text moves the place behind it on in reading order: a newline to the next line,
any other character to the next column. So the places between characters are told apart by their
line and column alone.

* `Boundary source offset` : a byte offset at which no character is cut in two;
* `Position.behind front` : the position behind a text, `Position.locate_append` : which is the one
  that is found for its length, whatever follows;
* `Position.reading` : line and column in reading order;
* `Position.reading_lt_append` : more text ends further on;
* `Position.locate_spec` : what line and column say of a byte offset.
-/

namespace SeriesQuery.Text

/-! ## Bytes -/

theorem byteLength_append (cs ds : List Char) :
    byteLength (cs ++ ds) = byteLength cs + byteLength ds := by
  induction cs with
  | nil => exact (Nat.zero_add _).symm
  | cons c cs ih => rw [List.cons_append, byteLength, byteLength, ih, Nat.add_assoc]

/-- No character is cut in two. -/
theorem takeBytes_append (cs ds : List Char) : takeBytes (byteLength cs) (cs ++ ds) = cs := by
  induction cs with
  | nil =>
    cases ds with
    | nil => rfl
    | cons d ds => exact if_neg (Nat.not_le.mpr d.utf8Size_pos)
  | cons c cs ih =>
    rw [List.cons_append, byteLength, takeBytes, if_pos (Nat.le_add_right _ _),
      Nat.add_sub_cancel_left, ih]

/-- An offset between two characters of the text, or at one of its ends. -/
def Boundary (source : List Char) (offset : Nat) : Prop :=
  ∃ front, front <+: source ∧ byteLength front = offset

/-- Of two boundaries the later one has more of the text before it. -/
theorem Boundary.exists_between {source : List Char} {o₁ o₂ : Nat} (h₁ : Boundary source o₁)
    (h₂ : Boundary source o₂) (h : o₁ < o₂) :
    ∃ front between rest, source = front ++ between ++ rest ∧ between ≠ [] ∧
      byteLength front = o₁ ∧ byteLength (front ++ between) = o₂ := by
  obtain ⟨front₁, hfront₁, rfl⟩ := h₁
  obtain ⟨front₂, hfront₂, rfl⟩ := h₂
  rcases List.prefix_or_prefix_of_prefix hfront₁ hfront₂ with ⟨between, rfl⟩ | ⟨between, rfl⟩
  · obtain ⟨rest, rfl⟩ := hfront₂
    refine ⟨front₁, between, rest, rfl, ?_, rfl, rfl⟩
    rintro rfl
    exact Nat.lt_irrefl _ (List.append_nil front₁ ▸ h)
  · rw [byteLength_append] at h
    omega

namespace Position

/-! ## The position behind a text -/

def behind (front : List Char) : Position where
  offset := byteLength front
  line := front.count '\n' + 1
  column := (front.reverse.takeWhile (· != '\n')).length + 1

theorem locate_append (front rest : List Char) :
    locate (front ++ rest) (byteLength front) = behind front := by
  have hmin : min (byteLength front) (byteLength (front ++ rest)) = byteLength front :=
    Nat.min_eq_left (byteLength_append front rest ▸ Nat.le_add_right _ _)
  unfold locate
  dsimp only
  rw [hmin, takeBytes_append]
  rfl

theorem atRest_append (front rest : List Char) :
    atRest (front ++ rest) rest = behind front := by
  have hoffset : byteLength (front ++ rest) - byteLength rest = byteLength front := by
    rw [byteLength_append, Nat.add_sub_cancel]
  rw [atRest, hoffset, locate_append]

/-- Beyond the end is at the end. -/
theorem locate_of_le {source : List Char} {offset : Nat} (h : byteLength source ≤ offset) :
    locate source offset = behind source := by
  have hend : locate source offset = locate source (byteLength source) := by
    unfold locate
    rw [Nat.min_eq_right h, Nat.min_self]
  have happend := locate_append source []
  rwa [List.append_nil, ← hend] at happend

/-! ## Reading order -/

/-- By line, and in one line by column. -/
def reading (p : Position) : Nat ×ₗ Nat := toLex (p.line, p.column)

theorem behind_newline (front : List Char) :
    (behind (front ++ ['\n'])).line = (behind front).line + 1 := by
  simp only [behind, List.count_append, List.count_singleton_self]

theorem behind_concat (front : List Char) {c : Char} (h : c ≠ '\n') :
    (behind (front ++ [c])).line = (behind front).line ∧
      (behind (front ++ [c])).column = (behind front).column + 1 := by
  have hcount : [c].count '\n' = 0 := List.count_singleton.trans (if_neg (by simpa using h))
  have hcolumn : (front ++ [c]).reverse.takeWhile (· != '\n') =
      c :: front.reverse.takeWhile (· != '\n') := by
    rw [List.reverse_concat]
    exact List.takeWhile_cons_of_pos (by simpa using h)
  simp only [behind, List.count_append, hcount, hcolumn, List.length_cons, Nat.add_zero, and_self]

/-- The step: behind one more character. -/
theorem reading_lt_concat (front : List Char) (c : Char) :
    (behind front).reading < (behind (front ++ [c])).reading := by
  by_cases h : c = '\n'
  · subst h
    exact Prod.Lex.toLex_lt_toLex.mpr (.inl (behind_newline front ▸ Nat.lt_succ_self _))
  · obtain ⟨hline, hcolumn⟩ := behind_concat front h
    exact Prod.Lex.toLex_lt_toLex.mpr
      (.inr ⟨hline.symm, hcolumn ▸ Nat.lt_succ_self (behind front).column⟩)

theorem reading_le_append (front more : List Char) :
    (behind front).reading ≤ (behind (front ++ more)).reading := by
  induction more generalizing front with
  | nil => rw [List.append_nil]
  | cons c more ih =>
    rw [List.append_cons]
    exact (reading_lt_concat front c).le.trans (ih (front ++ [c]))

theorem reading_lt_append (front : List Char) {more : List Char} (h : more ≠ []) :
    (behind front).reading < (behind (front ++ more)).reading := by
  obtain ⟨c, more, rfl⟩ := List.exists_cons_of_ne_nil h
  rw [List.append_cons]
  exact (reading_lt_concat front c).trans_le (reading_le_append (front ++ [c]) more)

theorem reading_lt {source : List Char} {o₁ o₂ : Nat} (h₁ : Boundary source o₁)
    (h₂ : Boundary source o₂) (h : o₁ < o₂) :
    (locate source o₁).reading < (locate source o₂).reading := by
  obtain ⟨front, between, rest, rfl, hne, rfl, rfl⟩ := h₁.exists_between h₂ h
  rw [locate_append, List.append_assoc, locate_append]
  exact reading_lt_append front hne

/-- **Line and column identify a place. Of two places between characters the one with the greater
offset comes later in reading order, so the offset is known by line and column; the line is one more
than the number of newlines before the place; and beyond the end is the end.** -/
theorem locate_spec (source : List Char) :
    (∀ o₁ o₂, Boundary source o₁ → Boundary source o₂ → o₁ < o₂ →
      (locate source o₁).reading < (locate source o₂).reading) ∧
    (∀ o₁ o₂, Boundary source o₁ → Boundary source o₂ →
      (locate source o₁).line = (locate source o₂).line →
      (locate source o₁).column = (locate source o₂).column → o₁ = o₂) ∧
    (∀ front rest, source = front ++ rest →
      (locate source (byteLength front)).line = front.count '\n' + 1) ∧
    ∀ offset, byteLength source ≤ offset →
      locate source offset = locate source (byteLength source) ∧
        (locate source offset).offset = byteLength source := by
  refine ⟨fun o₁ o₂ => reading_lt, fun o₁ o₂ h₁ h₂ hline hcolumn => ?_, ?_, fun offset h => ?_⟩
  · have hreading : (locate source o₁).reading = (locate source o₂).reading :=
      congrArg toLex (Prod.ext hline hcolumn)
    rcases Nat.lt_trichotomy o₁ o₂ with hlt | heq | hgt
    · exact absurd hreading (reading_lt h₁ h₂ hlt).ne
    · exact heq
    · exact absurd hreading (reading_lt h₂ h₁ hgt).ne'
  · rintro front rest rfl
    rw [locate_append]
    rfl
  · rw [locate_of_le h, locate_of_le (Nat.le_refl _)]
    exact ⟨rfl, rfl⟩

/-- Before and behind characters of two bytes, and on two lines. -/
theorem locate_spec_umlaut :
    let source := "größe;\nbär".toList
    Boundary source 4 ∧ Boundary source 9 ∧
      (locate source 4).reading = toLex (1, 4) ∧ (locate source 9).reading = toLex (2, 1) ∧
      (locate source 4).reading < (locate source 9).reading ∧
      ((locate source 4).line = (locate source 9).line →
        (locate source 4).column = (locate source 9).column → 4 = 9) ∧
      (locate source 9).line = "größe;\n".toList.count '\n' + 1 ∧
      locate source 100 = ⟨13, 2, 4⟩ := by
  intro source
  obtain ⟨hreading, hplace, hline, hend⟩ := locate_spec source
  have h₁ : Boundary source 4 := ⟨"grö".toList, by decide, by decide⟩
  have h₂ : Boundary source 9 := ⟨"größe;\n".toList, by decide, by decide⟩
  exact ⟨h₁, h₂, by decide, by decide, hreading 4 9 h₁ h₂ (by decide), hplace 4 9 h₁ h₂,
    hline "größe;\n".toList "bär".toList (by decide),
    (hend 100 (by decide)).1.trans (by decide)⟩

end Position

end SeriesQuery.Text
