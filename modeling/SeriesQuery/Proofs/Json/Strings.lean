import SeriesQuery.Json.Reader

/-!
# JSON strings read back from their text

A character is written as it is or escaped, and an escape is read as one unit.

* `Json.StringUnit.IsOf u c` : the unit stands for the character by itself;
* `Json.stringRest?_escapeChar` : a written character is read as a unit that stands for it;
* `Json.stringToken_quoted` : every text is read back from between its quotes.
-/

namespace SeriesQuery.Json

/-- The unit that a written character is read as stands for the character alone. -/
def StringUnit.IsOf (u : StringUnit) (c : Char) : Prop :=
  ∀ us, joinUnits (u :: us) = (joinUnits us).map (c :: ·)

theorem StringUnit.isOf_char (c : Char) : (StringUnit.char c).IsOf c := fun _ => rfl

theorem StringUnit.isOf_control {c : Char} (h : c.toNat < 32) :
    (StringUnit.unit c.toNat).IsOf c := by
  intro us
  rw [joinUnits.eq_def]
  dsimp only
  rw [if_neg (by simp; omega), if_neg (by simp; omega), Char.ofNat_toNat]

section Characters

variable {c e : Char} {rest : List Char}

theorem stringRest?_short (he : shortEscape? e = some c) :
    stringRest? ('\\' :: e :: rest) =
      (stringRest? rest).map fun (us, rest) => (.char c :: us, rest) := by
  have hu : e ≠ 'u' := by
    rintro rfl
    contradiction
  rw [stringRest?.eq_def]
  split
  · next heq => exact absurd (List.cons.inj heq).1 (by decide)
  · next heq => exact absurd (List.cons.inj (List.cons.inj heq).2).1 hu
  · next heq =>
    obtain ⟨rfl, rfl⟩ := List.cons.inj (List.cons.inj heq).2
    rw [he, Option.map_eq_bind]
    rfl
  · next hne heq =>
    obtain ⟨rfl, rfl⟩ := List.cons.inj heq
    exact absurd rfl (hne e rest rfl)
  · contradiction

theorem stringRest?_plain (hquote : c ≠ '"') (hescape : c ≠ '\\') (hplain : 32 ≤ c.toNat) :
    stringRest? (c :: rest) = (stringRest? rest).map fun (us, rest) => (.char c :: us, rest) := by
  rw [stringRest?.eq_def]
  split
  · next heq => exact absurd (List.cons.inj heq).1 hquote
  · next heq => exact absurd (List.cons.inj heq).1 hescape
  · next heq => exact absurd (List.cons.inj heq).1 hescape
  · next heq =>
    obtain ⟨rfl, rfl⟩ := List.cons.inj heq
    rw [if_neg (by omega), Option.map_eq_bind]
    rfl
  · contradiction

theorem natOfHex?_control : ∀ n < 32,
    natOfHex? ['0', '0', Nat.digitChar (n / 16), Nat.digitChar (n % 16)] = some n := by
  decide

theorem stringRest?_control (h : c.toNat < 32) :
    stringRest? (['\\', 'u', '0', '0'] ++ Nat.toDigits 16 (c.toNat / 16) ++
        Nat.toDigits 16 (c.toNat % 16) ++ rest) =
      (stringRest? rest).map fun (us, rest) => (.unit c.toNat :: us, rest) := by
  rw [Nat.toDigits_of_lt_base (by omega), Nat.toDigits_of_lt_base (by omega)]
  change stringRest? ('\\' :: 'u' :: '0' :: '0' :: _ :: _ :: rest) = _
  rw [stringRest?, natOfHex?_control c.toNat h, Option.map_eq_bind]
  rfl

theorem stringRest?_escapeChar (c : Char) (rest : List Char) : ∃ u : StringUnit, u.IsOf c ∧
    stringRest? (escapeChar c ++ rest) =
      (stringRest? rest).map fun (us, rest) => (u :: us, rest) := by
  unfold escapeChar
  split
  -- What has no short escape is written by its number or as it is.
  case h_8 _ hquote hescape _ _ _ _ _ =>
    split
    · next h => exact ⟨_, StringUnit.isOf_control h, stringRest?_control h⟩
    · next h =>
      exact ⟨_, StringUnit.isOf_char c, stringRest?_plain hquote hescape (Nat.not_lt.mp h)⟩
  all_goals exact ⟨_, StringUnit.isOf_char _, stringRest?_short rfl⟩

end Characters

theorem stringRest?_flatMap (cs rest : List Char) : ∃ us, joinUnits us = some cs ∧
    stringRest? (cs.flatMap escapeChar ++ '"' :: rest) = some (us, rest) := by
  induction cs with
  | nil => exact ⟨[], rfl, rfl⟩
  | cons c cs ih =>
    obtain ⟨us, hus, hread⟩ := ih
    obtain ⟨u, hu, hchar⟩ := stringRest?_escapeChar c (cs.flatMap escapeChar ++ '"' :: rest)
    refine ⟨u :: us, ?_, ?_⟩
    · rw [hu us, hus]
      rfl
    · rw [List.flatMap_cons, List.append_assoc, hchar, hread]
      rfl

theorem stringToken_quoted (s : String) (rest : List Char) :
    stringToken (quoted (some s) ++ rest) = .done (some s) rest := by
  obtain ⟨us, hus, hread⟩ := stringRest?_flatMap s.toList rest
  have hquoted : quoted (some s) ++ rest = '"' :: (s.toList.flatMap escapeChar ++ '"' :: rest) := by
    show '"' :: (s.toList.flatMap escapeChar ++ ['"'] ++ rest) = _
    rw [List.append_assoc, List.singleton_append]
  rw [hquoted, stringToken, hread]
  dsimp only
  rw [hus, Option.map_some, String.ofList_toList]

end SeriesQuery.Json
