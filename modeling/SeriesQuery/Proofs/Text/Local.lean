import SeriesQuery.Proofs.Text.Replies
import Mathlib.Data.List.Forall2

/-!
# Reading with more text behind

What a parser makes of a text can depend on what follows the text: a run of a class goes on, a word
that was refused as too short becomes the word looked for.

* `Parser.Local t p q` : on texts with `t` behind them `q` does what `p` does without it, one lemma
  for each way of building parsers;
* `Parser.fold_append`, `Parser.listOf_append` : repetition, where reading alike depends on the
  values and on the text behind each of them.
-/

namespace SeriesQuery

/-- A text that stops a class stops it with another such text behind it. -/
theorem Stops.append_stops {p : Char → Bool} {s t : List Char} (hs : Stops p s) (ht : Stops p t) :
    Stops p (s ++ t) := by
  cases s with
  | nil => exact ht
  | cons c s => exact Stops.cons_iff.mpr (Stops.cons_iff.mp hs)

theorem map_eq_of_forall₂ {α β γ : Type} {f : α → γ} {g : β → γ} {as : List α} {bs : List β}
    (h : List.Forall₂ (fun a b => g b = f a) as bs) : bs.map g = as.map f := by
  induction h with
  | nil => rfl
  | cons hab _ ih => rw [List.map_cons, List.map_cons, hab, ih]

namespace Parser

variable {α α' β β' σ : Type} {t s rest : List Char}

/-- What `p` reads, or refuses, without `t` behind it, that `q` reads or refuses with it. -/
structure Local (t : List Char) (p q : Parser α) : Prop where
  done {s rest : List Char} {a : α} : p s = .done a rest → q (s ++ t) = .done a (rest ++ t)
  refuses {s : List Char} : p.Refuses s → q.Refuses (s ++ t)

namespace Local

variable {p q p' q' : Parser α}

protected theorem pure (a : α) : Local t (pure a) (pure a) where
  done h := by
    obtain ⟨rfl, rfl⟩ := pure_eq_done.mp h
    rfl
  refuses h := absurd h (not_refuses_pure a)

protected theorem bind {f g : α → Parser β} (h : Local t p q) (hf : ∀ a, Local t (f a) (g a)) :
    Local t (p >>= f) (q >>= g) where
  done hs := by
    obtain ⟨a, mid, ha, hb⟩ := bind_eq_done.mp hs
    exact bind_eq_done.mpr ⟨a, mid ++ t, h.done ha, (hf a).done hb⟩
  refuses hs := by
    rcases refuses_bind.mp hs with hs | ⟨a, mid, ha, hb⟩
    · exact refuses_bind.mpr (.inl (h.refuses hs))
    · exact refuses_bind.mpr (.inr ⟨a, mid ++ t, h.done ha, (hf a).refuses hb⟩)

protected theorem map (f : α → β) (h : Local t p q) : Local t (f <$> p) (f <$> q) :=
  h.bind fun a => .pure (f a)

protected theorem orElse (h : Local t p q) (h' : Local t p' q') :
    Local t (p <|> p') (q <|> q') where
  done hs := by
    rcases orElse_eq_done.mp hs with hs | ⟨hrefuses, hs⟩
    · exact orElse_eq_done.mpr (.inl (h.done hs))
    · exact orElse_eq_done.mpr (.inr ⟨h.refuses hrefuses, h'.done hs⟩)
  refuses hs :=
    have ⟨hp, hp'⟩ := refuses_orElse.mp hs
    refuses_orElse.mpr ⟨h.refuses hp, h'.refuses hp'⟩

protected theorem optional (h : Local t p q) : Local t (optional p) (optional q) where
  done hs := by
    rcases optional_eq_done.mp hs with ⟨a, rfl, hsome⟩ | ⟨rfl, rfl, hnone⟩
    · exact optional_eq_done.mpr (.inl ⟨a, rfl, h.done hsome⟩)
    · exact optional_eq_done.mpr (.inr ⟨rfl, rfl, h.refuses hnone⟩)
  refuses hs := absurd hs not_refuses_optional

protected theorem filterMap (f : α → Option β) (h : Local t p q) :
    Local t (filterMap f p) (filterMap f q) where
  done hs := by
    obtain ⟨a, ha, hb⟩ := filterMap_eq_done.mp hs
    exact filterMap_eq_done.mpr ⟨a, h.done ha, hb⟩
  refuses hs := by
    rcases refuses_filterMap.mp hs with hs | ⟨a, mid, ha, hnone⟩
    · exact refuses_filterMap.mpr (.inl (h.refuses hs))
    · exact refuses_filterMap.mpr (.inr ⟨a, mid ++ t, h.done ha, hnone⟩)

protected theorem refuse : Local t (refuse : Parser α) refuse where
  done hs := absurd hs nofun
  refuses _ := ⟨_, rfl⟩

end Local

/-! ## Characters -/

namespace Local

protected theorem char {c : Char} (ht : Stops [c].contains t) : Local t (char c) (char c) where
  done hs := by
    obtain ⟨rfl, rfl⟩ := char_eq_done.mp hs
    exact char_cons _ _
  refuses hs := refuses_char.mpr ((refuses_char.mp hs).append_stops ht)

protected theorem oneOf {cs : List Char} (ht : Stops cs.contains t) :
    Local t (oneOf cs) (oneOf cs) where
  done hs := by
    obtain ⟨hc, rfl⟩ := oneOf_eq_done.mp hs
    exact oneOf_eq_done.mpr ⟨hc, rfl⟩
  refuses hs := refuses_oneOf.mpr ((refuses_oneOf.mp hs).append_stops ht)

section Runs

variable {class' : Char → Bool} (ht : Stops class' t)
include ht

protected theorem takeWhile : Local t (takeWhile class') (takeWhile class') where
  done hs := by
    obtain ⟨rfl, hcs, hrest⟩ := takeWhile_eq_done.mp hs
    exact takeWhile_eq_done.mpr ⟨List.append_assoc .., hcs, hrest.append_stops ht⟩
  refuses hs := absurd hs not_refuses_takeWhile

protected theorem takeWhile1 : Local t (takeWhile1 class') (takeWhile1 class') where
  done hs := by
    obtain ⟨rfl, hne, hcs, hrest⟩ := takeWhile1_eq_done.mp hs
    exact takeWhile1_eq_done.mpr ⟨List.append_assoc .., hne, hcs, hrest.append_stops ht⟩
  refuses hs := refuses_takeWhile1.mpr ((refuses_takeWhile1.mp hs).append_stops ht)

end Runs

protected theorem blanks (ht : Stops blankChars.contains t) : Local t blanks blanks :=
  (Local.takeWhile ht).bind fun _ => .pure ()

/-- A word does not get complete behind its text, if its letters do not begin what stands there. -/
protected theorem keyword {word : List Char} (ht : ∀ c ∈ t.head?, c.toUpper ∉ word) :
    Local t (keyword word) (keyword word) where
  done {s rest _} hs := by
    unfold keyword at hs ⊢
    split at hs
    · next heq =>
      have hlen : word.length ≤ s.length := by
        have := congrArg List.length heq
        rw [List.length_map, List.length_take] at this
        omega
      obtain ⟨-, rfl⟩ := Reply.done.inj hs
      rw [List.take_append_of_le_length hlen, if_pos heq, List.drop_append_of_le_length hlen]
    · contradiction
  refuses {s} hs := by
    unfold Refuses keyword at hs ⊢
    rw [if_neg]
    · exact ⟨_, rfl⟩
    intro heq
    obtain ⟨place, hs⟩ := hs
    refine absurd (if_pos ?_ ▸ hs) nofun
    cases t with
    | nil => rwa [List.append_nil] at heq
    | cons c t =>
      have hc := ht c rfl
      by_cases hlen : word.length ≤ s.length
      · rwa [List.take_append_of_le_length hlen] at heq
      · rw [List.take_append, List.take_of_length_le (by omega)] at heq
        obtain ⟨n, hn⟩ := Nat.exists_eq_add_of_lt (Nat.lt_of_not_le hlen)
        rw [show word.length - s.length = n + 1 by omega, List.take_succ_cons] at heq
        exact absurd (heq ▸ by simp) hc

end Local

/-- A gap that ends before the end of the text. -/
theorem gap_append (hs : gap s = .done () rest) (hne : rest ≠ []) (t : List Char) :
    gap (s ++ t) = .done () (rest ++ t) := by
  obtain ⟨cs, rfl, hcs, hrest⟩ := gap_eq_done.mp hs
  exact gap_eq_done.mpr ⟨cs, List.append_assoc .., hcs, hrest.append hne⟩

/-! ## Repetition -/

section Repetition

/-- Before an end of the text or another round, `F`, values that are good enough, `H`, are read
alike; `G` is what that takes of the values that are put together. -/
theorem fold_append {p : Parser β} {q : Parser β'} {f : α → β → α} {g : α' → β' → α'}
    {R : α → α' → Prop} {S : β → β' → Prop} {F : List Char → Prop} {G : α → Prop} {H : β → Prop}
    (hsplit : ∀ acc b, G (f acc b) → G acc ∧ H b)
    (hjoin : ∀ acc acc' b b', R acc acc' → S b b' → R (f acc b) (g acc' b'))
    (hF : ∀ s b mid, p s = .done b mid → F s)
    (hp : ∀ s b mid, p s = .done b mid → H b → F mid →
      ∃ b', q (s ++ t) = .done b' (mid ++ t) ∧ S b b')
    (hrest : F rest) (hend : p.Refuses rest → q.Refuses (rest ++ t)) {acc a : α}
    (h : fold p f acc s = .done a rest) (ha : G a) :
    F s ∧ G acc ∧ ∀ acc', R acc acc' →
      ∃ a', fold q g acc' (s ++ t) = .done a' (rest ++ t) ∧ R a a' := by
  induction hn : s.length using Nat.strongRecOn generalizing s acc with
  | ind n ih =>
    rw [Parser.fold] at h
    split at h
    · next b mid hb =>
      have hlength : (mid ++ t).length < (s ++ t).length ↔ mid.length < s.length := by
        rw [List.length_append, List.length_append]
        omega
      split at h
      · next hlt =>
        obtain ⟨hmid, hG, hmore⟩ := ih mid.length (hn ▸ hlt) h rfl
        obtain ⟨hacc, hH⟩ := hsplit acc b hG
        obtain ⟨b', hb', hS⟩ := hp s b mid hb hH hmid
        refine ⟨hF s b mid hb, hacc, fun acc' hR => ?_⟩
        rw [fold_of_done hb' (hlength.mpr hlt)]
        exact hmore _ (hjoin acc acc' b b' hR hS)
      · next hlt =>
        obtain ⟨rfl, rfl⟩ := Reply.done.inj h
        obtain ⟨hacc, hH⟩ := hsplit acc b ha
        obtain ⟨b', hb', hS⟩ := hp s b mid hb hH hrest
        refine ⟨hF s b mid hb, hacc, fun acc' hR => ⟨_, ?_, hjoin acc acc' b b' hR hS⟩⟩
        rw [Parser.fold, hb']
        exact if_neg (hlt ∘ hlength.mp)
    · next place hplace =>
      obtain ⟨rfl, rfl⟩ := Reply.done.inj h
      obtain ⟨place', hplace'⟩ := hend ⟨place, hplace⟩
      exact ⟨hrest, ha, fun acc' hR => ⟨acc', fold_of_refused hplace', hR⟩⟩
    · contradiction

variable {item : Parser α} {item' : Parser α'} {separator : Parser σ} {S : α → α' → Prop}
  {F : List Char → Prop} {H : α → Prop}

theorem nonEmptyListOf_append
    (hitem : ∀ s a mid, item s = .done a mid → H a → F mid →
      ∃ a', item' (s ++ t) = .done a' (mid ++ t) ∧ S a a')
    (hseparator : ∀ s x mid a after, separator s = .done x mid → item mid = .done a after →
      F s ∧ separator (s ++ t) = .done x (mid ++ t))
    (hrest : F rest)
    (hend : (do let _ ← separator; item : Parser α).Refuses rest →
      (do let _ ← separator; item' : Parser α').Refuses (rest ++ t))
    {items : List α} (h : nonEmptyListOf item separator s = .done items rest)
    (hitems : ∀ a ∈ items, H a) :
    ∃ items', nonEmptyListOf item' separator (s ++ t) = .done items' (rest ++ t) ∧
      List.Forall₂ S items items' := by
  obtain ⟨first, mid, hfirst, hmore⟩ := bind_eq_done.mp h
  obtain ⟨hmid, hH, hfold⟩ := fold_append (R := List.Forall₂ S) (S := S) (F := F)
    (G := fun items => ∀ a ∈ items, H a) (H := H) (t := t)
    (q := do let _ ← separator; item') (g := fun items a => items ++ [a])
    (fun items a h => ⟨fun b hb => h b (List.mem_append_left _ hb),
      h a (List.mem_append_right _ (List.mem_singleton_self a))⟩)
    (fun items items' a a' hR hS => List.rel_append hR (.cons hS .nil))
    (fun s a mid h => by
      obtain ⟨x, between, hx, ha⟩ := bind_eq_done.mp h
      exact (hseparator s x between a mid hx ha).1)
    (fun s a mid h hH hF => by
      obtain ⟨x, between, hx, ha⟩ := bind_eq_done.mp h
      obtain ⟨a', ha', hS⟩ := hitem between a mid ha hH hF
      exact ⟨a', bind_eq_done.mpr ⟨x, _, (hseparator s x between a mid hx ha).2, ha'⟩, hS⟩)
    hrest hend hmore hitems
  obtain ⟨first', hfirst', hS⟩ := hitem s first mid hfirst (hH first (List.mem_singleton_self _))
    hmid
  obtain ⟨items', hitems', hR⟩ := hfold [first'] (.cons hS .nil)
  exact ⟨items', bind_eq_done.mpr ⟨first', _, hfirst', hitems'⟩, hR⟩

theorem listOf_append
    (hitem : ∀ s a mid, item s = .done a mid → H a → F mid →
      ∃ a', item' (s ++ t) = .done a' (mid ++ t) ∧ S a a')
    (hseparator : ∀ s x mid a after, separator s = .done x mid → item mid = .done a after →
      F s ∧ separator (s ++ t) = .done x (mid ++ t))
    (hrest : F rest) (hrefuses : item'.Refuses (rest ++ t))
    (hend : (do let _ ← separator; item : Parser α).Refuses rest →
      (do let _ ← separator; item' : Parser α').Refuses (rest ++ t))
    {items : List α} (h : listOf item separator s = .done items rest)
    (hitems : ∀ a ∈ items, H a) :
    ∃ items', listOf item' separator (s ++ t) = .done items' (rest ++ t) ∧
      List.Forall₂ S items items' := by
  rcases listOf_eq_done.mp h with h | ⟨rfl, rfl, -⟩
  · obtain ⟨items', h', hR⟩ := nonEmptyListOf_append hitem hseparator hrest hend h hitems
    exact ⟨items', listOf_eq_done.mpr (.inl h'), hR⟩
  · exact ⟨[], listOf_eq_done.mpr (.inr ⟨rfl, rfl, refuses_nonEmptyListOf.mpr hrefuses⟩), .nil⟩

end Repetition

end Parser

end SeriesQuery
