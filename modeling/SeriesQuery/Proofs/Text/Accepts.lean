import SeriesQuery.Text.Parser

/-!
# How a parser reads a given text

The converse of what a parser ensures: on a text of known form, each way of building parsers is done
or refused as its parts are.

* `Stops p s` : no character of a class begins `s`, so that a run of the class ends before it;
* `bind_of_done`, `orElse_of_refused`, `optional_of_done`, ... : one step of a parser;
* `takeWhile_append`, `blanks_of_stops`, `gap_space`, ... : runs of a class in front of a text;
* `nonEmptyListOf_intercalate` : a list whose items are read each from its own text.
-/

namespace SeriesQuery

/-- What `blanks` passes over. -/
abbrev blankChars : List Char := [' ', '\t']

/-- What `gap` passes over. -/
abbrev gapChars : List Char := [' ', '\t', '\r', '\n']

theorem eq_false_of_any {p : Char → Bool} {cs : List Char} (h : cs.any p = false) {c : Char}
    (hc : c ∈ cs) : p c = false :=
  Bool.eq_false_iff.mpr (List.any_eq_false.mp h c hc)

theorem not_mem_of_any {cs ds : List Char} (h : cs.any ds.contains = false) {c : Char}
    (hc : c ∈ cs) : c ∉ ds := fun hmem =>
  absurd (List.contains_iff_mem.mpr hmem) (Bool.eq_false_iff.mp (eq_false_of_any h hc))

/-- Nothing of the class `p` stands first in `s`. -/
def Stops (p : Char → Bool) (s : List Char) : Prop := ∀ c ∈ s.head?, p c = false

namespace Stops

variable {p : Char → Bool} {c : Char} {s t : List Char}

@[simp] theorem nil : Stops p [] := fun _ h => absurd h (Option.not_mem_none _)

@[simp] theorem cons_iff : Stops p (c :: s) ↔ p c = false := by
  constructor
  · exact fun h => h c rfl
  · rintro h _ ⟨⟩
    exact h

theorem contains_cons_iff {cs : List Char} : Stops cs.contains (c :: s) ↔ c ∉ cs := by
  rw [cons_iff, ← Bool.not_eq_true, List.contains_iff_mem]

theorem cons (h : p c = false) : Stops p (c :: s) := cons_iff.mpr h

theorem mono {q : Char → Bool} (h : Stops q s) (hpq : ∀ c, p c = true → q c = true) :
    Stops p s := by
  exact fun c hc => Bool.eq_false_iff.mpr fun hp => Bool.eq_false_iff.mp (h c hc) (hpq c hp)

theorem of_subset {cs ds : List Char} (h : Stops ds.contains s) (hsub : cs ⊆ ds) :
    Stops cs.contains s :=
  h.mono fun _ hc => List.contains_iff_mem.mpr (hsub (List.contains_iff_mem.mp hc))

theorem append (hs : Stops p s) (hne : s ≠ []) : Stops p (s ++ t) := by
  obtain ⟨c, s, rfl⟩ := List.exists_cons_of_ne_nil hne
  exact cons_iff.mpr (cons_iff.mp hs)

theorem takeWhile_append (h : Stops p s) (ht : ∀ c ∈ t, p c = true) :
    (t ++ s).takeWhile p = t ∧ (t ++ s).dropWhile p = s := by
  have hnone : s.takeWhile p = [] ∧ s.dropWhile p = s := by
    cases s with
    | nil => exact ⟨rfl, rfl⟩
    | cons c s =>
      have hc := Bool.eq_false_iff.mp (cons_iff.mp h)
      exact ⟨List.takeWhile_cons_of_neg hc, List.dropWhile_cons_of_neg hc⟩
  rw [List.takeWhile_append_of_pos ht, List.dropWhile_append_of_pos ht, hnone.1, hnone.2,
    List.append_nil]
  exact ⟨rfl, rfl⟩

end Stops

namespace Parser

variable {α β γ σ : Type} {p : Parser α} {s mid place rest : List Char} {a : α}

/-! ## Sequence -/

theorem bind_of_done {f : α → Parser β} (h : p s = .done a mid) : (p >>= f) s = f a mid := by
  change Parser.bind p f s = f a mid
  rw [Parser.bind, h]

theorem bind_of_refused {f : α → Parser β} (h : p s = .refused place) :
    (p >>= f) s = .refused place := by
  change Parser.bind p f s = .refused place
  rw [Parser.bind, h]

theorem map_of_done (f : α → β) (h : p s = .done a rest) : (f <$> p) s = .done (f a) rest :=
  bind_of_done h

theorem map_of_refused (f : α → β) (h : p s = .refused place) : (f <$> p) s = .refused place :=
  bind_of_refused h

/-! ## Alternatives -/

theorem orElse_of_done (q : Parser α) (h : p s = .done a rest) :
    (p <|> q) s = .done a rest := by
  change Parser.orElse p q s = .done a rest
  rw [Parser.orElse, h]

theorem orElse_of_refused (q : Parser α) (h : p s = .refused place) : (p <|> q) s = q s := by
  change Parser.orElse p q s = q s
  rw [Parser.orElse, h]

theorem commit_of_done (h : p s = .done a rest) : commit p s = .done a rest := by
  rw [commit, h]

theorem optional_of_done (h : p s = .done a rest) : optional p s = .done (some a) rest := by
  rw [optional, h]

theorem optional_of_refused (h : p s = .refused place) : optional p s = .done none s := by
  rw [optional, h]

theorem filterMap_of_done {f : α → Option β} {b : β} (h : p s = .done a rest) (hb : f a = some b) :
    filterMap f p s = .done b rest := by
  rw [filterMap, h]
  dsimp only
  rw [hb]

theorem filterMap_of_refused (f : α → Option β) (h : p s = .refused place) :
    filterMap f p s = .refused place := by
  rw [filterMap, h]

theorem located_of_done (h : p s = .done a rest) : located p s = .done ⟨s, a⟩ rest := by
  rw [located, h]

theorem located_of_refused (h : p s = .refused place) : located p s = .refused place := by
  rw [located, h]

/-! ## Characters -/

theorem char_cons (c : Char) (rest : List Char) : char c (c :: rest) = .done c rest := if_pos rfl

theorem char_refused {c : Char} (h : Stops [c].contains s) : char c s = .refused s := by
  cases s with
  | nil => rfl
  | cons d rest => exact if_neg (by simpa using h)

theorem oneOf_cons {cs : List Char} {c : Char} (h : cs.contains c = true) (rest : List Char) :
    oneOf cs (c :: rest) = .done c rest := if_pos h

theorem oneOf_refused {cs : List Char} (h : Stops cs.contains s) : oneOf cs s = .refused s := by
  cases s with
  | nil => rfl
  | cons d rest => exact if_neg (Bool.eq_false_iff.mp (Stops.cons_iff.mp h))

section Runs

variable {class' : Char → Bool}

theorem takeWhile_append (cs : List Char) (hcs : ∀ c ∈ cs, class' c = true)
    (hrest : Stops class' rest) :
    takeWhile class' (cs ++ rest) = .done cs rest := by
  obtain ⟨htake, hdrop⟩ := hrest.takeWhile_append hcs
  rw [takeWhile, htake, hdrop]

theorem takeWhile_of_stops (h : Stops class' s) : takeWhile class' s = .done [] s :=
  takeWhile_append [] (fun _ hc => absurd hc List.not_mem_nil) h

theorem takeWhile1_append {cs : List Char} (hne : cs ≠ []) (hcs : ∀ c ∈ cs, class' c = true)
    (hrest : Stops class' rest) : takeWhile1 class' (cs ++ rest) = .done cs rest := by
  obtain ⟨htake, hdrop⟩ := Reply.done.inj (takeWhile_append cs hcs hrest)
  rw [takeWhile1, htake, hdrop, if_neg]
  simpa using hne

theorem takeWhile1_refused (h : Stops class' s) : takeWhile1 class' s = .refused s := by
  obtain ⟨htake, -⟩ := Reply.done.inj (takeWhile_of_stops h)
  rw [takeWhile1, htake]
  rfl

end Runs

theorem blanks_of_stops (h : Stops blankChars.contains s) : blanks s = .done () s :=
  bind_of_done (takeWhile_of_stops h)

theorem blanks_space (h : Stops blankChars.contains s) : blanks (' ' :: s) = .done () s :=
  bind_of_done (takeWhile_append [' '] (List.forall_mem_singleton.mpr rfl) h)

theorem gap_of_stops (h : Stops gapChars.contains s) : gap s = .done () s :=
  bind_of_done (takeWhile_of_stops h)

theorem gap_space (h : Stops gapChars.contains s) : gap (' ' :: s) = .done () s :=
  bind_of_done (takeWhile_append [' '] (List.forall_mem_singleton.mpr rfl) h)

/-! ## Repetition -/

theorem fold_of_done {q : Parser β} {f : α → β → α} {b : β} (h : q s = .done b mid)
    (hlt : mid.length < s.length) : fold q f a s = fold q f (f a b) mid := by
  rw [fold, h]
  exact if_pos hlt

theorem fold_of_refused {q : Parser β} {f : α → β → α} (h : q s = .refused place) :
    fold q f a s = .done a s := by
  rw [fold, h]

section Lists

variable {item : Parser α} {separator : Parser σ} {text : β → List Char} {Ends : List Char → Prop}
  {f : α → γ} {g : β → γ}

/-- A fold reads the texts of `bs` one by one, as each is an end of the one before it. -/
theorem fold_flatMap {bs : List β} (htext : ∀ b ∈ bs, text b ≠ [])
    (hitem : ∀ b ∈ bs, ∀ rest, Ends rest → ∃ a, item (text b ++ rest) = .done a rest ∧ f a = g b)
    (hends : ∀ b ∈ bs, ∀ rest, Ends (text b ++ rest)) (hrest : Ends rest)
    (hstop : ∃ place, item rest = .refused place) (found : List α) :
    ∃ as, fold item (fun items a => items ++ [a]) found (bs.flatMap text ++ rest) =
      .done (found ++ as) rest ∧ as.map f = bs.map g := by
  induction bs generalizing found with
  | nil =>
    obtain ⟨place, hplace⟩ := hstop
    exact ⟨[], by rw [List.flatMap_nil, List.nil_append, List.append_nil, fold_of_refused hplace],
      rfl⟩
  | cons b bs ih =>
    rw [List.forall_mem_cons] at htext hitem hends
    have hnext : Ends (bs.flatMap text ++ rest) := by
      cases bs with
      | nil => exact hrest
      | cons c bs =>
        rw [List.flatMap_cons, List.append_assoc]
        exact hends.2 c List.mem_cons_self _
    obtain ⟨a, ha, hab⟩ := hitem.1 _ hnext
    obtain ⟨as, has, hall⟩ := ih htext.2 hitem.2 hends.2 (found ++ [a])
    refine ⟨a :: as, ?_, by rw [List.map_cons, List.map_cons, hab, hall]⟩
    have hlt : (bs.flatMap text ++ rest).length < (text b ++ (bs.flatMap text ++ rest)).length := by
      have := List.length_pos_iff.mpr htext.1
      simp only [List.length_append]
      omega
    rw [List.flatMap_cons, List.append_assoc, fold_of_done ha hlt, has, List.append_assoc,
      List.singleton_append]

variable {between : List Char}

theorem intercalate_cons (t : List Char) (ts : List (List Char)) :
    between.intercalate (t :: ts) = t ++ ts.flatMap (between ++ ·) := by
  induction ts generalizing t with
  | nil => simp
  | cons u ts ih =>
    rw [List.intercalate_cons_cons, ih, List.flatMap_cons, List.append_assoc, List.append_assoc]

theorem length_le_intercalate {t : List Char} {ts : List (List Char)} (h : t ∈ ts) :
    t.length ≤ (between.intercalate ts).length := by
  obtain ⟨front, back, rfl⟩ := List.append_of_mem h
  cases front with
  | nil => simp [intercalate_cons]
  | cons u front =>
    simp [intercalate_cons]
    omega

/-- Items with `between` among them, before an end of the text that no further item begins. -/
theorem nonEmptyListOf_intercalate {bs : List β} (hne : bs ≠ []) (hbetween : between ≠ [])
    (hitem : ∀ b ∈ bs, ∀ rest, Ends rest → ∃ a, item (text b ++ rest) = .done a rest ∧ f a = g b)
    (hsep : ∀ b ∈ bs, ∀ rest,
      ∃ x, separator (between ++ (text b ++ rest)) = .done x (text b ++ rest))
    (hends : ∀ rest, Ends (between ++ rest)) (hrest : Ends rest)
    (hstop : ∃ place, separator rest = .refused place) :
    ∃ as, nonEmptyListOf item separator (between.intercalate (bs.map text) ++ rest) =
      .done as rest ∧ as.map f = bs.map g := by
  obtain ⟨b, bs, rfl⟩ := List.exists_cons_of_ne_nil hne
  rw [List.forall_mem_cons] at hitem hsep
  have hfirst : Ends (bs.flatMap (between ++ text ·) ++ rest) := by
    cases bs with
    | nil => exact hrest
    | cons c bs =>
      rw [List.flatMap_cons, List.append_assoc, List.append_assoc]
      exact hends _
  obtain ⟨a, ha, hab⟩ := hitem.1 _ hfirst
  have hmore : ∃ as, fold (do let _ ← separator; item) (fun items a => items ++ [a]) [a]
      (bs.flatMap (between ++ text ·) ++ rest) = .done ([a] ++ as) rest ∧ as.map f = bs.map g := by
    refine fold_flatMap (fun c _ => List.append_ne_nil_of_left_ne_nil hbetween _) ?_ ?_ hrest
      (hstop.imp fun place hplace => bind_of_refused hplace) [a]
    · intro c hc rest hrest
      obtain ⟨x, hx⟩ := hsep.2 c hc rest
      obtain ⟨a, ha, hac⟩ := hitem.2 c hc rest hrest
      exact ⟨a, by rw [List.append_assoc, bind_of_done hx, ha], hac⟩
    · intro c _ rest
      rw [List.append_assoc]
      exact hends _
  obtain ⟨as, has, hall⟩ := hmore
  refine ⟨a :: as, ?_, by rw [List.map_cons, List.map_cons, hab, hall]⟩
  rw [List.map_cons, intercalate_cons, List.flatMap_map, List.append_assoc, nonEmptyListOf,
    bind_of_done ha, has, List.singleton_append]

theorem listOf_of_done {as : List α} (h : nonEmptyListOf item separator s = .done as rest) :
    listOf item separator s = .done as rest := by
  rw [listOf, h]

theorem listOf_of_refused (h : item s = .refused place) : listOf item separator s = .done [] s := by
  rw [listOf, nonEmptyListOf, bind_of_refused h]

end Lists

end Parser

end SeriesQuery
