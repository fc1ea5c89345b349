import SeriesQuery.Proofs.Text.Accepts
import Mathlib.Data.List.TakeWhile

/-!
# How a parser comes to its reply

* `Parser.bind_eq_done`, `Parser.orElse_eq_done`, `Parser.char_eq_done`, ... : what it takes for
  each way of building parsers to be done;
* `Parser.fold_eq_done` : an invariant of what repetition has read so far;
* `Parser.Listed` : items that are read with separators among them;
* `Parser.Refuses p s`, `Parser.refuses_bind`, `Parser.refuses_char`, ... : and to refuse a text;
* `Reply.left`, `Parser.Within source` : the rest of the text, or the place where reading stopped,
  is a place in the source.
-/

namespace SeriesQuery

/-- The text from where the parser has got to. -/
def Reply.left {α : Type} : Reply α → List Char
  | .done _ rest => rest
  | .refused place => place
  | .failed place => place

namespace Parser

variable {α β σ : Type} {p q : Parser α} {s rest place : List Char}

/-- The parser refuses the text, so that another one may read it. -/
def Refuses (p : Parser α) (s : List Char) : Prop := ∃ place, p s = .refused place

/-! ## Being done -/

theorem bind_eq_done {f : α → Parser β} {b : β} :
    (p >>= f) s = .done b rest ↔ ∃ a mid, p s = .done a mid ∧ f a mid = .done b rest := by
  change Parser.bind p f s = .done b rest ↔ _
  unfold Parser.bind
  cases p s with
  | done a mid =>
    constructor
    · exact fun h => ⟨a, mid, rfl, h⟩
    · rintro ⟨_, _, ⟨⟩, h⟩
      exact h
  | refused place => simp
  | failed place => simp

theorem pure_eq_done {a b : α} : (pure a : Parser α) s = .done b rest ↔ a = b ∧ s = rest :=
  ⟨fun h => Reply.done.inj h, fun ⟨ha, hs⟩ => ha ▸ hs ▸ rfl⟩

theorem map_eq_done {f : α → β} {b : β} :
    (f <$> p) s = .done b rest ↔ ∃ a, p s = .done a rest ∧ f a = b := by
  change (p >>= fun a => pure (f a)) s = .done b rest ↔ _
  simp only [bind_eq_done, pure_eq_done]
  constructor
  · rintro ⟨a, mid, ha, rfl, rfl⟩
    exact ⟨a, ha, rfl⟩
  · rintro ⟨a, ha, rfl⟩
    exact ⟨a, rest, ha, rfl, rfl⟩

theorem orElse_eq_done {a : α} : (p <|> q) s = .done a rest ↔
    p s = .done a rest ∨ p.Refuses s ∧ q s = .done a rest := by
  change orElse p q s = .done a rest ↔ _
  unfold Refuses orElse
  cases p s <;> simp

theorem commit_eq_done {a : α} : commit p s = .done a rest ↔ p s = .done a rest := by
  unfold commit
  cases p s <;> simp

theorem optional_eq_done {o : Option α} : optional p s = .done o rest ↔
    (∃ a, o = some a ∧ p s = .done a rest) ∨ o = none ∧ rest = s ∧ p.Refuses s := by
  unfold Refuses optional
  cases p s with
  | done a mid =>
    constructor
    · intro h
      obtain ⟨rfl, rfl⟩ := Reply.done.inj h
      exact .inl ⟨a, rfl, rfl⟩
    · rintro (⟨_, rfl, ⟨⟩⟩ | ⟨-, -, _, ⟨⟩⟩)
      rfl
  | refused place => simp [eq_comm]
  | failed place => simp

theorem filterMap_eq_done {f : α → Option β} {b : β} :
    filterMap f p s = .done b rest ↔ ∃ a, p s = .done a rest ∧ f a = some b := by
  unfold filterMap
  cases p s with
  | done a mid =>
    dsimp only
    constructor
    · intro h
      split at h
      · next c hc =>
        obtain ⟨rfl, rfl⟩ := Reply.done.inj h
        exact ⟨a, rfl, hc⟩
      · contradiction
    · rintro ⟨_, ⟨⟩, hb⟩
      rw [hb]
  | refused place => simp
  | failed place => simp

theorem located_eq_done {x : Text.Located α} :
    located p s = .done x rest ↔ x.start = s ∧ p s = .done x.node rest := by
  obtain ⟨start, node⟩ := x
  unfold located
  cases p s <;> simp [and_assoc, eq_comm]

theorem listOf_eq_done {separator : Parser σ} {items : List α} :
    listOf p separator s = .done items rest ↔
      nonEmptyListOf p separator s = .done items rest ∨
        items = [] ∧ rest = s ∧ (nonEmptyListOf p separator).Refuses s := by
  unfold Refuses listOf
  cases nonEmptyListOf p separator s <;> simp [eq_comm]

/-! ### Characters -/

theorem char_eq_done {c d : Char} : char c s = .done d rest ↔ d = c ∧ s = c :: rest := by
  cases s with
  | nil => simp [char]
  | cons e s =>
    unfold char
    dsimp only
    split
    · next h =>
      subst h
      simp [eq_comm]
    · next h => simp [h]

theorem oneOf_eq_done {cs : List Char} {c : Char} :
    oneOf cs s = .done c rest ↔ c ∈ cs ∧ s = c :: rest := by
  cases s with
  | nil => simp [oneOf]
  | cons d s =>
    unfold oneOf
    dsimp only
    split
    · next h =>
      have hd : d ∈ cs := List.contains_iff_mem.mp h
      constructor
      · intro h
        obtain ⟨rfl, rfl⟩ := Reply.done.inj h
        exact ⟨hd, rfl⟩
      · rintro ⟨-, h⟩
        obtain ⟨rfl, rfl⟩ := List.cons.inj h
        rfl
    · next h =>
      refine ⟨nofun, ?_⟩
      rintro ⟨hc, heq⟩
      obtain ⟨rfl, -⟩ := List.cons.inj heq
      exact absurd (List.contains_iff_mem.mpr hc) h

section Runs

variable {class' : Char → Bool} {cs : List Char}

theorem takeWhile_eq_done : takeWhile class' s = .done cs rest ↔
    s = cs ++ rest ∧ (∀ c ∈ cs, class' c = true) ∧ Stops class' rest := by
  constructor
  · intro h
    obtain ⟨rfl, rfl⟩ := Reply.done.inj h
    refine ⟨List.takeWhile_append_dropWhile.symm, fun c hc => List.mem_takeWhile_imp hc, ?_⟩
    intro c hc
    have := List.head?_dropWhile_not class' s
    rw [Option.mem_def.mp hc] at this
    simpa using this
  · rintro ⟨rfl, hcs, hrest⟩
    exact takeWhile_append cs hcs hrest

theorem takeWhile1_eq_done : takeWhile1 class' s = .done cs rest ↔
    s = cs ++ rest ∧ cs ≠ [] ∧ (∀ c ∈ cs, class' c = true) ∧ Stops class' rest := by
  constructor
  · intro h
    unfold takeWhile1 at h
    split at h
    · contradiction
    · next hne =>
      obtain ⟨heq, hcs, hrest⟩ := takeWhile_eq_done.mp (congrArg (fun r => r) h)
      exact ⟨heq, by simpa [(Reply.done.inj h).1] using hne, hcs, hrest⟩
  · rintro ⟨rfl, hne, hcs, hrest⟩
    exact takeWhile1_append hne hcs hrest

end Runs

/-- A run of a class that is passed over. -/
theorem skip_eq_done {class' : Char → Bool} {u : Unit} :
    (do let _ ← takeWhile class' : Parser Unit) s = .done u rest ↔
      ∃ cs, s = cs ++ rest ∧ (∀ c ∈ cs, class' c = true) ∧ Stops class' rest := by
  simp only [bind_eq_done, takeWhile_eq_done, pure_eq_done]
  constructor
  · rintro ⟨cs, mid, h, -, rfl⟩
    exact ⟨cs, h⟩
  · rintro ⟨cs, h⟩
    exact ⟨cs, rest, h, trivial, rfl⟩

theorem blanks_eq_done {u : Unit} : blanks s = .done u rest ↔
    ∃ cs, s = cs ++ rest ∧ (∀ c ∈ cs, blankChars.contains c = true) ∧
      Stops blankChars.contains rest :=
  skip_eq_done

theorem gap_eq_done {u : Unit} : gap s = .done u rest ↔
    ∃ cs, s = cs ++ rest ∧ (∀ c ∈ cs, gapChars.contains c = true) ∧
      Stops gapChars.contains rest :=
  skip_eq_done

/-! ### Repetition -/

/-- What every round keeps holds of the value and the text at the end. -/
theorem fold_eq_done {p : Parser β} {f : α → β → α} {I : List Char → α → Prop}
    (hstep : ∀ s acc b mid, I s acc → p s = .done b mid → I mid (f acc b)) {acc a : α}
    (hacc : I s acc) (h : fold p f acc s = .done a rest) : I rest a := by
  induction hn : s.length using Nat.strongRecOn generalizing s acc with
  | ind n ih =>
    rw [Parser.fold] at h
    split at h
    · next b mid hb =>
      have hnext : I mid (f acc b) := hstep s acc b mid hacc hb
      split at h
      · next hlt => exact ih mid.length (hn ▸ hlt) hnext h rfl
      · obtain ⟨rfl, rfl⟩ := Reply.done.inj h
        exact hnext
    · obtain ⟨rfl, rfl⟩ := Reply.done.inj h
      exact hacc
    · contradiction

/-- Items that are read with separators among them. -/
inductive Listed (item : Parser α) (separator : Parser σ) :
    List Char → List α → List Char → Prop where
  | one {s rest : List Char} {a : α} (h : item s = .done a rest) : Listed item separator s [a] rest
  | more {s mid next rest : List Char} {a : α} {x : σ} {as : List α} (h : item s = .done a mid)
    (hsep : separator mid = .done x next) (hnext : Listed item separator next as rest) :
    Listed item separator s (a :: as) rest

theorem Listed.snoc {item : Parser α} {separator : Parser σ} {mid next : List Char} {a : α} {x : σ}
    {as : List α} (h : Listed item separator s as mid)
    (hsep : separator mid = .done x next) (ha : item next = .done a rest) :
    Listed item separator s (as ++ [a]) rest := by
  induction h with
  | one hb => exact .more hb hsep (.one ha)
  | more hb hsep' _ ih => exact .more hb hsep' (ih hsep)

theorem listed_of_nonEmptyListOf {item : Parser α} {separator : Parser σ} {as : List α}
    (h : nonEmptyListOf item separator s = .done as rest) :
    Listed item separator s as rest := by
  obtain ⟨first, mid, hfirst, hmore⟩ := bind_eq_done.mp h
  refine fold_eq_done (I := fun text as => Listed item separator s as text) ?_ (.one hfirst) hmore
  intro text as a mid has ha
  obtain ⟨x, next, hsep, ha⟩ := bind_eq_done.mp ha
  exact has.snoc hsep ha

/-! ## Refusing -/

theorem refuses_bind {f : α → Parser β} :
    (p >>= f).Refuses s ↔ p.Refuses s ∨ ∃ a mid, p s = .done a mid ∧ (f a).Refuses mid := by
  change (∃ place, Parser.bind p f s = .refused place) ↔ _
  unfold Refuses Parser.bind
  cases p s with
  | done a mid =>
    constructor
    · exact fun h => .inr ⟨a, mid, rfl, h⟩
    · rintro (⟨_, ⟨⟩⟩ | ⟨_, _, ⟨⟩, h⟩)
      exact h
  | refused place => simp
  | failed place => simp

@[simp] theorem not_refuses_pure (a : α) : ¬(pure a : Parser α).Refuses s := fun h => nomatch h

theorem refuses_map {f : α → β} : (f <$> p).Refuses s ↔ p.Refuses s := by
  change (p >>= fun a => pure (f a)).Refuses s ↔ _
  simp [refuses_bind]

theorem refuses_orElse : (p <|> q).Refuses s ↔ p.Refuses s ∧ q.Refuses s := by
  change (∃ place, orElse p q s = .refused place) ↔ _
  unfold Refuses orElse
  cases p s <;> simp

@[simp] theorem not_refuses_commit : ¬(commit p).Refuses s := by
  unfold Refuses commit
  cases p s <;> simp

@[simp] theorem not_refuses_optional : ¬(optional p).Refuses s := by
  unfold Refuses optional
  cases p s <;> simp

theorem refuses_filterMap {f : α → Option β} :
    (filterMap f p).Refuses s ↔ p.Refuses s ∨ ∃ a mid, p s = .done a mid ∧ f a = none := by
  unfold Refuses filterMap
  cases p s with
  | done a mid =>
    dsimp only
    cases hf : f a with
    | none => exact ⟨fun _ => .inr ⟨a, mid, rfl, hf⟩, fun _ => ⟨s, rfl⟩⟩
    | some b =>
      constructor
      · rintro ⟨_, ⟨⟩⟩
      · rintro (⟨_, ⟨⟩⟩ | ⟨_, _, ⟨⟩, h⟩)
        exact absurd (hf.symm.trans h) nofun
  | refused place => simp
  | failed place => simp

theorem refuses_located : (located p).Refuses s ↔ p.Refuses s := by
  unfold Refuses located
  cases p s <;> simp

@[simp] theorem not_refuses_fold {p : Parser β} {f : α → β → α} {acc : α} :
    ¬(fold p f acc).Refuses s := by
  rintro ⟨place, h⟩
  induction hn : s.length using Nat.strongRecOn generalizing s acc with
  | ind n ih =>
    rw [Parser.fold] at h
    split at h
    · next b mid hb =>
      split at h
      · next hlt => exact ih mid.length (hn ▸ hlt) h rfl
      · contradiction
    · contradiction
    · contradiction

theorem refuses_nonEmptyListOf {separator : Parser σ} :
    (nonEmptyListOf p separator).Refuses s ↔ p.Refuses s := by
  unfold nonEmptyListOf
  simp [refuses_bind]

/-- A text that does not stop a class begins with one of its characters. -/
theorem stops_of_forall {class' : Char → Bool}
    (h : ∀ c rest, s = c :: rest → class' c ≠ true) : Stops class' s := by
  cases s with
  | nil => exact Stops.nil
  | cons c rest => exact Stops.cons (Bool.eq_false_iff.mpr (h c rest rfl))

theorem refuses_char {c : Char} : (char c).Refuses s ↔ Stops [c].contains s := by
  refine ⟨fun ⟨place, h⟩ => stops_of_forall ?_, fun h => ⟨s, char_refused h⟩⟩
  rintro d rest rfl hd
  obtain rfl : d = c := by simpa using hd
  exact absurd (h.symm.trans (char_cons d rest)) nofun

theorem refuses_oneOf {cs : List Char} : (oneOf cs).Refuses s ↔ Stops cs.contains s := by
  refine ⟨fun ⟨place, h⟩ => stops_of_forall ?_, fun h => ⟨s, oneOf_refused h⟩⟩
  rintro d rest rfl hd
  exact absurd (h.symm.trans (oneOf_cons hd rest)) nofun

@[simp] theorem not_refuses_takeWhile {class' : Char → Bool} : ¬(takeWhile class').Refuses s :=
  fun h => nomatch h

theorem refuses_takeWhile1 {class' : Char → Bool} :
    (takeWhile1 class').Refuses s ↔ Stops class' s := by
  refine ⟨fun ⟨place, h⟩ => stops_of_forall ?_, fun h => ⟨s, takeWhile1_refused h⟩⟩
  rintro d rest rfl hd
  unfold takeWhile1 at h
  rw [List.takeWhile_cons_of_pos hd] at h
  exact absurd h nofun

@[simp] theorem not_refuses_blanks : ¬blanks.Refuses s := fun h => nomatch h

@[simp] theorem not_refuses_gap : ¬gap.Refuses s := fun h => nomatch h

/-! ## Staying within a text -/

/-- From any place in `source` on, what is left is a place in `source`. -/
def Within (source : List Char) (p : Parser α) : Prop :=
  ∀ s, s <:+ source → (p s).left <:+ source

variable {source : List Char}

theorem Within.of_done (h : p.Within source) (hs : s <:+ source) {a : α}
    (hp : p s = .done a rest) : rest <:+ source := by
  have := h s hs
  rwa [hp] at this

theorem within_pure (a : α) : (pure a : Parser α).Within source := fun _ hs => hs

theorem Within.bind {f : α → Parser β} (hp : p.Within source) (hf : ∀ a, (f a).Within source) :
    (p >>= f).Within source := by
  intro s hs
  change (Parser.bind p f s).left <:+ source
  have hleft := hp s hs
  unfold Parser.bind
  split
  · next a mid heq =>
    rw [heq] at hleft
    exact hf a mid hleft
  · next heq => rwa [heq] at hleft
  · next heq => rwa [heq] at hleft

theorem Within.map (hp : p.Within source) (f : α → β) : (f <$> p).Within source :=
  hp.bind fun a => within_pure (f a)

theorem within_refuse : (refuse : Parser α).Within source := fun _ hs => hs

theorem Within.orElse (hp : p.Within source) (hq : q.Within source) : (p <|> q).Within source := by
  intro s hs
  change (Parser.orElse p q s).left <:+ source
  unfold Parser.orElse
  split
  · exact hq s hs
  · exact hp s hs

theorem Within.commit (hp : p.Within source) : (commit p).Within source := by
  intro s hs
  have hleft := hp s hs
  unfold Parser.commit
  split
  · next heq => rwa [heq] at hleft
  · exact hleft

theorem Within.optional (hp : p.Within source) : (optional p).Within source := by
  intro s hs
  have hleft := hp s hs
  unfold Parser.optional
  split
  · next heq => rwa [heq] at hleft
  · exact hs
  · next heq => rwa [heq] at hleft

theorem Within.filterMap (f : α → Option β) (hp : p.Within source) :
    (filterMap f p).Within source := by
  intro s hs
  have hleft := hp s hs
  unfold Parser.filterMap
  split
  · next heq =>
    rw [heq] at hleft
    split
    · exact hleft
    · exact hs
  · next heq => rwa [heq] at hleft
  · next heq => rwa [heq] at hleft

theorem Within.located (hp : p.Within source) : (located p).Within source := by
  intro s hs
  have hleft := hp s hs
  unfold Parser.located
  split <;> next heq => rwa [heq] at hleft

theorem Within.fold {p : Parser β} (hp : p.Within source) (f : α → β → α) (acc : α) :
    (fold p f acc).Within source := by
  intro s hs
  induction hn : s.length using Nat.strongRecOn generalizing s acc with
  | ind n ih =>
    have hleft := hp s hs
    rw [Parser.fold]
    split
    · next b mid heq =>
      rw [heq] at hleft
      split
      · next hlt => exact ih mid.length (hn ▸ hlt) (f acc b) mid hleft rfl
      · exact hleft
    · exact hs
    · next heq => rwa [heq] at hleft

theorem Within.nonEmptyListOf {separator : Parser σ} (hp : p.Within source)
    (hseparator : separator.Within source) : (nonEmptyListOf p separator).Within source :=
  hp.bind fun _ => (hseparator.bind fun _ => hp).fold _ _

theorem Within.listOf {separator : Parser σ} (hp : p.Within source)
    (hseparator : separator.Within source) : (listOf p separator).Within source := by
  intro s hs
  have hleft := hp.nonEmptyListOf hseparator s hs
  unfold Parser.listOf
  split
  · exact hs
  · exact hleft

/-- What holds of an item wherever it is read holds of all items of a list. -/
theorem forall_of_nonEmptyListOf {separator : Parser σ} {P : α → Prop} (hp : p.Within source)
    (hseparator : separator.Within source)
    (hitem : ∀ s, s <:+ source → ∀ a rest, p s = .done a rest → P a) (hs : s <:+ source)
    {items : List α} (h : nonEmptyListOf p separator s = .done items rest) : ∀ a ∈ items, P a := by
  obtain ⟨first, mid, hfirst, h⟩ := bind_eq_done.mp h
  have hmid := hp.of_done hs hfirst
  refine (fold_eq_done (I := fun text items => text <:+ source ∧ ∀ a ∈ items, P a) ?_
    ⟨hmid, List.forall_mem_singleton.mpr (hitem s hs first mid hfirst)⟩ h).2
  intro s items a mid ⟨hs, hitems⟩ ha
  obtain ⟨_, between, hbetween, ha⟩ := bind_eq_done.mp ha
  have hplace := hseparator.of_done hs hbetween
  exact ⟨hp.of_done hplace ha, List.forall_mem_append.mpr
    ⟨hitems, List.forall_mem_singleton.mpr (hitem between hplace a mid ha)⟩⟩

theorem forall_of_listOf {separator : Parser σ} {P : α → Prop} (hp : p.Within source)
    (hseparator : separator.Within source)
    (hitem : ∀ s, s <:+ source → ∀ a rest, p s = .done a rest → P a) (hs : s <:+ source)
    {items : List α} (h : listOf p separator s = .done items rest) : ∀ a ∈ items, P a := by
  rcases listOf_eq_done.mp h with h | ⟨rfl, -⟩
  · exact forall_of_nonEmptyListOf hp hseparator hitem hs h
  · exact List.forall_mem_nil _

/-! ### Characters -/

theorem within_char (c : Char) : (char c).Within source
  | [], hs => hs
  | d :: rest, hs => by
    unfold char
    dsimp only
    split
    · exact (List.suffix_cons d rest).trans hs
    · exact hs

theorem within_oneOf (cs : List Char) : (oneOf cs).Within source
  | [], hs => hs
  | d :: rest, hs => by
    unfold oneOf
    dsimp only
    split
    · exact (List.suffix_cons d rest).trans hs
    · exact hs

theorem within_takeWhile (class' : Char → Bool) : (takeWhile class').Within source :=
  fun _ hs => (List.dropWhile_suffix class').trans hs

theorem within_takeWhile1 (class' : Char → Bool) : (takeWhile1 class').Within source := by
  intro s hs
  unfold takeWhile1
  split
  · exact hs
  · exact (List.dropWhile_suffix class').trans hs

theorem within_keyword (word : List Char) : (keyword word).Within source := by
  intro s hs
  unfold keyword
  split
  · exact (List.drop_suffix word.length s).trans hs
  · exact hs

theorem within_blanks : blanks.Within source := (within_takeWhile _).bind fun _ => within_pure _

theorem within_gap : gap.Within source := (within_takeWhile _).bind fun _ => within_pure _

end Parser

end SeriesQuery
