import SeriesQuery.Text.Parser

/-!
# What a parser can read

`Parser.Ensures p P` says that all values of `p` satisfy `P`, whatever the text. Each way of
building parsers has a lemma of its own, so that a grammar is followed from its parts up.
-/

namespace SeriesQuery.Parser

variable {α β σ : Type} {P : α → Prop} {Q : β → Prop}

/-- Whenever `p` is done, its value satisfies `P`. -/
def Ensures (p : Parser α) (P : α → Prop) : Prop := ∀ s a rest, p s = .done a rest → P a

theorem ensures_true (p : Parser α) : p.Ensures fun _ => True := fun _ _ _ _ => trivial

theorem Ensures.and {p : Parser α} {P' : α → Prop} (h : p.Ensures P) (h' : p.Ensures P') :
    p.Ensures fun a => P a ∧ P' a :=
  fun s a rest ha => ⟨h s a rest ha, h' s a rest ha⟩

/-! ## Sequence -/

theorem ensures_pure {a : α} (h : P a) : (pure a : Parser α).Ensures P := by
  intro s b rest hb
  obtain ⟨rfl, -⟩ : a = b ∧ s = rest := Reply.done.inj hb
  exact h

theorem Ensures.bind {p : Parser α} {f : α → Parser β} (hp : p.Ensures P)
    (hf : ∀ a, P a → (f a).Ensures Q) : (p >>= f).Ensures Q := by
  intro s b rest hb
  have hb : Parser.bind p f s = .done b rest := hb
  unfold Parser.bind at hb
  split at hb
  · next a mid ha => exact hf a (hp s a mid ha) mid b rest hb
  · contradiction
  · contradiction

/-- Where nothing is known of the first value. -/
theorem ensures_bind {p : Parser α} {f : α → Parser β} (hf : ∀ a, (f a).Ensures Q) :
    (p >>= f).Ensures Q :=
  (ensures_true p).bind fun a _ => hf a

theorem Ensures.map {p : Parser α} (f : α → β) (hp : p.Ensures P) (hf : ∀ a, P a → Q (f a)) :
    (f <$> p).Ensures Q :=
  hp.bind fun a ha => ensures_pure (hf a ha)

/-! ## Alternatives -/

theorem ensures_refuse : (refuse : Parser α).Ensures P := by
  intro s a rest h
  exact absurd h nofun

theorem Ensures.orElse {p q : Parser α} (hp : p.Ensures P) (hq : q.Ensures P) :
    (p <|> q).Ensures P := by
  intro s a rest h
  have h : Parser.orElse p q s = .done a rest := h
  unfold Parser.orElse at h
  split at h
  · exact hq s a rest h
  · exact hp s a rest h

theorem Ensures.commit {p : Parser α} (hp : p.Ensures P) : (commit p).Ensures P := by
  intro s a rest h
  unfold Parser.commit at h
  split at h
  · contradiction
  · exact hp s a rest h

theorem Ensures.optional {p : Parser α} {P' : Option α → Prop} (hp : p.Ensures P)
    (hsome : ∀ a, P a → P' (some a)) (hnone : P' none) : (optional p).Ensures P' := by
  intro s a rest h
  unfold Parser.optional at h
  split at h
  · next b mid hb => exact (Reply.done.inj h).1 ▸ hsome b (hp s b mid hb)
  · exact (Reply.done.inj h).1 ▸ hnone
  · contradiction

theorem Ensures.located {p : Parser α} (hp : p.Ensures P) :
    (located p).Ensures fun x => P x.node := by
  intro s x rest h
  unfold Parser.located at h
  split at h
  · next a mid ha =>
    obtain ⟨rfl, -⟩ := Reply.done.inj h
    exact hp s a mid ha
  · contradiction
  · contradiction

theorem oneOf_ensures (cs : List Char) : (oneOf cs).Ensures (· ∈ cs) := by
  intro s c rest h
  unfold oneOf at h
  split at h
  · split at h
    · next hc =>
      obtain ⟨rfl, -⟩ := Reply.done.inj h
      exact List.contains_iff_mem.mp hc
    · contradiction
  · contradiction

/-! ## Repetition -/

theorem Ensures.fold {p : Parser β} {f : α → β → α} (hp : p.Ensures Q)
    (hf : ∀ a b, P a → Q b → P (f a b)) {acc : α} (hacc : P acc) : (fold p f acc).Ensures P := by
  intro s a rest h
  -- Each round leaves a shorter text and an accumulator that still satisfies `P`.
  induction hn : s.length using Nat.strongRecOn generalizing s acc with
  | ind n ih =>
    rw [Parser.fold] at h
    split at h
    · next b mid hb =>
      have hnext : P (f acc b) := hf acc b hacc (hp s b mid hb)
      split at h
      · next hlt => exact ih mid.length (hn ▸ hlt) hnext mid h rfl
      · exact (Reply.done.inj h).1 ▸ hnext
    · exact (Reply.done.inj h).1 ▸ hacc
    · contradiction

theorem Ensures.nonEmptyListOf {item : Parser α} (separator : Parser σ) (h : item.Ensures P) :
    (nonEmptyListOf item separator).Ensures fun items => ∀ a ∈ items, P a := by
  refine h.bind fun first hfirst => ?_
  refine Ensures.fold (ensures_bind fun _ => h) (fun items a hitems ha => ?_) ?_
  · intro b hb
    rcases List.mem_append.mp hb with hb | hb
    · exact hitems b hb
    · exact List.mem_singleton.mp hb ▸ ha
  · intro b hb
    exact List.mem_singleton.mp hb ▸ hfirst

theorem nonEmptyListOf_ne_nil (item : Parser α) (separator : Parser σ) :
    (nonEmptyListOf item separator).Ensures (· ≠ []) := by
  refine ensures_bind fun first => ?_
  refine Ensures.fold (ensures_true _) (fun items a _ _ => ?_) (List.cons_ne_nil first [])
  exact List.append_ne_nil_of_right_ne_nil items (List.cons_ne_nil a [])

theorem Ensures.listOf {item : Parser α} (separator : Parser σ) (h : item.Ensures P) :
    (listOf item separator).Ensures fun items => ∀ a ∈ items, P a := by
  intro s items rest hs
  unfold Parser.listOf at hs
  split at hs
  · obtain ⟨rfl, -⟩ := Reply.done.inj hs
    exact fun _ ha => absurd ha List.not_mem_nil
  · exact h.nonEmptyListOf separator s items rest hs

end SeriesQuery.Parser
