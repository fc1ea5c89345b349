import Mathlib.Data.List.Forall2

/-!
# Computations that can fail

* `bind_eq_ok`, `bind_eq_error`, `map_eq_ok` : a sequence succeeds or fails as its parts do;
* `mapM_ok_iff`, `exists_of_mapM_error` : so does a list of them;
* `toOption_bind_congr`, `toOption_mapM_congr`, `toOption_foldlM_congr` : the same where only the
  results matter, not the errors (`toOption_eq_iff`);
* `FailsIn P x` : the errors that a computation can end in;
* `BothOk R x y` : if both succeed, then with related results;
* `Matches R x y` : both fail with one error, or both succeed with related results.
-/

namespace SeriesQuery

variable {ε α β γ δ σ : Type}

/-! ## Sequences -/

theorem bind_eq_ok {x : Except ε α} {f : α → Except ε β} {b : β} :
    x >>= f = .ok b ↔ ∃ a, x = .ok a ∧ f a = .ok b := by
  cases x with
  | error e =>
    refine ⟨nofun, ?_⟩
    rintro ⟨a, ha, -⟩
    exact absurd ha nofun
  | ok a =>
    refine ⟨fun h => ⟨a, rfl, h⟩, ?_⟩
    rintro ⟨a', ha, h⟩
    rwa [Except.ok.inj ha]

theorem map_eq_ok {x : Except ε α} {f : α → β} {b : β} :
    f <$> x = .ok b ↔ ∃ a, x = .ok a ∧ f a = b := by
  cases x with
  | error e =>
    refine ⟨nofun, ?_⟩
    rintro ⟨a, ha, -⟩
    exact absurd ha nofun
  | ok a =>
    refine ⟨fun h => ⟨a, rfl, Except.ok.inj h⟩, ?_⟩
    rintro ⟨a', ha, rfl⟩
    rw [← Except.ok.inj ha]
    rfl

theorem bind_eq_error {x : Except ε α} {f : α → Except ε β} {e : ε} :
    x >>= f = .error e ↔ x = .error e ∨ ∃ a, x = .ok a ∧ f a = .error e := by
  cases x with
  | error e' =>
    refine ⟨fun h => Or.inl (congrArg _ (Except.error.inj h)), ?_⟩
    rintro (h | ⟨a, ha, -⟩)
    · exact congrArg _ (Except.error.inj h)
    · exact absurd ha nofun
  | ok a =>
    refine ⟨fun h => Or.inr ⟨a, rfl, h⟩, ?_⟩
    rintro (h | ⟨a', ha, h⟩)
    · exact absurd h nofun
    · rwa [← Except.ok.inj ha] at h

/-! ## Lists -/

theorem exists_of_forall₂ {R : α → β → Prop} {xs : List α} {ys : List β}
    (h : List.Forall₂ R xs ys) : ∀ y ∈ ys, ∃ x ∈ xs, R x y := by
  induction h with
  | nil => exact List.forall_mem_nil _
  | @cons x y xs ys hxy _ ih =>
    refine List.forall_mem_cons.mpr ⟨⟨x, List.mem_cons_self, hxy⟩, fun z hz => ?_⟩
    obtain ⟨w, hw, hwz⟩ := ih z hz
    exact ⟨w, List.mem_cons_of_mem x hw, hwz⟩

theorem mapM_ok_iff {f : α → Except ε β} {xs : List α} {ys : List β} :
    xs.mapM f = .ok ys ↔ List.Forall₂ (fun x y => f x = .ok y) xs ys := by
  induction xs generalizing ys with
  | nil =>
    rw [List.mapM_nil, List.forall₂_nil_left_iff]
    exact ⟨fun h => (Except.ok.inj h).symm, fun h => congrArg Except.ok h.symm⟩
  | cons x xs ih =>
    rw [List.mapM_cons, bind_eq_ok]
    constructor
    · rintro ⟨y, hy, h⟩
      obtain ⟨zs, hzs, h⟩ := bind_eq_ok.mp h
      rw [← Except.ok.inj h]
      exact .cons hy (ih.mp hzs)
    · intro h
      cases h with
      | cons hy hys => exact ⟨_, hy, bind_eq_ok.mpr ⟨_, ih.mpr hys, rfl⟩⟩

theorem exists_of_mapM_ok {f : α → Except ε β} {xs : List α} {ys : List β}
    (h : xs.mapM f = .ok ys) : ∀ x ∈ xs, ∃ y, f x = .ok y := by
  have hall := mapM_ok_iff.mp h
  clear h
  induction hall with
  | nil => exact fun _ hx => absurd hx List.not_mem_nil
  | cons hy _ ih => exact List.forall_mem_cons.mpr ⟨⟨_, hy⟩, ih⟩

theorem exists_of_mem_mapM {f : α → Except ε β} {xs : List α} {ys : List β}
    (h : xs.mapM f = .ok ys) {y : β} (hy : y ∈ ys) : ∃ x ∈ xs, f x = .ok y :=
  exists_of_forall₂ (mapM_ok_iff.mp h) y hy

theorem mapM_eq_ok_map {f : α → Except ε β} {g : α → β} {xs : List α}
    (h : ∀ x ∈ xs, f x = .ok (g x)) : xs.mapM f = .ok (xs.map g) :=
  mapM_ok_iff.mpr (List.forall₂_map_right_iff.mpr (List.forall₂_same.mpr h))

theorem exists_of_mapM_error {f : α → Except ε β} {xs : List α} {e : ε}
    (h : xs.mapM f = .error e) : ∃ x ∈ xs, f x = .error e := by
  induction xs with
  | nil => exact absurd h nofun
  | cons x xs ih =>
    rw [List.mapM_cons] at h
    rcases bind_eq_error.mp h with h | ⟨y, -, h⟩
    · exact ⟨x, List.mem_cons_self, h⟩
    · rcases bind_eq_error.mp h with h | ⟨ys, -, h⟩
      · obtain ⟨z, hz, h⟩ := ih h
        exact ⟨z, List.mem_cons_of_mem x hz, h⟩
      · exact absurd h nofun

/-- A flat map, when nothing in it fails. -/
theorem mapM_flatten {f : α → Except ε (List β)} {xs : List α} (h : ∀ x ∈ xs, ∃ ys, f x = .ok ys) :
    (xs.mapM f >>= fun yss => .ok yss.flatten) =
      .ok (xs.flatMap fun x => (f x).toOption.getD []) := by
  have hok : ∀ x ∈ xs, f x = .ok ((f x).toOption.getD []) := by
    intro x hx
    obtain ⟨ys, hys⟩ := h x hx
    rw [hys]
    rfl
  rw [mapM_eq_ok_map hok]
  rfl

theorem mapM_singleton_flatten (f : α → Except ε (List β)) (x : α) :
    ([x].mapM f >>= fun yss => .ok yss.flatten) = f x := by
  rw [List.mapM_cons, List.mapM_nil]
  cases f x with
  | error _ => rfl
  | ok ys => exact congrArg Except.ok (List.append_nil ys)

/-- One part after the other. -/
theorem mapM_append_flatten (f : α → Except ε (List β)) (xs xs' : List α) :
    ((xs ++ xs').mapM f >>= fun yss => .ok yss.flatten) =
      (xs.mapM f >>= fun yss => .ok yss.flatten) >>= fun ys =>
        (xs'.mapM f >>= fun yss => .ok yss.flatten) >>= fun ys' => .ok (ys ++ ys') := by
  rw [List.mapM_append]
  cases xs.mapM f with
  | error _ => rfl
  | ok yss =>
    cases xs'.mapM f with
    | error _ => rfl
    | ok yss' => exact congrArg Except.ok List.flatten_append

theorem mapM_congr {f g : α → Except ε β} {xs : List α} (h : ∀ x ∈ xs, f x = g x) :
    xs.mapM f = xs.mapM g := by
  induction xs with
  | nil => rfl
  | cons x xs ih =>
    obtain ⟨hx, hxs⟩ := List.forall_mem_cons.mp h
    rw [List.mapM_cons, List.mapM_cons, hx, ih hxs]

/-! ## Results without their errors -/

theorem toOption_bind_congr {x y : Except ε α} {f g : α → Except ε β}
    (h : x.toOption = y.toOption) (hfg : ∀ a, (f a).toOption = (g a).toOption) :
    (x >>= f).toOption = (y >>= g).toOption := by
  cases x with
  | error e => cases y with | error _ => rfl | ok b => contradiction
  | ok a =>
    cases y with
    | error _ => contradiction
    | ok b => exact Option.some.inj h ▸ hfg a

theorem toOption_mapM_congr {f g : α → Except ε β} {xs : List α}
    (h : ∀ x ∈ xs, (f x).toOption = (g x).toOption) :
    (xs.mapM f).toOption = (xs.mapM g).toOption := by
  induction xs with
  | nil => rfl
  | cons x xs ih =>
    obtain ⟨hx, hxs⟩ := List.forall_mem_cons.mp h
    rw [List.mapM_cons, List.mapM_cons]
    exact toOption_bind_congr hx fun y => toOption_bind_congr (ih hxs) fun ys => rfl

theorem toOption_foldlM_congr {f g : β → α → Except ε β}
    (h : ∀ b a, (f b a).toOption = (g b a).toOption) (b : β) (xs : List α) :
    (xs.foldlM f b).toOption = (xs.foldlM g b).toOption := by
  induction xs generalizing b with
  | nil => rfl
  | cons x xs ih =>
    rw [List.foldlM_cons, List.foldlM_cons]
    exact toOption_bind_congr (h b x) ih

theorem eq_ok_of_toOption {x y : Except ε α} (h : x.toOption = y.toOption) {a : α}
    (hx : x = .ok a) : y = .ok a := by
  subst hx
  cases y with
  | error _ => contradiction
  | ok b => exact congrArg Except.ok (Option.some.inj h).symm

theorem toOption_eq_iff {x y : Except ε α} :
    x.toOption = y.toOption ↔ ∀ a, x = .ok a ↔ y = .ok a := by
  refine ⟨fun h a => ⟨eq_ok_of_toOption h, eq_ok_of_toOption h.symm⟩, fun h => ?_⟩
  cases x with
  | ok a => rw [(h a).mp rfl]
  | error e =>
    cases y with
    | ok a => exact absurd ((h a).mpr rfl) nofun
    | error _ => rfl

theorem exists_of_toOption_any {x : Except ε α} {p : α → Bool} (h : x.toOption.any p = true) :
    ∃ a, x = .ok a ∧ p a = true := by
  cases x with
  | error _ => contradiction
  | ok a => exact ⟨a, rfl, h⟩

/-- The error of a computation that fails. -/
def failure? : Except ε α → Option ε
  | .ok _ => none
  | .error e => some e

theorem eq_error_of_failure? {x : Except ε α} {e : ε} (h : failure? x = some e) : x = .error e := by
  cases x with
  | error e' => exact congrArg _ (Option.some.inj h)
  | ok a => contradiction

/-! ## Errors -/

/-- All errors that the computation can end in satisfy `P`. -/
def FailsIn (P : ε → Prop) (x : Except ε α) : Prop := ∀ e, x = .error e → P e

namespace FailsIn

variable {P : ε → Prop} {x : Except ε α}

theorem ok (a : α) : FailsIn P (.ok a : Except ε α) := fun _ h => nomatch h

theorem error {e : ε} (h : P e) : FailsIn P (.error e : Except ε α) :=
  fun _ heq => Except.error.inj heq ▸ h

theorem bind {f : α → Except ε β} (h : FailsIn P x) (hf : ∀ a, FailsIn P (f a)) :
    FailsIn P (x >>= f) := by
  intro e he
  rcases bind_eq_error.mp he with he | ⟨a, -, he⟩
  · exact h e he
  · exact hf a e he

theorem map (h : FailsIn P x) (f : α → β) : FailsIn P (f <$> x) := by
  rw [map_eq_pure_bind]
  exact h.bind fun a => ok (f a)

theorem mapM {f : α → Except ε β} {xs : List α} (h : ∀ x ∈ xs, FailsIn P (f x)) :
    FailsIn P (xs.mapM f) := by
  intro e he
  obtain ⟨x, hx, he⟩ := exists_of_mapM_error he
  exact h x hx e he

theorem foldlM {f : β → α → Except ε β} {xs : List α} (h : ∀ b, ∀ x ∈ xs, FailsIn P (f b x))
    (b : β) : FailsIn P (xs.foldlM f b) := by
  induction xs generalizing b with
  | nil => exact ok b
  | cons x xs ih =>
    rw [List.foldlM_cons]
    exact (h b x List.mem_cons_self).bind fun b => ih (fun b x hx => h b x (.tail _ hx)) b

end FailsIn

/-! ## Two successes -/

/-- Where both succeed the results are related. -/
def BothOk (R : α → β → Prop) (x : Except ε α) (y : Except ε β) : Prop :=
  ∀ a b, x = .ok a → y = .ok b → R a b

namespace BothOk

variable {R : α → β → Prop} {S : γ → δ → Prop} {x : Except ε α} {y : Except ε β}

theorem ok {a : α} {b : β} (h : R a b) : BothOk R (.ok a : Except ε α) (.ok b : Except ε β) :=
  fun _ _ ha hb => Except.ok.inj ha ▸ Except.ok.inj hb ▸ h

theorem error {e : ε} : BothOk R (.error e) y := fun _ _ h => nomatch h

theorem bind {f : α → Except ε γ} {g : β → Except ε δ} (h : BothOk R x y)
    (hfg : ∀ a b, R a b → BothOk S (f a) (g b)) : BothOk S (x >>= f) (y >>= g) := by
  intro c d hc hd
  obtain ⟨a, ha, hc⟩ := bind_eq_ok.mp hc
  obtain ⟨b, hb, hd⟩ := bind_eq_ok.mp hd
  exact hfg a b (h a b ha hb) c d hc hd

end BothOk

/-! ## Agreement -/

inductive Matches (R : α → β → Prop) : Except ε α → Except ε β → Prop where
  | error (e : ε) : Matches R (.error e) (.error e)
  | ok {a : α} {b : β} (h : R a b) : Matches R (.ok a) (.ok b)

namespace Matches

variable {R : α → β → Prop} {S : γ → δ → Prop} {x : Except ε α} {y : Except ε β}

theorem mono {S : α → β → Prop} (h : Matches R x y) (hRS : ∀ a b, R a b → S a b) :
    Matches S x y := by
  cases h with
  | error e => exact .error e
  | ok hab => exact .ok (hRS _ _ hab)

theorem bind {f : α → Except ε γ} {g : β → Except ε δ} (h : Matches R x y)
    (hfg : ∀ a b, R a b → Matches S (f a) (g b)) : Matches S (x >>= f) (y >>= g) := by
  cases h with
  | error e => exact .error e
  | ok hab => exact hfg _ _ hab

theorem refl {R : α → α → Prop} (hR : ∀ a, R a a) (x : Except ε α) : Matches R x x := by
  cases x with
  | error e => exact .error e
  | ok a => exact .ok (hR a)

theorem trans {z : Except ε γ} {T : β → γ → Prop} (h : Matches R x y) (h' : Matches T y z) :
    Matches (fun a c => ∃ b, R a b ∧ T b c) x z := by
  cases h with
  | error e => cases h' with | error _ => exact .error e
  | ok hab => cases h' with | ok hbc => exact .ok ⟨_, hab, hbc⟩

/-- What agrees with one computation agrees with each other. -/
theorem join {z : Except ε γ} {T : γ → β → Prop} (h : Matches R x y) (h' : Matches T z y) :
    Matches (fun a c => ∃ b, R a b ∧ T c b) x z := by
  cases h with
  | error e => cases h' with | error _ => exact .error e
  | ok hab => cases h' with | ok hcb => exact .ok ⟨_, hab, hcb⟩

theorem mapM {f : σ → Except ε α} {g : σ → Except ε β} {xs : List σ}
    (h : ∀ x ∈ xs, Matches R (f x) (g x)) :
    Matches (List.Forall₂ R) (xs.mapM f) (xs.mapM g) := by
  induction xs with
  | nil => exact .ok .nil
  | cons x xs ih =>
    obtain ⟨hx, hxs⟩ := List.forall_mem_cons.mp h
    rw [List.mapM_cons, List.mapM_cons]
    refine hx.bind fun a b hab => ?_
    exact (ih hxs).bind fun as bs habs => .ok (.cons hab habs)

theorem ok_of_ok (h : Matches R x y) {b : β} (hy : y = .ok b) : ∃ a, x = .ok a := by
  cases h with
  | error e => exact absurd hy nofun
  | ok _ => exact ⟨_, rfl⟩

theorem error_iff (h : Matches R x y) (e : ε) : x = .error e ↔ y = .error e := by
  cases h with
  | error e' =>
    exact ⟨fun h => congrArg _ (Except.error.inj h), fun h => congrArg _ (Except.error.inj h)⟩
  | ok _ => exact ⟨nofun, nofun⟩

/-- If it fails everywhere or nowhere, and with one error, the order of the list does not matter. -/
theorem mapM_perm {f : σ → Except ε α} {xs ys : List σ} (h : xs.Perm ys)
    (hf : ∀ x y, Matches (fun _ _ => True) (f x) (f y)) :
    Matches List.Perm (xs.mapM f) (ys.mapM f) := by
  induction h with
  | nil => exact .ok .nil
  | cons x _ ih =>
    rw [List.mapM_cons, List.mapM_cons]
    cases f x with
    | error e => exact .error e
    | ok a => exact ih.bind fun as bs habs => .ok (habs.cons a)
  | swap x y zs =>
    rw [List.mapM_cons, List.mapM_cons, List.mapM_cons, List.mapM_cons]
    cases hx : f x with
    | error e =>
      rw [((hf y x).error_iff e).mpr hx]
      exact .error e
    | ok b =>
      obtain ⟨a, ha⟩ := (hf y x).ok_of_ok hx
      rw [ha]
      cases zs.mapM f with
      | error e => exact .error e
      | ok cs => exact .ok (.swap b a cs)
  | trans _ _ ih ih' => exact (ih.trans ih').mono fun _ _ ⟨_, h, h'⟩ => h.trans h'

end Matches

end SeriesQuery
