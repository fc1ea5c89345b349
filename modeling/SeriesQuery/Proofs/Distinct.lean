import SeriesQuery.Series
import Mathlib.Data.List.Induction
import Mathlib.Data.List.Nodup
import Mathlib.Data.List.Perm.Subperm

/-!
# First occurrences

* `pushDistinct` and `distinctBy` through the keys of their lists: the keys of the answer are those
  of the input (`mem_keys_distinctBy`), each once (`nodup_keys_distinctBy`);
* `foldl_pushDistinct`, `distinctBy_append` : a list put behind another one adds what is new in it;
* `forall₂_distinctBy` : of two related lists related elements are left out;
* `find?_distinct` : what is found first stays the first to be found;
* `distinctBy_flatMap_distinctBy` : repetitions in the input of a flat map make no difference;
* `unrepeated xs` : the elements of `xs` that no earlier one equals, `distinct_eq_unrepeated`;
* `flatMap_filter_perm` : a list taken apart by a key and put together again.
-/

namespace SeriesQuery

variable {α β κ : Type} [DecidableEq κ] {key : α → κ}

/-! ## One element -/

theorem pushDistinct_of_mem {xs : List α} {x : α} (h : key x ∈ xs.map key) :
    pushDistinct key xs x = xs := by
  obtain ⟨y, hy, hxy⟩ := List.mem_map.mp h
  unfold pushDistinct
  rw [if_pos (List.any_eq_true.mpr ⟨y, hy, by simpa using hxy⟩)]

theorem pushDistinct_of_not_mem {xs : List α} {x : α} (h : key x ∉ xs.map key) :
    pushDistinct key xs x = xs ++ [x] := by
  unfold pushDistinct
  rw [if_neg]
  intro hany
  obtain ⟨y, hy, hxy⟩ := List.any_eq_true.mp hany
  exact h (List.mem_map.mpr ⟨y, hy, by simpa using hxy⟩)

theorem pushDistinct_cons_of_ne {xs : List α} {x y : α} (h : key y ≠ key x) :
    pushDistinct key (y :: xs) x = y :: pushDistinct key xs x := by
  unfold pushDistinct
  rw [List.any_cons, decide_eq_false h, Bool.false_or]
  split <;> rfl

theorem mem_keys_pushDistinct {xs : List α} {x : α} {k : κ} :
    k ∈ (pushDistinct key xs x).map key ↔ k ∈ xs.map key ∨ k = key x := by
  by_cases h : key x ∈ xs.map key
  · rw [pushDistinct_of_mem h]
    refine ⟨Or.inl, ?_⟩
    rintro (hk | rfl)
    · exact hk
    · exact h
  · rw [pushDistinct_of_not_mem h, List.map_append, List.mem_append, List.map_singleton,
      List.mem_singleton]

theorem nodup_keys_pushDistinct {xs : List α} (h : (xs.map key).Nodup) (x : α) :
    ((pushDistinct key xs x).map key).Nodup := by
  by_cases hx : key x ∈ xs.map key
  · rwa [pushDistinct_of_mem hx]
  · rw [pushDistinct_of_not_mem hx, List.map_append, List.map_singleton]
    refine List.nodup_append.mpr ⟨h, List.nodup_singleton _, ?_⟩
    intro k hk l hl hkl
    rw [List.mem_singleton.mp hl] at hkl
    exact hx (hkl ▸ hk)

/-! ## Many elements -/

theorem mem_keys_foldl_pushDistinct {xs ys : List α} {k : κ} :
    k ∈ (ys.foldl (pushDistinct key) xs).map key ↔ k ∈ xs.map key ∨ k ∈ ys.map key := by
  induction ys generalizing xs with
  | nil => simp
  | cons y ys ih =>
    rw [List.foldl_cons, ih, mem_keys_pushDistinct, List.map_cons, List.mem_cons, or_assoc]

theorem nodup_keys_foldl_pushDistinct {xs : List α} (h : (xs.map key).Nodup) (ys : List α) :
    ((ys.foldl (pushDistinct key) xs).map key).Nodup := by
  induction ys generalizing xs with
  | nil => exact h
  | cons y ys ih => exact ih (nodup_keys_pushDistinct h y)

@[simp] theorem distinctBy_nil : distinctBy key ([] : List α) = [] := rfl

theorem mem_keys_distinctBy {xs : List α} {k : κ} :
    k ∈ (distinctBy key xs).map key ↔ k ∈ xs.map key := by
  rw [distinctBy, mem_keys_foldl_pushDistinct]
  simp

theorem nodup_keys_distinctBy (xs : List α) : ((distinctBy key xs).map key).Nodup :=
  nodup_keys_foldl_pushDistinct (by simp) xs

/-- The elements behind `xs` are those of `ys` with new keys, each key once. -/
theorem foldl_pushDistinct (xs ys : List α) :
    ys.foldl (pushDistinct key) xs =
      xs ++ (distinctBy key ys).filter (fun y => key y ∉ xs.map key) := by
  induction ys using List.reverseRecOn with
  | nil => simp
  | append_singleton ys y ih =>
    have hd : distinctBy key (ys ++ [y]) = pushDistinct key (distinctBy key ys) y := by
      simp [distinctBy]
    rw [List.foldl_append, List.foldl_cons, List.foldl_nil, hd]
    by_cases hy : key y ∈ ys.map key
    · rw [pushDistinct_of_mem (mem_keys_foldl_pushDistinct.mpr (Or.inr hy)),
        pushDistinct_of_mem (mem_keys_distinctBy.mpr hy), ih]
    · rw [pushDistinct_of_not_mem (fun h => hy (mem_keys_distinctBy.mp h)), List.filter_append]
      by_cases hx : key y ∈ xs.map key
      · rw [pushDistinct_of_mem (mem_keys_foldl_pushDistinct.mpr (Or.inl hx)), ih,
          List.filter_cons_of_neg (by simpa using hx), List.filter_nil, List.append_nil]
      · rw [pushDistinct_of_not_mem (fun h => (mem_keys_foldl_pushDistinct.mp h).elim hx hy), ih,
          List.filter_cons_of_pos (by simpa using hx), List.filter_nil, List.append_assoc]

theorem distinctBy_append (xs ys : List α) :
    distinctBy key (xs ++ ys) =
      distinctBy key xs ++ (distinctBy key ys).filter (fun y => key y ∉ xs.map key) := by
  have h : distinctBy key (xs ++ ys) = ys.foldl (pushDistinct key) (distinctBy key xs) := by
    simp [distinctBy]
  rw [h, foldl_pushDistinct]
  congr 1
  apply List.filter_congr
  intro y _
  simp only [mem_keys_distinctBy]

theorem distinctBy_cons (x : α) (xs : List α) :
    distinctBy key (x :: xs) = x :: (distinctBy key xs).filter (fun y => key y ≠ key x) := by
  rw [← List.singleton_append, distinctBy_append]
  simp [distinctBy, pushDistinct]

theorem sublist_distinctBy (xs : List α) : (distinctBy key xs).Sublist xs := by
  induction xs with
  | nil => simp
  | cons x xs ih =>
    rw [distinctBy_cons]
    exact (List.filter_sublist.trans ih).cons_cons x

theorem mem_of_mem_distinctBy {xs : List α} {x : α} (h : x ∈ distinctBy key xs) : x ∈ xs :=
  (sublist_distinctBy xs).subset h

theorem distinctBy_of_nodup {xs : List α} (h : (xs.map key).Nodup) : distinctBy key xs = xs := by
  apply (sublist_distinctBy xs).eq_of_length
  have hsub : (xs.map key) ⊆ (distinctBy key xs).map key := fun k hk => mem_keys_distinctBy.mpr hk
  have hle := (h.subperm hsub).length_le
  have hge : (distinctBy key xs).length ≤ xs.length := (sublist_distinctBy xs).length_le
  rw [List.length_map, List.length_map] at hle
  omega

/-- Where equal keys mean equal elements nothing is lost. -/
theorem mem_distinctBy_iff {xs : List α} (h : ∀ x ∈ xs, ∀ y ∈ xs, key x = key y → x = y) {x : α} :
    x ∈ distinctBy key xs ↔ x ∈ xs := by
  refine ⟨mem_of_mem_distinctBy, fun hx => ?_⟩
  have hk : key x ∈ (distinctBy key xs).map key := mem_keys_distinctBy.mpr (List.mem_map_of_mem hx)
  obtain ⟨y, hy, hxy⟩ := List.mem_map.mp hk
  rwa [← h y (mem_of_mem_distinctBy hy) x hx hxy]

theorem distinctBy_distinctBy (xs : List α) :
    distinctBy key (distinctBy key xs) = distinctBy key xs :=
  distinctBy_of_nodup (nodup_keys_distinctBy xs)

/-- Lists that are related element by element stay so if related elements have equal keys
together. -/
theorem forall₂_distinctBy {ι : Type} [DecidableEq ι] {label : β → ι} {R : α → β → Prop}
    (h : ∀ x y x' y', R x y → R x' y' → (key x = key x' ↔ label y = label y'))
    {xs : List α} {ys : List β} (hxy : List.Forall₂ R xs ys) :
    List.Forall₂ R (distinctBy key xs) (distinctBy label ys) := by
  induction hxy with
  | nil => exact .nil
  | @cons x y xs ys hxy _ ih =>
    rw [distinctBy_cons, distinctBy_cons]
    refine .cons hxy (List.rel_filter (fun x' y' hxy' => ?_) ih)
    have hne : key x' ≠ key x ↔ label y' ≠ label y := not_congr (h x' y' x y hxy' hxy)
    simpa using hne

/-! ## Elements as their own keys -/

theorem mem_distinct_iff {xs : List κ} {x : κ} : x ∈ distinctBy id xs ↔ x ∈ xs :=
  mem_distinctBy_iff fun _ _ _ _ h => h

theorem nodup_distinct (xs : List κ) : (distinctBy id xs).Nodup := by
  have h : ((distinctBy id xs).map id).Nodup := nodup_keys_distinctBy xs
  rwa [List.map_id] at h

/-- The first element with a property stays the first one. -/
theorem find?_distinct (p : κ → Bool) (xs : List κ) : (distinctBy id xs).find? p = xs.find? p := by
  induction xs with
  | nil => rfl
  | cons x xs ih =>
    rw [distinctBy_cons, List.find?_cons, List.find?_cons]
    by_cases hx : p x = true
    · rw [hx]
    · -- Only copies of `x` are left out, and `p` fails for them.
      have hsame : (fun y => decide (decide (id y ≠ id x) = true ∧ p y = true)) = p := by
        funext y
        by_cases hy : y = x
        · simp [hy, hx]
        · simp [hy]
      rw [Bool.eq_false_iff.mpr hx, ← ih, List.find?_filter, hsame]

/-- Repetitions in the input of a flat map are repetitions in its output. -/
theorem distinctBy_flatMap_distinctBy [DecidableEq β] (f : β → List α) (bs : List β) :
    distinctBy key ((distinctBy id bs).flatMap f) = distinctBy key (bs.flatMap f) := by
  induction bs using List.reverseRecOn with
  | nil => rfl
  | append_singleton bs b ih =>
    have hd : distinctBy id (bs ++ [b]) = pushDistinct id (distinctBy id bs) b := by
      simp [distinctBy]
    rw [hd]
    have hkeys : ∀ k, k ∈ ((distinctBy id bs).flatMap f).map key ↔ k ∈ (bs.flatMap f).map key := by
      intro k
      rw [← mem_keys_distinctBy, ih, mem_keys_distinctBy]
    by_cases hb : b ∈ bs
    · rw [pushDistinct_of_mem (by rwa [List.map_id, mem_distinct_iff]), List.flatMap_append,
        distinctBy_append, ← ih, List.filter_eq_nil_iff.mpr, List.append_nil]
      intro x hx
      have hx : x ∈ bs.flatMap f :=
        List.mem_flatMap.mpr ⟨b, hb, by simpa using mem_of_mem_distinctBy hx⟩
      have hk : key x ∈ (bs.flatMap f).map key := List.mem_map_of_mem hx
      simpa only [decide_eq_true_eq, not_not] using hk
    · rw [pushDistinct_of_not_mem (by rwa [List.map_id, mem_distinct_iff]),
        List.flatMap_append, List.flatMap_append,
        distinctBy_append, distinctBy_append, ih]
      simp only [hkeys]

/-! ## Repetitions -/

/-- The elements that equal no earlier one, in order. -/
def unrepeated (xs : List κ) : List κ :=
  (xs.zipIdx.filter fun x => x.1 ∉ xs.take x.2).map Prod.fst

theorem unrepeated_append_singleton (xs : List κ) (x : κ) :
    unrepeated (xs ++ [x]) = unrepeated xs ++ if x ∈ xs then [] else [x] := by
  have hfront : (xs.zipIdx.filter fun y => y.1 ∉ (xs ++ [x]).take y.2) =
      xs.zipIdx.filter fun y => y.1 ∉ xs.take y.2 := by
    refine List.filter_congr fun y hy => ?_
    have hlt : y.2 < xs.length := by
      have := (List.mem_zipIdx hy).2.1
      omega
    rw [List.take_append_of_le_length (Nat.le_of_lt hlt)]
  have hlast : (xs ++ [x]).take xs.length = xs := by simp
  unfold unrepeated
  rw [List.zipIdx_append, List.filter_append, List.map_append, hfront]
  by_cases hx : x ∈ xs
  · simp [hx]
  · simp [hx]

/-- Pushing one by one what is not there yet leaves out just the repetitions. -/
theorem distinct_eq_unrepeated (xs : List κ) : distinctBy id xs = unrepeated xs := by
  induction xs using List.reverseRecOn with
  | nil => rfl
  | append_singleton xs x ih =>
    have hpush : distinctBy id (xs ++ [x]) = pushDistinct id (distinctBy id xs) x := by
      simp [distinctBy]
    rw [hpush, unrepeated_append_singleton, ← ih]
    by_cases hx : x ∈ xs
    · rw [if_pos hx, List.append_nil, pushDistinct_of_mem]
      rwa [List.map_id, id, mem_distinct_iff]
    · rw [if_neg hx, pushDistinct_of_not_mem]
      rwa [List.map_id, id, mem_distinct_iff]

/-! ## Fibers -/

/-- The elements of a list, sorted by a key that takes the values `ks`. -/
theorem flatMap_filter_perm {ks : List κ} (hks : ks.Nodup) {xs : List α}
    (h : ∀ x ∈ xs, key x ∈ ks) :
    (ks.flatMap fun k => xs.filter (key · = k)).Perm xs := by
  induction ks generalizing xs with
  | nil =>
    have hxs : xs = [] := List.eq_nil_iff_forall_not_mem.mpr fun x hx => List.not_mem_nil (h x hx)
    rw [hxs]
    exact List.Perm.nil
  | cons k ks ih =>
    obtain ⟨hk, hks⟩ := List.nodup_cons.mp hks
    -- The other keys find their elements among those without `k`.
    have hrest : (ks.flatMap fun l => xs.filter (key · = l)) =
        ks.flatMap fun l => (xs.filter fun x => !decide (key x = k)).filter (key · = l) := by
      refine List.flatMap_congr fun l hl => ?_
      rw [List.filter_filter]
      refine List.filter_congr fun x _ => ?_
      by_cases hx : key x = l
      · have hne : key x ≠ k := fun hxk => hk (hxk ▸ hx ▸ hl)
        simp [hx, hx ▸ hne]
      · simp [hx]
    have hcover : ∀ x ∈ xs.filter fun x => !decide (key x = k), key x ∈ ks := by
      intro x hx
      obtain ⟨hx, hne⟩ := List.mem_filter.mp hx
      exact (List.mem_cons.mp (h x hx)).resolve_left (by simpa using hne)
    rw [List.flatMap_cons, hrest]
    exact ((ih hks hcover).append_left _).trans (List.filter_append_perm _ xs)

end SeriesQuery
