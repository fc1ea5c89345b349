import SeriesQuery.Proofs.Points.Merged

/-!
# Lookup by halving

For ascending times the halving search agrees with reading the points one after the other.

* `bisect_spec` : the place where a condition that holds up to there begins to fail;
* `Points.rankBy_spec` : the points before the rank are those that satisfy the condition;
* `Points.toList_slice` : a slice holds the points with times in its interval;
* `Points.valueAt_eq` : the value at a time is the one of the point that has it;
* `Points.lookup`, `Points.valueAt_eq_lookup` : the same, found by reading on until it comes.
-/

namespace SeriesQuery

/-! ## Halving -/

/-- `p` holds before the answer and fails from there on, if whatever it holds for it holds for all
before. -/
theorem bisect_spec (p : Nat → Bool) (hp : ∀ i j, i ≤ j → p j = true → p i = true) (lo hi : Nat)
    (hle : lo ≤ hi) :
    lo ≤ bisect p lo hi ∧ bisect p lo hi ≤ hi ∧
      (∀ i, lo ≤ i → i < bisect p lo hi → p i = true) ∧
      (∀ i, bisect p lo hi ≤ i → i < hi → p i = false) := by
  induction lo, hi using bisect.induct p with
  | case1 lo hi hlt mid hmid ih =>
    have heq : bisect p lo hi = bisect p (mid + 1) hi := by rw [bisect, if_pos hlt, if_pos hmid]
    rw [heq]
    obtain ⟨hlo, hhi, hbefore, hafter⟩ := ih (by omega)
    refine ⟨by omega, hhi, fun i _ hi => ?_, hafter⟩
    by_cases hm : i ≤ mid
    · exact hp i mid hm hmid
    · exact hbefore i (by omega) hi
  | case2 lo hi hlt mid hmid ih =>
    have heq : bisect p lo hi = bisect p lo mid := by rw [bisect, if_pos hlt, if_neg hmid]
    rw [heq]
    obtain ⟨hlo, hhi, hbefore, hafter⟩ := ih (by omega)
    refine ⟨hlo, by omega, hbefore, fun i hi _ => ?_⟩
    by_cases hm : i < mid
    · exact hafter i hi hm
    · exact Bool.eq_false_iff.mpr fun h => hmid (hp mid i (by omega) h)
  | case3 lo hi hlt =>
    rw [bisect, if_neg hlt]
    exact ⟨Nat.le_refl _, hle, fun i _ _ => by omega, fun i _ _ => by omega⟩

namespace Points

variable {α : Type}

/-! ## Ranks -/

section Rank

variable {ps : Points α} {p : Int → Bool}

theorem getElem_time_le (h : ps.times.Pairwise (· < ·)) {i j : Nat} (hij : i ≤ j)
    (hj : j < ps.toList.length) : (ps.toList[i]).time ≤ (ps.toList[j]).time := by
  rcases Nat.lt_or_eq_of_le hij with hlt | rfl
  · exact Int.le_of_lt (List.pairwise_iff_getElem.mp (List.pairwise_map.mp h) i j (by omega) hj hlt)
  · exact Int.le_refl _

/-- Points before the rank satisfy `p`, the others do not. -/
theorem rankBy_spec (h : ps.times.Pairwise (· < ·)) (hp : ∀ s t, s ≤ t → p t = true → p s = true) :
    ps.rankBy p ≤ ps.size ∧
      ∀ i, (hi : i < ps.toList.length) → (p (ps.toList[i]).time = true ↔ i < ps.rankBy p) := by
  have hmono : ∀ i j : Nat, i ≤ j → ((ps.toList[j]?).any fun q : Point α => p q.time) = true →
      ((ps.toList[i]?).any fun q : Point α => p q.time) = true := by
    intro i j hij hj
    rw [Option.any_eq_true] at hj
    obtain ⟨q, hq, hpq⟩ := hj
    obtain ⟨hlen, rfl⟩ := List.getElem?_eq_some_iff.mp hq
    rw [List.getElem?_eq_getElem (by omega : i < ps.toList.length)]
    exact hp _ _ (getElem_time_le h hij hlen) hpq
  obtain ⟨-, hle, hbefore, hafter⟩ := bisect_spec _ hmono 0 ps.size (Nat.zero_le _)
  refine ⟨hle, fun i hi => ⟨fun hpi => ?_, fun hir => ?_⟩⟩
  · by_contra hge
    have hf := hafter i (by unfold rankBy at hge; omega) hi
    rw [List.getElem?_eq_getElem hi] at hf
    simp [hpi] at hf
  · have ht := hbefore i (Nat.zero_le _) hir
    rw [List.getElem?_eq_getElem hi] at ht
    simpa using ht

end Rank

/-! ## Slices -/

/-- A list that satisfies `p` just up to the place `n`, taken apart there. -/
theorem take_drop_eq_filter {β : Type} {l : List β} {p : β → Bool} {n : Nat}
    (h : ∀ i, (hi : i < l.length) → (p l[i] = true ↔ i < n)) :
    l.take n = l.filter p ∧ l.drop n = l.filter (!p ·) := by
  induction l generalizing n with
  | nil => exact ⟨List.take_nil, List.drop_nil⟩
  | cons x l ih =>
    have hhead : p x = true ↔ 0 < n := h 0 (Nat.zero_lt_succ _)
    have htail : ∀ i, (hi : i < l.length) → (p l[i] = true ↔ i + 1 < n) :=
      fun i hi => h (i + 1) (Nat.succ_lt_succ hi)
    cases n with
    | zero =>
      have hx : p x = false := Bool.eq_false_iff.mpr fun hp => Nat.lt_irrefl 0 (hhead.mp hp)
      obtain ⟨htake, hdrop⟩ := ih (n := 0) fun i hi => by rw [htail i hi]; omega
      rw [List.filter_cons_of_neg (by simp [hx]), List.filter_cons_of_pos (by simp [hx])]
      exact ⟨htake, congrArg (x :: ·) hdrop⟩
    | succ n =>
      have hx : p x = true := hhead.mpr (Nat.zero_lt_succ n)
      obtain ⟨htake, hdrop⟩ := ih (n := n) fun i hi => by rw [htail i hi]; omega
      rw [List.filter_cons_of_pos hx, List.filter_cons_of_neg (by simp [hx])]
      exact ⟨congrArg (x :: ·) htake, hdrop⟩

theorem toList_slice {ps : Points α} (h : ps.times.Pairwise (· < ·)) (start stop : Int) :
    (ps.slice start stop).toList =
      ps.toList.filter fun q => start ≤ q.time && q.time < stop := by
  have hrank (t : Int) : ∀ i, (hi : i < ps.toList.length) →
      (decide ((ps.toList[i]).time < t) = true ↔ i < ps.rank t) :=
    (rankBy_spec (p := (· < t)) h (by simp; omega)).2
  have htake :=
    (take_drop_eq_filter (p := fun q : Point α => decide (q.time < stop)) (hrank stop)).1
  have hdrop := (take_drop_eq_filter (l := ps.toList.take (ps.rank stop))
    (p := fun q : Point α => decide (q.time < start)) (n := ps.rank start) fun i hi => by
      rw [List.getElem_take]
      exact hrank start i _).2
  unfold slice
  rw [hdrop, htake, List.filter_filter]
  refine List.filter_congr fun q _ => ?_
  rw [← decide_not, decide_eq_decide.mpr Int.not_lt]

/-! ## Values -/

/-- The value at `t` is that of the point at `t`, whichever way of merging one asks about. -/
theorem valueAt_eq [Sample α] (f : α → α → α) {ps : Points α} (h : ps.times.Pairwise (· < ·))
    (t : Int) : ps.valueAt t = (ps.mergedAt f t).getD Sample.nan := by
  have hnodup : ps.times.Nodup := h.imp Int.ne_of_lt
  obtain ⟨hle, hiff⟩ := rankBy_spec (p := (· ≤ t)) h (by simp; omega)
  unfold valueAt
  split
  next h0 =>
    rw [mergedAt_eq_none_iff.mpr, Option.getD_none]
    intro ht
    obtain ⟨p, hp, rfl⟩ := List.mem_map.mp ht
    obtain ⟨i, hi, rfl⟩ := List.getElem_of_mem hp
    have := (hiff i hi).mp (by simp)
    omega
  next i hi =>
    have hlen : i < ps.toList.length := by
      rw [hi] at hle
      exact hle
    rw [List.getElem?_eq_getElem hlen]
    dsimp only
    split
    next ht =>
      rw [← ht, mergedAt_of_mem hnodup (List.getElem_mem hlen), Option.getD_some]
    next ht =>
      rw [mergedAt_eq_none_iff.mpr, Option.getD_none]
      intro hmem
      obtain ⟨p, hp, hpt⟩ := List.mem_map.mp hmem
      obtain ⟨j, hj, rfl⟩ := List.getElem_of_mem hp
      have hji : j < i + 1 := by
        rw [← Nat.succ_eq_add_one, ← hi, ← hiff j hj, hpt]
        simp
      have hit := of_decide_eq_true ((hiff i hlen).mpr (by omega))
      have := getElem_time_le h (Nat.le_of_lt_succ hji) hlen
      exact ht (by omega)

/-- The value of the first point at `t`, NaN if there is none. -/
def lookup [Sample α] (ps : Points α) (t : Int) : α :=
  ((ps.toList.find? (·.time = t)).map (·.value)).getD Sample.nan

/-- Merging that keeps the earlier value keeps the first one. -/
theorem mergedAt_first (ps : Points α) (t : Int) :
    ps.mergedAt (fun u _ => u) t = (ps.toList.find? (·.time = t)).map (·.value) := by
  have hfirst (vs : List α) : mergeAll? (fun u _ => u) vs = vs.head? := by
    cases vs <;> simp [mergeAll?]
  rw [mergedAt, hfirst, valuesAt, List.head?_map, List.head?_filter]

theorem valueAt_eq_lookup [Sample α] {ps : Points α} (h : ps.times.Pairwise (· < ·)) (t : Int) :
    ps.valueAt t = ps.lookup t := by
  rw [valueAt_eq (fun u _ => u) h, mergedAt_first, lookup]

end Points

end SeriesQuery
