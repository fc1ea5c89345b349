import SeriesQuery.Proofs.Distinct

/-!
# Points merged by time

What a sequence of points says about a time is the values it has there, merged from the left.
Merging a point in as it comes and normalizing at the end both keep that.

* `mergeAll? f vs` : the values `vs` merged from the left, none of no values;
* `Points.valuesAt`, `Points.mergedAt` : the values at a time in order, and merged;
* `Points.mergedAt_mergePoint`, `Points.times_mergePoint` : one more point merged in;
* `Points.mergedAt_normalize`, `Points.ascending_normalize` : normalizing keeps what is said and
  leaves each time once, in order;
* `Points.eq_of_mergedAt` : in order, points are determined by what they say.
-/

namespace SeriesQuery

/-- All values merged from the left, beginning with the first one. -/
def mergeAll? {α : Type} (f : α → α → α) : List α → Option α
  | [] => none
  | v :: vs => some (vs.foldl f v)

variable {α : Type} {f : α → α → α}

theorem mergeAll?_eq_none_iff {vs : List α} : mergeAll? f vs = none ↔ vs = [] := by
  cases vs <;> simp [mergeAll?]

theorem mergeAll?_merge_head (u v : α) (vs : List α) :
    mergeAll? f (f u v :: vs) = mergeAll? f (u :: v :: vs) := rfl

theorem mergeAll?_append_singleton (vs : List α) (v : α) :
    mergeAll? f (vs ++ [v]) = some ((mergeAll? f vs).elim v (f · v)) := by
  cases vs <;> simp [mergeAll?]

namespace Points

/-! ## Values at a time -/

/-- The values of the points at `t`, in order. -/
def valuesAt (ps : Points α) (t : Int) : List α := (ps.toList.filter (·.time = t)).map (·.value)

/-- The values at `t` merged from the left. -/
def mergedAt (f : α → α → α) (ps : Points α) (t : Int) : Option α := mergeAll? f (ps.valuesAt t)

theorem valuesAt_cons (p : Point α) (ps : List (Point α)) (t : Int) :
    valuesAt ⟨p :: ps⟩ t = if p.time = t then p.value :: valuesAt ⟨ps⟩ t else valuesAt ⟨ps⟩ t := by
  unfold valuesAt
  by_cases h : p.time = t
  · rw [if_pos h, List.filter_cons_of_pos (by simpa using h), List.map_cons]
  · rw [if_neg h, List.filter_cons_of_neg (by simpa using h)]

theorem times_cons (p : Point α) (ps : List (Point α)) :
    times ⟨p :: ps⟩ = p.time :: times ⟨ps⟩ := rfl

theorem valuesAt_eq_nil_iff {ps : Points α} {t : Int} : ps.valuesAt t = [] ↔ t ∉ ps.times := by
  simp [valuesAt, times]

theorem valuesAt_of_not_mem {ps : Points α} {t : Int} (h : t ∉ ps.times) : ps.valuesAt t = [] :=
  valuesAt_eq_nil_iff.mpr h

theorem mergedAt_eq_none_iff {ps : Points α} {t : Int} : ps.mergedAt f t = none ↔ t ∉ ps.times := by
  rw [mergedAt, mergeAll?_eq_none_iff, valuesAt_eq_nil_iff]

/-- Of points with different times one alone is at its time. -/
theorem valuesAt_of_mem {ps : Points α} (h : ps.times.Nodup) {p : Point α} (hp : p ∈ ps.toList) :
    ps.valuesAt p.time = [p.value] := by
  obtain ⟨qs⟩ := ps
  induction qs with
  | nil => cases hp
  | cons q qs ih =>
    rw [times_cons, List.nodup_cons] at h
    rw [valuesAt_cons]
    rcases List.mem_cons.mp hp with rfl | hp
    · rw [if_pos rfl, valuesAt_of_not_mem h.1]
    · rw [if_neg, ih h.2 hp]
      intro hq
      exact h.1 (hq ▸ List.mem_map_of_mem hp)

theorem mergedAt_of_mem {ps : Points α} (h : ps.times.Nodup) {p : Point α} (hp : p ∈ ps.toList) :
    ps.mergedAt f p.time = some p.value := by
  rw [mergedAt, valuesAt_of_mem h hp]
  rfl

theorem mem_of_mergedAt {ps qs : Points α} (hps : ps.times.Nodup) (hqs : qs.times.Nodup)
    (h : ∀ t, ps.mergedAt f t = qs.mergedAt f t) {p : Point α} (hp : p ∈ ps.toList) :
    p ∈ qs.toList := by
  have hsome : qs.mergedAt f p.time = some p.value := by rw [← h, mergedAt_of_mem hps hp]
  have ht : p.time ∈ qs.times := by
    by_contra ht
    simp [mergedAt_eq_none_iff.mpr ht] at hsome
  obtain ⟨q, hq, hqp⟩ := List.mem_map.mp ht
  have hvalue := (mergedAt_of_mem hqs hq).symm.trans (hqp ▸ hsome)
  obtain ⟨_, _⟩ := p
  obtain ⟨_, _⟩ := q
  simp_all

/-- In ascending order, what is said about each time leaves no choice of the points. -/
theorem eq_of_mergedAt {ps qs : Points α} (hps : ps.times.Pairwise (· < ·))
    (hqs : qs.times.Pairwise (· < ·)) (h : ∀ t, ps.mergedAt f t = qs.mergedAt f t) : ps = qs := by
  have hps' : ps.toList.Pairwise (·.time < ·.time) := List.pairwise_map.mp hps
  have hqs' : qs.toList.Pairwise (·.time < ·.time) := List.pairwise_map.mp hqs
  have hnodup {rs : List (Point α)} (hrs : rs.Pairwise (·.time < ·.time)) : rs.Nodup :=
    hrs.imp fun hlt heq => absurd (heq ▸ hlt) (Int.lt_irrefl _)
  have hperm : ps.toList.Perm qs.toList := by
    refine (List.perm_ext_iff_of_nodup (hnodup hps') (hnodup hqs')).mpr fun p => ⟨?_, ?_⟩
    · exact mem_of_mergedAt (hps.imp Int.ne_of_lt) (hqs.imp Int.ne_of_lt) h
    · exact mem_of_mergedAt (hqs.imp Int.ne_of_lt) (hps.imp Int.ne_of_lt) fun t => (h t).symm
  have htoList : ps.toList = qs.toList :=
    hperm.eq_of_pairwise (fun p q _ _ hpq hqp => absurd hpq (by omega)) hps' hqs'
  obtain ⟨_⟩ := ps
  obtain ⟨_⟩ := qs
  exact congrArg _ htoList

/-! ## One more point -/

theorem valuesAt_push (ps : Points α) (p : Point α) (t : Int) :
    (ps.push p).valuesAt t = ps.valuesAt t ++ if p.time = t then [p.value] else [] := by
  by_cases h : p.time = t <;> simp [push, valuesAt, h]

theorem times_mergeInto (p : Point α) (qs : List (Point α)) :
    times ⟨mergeInto f p qs⟩ =
      if p.time ∈ times ⟨qs⟩ then times ⟨qs⟩ else times ⟨qs⟩ ++ [p.time] := by
  induction qs with
  | nil => simp [mergeInto, times]
  | cons q qs ih =>
    unfold mergeInto
    by_cases h : q.time = p.time
    · simp [h, times]
    · rw [if_neg h, times_cons, times_cons, ih]
      by_cases hp : p.time ∈ times ⟨qs⟩
      · simp [hp]
      · simp [hp, Ne.symm h]

theorem times_mergePoint (ps : Points α) (p : Point α) :
    (ps.mergePoint f p).times = if p.time ∈ ps.times then ps.times else ps.times ++ [p.time] :=
  times_mergeInto p ps.toList

theorem nodup_times_mergePoint {ps : Points α} (h : ps.times.Nodup) (p : Point α) :
    (ps.mergePoint f p).times.Nodup := by
  rw [times_mergePoint]
  split
  · exact h
  · rename_i hp
    exact List.nodup_append.mpr ⟨h, List.nodup_singleton _, fun t ht u hu htu => hp (by
      rwa [← List.mem_singleton.mp hu, ← htu])⟩

theorem valuesAt_mergeInto_of_ne {p : Point α} {t : Int} (h : p.time ≠ t) (qs : List (Point α)) :
    valuesAt ⟨mergeInto f p qs⟩ t = valuesAt ⟨qs⟩ t := by
  induction qs with
  | nil => simp [mergeInto, valuesAt, h]
  | cons q qs ih =>
    unfold mergeInto
    by_cases hq : q.time = p.time
    · rw [if_pos hq, valuesAt_cons, valuesAt_cons, if_neg (hq ▸ h), if_neg (hq ▸ h)]
    · rw [if_neg hq, valuesAt_cons, valuesAt_cons, ih]

theorem mergedAt_mergeInto {p : Point α} {qs : List (Point α)} (h : (times ⟨qs⟩).Nodup) :
    mergeAll? f (valuesAt ⟨mergeInto f p qs⟩ p.time) =
      mergeAll? f (valuesAt ⟨qs⟩ p.time ++ [p.value]) := by
  induction qs with
  | nil => simp [mergeInto, valuesAt]
  | cons q qs ih =>
    rw [times_cons, List.nodup_cons] at h
    unfold mergeInto
    by_cases hq : q.time = p.time
    · have hrest : valuesAt ⟨qs⟩ p.time = [] := valuesAt_of_not_mem (hq ▸ h.1)
      rw [if_pos hq, valuesAt_cons, valuesAt_cons, if_pos hq, if_pos hq, hrest]
      rfl
    · rw [if_neg hq, valuesAt_cons, valuesAt_cons, if_neg hq, if_neg hq, ih h.2]

/-- A point merged in says at its time what it would say at the end. -/
theorem mergedAt_mergePoint {ps : Points α} (h : ps.times.Nodup) (p : Point α) (t : Int) :
    (ps.mergePoint f p).mergedAt f t = (ps.push p).mergedAt f t := by
  unfold mergedAt
  rw [valuesAt_push]
  by_cases ht : p.time = t
  · subst ht
    rw [if_pos rfl]
    exact mergedAt_mergeInto h
  · rw [if_neg ht, List.append_nil]
    exact congrArg _ (valuesAt_mergeInto_of_ne ht ps.toList)

theorem nodup_times_foldl_mergePoint {ps : Points α} (h : ps.times.Nodup) (qs : List (Point α)) :
    (qs.foldl (mergePoint f) ps).times.Nodup := by
  induction qs generalizing ps with
  | nil => exact h
  | cons q qs ih => exact ih (nodup_times_mergePoint h q)

/-- Points merged in one by one say what they say side by side. -/
theorem mergedAt_foldl_mergePoint {ps : Points α} (h : ps.times.Nodup) (qs : List (Point α))
    (t : Int) :
    (qs.foldl (mergePoint f) ps).mergedAt f t = mergedAt f ⟨ps.toList ++ qs⟩ t := by
  induction qs using List.reverseRecOn with
  | nil => rw [List.append_nil]; rfl
  | append_singleton qs q ih =>
    rw [List.foldl_append, List.foldl_cons, List.foldl_nil,
      mergedAt_mergePoint (nodup_times_foldl_mergePoint h qs), ← List.append_assoc]
    have hpush : (⟨ps.toList ++ qs ++ [q]⟩ : Points α) = push ⟨ps.toList ++ qs⟩ q := rfl
    rw [hpush]
    unfold mergedAt at ih ⊢
    rw [valuesAt_push, valuesAt_push]
    by_cases ht : q.time = t
    · rw [if_pos ht, mergeAll?_append_singleton, mergeAll?_append_singleton, ih]
    · rw [if_neg ht, List.append_nil, List.append_nil, ih]

/-! ## Normalizing -/

theorem mem_times_foldRuns {ps : List (Point α)} {t : Int} :
    t ∈ times ⟨foldRuns f ps⟩ ↔ t ∈ times ⟨ps⟩ := by
  induction ps using foldRuns.induct f with
  | case1 => simp [foldRuns]
  | case2 p => simp [foldRuns]
  | case3 p q qs h ih =>
    rw [foldRuns, if_pos h, ih]
    simp [times, h]
  | case4 p q qs h ih =>
    rw [foldRuns, if_neg h, times_cons, List.mem_cons, ih, times_cons p, List.mem_cons]

/-- In order of their times, later ones not before earlier ones. -/
def InOrder (ps : List (Point α)) : Prop := ps.Pairwise (·.time ≤ ·.time)

/-- Behind the points of the first time all others are later. -/
theorem InOrder.lt_of_ne {p q : Point α} {qs : List (Point α)} (h : InOrder (p :: q :: qs))
    (hpq : p.time ≠ q.time) {t : Int} (ht : t ∈ times ⟨q :: qs⟩) : p.time < t := by
  obtain ⟨hp, hq⟩ := List.pairwise_cons.mp h
  obtain ⟨r, hr, rfl⟩ := List.mem_map.mp ht
  have h1 := hp q List.mem_cons_self
  rcases List.mem_cons.mp hr with rfl | hr
  · omega
  · have h2 := (List.pairwise_cons.mp hq).1 r hr
    omega

theorem InOrder.merge {p q : Point α} {qs : List (Point α)} (h : InOrder (p :: q :: qs)) (v : α) :
    InOrder ({ p with value := v } :: qs) := by
  obtain ⟨hp, hq⟩ := List.pairwise_cons.mp h
  exact List.pairwise_cons.mpr ⟨fun r hr => hp r (List.mem_cons_of_mem _ hr),
    (List.pairwise_cons.mp hq).2⟩

theorem ascending_foldRuns {ps : List (Point α)} (h : InOrder ps) :
    (times ⟨foldRuns f ps⟩).Pairwise (· < ·) := by
  induction ps using foldRuns.induct f with
  | case1 => simp [foldRuns, times]
  | case2 p => simp [foldRuns, times]
  | case3 p q qs hpq ih =>
    rw [foldRuns, if_pos hpq]
    exact ih (h.merge _)
  | case4 p q qs hpq ih =>
    rw [foldRuns, if_neg hpq, times_cons]
    exact List.pairwise_cons.mpr
      ⟨fun t ht => h.lt_of_ne hpq (mem_times_foldRuns.mp ht), ih (List.pairwise_cons.mp h).2⟩

theorem mergedAt_foldRuns {ps : List (Point α)} (h : InOrder ps) (t : Int) :
    mergedAt f ⟨foldRuns f ps⟩ t = mergedAt f ⟨ps⟩ t := by
  induction ps using foldRuns.induct f with
  | case1 => simp [foldRuns]
  | case2 p => simp [foldRuns]
  | case3 p q qs hpq ih =>
    rw [foldRuns, if_pos hpq, ih (h.merge _)]
    unfold mergedAt
    rw [valuesAt_cons, valuesAt_cons, valuesAt_cons, ← hpq]
    split
    · exact mergeAll?_merge_head _ _ _
    · rfl
  | case4 p q qs hpq ih =>
    rw [foldRuns, if_neg hpq]
    by_cases ht : p.time = t
    · have hlate : t ∉ times ⟨q :: qs⟩ := fun hm => by
        have := h.lt_of_ne hpq hm
        omega
      have hlate' : t ∉ times ⟨foldRuns f (q :: qs)⟩ := fun hm => hlate (mem_times_foldRuns.mp hm)
      rw [mergedAt, mergedAt, valuesAt_cons, valuesAt_cons p, valuesAt_of_not_mem hlate,
        valuesAt_of_not_mem hlate']
    · have hrest := ih (List.pairwise_cons.mp h).2
      rw [mergedAt, mergedAt] at hrest ⊢
      rw [valuesAt_cons, valuesAt_cons p, if_neg ht, if_neg ht, hrest]

theorem byTime_trans (p q r : Point α) (hpq : decide (p.time ≤ q.time) = true)
    (hqr : decide (q.time ≤ r.time) = true) : decide (p.time ≤ r.time) = true := by
  rw [decide_eq_true_eq] at hpq hqr ⊢
  exact Int.le_trans hpq hqr

theorem byTime_total (p q : Point α) :
    (decide (p.time ≤ q.time) || decide (q.time ≤ p.time)) = true := by
  rw [Bool.or_eq_true, decide_eq_true_eq, decide_eq_true_eq]
  exact Int.le_total _ _

theorem inOrder_mergeSort (ps : List (Point α)) :
    InOrder (ps.mergeSort fun p q => p.time ≤ q.time) := by
  refine (List.pairwise_mergeSort ?_ ?_ ps).imp of_decide_eq_true
  · exact byTime_trans
  · exact byTime_total

/-- Sorting is stable: points of one time keep their order. -/
theorem valuesAt_mergeSort (ps : List (Point α)) (t : Int) :
    valuesAt ⟨ps.mergeSort fun p q => p.time ≤ q.time⟩ t = valuesAt ⟨ps⟩ t := by
  have hsub : (ps.filter (·.time = t)).Sublist (ps.mergeSort fun p q => p.time ≤ q.time) := by
    refine List.sublist_mergeSort byTime_trans byTime_total ?_ List.filter_sublist
    refine List.pairwise_of_forall_mem_list fun p hp q hq => ?_
    have hp := of_decide_eq_true (List.mem_filter.mp hp).2
    have hq := of_decide_eq_true (List.mem_filter.mp hq).2
    exact decide_eq_true (Int.le_of_eq (hp.trans hq.symm))
  have heq : (ps.filter (·.time = t)).filter (·.time = t) = ps.filter (·.time = t) := by
    rw [List.filter_filter]
    simp
  have hle := hsub.filter (fun p : Point α => p.time = t)
  rw [heq] at hle
  unfold valuesAt
  rw [hle.eq_of_length (((List.mergeSort_perm ps _).filter _).length_eq).symm]

theorem ascending_normalize (f : α → α → α) (ps : Points α) :
    (ps.normalize f).times.Pairwise (· < ·) :=
  ascending_foldRuns (inOrder_mergeSort ps.toList)

theorem mergedAt_normalize (ps : Points α) (t : Int) :
    (ps.normalize f).mergedAt f t = ps.mergedAt f t := by
  unfold normalize
  rw [mergedAt_foldRuns (inOrder_mergeSort ps.toList), mergedAt, valuesAt_mergeSort]
  rfl

end Points

end SeriesQuery
