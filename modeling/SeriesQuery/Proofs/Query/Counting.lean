import SeriesQuery.Proofs.Exact
import SeriesQuery.Proofs.Query.Meaning

/-!
# Which points a sum counts

The series `x: !sum{event}` over a window of whole steps that is sampled within 64 bits. Its sample
times begin at the boundary before the start, so the last of its steps ends at the boundary before
the stop: what a window that does not start on a boundary holds from there on is not counted, and
all else is counted once.

* `Query.sumOf event missing` : the query;
* `Window.counts w t` : whether a time of the window lies in one of its sampled steps,
  `Window.count_times_truncate`;
* `Store.flatMap_bucket_perm` : the buckets of all sample times hold what is counted;
* `Query.sumOf_spec` : its samples, and what they add up to.
-/

namespace SeriesQuery

variable {α : Type}

/-! ## Counted times -/

namespace Window

variable {w : Window} {t : Int}

/-- In the window, before the last boundary up to its stop. -/
def counts (w : Window) (t : Int) : Bool := w.contains t && t < w.truncate w.stop

/-- A time of a window of whole steps is counted at one sample time or at none. -/
theorem count_times_truncate (h : 0 < w.step) (hd : w.step ∣ w.length)
    (hc : w.contains t = true) :
    w.times.count (w.truncate t) = if t < w.truncate w.stop then 1 else 0 := by
  obtain ⟨hstart, hstop⟩ : w.start ≤ t ∧ t < w.stop := by simpa [contains] using hc
  have hnodup : w.times.Nodup := (ascending_times h).imp Int.ne_of_lt
  rw [hnodup.count]
  refine if_congr ?_ rfl rfl
  rw [truncate_mem_times_iff h hstart, boundary_stop h (by omega) hd]

theorem truncate_mem_times (h : 0 < w.step) (hd : w.step ∣ w.length) (hc : w.counts t = true) :
    w.truncate t ∈ w.times := by
  obtain ⟨hc, hlt⟩ := (Bool.and_eq_true _ _).mp hc
  have hcount := count_times_truncate h hd hc
  rw [if_pos (of_decide_eq_true hlt)] at hcount
  exact List.count_pos_iff.mp (hcount ▸ Nat.one_pos)

theorem counts_of_mem_times (h : 0 < w.step) (hd : w.step ∣ w.length) (hc : w.contains t = true)
    (ht : w.truncate t ∈ w.times) : w.counts t = true := by
  have hcount := count_times_truncate h hd hc
  have hpos := List.count_pos_iff.mpr ht
  unfold counts
  rw [hc, Bool.true_and, decide_eq_true_eq]
  by_contra hlt
  rw [if_neg hlt] at hcount
  omega

/-- A window that starts on a boundary counts all its times. -/
theorem counts_of_aligned (h : 0 < w.step) (hd : w.step ∣ w.length) (hs : w.step ∣ w.start) :
    w.counts t = w.contains t := by
  have hstop : w.step ∣ w.stop := (Int.dvd_iff_dvd_of_dvd_sub hd).mpr hs
  have hbound : w.truncate w.stop = w.stop := by
    rw [truncate_eq h, Int.emod_eq_zero_of_dvd hstop, Int.sub_zero]
  unfold counts contains
  rw [hbound]
  by_cases ht : t < w.stop
  · simp [ht]
  · simp [ht]

end Window

/-! ## Counted points -/

namespace Store

/-- The stored points of an event that a sum over `w` counts. -/
def counted (s : Store α) (event : String) (w : Window) : List (StoredPoint α) :=
  (s.pointsOf event).filter fun p => w.counts p.time

/-- Among the counted points a bucket is found by its time and its fields. -/
theorem bucket_eq_counted (s : Store α) {event : String} {w : Window} (h : 0 < w.step)
    (hd : w.step ∣ w.length) {t : Int} (ht : t ∈ w.times) (f : Fields) :
    s.bucket ⟨event, f, w⟩ t =
      (((s.counted event w).filter fun p => w.truncate p.time = t).filter fun p =>
        p.fields = f).map (·.value) := by
  unfold bucket counted
  rw [List.filter_filter, List.filter_filter]
  refine congrArg _ (List.filter_congr fun p _ => ?_)
  show (decide (p.fields = f) && w.contains p.time && decide (w.truncate p.time = t)) = _
  by_cases hpt : w.truncate p.time = t
  · have hcounts : w.contains p.time = w.counts p.time := by
      by_cases hc : w.contains p.time = true
      · rw [hc, Window.counts_of_mem_times h hd hc (hpt ▸ ht)]
      · simp [Window.counts, hc]
    rw [hcounts, decide_eq_true hpt, Bool.and_true, Bool.and_true]
  · rw [decide_eq_false hpt, Bool.and_false, Bool.and_false, Bool.false_and]

/-- The buckets of all sample times hold the counted points, each once. -/
theorem flatMap_bucket_perm (s : Store α) {event : String} {w : Window} (h : 0 < w.step)
    (hd : w.step ∣ w.length) {fs : List Fields} (hfs : fs.Nodup)
    (hmem : ∀ p ∈ s.counted event w, p.fields ∈ fs) :
    (w.times.flatMap fun t => fs.flatMap fun f => s.bucket ⟨event, f, w⟩ t).Perm
      ((s.counted event w).map (·.value)) := by
  have hbuckets : (w.times.flatMap fun t => fs.flatMap fun f => s.bucket ⟨event, f, w⟩ t) =
      (w.times.flatMap fun t => fs.flatMap fun f =>
        ((s.counted event w).filter fun p => w.truncate p.time = t).filter fun p =>
          p.fields = f).map (·.value) := by
    rw [List.map_flatMap]
    refine List.flatMap_congr fun t ht => ?_
    rw [List.map_flatMap]
    exact List.flatMap_congr fun f _ => s.bucket_eq_counted h hd ht f
  rw [hbuckets]
  refine List.Perm.map _ ?_
  have hnodup : w.times.Nodup := (Window.ascending_times h).imp Int.ne_of_lt
  have htimes : ∀ p ∈ s.counted event w, w.truncate p.time ∈ w.times := fun p hp =>
    Window.truncate_mem_times h hd (List.mem_filter.mp hp).2
  refine List.Perm.trans (List.Perm.flatMap_left _ fun t _ => ?_)
    (flatMap_filter_perm hnodup htimes)
  exact flatMap_filter_perm hfs fun p hp => hmem p (List.mem_filter.mp hp).1

end Store

/-! ## The query -/

namespace Query

def sumGroup (event missing : String) : Group α where
  nodes := [⟨"x", .scan ⟨event, .empty, {}⟩ .sum⟩]
  labels := []
  missing := missing
  reduction := .sum

/-- The query `x: !sum{event}`. -/
def sumOf (event missing : String) : Query α := ⟨[.group (sumGroup event missing)]⟩

example : ((ofText "x: !sum\x7bfoo\x7d" "").toOption.any fun q =>
    match q.nodes with
    | [.group ⟨[⟨"x", .scan leaf .sum⟩], [], "", .sum⟩] => leaf = ⟨"foo", .empty, {}⟩
    | _ => false) = true := by
  decide +kernel

/-- Its only leaf. -/
def sumSite (event : String) (w : Window) : Site := ⟨⟨event, .empty, {}⟩, .sum, w⟩

variable {event missing : String} {w : Window}

theorem own_sumSite (hstart : Time.fits w.start = true) (hstop : Time.fits w.stop = true) :
    (sumSite event w).own = w := by
  show (⟨Time.saturate (w.start + 0), Time.saturate (w.stop + 0), w.step⟩ : Window) = w
  rw [Int.add_zero, Int.add_zero, Time.saturate_of_fits hstart, Time.saturate_of_fits hstop]

theorem fits_sumOf (hstart : Time.fits w.start = true) (hstop : Time.fits w.stop = true) :
    (sumOf event missing : Query α).fits w = true := by
  show (((Time.fits (w.start + 0) && Time.fits (w.stop + 0)) && true) && true) = true
  rw [Int.add_zero, Int.add_zero, hstart, hstop]
  rfl

theorem keys_sumGroup (xs : List (Series α)) : (sumGroup event missing).keys xs = [.empty] := by
  refine List.perm_singleton.mp ((List.perm_ext_iff_of_nodup (Group.nodup_keys _ _)
    (List.nodup_singleton _)).mpr fun k => ?_)
  rw [Group.mem_keys_iff]
  refine ⟨?_, Or.inl⟩
  rintro (h | ⟨x, -, -, rfl⟩)
  · exact h
  · exact List.mem_singleton_self _

variable [Sample α]

theorem evaluate_sumOf (hstart : Time.fits w.start = true) (hstop : Time.fits w.stop = true)
    (xs : List (Series α)) :
    (sumOf event missing).evaluate w xs =
      .ok [.computed ⟨"x", .empty, w, .ofValues w ((sumSite event w).values
        ((sumGroup event missing).members .empty (distinctBy Series.key xs)))⟩] := by
  generalize hys : distinctBy Series.key xs = ys
  have hpoints := (sumSite event w).points_eq ((sumGroup event missing).members .empty ys)
  rw [own_sumSite hstart hstop] at hpoints
  have hgroup : (sumGroup event missing).evaluate w ys = .ok [.computed ⟨"x", .empty, w,
      (Agg.evaluateLeaf ⟨event, .empty, {}⟩ .sum w
        ((sumGroup event missing).members .empty ys)).points⟩] := by
    rw [Group.evaluate, Group.partition_eq, keys_sumGroup]
    rfl
  have heval : (sumOf event missing).evaluate w xs =
      (sumGroup event missing).evaluate w ys >>= fun outputs => .ok (outputs ++ []) := by
    rw [evaluate, hys]
    rfl
  rw [heval, hgroup, ← hpoints]
  rfl

/-- The samples of the sum. -/
theorem outputsFrom_sumOf (h : 0 < w.step) (hstart : Time.fits w.start = true)
    (hstop : Time.fits w.stop = true) (options : QueryOptions) (s : Store α) :
    ∃ fs, s.Lists (sumGroup event missing) .empty (sumSite event w) fs ∧
      (sumOf event missing).outputsFrom options s w =
        .ok [.computed ⟨"x", .empty, w, .ofValues w (w.times.map fun t =>
          Reduction.sum.apply (fs.map (s.sampleOf (sumSite event w) · t)))⟩] := by
  have hpos : ∀ p ∈ (sumOf event missing : Query α).queries w, 0 < p.window.step := by
    intro p hp
    have hp : p ∈ [(sumSite event w).query] := hp
    rw [List.mem_singleton.mp hp]
    exact h
  -- A limit of zero is none, so each one admits the one request.
  have hmax : (sumOf event missing : Query α).WithinLimit options w :=
    (Nat.eq_zero_or_pos options.maxScans).imp_right id
  have hg : sumGroup event missing ∈ (sumOf event missing : Query α).groups :=
    List.mem_singleton_self _
  have hsite : sumSite event w ∈ (sumGroup event missing : Group α).sites w :=
    List.mem_singleton_self _
  obtain ⟨fs, hlists, hvalues⟩ :=
    values_members (fits_sumOf hstart hstop) hg hsite s .empty
  refine ⟨fs, hlists, ?_⟩
  rw [outputsFrom_eq hpos hmax, evaluate_sumOf hstart hstop, distinctBy_scanned, hvalues,
    own_sumSite hstart hstop]
  rfl

omit [Sample α] in
theorem mem_of_lists {s : Store α} {fs : List Fields} (hstart : Time.fits w.start = true)
    (hstop : Time.fits w.stop = true)
    (hfs : s.Lists (sumGroup event missing) .empty (sumSite event w) fs) (f : Fields) :
    f ∈ fs ↔ ∃ p ∈ s.pointsOf event, p.fields = f ∧ w.contains p.time = true := by
  rw [hfs.mem_iff, own_sumSite hstart hstop]
  exact ⟨fun h => h.2.2, fun h => ⟨rfl, rfl, h⟩⟩

end Query

/-- In exact arithmetic the samples of the sum add up to what is counted. -/
theorem Exact.apply_sum_samples {event missing : String} {w : Window} (h : 0 < w.step)
    (hd : w.step ∣ w.length) (hstart : Time.fits w.start = true) (hstop : Time.fits w.stop = true)
    {s : Store Exact} {fs : List Fields}
    (hfs : s.Lists (Query.sumGroup event missing) .empty (Query.sumSite event w) fs)
    (hun : Unmixed ((s.counted event w).map (·.value))) :
    Reduction.sum.apply (w.times.map fun t =>
        Reduction.sum.apply (fs.map (s.sampleOf (Query.sumSite event w) · t))) =
      Reduction.sum.apply ((s.counted event w).map (·.value)) := by
  have hmem : ∀ p ∈ s.counted event w, p.fields ∈ fs := by
    intro p hp
    obtain ⟨hp, hc⟩ := List.mem_filter.mp hp
    exact (Query.mem_of_lists hstart hstop hfs _).mpr
      ⟨p, hp, rfl, ((Bool.and_eq_true _ _).mp hc).1⟩
  have hperm := s.flatMap_bucket_perm h hd hfs.nodup hmem
  have hall : Unmixed (w.times.flatMap fun t => fs.flatMap fun f => s.bucket ⟨event, f, w⟩ t) :=
    hun.of_subset hperm.subset
  have hparts : (w.times.map fun t =>
        Reduction.sum.apply (fs.map (s.sampleOf (Query.sumSite event w) · t))) =
      (w.times.map fun t => fs.flatMap fun f => s.bucket ⟨event, f, w⟩ t).map
        Reduction.sum.apply := by
    rw [List.map_map]
    refine List.map_congr_left fun t ht => ?_
    have hone : Unmixed (fs.map fun f => s.bucket ⟨event, f, w⟩ t).flatten :=
      hall.of_subset fun v hv => List.mem_flatMap.mpr ⟨t, ht, hv⟩
    show _ = Reduction.sum.apply (fs.map fun f => s.bucket ⟨event, f, w⟩ t).flatten
    rw [← apply_sum_map_merged hone, List.map_map]
    unfold Store.sampleOf
    rw [Query.own_sumSite hstart hstop]
    rfl
  rw [hparts, apply_sum_map_apply hall]
  exact apply_perm .sum hperm

namespace Query

/-- **What a sum counts. Over whole steps, where sampling leaves 64 bits nowhere, each stored point
of the window is counted at exactly one sample time if it lies before the last boundary up to the
stop, as it does if the window starts on a boundary, and at none otherwise; each sample adds up the
merged points of all label sets; and in exact arithmetic the samples add up to the total of the
counted points.** -/
theorem sumOf_spec (event : String) (options : QueryOptions) {w : Window} (h : 0 < w.step)
    (hd : w.step ∣ w.length) (hw : w.NoOverflow) :
    (∀ {α : Type} [Sample α] (s : Store α),
      (∀ p ∈ s.pointsOf event, w.contains p.time = true →
        w.times.count (w.truncate p.time) = (if p.time < w.truncate w.stop then 1 else 0) ∧
          (w.step ∣ w.start → p.time < w.truncate w.stop)) ∧
      ∃ fs : List Fields, fs.Nodup ∧
        (∀ f, f ∈ fs ↔ ∃ p ∈ s.pointsOf event, p.fields = f ∧ w.contains p.time = true) ∧
        (sumOf event options.missing).outputsFrom options s w =
          .ok [.computed ⟨"x", .empty, w, .ofValues w (w.times.map fun t =>
            Reduction.sum.apply (fs.map (s.sampleOf (sumSite event w) · t)))⟩]) ∧
    ∀ s : Store Exact, Exact.Unmixed ((s.counted event w).map (·.value)) →
      ∃ samples, samples.length = w.count ∧
        (sumOf event options.missing).outputsFrom options s w =
          .ok [.computed ⟨"x", .empty, w, .ofValues w samples⟩] ∧
        Reduction.sum.apply samples =
          Reduction.sum.apply ((s.counted event w).map (·.value)) := by
  refine ⟨fun s => ⟨fun p _ hc => ⟨Window.count_times_truncate h hd hc, fun hs => ?_⟩, ?_⟩,
    fun s hun => ?_⟩
  · rw [← Window.counts_of_aligned h hd hs] at hc
    exact of_decide_eq_true ((Bool.and_eq_true _ _).mp hc).2
  · obtain ⟨fs, hlists, hout⟩ := outputsFrom_sumOf h hw.start hw.stop options s
    exact ⟨fs, hlists.nodup, mem_of_lists hw.start hw.stop hlists, hout⟩
  · obtain ⟨fs, hlists, hout⟩ := outputsFrom_sumOf h hw.start hw.stop options s
    refine ⟨_, ?_, hout, Exact.apply_sum_samples h hd hw.start hw.stop hlists hun⟩
    rw [List.length_map, Window.length_times]

/-- A window that starts half a step behind a boundary, with one point that is counted and one
behind the last boundary. -/
theorem sumOf_spec_unaligned :
    let w : Window := ⟨50, 350, 100⟩
    let s : Store Exact :=
      (Store.empty.insert "foo" .empty 120 (.finite 1)).insert "foo" .empty 320 (.finite 5)
    0 < w.step ∧ w.step ∣ w.length ∧ w.NoOverflow ∧
      (∀ p ∈ s.pointsOf "foo", w.contains p.time = true →
        w.times.count (w.truncate p.time) = (if p.time < w.truncate w.stop then 1 else 0) ∧
          (w.step ∣ w.start → p.time < w.truncate w.stop)) ∧
      ∃ samples, samples.length = 3 ∧
        (sumOf "foo" "").outputsFrom {} s w =
          .ok [.computed ⟨"x", .empty, w, .ofValues w samples⟩] ∧
        Reduction.sum.apply samples = .finite 1 := by
  intro w s
  have hw : w.NoOverflow := ⟨by decide, by decide, by decide, by decide⟩
  obtain ⟨hsamples, hexact⟩ := sumOf_spec "foo" {} (w := w) (by decide) (by decide) hw
  have hun : Exact.Unmixed ((s.counted "foo" w).map (·.value)) := by decide +kernel
  obtain ⟨samples, hlen, hout, hsum⟩ := hexact s hun
  refine ⟨by decide, by decide, hw, (hsamples s).1, samples, hlen, hout, hsum.trans ?_⟩
  decide +kernel

/-- A point in the last, cut off step of a window is lost. -/
theorem sumOf_loses_point :
    let w : Window := ⟨50, 350, 100⟩
    let s : Store Exact := Store.empty.insert "foo" .empty 320 (.finite 1)
    let samples : List Exact := [.finite 0, .finite 0, .finite 0]
    0 < w.step ∧ w.step ∣ w.length ∧ w.contains 320 = true ∧ w.truncate 320 ∉ w.times ∧
      (sumOf "foo" "").outputsFrom {} s w =
        .ok [.computed ⟨"x", .empty, w, .ofValues w samples⟩] ∧
      Reduction.sum.apply samples ≠ Reduction.sum.apply [.finite 1] := by
  decide +kernel

end Query

end SeriesQuery
