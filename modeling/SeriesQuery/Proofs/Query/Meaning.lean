import SeriesQuery.Proofs.Points.Lookup
import SeriesQuery.Proofs.Query.Groups
import SeriesQuery.Proofs.Query.Planning
import SeriesQuery.Proofs.Query.Steps

/-!
# What a query computes from a store

All leaves of a query read one list of scanned series. What a leaf makes of it is said here by the
store alone: whatever the other leaves asked for, its samples reduce the buckets of its own label
sets over its own window.

* `Query.scanned q s w` : what the store answers to all requests of a query, with or without
  repetitions (`Query.scan_plan`);
* `Query.outputsFrom q options s w` : the outputs of a query that is executed against a store;
* `Store.sampleOf s site f t` : the sample of one label set;
* `Store.Lists s g k site fs` : `fs` are the label sets of a leaf in the bucket `k`;
* `Query.values_spec` : the samples of a leaf, and the outputs that are put together from them.
-/

namespace SeriesQuery

variable {α : Type} [Sample α]

/-! ## Stored samples -/

namespace Store

/-- What the label set `f` contributes to the sample of a leaf at `t`. -/
def sampleOf (s : Store α) (site : Site) (f : Fields) (t : Int) : α :=
  (mergeAll? Merger.add.merge (s.bucket ⟨site.leaf.event, f, site.own⟩ t)).getD Sample.nan

/-- `fs` are the label sets that the filter of a leaf accepts, that have the key `k` in the group,
and that have a stored point in the window of the leaf, each once. -/
structure Lists (s : Store α) (g : Group α) (k : Fields) (site : Site) (fs : List Fields) :
    Prop where
  nodup : fs.Nodup
  mem_iff : ∀ f, f ∈ fs ↔
    site.leaf.filter.accepts f = true ∧ f.project g.missing g.labels = k ∧
      ∃ p ∈ s.pointsOf site.leaf.event, p.fields = f ∧ site.own.contains p.time = true

end Store

/-! ## The answer to a query -/

namespace Query

/-- What the store answers to the requests of the query. -/
def scanned (q : Query α) (s : Store α) (w : Window) : List (Series α) :=
  distinctBy Series.key (s.answersTo (q.queries w))

theorem answers_scanned (q : Query α) (s : Store α) (w : Window) :
    s.Answers (q.queries w) (q.scanned s w) :=
  s.answers_distinct (q.queries w)

theorem distinctBy_scanned (q : Query α) (s : Store α) (w : Window) :
    distinctBy Series.key (q.scanned s w) = q.scanned s w :=
  distinctBy_distinctBy _

/-- Every plan is answered, and by the same series. -/
theorem scan_plan {q : Query α} {w : Window} (h : ∀ p ∈ q.queries w, 0 < p.window.step)
    {options : QueryOptions} (hmax : q.WithinLimit options w) (s : Store α) :
    ∃ plan, q.plan options w = .ok plan ∧ s.scan plan = .ok ⟨q.scanned s w⟩ := by
  obtain ⟨plan, hplan, hdistinct | hall⟩ := exists_plan hmax
  · exact ⟨plan, hplan, hdistinct ▸ (s.scan_distinct _).trans (s.scan_eq _ h)⟩
  · exact ⟨plan, hplan, hall ▸ s.scan_eq _ h⟩

/-- The outputs of a query that is executed against a store. -/
def outputsFrom (q : Query α) (options : QueryOptions) (s : Store α) (w : Window) :
    Except QueryError (List (Output α)) :=
  (Id.run (q.execute options s.scanner w)).map (·.outputs)

theorem outputsFrom_eq {q : Query α} {w : Window} (h : ∀ p ∈ q.queries w, 0 < p.window.step)
    {options : QueryOptions} (hmax : q.WithinLimit options w) (s : Store α) :
    q.outputsFrom options s w = q.evaluate w (q.scanned s w) := by
  obtain ⟨plan, hplan, hscan⟩ := scan_plan h hmax s
  have hexecute : Id.run (q.execute options s.scanner w) =
      q.report w plan (.ok ⟨q.scanned s w⟩) := by
    unfold execute Store.scanner
    rw [hplan]
    show q.report w plan ((s.scan plan).mapError StoreError.message) = _
    rw [hscan]
    rfl
  rw [outputsFrom, hexecute, outputs_report]

/-- A query without a positive step is not answered. -/
theorem step_pos_of_outputsFrom {q : Query α} {w : Window} {options : QueryOptions}
    (hmax : q.WithinLimit options w) {s : Store α} {os : List (Output α)}
    (h : q.outputsFrom options s w = .ok os) : ∀ p ∈ q.queries w, 0 < p.window.step := by
  obtain ⟨plan, hplan, heq⟩ := exists_plan hmax
  have hmem : ∀ p ∈ q.queries w, p ∈ plan := by
    intro p hp
    rcases heq with rfl | rfl
    · exact mem_distinct_iff.mpr hp
    · exact hp
  unfold outputsFrom execute Store.scanner at h
  rw [hplan] at h
  cases hfind : plan.find? (·.window.step ≤ 0) with
  | none =>
    intro p hp
    have hnot := List.find?_eq_none.mp hfind p (hmem p hp)
    exact Int.not_le.mp fun hle => hnot (decide_eq_true hle)
  | some p =>
    have h : (q.report w plan ((s.scan plan).mapError StoreError.message)).map (·.outputs) =
        .ok os := h
    rw [s.scan_invalid plan p hfind] at h
    exact absurd h nofun

theorem length_of_mem_scanned {q : Query α} {s : Store α} {w : Window} (h : q.fits w = true)
    {x : Series α} (hx : x ∈ q.scanned s w) :
    x.window.length = w.length ∧ 0 < x.window.length := by
  have hk := ((q.answers_scanned s w).asked x.key).mp (List.mem_map_of_mem hx)
  obtain ⟨p, hp, -, hwin, -, y, -, -, hy⟩ := hk
  have hwin : p.window = x.window := hwin
  exact ⟨hwin ▸ q.length_of_mem_queries h hp, Window.length_pos_of_contains hy⟩

/-! ## Samples of a leaf -/

variable {q : Query α} {w : Window} {g : Group α} {site : Site}

/-- The scanned series that a leaf takes in the bucket `k`. -/
theorem select_members (hfits : q.fits w = true) (hg : g ∈ q.groups) (hsite : site ∈ g.sites w)
    (s : Store α) (k : Fields) :
    site.select (g.members k (q.scanned s w)) =
      (q.scanned s w).filter fun x =>
        site.leaf.accepts x && g.key x = k && x.window = site.own := by
  have hlen : ∀ x ∈ g.members k (q.scanned s w),
      x.window.length = site.own.length ∧ 0 < x.window.length := by
    intro x hx
    obtain ⟨heq, hpos⟩ := length_of_mem_scanned hfits (List.mem_filter.mp hx).1
    exact ⟨heq.trans (Group.length_of_mem_sites (fits_of_mem_groups hfits hg) hsite).symm, hpos⟩
  rw [Site.select, Leaf.select_of_length_eq hlen, Group.members, List.filter_filter]
  refine List.filter_congr fun x _ => ?_
  by_cases hx : site.leaf.accepts x = true
  · rw [hx, Group.accepts_of_mem_sites hsite hx, Bool.true_and, Bool.true_and]
    exact Bool.and_comm _ _
  · simp [hx]

/-- The samples of a leaf in the bucket `k`. -/
theorem values_members (hfits : q.fits w = true) (hg : g ∈ q.groups) (hsite : site ∈ g.sites w)
    (s : Store α) (k : Fields) :
    ∃ fs, s.Lists g k site fs ∧
      site.values (g.members k (q.scanned s w)) =
        site.own.times.map fun t => site.reduction.apply (fs.map (s.sampleOf site · t)) := by
  have hans := q.answers_scanned s w
  have hselect := select_members hfits hg hsite s k
  generalize hxs : site.select (g.members k (q.scanned s w)) = xs at hselect
  have hmem : ∀ x, x ∈ xs ↔ x ∈ q.scanned s w ∧ site.leaf.filter.accepts x.fields = true ∧
      g.key x = k ∧ x.key = ⟨site.leaf.event, x.fields, site.own⟩ := by
    intro x
    rw [hselect, List.mem_filter]
    simp only [Leaf.accepts, Series.key, Bool.and_eq_true, decide_eq_true_eq, Series.Key.mk.injEq,
      true_and]
    tauto
  refine ⟨xs.map (·.fields), ⟨?_, fun f => ?_⟩, ?_⟩
  · -- Equal fields would be equal keys.
    have hkeys : (xs.map Series.key).Nodup := by
      rw [hselect]
      exact hans.distinct.sublist (List.filter_sublist.map _)
    have hkey : xs.map Series.key =
        (xs.map (·.fields)).map (⟨site.leaf.event, ·, site.own⟩) := by
      rw [List.map_map]
      exact List.map_congr_left fun x hx => ((hmem x).mp hx).2.2.2
    rw [hkey] at hkeys
    exact hkeys.of_map _
  · rw [List.mem_map]
    constructor
    · rintro ⟨x, hx, rfl⟩
      obtain ⟨hx, hacc, hk, hkey⟩ := (hmem x).mp hx
      obtain ⟨p, -, -, -, -, y, hy, hyf, hyw⟩ := (hans.asked _).mp (List.mem_map_of_mem hx)
      rw [hkey] at hy hyf hyw
      exact ⟨hacc, hk, y, hy, hyf, hyw⟩
    · rintro ⟨hacc, hk, y, hy, hyf, hyw⟩
      have hasked : s.AskedBy site.query ⟨site.leaf.event, f, site.own⟩ :=
        ⟨rfl, rfl, hacc, y, hy, hyf, hyw⟩
      obtain ⟨x, hx, hkey⟩ :=
        List.mem_map.mp ((hans.asked _).mpr ⟨_, query_mem hg hsite, hasked⟩)
      have hf : x.fields = f := congrArg Series.Key.fields hkey
      subst hf
      exact ⟨x, (hmem x).mpr ⟨hx, hacc, hk, hkey⟩, rfl⟩
  · rw [Site.values_eq, hxs]
    refine List.map_congr_left fun t _ => congrArg site.reduction.apply ?_
    rw [List.map_map]
    refine List.map_congr_left fun x hx => ?_
    obtain ⟨hx, -, -, hkey⟩ := (hmem x).mp hx
    have hsums := hans.sums x hx
    rw [Points.valueAt_eq Merger.add.merge hsums.ascending, hsums.mergedAt, hkey]
    rfl

/-- **What a leaf computes. A query that was compiled from text, planned without a limit and
evaluated on what the store answers: in each bucket of each group every leaf reduces, at each of its
sample times and in one order, the merged points of the label sets it lists. The outputs, or the
error, are put together from nothing but these samples, group by group and bucket by bucket, and
from the series that bare leaves take.** -/
theorem values_spec {source missing : String} {q : Query Float}
    (hq : Query.ofText source missing = .ok q) {options : QueryOptions}
    (hmax : options.maxScans = 0) {w : Window} (hw : 0 < w.step) (hfits : q.fits w = true)
    (s : Store Float) :
    ∃ plan found, q.plan options w = .ok plan ∧ s.scan plan = .ok found ∧
      (∀ g ∈ q.groups, ∀ bucket ∈ g.partition (distinctBy Series.key found.toList),
        ∀ site ∈ g.sites w, ∃ fs, s.Lists g bucket.1 site fs ∧
          site.values bucket.2 =
            site.own.times.map fun t => site.reduction.apply (fs.map (s.sampleOf site · t))) ∧
      q.groups = q.parts.filterMap Sum.getRight? ∧
      q.evaluate w found.toList =
        q.assemble w (fun leaf => leaf.select w (distinctBy Series.key found.toList)) fun g =>
          (g.partition (distinctBy Series.key found.toList)).map fun bucket =>
            (bucket.1, fun site => site.values bucket.2) := by
  obtain ⟨plan, hplan, hscan⟩ := scan_plan (fun p => step_pos_of_mem_queries hq hw) (Or.inl hmax) s
  refine ⟨plan, _, hplan, hscan, fun g hg bucket hb site hsite => ?_, q.groups_eq_parts,
    q.evaluate_eq_assemble w _⟩
  rw [distinctBy_scanned] at hb
  rw [(Group.mem_partition_iff.mp hb).2]
  exact values_members hfits hg hsite s bucket.1

/-- Two leaves of one event, one of which looks a minute back. -/
theorem values_spec_two_leaves :
    let source := "x: !sum\x7bfoo\x7d; y: !avg\x7bfoo[-1:m]\x7d; *BY\x7bsize\x7d"
    let w : Window := ⟨0, 120000, 60000⟩
    let s : Store Float :=
      Store.empty.insert "foo" (.ofPairs [("size", "small")]) 5000 1
    ∃ q plan found, Query.ofText source "none" = .ok q ∧ 0 < w.step ∧ q.fits w = true ∧
      (q.groups.map fun g => (g.sites w).length) = [2] ∧
      q.plan {} w = .ok plan ∧ s.scan plan = .ok found ∧
      (∀ g ∈ q.groups, ∀ bucket ∈ g.partition (distinctBy Series.key found.toList),
        ∀ site ∈ g.sites w, ∃ fs, s.Lists g bucket.1 site fs ∧
          site.values bucket.2 =
            site.own.times.map fun t => site.reduction.apply (fs.map (s.sampleOf site · t))) ∧
      q.groups = q.parts.filterMap Sum.getRight? ∧
      q.evaluate w found.toList =
        q.assemble w (fun leaf => leaf.select w (distinctBy Series.key found.toList)) fun g =>
          (g.partition (distinctBy Series.key found.toList)).map fun bucket =>
            (bucket.1, fun site => site.values bucket.2) := by
  intro source w s
  have hread : (Query.ofText source "none").toOption.any (fun q =>
      q.fits w && (q.groups.map fun g => (g.sites w).length) = [2]) = true := by
    decide +kernel
  match hq : Query.ofText source "none" with
  | .error e => rw [hq] at hread; contradiction
  | .ok q =>
    rw [hq] at hread
    obtain ⟨hfits, hsites⟩ := (Bool.and_eq_true _ _).mp hread
    obtain ⟨plan, found, hplan, hscan, hvalues⟩ :=
      values_spec hq (show ({} : QueryOptions).maxScans = 0 from rfl) (w := w) (by decide) hfits s
    exact ⟨q, plan, found, rfl, by decide, hfits, of_decide_eq_true hsites, hplan, hscan, hvalues⟩

end Query

end SeriesQuery
