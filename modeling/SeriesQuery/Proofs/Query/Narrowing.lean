import SeriesQuery.Proofs.Query.Slices
import SeriesQuery.Proofs.Store.Scan

/-!
# Narrowed series

A leaf cuts a series over a wider window down to its own window. Between step boundaries nothing is
lost or added: what is left is the series that the store has for the leaf's window itself.

* `Window.Aligned.toList_slice` : the points that are left are those in the window;
* `Store.bucket_within`, `Store.Sums.slice` : and they are the sums of the narrower buckets;
* `Leaf.fit?_within`, `Leaf.within_of_fit?` : what a leaf makes of a series around its window;
* `ScanQuery.withWindow`, `ScanQuery.narrow` : a request for another window, and what is made of its
  answer;
* `Store.fit?_seriesFor` : of the answer for a wider window the leaf makes the one for its own.
-/

namespace SeriesQuery

variable {α : Type} {w v : Window}

/-! ## Slices of series -/

theorem Window.Aligned.noOverflow (h : w.Aligned) : w.NoOverflow :=
  ⟨h.fits_start, h.fits_stop, h.first_eq ▸ h.fits_start, h.fits_length⟩

theorem Window.Aligned.bounded (h : w.Aligned) : w.Bounded := h.noOverflow.bounded h.step_pos

/-- In a window of whole steps the last step ends where the window does. -/
theorem Window.Aligned.toList_slice (h : w.Aligned) {x : Series α}
    (hx : x.points.times.Pairwise (· < ·)) :
    (x.slice w).points.toList = x.points.toList.filter fun p => w.contains p.time := by
  rw [Series.slice_eq h.bounded hx]
  refine List.filter_congr fun p _ => ?_
  rw [h.first_eq]
  unfold Window.contains
  by_cases hle : w.start ≤ w.stop
  · have hstop : w.start + w.count * w.step = w.stop := by
      rw [h.count_mul hle, Window.length]
      omega
    rw [hstop]
  · have hcount : w.count = 0 := if_pos (Or.inr (by omega))
    have hnone : ¬(w.start ≤ p.time ∧ p.time < w.start) := by omega
    have hnone' : ¬(w.start ≤ p.time ∧ p.time < w.stop) := by omega
    rw [hcount, Int.natCast_zero, Int.zero_mul, Int.add_zero, ← Bool.decide_and,
      ← Bool.decide_and, decide_eq_false hnone, decide_eq_false hnone']

namespace Store

/-- A bucket of the narrower window is a bucket of the wider one, or no bucket of its samples. -/
theorem bucket_within (s : Store α) (hw : w.Aligned) (h : w.Within v) (event : String)
    (fields : Fields) (t : Int) :
    s.bucket ⟨event, fields, w⟩ t = if w.contains t then s.bucket ⟨event, fields, v⟩ t else [] := by
  have htime (p : StoredPoint α) : (w.contains p.time && decide (w.truncate p.time = t)) =
      (w.contains t && (v.contains p.time && decide (v.truncate p.time = t))) := by
    rw [h.truncate]
    by_cases hp : w.truncate p.time = t
    · rw [← hp, hw.contains_truncate]
      by_cases hc : w.contains p.time = true
      · rw [hc, h.contains hc]
        rfl
      · simp [hc]
    · simp [hp]
  unfold bucket
  simp only [Bool.and_assoc, htime]
  by_cases ht : w.contains t = true
  · simp [ht]
  · simp [ht]

variable [Sample α]

/-- The narrowed series is the one that the store has for the narrower window. -/
theorem Sums.slice {s : Store α} {x : Series α} (hx : s.Sums x) (hw : w.Aligned)
    (h : w.Within x.window) : s.Sums (x.slice w) := by
  have hlist := hw.toList_slice hx.ascending
  have hbucket (t : Int) : s.bucket (x.slice w).key t =
      if w.contains t then s.bucket x.key t else [] := s.bucket_within hw h x.event x.fields t
  refine ⟨?_, fun t => ?_, fun p hp => ?_⟩
  · rw [Points.times, hlist]
    exact hx.ascending.sublist (List.filter_sublist.map _)
  · have hmem : t ∈ (x.slice w).points.times ↔ w.contains t = true ∧ t ∈ x.points.times := by
      rw [Points.times, Points.times, hlist, List.mem_map, List.mem_map]
      constructor
      · rintro ⟨p, hp, rfl⟩
        obtain ⟨hp, hc⟩ := List.mem_filter.mp hp
        exact ⟨hc, p, hp, rfl⟩
      · rintro ⟨hc, p, hp, rfl⟩
        exact ⟨p, List.mem_filter.mpr ⟨hp, hc⟩, rfl⟩
    rw [hmem, hbucket, hx.times]
    by_cases ht : w.contains t = true
    · simp [ht]
    · simp [ht]
  · rw [hlist] at hp
    obtain ⟨hp, hc⟩ := List.mem_filter.mp hp
    rw [hbucket, if_pos hc, hx.values p hp]

end Store

/-! ## What a leaf makes of a series -/

namespace Leaf

variable {x y : Series α}

theorem fit?_self (x : Series α) : fit? x.window x = some x := by
  unfold fit? Window.relate
  rw [if_neg (not_not.mpr rfl), if_pos ⟨rfl, rfl⟩]

/-- A series around a window with some time in it is not passed over. -/
theorem fit?_within (h : w.Within x.window) :
    x.window = w ∧ fit? w x = some x ∨ fit? w x = some (x.slice w) ∨
      w.length ≤ 0 ∧ fit? w x = none := by
  unfold fit?
  rcases h.relate with ⟨heq, hr⟩ | hr | ⟨hlen, hr⟩
  · exact Or.inl ⟨heq, by rw [hr]⟩
  · exact Or.inr (Or.inl (by rw [hr]))
  · refine Or.inr (Or.inr ⟨hlen, ?_⟩)
    rcases List.mem_pair.mp hr with hr | hr
    · rw [hr]
    · rw [hr]

theorem within_of_fit? (h : fit? w x = some y) : w.Within x.window ∨ x.window.Within w := by
  refine Window.within_of_relate (not_not.mp fun hr => ?_)
  rw [fit?_eq_none_iff.mpr hr] at h
  contradiction

end Leaf

/-! ## Requests for wider windows -/

namespace ScanQuery

/-- The same request over the window `v`. -/
def withWindow (r : ScanQuery) (v : Window) : ScanQuery := { r with window := v }

/-- What is made of a series for the window of the request: no points if it is passed over. -/
def narrow (r : ScanQuery) (x : Series α) : Series α :=
  (Leaf.fit? r.window x).getD { x with points := .empty }

end ScanQuery

theorem Points.normalize_empty (f : α → α → α) : (empty : Points α).normalize f = empty := by
  simp [normalize, empty, foldRuns]

namespace Store

/-- A window without any time finds nothing. -/
theorem length_pos_of_mem_fieldsFor {s : Store α} {r : ScanQuery} {f : Fields}
    (h : f ∈ s.fieldsFor r) : 0 < r.window.length := by
  obtain ⟨p, -, hp, -⟩ := ScanQuery.mem_fieldsOf.mp h
  exact Window.length_pos_of_contains ((Bool.and_eq_true _ _).mp hp).1

theorem accepts_of_mem_withWindow {s : Store α} {r : ScanQuery} {f : Fields}
    (h : f ∈ s.fieldsFor (r.withWindow v)) : r.filter.accepts f = true :=
  ScanQuery.accepts_of_mem_fieldsOf (q := r.withWindow v) h

theorem fieldsFor_subset_withWindow {s : Store α} {r : ScanQuery} (h : r.window.Within v) :
    s.fieldsFor r ⊆ s.fieldsFor (r.withWindow v) := by
  intro f hf
  obtain ⟨p, hp, hw, rfl⟩ := ScanQuery.mem_fieldsOf.mp hf
  obtain ⟨hc, ha⟩ := (Bool.and_eq_true _ _).mp hw
  exact ScanQuery.mem_fieldsOf.mpr ⟨p, hp, (Bool.and_eq_true _ _).mpr ⟨h.contains hc, ha⟩, rfl⟩

variable [Sample α]

theorem seriesFor_of_not_mem {s : Store α} {r : ScanQuery} {f : Fields} (h : f ∉ s.fieldsFor r) :
    s.seriesFor r f = ⟨r.event, f, r.window, .empty⟩ := by
  rw [seriesFor, ScanQuery.gathered_of_not_mem h, Points.normalize_empty]

/-- **A leaf makes of the series for a wider window the one for its own window. Only if there is no
time in its window it may take none.** -/
theorem fit?_seriesFor (s : Store α) {r : ScanQuery} (hr : r.window.Aligned)
    (h : r.window.Within v) {f : Fields} (hf : r.filter.accepts f = true) :
    Leaf.fit? r.window (s.seriesFor (r.withWindow v) f) = some (s.seriesFor r f) ∨
      r.window.length ≤ 0 ∧ Leaf.fit? r.window (s.seriesFor (r.withWindow v) f) = none := by
  have hwithin : r.window.Within (s.seriesFor (r.withWindow v) f).window := h
  rcases Leaf.fit?_within hwithin with ⟨heq, hfit⟩ | hfit | hnone
  · have heq : v = r.window := heq
    left
    rw [hfit, heq]
    rfl
  · left
    rw [hfit]
    have hwide : s.Sums (s.seriesFor (r.withWindow v) f) := s.sums_seriesFor hf
    exact congrArg some ((hwide.slice hr hwithin).eq (s.sums_seriesFor hf) rfl)
  · exact Or.inr hnone

/-- What is made of the series keeps the wider window if the leaf takes none. -/
theorem narrow_seriesFor (s : Store α) {r : ScanQuery} (hr : r.window.Aligned)
    (h : r.window.Within v) {f : Fields} (hf : r.filter.accepts f = true) :
    r.narrow (s.seriesFor (r.withWindow v) f) = s.seriesFor r f ∨
      r.window.length ≤ 0 ∧ r.narrow (s.seriesFor (r.withWindow v) f) =
        ⟨r.event, f, v, .empty⟩ := by
  unfold ScanQuery.narrow
  refine (s.fit?_seriesFor hr h hf).imp (fun hfit => ?_) fun ⟨hlen, hnone⟩ => ⟨hlen, ?_⟩
  · rw [hfit, Option.getD_some]
  · rw [hnone]
    rfl

/-- A label set that is found in the window itself has its series there. -/
theorem narrow_seriesFor_of_mem {s : Store α} {r : ScanQuery} (hr : r.window.Aligned)
    (h : r.window.Within v) {f : Fields} (hf : f ∈ s.fieldsFor r) :
    r.narrow (s.seriesFor (r.withWindow v) f) = s.seriesFor r f := by
  have hpos := length_pos_of_mem_fieldsFor hf
  exact (s.narrow_seriesFor hr h (ScanQuery.accepts_of_mem_fieldsOf hf)).resolve_right
    fun hn => by omega

end Store

end SeriesQuery
