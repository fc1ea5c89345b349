import SeriesQuery.Proofs.Json.Codec
import SeriesQuery.Proofs.Query.Narrowing
import SeriesQuery.Proofs.Query.Stamps

/-!
# Outputs of queries as JSON

An output is a scanned series, perhaps narrowed, or the values of an aggregate at its sample times.
Either way its times stay within 64 bits, and its event and fields are some text. Its values need
not be finite: an average over no samples is NaN, a minimum over none is infinite, and there are
quotients by zero.

* `Query.Bounded q w xs` : the window and the series are within 64 bits, and so are the first
  sample times of all aggregates;
* `Node.exists_of_raw` : where a scanned series comes from;
* `Series.IsOutput s` : some query puts `s` out, `Series.IsOutput.fits`;
* `Series.survives_spec` : an output can be read back from its JSON if all its values are finite,
  and then it is the same; else there is null in the text, which is no value.
-/

namespace SeriesQuery

variable {α : Type}

/-! ## Times within 64 bits -/

theorem Time.fits_saturate (t : Int) : Time.fits (Time.saturate t) = true := by
  unfold Time.fits Time.saturate Time.least Time.greatest
  simp

/-- The last step ends within the window. -/
theorem Window.fits_of_mem_times {w : Window} (hfirst : Time.fits w.first = true)
    (hstop : Time.fits w.stop = true) {t : Int} (ht : t ∈ w.times) : Time.fits t = true := by
  obtain ⟨hstep, hlt⟩ := pos_of_mem_times ht
  obtain ⟨hlow, hhigh⟩ := mem_times_bounds ht
  have hle : w.first ≤ w.start := truncate_le hstep w.start
  have hspan := count_mul_step_le hstep (Int.le_of_lt hlt)
  unfold length at hspan
  exact Time.fits_of_between hfirst hstop hlow (by omega)

theorem Shift.fits_apply (s : Shift) (w : Window) :
    Time.fits (s.apply w).start = true ∧ Time.fits (s.apply w).stop = true := by
  unfold apply
  split <;> exact ⟨Time.fits_saturate _, Time.fits_saturate _⟩

theorem Agg.fits_stop_effective : ∀ (a : Agg α) (w : Window),
    Time.fits (a.effective w).stop = true
  | .scan leaf _, w => (leaf.shift.fits_apply w).2
  | .zip [only] _ shift, w => only.fits_stop_effective (shift.apply w)
  | .zip [] _ shift, w | .zip (_ :: _ :: _) _ shift, w | .value _ shift, w => (shift.fits_apply w).2
  | .collapse part _, w => part.fits_stop_effective w
  | .op x _ _, w => x.fits_stop_effective w

/-! ## Scanned series in the output -/

theorem Series.fits_iff {s : Series α} : s.fits = true ↔
    s.window.fits = true ∧ ∀ t ∈ s.points.times, Time.fits t = true := by
  rw [fits, Bool.and_eq_true, List.all_eq_true]

theorem Points.times_slice_subset (ps : Points α) (start stop : Int) :
    (ps.slice start stop).times ⊆ ps.times := by
  refine List.map_subset _ fun p hp => ?_
  exact List.mem_of_mem_take (List.mem_of_mem_drop hp)

namespace Leaf

variable {leaf : Leaf} {w : Window} {xs : List (Series α)} {x s : Series α}

theorem fits_slice (hx : x.fits = true) (hstep : (leaf.window w).step = x.window.step) :
    (x.slice (leaf.window w)).fits = true := by
  obtain ⟨hwindow, htimes⟩ := Series.fits_iff.mp hx
  obtain ⟨hstart, hstop⟩ := leaf.shift.fits_apply w
  refine Series.fits_iff.mpr ⟨?_, fun t ht => htimes t (x.points.times_slice_subset _ _ ht)⟩
  unfold Window.fits at hwindow
  show (Time.fits (leaf.shift.apply w).start && Time.fits (leaf.shift.apply w).stop &&
    Time.fits (leaf.window w).step) = true
  rw [hstart, hstop, hstep, Bool.and_self, Bool.true_and]
  exact (Bool.and_eq_true _ _).mp hwindow |>.2

theorem fits_of_mem_select (hxs : ∀ x ∈ xs, x.fits = true) (h : s ∈ leaf.select w xs) :
    s.fits = true := by
  obtain ⟨x, hx, hfit⟩ := List.mem_filterMap.mp h
  have hx := hxs x (List.mem_filter.mp hx).1
  -- A series of another step is passed over, so a narrowed one keeps its step.
  have hstep : (leaf.window w).step = x.window.step :=
    (within_of_fit? hfit).elim (·.step) (·.step.symm)
  unfold fit? at hfit
  split at hfit
  · exact Option.some.inj hfit ▸ hx
  · exact Option.some.inj hfit ▸ hx
  · exact Option.some.inj hfit ▸ fits_slice hx hstep
  · contradiction

end Leaf

namespace Node

variable [Sample α] {w : Window} {xs : List (Series α)} {s : Series α}

mutual

theorem exists_of_raw : ∀ (node : Node α) {os : List (Output α)},
    node.evaluate w xs = .ok os → .raw s ∈ os → ∃ leaf : Leaf, s ∈ leaf.select w xs
  | .scan leaf, _, h, hs => by
    rw [← Except.ok.inj h] at hs
    obtain ⟨t, ht, hts⟩ := List.mem_map.mp hs
    exact ⟨leaf, Output.raw.inj hts ▸ ht⟩
  | .group g, _, h, hs => by
    obtain ⟨_, _, hcomputed, -⟩ := Group.exists_of_mem h hs
    contradiction
  | .block nodes, _, h, hs => exists_of_raw_all nodes h hs

theorem exists_of_raw_all : ∀ (nodes : List (Node α)) {os : List (Output α)},
    evaluateAll nodes w xs = .ok os → .raw s ∈ os → ∃ leaf : Leaf, s ∈ leaf.select w xs
  | [], _, h, hs => by
    rw [← Except.ok.inj h] at hs
    contradiction
  | node :: nodes, _, h, hs => by
    obtain ⟨os, hos, h⟩ := bind_eq_ok.mp h
    obtain ⟨os', hos', h⟩ := bind_eq_ok.mp h
    rw [← Except.ok.inj h, List.mem_append] at hs
    exact hs.elim (exists_of_raw node hos) (exists_of_raw_all nodes hos')

end

end Node

/-! ## Outputs -/

/-- Nothing in a run leaves 64 bits: offsets saturate, but the first sample time of a window is the
step boundary before its start, which may lie below the least time. -/
structure Query.Bounded (q : Query α) (w : Window) (xs : List (Series α)) : Prop where
  window : w.fits = true
  scanned : ∀ x ∈ xs, x.fits = true
  first : ∀ g ∈ q.groups, ∀ n ∈ g.nodes, Time.fits (n.agg.effective w).first = true

instance (q : Query α) (w : Window) (xs : List (Series α)) : Decidable (q.Bounded w xs) :=
  decidable_of_iff (w.fits = true ∧ (∀ x ∈ xs, x.fits = true) ∧
      ∀ g ∈ q.groups, ∀ n ∈ g.nodes, Time.fits (n.agg.effective w).first = true)
    ⟨fun ⟨hw, hxs, hfirst⟩ => ⟨hw, hxs, hfirst⟩, fun h => ⟨h.window, h.scanned, h.first⟩⟩

namespace Series

variable [Sample α] {s : Series α}

/-- Some query puts the series out. -/
def IsOutput (s : Series α) : Prop := ∃ q : Query α, ∃ w xs os, q.Bounded w xs ∧
  q.evaluate w xs = .ok os ∧ ∃ o ∈ os, o.series = s

theorem IsOutput.fits (h : s.IsOutput) : s.fits = true := by
  obtain ⟨q, w, xs, os, hbounded, hos, o, ho, rfl⟩ := h
  cases o with
  | raw s =>
    obtain ⟨leaf, hs⟩ := Node.exists_of_raw_all q.nodes hos ho
    exact leaf.fits_of_mem_select (fun x hx => hbounded.scanned x (mem_of_mem_distinctBy hx)) hs
  | computed s =>
    obtain ⟨g, hg, n, hn⟩ := Node.exists_of_computed_all q.nodes hos ho
    obtain ⟨hwindow, htimes⟩ := hn.times_eq
    have hfirst := hbounded.first g hg n hn.mem_nodes
    refine fits_iff.mpr ⟨hwindow ▸ hbounded.window, fun t ht => ?_⟩
    exact Window.fits_of_mem_times hfirst (n.agg.fits_stop_effective w) (htimes ▸ ht)

end Series

/-! ## Reading outputs back -/

namespace Series

/-- **What becomes of outputs in JSON. Provided that the digits of its finite values are read as the
same values, an output is read back from its text exactly if all its values are finite, and then it
is the same series, whatever its event, its fields, its window and its times are. A collection of
outputs is read back exactly if all of them are. Otherwise nothing is read.** -/
theorem survives_spec :
    (∀ s : Series Float, s.IsOutput → s.ReadsBack →
      ofJson? s.toJson = if s.isFinite then some s else none) ∧
    ∀ rs : Results Float, (∀ s ∈ rs.toList, s.IsOutput ∧ s.ReadsBack) →
      Results.ofJson? rs.toJson = if rs.isFinite then some rs else none :=
  ⟨fun _ hs hread => ofJson?_toJson hs.fits hread,
    fun _ h => Results.ofJson?_toJson fun s hs => ⟨(h s hs).1.fits, (h s hs).2⟩⟩

/-- A sum and an average of one sample, and an average of none. -/
theorem survives_spec_averages :
    let source := "x: !sum{foo}; y: !avg{foo}; z: !avg{bar}"
    let w : Window := ⟨0, 1000, 1000⟩
    let foo : Series Float := ⟨"foo", .ofPairs [("host", "a\"b")], w, ⟨[⟨0, 1.5⟩]⟩⟩
    ∃ q os, Query.ofText source "" = .ok q ∧ q.evaluate w [foo] = .ok os ∧ os.length = 3 ∧
      (∀ o ∈ os.take 2, ofJson? o.series.toJson = some o.series) ∧
      (∀ o ∈ os.drop 2, ofJson? o.series.toJson = none) ∧
      Results.ofJson? (Results.toJson ⟨(os.take 2).map (·.series)⟩) =
        some ⟨(os.take 2).map (·.series)⟩ ∧
      Results.ofJson? (Results.toJson ⟨os.map (·.series)⟩) = none := by
  intro source w foo
  have hcheck : (Query.ofText source "").toOption.any (fun q => q.Bounded w [foo] &&
      (q.evaluate w [foo]).toOption.any fun os => os.length = 3 &&
        (os.all fun o => o.series.ReadsBack) &&
        os.map (·.series.isFinite) = [true, true, false]) = true := by
    decide +kernel
  obtain ⟨q, hq, hcheck⟩ := exists_of_toOption_any hcheck
  obtain ⟨hbounded, hcheck⟩ := (Bool.and_eq_true _ _).mp hcheck
  obtain ⟨os, hos, hcheck⟩ := exists_of_toOption_any hcheck
  obtain ⟨hcheck, hfinite⟩ := (Bool.and_eq_true _ _).mp hcheck
  obtain ⟨hlength, hread⟩ := (Bool.and_eq_true _ _).mp hcheck
  have hfinite : os.map (·.series.isFinite) = [true, true, false] := of_decide_eq_true hfinite
  have houtput : ∀ o ∈ os, o.series.IsOutput ∧ o.series.ReadsBack := fun o ho =>
    ⟨⟨q, w, [foo], os, of_decide_eq_true hbounded, hos, o, ho, rfl⟩,
      of_decide_eq_true (List.all_eq_true.mp hread o ho)⟩
  have htake : ∀ o ∈ os.take 2, o.series.isFinite = true := by
    have hmap : (os.take 2).map (·.series.isFinite) = [true, true] := by
      rw [List.map_take, hfinite]
      rfl
    exact fun o ho => by simpa [hmap] using List.mem_map_of_mem (f := (·.series.isFinite)) ho
  have hdrop : ∀ o ∈ os.drop 2, o.series.isFinite = false := by
    have hmap : (os.drop 2).map (·.series.isFinite) = [false] := by
      rw [List.map_drop, hfinite]
      rfl
    exact fun o ho => by simpa [hmap] using List.mem_map_of_mem (f := (·.series.isFinite)) ho
  refine ⟨q, os, hq, hos, of_decide_eq_true hlength, fun o ho => ?_, fun o ho => ?_, ?_, ?_⟩
  · obtain ⟨hs, hr⟩ := houtput o (List.mem_of_mem_take ho)
    rw [survives_spec.1 o.series hs hr, if_pos (htake o ho)]
  · obtain ⟨hs, hr⟩ := houtput o (List.mem_of_mem_drop ho)
    rw [survives_spec.1 o.series hs hr, if_neg (by rw [hdrop o ho]; decide)]
  · rw [survives_spec.2 ⟨(os.take 2).map (·.series)⟩
      (List.forall_mem_map.mpr fun o ho => houtput o (List.mem_of_mem_take ho)), if_pos]
    exact List.all_eq_true.mpr (List.forall_mem_map.mpr htake)
  · rw [survives_spec.2 ⟨os.map (·.series)⟩ (List.forall_mem_map.mpr houtput), if_neg]
    have hall : (os.map (·.series)).all isFinite = [true, true, false].all id := by
      rw [← hfinite, List.all_map, List.all_map]
      rfl
    exact Bool.eq_false_iff.mp hall

/-- An average of nothing, a minimum over nothing and a quotient by zero cannot be read back. -/
theorem not_survives :
    let source := "x: !avg{foo}; y: !min{foo}; z: foo / bar"
    let w : Window := ⟨0, 1000, 1000⟩
    ∃ q os, Query.ofText source "" = .ok q ∧ q.evaluate w [] = .ok os ∧ os.length = 3 ∧
      ∀ o ∈ os, o.series.IsOutput ∧ o.series.ReadsBack ∧ ofJson? o.series.toJson = none ∧
        Results.ofJson? (Results.toJson ⟨[o.series]⟩) = none := by
  intro source w
  have hcheck : (Query.ofText source "").toOption.any (fun q => q.Bounded w [] &&
      (q.evaluate w []).toOption.any fun os =>
        os.length = 3 && os.all fun o => o.series.ReadsBack && !o.series.isFinite) = true := by
    decide +kernel
  obtain ⟨q, hq, hcheck⟩ := exists_of_toOption_any hcheck
  obtain ⟨hbounded, hcheck⟩ := (Bool.and_eq_true _ _).mp hcheck
  obtain ⟨os, hos, hcheck⟩ := exists_of_toOption_any hcheck
  obtain ⟨hlength, hall⟩ := (Bool.and_eq_true _ _).mp hcheck
  refine ⟨q, os, hq, hos, of_decide_eq_true hlength, fun o ho => ?_⟩
  obtain ⟨hread, hinfinite⟩ := (Bool.and_eq_true _ _).mp (List.all_eq_true.mp hall o ho)
  have hread : o.series.ReadsBack := of_decide_eq_true hread
  have hinfinite : ¬o.series.isFinite = true := by simpa using hinfinite
  have houtput : o.series.IsOutput :=
    ⟨q, w, [], os, of_decide_eq_true hbounded, hos, o, ho, rfl⟩
  refine ⟨houtput, hread, ?_, ?_⟩
  · rw [ofJson?_toJson houtput.fits hread, Option.guard, if_neg hinfinite]
  · have hone : ∀ s ∈ [o.series], s.fits = true ∧ s.ReadsBack :=
      List.forall_mem_singleton.mpr ⟨houtput.fits, hread⟩
    have hnone : ¬Results.isFinite ⟨[o.series]⟩ = true := by
      simpa [Results.isFinite] using hinfinite
    rw [Results.ofJson?_toJson hone, Option.guard, if_neg hnone]

end Series

end SeriesQuery
