import SeriesQuery.Proofs.Query.Operands

/-!
# Samples one by one

An aggregate is evaluated series by series: leaves and zips take one reducer through all columns and
write its results over blank points, the other nodes change the series of their parts. Each sample
of the outcome can be said for itself.

* `Agg.sampleAt a w xs i` : the sample with the index `i`, by recursion over the tree, every
  reduction begun anew;
* `Agg.values_evaluate` : these are the samples of the value;
* `Points.write?`, `Reducer.writeEach?` : results written index by index, refused out of bounds;
* `Agg.writeLeaf?_eq`, `Agg.writeZip?_eq` : leaves and zips stay within bounds;
* `Agg.samples_spec` : both together.
-/

namespace SeriesQuery

variable {α : Type}

/-! ## Values -/

/-- The sample time with the index `i`. -/
def Window.timeAt (w : Window) (i : Nat) : Int := w.first + i * w.step

namespace Points

theorem values_fill (ps : Points α) (v : α) : (ps.fill v).values = ps.values.map fun _ => v := by
  rw [values, values, fill, List.map_map, List.map_map]
  rfl

theorem values_blank (w : Window) (v : α) :
    (blank w v).values = (List.range w.count).map fun _ => v := by
  rw [values, blank, Window.times, List.map_map, List.map_map]
  rfl

theorem values_zipWith (f : α → α → α) (ps qs : Points α) :
    (Points.mk (ps.toList.zipWith (fun p q => { p with value := f p.value q.value })
      qs.toList)).values = ps.values.zipWith f qs.values := by
  rw [values, values, values, List.map_zipWith, List.zipWith_map]

/-- Points are made of their times and their values. -/
theorem eq_ofValues {ps : Points α} {w : Window} (h : ps.times = w.times) :
    ps = .ofValues w ps.values := by
  rw [ofValues, ← h, times, values, List.zipWith_map, List.zipWith_self]
  exact congrArg Points.mk (List.map_id _).symm

end Points

namespace Agg

variable [Sample α]

/-- The columns of the rows, index by index. -/
theorem columns_eq (n : Nat) (rows : List (List α)) :
    columns n rows = (List.range n).map fun i => rows.map (·.getD i Sample.nan) := by
  induction n generalizing rows with
  | zero => rfl
  | succ n ih =>
    have hhead : rows.map (·.headD Sample.nan) = rows.map (·.getD 0 Sample.nan) :=
      List.map_congr_left fun row _ => by cases row <;> rfl
    have htail (i : Nat) :
        (rows.map List.tail).map (·.getD i Sample.nan) = rows.map (·.getD (i + 1) Sample.nan) := by
      rw [List.map_map]
      exact List.map_congr_left fun row _ => by cases row <;> rfl
    rw [columns, ih, List.range_succ_eq_map, List.map_cons, List.map_map, hhead]
    exact congrArg _ (List.map_congr_left fun i _ => htail i)

theorem values_reduceOver {f : Reduction} {name : String} {w : Window} {columns : List (List α)}
    (h : columns.length = w.count) :
    (reduceOver f name w columns).points.values = columns.map f.apply := by
  rw [points_reduceOver]
  refine Points.values_ofValues (Nat.le_of_eq ?_)
  rw [List.length_map, h, Window.length_times]

theorem values_evaluateZip (f : Reduction) (w : Window) (ss : List (Series α)) :
    (evaluateZip f w ss).points.values =
      (List.range w.count).map fun i =>
        f.apply (ss.map (·.points.values.getD i Sample.nan)) := by
  rw [evaluateZip, values_reduceOver (length_columns _ _), columns_eq, List.map_map]
  exact List.map_congr_left fun i _ => congrArg f.apply List.map_map

theorem values_evaluateLeaf (leaf : Leaf) (f : Reduction) (w : Window) (xs : List (Series α)) :
    (evaluateLeaf leaf f w xs).points.values =
      (List.range (leaf.window w).count).map fun i =>
        f.apply ((leaf.select w xs).map (·.points.valueAt ((leaf.window w).timeAt i))) := by
  refine (Site.values_eq ⟨leaf, f, w⟩ xs).trans ?_
  rw [Window.times, List.map_map]
  rfl

theorem values_evaluateCollapse (f : Reduction) (s : Series α) :
    (evaluateCollapse f s).points.values = s.points.values.map fun _ => f.apply s.points.values :=
  s.points.values_fill _

theorem values_evaluateOp {f : Merger} {x y s : Series α} (h : evaluateOp f x y = .ok s) :
    x.points.values.length = y.points.values.length ∧
      s.points.values = x.points.values.zipWith f.merge y.points.values := by
  unfold evaluateOp at h
  split at h
  · contradiction
  · next hsize =>
    refine ⟨?_, ?_⟩
    · rw [Points.values, Points.values, List.length_map, List.length_map]
      exact not_not.mp hsize
    · rw [← Except.ok.inj h]
      exact Points.values_zipWith f.merge x.points y.points

/-! ## Samples -/

mutual

/-- The sample with the index `i`. -/
def sampleAt : Agg α → Window → List (Series α) → Nat → α
  | .scan leaf f, w, xs, i =>
    f.apply ((leaf.select w xs).map (·.points.valueAt ((leaf.window w).timeAt i)))
  | .zip [only] _ shift, w, xs, i => only.sampleAt (shift.apply w) xs i
  | .zip parts f shift, w, xs, i => f.apply (samplesAt parts (shift.apply w) xs i)
  | .collapse part f, w, xs, _ =>
    f.apply ((List.range (part.effective w).count).map (part.sampleAt w xs))
  | .op x y f, w, xs, i => f.merge (x.sampleAt w xs i) (y.sampleAt w xs i)
  | .value v _, _, _, _ => v

/-- The samples of several parts with the index `i`, NaN for a part that has none. -/
def samplesAt : List (Agg α) → Window → List (Series α) → Nat → List α
  | [], _, _, _ => []
  | part :: parts, w, xs, i =>
    (if i < (part.effective w).count then part.sampleAt w xs i else Sample.nan) ::
      samplesAt parts w xs i

end

/-- All samples of an aggregate. -/
def samples (a : Agg α) (w : Window) (xs : List (Series α)) : List α :=
  (List.range (a.effective w).count).map (a.sampleAt w xs)

theorem length_samples (a : Agg α) (w : Window) (xs : List (Series α)) :
    (a.samples w xs).length = (a.effective w).count := by
  rw [samples, List.length_map, List.length_range]

theorem getD_samples (a : Agg α) (w : Window) (xs : List (Series α)) (i : Nat) :
    (a.samples w xs).getD i Sample.nan =
      if i < (a.effective w).count then a.sampleAt w xs i else Sample.nan := by
  unfold samples
  rw [List.getD_eq_getElem?_getD, List.getElem?_map]
  by_cases h : i < (a.effective w).count
  · rw [if_pos h, List.getElem?_range h]
    rfl
  · rw [if_neg h, List.getElem?_eq_none (by rw [List.length_range]; omega)]
    rfl

mutual

/-- The value of an aggregate has the samples that are said one by one. -/
theorem values_evaluate : ∀ (a : Agg α) (w : Window) (xs : List (Series α)) {s : Series α},
    a.evaluate w xs = .ok s → s.points.values = a.samples w xs
  | .scan leaf f, w, xs, s, h => by
    rw [← Except.ok.inj h]
    exact values_evaluateLeaf leaf f w xs
  | .zip [] f shift, w, xs, s, h => by
    rw [← Except.ok.inj h]
    exact values_evaluateZip f (shift.apply w) []
  | .zip [only] _ shift, w, xs, s, h => values_evaluate only (shift.apply w) xs h
  | .zip (p :: q :: ps) f shift, w, xs, s, h => by
    rw [evaluate_zip_many] at h
    obtain ⟨ss, hss, h⟩ := bind_eq_ok.mp h
    rw [← Except.ok.inj h, values_evaluateZip]
    refine List.map_congr_left fun i _ => congrArg f.apply ?_
    exact getD_evaluateAll (p :: q :: ps) (shift.apply w) xs hss i
  | .collapse part f, w, xs, s, h => by
    obtain ⟨t, ht, h⟩ := bind_eq_ok.mp h
    rw [← Except.ok.inj h, values_evaluateCollapse, values_evaluate part w xs ht, samples,
      List.map_map]
    rfl
  | .op x y f, w, xs, s, h => by
    obtain ⟨u, hu, h⟩ := bind_eq_ok.mp h
    obtain ⟨v, hv, h⟩ := bind_eq_ok.mp h
    obtain ⟨hlen, hvalues⟩ := values_evaluateOp h
    rw [values_evaluate x w xs hu, values_evaluate y w xs hv] at hlen hvalues
    rw [length_samples, length_samples] at hlen
    rw [hvalues, samples, samples, ← hlen, List.zipWith_map, List.zipWith_self]
    rfl
  | .value v shift, w, xs, s, h => by
    rw [← Except.ok.inj h]
    exact Points.values_blank (shift.apply w) v

theorem getD_evaluateAll : ∀ (parts : List (Agg α)) (w : Window) (xs : List (Series α))
    {ss : List (Series α)}, evaluateAll parts w xs = .ok ss → ∀ i,
      ss.map (·.points.values.getD i Sample.nan) = samplesAt parts w xs i
  | [], _, _, ss, h, _ => by
    rw [← Except.ok.inj h]
    rfl
  | part :: parts, w, xs, ss, h, i => by
    obtain ⟨s, hs, h⟩ := bind_eq_ok.mp h
    obtain ⟨ts, hts, h⟩ := bind_eq_ok.mp h
    rw [← Except.ok.inj h, List.map_cons, getD_evaluateAll parts w xs hts i,
      values_evaluate part w xs hs, getD_samples]
    rfl

end

theorem evaluate_eq_samples {a : Agg α} {w : Window} {xs : List (Series α)} {s : Series α}
    (h : a.evaluate w xs = .ok s) : s.points = .ofValues (a.effective w) (a.samples w xs) := by
  rw [← a.values_evaluate w xs h]
  exact Points.eq_ofValues (congrArg Prod.snd (shape_evaluate h))

end Agg

/-! ## Results written in place -/

namespace Points

/-- The value at the index `i` replaced; none if there is no such index. -/
def write? (ps : Points α) (i : Nat) (v : α) : Option (Points α) :=
  if i < ps.size then some ⟨ps.toList.modify i ({ · with value := v })⟩ else none

/-- The first of the points behind `done` is replaced. -/
theorem write?_append_cons (done todo : List (Point α)) (p : Point α) (v : α) :
    write? ⟨done ++ p :: todo⟩ done.length v = some ⟨done ++ { p with value := v } :: todo⟩ := by
  have hmodify (f : Point α → Point α) :
      (done ++ p :: todo).modify done.length f = done ++ f p :: todo := by
    induction done with
    | nil => rfl
    | cons q done ih => exact congrArg (q :: ·) ih
  have hlt : done.length < (done ++ p :: todo).length := by
    rw [List.length_append, List.length_cons]
    omega
  rw [write?, size, if_pos hlt, hmodify]

end Points

variable [Sample α]

namespace Reducer

/-- The columns with the given indexes, reduced by one reducer that is reset before each, every
result written at its index. -/
def writeEach? (r : Reducer α) (column : Nat → List α) (ps : Points α) :
    List Nat → Option (Points α)
  | [] => some ps
  | i :: is =>
    let r := r.reset
    let (value, r) := r.run r.zero (column i)
    (ps.write? i value).bind fun ps => r.writeEach? column ps is

theorem writeEach?_cons {r : Reducer α} {f : Reduction} (h : r.reset = f.start)
    (column : Nat → List α) (ps : Points α) (i : Nat) (is : List Nat) :
    ∃ r' : Reducer α, r'.reset = f.start ∧
      r.writeEach? column ps (i :: is) =
        (ps.write? i (f.apply (column i))).bind fun ps => r'.writeEach? column ps is := by
  refine ⟨((f.start : Reducer α).run f.start.zero (column i)).2, ?_, ?_⟩
  · rw [reset_run, reset_start]
  · rw [writeEach?, h]
    rfl

/-- All points behind `done` are replaced, whatever the reducer carries at first. -/
theorem writeEach?_append {r : Reducer α} {f : Reduction} (h : r.reset = f.start)
    (column : Nat → List α) (done todo : List (Point α)) :
    r.writeEach? column ⟨done ++ todo⟩ (List.range' done.length todo.length) =
      some ⟨done ++ todo.zipWith (fun p i => { p with value := f.apply (column i) })
        (List.range' done.length todo.length)⟩ := by
  -- what is written moves from `todo` to `done`, with whatever the reducer then carries
  induction todo generalizing r done with
  | nil => rfl
  | cons p todo ih =>
    obtain ⟨r', hr', hstep⟩ :=
      writeEach?_cons h column ⟨done ++ p :: todo⟩ done.length
        (List.range' (done.length + 1) todo.length)
    have hrest := ih hr' (done ++ [{ p with value := f.apply (column done.length) }])
    rw [List.length_append, List.length_singleton, List.append_assoc, List.append_assoc] at hrest
    rw [List.length_cons, List.range'_succ, hstep, Points.write?_append_cons]
    exact hrest

/-- Over the blank points of a window no write is out of bounds. -/
theorem writeEach?_blank (f : Reduction) (column : Nat → List α) (w : Window) (v : α) :
    (f.start : Reducer α).writeEach? column (.blank w v) (List.range w.count) =
      some (.ofValues w ((List.range w.count).map fun i => f.apply (column i))) := by
  have hlen : (w.times.map (Point.mk · v)).length = w.count := by
    rw [List.length_map, Window.length_times]
  have hall := writeEach?_append (reset_start f) column [] (w.times.map (Point.mk · v))
  rw [hlen, List.length_nil, ← List.range_eq_range', List.zipWith_map_left] at hall
  rw [Points.ofValues, List.zipWith_map_right]
  exact hall

end Reducer

namespace Agg

/-- The samples of a leaf, written in place. -/
def writeLeaf? (leaf : Leaf) (f : Reduction) (w : Window) (xs : List (Series α)) :
    Option (Points α) :=
  let members := leaf.select w xs
  let own := leaf.window w
  let r : Reducer α := f.start
  r.writeEach? (fun i => members.map (·.points.valueAt (own.timeAt i))) (.blank own r.zero)
    (List.range own.count)

/-- The samples of a zip, written in place. -/
def writeZip? (f : Reduction) (w : Window) (parts : List (Series α)) : Option (Points α) :=
  let r : Reducer α := f.start
  r.writeEach? (fun i => parts.map (·.points.values.getD i Sample.nan)) (.blank w r.zero)
    (List.range w.count)

theorem writeLeaf?_eq (leaf : Leaf) (f : Reduction) (w : Window) (xs : List (Series α)) :
    writeLeaf? leaf f w xs = some (evaluateLeaf leaf f w xs).points := by
  have hshape := shape_evaluateLeaf leaf f w xs
  rw [Points.eq_ofValues (congrArg Prod.snd hshape), values_evaluateLeaf]
  exact Reducer.writeEach?_blank f _ _ _

theorem writeZip?_eq (f : Reduction) (w : Window) (parts : List (Series α)) :
    writeZip? f w parts = some (evaluateZip f w parts).points := by
  have hshape := shape_evaluateZip f w parts
  rw [Points.eq_ofValues (congrArg Prod.snd hshape), values_evaluateZip]
  exact Reducer.writeEach?_blank f _ _ _

/-- **Each sample of a value is what the tree says for its index, with reductions begun anew.
Leaves and zips, which write the results of one reducer over blank points, never leave them.** -/
theorem samples_spec (a : Agg α) (w : Window) (xs : List (Series α)) :
    (∀ s, a.evaluate w xs = .ok s →
      s.points = .ofValues (a.effective w)
        ((List.range (a.effective w).count).map (a.sampleAt w xs))) ∧
      (∀ (leaf : Leaf) (f : Reduction) (v : Window) (ys : List (Series α)),
        writeLeaf? leaf f v ys = some (evaluateLeaf leaf f v ys).points) ∧
      ∀ (f : Reduction) (v : Window) (parts : List (Series α)),
        writeZip? f v parts = some (evaluateZip f v parts).points :=
  ⟨fun _ h => evaluate_eq_samples h, writeLeaf?_eq, writeZip?_eq⟩

/-- Means side by side with one value that covers two steps, added to the largest of the means. -/
theorem samples_spec_means :
    let w : Window := ⟨0, 300, 100⟩
    let series (k : String) (ps : List (Int × Rat)) : Series Exact :=
      ⟨"foo", .ofPairs [("k", k)], w, ⟨ps.map fun (t, v) => ⟨t, .finite v⟩⟩⟩
    let xs := [series "a" [(0, 1), (100, 2), (200, 3)], series "b" [(0, 10), (200, 30)]]
    let mean : Agg Exact := .scan ⟨"foo", .empty, {}⟩ .avg
    let side : Agg Exact := .zip [mean, .value (.finite 7) { step := some 200 }] .avg {}
    let a : Agg Exact := .op side (.collapse mean .max) .add
    ∃ s, a.evaluate w xs = .ok s ∧
      s.points = .ofValues (a.effective w)
        ((List.range (a.effective w).count).map (a.sampleAt w xs)) ∧
      s.points.values = [.finite (91 / 4), .finite (37 / 2), .finite 33] ∧
      writeLeaf? ⟨"foo", .empty, {}⟩ .avg w xs =
        some (evaluateLeaf ⟨"foo", .empty, {}⟩ .avg w xs).points := by
  intro w series xs mean side a
  have hvalues : (a.evaluate w xs).toOption.any
      (fun s => s.points.values = [.finite (91 / 4), .finite (37 / 2), .finite 33]) = true := by
    decide +kernel
  obtain ⟨hsamples, hleaf, -⟩ := samples_spec a w xs
  cases h : a.evaluate w xs with
  | error e =>
    rw [h] at hvalues
    contradiction
  | ok s =>
    rw [h] at hvalues
    exact ⟨s, rfl, hsamples s h, of_decide_eq_true hvalues, hleaf _ _ _ _⟩

end Agg

end SeriesQuery
