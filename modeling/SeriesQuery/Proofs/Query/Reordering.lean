import SeriesQuery.Proofs.Exact
import SeriesQuery.Proofs.Query.Groups

/-!
# Order of the scanned series

A scanner may answer in any order. The order shows in the outputs, since raw outputs and buckets
come as their series do, but in exact arithmetic nowhere else.

* `Leaf.select_perm`, `Group.keys_perm_of_perm`, `Group.members_perm` : what is picked from permuted
  series is permuted;
* `Agg.evaluate_perm` : an aggregate of permuted series is the same, each leaf being a reduction of
  permuted samples;
* `Node.matches_perm` : the outputs of a block are permuted, or all fail alike;
* `Query.reordered_spec` : and so are the outputs of a query.
-/

namespace SeriesQuery

/-! ## What is picked -/

section Picked

variable {α : Type} {xs ys : List (Series α)}

theorem Leaf.select_perm (leaf : Leaf) (w : Window) (h : xs.Perm ys) :
    (leaf.select w xs).Perm (leaf.select w ys) :=
  (h.filter _).filterMap _

theorem Group.members_perm (g : Group α) (k : Fields) (h : xs.Perm ys) :
    (g.members k xs).Perm (g.members k ys) :=
  h.filter _

/-- The buckets are there for the same keys, in the order of their first series. -/
theorem Group.keys_perm_of_perm (g : Group α) (h : xs.Perm ys) : (g.keys xs).Perm (g.keys ys) := by
  refine (List.perm_ext_iff_of_nodup (g.nodup_keys xs) (g.nodup_keys ys)).mpr fun k => ?_
  rw [mem_keys_iff, mem_keys_iff]
  refine or_congr_right (exists_congr fun x => and_congr_left fun _ => ?_)
  exact h.mem_iff

end Picked

/-! ## Values in exact arithmetic -/

variable {xs ys : List (Series Exact)}

/-- At each sample time the same samples are reduced, in another order. -/
theorem Site.series_perm (site : Site) (h : xs.Perm ys) : site.series xs = site.series ys := by
  have hcolumn (t : Int) : site.reduction.apply ((site.select xs).map (·.points.valueAt t)) =
      site.reduction.apply ((site.select ys).map (·.points.valueAt t)) :=
    Exact.apply_perm _ ((site.leaf.select_perm site.window h).map _)
  rw [series_eq, series_eq, List.map_congr_left fun t _ => hcolumn t]

theorem Agg.evaluate_perm (a : Agg Exact) (w : Window) (h : xs.Perm ys) :
    a.evaluate w xs = a.evaluate w ys :=
  a.evaluate_congr_leaves w xs ys fun site _ => site.series_perm h

/-! ## Outputs -/

theorem Group.bucket_perm (g : Group Exact) (w : Window) (k : Fields) (h : xs.Perm ys) :
    g.bucket w k xs = g.bucket w k ys := by
  refine mapM_congr fun n _ => ?_
  unfold evaluateNamed
  rw [n.agg.evaluate_perm w h]

/-- Each bucket has the outputs it had, and the buckets are permuted. -/
theorem Group.matches_perm (g : Group Exact) (w : Window) (h : xs.Perm ys) :
    Matches List.Perm (g.evaluate w xs) (g.evaluate w ys) := by
  have hbucket : (fun k => g.bucket w k (g.members k xs)) =
      fun k => g.bucket w k (g.members k ys) :=
    funext fun k => g.bucket_perm w k (g.members_perm k h)
  have hfails : ∀ k l, Matches (fun _ _ => True) (g.bucket w k (g.members k ys))
      (g.bucket w l (g.members l ys)) :=
    fun k l => (g.matches_bucket w k l _ _).mono fun _ _ _ => trivial
  rw [evaluate_eq, evaluate_eq, hbucket]
  exact (Matches.mapM_perm (g.keys_perm_of_perm h) hfails).bind fun _ _ hos => .ok hos.flatten

namespace Node

mutual

theorem matches_perm : ∀ (node : Node Exact) (w : Window) {xs ys : List (Series Exact)},
    xs.Perm ys → Matches List.Perm (node.evaluate w xs) (node.evaluate w ys)
  | .scan leaf, w, _, _, h => .ok ((leaf.select_perm w h).map Output.raw)
  | .group g, w, _, _, h => g.matches_perm w h
  | .block nodes, w, _, _, h => matches_perm_all nodes w h

theorem matches_perm_all : ∀ (nodes : List (Node Exact)) (w : Window) {xs ys : List (Series Exact)},
    xs.Perm ys → Matches List.Perm (evaluateAll nodes w xs) (evaluateAll nodes w ys)
  | [], _, _, _, _ => .ok .nil
  | node :: nodes, w, _, _, h =>
    (matches_perm node w h).bind fun _ _ hos =>
      (matches_perm_all nodes w h).bind fun _ _ hos' => .ok (hos.append hos')

end

end Node

namespace Query

/-- **The order of the answer does not matter. If series with different keys are given to a query in
another order, it fails with the same error, or its outputs are the same in another order, each with
the same kind, event, fields, window and points. Samples are read exactly; the two infinities may
meet.** -/
theorem reordered_spec (q : Query Exact) (w : Window) {xs ys : List (Series Exact)}
    (hkeys : (xs.map Series.key).Nodup) (h : xs.Perm ys) :
    Matches List.Perm (q.evaluate w xs) (q.evaluate w ys) := by
  have hkeys' : (ys.map Series.key).Nodup := (h.map Series.key).nodup_iff.mp hkeys
  rw [evaluate, evaluate, distinctBy_of_nodup hkeys, distinctBy_of_nodup hkeys']
  exact Node.matches_perm_all q.nodes w h

/-- Averages by size next to the series themselves: exchanged series exchange the outputs. -/
theorem reordered_spec_exchanged :
    let w : Window := ⟨0, 2000, 1000⟩
    let sized (size : String) (v : Exact) : Series Exact :=
      ⟨"foo", .ofPairs [("size", size)], w, ⟨[⟨0, v⟩, ⟨1000, .nan⟩]⟩⟩
    let small := sized "small" (.finite 1)
    let big := sized "big" .posInf
    let q : Query Exact := ⟨[.scan ⟨"foo", .empty, {}⟩,
      .group ⟨[⟨"mean", .scan ⟨"foo", .empty, {}⟩ .avg⟩], ["size"], "", .sum⟩]⟩
    ([small, big].map Series.key).Nodup ∧ [small, big].Perm [big, small] ∧
      q.evaluate w [small, big] ≠ q.evaluate w [big, small] ∧
      Matches List.Perm (q.evaluate w [small, big]) (q.evaluate w [big, small]) := by
  intro w sized small big q
  have hkeys : ([small, big].map Series.key).Nodup := by decide +kernel
  have hperm : [small, big].Perm [big, small] := List.Perm.swap big small []
  refine ⟨hkeys, hperm, ?_, reordered_spec q w hkeys hperm⟩
  decide +kernel

end Query

end SeriesQuery
