import SeriesQuery.Proofs.Query.Groups
import SeriesQuery.Proofs.Query.Planning

/-!
# Series that read alike

A leaf makes of a series what `Leaf.fit?` gives, so of two series that are of one event, have the
same fields and fit alike it makes the same. If the series of two answers read alike one by one,
then no query tells the answers apart.

* `ReadAlike qs x y` : whatever a request of `qs` makes of `x`, it makes of `y`;
* `Leaf.select_readAlike`, `Agg.evaluate_readAlike`, `Group.evaluate_readAlike` : what is computed
  from lists that read alike is the same;
* `Node.evaluate_readAlike` : and so are the outputs.
-/

namespace SeriesQuery

variable {α : Type}

/-- No request of `qs` tells `x` from `y`. Which bucket of a group they join is the same as well. -/
structure ReadAlike (qs : List ScanQuery) (x y : Series α) : Prop where
  event : x.event = y.event
  fields : x.fields = y.fields
  fit : ∀ p ∈ qs, p.event = x.event → p.filter.accepts x.fields = true →
    Leaf.fit? p.window x = Leaf.fit? p.window y

variable {qs : List ScanQuery} {x y : Series α} {xs ys : List (Series α)}

/-- Filters that look at the event and the fields keep lists alike. -/
theorem readAlike_filter (h : List.Forall₂ (ReadAlike qs) xs ys) {p : Series α → Bool}
    (hp : ∀ x y, ReadAlike qs x y → p x = p y) :
    List.Forall₂ (ReadAlike qs) (xs.filter p) (ys.filter p) :=
  List.rel_filter (fun x y hxy => Bool.eq_iff_iff.mp (hp x y hxy)) h

/-! ## Leaves -/

namespace Leaf

theorem accepts_readAlike (leaf : Leaf) (h : ReadAlike qs x y) :
    leaf.accepts x = leaf.accepts y := by
  rw [accepts, accepts, h.event, h.fields]

theorem select_readAlike {leaf : Leaf} {w : Window} (hq : leaf.query w ∈ qs)
    (h : List.Forall₂ (ReadAlike qs) xs ys) : leaf.select w xs = leaf.select w ys := by
  unfold select
  induction h with
  | nil => rfl
  | @cons x y xs ys hxy _ ih =>
    by_cases hx : leaf.accepts x = true
    · have hy : leaf.accepts y = true := leaf.accepts_readAlike hxy ▸ hx
      obtain ⟨hevent, hfields⟩ := (Bool.and_eq_true _ _).mp hx
      have hfit : fit? (leaf.window w) x = fit? (leaf.window w) y :=
        hxy.fit _ hq (of_decide_eq_true hevent).symm hfields
      rw [List.filter_cons_of_pos hx, List.filter_cons_of_pos hy, List.filterMap_cons,
        List.filterMap_cons, hfit, ih]
    · have hy : ¬leaf.accepts y = true := leaf.accepts_readAlike hxy ▸ hx
      rw [List.filter_cons_of_neg hx, List.filter_cons_of_neg hy, ih]

end Leaf

/-! ## Aggregates -/

namespace Agg

mutual

theorem accepts_readAlike (h : ReadAlike qs x y) : ∀ a : Agg α, a.accepts x = a.accepts y
  | .scan leaf _ => leaf.accepts_readAlike h
  | .zip parts _ _ => anyAccepts_readAlike h parts
  | .collapse part _ => accepts_readAlike h part
  | .op a b _ => by rw [accepts, accepts, accepts_readAlike h a, accepts_readAlike h b]
  | .value .. => rfl

theorem anyAccepts_readAlike (h : ReadAlike qs x y) :
    ∀ parts : List (Agg α), anyAccepts parts x = anyAccepts parts y
  | [] => rfl
  | part :: parts => by
    rw [anyAccepts, anyAccepts, accepts_readAlike h part, anyAccepts_readAlike h parts]

end

theorem evaluate_readAlike [Sample α] {a : Agg α} {w : Window} (hqs : a.queries w ⊆ qs)
    (h : List.Forall₂ (ReadAlike qs) xs ys) : a.evaluate w xs = a.evaluate w ys := by
  refine a.evaluate_congr w xs ys fun site hsite => Leaf.select_readAlike (hqs ?_) h
  rw [queries_eq]
  exact List.mem_map_of_mem hsite

end Agg

/-! ## Groups -/

namespace Group

theorem accepts_readAlike (g : Group α) (h : ReadAlike qs x y) : g.accepts x = g.accepts y := by
  have hagg : ∀ n : Named α, n.agg.accepts x = n.agg.accepts y :=
    fun n => n.agg.accepts_readAlike h
  unfold accepts
  simp only [hagg]

theorem key_readAlike (g : Group α) (h : ReadAlike qs x y) : g.key x = g.key y := by
  rw [key, key, h.fields]

theorem keys_readAlike (g : Group α) (h : List.Forall₂ (ReadAlike qs) xs ys) :
    g.keys xs = g.keys ys := by
  have hread := readAlike_filter h fun _ _ => g.accepts_readAlike
  have hkeys : (xs.filter g.accepts).map g.key = (ys.filter g.accepts).map g.key := by
    rw [← List.forall₂_eq_eq_eq, List.forall₂_map_left_iff, List.forall₂_map_right_iff]
    exact hread.imp fun _ _ => g.key_readAlike
  rw [keys, keys, hkeys]

theorem members_readAlike (g : Group α) (k : Fields) (h : List.Forall₂ (ReadAlike qs) xs ys) :
    List.Forall₂ (ReadAlike qs) (g.members k xs) (g.members k ys) :=
  readAlike_filter h fun _ _ hxy => by rw [g.accepts_readAlike hxy, g.key_readAlike hxy]

theorem evaluate_readAlike [Sample α] {g : Group α} {w : Window} (hqs : g.queries w ⊆ qs)
    (h : List.Forall₂ (ReadAlike qs) xs ys) : g.evaluate w xs = g.evaluate w ys := by
  have hbucket : ∀ k, g.bucket w k (g.members k xs) = g.bucket w k (g.members k ys) := by
    intro k
    refine mapM_congr fun n hn => ?_
    have hsub : n.agg.queries w ⊆ qs := fun p hp => hqs (List.mem_flatMap.mpr ⟨n, hn, hp⟩)
    unfold evaluateNamed
    rw [Agg.evaluate_readAlike hsub (g.members_readAlike k h)]
  rw [evaluate_eq, evaluate_eq, g.keys_readAlike h]
  simp only [hbucket]

end Group

/-! ## Nodes -/

namespace Node

variable [Sample α]

mutual

theorem evaluate_readAlike : ∀ (node : Node α) (w : Window), node.queries w ⊆ qs →
    List.Forall₂ (ReadAlike qs) xs ys → node.evaluate w xs = node.evaluate w ys
  | .scan leaf, w, hqs, h => by
    rw [evaluate, evaluate, Leaf.select_readAlike (hqs (List.mem_singleton_self _)) h]
  | .group g, w, hqs, h => Group.evaluate_readAlike hqs h
  | .block nodes, w, hqs, h => evaluateAll_readAlike nodes w hqs h

theorem evaluateAll_readAlike : ∀ (nodes : List (Node α)) (w : Window), queriesOf nodes w ⊆ qs →
    List.Forall₂ (ReadAlike qs) xs ys → evaluateAll nodes w xs = evaluateAll nodes w ys
  | [], _, _, _ => rfl
  | node :: nodes, w, hqs, h => by
    have hqs := List.append_subset.mp hqs
    rw [evaluateAll, evaluateAll, evaluate_readAlike node w hqs.1 h,
      evaluateAll_readAlike nodes w hqs.2 h]

end

end Node

end SeriesQuery
