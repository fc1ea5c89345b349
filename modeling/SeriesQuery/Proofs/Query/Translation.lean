import SeriesQuery.Proofs.Query.Groups
import SeriesQuery.Proofs.Query.Pointwise

/-!
# Trees moved in time

A tree whose leaves and literals all lie `d` later reads over a window what the tree itself reads
over the window moved by `d`. Zips are not moved: what they shift is moved already.

* `Shift.translate`, `Agg.translate`, `Group.translate`, `Node.translate` : the moved trees;
* `Group.moves`, `Node.moves` : each shift in the tree with the window it moves, and
  `Unclipped d w ms ns` that neither these for the moved tree nor for the moved window leave 64
  bits;
* `Output.Agrees` : raw outputs that are equal, or computed ones with equal names, fields and
  values;
* `Agg.queries_translate`, `Agg.matches_translate`, `Node.matches_translate` : the requests are
  equal and the outcomes agree;
* `Query.translate_eq` : this for queries.
-/

namespace SeriesQuery

variable {α : Type}

/-! ## Shifts -/

namespace Shift

def translate (d : Int) (s : Shift) : Shift := { s with offset := s.offset + d }

/-- No move leaves 64 bits. -/
def AllFit (ms : List (Shift × Window)) : Prop := ∀ m ∈ ms, m.1.fits m.2 = true

instance (ms : List (Shift × Window)) : Decidable (AllFit ms) :=
  inferInstanceAs (Decidable (∀ m ∈ ms, m.1.fits m.2 = true))

theorem apply_eq {s : Shift} {w : Window} (h : s.fits w = true) :
    s.apply w = ⟨w.start + s.offset, w.stop + s.offset, s.step.getD w.step⟩ := by
  obtain ⟨hstart, hstop⟩ := (Bool.and_eq_true _ _).mp h
  unfold apply Window.shift Window.withStep
  rw [Time.saturate_of_fits hstart, Time.saturate_of_fits hstop]
  cases s.step <;> rfl

end Shift

/-- No move leaves 64 bits: not by `d`, not in a moved tree over `w`, and not in the tree itself
over the moved window. -/
structure Unclipped (d : Int) (w : Window) (moved plain : List (Shift × Window)) : Prop where
  window : Shift.fits { offset := d } w = true
  moved : Shift.AllFit moved
  plain : Shift.AllFit plain

namespace Unclipped

variable {d : Int} {w : Window} {s : Shift} {ms ns ms' ns' : List (Shift × Window)}

theorem of_subset (h : Unclipped d w ms ns) (hm : ms' ⊆ ms) (hn : ns' ⊆ ns) :
    Unclipped d w ms' ns' :=
  ⟨h.window, fun m hm' => h.moved m (hm hm'), fun n hn' => h.plain n (hn hn')⟩

theorem left (h : Unclipped d w (ms ++ ms') (ns ++ ns')) : Unclipped d w ms ns :=
  h.of_subset (List.subset_append_left _ _) (List.subset_append_left _ _)

theorem right (h : Unclipped d w (ms ++ ms') (ns ++ ns')) : Unclipped d w ms' ns' :=
  h.of_subset (List.subset_append_right _ _) (List.subset_append_right _ _)

/-- The window is moved as a whole. -/
theorem shift_eq (h : Unclipped d w ms ns) : w.shift d = ⟨w.start + d, w.stop + d, w.step⟩ :=
  Shift.apply_eq h.window

theorem alike (h : Unclipped d w ms ns) : w.Alike (w.shift d) :=
  (Shift.alike_apply h.window rfl).symm

/-- A moved shift moves the window as the shift does with the moved window. -/
theorem apply_translate (h : Unclipped d w ((s.translate d, w) :: ms) ((s, w.shift d) :: ns)) :
    (s.translate d).apply w = s.apply (w.shift d) := by
  rw [Shift.apply_eq (h.moved _ List.mem_cons_self), Shift.apply_eq (h.plain _ List.mem_cons_self),
    h.shift_eq]
  unfold Shift.translate
  rw [← Int.add_assoc, ← Int.add_assoc, Int.add_right_comm w.start, Int.add_right_comm w.stop]

/-- A shift that is not moved itself keeps the distance. -/
theorem apply_shift (h : Unclipped d w ((s, w) :: ms) ((s, w.shift d) :: ns)) :
    s.apply (w.shift d) = (s.apply w).shift d ∧ Unclipped d (s.apply w) ms ns := by
  have hs : s.fits w = true := h.moved _ List.mem_cons_self
  have hs' : s.fits (w.shift d) = true := h.plain _ List.mem_cons_self
  have happly := Shift.apply_eq hs
  have hwindow : Shift.fits { offset := d } (s.apply w) = true := by
    rw [h.shift_eq] at hs'
    rw [happly]
    unfold Shift.fits at hs' ⊢
    dsimp only at hs' ⊢
    rwa [Int.add_right_comm w.start, Int.add_right_comm w.stop]
  have hplain : s.apply (w.shift d) = (s.apply w).shift d := by
    rw [Shift.apply_eq hs', h.shift_eq, happly]
    refine Eq.trans ?_ (Shift.apply_eq (happly ▸ hwindow)).symm
    dsimp only [Option.getD_none]
    rw [Int.add_right_comm w.start, Int.add_right_comm w.stop]
  have hrest := h.of_subset (List.subset_cons_self _ _) (List.subset_cons_self _ _)
  exact ⟨hplain, hwindow, hrest.moved, hrest.plain⟩

end Unclipped

/-! ## Leaves and aggregates -/

def Leaf.translate (d : Int) (leaf : Leaf) : Leaf := { leaf with shift := leaf.shift.translate d }

namespace Agg

mutual

def translate (d : Int) : Agg α → Agg α
  | .scan leaf f => .scan (leaf.translate d) f
  | .zip parts f shift => .zip (translateAll d parts) f shift
  | .collapse part f => .collapse (part.translate d) f
  | .op x y f => .op (x.translate d) (y.translate d) f
  | .value v shift => .value v (shift.translate d)

def translateAll (d : Int) : List (Agg α) → List (Agg α)
  | [] => []
  | part :: parts => part.translate d :: translateAll d parts

end

mutual

theorem accepts_translate (d : Int) (s : Series α) : ∀ a : Agg α,
    (a.translate d).accepts s = a.accepts s
  | .scan .. | .value .. => rfl
  | .zip parts _ _ => anyAccepts_translateAll d s parts
  | .collapse part _ => accepts_translate d s part
  | .op x y _ => by
    rw [translate, accepts, accepts, accepts_translate d s x, accepts_translate d s y]

theorem anyAccepts_translateAll (d : Int) (s : Series α) : ∀ parts : List (Agg α),
    anyAccepts (translateAll d parts) s = anyAccepts parts s
  | [] => rfl
  | part :: parts => by
    rw [translateAll, anyAccepts, anyAccepts, accepts_translate d s part,
      anyAccepts_translateAll d s parts]

end

mutual

theorem queries_translate (d : Int) : ∀ (a : Agg α) {w : Window},
    Unclipped d w ((a.translate d).moves w) (a.moves (w.shift d)) →
      (a.translate d).queries w = a.queries (w.shift d)
  | .scan leaf _, _, h =>
    congrArg (fun own => [(⟨own, leaf.event, leaf.filter⟩ : ScanQuery)]) h.apply_translate
  | .zip parts _ shift, w, h => by
    obtain ⟨happly, hparts⟩ := h.apply_shift
    rw [happly] at hparts
    rw [translate, queries, queries, happly, queriesOf_translateAll d parts hparts]
  | .collapse part _, _, h => queries_translate d part h
  | .op x y _, _, h => by
    rw [translate, queries, queries, queries_translate d x h.left, queries_translate d y h.right]
  | .value .., _, _ => rfl

theorem queriesOf_translateAll (d : Int) : ∀ (parts : List (Agg α)) {w : Window},
    Unclipped d w (movesOf (translateAll d parts) w) (movesOf parts (w.shift d)) →
      queriesOf (translateAll d parts) w = queriesOf parts (w.shift d)
  | [], _, _ => rfl
  | part :: parts, _, h => by
    rw [translateAll, queriesOf, queriesOf, queries_translate d part h.left,
      queriesOf_translateAll d parts h.right]

end

/-! ### Values -/

variable [Sample α]

/-- Zips of series with equal values, over windows of one size. -/
theorem values_evaluateZip_congr (f : Reduction) {v w : Window} (h : v.count = w.count)
    {ss ts : List (Series α)}
    (hs : List.Forall₂ (fun s t => s.points.values = t.points.values) ss ts) :
    (evaluateZip f v ss).points.values = (evaluateZip f w ts).points.values := by
  have hrows : ss.map (·.points.values) = ts.map (·.points.values) := by
    induction hs with
    | nil => rfl
    | cons hst _ ih => rw [List.map_cons, List.map_cons, hst, ih]
  rw [evaluateZip, evaluateZip, hrows, h, values_reduceOver (by rw [length_columns, h]),
    values_reduceOver (length_columns _ _)]

theorem matches_evaluateOp_congr (f : Merger) {s s' t t' : Series α}
    (hs : s.points.values = s'.points.values) (ht : t.points.values = t'.points.values) :
    Matches (fun u v => u.points.values = v.points.values) (evaluateOp f s t)
      (evaluateOp f s' t') := by
  have hsize {u v : Series α} (h : u.points.values = v.points.values) :
      u.points.size = v.points.size := by
    have hlen := congrArg List.length h
    rwa [Points.values, Points.values, List.length_map, List.length_map] at hlen
  unfold evaluateOp
  rw [hsize hs, hsize ht]
  by_cases h : s'.points.size = t'.points.size
  · rw [if_neg (not_not.mpr h), if_neg (not_not.mpr h)]
    refine .ok ?_
    dsimp only
    rw [Points.values_zipWith, Points.values_zipWith, hs, ht]
  · rw [if_pos h, if_pos h]
    exact .error _

mutual

/-- The moved tree has the values of the tree over the moved window, or the same error. -/
theorem matches_translate (d : Int) (xs : List (Series α)) : ∀ (a : Agg α) {w : Window},
    Unclipped d w ((a.translate d).moves w) (a.moves (w.shift d)) →
      Matches (fun s t => s.points.values = t.points.values) ((a.translate d).evaluate w xs)
        (a.evaluate (w.shift d) xs)
  | .scan leaf f, w, h => by
    have hown : (leaf.translate d).window w = leaf.window (w.shift d) := h.apply_translate
    refine .ok ?_
    unfold evaluateLeaf Leaf.select
    rw [hown]
    rfl
  | .zip [] f shift, w, h => by
    obtain ⟨happly, hparts⟩ := h.apply_shift
    refine .ok (values_evaluateZip_congr f ?_ .nil)
    rw [happly, hparts.alike.count_eq]
  | .zip [only] _ shift, w, h => by
    obtain ⟨happly, hparts⟩ := h.apply_shift
    rw [happly] at hparts
    rw [translate, evaluate, happly]
    exact matches_translate d xs only hparts.left
  | .zip (p :: q :: ps) f shift, w, h => by
    obtain ⟨happly, hparts⟩ := h.apply_shift
    have hcount := hparts.alike.count_eq
    rw [happly] at hparts
    rw [evaluate_zip_many, happly]
    exact (matches_translateAll d xs (p :: q :: ps) hparts).bind fun ss ts hs =>
      .ok (values_evaluateZip_congr f hcount hs)
  | .collapse part f, w, h => by
    rw [translate, evaluate, evaluate]
    refine (matches_translate d xs part h).bind fun s t hst => .ok ?_
    rw [values_evaluateCollapse, values_evaluateCollapse, hst]
  | .op x y f, w, h => by
    rw [translate, evaluate, evaluate]
    refine (matches_translate d xs x h.left).bind fun s s' hs => ?_
    refine (matches_translate d xs y h.right).bind fun t t' ht => ?_
    exact matches_evaluateOp_congr f hs ht
  | .value v shift, w, h => by
    have hown : (shift.translate d).apply w = shift.apply (w.shift d) := h.apply_translate
    rw [translate, evaluate, evaluate, hown]
    exact .ok rfl

theorem matches_translateAll (d : Int) (xs : List (Series α)) :
    ∀ (parts : List (Agg α)) {w : Window},
    Unclipped d w (movesOf (translateAll d parts) w) (movesOf parts (w.shift d)) →
      Matches (List.Forall₂ fun s t => s.points.values = t.points.values)
        (evaluateAll (translateAll d parts) w xs) (evaluateAll parts (w.shift d) xs)
  | [], _, _ => .ok .nil
  | part :: parts, w, h => by
    rw [translateAll, evaluateAll, evaluateAll]
    refine (matches_translate d xs part h.left).bind fun s t hst => ?_
    exact (matches_translateAll d xs parts h.right).bind fun ss ts hs => .ok (.cons hst hs)

end

end Agg

/-! ## Outputs -/

/-- Of two outputs the raw ones are equal, and the computed ones have the same name, fields and
values. Their times may differ. -/
inductive Output.Agrees : Output α → Output α → Prop where
  | raw (s : Series α) : Agrees (.raw s) (.raw s)
  | computed {s t : Series α} (event : s.event = t.event) (fields : s.fields = t.fields)
      (values : s.points.values = t.points.values) : Agrees (.computed s) (.computed t)

/-! ## Groups -/

def Named.translate (d : Int) (n : Named α) : Named α := { n with agg := n.agg.translate d }

namespace Group

def translate (d : Int) (g : Group α) : Group α := { g with nodes := g.nodes.map (·.translate d) }

/-- Each shift in the aggregates with the window it moves. -/
def moves (g : Group α) (w : Window) : List (Shift × Window) := g.nodes.flatMap (·.agg.moves w)

variable {g : Group α} {d : Int} {w : Window}

theorem unclipped_agg (h : Unclipped d w ((g.translate d).moves w) (g.moves (w.shift d)))
    {n : Named α} (hn : n ∈ g.nodes) :
    Unclipped d w ((n.agg.translate d).moves w) (n.agg.moves (w.shift d)) := by
  refine h.of_subset (fun m hm => ?_) fun m hm => List.mem_flatMap.mpr ⟨n, hn, hm⟩
  exact List.mem_flatMap.mpr ⟨n.translate d, List.mem_map_of_mem hn, hm⟩

theorem queries_translate (h : Unclipped d w ((g.translate d).moves w) (g.moves (w.shift d))) :
    (g.translate d).queries w = g.queries (w.shift d) := by
  unfold queries translate
  rw [List.flatMap_map]
  exact List.flatMap_congr fun n hn => n.agg.queries_translate d (unclipped_agg h hn)

/-- Buckets do not depend on when series are read. -/
theorem partition_translate (g : Group α) (d : Int) (xs : List (Series α)) :
    (g.translate d).partition xs = g.partition xs := by
  have haccepts : ∀ s : Series α, (g.translate d).accepts s = g.accepts s := by
    intro s
    unfold accepts translate
    rw [List.any_map]
    exact congrArg g.nodes.any (funext fun n => n.agg.accepts_translate d s)
  unfold partition
  rw [List.filter_congr fun s _ => haccepts s]
  rfl

variable [Sample α]

theorem matches_translate (h : Unclipped d w ((g.translate d).moves w) (g.moves (w.shift d)))
    (xs : List (Series α)) :
    Matches (List.Forall₂ Output.Agrees) ((g.translate d).evaluate w xs)
      (g.evaluate (w.shift d) xs) := by
  have hbucket (key : Fields) (members : List (Series α)) : Matches (List.Forall₂ Output.Agrees)
      ((g.translate d).bucket w key members) (g.bucket (w.shift d) key members) := by
    unfold bucket translate
    rw [List.mapM_map]
    refine Matches.mapM fun n hn => ?_
    exact (n.agg.matches_translate d members (unclipped_agg h hn)).bind fun _ _ hvalues =>
      .ok (.computed rfl rfl hvalues)
  rw [evaluate, evaluate, partition_translate]
  exact Matches.bind (Matches.mapM fun bucket _ => hbucket bucket.1 bucket.2) fun _ _ hos =>
    .ok (List.rel_flatten hos)

end Group

/-! ## Nodes -/

namespace Node

mutual

def translate (d : Int) : Node α → Node α
  | .scan leaf => .scan (leaf.translate d)
  | .group g => .group (g.translate d)
  | .block nodes => .block (translateAll d nodes)

def translateAll (d : Int) : List (Node α) → List (Node α)
  | [] => []
  | node :: nodes => node.translate d :: translateAll d nodes

end

mutual

/-- Each shift in the tree with the window it moves. -/
def moves : Node α → Window → List (Shift × Window)
  | .scan leaf, w => [(leaf.shift, w)]
  | .group g, w => g.moves w
  | .block nodes, w => movesOf nodes w

def movesOf : List (Node α) → Window → List (Shift × Window)
  | [], _ => []
  | node :: nodes, w => node.moves w ++ movesOf nodes w

end

mutual

theorem queries_translate (d : Int) : ∀ (node : Node α) {w : Window},
    Unclipped d w ((node.translate d).moves w) (node.moves (w.shift d)) →
      (node.translate d).queries w = node.queries (w.shift d)
  | .scan leaf, _, h =>
    congrArg (fun own => [(⟨own, leaf.event, leaf.filter⟩ : ScanQuery)]) h.apply_translate
  | .group _, _, h => Group.queries_translate h
  | .block nodes, _, h => queriesOf_translateAll d nodes h

theorem queriesOf_translateAll (d : Int) : ∀ (nodes : List (Node α)) {w : Window},
    Unclipped d w (movesOf (translateAll d nodes) w) (movesOf nodes (w.shift d)) →
      queriesOf (translateAll d nodes) w = queriesOf nodes (w.shift d)
  | [], _, _ => rfl
  | node :: nodes, _, h => by
    rw [translateAll, queriesOf, queriesOf, queries_translate d node h.left,
      queriesOf_translateAll d nodes h.right]

end

variable [Sample α]

mutual

theorem matches_translate (d : Int) (xs : List (Series α)) : ∀ (node : Node α) {w : Window},
    Unclipped d w ((node.translate d).moves w) (node.moves (w.shift d)) →
      Matches (List.Forall₂ Output.Agrees) ((node.translate d).evaluate w xs)
        (node.evaluate (w.shift d) xs)
  | .scan leaf, w, h => by
    have hown : (leaf.translate d).window w = leaf.window (w.shift d) := h.apply_translate
    have hselect : (leaf.translate d).select w xs = leaf.select (w.shift d) xs := by
      unfold Leaf.select
      rw [hown]
      rfl
    rw [translate, evaluate, evaluate, hselect]
    refine .ok (List.forall₂_map_left_iff.mpr (List.forall₂_map_right_iff.mpr ?_))
    exact List.forall₂_same.mpr fun s _ => .raw s
  | .group _, _, h => Group.matches_translate h xs
  | .block nodes, _, h => matches_translateAll d xs nodes h

theorem matches_translateAll (d : Int) (xs : List (Series α)) : ∀ (nodes : List (Node α))
    {w : Window}, Unclipped d w (movesOf (translateAll d nodes) w) (movesOf nodes (w.shift d)) →
      Matches (List.Forall₂ Output.Agrees) (evaluateAll (translateAll d nodes) w xs)
        (evaluateAll nodes (w.shift d) xs)
  | [], _, _ => .ok .nil
  | node :: nodes, w, h => by
    rw [translateAll, evaluateAll, evaluateAll]
    refine (matches_translate d xs node h.left).bind fun _ _ hos => ?_
    exact (matches_translateAll d xs nodes h.right).bind fun _ _ hos' =>
      .ok (List.rel_append hos hos')

end

end Node

/-! ## Queries -/

namespace Query

def translate (d : Int) (q : Query α) : Query α := ⟨Node.translateAll d q.nodes⟩

/-- Each shift in the tree with the window it moves. -/
def moves (q : Query α) (w : Window) : List (Shift × Window) := Node.movesOf q.nodes w

/-- The moved query asks for what the query asks for over the moved window, and the outputs agree,
or both fail with one error. -/
theorem translate_eq {q : Query α} {d : Int} {w : Window}
    (h : Unclipped d w ((q.translate d).moves w) (q.moves (w.shift d))) :
    (q.translate d).queries w = q.queries (w.shift d) ∧
      ∀ [Sample α] (xs : List (Series α)), Matches (List.Forall₂ Output.Agrees)
        ((q.translate d).evaluate w xs) (q.evaluate (w.shift d) xs) :=
  ⟨Node.queriesOf_translateAll d q.nodes h, fun _ => Node.matches_translateAll d _ q.nodes h⟩

end Query

end SeriesQuery
