import SeriesQuery.Proofs.Distinct
import SeriesQuery.Proofs.Query.Shape

/-!
# Groups of a query

* `Group.keys`, `Group.members` : the keys of the buckets, and the series of one;
* `Group.partition_eq` : the buckets are these, `Group.partition_append_singleton` takes one step;
* `Group.bucket` : the outputs of one bucket, `Group.evaluate_eq`;
* `Group.assemble` : the outputs of a group whose leaves have given samples in each bucket;
* `Group.sites`, `Query.groups` : the leaves of a group, and the groups of a query;
* `Query.parts`, `Query.evaluate_eq_parts` : the outputs of a query are those of its bare leaves and
  its groups in turn, put together from samples by `Query.assemble`;
* `Query.fits` : no window on the way to a leaf leaves 64 bits; then the windows of all requests
  have one length (`Query.length_of_mem_queries`).
-/

namespace SeriesQuery

variable {α : Type}

/-! ## Buckets -/

namespace Group

/-- The buckets that are there before any series: one if there are no labels. -/
def initialKeys (g : Group α) : List Fields := if g.labels.isEmpty then [.empty] else []

/-- The keys of the buckets, in the order of their first series. -/
def keys (g : Group α) (xs : List (Series α)) : List Fields :=
  ((xs.filter g.accepts).map g.key).foldl (pushDistinct id) g.initialKeys

/-- The series of the bucket with the key `k`. -/
def members (g : Group α) (k : Fields) (xs : List (Series α)) : List (Series α) :=
  xs.filter fun s => g.accepts s && g.key s = k

theorem mem_keys_iff {g : Group α} {xs : List (Series α)} {k : Fields} :
    k ∈ g.keys xs ↔ k ∈ g.initialKeys ∨ ∃ s ∈ xs, g.accepts s = true ∧ g.key s = k := by
  have h : k ∈ (g.keys xs).map id ↔
      k ∈ g.initialKeys.map id ∨ k ∈ ((xs.filter g.accepts).map g.key).map id :=
    mem_keys_foldl_pushDistinct
  rw [List.map_id, List.map_id, List.map_id] at h
  rw [h]
  simp [and_assoc]

theorem nodup_keys (g : Group α) (xs : List (Series α)) : (g.keys xs).Nodup := by
  have h : ((g.keys xs).map id).Nodup := by
    refine nodup_keys_foldl_pushDistinct ?_ _
    rw [List.map_id, initialKeys]
    split
    · exact List.nodup_singleton _
    · exact List.nodup_nil
  rwa [List.map_id] at h

theorem mem_keys_of_accepts {g : Group α} {xs : List (Series α)} {s : Series α} (hs : s ∈ xs)
    (h : g.accepts s = true) : g.key s ∈ g.keys xs :=
  mem_keys_iff.mpr (Or.inr ⟨s, hs, h, rfl⟩)

theorem keys_append_singleton (g : Group α) (xs : List (Series α)) (s : Series α) :
    g.keys (xs ++ [s]) =
      if g.accepts s then pushDistinct id (g.keys xs) (g.key s) else g.keys xs := by
  unfold keys
  by_cases h : g.accepts s
  · simp [h]
  · simp [h]

theorem members_append_singleton (g : Group α) (k : Fields) (xs : List (Series α)) (s : Series α) :
    g.members k (xs ++ [s]) =
      g.members k xs ++ if g.accepts s = true ∧ g.key s = k then [s] else [] := by
  unfold members
  rw [List.filter_append]
  by_cases h : g.accepts s = true ∧ g.key s = k
  · rw [if_pos h, List.filter_cons_of_pos (by simpa using h), List.filter_nil]
  · rw [if_neg h, List.filter_cons_of_neg (by simpa using h), List.filter_nil]

/-- A series that is read, among the buckets of `ks`, which hold the one of its key if it had
members. -/
theorem addTo_members {g : Group α} {xs : List (Series α)} {s : Series α} (h : g.accepts s = true)
    {ks : List Fields} (hks : ks.Nodup) (hold : g.key s ∈ ks ∨ g.members (g.key s) xs = []) :
    addTo (g.key s) s (ks.map fun k => (k, g.members k xs)) =
      (pushDistinct id ks (g.key s)).map fun k => (k, g.members k (xs ++ [s])) := by
  have hself : g.members (g.key s) (xs ++ [s]) = g.members (g.key s) xs ++ [s] := by
    rw [members_append_singleton, if_pos ⟨h, rfl⟩]
  have hother : ∀ k, k ≠ g.key s → g.members k (xs ++ [s]) = g.members k xs := by
    intro k hk
    rw [members_append_singleton, if_neg fun hs => hk hs.2.symm, List.append_nil]
  induction ks with
  | nil =>
    have hnone := hold.resolve_left List.not_mem_nil
    simp [addTo, pushDistinct, hself, hnone]
  | cons k ks ih =>
    obtain ⟨hk, hks⟩ := List.nodup_cons.mp hks
    rw [List.map_cons, addTo]
    by_cases hks' : k = g.key s
    · subst hks'
      have hrest : ks.map (fun k => (k, g.members k xs)) =
          ks.map fun k => (k, g.members k (xs ++ [s])) := by
        refine List.map_congr_left fun l hl => ?_
        rw [hother l fun he => hk (he ▸ hl)]
      rw [if_pos rfl, pushDistinct_of_mem (by simp), List.map_cons, hrest, hself]
    · have hold' : g.key s ∈ ks ∨ g.members (g.key s) xs = [] :=
        hold.imp_left fun hm => (List.mem_cons.mp hm).resolve_left (Ne.symm hks')
      rw [if_neg hks', pushDistinct_cons_of_ne hks', List.map_cons, hother k hks', ih hks hold']

theorem partition_append_singleton (g : Group α) (xs : List (Series α)) (s : Series α) :
    g.partition (xs ++ [s]) =
      if g.accepts s then addTo (g.key s) s (g.partition xs) else g.partition xs := by
  unfold partition
  by_cases h : g.accepts s
  · simp [h]
  · simp [h]

/-- **The buckets are the keys, each with the series that are read and have this key.** -/
theorem partition_eq (g : Group α) (xs : List (Series α)) :
    g.partition xs = (g.keys xs).map fun k => (k, g.members k xs) := by
  induction xs using List.reverseRecOn with
  | nil =>
    unfold partition keys initialKeys
    rw [List.filter_nil, List.map_nil, List.foldl_nil, List.foldl_nil]
    split <;> rfl
  | append_singleton xs s ih =>
    rw [partition_append_singleton, keys_append_singleton, ih]
    by_cases h : g.accepts s = true
    · have hold : g.key s ∈ g.keys xs ∨ g.members (g.key s) xs = [] := by
        by_cases hk : g.key s ∈ g.keys xs
        · exact Or.inl hk
        · refine Or.inr (List.filter_eq_nil_iff.mpr fun t ht htk => hk ?_)
          obtain ⟨hacc, heq⟩ : g.accepts t = true ∧ g.key t = g.key s := by simpa using htk
          exact heq ▸ mem_keys_of_accepts ht hacc
      rw [if_pos h, if_pos h, addTo_members h (nodup_keys g xs) hold]
    · rw [if_neg h, if_neg h]
      refine List.map_congr_left fun k _ => ?_
      rw [members_append_singleton, if_neg fun hs => h hs.1, List.append_nil]

theorem mem_partition_iff {g : Group α} {xs : List (Series α)} {bucket : Fields × List (Series α)} :
    bucket ∈ g.partition xs ↔ bucket.1 ∈ g.keys xs ∧ bucket.2 = g.members bucket.1 xs := by
  rw [partition_eq, List.mem_map]
  constructor
  · rintro ⟨k, hk, rfl⟩
    exact ⟨hk, rfl⟩
  · rintro ⟨hk, hm⟩
    exact ⟨bucket.1, hk, Prod.ext rfl hm.symm⟩

/-! ## Outputs of a bucket -/

section Outputs

variable [Sample α]

/-- The outputs of one bucket. -/
def bucket (g : Group α) (w : Window) (k : Fields) (xs : List (Series α)) :
    Except QueryError (List (Output α)) :=
  g.nodes.mapM (evaluateNamed w k xs)

theorem evaluate_eq (g : Group α) (w : Window) (xs : List (Series α)) :
    g.evaluate w xs =
      ((g.keys xs).mapM fun k => g.bucket w k (g.members k xs)) >>= fun os => .ok os.flatten := by
  rw [evaluate, partition_eq, List.mapM_map]
  rfl

/-- The outputs of a group, given for each bucket its key and the samples of the leaves. -/
def assemble (g : Group α) (w : Window) (buckets : List (Fields × (Site → List α))) :
    Except QueryError (List (Output α)) := do
  let outputs ← buckets.mapM fun (key, samples) => g.nodes.mapM fun n => do
    let s ← n.agg.assemble samples w
    return .computed { s with event := n.name, fields := key, window := w }
  return outputs.flatten

/-- Nothing else is read of a bucket than the samples of the leaves. -/
theorem evaluate_eq_assemble (g : Group α) (w : Window) (xs : List (Series α)) :
    g.evaluate w xs =
      g.assemble w ((g.partition xs).map fun b => (b.1, fun site => site.values b.2)) := by
  unfold evaluate assemble
  rw [List.mapM_map]
  refine congrArg (· >>= _) (mapM_congr fun b _ => mapM_congr fun n _ => ?_)
  rw [evaluateNamed, n.agg.evaluate_eq_assemble w fun _ _ => rfl]

/-- A bucket has outputs for all data or for none. -/
theorem matches_bucket (g : Group α) (w : Window) (k l : Fields) (xs ys : List (Series α)) :
    Matches (List.Forall₂ fun _ _ => True) (g.bucket w k xs) (g.bucket w l ys) :=
  Matches.mapM fun n _ =>
    (n.agg.matches_evaluate_evaluate w xs ys).bind fun _ _ _ => .ok trivial

end Outputs

/-! ## Leaves of a group -/

def sites (g : Group α) (w : Window) : List Site := g.nodes.flatMap (·.agg.sites w)

def fits (g : Group α) (w : Window) : Bool := g.nodes.all (·.agg.fits w)

theorem queries_eq (g : Group α) (w : Window) : g.queries w = (g.sites w).map Site.query := by
  unfold queries sites
  rw [List.map_flatMap]
  exact List.flatMap_congr fun n _ => n.agg.queries_eq w

theorem accepts_of_mem_sites {g : Group α} {w : Window} {site : Site} (h : site ∈ g.sites w)
    {s : Series α} (hs : site.leaf.accepts s = true) : g.accepts s = true := by
  obtain ⟨n, hn, hsite⟩ := List.mem_flatMap.mp h
  exact List.any_eq_true.mpr ⟨n, hn, n.agg.accepts_of_mem_sites w site hsite s hs⟩

theorem length_of_mem_sites {g : Group α} {w : Window} (h : g.fits w = true) {site : Site}
    (hs : site ∈ g.sites w) : site.own.length = w.length := by
  obtain ⟨n, hn, hsite⟩ := List.mem_flatMap.mp hs
  exact n.agg.length_of_mem_sites w (List.all_eq_true.mp h n hn) site hsite

end Group

/-! ## Groups of a query -/

namespace Node

mutual

/-- The bare leaves and the groups, in tree order. -/
def parts : Node α → List (Leaf ⊕ Group α)
  | .scan leaf => [.inl leaf]
  | .group g => [.inr g]
  | .block nodes => partsOf nodes

def partsOf : List (Node α) → List (Leaf ⊕ Group α)
  | [] => []
  | node :: nodes => node.parts ++ partsOf nodes

end

mutual

def groups : Node α → List (Group α)
  | .scan _ => []
  | .group g => [g]
  | .block nodes => groupsOf nodes

def groupsOf : List (Node α) → List (Group α)
  | [] => []
  | node :: nodes => node.groups ++ groupsOf nodes

end

mutual

theorem groups_eq_parts : ∀ node : Node α, node.groups = node.parts.filterMap Sum.getRight?
  | .scan _ | .group _ => rfl
  | .block nodes => groupsOf_eq_parts nodes

theorem groupsOf_eq_parts : ∀ nodes : List (Node α),
    groupsOf nodes = (partsOf nodes).filterMap Sum.getRight?
  | [] => rfl
  | node :: nodes => by
    rw [groupsOf, partsOf, List.filterMap_append, groups_eq_parts node, groupsOf_eq_parts nodes]

end

section Outputs

variable [Sample α]

/-- The outputs of a bare leaf or of a group. -/
def evaluatePart (w : Window) (xs : List (Series α)) :
    Leaf ⊕ Group α → Except QueryError (List (Output α))
  | .inl leaf => .ok ((leaf.select w xs).map .raw)
  | .inr g => g.evaluate w xs

mutual

theorem evaluate_eq_parts (w : Window) (xs : List (Series α)) : ∀ node : Node α,
    node.evaluate w xs = (node.parts.mapM (evaluatePart w xs) >>= fun os => .ok os.flatten)
  | .scan leaf => by
    rw [evaluate, parts, mapM_singleton_flatten]
    rfl
  | .group g => by
    rw [evaluate, parts, mapM_singleton_flatten]
    rfl
  | .block nodes => evaluateAll_eq_parts w xs nodes

theorem evaluateAll_eq_parts (w : Window) (xs : List (Series α)) : ∀ nodes : List (Node α),
    evaluateAll nodes w xs = (partsOf nodes).mapM (evaluatePart w xs) >>= fun os => .ok os.flatten
  | [] => rfl
  | node :: nodes => by
    rw [evaluateAll, partsOf, evaluate_eq_parts w xs node, evaluateAll_eq_parts w xs nodes,
      mapM_append_flatten]
    rfl

end

end Outputs

mutual

/-- No window on the way to a leaf leaves 64 bits. -/
def fits : Node α → Window → Bool
  | .scan leaf, w => leaf.shift.fits w
  | .group g, w => g.fits w
  | .block nodes, w => allFit nodes w

def allFit : List (Node α) → Window → Bool
  | [], _ => true
  | node :: nodes, w => node.fits w && allFit nodes w

end

mutual

theorem query_mem_of_mem_groups : ∀ (node : Node α) (w : Window), ∀ g ∈ node.groups,
    ∀ site ∈ g.sites w, site.query ∈ node.queries w
  | .scan _, _, _, hg, _, _ => nomatch hg
  | .group g, w, g', hg, site, hs => by
    rw [groups, List.mem_singleton] at hg
    subst hg
    rw [queries, Group.queries_eq]
    exact List.mem_map_of_mem hs
  | .block nodes, w, g, hg, site, hs => query_mem_of_mem_groupsOf nodes w g hg site hs

theorem query_mem_of_mem_groupsOf : ∀ (nodes : List (Node α)) (w : Window), ∀ g ∈ groupsOf nodes,
    ∀ site ∈ g.sites w, site.query ∈ queriesOf nodes w
  | [], _, _, hg, _, _ => nomatch hg
  | node :: nodes, w, g, hg, site, hs => by
    rw [queriesOf, List.mem_append]
    exact (List.mem_append.mp hg).imp (query_mem_of_mem_groups node w g · site hs)
      (query_mem_of_mem_groupsOf nodes w g · site hs)

end

mutual

theorem fits_of_mem_groups : ∀ (node : Node α) (w : Window), node.fits w = true →
    ∀ g ∈ node.groups, g.fits w = true
  | .scan _, _, _, _, hg => nomatch hg
  | .group g, w, h, g', hg => by
    rw [groups, List.mem_singleton] at hg
    exact hg ▸ h
  | .block nodes, w, h, g, hg => fits_of_mem_groupsOf nodes w h g hg

theorem fits_of_mem_groupsOf : ∀ (nodes : List (Node α)) (w : Window), allFit nodes w = true →
    ∀ g ∈ groupsOf nodes, g.fits w = true
  | [], _, _, _, hg => nomatch hg
  | node :: nodes, w, h, g, hg => by
    obtain ⟨hnode, hnodes⟩ := (Bool.and_eq_true _ _).mp h
    exact (List.mem_append.mp hg).elim (fits_of_mem_groups node w hnode g)
      (fits_of_mem_groupsOf nodes w hnodes g)

end

mutual

theorem length_of_mem_queries : ∀ (node : Node α) (w : Window), node.fits w = true →
    ∀ p ∈ node.queries w, p.window.length = w.length
  | .scan leaf, w, h, p, hp => by
    rw [queries, List.mem_singleton] at hp
    rw [hp]
    exact Shift.length_apply h
  | .group g, w, h, p, hp => by
    rw [queries, Group.queries_eq] at hp
    obtain ⟨site, hs, rfl⟩ := List.mem_map.mp hp
    exact Group.length_of_mem_sites h hs
  | .block nodes, w, h, p, hp => length_of_mem_queriesOf nodes w h p hp

theorem length_of_mem_queriesOf : ∀ (nodes : List (Node α)) (w : Window), allFit nodes w = true →
    ∀ p ∈ queriesOf nodes w, p.window.length = w.length
  | [], _, _, _, hp => nomatch hp
  | node :: nodes, w, h, p, hp => by
    obtain ⟨hnode, hnodes⟩ := (Bool.and_eq_true _ _).mp h
    exact (List.mem_append.mp hp).elim (length_of_mem_queries node w hnode p)
      (length_of_mem_queriesOf nodes w hnodes p)

end

end Node

namespace Query

/-- All groups, in tree order. -/
def groups (q : Query α) : List (Group α) := Node.groupsOf q.nodes

/-- All bare leaves and groups, in tree order. -/
def parts (q : Query α) : List (Leaf ⊕ Group α) := Node.partsOf q.nodes

theorem groups_eq_parts (q : Query α) : q.groups = q.parts.filterMap Sum.getRight? :=
  Node.groupsOf_eq_parts q.nodes

theorem evaluate_eq_parts [Sample α] (q : Query α) (w : Window) (xs : List (Series α)) :
    q.evaluate w xs = (q.parts.mapM (Node.evaluatePart w (distinctBy Series.key xs)) >>= fun os =>
      .ok os.flatten) :=
  Node.evaluateAll_eq_parts w (distinctBy Series.key xs) q.nodes

/-- The outputs of a query, given the series of bare leaves and the buckets of groups. -/
def assemble [Sample α] (q : Query α) (w : Window) (raws : Leaf → List (Series α))
    (buckets : Group α → List (Fields × (Site → List α))) :
    Except QueryError (List (Output α)) := do
  let outputs ← q.parts.mapM fun
    | .inl leaf => .ok ((raws leaf).map .raw)
    | .inr g => g.assemble w (buckets g)
  return outputs.flatten

theorem evaluate_eq_assemble [Sample α] (q : Query α) (w : Window) (xs : List (Series α)) :
    let known := distinctBy Series.key xs
    q.evaluate w xs = q.assemble w (fun leaf => leaf.select w known) fun g =>
      (g.partition known).map fun b => (b.1, fun site => site.values b.2) := by
  intro known
  rw [evaluate_eq_parts]
  refine congrArg (· >>= _) (mapM_congr fun part _ => ?_)
  cases part with
  | inl leaf => rfl
  | inr g => exact g.evaluate_eq_assemble w known

/-- No window on the way to a leaf leaves 64 bits. -/
def fits (q : Query α) (w : Window) : Bool := Node.allFit q.nodes w

theorem query_mem {q : Query α} {w : Window} {g : Group α} (hg : g ∈ q.groups) {site : Site}
    (hs : site ∈ g.sites w) : site.query ∈ q.queries w :=
  Node.query_mem_of_mem_groupsOf q.nodes w g hg site hs

theorem fits_of_mem_groups {q : Query α} {w : Window} (h : q.fits w = true) {g : Group α}
    (hg : g ∈ q.groups) : g.fits w = true :=
  Node.fits_of_mem_groupsOf q.nodes w h g hg

theorem length_of_mem_queries {q : Query α} {w : Window} (h : q.fits w = true) {p : ScanQuery}
    (hp : p ∈ q.queries w) : p.window.length = w.length :=
  Node.length_of_mem_queriesOf q.nodes w h p hp

end Query

end SeriesQuery
