import SeriesQuery.Proofs.Query.Reordering

/-!
# Buckets of a group

Series are put into buckets one by one, each into the bucket of its key or into a new one. What
comes of it is a partition of the series that the group reads.

* `Group.Splits g xs buckets` : what makes `buckets` the partition of `xs` by the keys of `g`;
* `Group.selected_perm` : what a leaf takes from the buckets, taken together, is what it takes from
  all that is read;
* `Group.EmitsAll g w buckets os` : one output for each bucket and aggregate, bucket by bucket;
* `Group.buckets_spec` : all of this for what a group is evaluated over.
-/

namespace SeriesQuery

variable {α : Type}

namespace Group

/-! ## Keys -/

theorem nodup_initialKeys (g : Group α) : g.initialKeys.Nodup := by
  unfold initialKeys
  split
  · exact List.nodup_singleton _
  · exact List.nodup_nil

theorem keys_eq_unrepeated (g : Group α) (xs : List (Series α)) :
    g.keys xs = unrepeated (g.initialKeys ++ (xs.filter g.accepts).map g.key) := by
  have hinitial : distinctBy id g.initialKeys = g.initialKeys := by
    refine distinctBy_of_nodup ?_
    rw [List.map_id]
    exact g.nodup_initialKeys
  rw [← distinct_eq_unrepeated, distinctBy, List.foldl_append, ← distinctBy, hinitial, keys]

theorem key_of_labels_nil {g : Group α} (h : g.labels = []) (s : Series α) : g.key s = .empty := by
  rw [key, h]
  rfl

theorem initialKeys_of_labels_nil {g : Group α} (h : g.labels = []) : g.initialKeys = [.empty] := by
  rw [initialKeys, h]
  rfl

theorem keys_of_labels_nil {g : Group α} (h : g.labels = []) (xs : List (Series α)) :
    g.keys xs = [.empty] := by
  unfold keys
  rw [initialKeys_of_labels_nil h]
  induction xs.filter g.accepts with
  | nil => rfl
  | cons s ss ih =>
    rw [List.map_cons, List.foldl_cons, key_of_labels_nil h]
    exact ih

/-! ## Members -/

theorem members_eq_filter (g : Group α) (k : Fields) (xs : List (Series α)) :
    g.members k xs = (xs.filter g.accepts).filter (g.key · = k) := by
  rw [members, List.filter_filter]
  refine List.filter_congr fun s _ => ?_
  rw [Bool.and_comm]

theorem members_of_labels_nil {g : Group α} (h : g.labels = []) (xs : List (Series α)) :
    g.members .empty xs = xs.filter g.accepts := by
  rw [members_eq_filter, List.filter_eq_self]
  intro s _
  simp [key_of_labels_nil h]

theorem partition_of_labels_nil {g : Group α} (h : g.labels = []) (xs : List (Series α)) :
    g.partition xs = [(.empty, xs.filter g.accepts)] := by
  rw [partition_eq, keys_of_labels_nil h, List.map_singleton, members_of_labels_nil h]

/-- Nothing is lost and nothing is put twice. -/
theorem flatMap_partition_perm (g : Group α) (xs : List (Series α)) :
    ((g.partition xs).flatMap Prod.snd).Perm (xs.filter g.accepts) := by
  rw [partition_eq, List.flatMap_map]
  simp only [members_eq_filter]
  refine flatMap_filter_perm (g.nodup_keys xs) fun s hs => ?_
  obtain ⟨hs, haccepts⟩ := List.mem_filter.mp hs
  exact mem_keys_of_accepts hs haccepts

/-! ## Partitions -/

/-- `buckets` is the partition of `xs` by the keys of `g`. -/
structure Splits (g : Group α) (xs : List (Series α)) (buckets : List (Fields × List (Series α))) :
    Prop where
  /-- Buckets stand in the order in which their keys are first seen; without labels the one of the
  empty key is there from the start. -/
  keys : buckets.map Prod.fst = unrepeated (g.initialKeys ++ (xs.filter g.accepts).map g.key)
  /-- No two buckets have one key. -/
  distinct : (buckets.map Prod.fst).Nodup
  /-- A bucket holds what is read and has its key, in the order of the input. -/
  members : ∀ b ∈ buckets, b.2 = xs.filter fun s => g.accepts s && g.key s = b.1
  /-- Each series that is read is in one bucket. -/
  unique : ∀ s ∈ xs, g.accepts s = true → ∃! b, b ∈ buckets ∧ s ∈ b.2
  /-- All of them are in buckets as often as they are in the input, and nothing else is. -/
  all : (buckets.flatMap Prod.snd).Perm (xs.filter g.accepts)
  /-- Without labels there is one bucket, whether or not anything is read. -/
  whole : g.labels = [] → buckets = [(.empty, xs.filter g.accepts)]

theorem splits_partition (g : Group α) (xs : List (Series α)) : g.Splits xs (g.partition xs) := by
  have hkeys : (g.partition xs).map Prod.fst = g.keys xs := by
    rw [partition_eq, List.map_map]
    exact List.map_id _
  refine ⟨hkeys.trans (g.keys_eq_unrepeated xs), hkeys ▸ g.nodup_keys xs,
    fun b hb => (mem_partition_iff.mp hb).2, fun s hs haccepts => ?_, g.flatMap_partition_perm xs,
    fun h => partition_of_labels_nil h xs⟩
  have hmember : s ∈ g.members (g.key s) xs := by simp [members, hs, haccepts]
  refine ⟨(g.key s, g.members (g.key s) xs),
    ⟨mem_partition_iff.mpr ⟨mem_keys_of_accepts hs haccepts, rfl⟩, hmember⟩, ?_⟩
  rintro ⟨k, ss⟩ ⟨hb, hsb⟩
  obtain ⟨-, rfl⟩ : k ∈ g.keys xs ∧ ss = g.members k xs := mem_partition_iff.mp hb
  obtain ⟨-, -, rfl⟩ : s ∈ xs ∧ g.accepts s = true ∧ g.key s = k := by
    simpa [members] using hsb
  rfl

/-! ## What leaves take -/

theorem select_flatMap (leaf : Leaf) (w : Window) {β : Type} (f : β → List (Series α))
    (bs : List β) : leaf.select w (bs.flatMap f) = bs.flatMap fun b => leaf.select w (f b) := by
  unfold Leaf.select
  rw [List.filter_flatMap, List.filterMap_flatMap]

/-- Taken bucket by bucket, or at once from all that is read. -/
theorem selected_perm (g : Group α) (xs : List (Series α)) (leaf : Leaf) (w : Window) :
    ((g.partition xs).flatMap fun b => leaf.select w b.2).Perm
      (leaf.select w (xs.filter g.accepts)) := by
  rw [← select_flatMap]
  exact Leaf.select_perm leaf w (g.flatMap_partition_perm xs)

theorem sum_length_select (g : Group α) (xs : List (Series α)) (leaf : Leaf) (w : Window) :
    ((g.partition xs).map fun b => (leaf.select w b.2).length).sum =
      (leaf.select w (xs.filter g.accepts)).length := by
  rw [← (g.selected_perm xs leaf w).length_eq, List.length_flatMap]

/-- What no aggregate reads makes no difference to a leaf of the group. -/
theorem select_accepted {g : Group α} {w : Window} {site : Site} (h : site ∈ g.sites w)
    (xs : List (Series α)) : site.select (xs.filter g.accepts) = site.select xs := by
  unfold Site.select Leaf.select
  rw [List.filter_filter]
  congr 1
  refine List.filter_congr fun s _ => ?_
  by_cases hs : site.leaf.accepts s = true
  · rw [hs, accepts_of_mem_sites h hs]
    rfl
  · rw [Bool.eq_false_iff.mpr hs, Bool.false_and]

/-! ## Outputs -/

section Outputs

variable [Sample α]

/-- One output for each bucket and each aggregate: the value of the aggregate over the bucket, with
its name, the key of the bucket and the window asked for. -/
def EmitsAll (g : Group α) (w : Window) (buckets : List (Fields × List (Series α)))
    (os : List (Output α)) : Prop :=
  List.Forall₂ (fun (x : (Fields × List (Series α)) × Named α) o =>
      ∃ s, x.2.agg.evaluate w x.1.2 = .ok s ∧
        o = .computed { s with event := x.2.name, fields := x.1.1, window := w })
    (buckets.flatMap fun b => g.nodes.map (b, ·)) os

theorem emitsAll_of_mapM {g : Group α} {w : Window} {buckets : List (Fields × List (Series α))}
    {oss : List (List (Output α))}
    (h : (buckets.mapM fun b => g.nodes.mapM (evaluateNamed w b.1 b.2)) = .ok oss) :
    g.EmitsAll w buckets oss.flatten := by
  -- Bucket by bucket; the outputs of one are those of its aggregates in turn.
  have hbuckets := mapM_ok_iff.mp h
  clear h
  induction hbuckets with
  | nil => exact .nil
  | cons hb _ ih =>
    refine List.rel_append (List.forall₂_map_left_iff.mpr ?_) ih
    refine (mapM_ok_iff.mp hb).imp fun n o hn => ?_
    obtain ⟨s, hs, hn⟩ := bind_eq_ok.mp hn
    exact ⟨s, hs, (Except.ok.inj hn).symm⟩

theorem emitsAll_of_evaluate {g : Group α} {w : Window} {xs : List (Series α)}
    {os : List (Output α)} (h : g.evaluate w xs = .ok os) : g.EmitsAll w (g.partition xs) os := by
  obtain ⟨oss, hoss, h⟩ := bind_eq_ok.mp h
  rw [← Except.ok.inj h]
  exact emitsAll_of_mapM hoss

/-- **Grouping is a partition. The series that some aggregate reads are put into buckets by their
keys, each into exactly one, and nothing else is put anywhere; keys stand in the order in which they
are first seen and members in the order of the input, and without labels there is one bucket in any
case. If a group has outputs there is one for each bucket and aggregate, bucket by bucket. The
numbers of series that a leaf takes from the buckets add up to what it takes from the one bucket
that there is without labels; and for a leaf of the group this is what it takes from all
series.** -/
theorem buckets_spec (g : Group α) (xs : List (Series α)) :
    g.Splits xs (g.partition xs) ∧
      (∀ (w : Window) (os : List (Output α)), g.evaluate w xs = .ok os →
        g.EmitsAll w (g.partition xs) os) ∧
      ∃ all, { g with labels := [] }.partition xs = [(.empty, all)] ∧
        (∀ (leaf : Leaf) (w : Window),
          ((g.partition xs).map fun b => (leaf.select w b.2).length).sum =
            (leaf.select w all).length) ∧
        ∀ (w : Window), ∀ site ∈ g.sites w, site.select all = site.select xs := by
  refine ⟨g.splits_partition xs, fun w os h => emitsAll_of_evaluate h, xs.filter g.accepts, ?_, ?_,
    ?_⟩
  · exact partition_of_labels_nil (g := { g with labels := [] }) rfl xs
  · exact fun leaf w => g.sum_length_select xs leaf w
  · exact fun w site hsite => select_accepted hsite xs

/-- Two series of one size, one without a size and one of another event, summed by size. -/
theorem buckets_spec_sizes :
    let w : Window := ⟨0, 1000, 1000⟩
    let series (event : String) (labels : List (String × String)) (v : Rat) : Series Exact :=
      ⟨event, .ofPairs labels, w, ⟨[⟨0, .finite v⟩]⟩⟩
    let xs := [series "foo" [("size", "m"), ("color", "blue")] 1, series "bar" [("size", "m")] 100,
      series "foo" [] 2, series "foo" [("color", "red"), ("size", "m")] 4]
    let foo : Leaf := ⟨"foo", .empty, {}⟩
    let g : Group Exact := ⟨[⟨"total", .scan foo .sum⟩], ["size"], "none", .sum⟩
    (g.partition xs).map Prod.fst = [.ofPairs [("size", "m")], .ofPairs [("size", "none")]] ∧
      g.Splits xs (g.partition xs) ∧
      (∃ os, g.evaluate w xs = .ok os ∧ os.length = 2 ∧ g.EmitsAll w (g.partition xs) os) ∧
      ((g.partition xs).map fun b => (foo.select w b.2).length).sum = (foo.select w xs).length := by
  intro w series xs foo g
  obtain ⟨hsplits, hemits, all, -, hsum, hleaves⟩ := buckets_spec g xs
  have hvalue : (g.evaluate w xs).toOption.any (fun os => os.length = 2) = true := by
    decide +kernel
  obtain ⟨os, hos, hlen⟩ := exists_of_toOption_any hvalue
  have hall : foo.select w all = foo.select w xs :=
    hleaves w ⟨foo, .sum, w⟩ (List.mem_singleton_self _)
  refine ⟨by decide +kernel, hsplits, ⟨os, hos, of_decide_eq_true hlen, hemits w os hos⟩, ?_⟩
  rw [hsum, hall]

end Outputs

end Group

end SeriesQuery
