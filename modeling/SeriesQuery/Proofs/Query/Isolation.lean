import SeriesQuery.Proofs.Exact
import SeriesQuery.Proofs.Query.Meaning
import SeriesQuery.Proofs.Query.Operands
import Mathlib.Data.List.Flatten

/-!
# Two queries in one

A query whose root holds two others as blocks scans for both of them, and both read all that was
scanned. Leaves take the series that they asked for and no other, so raw outputs and the values of
groups stay as they are. But a group has a bucket for each key among the scanned series that it
accepts, whoever asked for them: a bucket without a series of its own is idle.

* `Leaf.select_filter`, `Group.bucket_filter` : what foreign series change in a leaf and in a
  bucket: nothing;
* `Beside gs w all own alone out` : the outputs `out` are those of `alone`, up to order, with
  outputs of idle buckets among them;
* `Misfit gs w all own e` : a group that had no bucket alone has one now, and fails in it;
* `Node.besides_evaluate` : one of the two happens to every block;
* `Query.both P Q` : the two queries in one, and `Query.both_spec` what it gives.
-/

namespace SeriesQuery

variable {α : Type}

/-! ## Leaves -/

/-- The series is one that the request asks for. -/
def ScanQuery.reads (p : ScanQuery) (x : Series α) : Bool :=
  x.event = p.event && p.filter.accepts x.fields && x.window = p.window

/-- All series have windows of the length of `w`, with times in them. -/
def Level (w : Window) (xs : List (Series α)) : Prop :=
  ∀ x ∈ xs, x.window.length = w.length ∧ 0 < x.window.length

/-- All that the requests read among the series is marked. -/
def Marks (mine : Series α → Bool) (ps : List ScanQuery) (xs : List (Series α)) : Prop :=
  ∀ p ∈ ps, ∀ x ∈ xs, p.reads x = true → mine x = true

theorem Marks.of_subset {mine : Series α → Bool} {ps qs : List ScanQuery} {xs : List (Series α)}
    (h : Marks mine ps xs) (hs : qs ⊆ ps) : Marks mine qs xs :=
  fun p hp => h p (hs hp)

/-- A leaf takes only what it asked for. -/
theorem Leaf.select_filter {leaf : Leaf} {v w : Window} {xs : List (Series α)}
    (hlen : (leaf.window v).length = w.length) (hxs : Level w xs) {mine : Series α → Bool}
    (hmine : ∀ x ∈ xs, (leaf.query v).reads x = true → mine x = true) :
    leaf.select v (xs.filter mine) = leaf.select v xs := by
  have hlevel : ∀ x ∈ xs, x.window.length = (leaf.window v).length ∧ 0 < x.window.length :=
    fun x hx => ⟨(hxs x hx).1.trans hlen.symm, (hxs x hx).2⟩
  rw [Leaf.select_of_length_eq hlevel,
    Leaf.select_of_length_eq fun x hx => hlevel x (List.mem_filter.mp hx).1, List.filter_filter]
  refine List.filter_congr fun x hx => ?_
  by_cases hreads : (leaf.query v).reads x = true
  · rw [hmine x hx hreads, Bool.and_true]
  · have hnot : (leaf.accepts x && decide (x.window = leaf.window v)) = false :=
      Bool.not_eq_true _ ▸ hreads
    rw [hnot, Bool.false_and]

/-! ## Groups -/

namespace Group

theorem members_filter (g : Group α) (k : Fields) (xs : List (Series α)) (mine : Series α → Bool) :
    g.members k (xs.filter mine) = (g.members k xs).filter mine := by
  unfold members
  rw [List.filter_filter, List.filter_filter]
  exact List.filter_congr fun x _ => Bool.and_comm _ _

theorem members_of_not_mem {g : Group α} {k : Fields} {xs : List (Series α)} (h : k ∉ g.keys xs) :
    g.members k xs = [] := by
  refine List.filter_eq_nil_iff.mpr fun x hx hxk => h ?_
  obtain ⟨hacc, hk⟩ := (Bool.and_eq_true _ _).mp hxk
  exact of_decide_eq_true hk ▸ mem_keys_of_accepts hx hacc

theorem keys_subset (g : Group α) {xs ys : List (Series α)} (h : xs ⊆ ys) :
    g.keys xs ⊆ g.keys ys := by
  intro k hk
  rw [mem_keys_iff] at hk ⊢
  exact hk.imp_right fun ⟨x, hx, hacc, hkey⟩ => ⟨x, h hx, hacc, hkey⟩

theorem keys_sublist_append (g : Group α) (xs ys : List (Series α)) :
    (g.keys xs).Sublist (g.keys (xs ++ ys)) := by
  have hkeys : g.keys (xs ++ ys) =
      ((ys.filter g.accepts).map g.key).foldl (pushDistinct id) (g.keys xs) := by
    rw [keys, List.filter_append, List.map_append, List.foldl_append]
    rfl
  rw [hkeys, foldl_pushDistinct]
  exact List.sublist_append_left _ _

/-- The keys that `all` adds to those of `own`. -/
theorem keys_perm (g : Group α) {all own : List (Series α)} (h : own ⊆ all) :
    (g.keys all).Perm (g.keys own ++ (g.keys all).filter fun k => k ∉ g.keys own) := by
  have hsame : ((g.keys all).filter fun k => k ∈ g.keys own).Perm (g.keys own) := by
    refine (List.perm_ext_iff_of_nodup ((g.nodup_keys all).filter _) (g.nodup_keys own)).mpr ?_
    intro k
    rw [List.mem_filter, decide_eq_true_eq]
    exact ⟨And.right, fun hk => ⟨g.keys_subset h hk, hk⟩⟩
  have hsplit := List.filter_append_perm (fun k => decide (k ∈ g.keys own)) (g.keys all)
  refine hsplit.symm.trans ((hsame.append_right _).trans ?_)
  simp only [decide_not]
  exact List.Perm.refl _

variable [Sample α]

theorem bucket_filter {g : Group α} {w : Window} (hfits : g.fits w = true) {xs : List (Series α)}
    (hxs : Level w xs) {mine : Series α → Bool} (hmine : Marks mine (g.queries w) xs) (k : Fields) :
    g.bucket w k (g.members k (xs.filter mine)) = g.bucket w k (g.members k xs) := by
  refine mapM_congr fun n hn => ?_
  unfold evaluateNamed
  rw [n.agg.evaluate_congr w _ (g.members k xs) fun site hs => ?_]
  have hsite : site ∈ g.sites w := List.mem_flatMap.mpr ⟨n, hn, hs⟩
  have hquery : site.query ∈ g.queries w := queries_eq g w ▸ List.mem_map_of_mem hsite
  rw [members_filter]
  exact Leaf.select_filter (length_of_mem_sites hfits hsite)
    (fun x hx => hxs x (List.mem_filter.mp hx).1)
    fun x hx => hmine _ hquery x (List.mem_filter.mp hx).1

theorem evaluate_ok_of_subset {g : Group α} {w : Window} {xs ys : List (Series α)}
    {os : List (Output α)} (h : g.evaluate w xs = .ok os) (hsub : ys ⊆ xs) :
    ∃ os', g.evaluate w ys = .ok os' := by
  rw [evaluate_eq] at h ⊢
  obtain ⟨oss, hoss, -⟩ := bind_eq_ok.mp h
  refine ⟨_, mapM_flatten fun k hk => ?_⟩
  obtain ⟨_, hk⟩ := exists_of_mapM_ok hoss k (g.keys_subset hsub hk)
  exact (g.matches_bucket w k k _ _).ok_of_ok hk

theorem exists_of_bucket_error {g : Group α} {w : Window} {k : Fields} {xs : List (Series α)}
    {e : QueryError} (h : g.bucket w k xs = .error e) :
    ∃ n ∈ g.nodes, n.agg.evaluate w xs = .error e := by
  obtain ⟨n, hn, h⟩ := exists_of_mapM_error h
  rcases bind_eq_error.mp h with h | ⟨s, -, h⟩
  · exact ⟨n, hn, h⟩
  · contradiction

end Group

/-! ## Idle buckets -/

variable [Sample α]

/-- An output of a bucket that none of the series `own` belongs to, for a key among `all`. It is
computed from no series. -/
def IsIdle (gs : List (Group α)) (w : Window) (all own : List (Series α)) (o : Output α) : Prop :=
  ∃ g ∈ gs, ∃ x ∈ all, g.accepts x = true ∧ g.key x ∉ g.keys own ∧
    ∃ n ∈ g.nodes, Group.evaluateNamed w (g.key x) [] n = .ok o

/-- The outputs `out` are those of `alone` and some of idle buckets. They stand in the same order if
the keys do. -/
structure Beside (gs : List (Group α)) (w : Window) (all own : List (Series α))
    (alone out : List (Output α)) : Prop where
  sublist : (∀ g ∈ gs, (g.keys own).Sublist (g.keys all)) → alone.Sublist out
  perm : ∃ idle, out.Perm (alone ++ idle) ∧ ∀ o ∈ idle, IsIdle gs w all own o

/-- A group without a bucket among the series `own` has one among `all`, and cannot compute it. -/
def Misfit (gs : List (Group α)) (w : Window) (all own : List (Series α)) (e : QueryError) : Prop :=
  ∃ g ∈ gs, g.keys own = [] ∧ (∃ x ∈ all, g.accepts x = true) ∧
    ∃ n ∈ g.nodes, n.agg.evaluate w [] = .error e

/-- What can become of the outputs `alone` among the series `all`. -/
def Besides (gs : List (Group α)) (w : Window) (all own : List (Series α))
    (alone : List (Output α)) : Except QueryError (List (Output α)) → Prop
  | .ok out => Beside gs w all own alone out
  | .error e => Misfit gs w all own e

section Besides

variable {gs hs : List (Group α)} {w : Window} {all own : List (Series α)}

theorem Beside.append {a b c d : List (Output α)} (h : Beside gs w all own a c)
    (h' : Beside hs w all own b d) : Beside (gs ++ hs) w all own (a ++ b) (c ++ d) := by
  refine ⟨fun hkeys => ?_, ?_⟩
  · exact (h.sublist fun g hg => hkeys g (List.mem_append_left _ hg)).append
      (h'.sublist fun g hg => hkeys g (List.mem_append_right _ hg))
  · obtain ⟨i, hi, hidle⟩ := h.perm
    obtain ⟨j, hj, hidle'⟩ := h'.perm
    refine ⟨i ++ j, ?_, fun o ho => ?_⟩
    · have hswap : ((a ++ i) ++ (b ++ j)).Perm ((a ++ b) ++ (i ++ j)) := by
        rw [List.append_assoc, List.append_assoc]
        refine List.Perm.append_left a ?_
        rw [← List.append_assoc, ← List.append_assoc]
        exact List.Perm.append_right j List.perm_append_comm
      exact (hi.append hj).trans hswap
    · rcases List.mem_append.mp ho with ho | ho
      · obtain ⟨g, hg, ho⟩ := hidle o ho
        exact ⟨g, List.mem_append_left _ hg, ho⟩
      · obtain ⟨g, hg, ho⟩ := hidle' o ho
        exact ⟨g, List.mem_append_right _ hg, ho⟩

/-- Without groups all stays as it is. -/
theorem Beside.refl (alone : List (Output α)) : Beside gs w all own alone alone :=
  ⟨fun _ => List.Sublist.refl _, [], by rw [List.append_nil],
    fun _ ho => absurd ho List.not_mem_nil⟩

theorem Misfit.of_subset {e : QueryError} (h : Misfit gs w all own e) (hsub : gs ⊆ hs) :
    Misfit hs w all own e := by
  obtain ⟨g, hg, h⟩ := h
  exact ⟨g, hsub hg, h⟩

theorem Misfit.operandSizes {e : QueryError} (h : Misfit gs w all own e) :
    ∃ m n, e = .operandSizes m n := by
  obtain ⟨_, -, -, -, n, -, he⟩ := h
  exact Agg.operandSizes_of_evaluate_error he

/-- The first of two parts that fails is what fails. -/
theorem Besides.bind {a b : List (Output α)} {x y : Except QueryError (List (Output α))}
    (hx : Besides gs w all own a x) (hy : Besides hs w all own b y) :
    Besides (gs ++ hs) w all own (a ++ b) (do
      let c ← x
      let d ← y
      return c ++ d) := by
  cases x with
  | error e => exact Misfit.of_subset hx (List.subset_append_left _ _)
  | ok c =>
    cases y with
    | error e => exact Misfit.of_subset hy (List.subset_append_right _ _)
    | ok d => exact Beside.append hx hy

end Besides

/-! ## Blocks -/

/-- The buckets of a group among all series: its own ones, and idle ones. -/
theorem Group.besides_evaluate {g : Group α} {w : Window} (hfits : g.fits w = true)
    {all : List (Series α)} (hall : Level w all) {mine : Series α → Bool}
    (hmine : Marks mine (g.queries w) all) {alone : List (Output α)}
    (h : g.evaluate w (all.filter mine) = .ok alone) :
    Besides [g] w all (all.filter mine) alone (g.evaluate w all) := by
  have hbuckets : g.evaluate w all = ((g.keys all).mapM fun k =>
      g.bucket w k (g.members k (all.filter mine))) >>= fun os => .ok os.flatten := by
    rw [g.evaluate_eq w all]
    exact congrArg (· >>= _) (mapM_congr fun k _ => (bucket_filter hfits hall hmine k).symm)
  have hsub : all.filter mine ⊆ all := List.filter_subset_self all
  rw [g.evaluate_eq] at h
  generalize all.filter mine = own at *
  -- Both lists of keys go through the same buckets.
  obtain ⟨os, hos, -⟩ := bind_eq_ok.mp h
  have hown := exists_of_mapM_ok hos
  rw [mapM_flatten hown] at h
  have hnew : ∀ k ∈ g.keys all, k ∉ g.keys own →
      (∃ x ∈ all, g.accepts x = true ∧ g.key x = k) ∧ g.members k own = [] := by
    intro k hk hknot
    refine ⟨?_, members_of_not_mem hknot⟩
    exact (mem_keys_iff.mp hk).resolve_left fun hi => hknot (mem_keys_iff.mpr (Or.inl hi))
  cases hmap : (g.keys all).mapM fun k => g.bucket w k (g.members k own) with
  | error e =>
    rw [hbuckets, hmap]
    obtain ⟨k, hk, hfail⟩ := exists_of_mapM_error hmap
    have hnil : g.keys own = [] := by
      refine List.eq_nil_iff_forall_not_mem.mpr fun l hl => ?_
      obtain ⟨os, hos⟩ := hown l hl
      obtain ⟨_, hok⟩ := (g.matches_bucket w k l (g.members k own) _).ok_of_ok hos
      rw [hfail] at hok
      contradiction
    obtain ⟨⟨x, hx, hacc, -⟩, hmem⟩ := hnew k hk (hnil ▸ List.not_mem_nil)
    rw [hmem] at hfail
    exact ⟨g, List.mem_singleton_self g, hnil, ⟨x, hx, hacc⟩, exists_of_bucket_error hfail⟩
  | ok oss =>
    rw [hbuckets, mapM_flatten (exists_of_mapM_ok hmap), ← Except.ok.inj h]
    have hperm := (g.keys_perm hsub).flatMap_right fun k =>
      (g.bucket w k (g.members k own)).toOption.getD []
    rw [List.flatMap_append] at hperm
    refine ⟨fun hkeys => (hkeys g (List.mem_singleton_self g)).flatMap _, _, hperm, ?_⟩
    intro o ho
    obtain ⟨k, hk, ho⟩ := List.mem_flatMap.mp ho
    obtain ⟨hk, hknot⟩ := List.mem_filter.mp hk
    have hknot : k ∉ g.keys own := of_decide_eq_true hknot
    obtain ⟨⟨x, hx, hacc, rfl⟩, hmem⟩ := hnew k hk hknot
    refine ⟨g, List.mem_singleton_self g, x, hx, hacc, hknot, ?_⟩
    obtain ⟨os, hos⟩ := exists_of_mapM_ok hmap _ hk
    rw [hos] at ho
    rw [hmem] at hos
    exact exists_of_mem_mapM hos ho

namespace Node

mutual

theorem besides_evaluate : ∀ (node : Node α) {w : Window}, node.fits w = true →
    ∀ {all : List (Series α)}, Level w all → ∀ {mine : Series α → Bool},
      Marks mine (node.queries w) all → ∀ {alone : List (Output α)},
        node.evaluate w (all.filter mine) = .ok alone →
          Besides node.groups w all (all.filter mine) alone (node.evaluate w all)
  | .scan leaf, w, hfits, all, hall, mine, hmine, alone, h => by
    have hselect : leaf.select w (all.filter mine) = leaf.select w all :=
      Leaf.select_filter (Shift.length_apply hfits) hall
        (hmine _ (List.mem_singleton_self (leaf.query w)))
    rw [evaluate, hselect] at h
    rw [evaluate, Except.ok.inj h]
    exact Beside.refl alone
  | .group g, w, hfits, all, hall, mine, hmine, alone, h =>
    Group.besides_evaluate hfits hall hmine h
  | .block nodes, w, hfits, all, hall, mine, hmine, alone, h =>
    besides_evaluateAll nodes hfits hall hmine h

theorem besides_evaluateAll : ∀ (nodes : List (Node α)) {w : Window}, allFit nodes w = true →
    ∀ {all : List (Series α)}, Level w all → ∀ {mine : Series α → Bool},
      Marks mine (queriesOf nodes w) all → ∀ {alone : List (Output α)},
        evaluateAll nodes w (all.filter mine) = .ok alone →
          Besides (groupsOf nodes) w all (all.filter mine) alone (evaluateAll nodes w all)
  | [], _, _, _, _, _, _, _, h => Except.ok.inj h ▸ Beside.refl []
  | node :: nodes, w, hfits, all, hall, mine, hmine, alone, h => by
    obtain ⟨hnode, hnodes⟩ := (Bool.and_eq_true _ _).mp hfits
    obtain ⟨a, ha, h⟩ := bind_eq_ok.mp h
    obtain ⟨b, hb, h⟩ := bind_eq_ok.mp h
    have hfirst := besides_evaluate node hnode hall
      (hmine.of_subset (List.subset_append_left _ _)) ha
    have hrest := besides_evaluateAll nodes hnodes hall
      (hmine.of_subset (List.subset_append_right _ _)) hb
    rw [← Except.ok.inj h, evaluateAll, groupsOf]
    exact hfirst.bind hrest

end

mutual

/-- Fewer series do not make a query fail. -/
theorem evaluate_ok_of_subset : ∀ (node : Node α) {w : Window} {xs ys : List (Series α)}
    {os : List (Output α)}, node.evaluate w xs = .ok os → ys ⊆ xs →
      ∃ os', node.evaluate w ys = .ok os'
  | .scan leaf, w, _, ys, _, _, _ => ⟨(leaf.select w ys).map .raw, rfl⟩
  | .group _, _, _, _, _, h, hsub => Group.evaluate_ok_of_subset h hsub
  | .block nodes, _, _, _, _, h, hsub => evaluateAll_ok_of_subset nodes h hsub

theorem evaluateAll_ok_of_subset : ∀ (nodes : List (Node α)) {w : Window}
    {xs ys : List (Series α)} {os : List (Output α)}, evaluateAll nodes w xs = .ok os → ys ⊆ xs →
      ∃ os', evaluateAll nodes w ys = .ok os'
  | [], _, _, _, _, _, _ => ⟨[], rfl⟩
  | node :: nodes, w, xs, ys, _, h, hsub => by
    obtain ⟨a, ha, h⟩ := bind_eq_ok.mp h
    obtain ⟨b, hb, -⟩ := bind_eq_ok.mp h
    obtain ⟨c, hc⟩ := evaluate_ok_of_subset node ha hsub
    obtain ⟨d, hd⟩ := evaluateAll_ok_of_subset nodes hb hsub
    exact ⟨c ++ d, by rw [evaluateAll, hc, hd]; rfl⟩

end

end Node

/-! ## Two blocks -/

namespace Query

/-- A query whose root holds `P` and `Q` as blocks. -/
def both (P Q : Query α) : Query α := ⟨[.block P.nodes, .block Q.nodes]⟩

variable {P Q : Query α} {w : Window}

omit [Sample α] in
theorem queries_both (P Q : Query α) (w : Window) :
    (both P Q).queries w = P.queries w ++ Q.queries w := by
  show P.queries w ++ (Q.queries w ++ []) = _
  rw [List.append_nil]

omit [Sample α] in
theorem fits_both (hP : P.fits w = true) (hQ : Q.fits w = true) : (both P Q).fits w = true := by
  show (P.fits w && (Q.fits w && true)) = true
  rw [hP, hQ]
  rfl

theorem evaluate_both (P Q : Query α) (w : Window) (xs : List (Series α)) :
    (both P Q).evaluate w xs = (do
      let p ← Node.evaluateAll P.nodes w (distinctBy Series.key xs)
      let q ← Node.evaluateAll Q.nodes w (distinctBy Series.key xs)
      return p ++ q) := by
  have h : (both P Q).evaluate w xs = (do
      let p ← Node.evaluateAll P.nodes w (distinctBy Series.key xs)
      let rest ← (do
        let q ← Node.evaluateAll Q.nodes w (distinctBy Series.key xs)
        return q ++ [])
      return p ++ rest) := rfl
  rw [h]
  cases Node.evaluateAll P.nodes w (distinctBy Series.key xs) with
  | error e => rfl
  | ok p =>
    cases Node.evaluateAll Q.nodes w (distinctBy Series.key xs) with
    | error e => rfl
    | ok q =>
      show Except.ok (p ++ (q ++ [])) = Except.ok (p ++ q)
      rw [List.append_nil]

/-- Whether the query asks the store for the series itself. -/
def owns (q : Query α) (s : Store α) (w : Window) (x : Series α) : Bool :=
  x.key ∈ (q.scanned s w).map Series.key

theorem marks_owns {R : Query α} (q : Query α) (s : Store α) (w : Window) :
    Marks (q.owns s w) (q.queries w) (R.scanned s w) := by
  intro p hp x hx hreads
  obtain ⟨⟨hevent, haccepts⟩, hwindow⟩ :
      (x.event = p.event ∧ p.filter.accepts x.fields = true) ∧ x.window = p.window := by
    simpa [ScanQuery.reads] using hreads
  obtain ⟨_, -, -, -, -, hpoint⟩ :=
    ((R.answers_scanned s w).asked x.key).mp (List.mem_map_of_mem hx)
  refine decide_eq_true (((q.answers_scanned s w).asked x.key).mpr ⟨p, hp, ?_⟩)
  exact ⟨hevent.symm, hwindow.symm, haccepts, hpoint⟩

/-- The series of `P` come first, then those that only `Q` asks for. -/
theorem scanned_both (P Q : Query α) (s : Store α) (w : Window) :
    (both P Q).scanned s w =
      P.scanned s w ++ (Q.scanned s w).filter fun x => !P.owns s w x := by
  unfold scanned
  rw [queries_both, Store.answersTo, List.flatMap_append, distinctBy_append]
  refine congrArg _ (List.filter_congr fun x _ => ?_)
  unfold owns scanned
  rw [← decide_not]
  exact decide_eq_decide.mpr (not_congr mem_keys_distinctBy.symm)

theorem owns_of_mem {q : Query α} {s : Store α} {x : Series α} (h : x ∈ q.scanned s w) :
    q.owns s w x = true :=
  decide_eq_true (List.mem_map_of_mem h)

theorem filter_owns_left (P Q : Query α) (s : Store α) (w : Window) :
    ((both P Q).scanned s w).filter (P.owns s w) = P.scanned s w := by
  rw [scanned_both, List.filter_append, List.filter_eq_self.mpr fun x hx => owns_of_mem hx,
    List.filter_filter, List.filter_eq_nil_iff.mpr, List.append_nil]
  intro x _
  cases P.owns s w x <;> decide

theorem filter_owns_right (P Q : Query α) (s : Store α) (w : Window) :
    (((both P Q).scanned s w).filter (Q.owns s w)).Perm (Q.scanned s w) := by
  have hnodup (q : Query α) : (q.scanned s w).Nodup :=
    (q.answers_scanned s w).distinct.of_map _
  refine (List.perm_ext_iff_of_nodup ((hnodup _).filter _) (hnodup Q)).mpr fun x => ?_
  rw [List.mem_filter]
  constructor
  · rintro ⟨hx, hown⟩
    obtain ⟨y, hy, hkey⟩ := List.mem_map.mp (of_decide_eq_true hown)
    have hsame := (((both P Q).answers_scanned s w).sums x hx).eq
      ((Q.answers_scanned s w).sums y hy) hkey.symm
    exact hsame ▸ hy
  · intro hx
    refine ⟨?_, owns_of_mem hx⟩
    obtain ⟨p, hp, hx⟩ := List.mem_flatMap.mp (mem_of_mem_distinctBy hx)
    have hboth : p ∈ (both P Q).queries w := by
      rw [queries_both]
      exact List.mem_append_right _ hp
    exact ((both P Q).answers_scanned s w).complete p hboth x hx

/-- The outputs of one block and then those of the other, unless one of them fails. -/
theorem besides_both {all own own' : List (Series α)} {gs hs : List (Group α)}
    {p q : List (Output α)} {x y : Except QueryError (List (Output α))}
    (hx : Besides gs w all own p x) (hy : Besides hs w all own' q y)
    (hkeys : ∀ g ∈ gs, (g.keys own).Sublist (g.keys all)) :
    let out : Except QueryError (List (Output α)) := do
      let p' ← x
      let q' ← y
      return p' ++ q'
    (∃ p' q', out = .ok (p' ++ q') ∧ p.Sublist p' ∧ Beside gs w all own p p' ∧
        Beside hs w all own' q q') ∨
      ∃ m n, out = .error (.operandSizes m n) ∧
        (Misfit gs w all own (.operandSizes m n) ∨ Misfit hs w all own' (.operandSizes m n)) := by
  intro out
  cases x with
  | error e =>
    obtain ⟨m, n, rfl⟩ := Misfit.operandSizes hx
    exact Or.inr ⟨m, n, rfl, Or.inl hx⟩
  | ok p' =>
    cases y with
    | error e =>
      obtain ⟨m, n, rfl⟩ := Misfit.operandSizes hy
      exact Or.inr ⟨m, n, rfl, Or.inr hy⟩
    | ok q' => exact Or.inl ⟨p', q', rfl, Beside.sublist hx hkeys, hx, hy⟩

/-- **Two queries in one. If both succeed alone, they succeed together unless a group that had no
bucket alone cannot compute the one it now has. The outputs are those of the first in their order
and then those of the second, which may read its own series in another order; among them stand only
outputs of idle buckets.** -/
theorem both_spec {options : QueryOptions} (hmax : options.maxScans = 0) (hP : P.fits w = true)
    (hQ : Q.fits w = true) (s : Store α) {p q : List (Output α)}
    (hp : P.outputsFrom options s w = .ok p) (hq : Q.outputsFrom options s w = .ok q) :
    let all := (both P Q).scanned s w
    let own := all.filter (Q.owns s w)
    own.Perm (Q.scanned s w) ∧
      ∃ alone, Q.evaluate w own = .ok alone ∧ (own = Q.scanned s w → alone = q) ∧
        ((∃ p' q', (both P Q).outputsFrom options s w = .ok (p' ++ q') ∧ p.Sublist p' ∧
            Beside P.groups w all (P.scanned s w) p p' ∧ Beside Q.groups w all own alone q') ∨
          ∃ m n, (both P Q).outputsFrom options s w = .error (.operandSizes m n) ∧
            (Misfit P.groups w all (P.scanned s w) (.operandSizes m n) ∨
              Misfit Q.groups w all own (.operandSizes m n))) := by
  intro all own
  have hposP := step_pos_of_outputsFrom (Or.inl hmax) hp
  have hposQ := step_pos_of_outputsFrom (Or.inl hmax) hq
  have hpos : ∀ r ∈ (both P Q).queries w, 0 < r.window.step := by
    intro r hr
    rw [queries_both] at hr
    exact (List.mem_append.mp hr).elim (hposP r) (hposQ r)
  have hlevel : Level w all := fun x hx => length_of_mem_scanned (fits_both hP hQ) hx
  have hperm : own.Perm (Q.scanned s w) := filter_owns_right P Q s w
  -- The own series of both, without repetitions.
  have hdistinct : distinctBy Series.key own = own :=
    distinctBy_of_nodup (((both P Q).answers_scanned s w).distinct.sublist
      (List.filter_sublist.map _))
  rw [outputsFrom_eq hposP (Or.inl hmax), evaluate, distinctBy_scanned] at hp
  rw [outputsFrom_eq hposQ (Or.inl hmax), evaluate, distinctBy_scanned] at hq
  obtain ⟨alone, halone⟩ := Node.evaluateAll_ok_of_subset Q.nodes hq hperm.subset
  refine ⟨hperm, alone, by rw [evaluate, hdistinct, halone], fun heq => ?_, ?_⟩
  · rw [heq, hq] at halone
    exact (Except.ok.inj halone).symm
  have hfirst := Node.besides_evaluateAll P.nodes hP hlevel (marks_owns P s w)
    ((filter_owns_left P Q s w).symm ▸ hp)
  have hsecond := Node.besides_evaluateAll Q.nodes hQ hlevel (marks_owns Q s w) halone
  rw [filter_owns_left] at hfirst
  rw [outputsFrom_eq hpos (Or.inl hmax), evaluate_both, distinctBy_scanned]
  refine besides_both hfirst hsecond fun g _ => ?_
  show (g.keys (P.scanned s w)).Sublist (g.keys ((both P Q).scanned s w))
  rw [scanned_both]
  exact g.keys_sublist_append _ _

/-- Sums by size, the second one looking a second back. -/
theorem both_spec_sums :
    let w : Window := ⟨10000, 12000, 1000⟩
    let s : Store Exact :=
      (Store.empty.insert "foo" (.ofPairs [("size", "small")]) 10500 (.finite 1)).insert
        "foo" (.ofPairs [("size", "big")]) 9500 (.finite 2)
    let sums (name : String) (shift : Shift) : Query Exact :=
      ⟨[.group ⟨[⟨name, .scan ⟨"foo", .empty, shift⟩ .sum⟩], ["size"], "", .sum⟩]⟩
    let P := sums "a" {}
    let Q := sums "b" { offset := -1000 }
    let all := (both P Q).scanned s w
    let own := all.filter (Q.owns s w)
    ∃ p q, P.fits w = true ∧ Q.fits w = true ∧ P.outputsFrom {} s w = .ok p ∧
      Q.outputsFrom {} s w = .ok q ∧ own.Perm (Q.scanned s w) ∧
      ∃ alone, Q.evaluate w own = .ok alone ∧ (own = Q.scanned s w → alone = q) ∧
        ((∃ p' q', (both P Q).outputsFrom {} s w = .ok (p' ++ q') ∧ p.Sublist p' ∧
            Beside P.groups w all (P.scanned s w) p p' ∧ Beside Q.groups w all own alone q') ∨
          ∃ m n, (both P Q).outputsFrom {} s w = .error (.operandSizes m n) ∧
            (Misfit P.groups w all (P.scanned s w) (.operandSizes m n) ∨
              Misfit Q.groups w all own (.operandSizes m n))) := by
  intro w s sums P Q all own
  have hsuccess : (P.outputsFrom {} s w).isOk = true ∧ (Q.outputsFrom {} s w).isOk = true := by
    decide +kernel
  cases hp : P.outputsFrom {} s w with
  | error e =>
    rw [hp] at hsuccess
    exact absurd hsuccess.1 Bool.false_ne_true
  | ok p =>
    cases hq : Q.outputsFrom {} s w with
    | error e =>
      rw [hq] at hsuccess
      exact absurd hsuccess.2 Bool.false_ne_true
    | ok q =>
      have hboth := both_spec (show ({} : QueryOptions).maxScans = 0 from rfl) (w := w)
        (P := P) (Q := Q) (by decide) (by decide) s hp hq
      exact ⟨p, q, by decide, by decide, rfl, rfl, hboth⟩

/-- Each of the two queries in one reports what it reports alone. -/
def Isolated (P Q : Query α) (s : Store α) (w : Window) : Prop :=
  (both P Q).outputsFrom {} s w = do
    return (← P.outputsFrom {} s w) ++ (← Q.outputsFrom {} s w)

instance [DecidableEq α] (P Q : Query α) (s : Store α) (w : Window) :
    Decidable (Isolated P Q s w) :=
  inferInstanceAs (Decidable (_ = _))

/-- The ways in which two queries that succeed alone are not isolated: an idle bucket, the order of
the series that both ask for, a bucket that cannot be computed, and windows cut off at the end of
time, one of which then lies inside the other. -/
theorem not_isolated :
    let small := Fields.ofPairs [("size", "small")]
    let big := Fields.ofPairs [("size", "big")]
    let stored (t u : Int) : Store Exact :=
      (Store.empty.insert "foo" small t (.finite 1)).insert "foo" big u (.finite 2)
    let sums (name : String) (labels : List String) (shift : Shift) : Query Exact :=
      ⟨[.group ⟨[⟨name, .scan ⟨"foo", .empty, shift⟩ .sum⟩], labels, "", .sum⟩]⟩
    let raw (filter : Filter) (shift : Shift) : Query Exact := ⟨[.scan ⟨"foo", filter, shift⟩]⟩
    let coarse : Query Exact := ⟨[.group ⟨[⟨"x", .op (.scan ⟨"foo", .empty, {}⟩ .sum)
      (.scan ⟨"foo", .empty, { step := some 5000 }⟩ .sum) .add⟩], ["size"], "", .sum⟩]⟩
    let fails (P Q : Query Exact) (s : Store Exact) (w : Window) : Prop :=
      0 < w.step ∧ (P.outputsFrom {} s w).isOk = true ∧ (Q.outputsFrom {} s w).isOk = true ∧
        ¬Isolated P Q s w
    fails (sums "a" ["size"] {}) (sums "b" ["size"] { offset := -1000 }) (stored 10500 9500)
        ⟨10000, 12000, 1000⟩ ∧
      fails (raw (Filter.empty.withLabel "size" (.equals "big")) {}) (raw .empty {}) (stored 0 0)
        ⟨0, 1000, 1000⟩ ∧
      fails coarse (raw .empty { offset := -3000 }) (stored 7500 7500) ⟨10000, 20000, 1000⟩ ∧
      fails (sums "a" [] {}) (sums "b" [] { offset := 1000 })
        (stored 9223372036854774900 9223372036854774900)
        ⟨9223372036854773807, 9223372036854775807, 1000⟩ := by
  decide +kernel

end Query

end SeriesQuery
