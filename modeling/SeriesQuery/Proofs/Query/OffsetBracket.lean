import SeriesQuery.Proofs.Query.Translation

/-!
# Offset brackets

A bracket behind an aggregate is added to the shifts that come first on the way down: those of zips,
and of the leaves and literals that no zip holds. Below these nothing changes but the window, so the
aggregate with the bracket is to a window what the aggregate itself is to the moved window.

* `Agg.Bracketed d a b` : `b` is `a` with the offset `d` behind it, node by node; this is what
  `Agg.shiftOffset?` computes (`Agg.bracketed_of_shiftOffset?`, `Agg.Bracketed.shiftOffset?`);
* `Agg.outerShifts a` : the shifts that a bracket is added to, and `Agg.Unsaturated a d w` that no
  sum with them leaves 64 bits over `w`;
* `Bracketed.queries_eq`, `Bracketed.evaluate_eq` : the aggregate over the moved window;
* `Agg.shiftOffsets?` : one bracket behind the other, and `Bracketed.trans` that they add up;
* `Agg.bracket_spec` : all of this for `Agg.shiftOffset?`.
-/

namespace SeriesQuery

variable {α : Type}

/-! ## Shifts -/

namespace Shift

variable {s t u : Shift} {d e : Int} {w : Window}

theorem addOffset?_eq_some_iff :
    s.addOffset? d = some t ↔ Time.fits (s.offset + d) = true ∧ s.translate d = t := by
  unfold addOffset? Time.checked? translate
  split <;> simp_all

theorem addOffset?_trans (h : s.addOffset? d = some t) (h' : t.addOffset? e = some u) :
    s.addOffset? (d + e) = some u := by
  obtain ⟨-, rfl⟩ := addOffset?_eq_some_iff.mp h
  obtain ⟨hfits, rfl⟩ := addOffset?_eq_some_iff.mp h'
  refine addOffset?_eq_some_iff.mpr ?_
  unfold translate at hfits ⊢
  rw [← Int.add_assoc]
  exact ⟨hfits, rfl⟩

/-- Moving the window by the sum is moving the moved window. -/
theorem apply_addOffset? (h : s.addOffset? d = some t) (hd : fits { offset := d } w = true)
    (hs : s.fits (w.shift d) = true) : t.apply w = s.apply (w.shift d) := by
  obtain ⟨-, rfl⟩ := addOffset?_eq_some_iff.mp h
  have hmoved : w.shift d = ⟨w.start + d, w.stop + d, w.step⟩ := apply_eq hd
  have hsum : (s.translate d).fits w = true := by
    rw [hmoved] at hs
    unfold fits at hs ⊢
    dsimp only [translate] at hs ⊢
    rwa [Int.add_comm s.offset, ← Int.add_assoc, ← Int.add_assoc]
  have hfree : Unclipped d w [(s.translate d, w)] [(s, w.shift d)] :=
    ⟨hd, List.forall_mem_singleton.mpr hsum, List.forall_mem_singleton.mpr hs⟩
  exact hfree.apply_translate

end Shift

namespace Agg

/-! ## Brackets node by node -/

/-- The second aggregate is the first one with the offset `d` behind it. -/
inductive Bracketed (d : Int) : Agg α → Agg α → Prop where
  | scan {leaf : Leaf} {f : Reduction} {s : Shift} (h : leaf.shift.addOffset? d = some s) :
    Bracketed d (.scan leaf f) (.scan { leaf with shift := s } f)
  | zip {parts : List (Agg α)} {f : Reduction} {shift s : Shift}
    (h : shift.addOffset? d = some s) : Bracketed d (.zip parts f shift) (.zip parts f s)
  | collapse {a b : Agg α} {f : Reduction} (h : Bracketed d a b) :
    Bracketed d (.collapse a f) (.collapse b f)
  | op {x y u v : Agg α} {f : Merger} (hx : Bracketed d x u) (hy : Bracketed d y v) :
    Bracketed d (.op x y f) (.op u v f)
  | value {v : α} {shift s : Shift} (h : shift.addOffset? d = some s) :
    Bracketed d (.value v shift) (.value v s)

theorem bracketed_of_shiftOffset? {d : Int} : ∀ {a b : Agg α},
    a.shiftOffset? d = some b → Bracketed d a b
  | .scan _ _, _, h | .zip _ _ _, _, h | .value _ _, _, h => by
    obtain ⟨s, hs, rfl⟩ := Option.map_eq_some_iff.mp h
    constructor
    exact hs
  | .collapse part f, _, h => by
    obtain ⟨p, hp, rfl⟩ := Option.map_eq_some_iff.mp h
    exact .collapse (bracketed_of_shiftOffset? hp)
  | .op x y f, _, h => by
    obtain ⟨u, hu, h⟩ := Option.bind_eq_some_iff.mp h
    obtain ⟨v, hv, h⟩ := Option.bind_eq_some_iff.mp h
    rw [← Option.some.inj h]
    exact .op (bracketed_of_shiftOffset? hu) (bracketed_of_shiftOffset? hv)

theorem Bracketed.shiftOffset? {d : Int} {a b : Agg α} (h : Bracketed d a b) :
    a.shiftOffset? d = some b := by
  induction h with
  | scan h | zip h | value h => exact Option.map_eq_some_iff.mpr ⟨_, h, rfl⟩
  | collapse _ ih => exact Option.map_eq_some_iff.mpr ⟨_, ih, rfl⟩
  | op _ _ ihx ihy =>
    exact Option.bind_eq_some_iff.mpr ⟨_, ihx, Option.bind_eq_some_iff.mpr ⟨_, ihy, rfl⟩⟩

/-- One bracket behind the other adds up. -/
theorem Bracketed.trans {d e : Int} {a b c : Agg α} (h : Bracketed d a b) (h' : Bracketed e b c) :
    Bracketed (d + e) a c := by
  induction h generalizing c with
  | scan h => cases h' with | scan h' => exact .scan (Shift.addOffset?_trans h h')
  | zip h => cases h' with | zip h' => exact .zip (Shift.addOffset?_trans h h')
  | value h => cases h' with | value h' => exact .value (Shift.addOffset?_trans h h')
  | collapse _ ih => cases h' with | collapse h' => exact .collapse (ih h')
  | op _ _ ihx ihy => cases h' with | op hx hy => exact .op (ihx hx) (ihy hy)

/-! ## What is read -/

/-- The shifts that a bracket is added to: the first ones on the way down. -/
def outerShifts : Agg α → List Shift
  | .scan leaf _ => [leaf.shift]
  | .zip _ _ shift => [shift]
  | .collapse part _ => part.outerShifts
  | .op x y _ => x.outerShifts ++ y.outerShifts
  | .value _ shift => [shift]

/-- Moved by `d`, and from there by each shift that `d` is added to, the window stays within 64
bits. -/
structure Unsaturated (a : Agg α) (d : Int) (w : Window) : Prop where
  window : Shift.fits { offset := d } w = true
  shifts : ∀ s ∈ a.outerShifts, s.fits (w.shift d) = true

namespace Unsaturated

variable {x y : Agg α} {f : Merger} {d : Int} {w : Window}

theorem part {g : Reduction} (h : (collapse x g).Unsaturated d w) : x.Unsaturated d w :=
  ⟨h.window, h.shifts⟩

theorem left (h : (op x y f).Unsaturated d w) : x.Unsaturated d w :=
  ⟨h.window, fun s hs => h.shifts s (List.mem_append_left _ hs)⟩

theorem right (h : (op x y f).Unsaturated d w) : y.Unsaturated d w :=
  ⟨h.window, fun s hs => h.shifts s (List.mem_append_right _ hs)⟩

theorem apply_eq {a : Agg α} {s t : Shift} (h : a.Unsaturated d w) (hs : s ∈ a.outerShifts)
    (ht : s.addOffset? d = some t) : t.apply w = s.apply (w.shift d) :=
  Shift.apply_addOffset? ht h.window (h.shifts s hs)

end Unsaturated

namespace Bracketed

variable {d : Int} {a b : Agg α}

theorem accepts_eq (h : Bracketed d a b) (s : Series α) : b.accepts s = a.accepts s := by
  induction h with
  | scan | zip | value => rfl
  | collapse _ ih => exact ih
  | op _ _ ihx ihy => rw [accepts, accepts, ihx, ihy]

theorem queries_eq (h : Bracketed d a b) {w : Window} (hw : a.Unsaturated d w) :
    b.queries w = a.queries (w.shift d) := by
  induction h with
  | scan h =>
    have hown := hw.apply_eq (List.mem_singleton_self _) h
    simp only [queries, Leaf.query, Leaf.window, hown]
  | zip h =>
    have hown := hw.apply_eq (List.mem_singleton_self _) h
    simp only [queries, hown]
  | collapse _ ih => exact ih hw.part
  | op _ _ ihx ihy => rw [queries, queries, ihx hw.left, ihy hw.right]
  | value => rfl

theorem evaluate_eq [Sample α] (h : Bracketed d a b) {w : Window} (hw : a.Unsaturated d w)
    (xs : List (Series α)) : b.evaluate w xs = a.evaluate (w.shift d) xs := by
  induction h with
  | @scan leaf f s h =>
    have hown : ({ leaf with shift := s } : Leaf).window w = leaf.window (w.shift d) :=
      hw.apply_eq (List.mem_singleton_self _) h
    rw [evaluate, evaluate, evaluateLeaf, evaluateLeaf, Leaf.select, Leaf.select, hown]
    rfl
  | @zip parts f shift s h =>
    have hown : s.apply w = shift.apply (w.shift d) := hw.apply_eq (List.mem_singleton_self _) h
    -- One part alone stands for the zip, so the three numbers of parts are evaluated apart.
    match parts with
    | [] | [_] | _ :: _ :: _ => simp only [evaluate, hown]
  | collapse _ ih => rw [evaluate, evaluate, ih hw.part]
  | op _ _ ihx ihy => rw [evaluate, evaluate, ihx hw.left, ihy hw.right]
  | value h =>
    have hown := hw.apply_eq (List.mem_singleton_self _) h
    simp only [evaluate, hown]

end Bracketed

/-! ## Several brackets -/

/-- Offsets, one behind the other. -/
def shiftOffsets? (a : Agg α) (ds : List Int) : Option (Agg α) := ds.foldlM shiftOffset? a

theorem Bracketed.shiftOffsets? {d : Int} {a b c : Agg α} {ds : List Int} (h : Bracketed d a b)
    (hc : b.shiftOffsets? ds = some c) : Bracketed (d + ds.sum) a c := by
  induction ds generalizing d b with
  | nil =>
    rw [← Option.some.inj hc, List.sum_nil, Int.add_zero]
    exact h
  | cons e ds ih =>
    obtain ⟨b', hb', hc⟩ := Option.bind_eq_some_iff.mp hc
    rw [List.sum_cons, ← Int.add_assoc]
    exact ih (h.trans (bracketed_of_shiftOffset? hb')) hc

theorem bracketed_of_shiftOffsets? {a c : Agg α} {ds : List Int} (hne : ds ≠ [])
    (h : a.shiftOffsets? ds = some c) : Bracketed ds.sum a c := by
  obtain ⟨d, ds, rfl⟩ := List.exists_cons_of_ne_nil hne
  obtain ⟨b, hb, hc⟩ := Option.bind_eq_some_iff.mp h
  rw [List.sum_cons]
  exact (bracketed_of_shiftOffset? hb).shiftOffsets? hc

/-- **An offset bracket moves the window of an aggregate. With the offset `d` behind it the
aggregate reads the same series as before; and where no sum of offsets leaves 64 bits, it asks over
a window for what it asked for over the window moved by `d`, and has the same value or the same
error as there, the window and the times of the value included. So several offsets are one, their
sum, in whatever order they stand.** -/
theorem bracket_spec [Sample α] {a b : Agg α} {d : Int} (h : a.shiftOffset? d = some b) :
    (∀ s : Series α, b.accepts s = a.accepts s) ∧
      (∀ w, a.Unsaturated d w → b.queries w = a.queries (w.shift d) ∧
        ∀ xs : List (Series α), b.evaluate w xs = a.evaluate (w.shift d) xs) ∧
      ∀ ds c, b.shiftOffsets? ds = some c → a.shiftOffset? (d + ds.sum) = some c ∧
        ∀ es c', es.Perm (d :: ds) → a.shiftOffsets? es = some c' → c' = c := by
  have hb := bracketed_of_shiftOffset? h
  refine ⟨hb.accepts_eq, fun w hw => ⟨hb.queries_eq hw, hb.evaluate_eq hw⟩, fun ds c hc => ?_⟩
  have hsum : a.shiftOffset? (d + ds.sum) = some c := (hb.shiftOffsets? hc).shiftOffset?
  refine ⟨hsum, fun es c' hperm hc' => ?_⟩
  have hne : es ≠ [] := fun hnil => absurd (hnil ▸ hperm) (List.not_perm_nil_cons d ds)
  have hsum' := (bracketed_of_shiftOffsets? hne hc').shiftOffset?
  rw [hperm.sum_eq, List.sum_cons, hsum] at hsum'
  exact (Option.some.inj hsum').symm

/-- A zip with a step of its own and a collapsed literal, an hour and then a day back. -/
theorem bracket_spec_hour_and_day :
    let foo : Agg Exact := .scan ⟨"foo", .empty, { offset := -1000 }⟩ .sum
    let bar : Agg Exact := .scan ⟨"bar", .empty, {}⟩ .max
    let two : Agg Exact := collapse (value (.finite 2) {}) .min
    let a := (zip [foo, bar] .avg { step := some 120000 }).op two .mul
    let w : Window := ⟨90000000, 90240000, 60000⟩
    ∃ b c, a.shiftOffset? (-3600000) = some b ∧ b.shiftOffsets? [-86400000] = some c ∧
      a.Unsaturated (-3600000) w ∧ a.Unsaturated (-90000000) w ∧
      b.queries w = a.queries (w.shift (-3600000)) ∧
      (∀ xs : List (Series Exact), b.evaluate w xs = a.evaluate (w.shift (-3600000)) xs) ∧
      a.shiftOffset? (-90000000) = some c ∧
      a.shiftOffsets? [-86400000, -3600000] = some c ∧
      ∀ xs : List (Series Exact), c.evaluate w xs = a.evaluate (w.shift (-90000000)) xs := by
  intro foo bar two a w
  obtain ⟨b, hb⟩ : ∃ b, a.shiftOffset? (-3600000) = some b := ⟨_, rfl⟩
  obtain ⟨c, hc⟩ : ∃ c, b.shiftOffsets? [-86400000] = some c := by
    rw [← Option.some.inj hb]
    exact ⟨_, rfl⟩
  obtain ⟨c', hc'⟩ : ∃ c', a.shiftOffsets? [-86400000, -3600000] = some c' := ⟨_, rfl⟩
  have hhour : a.Unsaturated (-3600000) w := ⟨by decide, by decide⟩
  have hday : a.Unsaturated (-90000000) w := ⟨by decide, by decide⟩
  obtain ⟨-, hmoved, hsum⟩ := bracket_spec hb
  obtain ⟨hboth, horder⟩ := hsum [-86400000] c hc
  obtain rfl : c' = c := horder _ c' (List.Perm.swap _ _ _) hc'
  exact ⟨b, c', hb, hc, hhour, hday, (hmoved w hhour).1, (hmoved w hhour).2, hboth, hc',
    ((bracket_spec hboth).2.1 w hday).2⟩

end Agg

end SeriesQuery
