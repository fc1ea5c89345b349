import SeriesQuery.Proofs.Exact
import SeriesQuery.Proofs.Query.Meaning
import SeriesQuery.Proofs.Query.Narrowing
import SeriesQuery.Proofs.Query.ReadAlike

/-!
# Answers for wider windows

A scanner may answer for wider windows than it was asked for. What lies outside of a window is cut
off by the leaves, but the series that it belonged to stays, without points where there are none in
the window itself.

* `ScanQuery.Around wide qs` : each request is answered for a window around its own, which no other
  request reads out of;
* `Store.answersOver`, `Store.narrowed` : the wider answers, and what the leaves make of them;
* `Query.evaluate_answersOver` : the first are evaluated as the second;
* `Store.mem_narrowed_of_mem_answersTo`, `Store.mem_answersTo_or_stray` : the second hold all that
  the requests themselves would be answered, and else series without points;
* `Query.widened_spec` : the outputs from a store that answers for wider windows.
-/

namespace SeriesQuery

variable {α : Type}

/-! ## Wider windows -/

/-- The request for `r` is answered for the window `wide r`. -/
structure ScanQuery.Around (wide : ScanQuery → Window) (qs : List ScanQuery) : Prop where
  aligned : ∀ r ∈ qs, r.window.Aligned
  within : ∀ r ∈ qs, r.window.Within (wide r)
  /-- A window that lies in the answer to another request for the same series is the same and
  answered for the same one. -/
  apart : ∀ r ∈ qs, ∀ p ∈ qs, r.event = p.event →
    ∀ f, r.filter.accepts f = true → p.filter.accepts f = true →
      p.window.Within (wide r) → r.window = p.window ∧ wide r = wide p

/-- Requests for different events are apart. -/
theorem ScanQuery.around_of_events {wide : ScanQuery → Window} {qs : List ScanQuery}
    (haligned : ∀ r ∈ qs, r.window.Aligned) (hwithin : ∀ r ∈ qs, r.window.Within (wide r))
    (hevents : ∀ r ∈ qs, ∀ p ∈ qs, r.event = p.event → r = p) : Around wide qs := by
  refine ⟨haligned, hwithin, fun r hr p hp hevent _ _ _ _ => ?_⟩
  rw [hevents r hr p hp hevent]
  exact ⟨rfl, rfl⟩

/-- In a window between that of `r` and that of its answer lies no window of another request, and it
lies in none. -/
theorem ScanQuery.Around.eq_of_between {wide : ScanQuery → Window} {qs : List ScanQuery}
    (h : Around wide qs) {r p : ScanQuery} (hr : r ∈ qs) (hp : p ∈ qs) (hevent : r.event = p.event)
    {f : Fields} (hrf : r.filter.accepts f = true) (hpf : p.filter.accepts f = true) {u : Window}
    (hru : r.window.Within u) (hur : u.Within (wide r))
    (hpu : p.window.Within u ∨ u.Within p.window) : r.window = p.window ∧ wide r = wide p := by
  rcases hpu with hpu | hup
  · exact h.apart r hr p hp hevent f hrf hpf (hpu.trans hur)
  · obtain ⟨hwindow, hwide⟩ := h.apart p hp r hr hevent.symm f hpf hrf
      ((hru.trans hup).trans (h.within p hp))
    exact ⟨hwindow.symm, hwide.symm⟩

namespace Store

variable [Sample α] {s : Store α} {wide : ScanQuery → Window} {qs : List ScanQuery}
  {x y x' y' : Series α}

/-- The answers for the wider windows, one behind the other. -/
def answersOver (s : Store α) (wide : ScanQuery → Window) (qs : List ScanQuery) :
    List (Series α) :=
  qs.flatMap fun r => (s.scanOne (r.withWindow (wide r))).toList

/-- What the requests make of them. -/
def narrowed (s : Store α) (wide : ScanQuery → Window) (qs : List ScanQuery) : List (Series α) :=
  qs.flatMap fun r => (s.scanOne (r.withWindow (wide r))).toList.map r.narrow

/-! ## One series -/

/-- `x` is the wider series of a label set for a request, and `y` what the request makes of it. -/
def Narrows (s : Store α) (wide : ScanQuery → Window) (qs : List ScanQuery) (x y : Series α) :
    Prop :=
  ∃ r ∈ qs, ∃ f ∈ s.fieldsFor (r.withWindow (wide r)),
    x = s.seriesFor (r.withWindow (wide r)) f ∧ y = r.narrow x

theorem mem_narrowed_iff : y ∈ s.narrowed wide qs ↔ ∃ x, s.Narrows wide qs x y := by
  unfold narrowed Narrows
  simp only [List.mem_flatMap, toList_scanOne, List.map_map, List.mem_map, Function.comp_apply]
  constructor
  · rintro ⟨r, hr, f, hf, rfl⟩
    exact ⟨_, r, hr, f, hf, rfl, rfl⟩
  · rintro ⟨x, r, hr, f, hf, rfl, rfl⟩
    exact ⟨r, hr, f, hf, rfl⟩

theorem forall₂_narrows :
    List.Forall₂ (s.Narrows wide qs) (s.answersOver wide qs) (s.narrowed wide qs) := by
  have hsame : List.Forall₂ (fun r p => r = p ∧ r ∈ qs) qs qs :=
    List.forall₂_same.mpr fun r hr => ⟨rfl, hr⟩
  refine List.rel_flatMap hsame ?_
  rintro r _ ⟨rfl, hr⟩
  rw [List.forall₂_map_right_iff, List.forall₂_same]
  intro x hx
  have hx : x ∈ (s.scanOne (r.withWindow (wide r))).toList := hx
  rw [toList_scanOne] at hx
  obtain ⟨f, hf, rfl⟩ := List.mem_map.mp hx
  exact ⟨r, hr, f, hf, rfl, rfl⟩

/-- The event and the fields stay, and the window lies between the two windows. -/
theorem key_narrow (h : ScanQuery.Around wide qs) {r : ScanQuery} (hr : r ∈ qs) {f : Fields}
    (hf : r.filter.accepts f = true) :
    let y := r.narrow (s.seriesFor (r.withWindow (wide r)) f)
    y.event = r.event ∧ y.fields = f ∧ r.window.Within y.window ∧ y.window.Within (wide r) := by
  have hwithin := h.within r hr
  rcases s.narrow_seriesFor (h.aligned r hr) hwithin hf with heq | ⟨-, heq⟩
  · dsimp only
    rw [heq]
    exact ⟨rfl, rfl, .refl _, hwithin⟩
  · dsimp only
    rw [heq]
    exact ⟨rfl, rfl, hwithin, .refl _⟩

/-- No request tells the narrowed series from the wider one. -/
theorem Narrows.readAlike (h : ScanQuery.Around wide qs) (hxy : s.Narrows wide qs x y) :
    ReadAlike qs x y := by
  obtain ⟨r, hr, f, hf, rfl, rfl⟩ := hxy
  have ha : r.filter.accepts f = true := accepts_of_mem_withWindow hf
  obtain ⟨hevent, hfields, hlow, hhigh⟩ := key_narrow (s := s) h hr ha
  refine ⟨hevent.symm, hfields.symm, fun p hp hpevent hpf => ?_⟩
  by_cases hpr : r.window = p.window
  · -- the request's own window, or the same one of another request
    rw [← hpr]
    unfold ScanQuery.narrow
    rcases s.fit?_seriesFor (h.aligned r hr) (h.within r hr) ha with hfit | ⟨-, hfit⟩
    · rw [hfit, Option.getD_some]
      exact (Leaf.fit?_self (s.seriesFor r f)).symm
    · have hnot : r.window.relate (wide r) ∉ [Relation.equal, .between, .around] :=
        Leaf.fit?_eq_none_iff.mp hfit
      rw [hfit]
      exact Eq.symm (Leaf.fit?_eq_none_iff.mpr hnot)
  · -- a window that neither of the two series is read for
    have hnone : ∀ z : Series α, r.window.Within z.window → z.window.Within (wide r) →
        Leaf.fit? p.window z = none := by
      intro z hrz hzr
      refine Option.eq_none_iff_forall_ne_some.mpr fun t ht => hpr ?_
      exact (h.eq_of_between hr hp hpevent.symm ha hpf hrz hzr (Leaf.within_of_fit? ht)).1
    rw [hnone _ (h.within r hr) (.refl _), hnone _ hlow hhigh]

/-- Series of one event and one label set that are answered for the same window are the same. -/
theorem Narrows.eq (h : ScanQuery.Around wide qs) (hxy : s.Narrows wide qs x y)
    (hxy' : s.Narrows wide qs x' y') (hkey : x.key = x'.key ∨ y.key = y'.key) :
    x = x' ∧ y = y' := by
  obtain ⟨r, hr, f, hf, rfl, rfl⟩ := hxy
  obtain ⟨r', hr', f', hf', rfl, rfl⟩ := hxy'
  have ha : r.filter.accepts f = true := accepts_of_mem_withWindow hf
  have ha' : r'.filter.accepts f' = true := accepts_of_mem_withWindow hf'
  obtain ⟨hevent, hfields, hlow, hhigh⟩ := key_narrow (s := s) h hr ha
  obtain ⟨hevent', hfields', hlow', -⟩ := key_narrow (s := s) h hr' ha'
  obtain ⟨hrr, rfl, hin⟩ : r.event = r'.event ∧ f = f' ∧ r'.window.Within (wide r) := by
    rcases hkey with hkey | hkey
    · obtain ⟨hrr, hff, hwide⟩ := Series.Key.mk.inj hkey
      have hwide : wide r = wide r' := hwide
      exact ⟨hrr, hff, hwide ▸ h.within r' hr'⟩
    · obtain ⟨hrr, hff, hwindow⟩ := Series.Key.mk.inj hkey
      refine ⟨hevent.symm.trans (hrr.trans hevent'), hfields.symm.trans (hff.trans hfields'), ?_⟩
      exact hlow'.trans (hwindow ▸ hhigh)
  obtain ⟨hwindow, hwide⟩ := h.apart r hr r' hr' hrr f ha ha' hin
  have hx : s.seriesFor (r.withWindow (wide r)) f = s.seriesFor (r'.withWindow (wide r')) f := by
    refine (s.sums_seriesFor (q := r.withWindow (wide r)) ha).eq
      (s.sums_seriesFor (q := r'.withWindow (wide r')) ha') ?_
    show Series.Key.mk r.event f (wide r) = ⟨r'.event, f, wide r'⟩
    rw [hrr, hwide]
  refine ⟨hx, ?_⟩
  rw [hx, ScanQuery.narrow, ScanQuery.narrow, hwindow]

/-! ## All series -/

/-- A series that the request is answered for its own window. -/
theorem mem_narrowed_of_mem_answersTo (h : ScanQuery.Around wide qs) (hx : x ∈ s.answersTo qs) :
    x ∈ s.narrowed wide qs := by
  obtain ⟨r, hr, hx⟩ := List.mem_flatMap.mp hx
  rw [toList_scanOne] at hx
  obtain ⟨f, hf, rfl⟩ := List.mem_map.mp hx
  have hwithin := h.within r hr
  refine mem_narrowed_iff.mpr ⟨_, r, hr, f, fieldsFor_subset_withWindow hwithin hf, rfl, ?_⟩
  exact (narrow_seriesFor_of_mem (h.aligned r hr) hwithin hf).symm

/-- A label set of the wider window only, with no points in the window of the request. -/
def Stray (s : Store α) (wide : ScanQuery → Window) (r : ScanQuery) (x : Series α) : Prop :=
  x.event = r.event ∧ x.fields ∈ s.fieldsFor (r.withWindow (wide r)) ∧ x.fields ∉ s.fieldsFor r ∧
    (x.window = r.window ∨ r.window.length ≤ 0) ∧ x.points = .empty

theorem mem_answersTo_or_stray (h : ScanQuery.Around wide qs) (hy : y ∈ s.narrowed wide qs) :
    y ∈ s.answersTo qs ∨ ∃ r ∈ qs, s.Stray wide r y := by
  obtain ⟨_, r, hr, f, hf, rfl, rfl⟩ := mem_narrowed_iff.mp hy
  have haligned := h.aligned r hr
  have hwithin := h.within r hr
  by_cases hown : f ∈ s.fieldsFor r
  · left
    rw [narrow_seriesFor_of_mem haligned hwithin hown]
    refine List.mem_flatMap.mpr ⟨r, hr, ?_⟩
    rw [toList_scanOne]
    exact List.mem_map_of_mem hown
  · right
    refine ⟨r, hr, ?_⟩
    rcases s.narrow_seriesFor haligned hwithin (accepts_of_mem_withWindow hf) with
      heq | ⟨hlen, heq⟩
    · rw [heq, seriesFor_of_not_mem hown]
      exact ⟨rfl, hf, hown, Or.inl rfl, rfl⟩
    · rw [heq]
      exact ⟨rfl, hf, hown, Or.inr hlen, rfl⟩

/-- Windows with some time in them: each label set of the wider answer has its exact series. -/
theorem narrowed_eq (h : ScanQuery.Around wide qs) (hpos : ∀ r ∈ qs, 0 < r.window.length) :
    s.narrowed wide qs =
      qs.flatMap fun r => (s.fieldsFor (r.withWindow (wide r))).map (s.seriesFor r) := by
  refine List.flatMap_congr fun r hr => ?_
  rw [toList_scanOne, List.map_map]
  refine List.map_congr_left fun f hf => ?_
  have hlen := hpos r hr
  exact (s.narrow_seriesFor (h.aligned r hr) (h.within r hr)
    (accepts_of_mem_withWindow hf)).resolve_right fun hn => by omega

/-- Without other label sets, in the same order, nothing changes. -/
theorem narrowed_eq_answersTo (h : ScanQuery.Around wide qs)
    (hsame : ∀ r ∈ qs, s.fieldsFor (r.withWindow (wide r)) = s.fieldsFor r) :
    s.narrowed wide qs = s.answersTo qs := by
  refine List.flatMap_congr fun r hr => ?_
  rw [toList_scanOne, toList_scanOne, List.map_map, hsame r hr]
  exact List.map_congr_left fun f hf =>
    narrow_seriesFor_of_mem (h.aligned r hr) (h.within r hr) hf

/-- A store that answers each request for its wider window. -/
def scannerOver (s : Store α) (wide : ScanQuery → Window) : Scanner Id α :=
  fun qs => s.scanner (qs.map fun r => r.withWindow (wide r))

end Store

/-! ## Queries -/

namespace Query

variable [Sample α] {q : Query α} {w : Window} {wide : ScanQuery → Window} {s : Store α}

theorem evaluate_distinctBy (q : Query α) (w : Window) (xs : List (Series α)) :
    q.evaluate w (distinctBy Series.key xs) = q.evaluate w xs := by
  rw [evaluate, evaluate, distinctBy_distinctBy]

/-- The wider answers are evaluated as what the requests make of them. -/
theorem evaluate_answersOver (h : ScanQuery.Around wide (q.queries w)) (s : Store α) :
    q.evaluate w (s.answersOver wide (q.queries w)) =
      q.evaluate w (s.narrowed wide (q.queries w)) := by
  have hkey : ∀ x y x' y', s.Narrows wide (q.queries w) x y → s.Narrows wide (q.queries w) x' y' →
      (x.key = x'.key ↔ y.key = y'.key) := fun x y x' y' hxy hxy' =>
    ⟨fun hk => congrArg Series.key (hxy.eq h hxy' (Or.inl hk)).2,
      fun hk => congrArg Series.key (hxy.eq h hxy' (Or.inr hk)).1⟩
  have hdistinct := forall₂_distinctBy hkey (Store.forall₂_narrows (s := s))
  exact Node.evaluateAll_readAlike q.nodes w (List.Subset.refl _)
    (hdistinct.imp fun _ _ hxy => hxy.readAlike h)

/-- Up to order these are the exact answers and series without points. -/
theorem distinctBy_narrowed_perm (h : ScanQuery.Around wide (q.queries w)) (s : Store α) :
    ∃ extra, (distinctBy Series.key (s.narrowed wide (q.queries w))).Perm (q.scanned s w ++ extra) ∧
      ∀ x ∈ extra, ∃ r ∈ q.queries w, s.Stray wide r x := by
  set ys := distinctBy Series.key (s.narrowed wide (q.queries w)) with hys
  have hunique : ∀ x ∈ s.narrowed wide (q.queries w), ∀ y ∈ s.narrowed wide (q.queries w),
      x.key = y.key → x = y := by
    intro x hx y hy hkey
    obtain ⟨_, hx⟩ := Store.mem_narrowed_iff.mp hx
    obtain ⟨_, hy⟩ := Store.mem_narrowed_iff.mp hy
    exact (hx.eq h hy (Or.inr hkey)).2
  have hmem {x : Series α} : x ∈ ys ↔ x ∈ s.narrowed wide (q.queries w) :=
    mem_distinctBy_iff hunique
  have hscanned {x : Series α} : x ∈ q.scanned s w ↔ x ∈ s.answersTo (q.queries w) :=
    Store.mem_distinct_answersTo
  let own : Series α → Bool := fun x => x.key ∈ (q.scanned s w).map Series.key
  have hown : (ys.filter own).Perm (q.scanned s w) := by
    have hnodup : ys.Nodup := (nodup_keys_distinctBy _).of_map _
    refine (List.perm_ext_iff_of_nodup (hnodup.filter _)
      ((q.answers_scanned s w).distinct.of_map _)).mpr fun x => ?_
    rw [List.mem_filter, hmem]
    constructor
    · rintro ⟨hx, hkey⟩
      obtain ⟨y, hy, hxy⟩ := List.mem_map.mp (of_decide_eq_true hkey)
      have hy' := Store.mem_narrowed_of_mem_answersTo h (hscanned.mp hy)
      exact hunique y hy' x hx hxy ▸ hy
    · intro hx
      exact ⟨Store.mem_narrowed_of_mem_answersTo h (hscanned.mp hx),
        decide_eq_true (List.mem_map_of_mem hx)⟩
  refine ⟨ys.filter (!own ·), ?_, fun x hx => ?_⟩
  · exact (List.filter_append_perm own ys).symm.trans (hown.append_right _)
  · obtain ⟨hx, hnot⟩ := List.mem_filter.mp hx
    refine (Store.mem_answersTo_or_stray h (hmem.mp hx)).resolve_left fun hexact => ?_
    have hkey : own x = true := decide_eq_true (List.mem_map_of_mem (hscanned.mpr hexact))
    rw [hkey] at hnot
    contradiction

/-- The outputs are those of the wider answers, repeated requests or not. -/
theorem outputsWith_scannerOver {options : QueryOptions} (hmax : q.WithinLimit options w)
    (hstep : ∀ r ∈ q.queries w, 0 < (wide r).step) (s : Store α) :
    q.outputsWith options (s.scannerOver wide) w =
      q.evaluate w (s.answersOver wide (q.queries w)) := by
  obtain ⟨plan, hplan, heq⟩ := exists_plan hmax
  have hsub : ∀ r ∈ plan, r ∈ q.queries w := by
    rcases heq with rfl | rfl
    · exact fun r => mem_distinct_iff.mp
    · exact fun r => id
  have hscan : s.scan (plan.map fun r => r.withWindow (wide r)) =
      .ok ⟨distinctBy Series.key (s.answersOver wide plan)⟩ := by
    have hpos : ∀ r ∈ plan.map fun r => r.withWindow (wide r), 0 < r.window.step := by
      intro r hr
      obtain ⟨p, hp, rfl⟩ := List.mem_map.mp hr
      exact hstep p (hsub p hp)
    rw [s.scan_eq _ hpos, Store.answersTo, List.flatMap_map]
    rfl
  have hreport : Id.run (q.execute options (s.scannerOver wide) w) =
      q.report w plan (.ok ⟨distinctBy Series.key (s.answersOver wide plan)⟩) := by
    unfold execute Store.scannerOver Store.scanner
    rw [hplan]
    show q.report w plan ((s.scan (plan.map fun r => r.withWindow (wide r))).mapError
      StoreError.message) = _
    rw [hscan]
    rfl
  rw [outputsWith, hreport, outputs_report, evaluate_distinctBy]
  rcases heq with rfl | rfl
  · rw [evaluate, evaluate, Store.answersOver, distinctBy_flatMap_distinctBy]
    rfl
  · rfl

/-- **Answers for wider windows. If the store answers every request for a window around it that no
other request reads out of, then the outputs are those of the exact answers, in some order, and of a
series without points for each label set that is found in the wider window only; so if the wider
answers list the same label sets in the same order, the outputs are those of the exact answers. For
windows with some time in them each label set listed has its exact series, in the order of the
list.** -/
theorem widened_spec {q : Query α} {w : Window} {options : QueryOptions}
    (hmax : q.WithinLimit options w) {wide : ScanQuery → Window}
    (h : ScanQuery.Around wide (q.queries w)) (s : Store α) :
    let outputs := q.outputsWith options (s.scannerOver wide) w
    (∃ xs extra, outputs = q.evaluate w xs ∧ xs.Perm (q.scanned s w ++ extra) ∧
      ∀ x ∈ extra, ∃ r ∈ q.queries w, s.Stray wide r x) ∧
    ((∀ r ∈ q.queries w, s.fieldsFor (r.withWindow (wide r)) = s.fieldsFor r) →
      outputs = q.outputsFrom options s w) ∧
    ((∀ r ∈ q.queries w, 0 < r.window.length) →
      outputs = q.evaluate w ((q.queries w).flatMap fun r =>
        (s.fieldsFor (r.withWindow (wide r))).map (s.seriesFor r))) := by
  have hpos : ∀ r ∈ q.queries w, 0 < r.window.step := fun r hr => (h.aligned r hr).step_pos
  have hnarrowed : q.outputsWith options (s.scannerOver wide) w =
      q.evaluate w (s.narrowed wide (q.queries w)) := by
    rw [outputsWith_scannerOver hmax (fun r hr => (h.within r hr).step ▸ hpos r hr),
      evaluate_answersOver h]
  intro outputs
  refine ⟨?_, fun hsame => ?_, fun hlength => ?_⟩
  · obtain ⟨extra, hperm, hextra⟩ := q.distinctBy_narrowed_perm h s
    exact ⟨_, extra, hnarrowed.trans (q.evaluate_distinctBy w _).symm, hperm, hextra⟩
  · rw [outputsFrom_eq hpos hmax, scanned, evaluate_distinctBy,
      ← Store.narrowed_eq_answersTo h hsame]
    exact hnarrowed
  · rw [← Store.narrowed_eq h hlength]
    exact hnarrowed

/-- Series as they are next to a sum of the second before, both answered for a second more on each
side. Only there is anything of size small. -/
theorem widened_spec_second_more :
    let w : Window := ⟨10000, 12000, 1000⟩
    let wide (r : ScanQuery) : Window :=
      ⟨r.window.start - 1000, r.window.stop + 1000, r.window.step⟩
    let sized (size : String) : Fields := .ofPairs [("size", size)]
    let s : Store Exact := ((Store.empty.insert "foo" (sized "small") 12500 (.finite 1)).insert
      "foo" (sized "big") 10500 (.finite 2)).insert "bar" .empty 9500 (.finite 3)
    let q : Query Exact := ⟨[.scan ⟨"foo", .empty, {}⟩,
      .group ⟨[⟨"x", .scan ⟨"bar", .empty, { offset := -1000 }⟩ .sum⟩], [], "", .sum⟩]⟩
    q.WithinLimit {} w ∧ ScanQuery.Around wide (q.queries w) ∧
      (∀ r ∈ q.queries w, 0 < r.window.length) ∧
      q.outputsWith {} (s.scannerOver wide) w =
        q.evaluate w ((q.queries w).flatMap fun r =>
          (s.fieldsFor (r.withWindow (wide r))).map (s.seriesFor r)) ∧
      (s.seriesFor ⟨w, "foo", .empty⟩ (sized "small")).points = .empty := by
  intro w wide sized s q
  have hmax : q.WithinLimit {} w := Or.inl rfl
  have haround : ScanQuery.Around wide (q.queries w) :=
    ScanQuery.around_of_events (by decide +kernel) (by decide +kernel) (by decide +kernel)
  have hlength : ∀ r ∈ q.queries w, 0 < r.window.length := by decide +kernel
  exact ⟨hmax, haround, hlength, (widened_spec hmax haround s).2.2 hlength, by decide +kernel⟩

/-- The outputs are the same with answers for the windows `wide`. -/
def Hides (q : Query α) (s : Store α) (w : Window) (wide : ScanQuery → Window) : Prop :=
  q.outputsWith {} (s.scannerOver wide) w = q.outputsFrom {} s w

instance [DecidableEq α] (q : Query α) (s : Store α) (w : Window) (wide : ScanQuery → Window) :
    Decidable (q.Hides s w wide) :=
  inferInstanceAs (Decidable (_ = _))

/-- The ways in which a second more on each side shows: a label set of that second only, the order
of the label sets, and a window that lies in the answers to two requests, which is read from
both. -/
theorem not_hidden :
    let w : Window := ⟨0, 1000, 1000⟩
    let wide (r : ScanQuery) : Window :=
      ⟨r.window.start - 1000, r.window.stop + 1000, r.window.step⟩
    let small := Fields.ofPairs [("size", "small")]
    let big := Fields.ofPairs [("size", "big")]
    let raw : Query Exact := ⟨[.scan ⟨"foo", .empty, {}⟩]⟩
    let sums : Query Exact := ⟨[.group ⟨[⟨"a", .scan ⟨"foo", .empty, {}⟩ .sum⟩,
      ⟨"b", .scan ⟨"foo", .empty, { offset := -1000 }⟩ .sum⟩], [], "", .sum⟩]⟩
    let fails (q : Query Exact) (s : Store Exact) : Prop :=
      (∀ r ∈ q.queries w, r.window.Aligned ∧ 0 < r.window.length ∧ r.window.Within (wide r)) ∧
        (q.outputsFrom {} s w).isOk = true ∧ ¬q.Hides s w wide
    fails raw (Store.empty.insert "foo" .empty (-1000) (.finite 1)) ∧
      fails raw (((Store.empty.insert "foo" small (-1000) (.finite 1)).insert
        "foo" big 0 (.finite 2)).insert "foo" small 0 (.finite 3)) ∧
      fails sums (Store.empty.insert "foo" .empty 0 (.finite 1)) := by
  intro w wide small big raw sums fails
  have haround : ScanQuery.Around wide (raw.queries w) :=
    ScanQuery.around_of_events (by decide +kernel) (by decide +kernel) (by decide +kernel)
  refine ⟨by decide +kernel, ⟨by decide +kernel, by decide +kernel, fun hhides => ?_⟩,
    by decide +kernel⟩
  rw [Hides, outputsWith_scannerOver (Or.inl rfl) (by decide +kernel), evaluate_answersOver haround,
    Store.narrowed_eq haround (by decide +kernel)] at hhides
  exact absurd hhides (by decide +kernel)

end Query

end SeriesQuery
