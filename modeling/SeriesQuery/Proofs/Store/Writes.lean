import SeriesQuery.Proofs.Except
import SeriesQuery.Proofs.Fields
import SeriesQuery.Store
import Mathlib.Data.List.Induction

/-!
# What writes do to a store

A store is changed by points, by records and by snapshots. Each write that succeeds puts its points
behind those of their events, and one that fails has changed nothing. All three ways bring the
fields of a point into the same order.

* `Write`, `Write.run` : one write, as a program whose changes stay when it fails;
* `Write.run_eq` : such a program ends as the function of the store says;
* `Write.pointsOf`, `Write.Fits` : what is written, and when it can be;
* `Store.after` : the store after some writes;
* `Store.writes_spec` : what holds of every such store.
-/

namespace SeriesQuery

variable {α : Type}

/-! ## Points behind points -/

def Record.point (r : Record α) : StoredPoint α := ⟨r.time, .ofPairs r.fields.toList, r.value⟩

namespace Store

theorem find?_append (s : Store α) (event : String) (points : List (StoredPoint α)) (e : String) :
    (s.append event points).events.find? e =
      if event = e then some (s.pointsOf event ++ points) else s.events.find? e :=
  Index.find?_update s.events event _ e

theorem pointsOf_append (s : Store α) (event : String) (points : List (StoredPoint α))
    (e : String) : (s.append event points).pointsOf e =
      s.pointsOf e ++ if event = e then points else [] := by
  rw [pointsOf, find?_append]
  split
  · next h => rw [h, Option.getD_some]
  · rw [List.append_nil, pointsOf]

theorem pointsOf_insertRecords (rs : List (Record α)) (s : Store α) (e : String) :
    (s.insertRecords rs).pointsOf e =
      s.pointsOf e ++ (rs.filter (·.event = e)).map Record.point := by
  induction rs generalizing s with
  | nil => exact (List.append_nil _).symm
  | cons r rs ih =>
    have hcons : s.insertRecords (r :: rs) = (s.append r.event [r.point]).insertRecords rs := rfl
    rw [hcons, ih, pointsOf_append, List.append_assoc, List.filter_cons]
    by_cases h : r.event = e
    · rw [if_pos h, if_pos (decide_eq_true h)]
      rfl
    · rw [if_neg h, if_neg (by simpa using h)]
      rfl

theorem find?_insertRecords (rs : List (Record α)) (s : Store α) (e : String) :
    (s.insertRecords rs).events.find? e =
      if e ∈ rs.map (·.event) then some ((s.insertRecords rs).pointsOf e)
      else s.events.find? e := by
  induction rs using List.reverseRecOn with
  | nil => exact (if_neg List.not_mem_nil).symm
  | append_singleton rs r ih =>
    have happend : s.insertRecords (rs ++ [r]) = (s.insertRecords rs).append r.event [r.point] :=
      List.foldl_append
    rw [happend, find?_append, pointsOf_append, ih, List.map_append]
    by_cases h : r.event = e
    · have hmem : e ∈ rs.map (·.event) ++ [r].map (·.event) :=
        List.mem_append_right _ (List.mem_singleton.mpr h.symm)
      rw [if_pos h, if_pos hmem, if_pos h, h]
    · have hmem : e ∈ rs.map (·.event) ++ [r].map (·.event) ↔ e ∈ rs.map (·.event) := by
        simp [Ne.symm h]
      simp only [if_neg h, hmem, List.append_nil]

/-! ### Points with their fields in order -/

/-- Every point has its fields in order. -/
def Sorted (s : Store α) : Prop := ∀ e ∈ s.events.toList, ∀ p ∈ e.2, p.fields.Sorted

theorem sorted_empty : (empty : Store α).Sorted := fun _ he => absurd he List.not_mem_nil

theorem Sorted.append {s : Store α} (hs : s.Sorted) (event : String)
    {points : List (StoredPoint α)} (h : ∀ p ∈ points, p.fields.Sorted) :
    (s.append event points).Sorted := by
  intro e he
  rcases Index.mem_update.mp he with rfl | ⟨he, -⟩
  · refine List.forall_mem_append.mpr ⟨fun p hp => ?_, h⟩
    cases hold : s.events.find? event with
    | none =>
      rw [hold] at hp
      exact absurd hp List.not_mem_nil
    | some old =>
      rw [hold] at hp
      exact hs _ (Index.find?_eq_some_iff.mp hold) p hp
  · exact hs e he

theorem Sorted.insertRecords {s : Store α} (hs : s.Sorted) (rs : List (Record α)) :
    (s.insertRecords rs).Sorted := by
  induction rs generalizing s with
  | nil => exact hs
  | cons r rs ih =>
    exact ih (hs.append r.event (List.forall_mem_singleton.mpr (Fields.sorted_ofPairs r.fields)))

end Store

/-! ## Writes -/

/-- One write. -/
inductive Write (α : Type) where
  | insert (event : String) (fields : Fields) (time : Int) (value : α)
  | insertRecords (rs : List (Record α))
  | storeSnapshot (event : String) (snapshot : Snapshot)

/-- A program that changes a store as it goes. What it has changed stays if it fails. -/
abbrev Writing (α : Type) := ExceptT StoreError (StateM (Store α))

variable [Sample α]

/-- The point of one row that fits the labels. -/
def Snapshot.point (snapshot : Snapshot) (c : Counter) : StoredPoint α :=
  ⟨snapshot.time, (Fields.ofPairs (snapshot.labels.zip c.values)).sort, Sample.ofInt c.count⟩

namespace Write

/-- Records are put in one by one; of a snapshot all points are made before any is put in. -/
def program : Write α → Writing α Unit
  | .insert event fields time value => modify (·.insert event fields time value)
  | .insertRecords rs => rs.forM fun r => modify (·.insertRecord r)
  | .storeSnapshot event snapshot => do
    let rows : Except StoreError _ := snapshot.counters.mapM (Store.counterPoint event snapshot)
    let points ← rows
    modify (·.append event points)

/-- How a write of the store `s` ends, and the store after it. -/
def run (w : Write α) (s : Store α) : Except StoreError Unit × Store α :=
  StateT.run w.program.run s

/-- What the functions of the store make of a write. -/
def perform : Write α → Store α → Except StoreError (Store α)
  | .insert event fields time value, s => .ok (s.insert event fields time value)
  | .insertRecords rs, s => .ok (s.insertRecords rs)
  | .storeSnapshot event snapshot, s => s.storeSnapshot event snapshot

theorem run_insertRecords (rs : List (Record α)) (s : Store α) :
    (insertRecords rs).run s = (.ok (), s.insertRecords rs) := by
  induction rs generalizing s with
  | nil => rfl
  | cons r rs ih => exact ih (s.insertRecord r)

theorem run_eq (w : Write α) (s : Store α) :
    w.run s = match w.perform s with
      | .ok t => (.ok (), t)
      | .error e => (.error e, s) := by
  cases w with
  | insert event fields time value => rfl
  | insertRecords rs => exact run_insertRecords rs s
  | storeSnapshot event snapshot =>
    dsimp only [run, program, perform, Store.storeSnapshot]
    cases snapshot.counters.mapM (Store.counterPoint (α := α) event snapshot)
    · rfl
    · rfl

theorem run_eq_ok_iff {w : Write α} {s t : Store α} :
    w.run s = (.ok (), t) ↔ w.perform s = .ok t := by
  rw [run_eq]
  cases w.perform s with
  | ok t' =>
    exact ⟨fun h => congrArg Except.ok (Prod.mk.inj h).2,
      fun h => congrArg (Except.ok (), ·) (Except.ok.inj h)⟩
  | error e => exact ⟨fun h => absurd (Prod.mk.inj h).1 nofun, nofun⟩

/-! ## What is written -/

/-- The events that there are from then on. -/
def events : Write α → List String
  | .insert event .. => [event]
  | .insertRecords rs => rs.map (·.event)
  | .storeSnapshot event _ => [event]

/-- The points of a write for one event, in order. -/
def pointsOf : Write α → String → List (StoredPoint α)
  | .insert event fields time value, e => if event = e then [⟨time, fields.sort, value⟩] else []
  | .insertRecords rs, e => (rs.filter (·.event = e)).map Record.point
  | .storeSnapshot event snapshot, e =>
    if event = e then snapshot.counters.map snapshot.point else []

/-- A snapshot fits if each counter has one value for each label. -/
def Fits : Write α → Prop
  | .insert .. | .insertRecords _ => True
  | .storeSnapshot _ snapshot => ∀ c ∈ snapshot.counters, c.values.length = snapshot.labels.length

end Write

namespace Store

theorem counterPoint_eq_ok_iff {event : String} {snapshot : Snapshot} {c : Counter}
    {p : StoredPoint α} : counterPoint event snapshot c = .ok p ↔
      c.values.length = snapshot.labels.length ∧ snapshot.point c = p := by
  unfold counterPoint
  split
  · next h => exact ⟨nofun, fun ⟨h', _⟩ => absurd h' h⟩
  · next h => exact ⟨fun h' => ⟨not_not.mp h, Except.ok.inj h'⟩, fun ⟨_, h'⟩ => congrArg _ h'⟩

theorem storeSnapshot_of_fits {s : Store α} {event : String} {snapshot : Snapshot}
    (h : (Write.storeSnapshot event snapshot : Write α).Fits) :
    s.storeSnapshot event snapshot =
      .ok (s.append event (snapshot.counters.map snapshot.point)) := by
  have hrows : snapshot.counters.mapM (counterPoint (α := α) event snapshot) =
      .ok (snapshot.counters.map snapshot.point) :=
    mapM_eq_ok_map fun c hc => counterPoint_eq_ok_iff.mpr ⟨h c hc, rfl⟩
  rw [storeSnapshot, hrows]
  rfl

theorem fits_of_storeSnapshot {s t : Store α} {event : String} {snapshot : Snapshot}
    (h : s.storeSnapshot event snapshot = .ok t) :
    (Write.storeSnapshot event snapshot : Write α).Fits := by
  obtain ⟨ps, hps, -⟩ := bind_eq_ok.mp h
  intro c hc
  obtain ⟨p, hp⟩ := exists_of_mapM_ok hps c hc
  exact (counterPoint_eq_ok_iff.mp hp).1

end Store

namespace Write

theorem fits_iff (w : Write α) (s : Store α) : w.Fits ↔ ∃ t, w.perform s = .ok t := by
  cases w with
  | insert | insertRecords => exact ⟨fun _ => ⟨_, rfl⟩, fun _ => trivial⟩
  | storeSnapshot event snapshot =>
    exact ⟨fun h => ⟨_, Store.storeSnapshot_of_fits h⟩, fun ⟨_, h⟩ =>
      Store.fits_of_storeSnapshot h⟩

/-- What does not fit fails and changes nothing. -/
theorem run_of_not_fits {w : Write α} (h : ¬ w.Fits) (s : Store α) :
    ∃ e, w.run s = (.error e, s) := by
  rw [w.fits_iff s] at h
  rw [run_eq]
  cases hw : w.perform s with
  | ok t => exact absurd ⟨t, hw⟩ h
  | error e => exact ⟨e, rfl⟩

theorem run_of_fits {w : Write α} (h : w.Fits) (s : Store α) : ∃ t, w.run s = (.ok (), t) := by
  obtain ⟨t, ht⟩ := (w.fits_iff s).mp h
  exact ⟨t, run_eq_ok_iff.mpr ht⟩

end Write

/-! ## Any writes -/

namespace Write

variable {w : Write α} {s t : Store α}

theorem sorted_of_perform (hs : s.Sorted) (h : w.perform s = .ok t) : t.Sorted := by
  cases w with
  | insert event fields time value =>
    rw [← Except.ok.inj h]
    exact hs.append event (List.forall_mem_singleton.mpr fields.sorted_sort)
  | insertRecords rs =>
    rw [← Except.ok.inj h]
    exact hs.insertRecords rs
  | storeSnapshot event snapshot =>
    obtain rfl := Except.ok.inj
      (h.symm.trans (Store.storeSnapshot_of_fits (Store.fits_of_storeSnapshot h)))
    refine hs.append event fun p hp => ?_
    obtain ⟨c, -, rfl⟩ := List.mem_map.mp hp
    exact Fields.sorted_sort _

theorem find?_of_perform (h : w.perform s = .ok t) (e : String) :
    t.events.find? e =
      if e ∈ w.events then some (s.pointsOf e ++ w.pointsOf e) else s.events.find? e := by
  have happend (event : String) (points : List (StoredPoint α)) :
      (s.append event points).events.find? e = if e ∈ [event] then
        some (s.pointsOf e ++ if event = e then points else []) else s.events.find? e := by
    rw [Store.find?_append]
    by_cases heq : event = e
    · rw [if_pos heq, if_pos (List.mem_singleton.mpr heq.symm), if_pos heq, heq]
    · rw [if_neg heq, if_neg fun hmem => heq (List.mem_singleton.mp hmem).symm]
  cases w with
  | insert event fields time value =>
    rw [← Except.ok.inj h]
    exact happend event _
  | insertRecords rs =>
    rw [← Except.ok.inj h, Store.find?_insertRecords, Store.pointsOf_insertRecords]
    rfl
  | storeSnapshot event snapshot =>
    obtain rfl := Except.ok.inj
      (h.symm.trans (Store.storeSnapshot_of_fits (Store.fits_of_storeSnapshot h)))
    exact happend event _

end Write

namespace Store

/-- The store after some writes, whether they succeed or fail. -/
def after (ws : List (Write α)) : Store α := ws.foldl (fun s w => (w.run s).2) empty

theorem sorted_after (ws : List (Write α)) : (after ws).Sorted := by
  induction ws using List.reverseRecOn with
  | nil => exact sorted_empty
  | append_singleton ws w ih =>
    have happend : after (ws ++ [w]) = (w.run (after ws)).2 := List.foldl_append
    rw [happend, Write.run_eq]
    cases h : w.perform (after ws) with
    | ok t => exact Write.sorted_of_perform ih h
    | error e => exact ih

/-- One point in three ways, with its labels in any order: the same is put into the store. -/
theorem perform_alike (s : Store α) (event : String) (time count : Int)
    {ps qs us : List (String × String)} (hps : (ps.map (·.1)).Nodup) (hqs : qs.Perm ps)
    (hus : us.Perm ps) :
    let point : StoredPoint α :=
      ⟨time, .ofPairs (Index.ofList ps).toList, Sample.ofInt count⟩
    (Write.insert event (.ofPairs qs) time (Sample.ofInt count)).perform s =
        .ok (s.append event [point]) ∧
      (Write.insertRecords [⟨event, .ofList ps, time, Sample.ofInt count⟩]).perform s =
        .ok (s.append event [point]) ∧
      (Write.storeSnapshot event ⟨time, us.map (·.1), [⟨us.map (·.2), count⟩]⟩).perform s =
        .ok (s.append event [point]) := by
  intro point
  have hsort : ∀ rs : List (String × String), rs.Perm ps →
      (Fields.ofPairs rs).sort = .ofPairs (Index.ofList ps).toList := by
    intro rs hrs
    refine Fields.sort_eq ?_ (Fields.pairwise_ofPairs _)
    exact Fields.perm_ofPairs (hrs.trans (Index.perm_ofList hps).symm)
  refine ⟨?_, rfl, ?_⟩
  · rw [Write.perform, insert, hsort qs hqs]
  · have hfits : (Write.storeSnapshot event ⟨time, us.map (·.1), [⟨us.map (·.2), count⟩]⟩ :
        Write α).Fits := by
      refine List.forall_mem_singleton.mpr ?_
      rw [List.length_map, List.length_map]
    have hpoint : Snapshot.point ⟨time, us.map (·.1), [⟨us.map (·.2), count⟩]⟩
        ⟨us.map (·.2), count⟩ = point := by
      have hzip : (us.map (·.1)).zip (us.map (·.2)) = us := (List.zip_of_prod rfl rfl).symm
      rw [Snapshot.point, hzip, hsort us hus]
    rw [Write.perform, storeSnapshot_of_fits hfits, List.map_singleton, hpoint]

/-- What holds of a store and of whatever is written to it next. -/
structure WritesWell (s : Store α) : Prop where
  sorted : ∀ e ∈ s.events.toList, ∀ p ∈ e.2, p.fields.Sorted
  /-- A program ends as the functions of the store say, and an error leaves the store. -/
  run_eq : ∀ w : Write α, w.run s = match w.perform s with
    | .ok t => (.ok (), t)
    | .error e => (.error e, s)
  /-- Snapshots fail if one counter does not fit, whichever it is. Nothing is written then. -/
  refused : ∀ (event : String) (snapshot : Snapshot),
    (∃ c ∈ snapshot.counters, c.values.length ≠ snapshot.labels.length) →
      ∃ e, (Write.storeSnapshot event snapshot).run s = (.error e, s)
  /-- All other writes succeed. -/
  accepted : ∀ w : Write α, w.Fits → ∃ t, w.run s = (.ok (), t)
  /-- The points of a write come behind those that the events had. No other event changes. -/
  appended : ∀ (w : Write α) (t : Store α), w.run s = (.ok (), t) → ∀ event,
    t.events.find? event =
      if event ∈ w.events then some (s.pointsOf event ++ w.pointsOf event)
      else s.events.find? event
  /-- The way of writing does not matter for a count, and neither does the order of labels. -/
  alike : ∀ (event : String) (time count : Int) (pairs ps qs us : List (String × String)),
    (pairs.map (·.1)).Nodup → ps.Perm pairs → qs.Perm pairs → us.Perm pairs → ∃ t,
      (Write.insert event (.ofPairs ps) time (Sample.ofInt count)).run s = (.ok (), t) ∧
      (Write.insertRecords [⟨event, .ofList qs, time, Sample.ofInt count⟩]).run s = (.ok (), t) ∧
      (Write.storeSnapshot event ⟨time, us.map (·.1), [⟨us.map (·.2), count⟩]⟩).run s =
        (.ok (), t)

/-- **Writing. After any writes each point has its fields in order. What is written next is put
behind the points of its events, and nowhere else; a snapshot with a counter that does not fit its
labels leaves the store as it was. One point for a count gives the same store if it is inserted, if
it comes in a record and if it comes in a snapshot, with its labels in any order.** -/
theorem writes_spec (ws : List (Write α)) : (after ws).WritesWell where
  sorted := sorted_after ws
  run_eq w := w.run_eq _
  refused event snapshot h := by
    obtain ⟨c, hc, hne⟩ := h
    have hfits : ¬ (Write.storeSnapshot event snapshot : Write α).Fits :=
      fun hfits => hne (hfits c hc)
    exact Write.run_of_not_fits hfits (after ws)
  accepted w h := Write.run_of_fits h (after ws)
  appended w t h := Write.find?_of_perform (Write.run_eq_ok_iff.mp h)
  alike event time count pairs ps qs us hpairs hps hqs hus := by
    have hkeys : (qs.map (·.1)).Nodup := (hqs.map _).nodup_iff.mpr hpairs
    obtain ⟨hinsert, hrecord, hsnapshot⟩ := perform_alike (after ws) event time count hkeys
      (hps.trans hqs.symm) (hus.trans hqs.symm)
    exact ⟨_, Write.run_eq_ok_iff.mpr hinsert, Write.run_eq_ok_iff.mpr hrecord,
      Write.run_eq_ok_iff.mpr hsnapshot⟩

/-- The second counter has no value for the label. -/
example :
    (Write.storeSnapshot "foo" ⟨0, ["size"], [⟨["s"], 1⟩, ⟨[], 2⟩, ⟨["m"], 3⟩]⟩).run
      (empty : Store Float) = (.error (.valueCount "foo" 0 1), empty) := rfl

end Store

end SeriesQuery
