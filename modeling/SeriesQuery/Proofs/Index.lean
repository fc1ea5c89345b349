import SeriesQuery.Index
import Mathlib.Data.List.Nodup

/-!
# Entries of an index

An index has one entry for each of its keys, so it is known by its entries, in any order.

* `Index.find?_eq_some_iff` : a value is found at a key just if they are an entry;
* `Index.mem_update` : an update replaces the entry of its key and no other;
* `Index.find?_update` : what is found after an update;
* `Index.ext_find?` : two indexes in which the same is found are equal;
* `Index.perm_ofList` : an index of entries with different keys has these entries.
-/

namespace SeriesQuery

namespace Index

variable {α : Type}

/-! ## One key -/

/-- The value at a key in entries that are in order. -/
def valueAt (entries : List (String × α)) (key : String) : Option α :=
  (entries.find? (·.1 = key)).map (·.2)

theorem valueAt_cons (k : String) (v : α) (entries : List (String × α)) (key : String) :
    valueAt ((k, v) :: entries) key = if k = key then some v else valueAt entries key := by
  unfold valueAt
  rw [List.find?_cons]
  by_cases h : k = key
  · rw [if_pos h]
    simp only [h, decide_true, Option.map_some]
  · rw [if_neg h]
    simp only [h, decide_false]

theorem mem_of_valueAt {entries : List (String × α)} {key : String} {v : α}
    (h : valueAt entries key = some v) : (key, v) ∈ entries := by
  obtain ⟨e, he, rfl⟩ := Option.map_eq_some_iff.mp h
  have hkey : e.1 = key := by simpa using List.find?_some he
  exact hkey ▸ List.mem_of_find?_eq_some he

theorem valueAt_eq_some_iff {entries : List (String × α)} (h : entries.Pairwise (·.1 < ·.1))
    {key : String} {v : α} : valueAt entries key = some v ↔ (key, v) ∈ entries := by
  refine ⟨mem_of_valueAt, fun hmem => ?_⟩
  induction entries with
  | nil => contradiction
  | cons d rest ih =>
    obtain ⟨k, u⟩ := d
    obtain ⟨hk, hr⟩ := List.pairwise_cons.mp h
    rw [valueAt_cons]
    rcases List.mem_cons.mp hmem with heq | hmem
    · obtain ⟨rfl, rfl⟩ := Prod.mk.inj heq
      exact if_pos rfl
    · rw [if_neg (fun heq : k = key => String.lt_irrefl k (heq ▸ hk _ hmem))]
      exact ih hr hmem

theorem find?_eq_some_iff {m : Index α} {key : String} {v : α} :
    m.find? key = some v ↔ (key, v) ∈ m.toList :=
  valueAt_eq_some_iff m.ascending

theorem valueAt_eq_none {entries : List (String × α)} {key : String}
    (h : ∀ e ∈ entries, key < e.1) : valueAt entries key = none := by
  unfold valueAt
  rw [Option.map_eq_none_iff, List.find?_eq_none]
  intro e he heq
  have hkey : e.1 = key := of_decide_eq_true heq
  exact String.lt_irrefl key (hkey ▸ h e he)

/-! ## Updates -/

theorem valueAt_place (key : String) (f : Option α → α) {entries : List (String × α)}
    (h : entries.Pairwise (·.1 < ·.1)) (k : String) :
    valueAt (place key f entries) k =
      if key = k then some (f (valueAt entries key)) else valueAt entries k := by
  induction entries with
  | nil => exact valueAt_cons key _ [] k
  | cons d rest ih =>
    obtain ⟨j, v⟩ := d
    obtain ⟨hj, hrest⟩ := List.pairwise_cons.mp h
    unfold place
    split
    · next hlt =>
      have habove : ∀ e ∈ (j, v) :: rest, key < e.1 :=
        List.forall_mem_cons.mpr ⟨hlt, fun e he => String.lt_trans hlt (hj e he)⟩
      rw [valueAt_cons, valueAt_eq_none habove]
    · split
      · next heq =>
        subst heq
        rw [valueAt_cons, valueAt_cons, if_pos rfl, valueAt_cons]
        split <;> rfl
      · next hne =>
        rw [valueAt_cons, ih hrest, valueAt_cons j v rest key, if_neg (Ne.symm hne), valueAt_cons]
        split
        · next heq => rw [if_neg (heq ▸ hne)]
        · rfl

theorem find?_update (m : Index α) (key : String) (f : Option α → α) (k : String) :
    (m.update key f).find? k = if key = k then some (f (m.find? key)) else m.find? k :=
  valueAt_place key f m.ascending k

theorem mem_update {m : Index α} {key : String} {f : Option α → α} {e : String × α} :
    e ∈ (m.update key f).toList ↔ e = (key, f (m.find? key)) ∨ e ∈ m.toList ∧ e.1 ≠ key := by
  obtain ⟨k, v⟩ := e
  rw [← find?_eq_some_iff, ← find?_eq_some_iff, find?_update]
  by_cases h : key = k
  · subst h
    simp [eq_comm]
  · simp [h, Ne.symm h]

/-! ## Entries -/

theorem nodup_keys (m : Index α) : (m.toList.map (·.1)).Nodup :=
  List.pairwise_map.mpr <| m.ascending.imp fun hlt heq =>
    absurd (heq ▸ hlt) (String.lt_irrefl _)

/-- An index is known by what is found in it. -/
theorem ext_find? {m n : Index α} (h : ∀ key, m.find? key = n.find? key) : m = n := by
  have hmem : ∀ e, e ∈ m.toList ↔ e ∈ n.toList := fun ⟨key, v⟩ => by
    rw [← find?_eq_some_iff, ← find?_eq_some_iff, h]
  have hperm : m.toList.Perm n.toList :=
    (List.perm_ext_iff_of_nodup ((nodup_keys m).of_map _) ((nodup_keys n).of_map _)).mpr hmem
  have hlist : m.toList = n.toList := hperm.eq_of_pairwise
    (fun _ _ _ _ hab hba => absurd hba (String.lt_asymm hab)) m.ascending n.ascending
  obtain ⟨entries, _⟩ := m
  obtain ⟨_, _⟩ := n
  obtain rfl : entries = _ := hlist
  rfl

theorem mem_foldl_insert {entries : List (String × α)} (h : (entries.map (·.1)).Nodup)
    {m : Index α} {e : String × α} :
    e ∈ (entries.foldl (fun m d => m.insert d.1 d.2) m).toList ↔
      e ∈ entries ∨ e ∈ m.toList ∧ e.1 ∉ entries.map (·.1) := by
  induction entries generalizing m with
  | nil => simp
  | cons d rest ih =>
    obtain ⟨hd, hrest⟩ := List.nodup_cons.mp h
    rw [List.foldl_cons, ih hrest, insert, mem_update]
    have hmem : e = d → e.1 ∉ rest.map (·.1) := fun heq => heq ▸ hd
    simp only [List.mem_cons, List.map_cons, not_or]
    tauto

theorem perm_ofList {entries : List (String × α)} (h : (entries.map (·.1)).Nodup) :
    (ofList entries).toList.Perm entries := by
  refine (List.perm_ext_iff_of_nodup ((nodup_keys _).of_map _) (h.of_map _)).mpr fun e => ?_
  have hempty : e ∉ (empty : Index α).toList := List.not_mem_nil
  rw [ofList, mem_foldl_insert h]
  simp only [hempty, false_and, or_false]

end Index

end SeriesQuery
