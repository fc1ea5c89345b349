import SeriesQuery.Fields
import SeriesQuery.Proofs.Index

/-!
# Fields in order

Stored fields are in the order of their labels, and labels can be checked against them in one walk.

* `Fields.Sorted`, `Fields.sort_eq` : fields in order, which are the same for all orders of labels;
* `Fields.get?_dropWhile` : fields that the walk has passed over do not show in what is to come;
* `Fields.get?_eq_head?` : the field that it stops at answers the label at hand;
* `Fields.admits_spec` : so the walk is the same as looking every label up.
-/

namespace SeriesQuery.Fields

def Sorted (fs : Fields) : Prop := fs.toList.Pairwise fun f g => f.label ≤ g.label

theorem sorted_sort (fs : Fields) : fs.sort.Sorted := by
  refine (List.pairwise_mergeSort ?_ ?_ fs.toList).imp of_decide_eq_true
  · intro f g h hfg hgh
    rw [decide_eq_true_eq] at hfg hgh ⊢
    exact String.le_trans hfg hgh
  · intro f g
    rw [Bool.or_eq_true, decide_eq_true_eq, decide_eq_true_eq]
    exact String.le_total _ _

/-- The entries of an index have different labels, in order. -/
theorem pairwise_ofPairs (m : Index String) :
    (ofPairs m.toList).toList.Pairwise fun f g => f.label < g.label :=
  List.pairwise_map.mpr m.ascending

theorem sorted_ofPairs (m : Index String) : (ofPairs m.toList).Sorted :=
  (pairwise_ofPairs m).imp fun h => Std.le_of_lt h

theorem perm_ofPairs {ps qs : List (String × String)} (h : ps.Perm qs) :
    (ofPairs ps).toList.Perm (ofPairs qs).toList := h.map _

/-- Fields with different labels come into one order, whichever they had. -/
theorem sort_eq {fs gs : Fields} (h : fs.toList.Perm gs.toList)
    (hgs : gs.toList.Pairwise fun f g => f.label < g.label) : fs.sort = gs := by
  -- with different labels the order is strict, and a strict order leaves only one arrangement
  have hperm : fs.sort.toList.Perm gs.toList := (List.mergeSort_perm _ _).trans h
  have hne : fs.sort.toList.Pairwise fun f g => f.label ≠ g.label :=
    (hperm.pairwise_iff fun h => Ne.symm h).mpr (hgs.imp fun h => Std.ne_of_lt h)
  have hsorted : fs.sort.toList.Pairwise fun f g => f.label < g.label :=
    (sorted_sort fs).imp₂ (fun f g hle hne => Std.lt_of_le_of_ne hle hne) hne
  have hasymm (f g : Field) (h : f.label < g.label) (h' : g.label < f.label) : f = g :=
    absurd (Std.lt_trans h h') Std.lt_irrefl
  exact congrArg mk (hperm.eq_of_pairwise (fun f g _ _ => hasymm f g) hsorted hgs)

/-! ## The walk along allowed values -/

theorem get?_cons (f : Field) (fields : List Field) (label : String) :
    get? ⟨f :: fields⟩ label = if f.label = label then some f.value else get? ⟨fields⟩ label := by
  unfold get?
  rw [List.find?_cons]
  by_cases h : f.label = label
  · rw [if_pos h]
    simp only [h, decide_true, Option.map_some]
  · rw [if_neg h]
    simp only [h, decide_false]

theorem get?_eq_none {fields : List Field} {label : String}
    (h : ∀ f ∈ fields, label < f.label) : get? ⟨fields⟩ label = none := by
  unfold get?
  rw [Option.map_eq_none_iff, List.find?_eq_none]
  intro f hf heq
  exact Std.ne_of_lt (h f hf) (of_decide_eq_true heq).symm

/-- What is passed over for one label shows neither there nor at any later label. -/
theorem get?_dropWhile (fields : List Field) {label key : String} (h : label ≤ key) :
    get? ⟨fields.dropWhile (·.label < label)⟩ key = get? ⟨fields⟩ key := by
  induction fields with
  | nil => rfl
  | cons f fields ih =>
    by_cases hf : f.label < label
    · have hne : f.label ≠ key := Std.ne_of_lt (Std.lt_of_lt_of_le hf h)
      have hdrop : (f :: fields).dropWhile (·.label < label) = fields.dropWhile (·.label < label) :=
        List.dropWhile_cons_of_pos (decide_eq_true hf)
      rw [hdrop, ih, get?_cons, if_neg hne]
    · rw [List.dropWhile_cons_of_neg (by simpa using hf)]

/-- Where nothing comes before the label, only the first field can have it first. -/
theorem get?_eq_head? {fields : List Field} (hsorted : Sorted ⟨fields⟩) {label : String}
    (h : ∀ f ∈ fields.head?, ¬f.label < label) :
    get? ⟨fields⟩ label = (fields.head?.filter (·.label = label)).map (·.value) := by
  cases fields with
  | nil => rfl
  | cons f fields =>
    rw [get?_cons, List.head?_cons, Option.filter_some]
    by_cases heq : f.label = label
    · rw [if_pos heq, if_pos (decide_eq_true heq), Option.map_some]
    · have hlt : label < f.label :=
        Std.lt_of_le_of_ne (String.not_lt.mp (h f rfl)) (Ne.symm heq)
      have hrest : ∀ g ∈ fields, label < g.label := fun g hg =>
        Std.lt_of_lt_of_le hlt (List.rel_of_pairwise_cons hsorted hg)
      rw [if_neg heq, if_neg (by simpa using heq), get?_eq_none hrest, Option.map_none]

/-- One of the allowed values is the value of the label. -/
def Answers (fields : List Field) (label : String) (allowed : List String) : Prop :=
  ∃ value ∈ allowed, get? ⟨fields⟩ label = some value

/-- One label of the walk. -/
theorem admitsFrom_cons {fields : List Field} (hsorted : Sorted ⟨fields⟩) (label : String)
    {allowed : List String} (hallowed : allowed ≠ []) (more : List (String × List String)) :
    admitsFrom fields ((label, allowed) :: more) = true ↔
      Answers fields label allowed ∧
        admitsFrom (fields.dropWhile (·.label < label)) more = true := by
  have hempty : ¬allowed.isEmpty = true := by simpa using hallowed
  have hrest : Sorted ⟨fields.dropWhile (·.label < label)⟩ :=
    hsorted.sublist (List.dropWhile_sublist _)
  have hfirst : ∀ f ∈ (fields.dropWhile (·.label < label)).head?, ¬f.label < label := by
    intro f hf
    have hnot := List.head?_dropWhile_not (fun f : Field => decide (f.label < label)) fields
    rw [Option.mem_def.mp hf] at hnot
    simpa using hnot
  have hget := get?_eq_head? hrest hfirst
  rw [get?_dropWhile fields (String.le_refl label)] at hget
  rw [admitsFrom, if_neg hempty, Answers, hget]
  dsimp only
  cases (fields.dropWhile (·.label < label)).head? with
  | none => simp
  | some f =>
    by_cases heq : f.label = label <;> simp [heq, Option.filter_some]

/-- The walk: the cursor has passed over labels that are behind all those to come. -/
theorem admitsFrom_iff {entries : List (String × List String)}
    (hentries : entries.Pairwise (·.1 < ·.1)) {fields : List Field} (hsorted : Sorted ⟨fields⟩) :
    admitsFrom fields entries = true ↔
      ∀ e ∈ entries, e.2 ≠ [] → Answers fields e.1 e.2 := by
  induction entries generalizing fields with
  | nil => simp [admitsFrom]
  | cons e more ih =>
    obtain ⟨label, allowed⟩ := e
    obtain ⟨hlabel, hmore⟩ := List.pairwise_cons.mp hentries
    rw [List.forall_mem_cons]
    by_cases hallowed : allowed = []
    · subst hallowed
      have hskip : admitsFrom fields ((label, []) :: more) = admitsFrom fields more := rfl
      rw [hskip, ih hmore hsorted]
      exact (and_iff_right fun h => absurd rfl h).symm
    · have hrest : Sorted ⟨fields.dropWhile (·.label < label)⟩ :=
        hsorted.sublist (List.dropWhile_sublist _)
      rw [admitsFrom_cons hsorted label hallowed, ih hmore hrest]
      refine and_congr ⟨fun h _ => h, fun h => h hallowed⟩ ?_
      refine forall₂_congr fun e he => ?_
      rw [Answers, get?_dropWhile fields (Std.le_of_lt (hlabel e he)), ← Answers]

/-- **Sorted fields are admitted just if looking up every label with allowed values finds one of
them, also where a label is given more than once.** -/
theorem admits_spec {fs : Fields} (h : fs.Sorted) (allowed : Index (List String)) :
    fs.admits allowed = true ↔ ∀ label values, allowed.find? label = some values → values ≠ [] →
      ∃ value, fs.get? label = some value ∧ value ∈ values := by
  obtain ⟨fields⟩ := fs
  rw [admits, admitsFrom_iff allowed.ascending h]
  constructor
  · intro hall label values hfind hne
    obtain ⟨value, hmem, hget⟩ := hall (label, values) (Index.find?_eq_some_iff.mp hfind) hne
    exact ⟨value, hget, hmem⟩
  · rintro hall ⟨label, values⟩ hmem hne
    obtain ⟨value, hget, hvalue⟩ := hall label values (Index.find?_eq_some_iff.mpr hmem) hne
    exact ⟨value, hvalue, hget⟩

/-- A label that is given twice counts with its first value. -/
theorem admits_spec_twice :
    let fs := ofPairs [("color", "blue"), ("size", "s"), ("size", "m")]
    let wanted (size : String) :=
      Index.ofList [("size", [size]), ("shape", []), ("color", ["red", "blue"])]
    fs.Sorted ∧ (∀ label values, (wanted "s").find? label = some values → values ≠ [] →
        ∃ value, fs.get? label = some value ∧ value ∈ values) ∧
      ¬∀ label values, (wanted "m").find? label = some values → values ≠ [] →
        ∃ value, fs.get? label = some value ∧ value ∈ values := by
  intro fs wanted
  have hsorted : fs.Sorted := by
    unfold Sorted
    decide +kernel
  have hfirst : fs.admits (wanted "s") = true := by decide +kernel
  have hsecond : ¬fs.admits (wanted "m") = true := by decide +kernel
  exact ⟨hsorted, (admits_spec hsorted (wanted "s")).mp hfirst,
    fun h => hsecond ((admits_spec hsorted (wanted "m")).mpr h)⟩

end SeriesQuery.Fields
