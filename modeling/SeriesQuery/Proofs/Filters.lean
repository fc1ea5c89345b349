import SeriesQuery.Proofs.Except
import SeriesQuery.Query.Scope

/-!
# What filters accept

A filter is made of the conditions that are written for labels. What it accepts is said of these
conditions one by one, for any meaning of the patterns in them.

* `Matcher.holdsWith found`, `Filter.acceptsWith found` : conditions and filters where `found` says
  which patterns are found in which values; with `Regexp.finds` they are `Matcher.holds` and
  `Filter.accepts`;
* `Matcher.holdsWith_and`, `Filter.acceptsWith_and` : what is joined asks for both;
* `Predicate.Holds`, `LabelMatch.Satisfied` : the meaning of what is written for a label;
* `Filter.acceptsWith_ofLabels` : a filter asks for all that it is made of, also for one label.
-/

namespace SeriesQuery

open Text (Located)

/-! ## Patterns -/

namespace Regexp

/-- Whether a pattern is found in a value, by the text of the pattern. -/
def finds (pattern value : String) : Bool := (ofText? pattern).any (·.holds value)

theorem ofText?_text (r : Regexp) : ofText? r.text = some r := by
  unfold ofText?
  split
  · next pattern hpattern => exact congrArg some (ext_text rfl)
  · next hnone => exact absurd (r.reads.symm.trans hnone) nofun

theorem finds_text (r : Regexp) (value : String) : finds r.text value = r.holds value := by
  rw [finds, ofText?_text, Option.any_some]

theorem text_of_ofText? {text : String} {r : Regexp} (h : ofText? text = some r) :
    r.text = text := by
  unfold ofText? at h
  split at h
  · rw [← Option.some.inj h]
  · contradiction

end Regexp

/-! ## Conditions on a value -/

namespace Matcher

section

variable (found : String → String → Bool)

mutual

/-- Whether the condition holds, if `found` says which patterns are found in which values. -/
def holdsWith : Matcher → String → Bool
  | .equals s, value => value == s
  | .startsWith s, value => s.toList.isPrefixOf value.toList
  | .endsWith s, value => s.toList.isSuffixOf value.toList
  | .regexp r, value => found r.text value
  | .any ms, value => anyHoldsWith ms value
  | .all ms, value => allHoldWith ms value

def anyHoldsWith : List Matcher → String → Bool
  | [], _ => false
  | m :: ms, value => m.holdsWith value || anyHoldsWith ms value

def allHoldWith : List Matcher → String → Bool
  | [], _ => true
  | m :: ms, value => m.holdsWith value && allHoldWith ms value

end

end

mutual

theorem holdsWith_finds : ∀ (m : Matcher) (value : String),
    m.holdsWith Regexp.finds value = m.holds value
  | .equals _, _ | .startsWith _, _ | .endsWith _, _ => rfl
  | .regexp r, value => r.finds_text value
  | .any ms, value => anyHoldsWith_finds ms value
  | .all ms, value => allHoldWith_finds ms value

theorem anyHoldsWith_finds : ∀ (ms : List Matcher) (value : String),
    anyHoldsWith Regexp.finds ms value = anyHolds ms value
  | [], _ => rfl
  | m :: ms, value => by
    rw [anyHoldsWith, anyHolds, holdsWith_finds m, anyHoldsWith_finds ms]

theorem allHoldWith_finds : ∀ (ms : List Matcher) (value : String),
    allHoldWith Regexp.finds ms value = allHold ms value
  | [], _ => rfl
  | m :: ms, value => by
    rw [allHoldWith, allHold, holdsWith_finds m, allHoldWith_finds ms]

end

variable {found : String → String → Bool}

theorem anyHoldsWith_eq (ms : List Matcher) (value : String) :
    anyHoldsWith found ms value = ms.any (·.holdsWith found value) := by
  induction ms with
  | nil => rfl
  | cons m ms ih => rw [anyHoldsWith, List.any_cons, ih]

theorem allHoldWith_eq (ms : List Matcher) (value : String) :
    allHoldWith found ms value = ms.all (·.holdsWith found value) := by
  induction ms with
  | nil => rfl
  | cons m ms ih => rw [allHoldWith, List.all_cons, ih]

/-- Conditions are flattened when they are joined, which changes nothing. -/
theorem holdsWith_and (m n : Matcher) (value : String) :
    (m.and n).holdsWith found value = (m.holdsWith found value && n.holdsWith found value) := by
  cases m <;> cases n <;>
    simp only [and, holdsWith, allHoldWith, allHoldWith_eq, List.all_append, List.all_cons,
      List.all_nil, Bool.and_true]

theorem holdsWith_anyOf (ms : List Matcher) (value : String) :
    (anyOf ms).holdsWith found value = ms.any (·.holdsWith found value) := by
  unfold anyOf
  split
  · rw [List.any_cons, List.any_nil, Bool.or_false]
  · exact anyHoldsWith_eq ms value

end Matcher

/-! ## Conditions as written -/

/-- What a written predicate says of a value. -/
def Predicate.Holds (found : String → String → Bool) : Predicate → String → Prop
  | .value s, v => v = s
  | .call name arg, v =>
    match Text.lower name with
    | "prefix" => arg.toList <+: v.toList
    | "suffix" => arg.toList <:+ v.toList
    | "regexp" | "regex" => found arg v = true
    | _ => False

/-- The label is there, and its first value is one of those that the alternatives allow. -/
def LabelMatch.Satisfied (found : String → String → Bool) (m : LabelMatch) (fields : Fields) :
    Prop :=
  ∃ value, fields.get? m.label = some value ∧ ∃ p ∈ m.predicates, p.node.Holds found value

variable {source : List Char} {found : String → String → Bool}

theorem Matcher.holdsWith_ofPredicate {p : Located Predicate} {m : Matcher}
    (h : ofPredicate source p = .ok m) (value : String) :
    m.holdsWith found value = true ↔ p.node.Holds found value := by
  obtain ⟨start, p⟩ := p
  cases p with
  | value s =>
    rw [← Except.ok.inj h]
    exact beq_iff_eq
  | call name arg =>
    have hregexp (r : Regexp) (hr : Regexp.ofText? arg = some r) :
        (regexp r).holdsWith found value = true ↔ found arg value = true := by
      rw [holdsWith, Regexp.text_of_ofText? hr]
    unfold ofPredicate at h
    unfold Predicate.Holds
    dsimp only at h ⊢
    generalize Text.lower name = lower at h ⊢
    split at h
    · rw [← Except.ok.inj h]
      exact List.isPrefixOf_iff_prefix
    · rw [← Except.ok.inj h]
      exact List.isSuffixOf_iff_suffix
    · split at h
      · next r hr => exact Except.ok.inj h ▸ hregexp r hr
      · contradiction
    · split at h
      · next r hr => exact Except.ok.inj h ▸ hregexp r hr
      · contradiction
    · contradiction

/-! ## Filters -/

namespace Filter

/-- Whether fields meet the condition that is asked of one label. -/
def meets (found : String → String → Bool) (fields : Fields) (e : String × Matcher) : Bool :=
  (fields.get? e.1).any (e.2.holdsWith found)

/-- Whether the filter accepts fields, if `found` says which patterns are found in which values. -/
def acceptsWith (found : String → String → Bool) (f : Filter) (fields : Fields) : Bool :=
  f.conditions.toList.all (meets found fields)

theorem acceptsWith_finds (f : Filter) (fields : Fields) :
    f.acceptsWith Regexp.finds fields = f.accepts fields := by
  unfold acceptsWith accepts meets
  simp only [funext (Matcher.holdsWith_finds _)]

variable {fields : Fields}

theorem meets_and (label : String) (m n : Matcher) :
    meets found fields (label, m.and n) =
      (meets found fields (label, m) && meets found fields (label, n)) := by
  unfold meets
  cases fields.get? label with
  | none => rfl
  | some value => exact Matcher.holdsWith_and m n value

/-- One more condition on a label, by itself or together with the one that is there. -/
theorem all_place_and (label : String) (m : Matcher) (entries : List (String × Matcher)) :
    (Index.place label (fun | some old => old.and m | none => m) entries).all
        (meets found fields) =
      (entries.all (meets found fields) && meets found fields (label, m)) := by
  induction entries with
  | nil => exact Bool.and_comm _ _
  | cons e rest ih =>
    obtain ⟨k, old⟩ := e
    unfold Index.place
    split
    · rw [List.all_cons, Bool.and_comm]
    · split
      · next heq =>
        subst heq
        rw [List.all_cons, List.all_cons, meets_and, Bool.and_right_comm]
      · rw [List.all_cons, List.all_cons, ih, Bool.and_assoc]

theorem acceptsWith_and (f g : Filter) :
    (f.and g).acceptsWith found fields =
      (f.acceptsWith found fields && g.acceptsWith found fields) := by
  have hfold (entries : List (String × Matcher)) (c : Index Matcher) :
      acceptsWith found ⟨entries.foldl (fun c e =>
          c.update e.1 fun | some old => old.and e.2 | none => e.2) c⟩ fields =
        (acceptsWith found ⟨c⟩ fields && entries.all (meets found fields)) := by
    induction entries generalizing c with
    | nil => exact (Bool.and_true _).symm
    | cons e rest ih =>
      rw [List.foldl_cons, ih, List.all_cons, ← Bool.and_assoc]
      exact congrArg (· && _) (all_place_and e.1 e.2 c.toList)
  exact hfold g.conditions.toList f.conditions

theorem acceptsWith_withLabel {m : LabelMatch} {ms : List Matcher}
    (h : m.predicates.mapM (Matcher.ofPredicate source) = .ok ms) :
    (empty.withLabel m.label (.anyOf ms)).acceptsWith found fields = true ↔
      m.Satisfied found fields := by
  have halternatives (value : String) : ms.any (·.holdsWith found value) = true ↔
      ∃ p ∈ m.predicates, p.node.Holds found value := by
    generalize m.predicates = ps at h
    have hall := mapM_ok_iff.mp h
    clear h
    induction hall with
    | nil => exact ⟨nofun, nofun⟩
    | cons hp _ ih =>
      rw [List.any_cons, Bool.or_eq_true, List.exists_mem_cons_iff]
      exact or_congr (Matcher.holdsWith_ofPredicate hp value) ih
  have hentry : (empty.withLabel m.label (.anyOf ms)).acceptsWith found fields =
      meets found fields (m.label, .anyOf ms) := Bool.and_true _
  rw [hentry, meets, Option.any_eq_true]
  refine exists_congr fun value => and_congr_right fun _ => ?_
  rw [Matcher.holdsWith_anyOf, halternatives]

/-- The conditions on a label that is repeated add up. -/
theorem acceptsWith_ofLabels {labels : List LabelMatch} {f : Filter}
    (h : ofLabels source labels = .ok f) :
    f.acceptsWith found fields = true ↔ ∀ m ∈ labels, m.Satisfied found fields := by
  have hfold : ∀ (labels : List LabelMatch) (f g : Filter),
      labels.foldlM (fun f m => do
        let ms ← m.predicates.mapM (Matcher.ofPredicate source)
        return f.and (empty.withLabel m.label (.anyOf ms))) f = .ok g →
      (g.acceptsWith found fields = true ↔
        f.acceptsWith found fields = true ∧ ∀ m ∈ labels, m.Satisfied found fields) := by
    intro labels
    induction labels with
    | nil =>
      intro f g h
      rw [← Except.ok.inj h]
      exact (and_iff_left (List.forall_mem_nil _)).symm
    | cons m labels ih =>
      intro f g h
      rw [List.foldlM_cons] at h
      obtain ⟨f', hf', h⟩ := bind_eq_ok.mp h
      obtain ⟨ms, hms, hf'⟩ := bind_eq_ok.mp hf'
      rw [ih f' g h, ← Except.ok.inj hf', acceptsWith_and, Bool.and_eq_true,
        acceptsWith_withLabel hms, List.forall_mem_cons, and_assoc]
  exact (hfold labels empty f h).trans (and_iff_right rfl)

end Filter

end SeriesQuery
