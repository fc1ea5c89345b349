import SeriesQuery.Proofs.Filters
import SeriesQuery.Proofs.Index

/-!
# Joined conditions and joined filters

Joining conditions appends what they are joined of, so it is associative on the trees themselves.
A joined filter has at each label what its parts have there, joined where both have something, so
the laws of conditions carry over.

* `Matcher.alternatives`, `Matcher.conjuncts` : what a condition is joined of; `Matcher.or_eq`,
  `Matcher.and_eq`;
* `Filter.find?_combine` : the condition of a joined filter on a label;
* `Filter.combine_assoc`, `Filter.accepts_merge` : what follows for filters;
* `Filter.joins_spec` : the laws of all four ways of joining.
-/

namespace SeriesQuery

/-! ## Conditions -/

namespace Matcher

/-- What `or` takes a condition for. -/
def alternatives : Matcher → List Matcher
  | .any ms => ms
  | m => [m]

/-- What `and` takes a condition for. -/
def conjuncts : Matcher → List Matcher
  | .all ms => ms
  | m => [m]

theorem or_eq (m n : Matcher) : m.or n = .any (m.alternatives ++ n.alternatives) := by
  cases m <;> cases n <;> rfl

theorem and_eq (m n : Matcher) : m.and n = .all (m.conjuncts ++ n.conjuncts) := by
  cases m <;> cases n <;> rfl

theorem or_assoc (a b c : Matcher) : (a.or b).or c = a.or (b.or c) := by
  simp only [or_eq, alternatives, List.append_assoc]

theorem and_assoc (a b c : Matcher) : (a.and b).and c = a.and (b.and c) := by
  simp only [and_eq, conjuncts, List.append_assoc]

theorem anyHolds_eq (ms : List Matcher) (value : String) :
    anyHolds ms value = ms.any (·.holds value) := by
  induction ms with
  | nil => rfl
  | cons m ms ih => rw [anyHolds, List.any_cons, ih]

theorem any_alternatives (m : Matcher) (value : String) :
    m.alternatives.any (·.holds value) = m.holds value := by
  cases m with
  | any ms => exact (anyHolds_eq ms value).symm
  | _ => exact Bool.or_false _

theorem holds_or (m n : Matcher) (value : String) :
    (m.or n).holds value = (m.holds value || n.holds value) := by
  rw [or_eq, holds, anyHolds_eq, List.any_append, any_alternatives, any_alternatives]

theorem holds_and (m n : Matcher) (value : String) :
    (m.and n).holds value = (m.holds value && n.holds value) := by
  rw [← holdsWith_finds, holdsWith_and, holdsWith_finds, holdsWith_finds]

end Matcher

/-! ## Filters -/

namespace Filter

/-- The condition on a label. -/
def find? (f : Filter) (label : String) : Option Matcher := f.conditions.find? label

theorem ext_find? {f g : Filter} (h : ∀ label, f.find? label = g.find? label) : f = g :=
  congrArg Filter.mk (Index.ext_find? h)

theorem combine_eq (join : Matcher → Matcher → Matcher) (f g : Filter) :
    f.combine join g =
      ⟨g.conditions.toList.foldl (fun c e => c.update e.1 (·.elim e.2 (join · e.2)))
        f.conditions⟩ := by
  refine congrArg Filter.mk (List.foldl_ext _ _ _ fun c e _ => congrArg (c.update e.1) ?_)
  funext old
  cases old <;> rfl

theorem find?_combine (join : Matcher → Matcher → Matcher) (f g : Filter) (label : String) :
    (f.combine join g).find? label = (f.find? label).merge join (g.find? label) := by
  have hfold : ∀ (entries : List (String × Matcher)), entries.Pairwise (·.1 < ·.1) →
      ∀ conditions : Index Matcher,
        (entries.foldl (fun c e => c.update e.1 (·.elim e.2 (join · e.2))) conditions).find? label =
        (conditions.find? label).merge join (Index.valueAt entries label) := by
    intro entries
    induction entries with
    | nil => exact fun _ conditions => (Option.merge_none_right).symm
    | cons e rest ih =>
      obtain ⟨k, m⟩ := e
      intro hentries conditions
      obtain ⟨hk, hrest⟩ := List.pairwise_cons.mp hentries
      rw [List.foldl_cons, ih hrest, Index.find?_update, Index.valueAt_cons]
      by_cases h : k = label
      · subst h
        -- The other entries are behind this one, so none of them is for the same label.
        rw [if_pos rfl, if_pos rfl, Index.valueAt_eq_none hk, Option.merge_none_right]
        cases conditions.find? k <;> rfl
      · rw [if_neg h, if_neg h]
  rw [combine_eq]
  exact hfold g.conditions.toList g.conditions.ascending f.conditions

theorem combine_assoc {join : Matcher → Matcher → Matcher}
    (h : ∀ a b c, join (join a b) c = join a (join b c)) (f g k : Filter) :
    (f.combine join g).combine join k = f.combine join (g.combine join k) := by
  have : Std.Associative join := ⟨h⟩
  refine ext_find? fun label => ?_
  simp only [find?_combine]
  exact (inferInstance : Std.Associative (Option.merge join)).assoc _ _ _

theorem find?_empty (label : String) : empty.find? label = none := rfl

theorem combine_empty (join : Matcher → Matcher → Matcher) (f : Filter) :
    f.combine join empty = f := rfl

theorem empty_combine (join : Matcher → Matcher → Matcher) (f : Filter) :
    empty.combine join f = f :=
  ext_find? fun label => by rw [find?_combine, find?_empty, Option.merge_none_left]

/-! ### What joined filters accept -/

variable {f g : Filter} {fields : Fields}

theorem and_assoc (f g k : Filter) : (f.and g).and k = f.and (g.and k) :=
  combine_assoc Matcher.and_assoc f g k

theorem empty_and (f : Filter) : empty.and f = f := empty_combine .and f

theorem and_empty (f : Filter) : f.and empty = f := combine_empty .and f

theorem accepts_iff : f.accepts fields = true ↔ ∀ label m, f.find? label = some m →
    ∃ value, fields.get? label = some value ∧ m.holds value = true := by
  unfold accepts find?
  simp only [List.all_eq_true, Prod.forall, Option.any_eq_true, Index.find?_eq_some_iff]

theorem accepts_and : (f.and g).accepts fields = (f.accepts fields && g.accepts fields) := by
  rw [← acceptsWith_finds, acceptsWith_and, acceptsWith_finds, acceptsWith_finds]

theorem accepts_merge : (f.merge g).accepts fields = true ↔
    ∀ label, (f.find? label).isSome ∨ (g.find? label).isSome →
      ∃ value, fields.get? label = some value ∧
        ∃ m, (f.find? label = some m ∨ g.find? label = some m) ∧ m.holds value = true := by
  rw [accepts_iff]
  refine forall_congr' fun label => ?_
  rw [merge, find?_combine]
  cases f.find? label with
  | none => cases g.find? label <;> simp
  | some m =>
    cases g.find? label with
    | none => simp
    | some n => simp [Matcher.holds_or]

/-- **Joining with `or` asks for one of two conditions and joining with `and` for both, however they
are nested, and both are associative on the trees. So is joining filters with `and`, where the empty
filter is neutral; the joined filter accepts what both accept. A merged filter accepts fields that
have each label of either filter with a value that one of the conditions given for it allows.** -/
theorem joins_spec (a b c : Matcher) (value : String) (f g k : Filter) (fields : Fields) :
    (a.or b).holds value = (a.holds value || b.holds value) ∧
    (a.and b).holds value = (a.holds value && b.holds value) ∧
    (a.or b).or c = a.or (b.or c) ∧ (a.and b).and c = a.and (b.and c) ∧
    (f.and g).accepts fields = (f.accepts fields && g.accepts fields) ∧
    (f.and g).and k = f.and (g.and k) ∧ empty.and f = f ∧ f.and empty = f ∧
    ((f.merge g).accepts fields = true ↔
      ∀ label, (f.find? label).isSome ∨ (g.find? label).isSome →
        ∃ value, fields.get? label = some value ∧
          ∃ m, (f.find? label = some m ∨ g.find? label = some m) ∧ m.holds value = true) :=
  ⟨a.holds_or b value, a.holds_and b value, a.or_assoc b c, a.and_assoc b c, accepts_and,
    f.and_assoc g k, f.empty_and, f.and_empty, accepts_merge⟩

end Filter

end SeriesQuery
