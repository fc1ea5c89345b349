import SeriesQuery.Proofs.Joins
import SeriesQuery.Proofs.Query.References

/-!
# The filters of leaves

The filter of a leaf has the conditions that its event stands under, one for each label: where a
label is repeated, all that is said of it.

* `LabelMatch.entry`, `Filter.ofEntries` : conditions as entries, and the filter of several;
* `Filter.ofLabels_eq_ok`, `Filter.tracks_ofLabels` : conditions in a query give such a filter;
* `Filter.joined`, `Filter.find?_ofEntries` : what it says of a label;
* `Statement.Formed`, `Reference.Formed` : what the grammar reads, for statements and events;
* `Query.exists_reference` : the event of a leaf, and its conditions.
-/

namespace SeriesQuery

open Text (Located)

variable {source : List Char}

/-! ## Conditions on a label -/

/-- A condition in a query as an entry of a filter. -/
def LabelMatch.entry (source : List Char) (m : LabelMatch) :
    Except QueryError (String × Matcher) := do
  return (m.label, .anyOf (← m.predicates.mapM (Matcher.ofPredicate source)))

theorem LabelMatch.entry_eq_ok {m : LabelMatch} {e : String × Matcher} :
    m.entry source = .ok e ↔
      ∃ ms, m.predicates.mapM (Matcher.ofPredicate source) = .ok ms ∧ (m.label, .anyOf ms) = e := by
  simp only [entry, bind_eq_ok]
  exact exists_congr fun ms => and_congr_right fun _ => ⟨Except.ok.inj, fun h => h ▸ rfl⟩

namespace Matcher

theorem ofPredicate_cases {p : Located Predicate} {m : Matcher} (h : ofPredicate source p = .ok m) :
    (∃ v, p.node = .value v ∧ m = .equals v) ∨ ∃ name arg, p.node = .call name arg ∧
      (m = .startsWith arg ∨ m = .endsWith arg ∨ ∃ r : Regexp, r.text = arg ∧ m = .regexp r) := by
  unfold ofPredicate at h
  split at h
  · next v hnode => exact .inl ⟨v, hnode, (Except.ok.inj h).symm⟩
  · next name arg hnode =>
    refine .inr ⟨name, arg, hnode, ?_⟩
    split at h
    · exact .inl (Except.ok.inj h).symm
    · exact .inr (.inl (Except.ok.inj h).symm)
    · split at h
      · next r hr => exact .inr (.inr ⟨r, Regexp.text_of_ofText? hr, (Except.ok.inj h).symm⟩)
      · contradiction
    · split at h
      · next r hr => exact .inr (.inr ⟨r, Regexp.text_of_ofText? hr, (Except.ok.inj h).symm⟩)
      · contradiction
    · contradiction

/-- A predicate gives a condition of its own: no alternatives, and no conjunction. -/
theorem parts_ofPredicate {p : Located Predicate} {m : Matcher} (h : ofPredicate source p = .ok m) :
    m.alternatives = [m] ∧ m.conjuncts = [m] := by
  rcases ofPredicate_cases h with ⟨v, -, rfl⟩ | ⟨_, _, -, rfl | rfl | ⟨r, -, rfl⟩⟩ <;>
    exact ⟨rfl, rfl⟩

theorem alternatives_anyOf {ms : List Matcher} (h : ∀ m ∈ ms, m.alternatives = [m]) :
    (anyOf ms).alternatives = ms := by
  match ms with
  | [] => rfl
  | [m] => exact h m List.mem_cons_self
  | _ :: _ :: _ => rfl

theorem conjuncts_anyOf {ms : List Matcher} (h : ∀ m ∈ ms, m.conjuncts = [m]) :
    (anyOf ms).conjuncts = [anyOf ms] := by
  match ms with
  | [] => rfl
  | [m] => exact h m List.mem_cons_self
  | _ :: _ :: _ => rfl

/-- One condition of its own, or several as alternatives. -/
structure IsChoice (m : Matcher) : Prop where
  alternatives_ne_nil : m.alternatives ≠ []
  anyOf_alternatives : anyOf m.alternatives = m
  conjuncts : m.conjuncts = [m]

end Matcher

theorem LabelMatch.Formed.isChoice {m : LabelMatch} (hm : m.Formed) {e : String × Matcher}
    (h : m.entry source = .ok e) : e.2.IsChoice := by
  obtain ⟨ms, hms, rfl⟩ := LabelMatch.entry_eq_ok.mp h
  have hparts : ∀ n ∈ ms, n.alternatives = [n] ∧ n.conjuncts = [n] := by
    intro n hn
    obtain ⟨p, -, hp⟩ := exists_of_mem_mapM hms hn
    exact Matcher.parts_ofPredicate hp
  have halternatives := Matcher.alternatives_anyOf fun n hn => (hparts n hn).1
  have hconjuncts := Matcher.conjuncts_anyOf fun n hn => (hparts n hn).2
  refine ⟨?_, congrArg Matcher.anyOf halternatives, hconjuncts⟩
  rw [halternatives]
  rintro rfl
  exact hm.predicates_ne_nil (List.forall₂_nil_right_iff.mp (mapM_ok_iff.mp hms))

/-! ## Filters -/

namespace Filter

/-- The filter of these conditions, which add up where they share a label. -/
def ofEntries (es : List (String × Matcher)) : Filter :=
  es.foldl (fun f e => f.and (empty.withLabel e.1 e.2)) empty

theorem foldl_and (f : Filter) (es : List (String × Matcher)) :
    es.foldl (fun f e => f.and (empty.withLabel e.1 e.2)) f = f.and (ofEntries es) := by
  induction es generalizing f with
  | nil => exact f.and_empty.symm
  | cons e es ih =>
    rw [ofEntries, List.foldl_cons, List.foldl_cons, ih, ih, empty_and, and_assoc]

theorem ofEntries_cons (e : String × Matcher) (es : List (String × Matcher)) :
    ofEntries (e :: es) = (empty.withLabel e.1 e.2).and (ofEntries es) := by
  rw [ofEntries, List.foldl_cons, foldl_and, empty_and]

theorem ofEntries_append (es ds : List (String × Matcher)) :
    ofEntries (es ++ ds) = (ofEntries es).and (ofEntries ds) := by
  rw [ofEntries, List.foldl_append, foldl_and]
  rfl

theorem ofLabels_eq_ok {labels : List LabelMatch} {f : Filter} : ofLabels source labels = .ok f ↔
    ∃ es, labels.mapM (LabelMatch.entry source) = .ok es ∧ ofEntries es = f := by
  have hfold : ∀ (labels : List LabelMatch) (g : Filter), labels.foldlM (fun f m => do
        let ms ← m.predicates.mapM (Matcher.ofPredicate source)
        return f.and (empty.withLabel m.label (.anyOf ms))) g = .ok f ↔
      ∃ es, labels.mapM (LabelMatch.entry source) = .ok es ∧ g.and (ofEntries es) = f := by
    intro labels
    induction labels with
    | nil =>
      refine fun g => ⟨fun h => ⟨[], rfl, Except.ok.inj h⟩, ?_⟩
      rintro ⟨_, ⟨⟩, rfl⟩
      rfl
    | cons m labels ih =>
      intro g
      simp only [List.foldlM_cons, List.mapM_cons, bind_eq_ok, LabelMatch.entry_eq_ok, ih]
      constructor
      · rintro ⟨_, ⟨ms, hms, ⟨⟩⟩, es, hes, rfl⟩
        exact ⟨_, ⟨_, ⟨ms, hms, rfl⟩, es, hes, rfl⟩, by rw [ofEntries_cons, and_assoc]⟩
      · rintro ⟨_, ⟨_, ⟨ms, hms, rfl⟩, es, hes, ⟨⟩⟩, rfl⟩
        exact ⟨_, ⟨ms, hms, rfl⟩, es, hes, by rw [ofEntries_cons, and_assoc]⟩
  rw [ofLabels, hfold]
  exact exists_congr fun es => and_congr_right fun _ => iff_of_eq
    (congrArg (· = f) (ofEntries es).empty_and)

theorem tracks_ofLabels (source : List Char) :
    Tracks source fun f conditions => ofLabels source conditions = .ok f where
  empty := rfl
  and hf hg := by
    obtain ⟨es, hes, rfl⟩ := ofLabels_eq_ok.mp hf
    obtain ⟨ds, hds, rfl⟩ := ofLabels_eq_ok.mp hg
    exact ofLabels_eq_ok.mpr ⟨es ++ ds,
      mapM_ok_iff.mpr (List.rel_append (mapM_ok_iff.mp hes) (mapM_ok_iff.mp hds)),
      ofEntries_append es ds⟩
  ofLabels h := h

/-! ### What a filter says of a label -/

/-- All of these conditions, of which none is a conjunction. -/
def joined : List Matcher → Option Matcher
  | [] => none
  | [m] => some m
  | ms => some (.all ms)

/-- The conditions on a label. -/
def conditionsOn (label : String) (es : List (String × Matcher)) : List Matcher :=
  (es.filter (·.1 = label)).map (·.2)

theorem conditionsOn_cons (label : String) (e : String × Matcher) (es : List (String × Matcher)) :
    conditionsOn label (e :: es) =
      if e.1 = label then e.2 :: conditionsOn label es else conditionsOn label es := by
  unfold conditionsOn
  rw [List.filter_cons]
  simp only [decide_eq_true_eq]
  split <;> rfl

theorem mem_of_mem_conditionsOn {label : String} {m : Matcher} {es : List (String × Matcher)}
    (h : m ∈ conditionsOn label es) : (label, m) ∈ es := by
  obtain ⟨e, he, rfl⟩ := List.mem_map.mp h
  obtain ⟨he, hlabel⟩ := List.mem_filter.mp he
  rwa [← of_decide_eq_true hlabel]

theorem joined_eq_some {m : Matcher} {ms : List Matcher} (h : joined ms = some m) :
    ∃ n ns, ms = n :: ns ∧ (ns = [] ∧ n = m ∨ ns ≠ [] ∧ .all (n :: ns) = m) := by
  match ms with
  | [] => contradiction
  | [n] => exact ⟨n, [], rfl, .inl ⟨rfl, Option.some.inj h⟩⟩
  | n :: k :: ms => exact ⟨n, k :: ms, rfl, .inr ⟨List.cons_ne_nil k ms, Option.some.inj h⟩⟩

theorem joined_cons {m : Matcher} {ms : List Matcher} (h : ∀ n ∈ m :: ms, n.conjuncts = [n]) :
    joined (m :: ms) = (some m).merge .and (joined ms) := by
  have hm := h m List.mem_cons_self
  match ms with
  | [] => rfl
  | [n] =>
    have hn := h n (List.mem_cons_of_mem m List.mem_cons_self)
    exact congrArg some (by rw [Matcher.and_eq, hm, hn]; rfl)
  | n :: k :: ms => exact congrArg some (by rw [Matcher.and_eq, hm]; rfl)

theorem find?_ofEntries {es : List (String × Matcher)} (h : ∀ e ∈ es, e.2.conjuncts = [e.2])
    (label : String) : (ofEntries es).find? label = joined (conditionsOn label es) := by
  induction es with
  | nil => rfl
  | cons e es ih =>
    have hone : (empty.withLabel e.1 e.2).find? label = if e.1 = label then some e.2 else none :=
      Index.valueAt_cons e.1 e.2 [] label
    have hes := List.forall_mem_of_forall_mem_cons h
    rw [ofEntries_cons, and, find?_combine, hone, ih hes, conditionsOn_cons]
    split
    · have hall : ∀ n ∈ e.2 :: conditionsOn label es, n.conjuncts = [n] :=
        List.forall_mem_cons.mpr ⟨h e List.mem_cons_self, fun n hn =>
          hes _ (mem_of_mem_conditionsOn hn)⟩
      exact (joined_cons hall).symm
    · exact Option.merge_none_left

/-- A filter is that of its own entries. -/
theorem ofEntries_toList (f : Filter) : ofEntries f.conditions.toList = f := by
  have hfold : ∀ (es : List (String × Matcher)) (g : Filter),
      es.foldl (fun f e => f.and (empty.withLabel e.1 e.2)) g =
        ⟨es.foldl (fun c e => c.update e.1 (·.elim e.2 (·.and e.2))) g.conditions⟩ := by
    intro es
    induction es with
    | nil => exact fun _ => rfl
    | cons e es ih =>
      intro g
      have hlabel : g.and (empty.withLabel e.1 e.2) =
          ⟨g.conditions.update e.1 (·.elim e.2 (·.and e.2))⟩ := combine_eq .and g _
      rw [List.foldl_cons, List.foldl_cons, ih, hlabel]
  have hempty := f.empty_and
  rw [and, combine_eq] at hempty
  exact (hfold f.conditions.toList empty).trans hempty

end Filter

/-! ## What is read -/

/-- An event and its conditions as they can be written. -/
structure Reference.Formed (r : Reference) : Prop where
  event : IsIdentifier r.event
  conditions : ∀ m ∈ r.conditions, m.Formed

theorem Expr.WellFormed.references {e : Expr} (h : e.WellFormed) {filters : List LabelMatch}
    (hfilters : ∀ m ∈ filters, m.Formed) : ∀ r ∈ e.references filters, r.Formed := by
  intro r hr
  obtain ⟨f, hf, hr⟩ := List.mem_filterMap.mp hr
  cases f with
  | event name labels =>
    obtain ⟨hname, hlabels⟩ := h _ hf
    rw [← Option.some.inj hr]
    exact ⟨hname, List.forall_mem_append.mpr ⟨hlabels, hfilters⟩⟩
  | _ => contradiction

namespace Statement

mutual

def Formed : Statement → Prop
  | .expr _ e => e.node.WellFormed
  | .block body => AllFormed body
  | .clause c => ∀ m ∈ c.labels, m.Formed

def AllFormed : List (Located Statement) → Prop
  | [] => True
  | s :: rest => s.node.Formed ∧ AllFormed rest

end

theorem allFormed_iff {body : List (Located Statement)} :
    AllFormed body ↔ ∀ s ∈ body, s.node.Formed := by
  induction body with
  | nil => exact ⟨fun _ => List.forall_mem_nil _, fun _ => trivial⟩
  | cons s rest ih => rw [AllFormed, ih, List.forall_mem_cons]

theorem formed_filtersIn {filters : List LabelMatch} {body : List (Located Statement)}
    (hfilters : ∀ m ∈ filters, m.Formed) (h : AllFormed body) :
    ∀ m ∈ filtersIn filters body, m.Formed := by
  unfold filtersIn
  split
  · exact hfilters
  · refine List.forall_mem_flatMap.mpr fun c hc => ?_
    obtain ⟨⟨start, s⟩, hs, hclause⟩ := List.mem_filterMap.mp (List.mem_filter.mp hc).1
    cases s with
    | clause d => exact Option.some.inj hclause ▸ allFormed_iff.mp h _ hs
    | _ => contradiction

mutual

theorem formed_runs : ∀ (s : Statement) {filters : List LabelMatch} {grouped : Bool}, s.Formed →
    (∀ m ∈ filters, m.Formed) → ∀ run ∈ s.runs filters grouped, ∀ r ∈ run.elements, r.Formed
  | .clause _, _, _, _, _ => List.forall_mem_nil _
  | .expr _ e, _, _, h, hfilters => List.forall_mem_singleton.mpr (h.references hfilters)
  | .block body, _, _, h, hfilters => by
    refine List.forall_mem_singleton.mpr fun r hr => ?_
    obtain ⟨run, hrun, hr⟩ := List.mem_flatMap.mp ((Run.gathered_perm _).mem_iff.mp hr)
    exact formed_runsOf body h (formed_filtersIn hfilters h) run hrun r hr

theorem formed_runsOf : ∀ (body : List (Located Statement)) {filters : List LabelMatch}
    {grouped : Bool}, AllFormed body → (∀ m ∈ filters, m.Formed) →
      ∀ run ∈ runsOf filters grouped body, ∀ r ∈ run.elements, r.Formed
  | [], _, _, _, _ => List.forall_mem_nil _
  | s :: rest, _, _, h, hfilters => List.forall_mem_append.mpr
    ⟨formed_runs s.node h.1 hfilters, formed_runsOf rest h.2 hfilters⟩

end

theorem formed_references {body : List (Located Statement)} (h : AllFormed body) :
    ∀ r ∈ references body, r.Formed := by
  intro r hr
  obtain ⟨run, hrun, hr⟩ := List.mem_flatMap.mp ((Run.gathered_perm _).mem_iff.mp hr)
  exact formed_runsOf body h (formed_filtersIn (List.forall_mem_nil _) h) run hrun r hr

end Statement

namespace Grammar

open SeriesQuery.Parser

theorem clause_ensures_formed : clause.Ensures fun c => ∀ m ∈ c.labels, m.Formed := by
  have hfilter : filterClause.Ensures fun c => ∀ m ∈ c.labels, m.Formed :=
    ensures_bind fun _ => ensures_bind fun _ => matchBody_ensures.bind fun _ h => ensures_pure h
  have hgroup : groupClause.Ensures fun c => ∀ m ∈ c.labels, m.Formed :=
    ensures_bind fun _ => ensures_bind fun _ => ensures_bind fun _ => ensures_bind fun _ =>
      ensures_bind fun _ => ensures_bind fun _ => ensures_pure (List.forall_mem_nil _)
  have hoffset : offsetClause.Ensures fun c => ∀ m ∈ c.labels, m.Formed :=
    ensures_bind fun _ => ensures_bind fun _ => ensures_bind fun _ =>
      ensures_pure (List.forall_mem_nil _)
  exact ensures_bind fun _ => Ensures.commit (hfilter.orElse (hgroup.orElse hoffset))

theorem statement_ensures_formed {body : Parser (List (Located Statement))}
    (h : body.Ensures Statement.AllFormed) : (statement body).Ensures fun x => x.node.Formed := by
  have hblock : (block body).Ensures Statement.Formed :=
    ensures_bind fun _ => h.commit.bind fun _ hbody => ensures_bind fun _ => ensures_pure hbody
  have hnamed : named.Ensures Statement.Formed :=
    ensures_bind fun _ => ensures_bind fun _ => ensures_bind fun _ => ensures_bind fun _ =>
      expr_ensures_wellFormed.commit.bind fun _ he => ensures_pure he
  have halone : (Statement.expr none <$> expr).Ensures Statement.Formed :=
    expr_ensures_wellFormed.map _ fun _ he => he
  exact ((clause_ensures_formed.map Statement.clause fun _ hc => hc).orElse
    (hblock.orElse (hnamed.orElse halone))).located

theorem statements_ensures_formed : statements.Ensures Statement.AllFormed := by
  have hwithin (depth : Nat) : (statementsWithin depth).Ensures Statement.AllFormed := by
    induction depth with
    | zero => exact ensures_refuse
    | succ depth ih =>
      refine ensures_bind fun _ s body rest hs => Statement.allFormed_iff.mpr ?_
      exact statementsRest_ensures (statement_ensures_formed ih) (List.forall_mem_nil _)
        s body rest hs
  exact fun s => hwithin (s.length + 1) s

end Grammar

theorem Statement.allFormed_of_ofText {source : String} {body : List (Located Statement)}
    (h : Statement.ofText source = .ok body) : Statement.AllFormed body := by
  obtain ⟨rest, hbody⟩ := exists_of_ofText h
  exact Grammar.statements_ensures_formed _ _ _ hbody

/-- A leaf is there for an event, and its filter has the conditions of the event. -/
theorem Query.exists_reference {source missing : String} {q : Query Float}
    (h : Query.ofText source missing = .ok q) {leaf : Leaf} (hleaf : leaf ∈ q.leaves) :
    ∃ r : Reference, r.Formed ∧ leaf.event = r.event ∧
      Filter.ofLabels source.toList r.conditions = .ok leaf.filter := by
  obtain ⟨body, hbody, hleaves⟩ := refers_leaves h (Filter.tracks_ofLabels _)
  obtain ⟨r, hr, hrefers⟩ := exists_of_forall₂ hleaves leaf hleaf
  have hformed := Statement.formed_references (Statement.allFormed_of_ofText hbody) r hr
  exact ⟨r, hformed, hrefers.event, hrefers.filter⟩

end SeriesQuery
