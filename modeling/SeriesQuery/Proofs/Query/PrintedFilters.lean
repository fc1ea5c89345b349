import SeriesQuery.Proofs.Query.Concatenation
import SeriesQuery.Proofs.Query.LeafFilters

/-!
# Filters read back from their text

A filter is printed without the quotes that values are written in, with the escapes of quoted text,
and with `&` between conditions on one label, so not all of them are printed as they are written.

* `Matcher.AsWritten`, `Filter.AsWritten` : which of them are;
* `Matcher.written`, `LabelMatch.ofEntry` : the predicates and conditions that are printed alike;
* `Filter.ofLabels_labels` : they give the filter;
* `Query.ofText_printed` : and the text of an event and its filter gives its leaf.
-/

namespace SeriesQuery

open Text (Located)

variable {source : List Char}

/-! ## Conditions -/

namespace Matcher

/-- Printed the way it is written in a query: a value that takes no quotes, or text in quotes that
takes no escapes. -/
def AsWritten : Matcher → Prop
  | .equals s => s ≠ "" ∧ ∀ c ∈ s.toList, isValueChar c = true
  | .startsWith s | .endsWith s => ∀ c ∈ s.toList, Text.escape false c = [c]
  | .regexp r => ∀ c ∈ r.text.toList, Text.escape false c = [c]
  | .any _ | .all _ => False

instance : DecidablePred AsWritten
  | .equals s =>
    decidable_of_iff (s ≠ "" ∧ s.toList.all isValueChar = true) (and_congr_right' List.all_eq_true)
  | .startsWith s | .endsWith s =>
    List.decidableBAll (fun c => Text.escape false c = [c]) s.toList
  | .regexp r => List.decidableBAll (fun c => Text.escape false c = [c]) r.text.toList
  | .any _ | .all _ => inferInstanceAs (Decidable False)

/-- The predicate that is printed like the condition. -/
def written : Matcher → Predicate
  | .startsWith s => .call "prefix" s
  | .endsWith s => .call "suffix" s
  | .regexp r => .call "regexp" r.text
  | m => .value m.text

theorem texts_eq (ms : List Matcher) : texts ms = ms.map text := by
  induction ms with
  | nil => rfl
  | cons m ms ih => rw [texts, ih, List.map_cons]

theorem text_eq (m : Matcher) : m.text = "|".intercalate (m.alternatives.map text) := by
  cases m with
  | any ms => rw [text, texts_eq, alternatives]
  | _ => simp [alternatives]

theorem formed_written : ∀ m : Matcher, m.written.Formed
  | .startsWith _ | .endsWith _ | .regexp _ =>
    ⟨_, _, rfl, by decide +kernel, List.all_eq_true.mp (by decide +kernel)⟩
  | .equals _ | .any _ | .all _ => trivial

namespace AsWritten

theorem bare {s : String} (h : (Matcher.equals s).AsWritten) :
    (s != "" && s.toList.all isValueChar) = true :=
  (Bool.and_eq_true _ _).mpr ⟨bne_iff_ne.mpr h.1, List.all_eq_true.mpr h.2⟩

variable {m : Matcher} (h : m.AsWritten)
include h

theorem text_written : m.written.text = m.text := by
  cases m with
  | equals s => exact if_pos h.bare
  | any | all => contradiction
  | _ => rfl

theorem unescaped_written : m.written.Unescaped := by
  cases m with
  | equals s =>
    intro t ht
    have hnone : (Predicate.value s).quoted? = none := if_pos h.bare
    exact absurd (hnone ▸ ht : t ∈ none) (Option.not_mem_none t)
  | any | all => contradiction
  | _ =>
    rintro _ ⟨⟩
    exact h

theorem ofPredicate_written (start : List Char) :
    ofPredicate source ⟨start, m.written⟩ = .ok m := by
  cases m with
  | regexp r =>
    have hlower : Text.lower "regexp" = "regexp" := by decide +kernel
    unfold ofPredicate written
    simp only [hlower, Regexp.ofText?_text]
  | startsWith s =>
    have hlower : Text.lower "prefix" = "prefix" := by decide +kernel
    unfold ofPredicate written
    simp only [hlower]
  | endsWith s =>
    have hlower : Text.lower "suffix" = "suffix" := by decide +kernel
    unfold ofPredicate written
    simp only [hlower]
  | any | all => contradiction
  | equals s => rfl

end AsWritten

end Matcher

/-! ## Conditions on a label -/

/-- An entry of a filter as a condition in a query. -/
def LabelMatch.ofEntry (e : String × Matcher) : LabelMatch :=
  ⟨e.1, e.2.alternatives.map fun m => ⟨[], m.written⟩⟩

namespace LabelMatch

variable {e : String × Matcher} (h : ∀ m ∈ e.2.alternatives, m.AsWritten)
include h

theorem text_ofEntry : (ofEntry e).text = e.1 ++ ": " ++ e.2.text := by
  rw [ofEntry, text, Matcher.text_eq, List.map_map]
  refine congrArg (fun texts => e.1 ++ ": " ++ "|".intercalate texts) ?_
  exact List.map_congr_left fun m hm => (h m hm).text_written

theorem unescaped_ofEntry : (ofEntry e).Unescaped :=
  List.forall_mem_map.mpr fun m hm => (h m hm).unescaped_written

theorem entry_ofEntry (he : e.2.IsChoice) : (ofEntry e).entry source = .ok e := by
  refine entry_eq_ok.mpr ⟨e.2.alternatives, mapM_ok_iff.mpr ?_, ?_⟩
  · rw [ofEntry, List.forall₂_map_left_iff, List.forall₂_same]
    exact fun m hm => (h m hm).ofPredicate_written []
  · rw [he.anyOf_alternatives]
    rfl

omit h in
theorem formed_ofEntry (hlabel : IsIdentifier e.1) (he : e.2.IsChoice) : (ofEntry e).Formed where
  label := hlabel
  predicates_ne_nil := fun hnil => he.alternatives_ne_nil (List.map_eq_nil_iff.mp hnil)
  predicates := List.forall_mem_map.mpr fun m _ => m.formed_written

end LabelMatch

/-! ## Filters -/

namespace Filter

/-- Printed the way it is written in a query. -/
def AsWritten (f : Filter) : Prop :=
  ∀ e ∈ f.conditions.toList, ∀ m ∈ e.2.alternatives, m.AsWritten

instance : DecidablePred AsWritten := fun f =>
  inferInstanceAs (Decidable (∀ e ∈ f.conditions.toList, ∀ m ∈ e.2.alternatives, m.AsWritten))

/-- What is printed between the braces. -/
def inside (es : List (String × Matcher)) : List Char :=
  [',', ' '].intercalate (es.map fun e => e.1.toList ++ ':' :: ' ' :: e.2.text.toList)

theorem toList_text (f : Filter) (name : String) : (name ++ f.text).toList =
    name.toList ++ '\x7b' :: (inside f.conditions.toList ++ ['\x7d']) := by
  simp [text, inside, String.toList_intercalate, Function.comp_def]

/-- The conditions of a query that are printed like the filter. -/
def labels (f : Filter) : List LabelMatch := f.conditions.toList.map .ofEntry

theorem mem_iff_find? {f : Filter} {e : String × Matcher} :
    e ∈ f.conditions.toList ↔ f.find? e.1 = some e.2 :=
  Index.find?_eq_some_iff.symm

/-- Where conditions can be written: nothing is a conjunction. -/
theorem AsWritten.mem_of_mem {f : Filter} (h : f.AsWritten) {es : List (String × Matcher)}
    (hes : ∀ e ∈ es, e.2.conjuncts = [e.2]) (hf : ofEntries es = f) :
    ∀ e ∈ f.conditions.toList, e ∈ es := by
  intro e he
  have hjoined := mem_iff_find?.mp he
  rw [← hf, find?_ofEntries hes] at hjoined
  obtain ⟨n, ns, hon, ⟨rfl, rfl⟩ | ⟨-, hall⟩⟩ := joined_eq_some hjoined
  · exact mem_of_mem_conditionsOn (hon ▸ List.mem_cons_self)
  · have hnone := h e he e.2
    rw [← hall] at hnone
    exact (hnone List.mem_cons_self).elim

/-- What the conditions of a query compile to, if they are such as can be read. -/
def Readable (es : List (String × Matcher)) : Prop := ∀ e ∈ es, IsIdentifier e.1 ∧ e.2.IsChoice

theorem Readable.conjuncts {es : List (String × Matcher)} (h : Readable es) :
    ∀ e ∈ es, e.2.conjuncts = [e.2] :=
  fun e he => (h e he).2.conjuncts

theorem readable_of_mapM {labels : List LabelMatch} {es : List (String × Matcher)}
    (h : labels.mapM (LabelMatch.entry source) = .ok es) (hlabels : ∀ m ∈ labels, m.Formed) :
    Readable es := by
  intro e he
  obtain ⟨m, hm, hentry⟩ := exists_of_mem_mapM h he
  obtain ⟨ms, -, hlabel⟩ := LabelMatch.entry_eq_ok.mp hentry
  have hformed := hlabels m hm
  exact ⟨hlabel ▸ hformed.label, hformed.isChoice hentry⟩

section

variable {f : Filter} (h : f.AsWritten) (hf : Readable f.conditions.toList)
include h hf

theorem ofLabels_labels : ofLabels source f.labels = .ok f := by
  refine ofLabels_eq_ok.mpr ⟨f.conditions.toList, mapM_ok_iff.mpr ?_, f.ofEntries_toList⟩
  rw [labels, List.forall₂_map_left_iff, List.forall₂_same]
  exact fun e he => LabelMatch.entry_ofEntry (h e he) (hf e he).2

theorem printable_labels {name : String} (hname : IsIdentifier name) :
    (Expr.event name f.labels).Printable := by
  refine List.forall_mem_singleton.mpr ⟨⟨hname, ?_⟩, ?_⟩
  · exact List.forall_mem_map.mpr fun e he => LabelMatch.formed_ofEntry (hf e he).1 (hf e he).2
  · exact List.forall_mem_map.mpr fun e he => LabelMatch.unescaped_ofEntry (h e he)

omit hf in
theorem text_labels (hne : f.isEmpty = false) (name : String) :
    (Expr.event name f.labels).text = name ++ f.text := by
  have htexts : f.labels.map (·.text) =
      f.conditions.toList.map fun e => e.1 ++ ": " ++ e.2.text := by
    rw [labels, List.map_map]
    exact List.map_congr_left fun e he => LabelMatch.text_ofEntry (h e he)
  have hlabels : f.labels.isEmpty = false := by
    rw [labels, List.isEmpty_map]
    exact hne
  rw [Expr.text, if_neg (Bool.eq_false_iff.mp hlabels), htexts, Filter.text]
  simp only [String.append_assoc]

end

end Filter

/-! ## Queries -/

namespace Grammar

open SeriesQuery.Parser

variable {name : String} {s rest : List Char}

theorem isWordStart_of_isSeparating {c : Char} (h : isSeparating c = true) :
    isWordStart c = false := by
  have h : (Text.isBlank c = true ∨ c = ';') ∨ c = ',' := by simpa [isSeparating] using h
  rcases h with (hblank | rfl) | rfl
  · exact isWordStart_of_isBlank hblank
  · decide +kernel
  · decide +kernel

/-- An event with conditions begins no other statement. -/
theorem statement_event_eq_done {body : Parser (List (Located Statement))} {x : Located Statement}
    (hname : IsIdentifier name) : statement body (name.toList ++ '\x7b' :: s) = .done x rest ↔
      ∃ e, expr (name.toList ++ '\x7b' :: s) = .done e rest ∧
        x = ⟨name.toList ++ '\x7b' :: s, .expr none e⟩ := by
  have hstar : ['*'].any isWordStart = false := by decide +kernel
  obtain ⟨_, hnamed⟩ : named.Refuses (name.toList ++ '\x7b' :: s) := by
    refine refuses_bind.mpr (.inr ⟨name, _, identifier_append hname (Marked.cons (by decide) s),
      ?_⟩)
    refine refuses_bind.mpr (.inr ⟨(), _, blanks_of_stops (Stops.cons (by decide)), ?_⟩)
    exact refuses_bind.mpr (.inl (refuses_char.mpr (Stops.cons (by decide))))
  obtain ⟨_, hblock⟩ : (block body).Refuses (name.toList ++ '\x7b' :: s) :=
    refuses_block.mpr (hname.stops (by decide) _)
  obtain ⟨_, hclause⟩ : (Statement.clause <$> clause).Refuses (name.toList ++ '\x7b' :: s) :=
    refuses_map.mpr (refuses_clause.mpr (hname.stops_start (fun c hc =>
      eq_false_of_any hstar (List.contains_iff_mem.mp hc)) _))
  rw [statement, located_eq_done, orElse_of_refused _ hclause, orElse_of_refused _ hblock,
    orElse_of_refused _ hnamed, map_eq_done]
  constructor
  · rintro ⟨hstart, e, he, hnode⟩
    exact ⟨e, he, by rw [← hstart, hnode]⟩
  · rintro ⟨e, he, rfl⟩
    exact ⟨rfl, e, he, rfl⟩

theorem atEnd_event (hname : IsIdentifier name) : atEnd (name.toList ++ s) = false := by
  obtain ⟨c, cs, htext, hc, -⟩ := hname
  have hbrace : isWordStart '\x7d' = false := by decide +kernel
  rw [htext]
  refine Bool.eq_false_iff.mpr fun hend => ?_
  rw [eq_of_beq hend] at hc
  exact Bool.eq_false_iff.mp hbrace hc

/-- The statements of a text that begins with an event with conditions. -/
theorem statements_event_eq_done {body : List (Located Statement)} (hname : IsIdentifier name) :
    statements (name.toList ++ '\x7b' :: s) = .done body rest ↔
      statementsRest (statement (statementsWithin (name.toList ++ '\x7b' :: s).length)) []
        (name.toList ++ '\x7b' :: s) = .done body rest := by
  have hstops := hname.stops_start (fun _ => isWordStart_of_isSeparating) ('\x7b' :: s)
  have hdrop : (name.toList ++ '\x7b' :: s).dropWhile isSeparating = name.toList ++ '\x7b' :: s :=
    (hstops.takeWhile_append (List.forall_mem_nil _)).2
  rw [statements, statementsWithin_eq, statementsFrom, hdrop]

end Grammar

/-- The text of an event and a filter that is printed as it is written gives the leaf of the two. -/
theorem Query.ofText_printed {name : String} {f : Filter} (hname : IsIdentifier name)
    (h : f.AsWritten) (hf : Filter.Readable f.conditions.toList) (hne : f.isEmpty = false)
    (missing : String) : Query.ofText (name ++ f.text) missing = .ok ⟨[.scan ⟨name, f, {}⟩]⟩ := by
  have hprint := Filter.printable_labels h hf hname
  obtain ⟨x, hx, hread⟩ := (Grammar.readsAt _ hprint (Nat.le_refl _)).inside [] .nil
  rw [List.append_nil, Filter.text_labels h hne name, f.toList_text name] at hread
  have hbody : Statement.ofText (name ++ f.text) =
      .ok [⟨(name ++ f.text).toList, .expr none x⟩] := by
    rw [Statement.ofText_eq_ok, f.toList_text name, Grammar.statements_event_eq_done hname,
      Grammar.statementsRest_eq_done]
    exact .inr ⟨Grammar.atEnd_event hname, _, [], [],
      (Grammar.statement_event_eq_done hname).mpr ⟨x, hread, rfl⟩,
      Parser.blanks_of_stops Stops.nil, .inl ⟨rfl, rfl, rfl⟩⟩
  have hleaf : Scope.bareLeaf [] {} [] (.event name f.labels) = .ok (some ⟨name, f, {}⟩) :=
    map_eq_ok.mpr ⟨_, bind_eq_ok.mpr ⟨f, Filter.ofLabels_labels h hf, rfl⟩, rfl⟩
  have hitem : Scope.item [] {} none ⟨[], .event name f.labels⟩ =
      .ok (.node (.scan ⟨name, f, {}⟩)) := bind_eq_ok.mpr ⟨_, hleaf, rfl⟩
  have hitems : Scope.items [] missing {} [⟨[], .expr none ⟨[], .event name f.labels⟩⟩] =
      .ok [.node (.scan ⟨name, f, {}⟩)] :=
    bind_eq_ok.mpr ⟨_, map_eq_ok.mpr ⟨_, hitem, rfl⟩, bind_eq_ok.mpr ⟨[], rfl, rfl⟩⟩
  have hnodes : Scope.nodes [] missing {} [⟨[], .expr none ⟨[], .event name f.labels⟩⟩] =
      .ok [.scan ⟨name, f, {}⟩] := bind_eq_ok.mpr ⟨{}, rfl, bind_eq_ok.mpr ⟨_, hitems, rfl⟩⟩
  refine bind_eq_ok.mpr ⟨_, hbody, bind_eq_ok.mpr ⟨_, Scope.nodes_of_unplaced hnodes ?_, rfl⟩⟩
  simp only [Statement.unplacedAll, Statement.unplaced, hx]

end SeriesQuery
