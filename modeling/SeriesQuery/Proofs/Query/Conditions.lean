import SeriesQuery.Proofs.Query.Pieces

/-!
# Conditions read back from their text

* `Predicate.Formed`, `LabelMatch.Formed` : what the grammar reads, for all conditions;
* `Predicate.quoted?` : the string that is printed in quotes;
* `Predicate.Unescaped`, `LabelMatch.Unescaped` : in which nothing has to be escaped;
* `Closes s` : a comma or a closing brace begins `s`;
* `Grammar.braceRest_intercalate` : items in braces are read back if each of them is;
* `Grammar.predicate_append`, `Grammar.labelMatch_append`, `Grammar.event_append` : conditions and
  events are read back.
-/

namespace SeriesQuery

open Text (Located)

/-! ## Predicates -/

def Predicate.Formed : Predicate → Prop
  | .value _ => True
  | .call name _ => IsIdentifier name

/-- The string that printing puts in quotes, if it does. -/
def Predicate.quoted? : Predicate → Option String
  | .value s => if s != "" && s.toList.all isValueChar then none else some s
  | .call _ arg => some arg

/-- Nothing between the quotes has to be escaped. -/
def Predicate.Unescaped (p : Predicate) : Prop :=
  ∀ s ∈ p.quoted?, ∀ c ∈ s.toList, Text.escape false c = [c]

theorem Predicate.unescaped_iff (p : Predicate) :
    (p.quoted?.all fun s => s.toList.all fun c => Text.escape false c == [c]) = true ↔
      p.Unescaped := by
  unfold Unescaped
  cases p.quoted? <;> simp

instance (p : Predicate) : Decidable p.Unescaped := decidable_of_iff _ p.unescaped_iff

namespace Grammar

open SeriesQuery.Parser

variable {rest : List Char}

theorem predicate_ensures : predicate.Ensures fun p => p.node.Formed := by
  have hcall : predicateCall.Ensures Predicate.Formed := by
    refine ensures_bind fun _ => identifier_ensures.commit.bind fun name hname => ?_
    refine Ensures.commit (ensures_bind fun _ => ensures_bind fun _ => ensures_bind fun _ => ?_)
    exact ensures_bind fun _ => ensures_bind fun _ => ensures_pure hname
  exact (hcall.orElse ((ensures_true value).map Predicate.value fun _ _ => trivial)).located

theorem toList_quote {s : String} (h : ∀ c ∈ s.toList, Text.escape false c = [c]) :
    (Text.quote s).toList = '"' :: (s.toList ++ ['"']) := by
  have hflat : s.toList.flatMap (Text.escape false) = s.toList := by
    rw [List.flatMap_congr h, List.flatMap_singleton']
  rw [Text.quote, Text.quoteWith, String.toList_ofList, hflat]
  rfl

theorem quoted_append {s : String} (h : ∀ c ∈ s.toList, Text.escape false c = [c])
    (rest : List Char) : quoted ((Text.quote s).toList ++ rest) = .done s rest := by
  have hmark : ∀ c ∈ s.toList, (c != '"') = true := by
    intro c hc
    rw [bne_iff_ne]
    rintro rfl
    exact absurd (h '"' hc) (by decide)
  have hstop : Stops (· != '"') ('"' :: rest) := Stops.cons (by decide)
  refine orElse_of_done _ ?_
  rw [toList_quote h, List.cons_append, List.append_assoc, List.singleton_append, quotedBy,
    bind_of_done (char_cons '"' _), bind_of_done (takeWhile_append s.toList hmark hstop),
    bind_of_done (char_cons '"' rest), String.ofList_toList]
  rfl

theorem quoted_refused {s : List Char} (h : Stops ['"'].contains s) (h' : Stops ['\''].contains s) :
    quoted s = .refused s :=
  (orElse_of_refused _ (bind_of_refused (char_refused h))).trans
    (bind_of_refused (char_refused h'))

theorem value_append {s : String} (hne : s ≠ "") (hs : ∀ c ∈ s.toList, isValueChar c = true)
    (hrest : Marked rest) : value (s.toList ++ rest) = .done s rest := by
  have hnil : s.toList ≠ [] := by simpa using hne
  obtain ⟨c, cs, hcs⟩ := List.exists_cons_of_ne_nil hnil
  have hc : isValueChar c = true := hs c (hcs ▸ List.mem_cons_self)
  have hrefused : quoted (s.toList ++ rest) = .refused (s.toList ++ rest) := by
    rw [hcs]
    exact quoted_refused (stops_of_isValueChar hc (by decide) _)
      (stops_of_isValueChar hc (by decide) _)
  refine (orElse_of_refused _ hrefused).trans ?_
  rw [map_of_done _ (takeWhile1_append hnil hs hrest.stops_value), String.ofList_toList]

theorem predicateCall_append {name arg : String} (hname : IsIdentifier name)
    (harg : ∀ c ∈ arg.toList, Text.escape false c = [c]) (rest : List Char) :
    predicateCall ((Predicate.call name arg).text.toList ++ rest) =
      .done (.call name arg) rest := by
  have htext : (Predicate.call name arg).text.toList ++ rest =
      '!' :: (name.toList ++ '(' :: ((Text.quote arg).toList ++ ')' :: rest)) := by
    simp [Predicate.text]
  have hblank : Stops blankChars.contains ((Text.quote arg).toList ++ ')' :: rest) := by
    rw [toList_quote harg]
    exact Stops.cons (by decide)
  rw [htext, predicateCall, bind_of_done (char_cons '!' _),
    bind_of_done (commit_of_done (identifier_append hname (Marked.cons (by decide) _)))]
  refine commit_of_done ?_
  rw [bind_of_done (char_cons '(' _), bind_of_done (blanks_of_stops hblank),
    bind_of_done (orElse_of_done _ (quoted_append harg _)),
    bind_of_done (blanks_of_stops (Stops.cons (by decide))),
    bind_of_done (char_cons ')' rest)]
  rfl

theorem value_text_append {s : String} (h : (Predicate.value s).Unescaped) (hrest : Marked rest) :
    value ((Predicate.value s).text.toList ++ rest) = .done s rest := by
  unfold Predicate.text
  dsimp only
  split
  · next hbare =>
    obtain ⟨hne, hs⟩ := (Bool.and_eq_true _ _).mp hbare
    exact value_append (bne_iff_ne.mp hne) (List.all_eq_true.mp hs) hrest
  · next hbare => exact orElse_of_done _ (quoted_append (h s (if_neg hbare)) rest)

/-- A value is printed as it is, or in quotes. -/
theorem value_text_start (s : String) : ∃ c cs, (Predicate.value s).text.toList = c :: cs ∧
    (isValueChar c = true ∨ c = '"') := by
  unfold Predicate.text
  dsimp only
  split
  · next hbare =>
    obtain ⟨hne, hs⟩ := (Bool.and_eq_true _ _).mp hbare
    have hnil : s.toList ≠ [] := by simpa using bne_iff_ne.mp hne
    obtain ⟨c, cs, hcs⟩ := List.exists_cons_of_ne_nil hnil
    exact ⟨c, cs, hcs, .inl (List.all_eq_true.mp hs c (hcs ▸ List.mem_cons_self))⟩
  · exact ⟨'"', _, String.toList_ofList, .inr rfl⟩

theorem stops_value_text (s : String) {cs : List Char} (hcs : cs ⊆ marks) (hquote : '"' ∉ cs)
    (rest : List Char) : Stops cs.contains ((Predicate.value s).text.toList ++ rest) := by
  obtain ⟨c, ds, htext, hc⟩ := value_text_start s
  rw [htext]
  rcases hc with hc | rfl
  · exact stops_of_isValueChar hc hcs _
  · exact Stops.contains_cons_iff.mpr hquote

theorem stops_predicate_text (p : Predicate) (rest : List Char) :
    Stops blankChars.contains (p.text.toList ++ rest) := by
  cases p with
  | value s => exact stops_value_text s (by decide) (by decide) rest
  | call name arg =>
    have htext : (Predicate.call name arg).text.toList =
        '!' :: (name ++ "(" ++ Text.quote arg ++ ")").toList := by simp [Predicate.text]
    rw [htext]
    exact Stops.cons (by decide)

theorem predicate_append {p : Predicate} (hp : p.Formed) (h : p.Unescaped) (hrest : Marked rest) :
    ∃ x, predicate (p.text.toList ++ rest) = .done x rest ∧ x.node = p := by
  refine ⟨⟨_, p⟩, located_of_done ?_, rfl⟩
  cases p with
  | value s =>
    have hcall : Stops ['!'].contains ((Predicate.value s).text.toList ++ rest) :=
      stops_value_text s (by decide) (by decide) rest
    exact (orElse_of_refused _ (bind_of_refused (char_refused hcall))).trans
      (map_of_done Predicate.value (value_text_append h hrest))
  | call name arg => exact orElse_of_done _ (predicateCall_append hp (h arg rfl) rest)

end Grammar

/-! ## Conditions on a label -/

structure LabelMatch.Formed (m : LabelMatch) : Prop where
  label : IsIdentifier m.label
  predicates_ne_nil : m.predicates ≠ []
  predicates : ∀ p ∈ m.predicates, p.node.Formed

def LabelMatch.Unescaped (m : LabelMatch) : Prop := ∀ p ∈ m.predicates, p.node.Unescaped

/-- A comma or the end of the braces begins `s`. -/
def Closes (s : List Char) : Prop := ∃ c t, s = c :: t ∧ c ∈ [',', '\x7d']

theorem Closes.marked {s : List Char} (h : Closes s) : Marked s := by
  obtain ⟨c, t, rfl, hc⟩ := h
  have hmarks : [',', '\x7d'] ⊆ marks := by decide
  exact Marked.cons (hmarks hc) t

theorem Closes.stops {s : List Char} (h : Closes s) {p : Char → Bool}
    (hp : [',', '\x7d'].any p = false) : Stops p s := by
  obtain ⟨c, t, rfl, hc⟩ := h
  exact Stops.cons (eq_false_of_any hp hc)

namespace Grammar

open SeriesQuery.Parser

variable {rest : List Char}

theorem labelMatch_append {m : LabelMatch} (hm : m.Formed) (h : m.Unescaped)
    (hrest : Closes rest) :
    ∃ x, labelMatch (m.text.toList ++ rest) = .done x rest ∧ x.unplaced = m.unplaced := by
  have htext : m.text.toList ++ rest = m.label.toList ++ ':' :: ' ' ::
      (['|'].intercalate (m.predicates.map (·.node.text.toList)) ++ rest) := by
    simp [LabelMatch.text, String.toList_intercalate, Function.comp_def]
  have hstart (rest : List Char) : Stops blankChars.contains
      (['|'].intercalate (m.predicates.map (·.node.text.toList)) ++ rest) := by
    obtain ⟨p, ps, hps⟩ := List.exists_cons_of_ne_nil hm.predicates_ne_nil
    rw [hps, List.map_cons, intercalate_cons, List.append_assoc]
    exact stops_predicate_text p.node _
  have hlist : ∃ ps, nonEmptyListOf predicate (do blanks; let _ ← char '|'; blanks)
      (['|'].intercalate (m.predicates.map (·.node.text.toList)) ++ rest) = .done ps rest ∧
      ps.map (·.node) = m.predicates.map (·.node) := by
    refine nonEmptyListOf_intercalate hm.predicates_ne_nil (by decide)
      (fun p hp rest hrest => predicate_append (hm.predicates p hp) (h p hp) hrest)
      (fun p _ rest => ⟨(), ?_⟩) (Marked.cons (by decide)) hrest.marked ⟨rest, ?_⟩
    · rw [List.singleton_append, bind_of_done (blanks_of_stops (Stops.cons (by decide))),
        bind_of_done (char_cons '|' _), blanks_of_stops (stops_predicate_text p.node rest)]
    · rw [bind_of_done (blanks_of_stops (hrest.stops (by decide))),
        bind_of_refused (char_refused (hrest.stops (by decide)))]
  obtain ⟨ps, hps, hnodes⟩ := hlist
  refine ⟨⟨m.label, ps⟩, ?_, ?_⟩
  · rw [htext, labelMatch, bind_of_done (identifier_append hm.label (Marked.cons (by decide) _)),
      bind_of_done (blanks_of_stops (Stops.cons (by decide))),
      bind_of_done (char_cons ':' _), bind_of_done (blanks_space (hstart rest)), bind_of_done hps]
    rfl
  · have hplaces := congrArg (List.map (Located.mk [])) hnodes
    rw [List.map_map, List.map_map] at hplaces
    exact congrArg (LabelMatch.mk m.label) hplaces

theorem labelMatch_ensures : labelMatch.Ensures LabelMatch.Formed := by
  refine identifier_ensures.bind fun label hlabel => ?_
  refine ensures_bind fun _ => ensures_bind fun _ => ensures_bind fun _ => ?_
  refine ((predicate_ensures.nonEmptyListOf _).and (nonEmptyListOf_ne_nil _ _)).bind ?_
  exact fun ps hps => ensures_pure ⟨hlabel, hps.2, hps.1⟩

/-! ## Braces -/

section Braces

variable {α β γ : Type} {item : Parser α} {text : β → List Char} {f : α → γ} {g : β → γ}
  {bs : List β}

theorem stops_braces (hstart : ∀ b ∈ bs, ∀ rest,
    Stops gapChars.contains (text b ++ rest)) (rest : List Char) :
    Stops gapChars.contains
      ([',', ' '].intercalate (bs.map text) ++ '\x7d' :: rest) := by
  cases bs with
  | nil => exact Stops.cons (by decide)
  | cons b bs =>
    rw [List.map_cons, intercalate_cons, List.append_assoc]
    exact hstart b List.mem_cons_self _

theorem openBrace_cons {s : List Char} (h : Stops gapChars.contains s) :
    openBrace ('\x7b' :: s) = .done () s := by
  rw [openBrace, bind_of_done (char_cons '\x7b' s), gap_of_stops h]

theorem comma_space {s : List Char} (h : Stops gapChars.contains s) :
    comma (',' :: ' ' :: s) = .done ',' s := by
  rw [comma, bind_of_done (gap_of_stops (Stops.cons (by decide))),
    bind_of_done (char_cons ',' _), bind_of_done (gap_space h)]
  rfl

theorem comma_refused {s : List Char} (h : Stops [' ', '\t', '\r', '\n', ','].contains s) :
    comma s = .refused s := by
  rw [comma, bind_of_done (gap_of_stops (h.of_subset (by decide))),
    bind_of_refused (char_refused (h.of_subset (by decide)))]

/-- Items in braces are read back if each of them is. -/
theorem braceRest_intercalate
    (hitem : ∀ b ∈ bs, ∀ rest, Closes rest → ∃ a, item (text b ++ rest) = .done a rest ∧ f a = g b)
    (hstart : ∀ b ∈ bs, ∀ rest, Stops gapChars.contains (text b ++ rest))
    (hnone : ∀ rest, ∃ place, item ('\x7d' :: rest) = .refused place) (rest : List Char) :
    ∃ as, braceRest item ([',', ' '].intercalate (bs.map text) ++ '\x7d' :: rest) =
      .done as rest ∧ as.map f = bs.map g := by
  have hcomma : comma ('\x7d' :: rest) = .refused ('\x7d' :: rest) :=
    comma_refused (Stops.cons (by decide))
  have hlist : ∃ as, listOf item comma
      ([',', ' '].intercalate (bs.map text) ++ '\x7d' :: rest) = .done as ('\x7d' :: rest) ∧
      as.map f = bs.map g := by
    by_cases hnil : bs = []
    · subst hnil
      obtain ⟨place, hplace⟩ := hnone rest
      exact ⟨[], listOf_of_refused hplace, rfl⟩
    · have hne : ∃ as, nonEmptyListOf item comma
          ([',', ' '].intercalate (bs.map text) ++ '\x7d' :: rest) = .done as ('\x7d' :: rest) ∧
          as.map f = bs.map g := by
        have hends (rest : List Char) : Closes ([',', ' '] ++ rest) :=
          ⟨',', ' ' :: rest, rfl, by decide⟩
        have hend : Closes ('\x7d' :: rest) := ⟨'\x7d', rest, rfl, by decide⟩
        refine nonEmptyListOf_intercalate hnil (List.cons_ne_nil _ _) hitem ?_ hends hend
          ⟨_, hcomma⟩
        exact fun b hb rest => ⟨',', comma_space (hstart b hb rest)⟩
      obtain ⟨as, has, hall⟩ := hne
      exact ⟨as, listOf_of_done has, hall⟩
  obtain ⟨as, has, hall⟩ := hlist
  refine ⟨as, ?_, hall⟩
  rw [braceRest, bind_of_done has, bind_of_done (optional_of_refused hcomma),
    bind_of_done (gap_of_stops (Stops.cons (by decide))),
    bind_of_done (char_cons '\x7d' rest)]
  rfl

end Braces

/-! ## Events -/

theorem matchBody_ensures : matchBody.Ensures fun labels => ∀ m ∈ labels, m.Formed :=
  ensures_bind fun _ => (braceRest_ensures labelMatch_ensures).commit

theorem event_ensures_formed : event.Ensures fun e =>
    ∃ name labels, e = .event name labels ∧ IsIdentifier name ∧ ∀ m ∈ labels, m.Formed := by
  have hlabels : (optional (do blanks; matchBody : Parser _)).Ensures
      fun labels => ∀ m ∈ labels.getD [], m.Formed :=
    (ensures_bind fun _ => matchBody_ensures).optional (fun _ h => h)
      (fun _ h => absurd h List.not_mem_nil)
  refine identifier_ensures.bind fun name hname => hlabels.bind fun labels hlabels => ?_
  exact ensures_pure ⟨name, labels.getD [], rfl, hname, hlabels⟩

theorem matchBody_append {labels : List LabelMatch} (hlabels : ∀ m ∈ labels, m.Formed)
    (h : ∀ m ∈ labels, m.Unescaped) (rest : List Char) :
    ∃ xs, matchBody ('\x7b' :: ([',', ' '].intercalate (labels.map (·.text.toList)) ++
      '\x7d' :: rest)) = .done xs rest ∧ xs.map (·.unplaced) = labels.map (·.unplaced) := by
  have hstart : ∀ m ∈ labels, ∀ rest,
      Stops gapChars.contains (m.text.toList ++ rest) := by
    intro m hm rest
    rw [LabelMatch.text, String.toList_append, String.toList_append, List.append_assoc,
      List.append_assoc]
    exact (hlabels m hm).label.stops (by decide) _
  have hnone (rest : List Char) : ∃ place, labelMatch ('\x7d' :: rest) = .refused place :=
    ⟨_, bind_of_refused (identifier_refused (Stops.cons (by decide +kernel)))⟩
  obtain ⟨xs, hxs, hall⟩ := braceRest_intercalate
    (fun m hm rest hrest => labelMatch_append (hlabels m hm) (h m hm) hrest) hstart hnone rest
  refine ⟨xs, ?_, hall⟩
  rw [matchBody, bind_of_done (openBrace_cons (stops_braces hstart rest)), commit_of_done hxs]

/-- An event without labels stands where no brace opens, be it behind blanks. -/
theorem event_append {name : String} {labels : List LabelMatch} (hname : IsIdentifier name)
    (hlabels : ∀ m ∈ labels, m.Formed) (h : ∀ m ∈ labels, m.Unescaped) {rest : List Char}
    (hrest : Marked rest)
    (hbrace : ∃ place, (do blanks; matchBody : Parser _) rest = .refused place) :
    ∃ x, event ((Expr.event name labels).text.toList ++ rest) = .done x rest ∧
      x.unplaced = (Expr.event name labels).unplaced := by
  unfold Expr.text event
  cases hnil : labels.isEmpty with
  | true =>
    obtain ⟨place, hplace⟩ := hbrace
    obtain rfl := List.isEmpty_iff.mp hnil
    refine ⟨.event name [], ?_, rfl⟩
    rw [if_pos rfl, bind_of_done (identifier_append hname hrest),
      bind_of_done (optional_of_refused hplace)]
    rfl
  | false =>
    obtain ⟨xs, hxs, hall⟩ := matchBody_append hlabels h rest
    have hbody : (do blanks; matchBody : Parser _) ('\x7b' ::
        ([',', ' '].intercalate (labels.map (·.text.toList)) ++ '\x7d' :: rest)) =
        .done xs rest := by
      rw [bind_of_done (blanks_of_stops (Stops.cons (by decide))), hxs]
    refine ⟨.event name xs, ?_, by rw [Expr.unplaced, Expr.unplaced, hall]⟩
    have htext : (name ++ "\x7b" ++ ", ".intercalate (labels.map (·.text)) ++ "\x7d").toList ++
        rest = name.toList ++ '\x7b' ::
          ([',', ' '].intercalate (labels.map (·.text.toList)) ++ '\x7d' :: rest) := by
      simp [String.toList_intercalate, Function.comp_def]
    rw [if_neg nofun, htext, bind_of_done (identifier_append hname (Marked.cons (by decide) _)),
      bind_of_done (optional_of_done hbody)]
    rfl

end Grammar

end SeriesQuery
