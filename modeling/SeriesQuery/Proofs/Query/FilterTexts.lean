import SeriesQuery.Proofs.Query.PrintedFilters

/-!
# What the text of a filter is read as

Reading follows the text of a filter condition by condition. As long as it finds the conditions that
were printed, it is where the next one begins, so it finds all of them only if all are printed as
they are written.

* `Text.eq_of_escaped` : quoted text that is read as it was had no escapes;
* `Delimits s` : what stands behind a condition in the text of a filter begins `s`;
* `Grammar.predicate_text`, `Grammar.labelMatch_text`, `Grammar.asWritten_of_matchBody` : conditions
  that are found again;
* `Query.reread_spec` : the filters that are read back.
-/

namespace SeriesQuery

open Text (Located)

variable {source : List Char}

/-! ## Escapes -/

namespace Text

theorem escape_cases (c : Char) :
    escape false c = [c] ∨ ∃ t, escape false c = '\\' :: t := by
  unfold escape
  split
  any_goals exact .inr ⟨_, rfl⟩
  split
  · exact .inr ⟨_, rfl⟩
  · split
    · exact .inr ⟨_, rfl⟩
    · exact .inl rfl

/-- Behind what is left of escapes before it, text is only read as it was if none of it is
escaped. -/
theorem eq_of_escaped {front back : List Char} {n : Nat} : ∀ {text : List Char},
    List.replicate n '\\' ++ (text.flatMap (escape false) ++ '"' :: front) = text ++ '"' :: back →
      n = 0 ∧ (∀ c ∈ text, escape false c = [c]) ∧ front = back
  | [], h => by
    cases n with
    | zero => exact ⟨rfl, List.forall_mem_nil _, (List.cons.inj h).2⟩
    | succ n => exact absurd (List.cons.inj h).1 (by decide)
  | c :: text, h => by
    cases n with
    | succ n =>
      obtain rfl : '\\' = c := (List.cons.inj h).1
      have hmore : List.replicate (n + 2) '\\' ++ (text.flatMap (escape false) ++ '"' :: front) =
          text ++ '"' :: back := by
        have htail : List.replicate n '\\' ++ (['\\', '\\'] ++ text.flatMap (escape false) ++
            '"' :: front) = text ++ '"' :: back := (List.cons.inj h).2
        rw [← htail, List.replicate_add, List.append_assoc, List.append_assoc]
        rfl
      exact absurd (eq_of_escaped hmore).1 (by omega)
    | zero =>
      rw [List.replicate_zero, List.nil_append, List.flatMap_cons, List.append_assoc] at h
      rcases escape_cases c with hc | ⟨t, ht⟩
      · rw [hc] at h
        obtain ⟨-, hall, hback⟩ := eq_of_escaped (n := 0) (List.cons.inj h).2
        exact ⟨rfl, List.forall_mem_cons.mpr ⟨hc, hall⟩, hback⟩
      · obtain rfl : '\\' = c := (List.cons.inj (ht ▸ h)).1
        obtain ⟨-, h⟩ := List.cons.inj h
        exact absurd (eq_of_escaped (n := 1) h).1 (by decide)

end Text

/-! ## Conditions -/

/-- What stands behind a condition in the text of a filter begins `s`. -/
def Delimits (s : List Char) : Prop := ∃ c t, s = c :: t ∧ c ∈ ['|', '&', ',', '\x7d']

namespace Delimits

theorem cons {c : Char} (h : c ∈ ['|', '&', ',', '\x7d']) (s : List Char) : Delimits (c :: s) :=
  ⟨c, s, rfl, h⟩

theorem stops {s : List Char} (h : Delimits s) {p : Char → Bool}
    (hp : ['|', '&', ',', '\x7d'].any p = false) : Stops p s := by
  obtain ⟨c, t, rfl, hc⟩ := h
  exact Stops.cons (eq_false_of_any hp hc)

end Delimits

namespace Grammar

open SeriesQuery.Parser

variable {s mid rest behind : List Char}

theorem predicateCall_text {word name arg : String} (hword : IsIdentifier word)
    (h : predicateCall ((Predicate.call word arg).text.toList ++ behind) =
      .done (.call name arg) mid) :
    (∀ c ∈ arg.toList, Text.escape false c = [c]) ∧ mid = behind := by
  have htext : (Predicate.call word arg).text.toList ++ behind =
    '!' :: (word.toList ++ '(' :: '"' ::
      (arg.toList.flatMap (Text.escape false) ++ '"' :: ')' :: behind)) := by
    simp [Predicate.text, Text.quote, Text.quoteWith]
  rw [htext] at h
  obtain ⟨_, _, s₁, s₂, s₃, s₄, hnode, hs, hname, h₃, harg, h₄⟩ := predicateCall_eq_done.mp h
  obtain ⟨rfl, rfl⟩ := Predicate.call.inj hnode
  obtain rfl := (List.cons.inj hs).2
  obtain ⟨-, hs₂⟩ := Reply.done.inj
    (hname.symm.trans (identifier_append hword (Marked.cons (by decide) _)))
  obtain rfl := (List.cons.inj hs₂).2
  obtain ⟨-, rfl⟩ := Reply.done.inj (h₃.symm.trans (blanks_of_stops (Stops.cons (by decide))))
  rcases orElse_eq_done.mp harg with hquoted | ⟨hrefuses, -⟩
  · obtain ⟨mark, -, hquoted⟩ := quoted_eq_done.mp hquoted
    obtain ⟨cs, rfl, heq, -⟩ := quotedBy_eq_done.mp hquoted
    obtain ⟨rfl, heq⟩ := List.cons.inj heq
    rw [String.toList_ofList] at heq ⊢
    obtain ⟨-, hall, rfl⟩ := Text.eq_of_escaped (n := 0) heq
    obtain ⟨-, heq⟩ := Reply.done.inj (h₄.symm.trans (blanks_of_stops (Stops.cons (by decide))))
    exact ⟨hall, (List.cons.inj heq).2⟩
  · refine absurd ?_ (refuses_quoted.mp hrefuses '"' (by decide) _ rfl)
    exact List.mem_append_right _ List.mem_cons_self

/-- A mark that quotes a value would stand behind the value, or in it. -/
theorem append_ne_of_quoted (hbehind : Delimits behind) {mark : Char} (hmark : mark ∈ quoteMarks)
    {bs cs more : List Char} (hbs : ∀ b ∈ bs, blankChars.contains b = true) (hcs : mark ∉ cs) :
    cs ++ behind ≠ bs ++ mark :: more := by
  intro heq
  have hends : Stops (blankChars ++ quoteMarks).contains behind := hbehind.stops (by decide)
  rcases List.append_eq_append_iff.mp heq with ⟨as, rfl, rfl⟩ | ⟨as, rfl, hmore⟩
  · cases as with
    | nil => exact absurd (List.mem_append_right _ hmark) (Stops.contains_cons_iff.mp hends)
    | cons a as =>
      have ha := hbs a (List.mem_append_right _ List.mem_cons_self)
      have hblank : a ∈ blankChars := List.contains_iff_mem.mp ha
      exact absurd (List.mem_append_left _ hblank) (Stops.contains_cons_iff.mp hends)
  · cases as with
    | nil =>
      rw [List.nil_append] at hmore
      rw [← hmore] at hends
      exact absurd (List.mem_append_right _ hmark) (Stops.contains_cons_iff.mp hends)
    | cons a as =>
      obtain ⟨rfl, -⟩ := List.cons.inj hmore
      exact absurd (List.mem_append_right _ List.mem_cons_self) hcs

theorem eq_nil_of_isValueChar {bs cs more : List Char}
    (hbs : ∀ b ∈ bs, blankChars.contains b = true) (hne : cs ≠ [])
    (hcs : ∀ c ∈ cs, isValueChar c = true) (heq : cs ++ behind = bs ++ more) :
    bs = [] := by
  cases bs with
  | nil => rfl
  | cons b bs =>
    obtain ⟨c, cs, rfl⟩ := List.exists_cons_of_ne_nil hne
    obtain ⟨rfl, -⟩ := List.cons.inj heq
    have hblank : blankChars ⊆ marks := by decide
    have hmark := hblank (List.contains_iff_mem.mp (hbs c List.mem_cons_self))
    have hvalue := eq_false_of_any any_isValueChar_marks hmark
    exact absurd (hcs c List.mem_cons_self) (Bool.eq_false_iff.mp hvalue)

theorem value_text {v : String} (hbehind : Delimits behind)
    (hblanks : blanks (v.toList ++ behind) = .done () s) (h : value s = .done v mid) :
    (Matcher.equals v).AsWritten ∧ mid = behind := by
  obtain ⟨bs, heq, hbs, -⟩ := blanks_eq_done.mp hblanks
  rcases orElse_eq_done.mp h with hquoted | ⟨-, hword⟩
  · obtain ⟨mark, hmark, hquoted⟩ := quoted_eq_done.mp hquoted
    obtain ⟨cs, rfl, rfl, hcs⟩ := quotedBy_eq_done.mp hquoted
    rw [String.toList_ofList] at heq
    exact absurd heq (append_ne_of_quoted hbehind hmark hbs hcs)
  · obtain ⟨cs, hcs, rfl⟩ := map_eq_done.mp hword
    obtain ⟨rfl, hne, hchars, -⟩ := takeWhile1_eq_done.mp hcs
    rw [String.toList_ofList] at heq
    obtain rfl := eq_nil_of_isValueChar hbs hne hchars heq
    rw [← String.toList_ofList (l := cs)] at hne hchars
    refine ⟨⟨fun hempty => hne (by rw [hempty]; rfl), hchars⟩, ?_⟩
    exact (List.append_cancel_left heq).symm

theorem predicate_text {m : Matcher} {x : Located Predicate} (hbehind : Delimits behind)
    (hblanks : blanks (m.text.toList ++ behind) = .done () s) (h : predicate s = .done x mid)
    (hm : Matcher.ofPredicate source x = .ok m) : m.AsWritten ∧ mid = behind := by
  obtain ⟨rfl, h⟩ := predicate_eq_done.mp h
  rcases Matcher.ofPredicate_cases hm with ⟨v, hnode, rfl⟩ | ⟨name, arg, hnode, hm⟩
  · rcases h with hcall | ⟨-, w, hw, hnode'⟩
    · obtain ⟨_, _, _, _, _, _, hnode', -⟩ := predicateCall_eq_done.mp hcall
      exact absurd (hnode.symm.trans hnode') nofun
    · obtain rfl : w = v := Predicate.value.inj (hnode'.trans hnode)
      exact value_text hbehind hblanks hw
  · rcases h with hcall | ⟨-, w, -, hnode'⟩
    · obtain ⟨word, hword, htext, hwritten⟩ : ∃ word, IsIdentifier word ∧
          m.text = (Predicate.call word arg).text ∧
          (m.AsWritten ↔ ∀ c ∈ arg.toList, Text.escape false c = [c]) := by
        rcases hm with rfl | rfl | ⟨r, rfl, rfl⟩
        · exact ⟨_, Matcher.formed_written (.startsWith arg), rfl, Iff.rfl⟩
        · exact ⟨_, Matcher.formed_written (.endsWith arg), rfl, Iff.rfl⟩
        · exact ⟨_, Matcher.formed_written (.regexp r), rfl, Iff.rfl⟩
      rw [htext] at hblanks
      have hstops := stops_predicate_text (.call word arg) behind
      obtain ⟨-, hs⟩ := Reply.done.inj ((blanks_of_stops hstops).symm.trans hblanks)
      rw [← hs, hnode] at hcall
      obtain ⟨hall, hmid⟩ := predicateCall_text hword hcall
      exact ⟨hwritten.mpr hall, hmid⟩
    · exact absurd (hnode'.trans hnode) nofun

/-- Alternatives as they are printed. -/
def bars (ms : List Matcher) : List Char := ['|'].intercalate (ms.map (·.text.toList))

theorem bar_cons (t : List Char) : bar ('|' :: t) = blanks t := by
  rw [bar, bind_of_done (blanks_of_stops (Stops.cons (by decide))), bind_of_done (char_cons '|' t)]

theorem predicates_text {ps : List (Located Predicate)} (h : Listed predicate bar s ps rest) :
    ∀ {ms : List Matcher}, List.Forall₂ (fun p m => Matcher.ofPredicate source p = .ok m) ps ms →
      Delimits behind → blanks (bars ms ++ behind) = .done () s →
        (∀ m ∈ ms, m.AsWritten) ∧ rest = behind := by
  induction h with
  | one hp =>
    rintro _ (_ | ⟨hm, ⟨⟩⟩) hbehind hblanks
    rw [bars, List.map_singleton, List.intercalate_singleton] at hblanks
    obtain ⟨hwritten, hrest⟩ := predicate_text hbehind hblanks hp hm
    exact ⟨List.forall_mem_singleton.mpr hwritten, hrest⟩
  | more hp hsep hnext ih =>
    rintro _ (_ | ⟨hm, hms⟩) hbehind hblanks
    cases hms with
    | nil => nomatch hnext
    | @cons _ n _ ns hn hns =>
      have hbars (m : Matcher) : bars (m :: n :: ns) ++ behind =
          m.text.toList ++ '|' :: (bars (n :: ns) ++ behind) := by
        simp [bars, List.intercalate_cons_cons]
      rw [hbars] at hblanks
      obtain ⟨hwritten, rfl⟩ := predicate_text (Delimits.cons (by decide) _) hblanks hp hm
      rw [bar_cons] at hsep
      obtain ⟨hall, hrest⟩ := ih (.cons hn hns) hbehind hsep
      exact ⟨List.forall_mem_cons.mpr ⟨hwritten, hall⟩, hrest⟩

/-! ### Labels -/

theorem toList_text_eq_bars (m : Matcher) : m.text.toList = bars m.alternatives := by
  rw [Matcher.text_eq, String.toList_intercalate, bars, List.map_map]
  rfl

/-- All that is printed of a label begins with the first that was written for it. -/
theorem exists_text_joined {m n : Matcher} {ns : List Matcher}
    (h : Filter.joined (n :: ns) = some m) : ∃ more, m.text.toList = bars n.alternatives ++ more ∧
      (more = [] ∧ m = n ∨ ∃ t, more = '&' :: t) := by
  obtain ⟨_, _, heq, ⟨rfl, rfl⟩ | ⟨hne, rfl⟩⟩ := Filter.joined_eq_some h
  · obtain ⟨rfl, -⟩ := List.cons.inj heq
    exact ⟨[], by rw [List.append_nil, toList_text_eq_bars], .inl ⟨rfl, rfl⟩⟩
  · obtain ⟨rfl, rfl⟩ := List.cons.inj heq
    obtain ⟨k, ns, rfl⟩ := List.exists_cons_of_ne_nil hne
    refine ⟨'&' :: ['&'].intercalate ((k :: ns).map (·.text.toList)), ?_, .inr ⟨_, rfl⟩⟩
    rw [Matcher.text, Matcher.texts_eq, String.toList_intercalate, ← toList_text_eq_bars]
    simp [List.intercalate_cons_cons, Function.comp_def]

/-- The label is found again. Either so are its alternatives, and all of what is printed of it is
read, or reading stops where there is more of it. -/
theorem labelMatch_text {e d : String × Matcher} {m : LabelMatch} {ns : List Matcher}
    (hlabel : IsIdentifier e.1) (hbehind : Delimits behind)
    (h : labelMatch (e.1.toList ++ ':' :: ' ' :: (e.2.text.toList ++ behind)) = .done m rest)
    (hd : m.entry source = .ok d) : d.1 = e.1 ∧ (Filter.joined (d.2 :: ns) = some e.2 →
      ((∀ n ∈ e.2.alternatives, n.AsWritten) ∧ rest = behind) ∨ ∃ t, rest = '&' :: t) := by
  obtain ⟨s₁, s₂, s₃, hname, h₁, h₂, hps⟩ := labelMatch_eq_done.mp h
  obtain ⟨hsame, rfl⟩ := Reply.done.inj
    ((identifier_append hlabel (Marked.cons (by decide) _)).symm.trans hname)
  obtain ⟨ms, hms, rfl⟩ := LabelMatch.entry_eq_ok.mp hd
  refine ⟨hsame.symm, fun hjoined => ?_⟩
  obtain ⟨-, hs₂⟩ := Reply.done.inj ((blanks_of_stops (Stops.cons (by decide))).symm.trans h₁)
  obtain rfl := (List.cons.inj hs₂).2
  have hspace : blanks (e.2.text.toList ++ behind) = .done () s₃ := h₂
  have halternatives : (Matcher.anyOf ms).alternatives = ms := by
    refine Matcher.alternatives_anyOf fun n hn => ?_
    obtain ⟨p, -, hp⟩ := exists_of_mem_mapM hms hn
    exact (Matcher.parts_ofPredicate hp).1
  obtain ⟨more, htext, hmore⟩ := exists_text_joined hjoined
  rw [htext, halternatives, List.append_assoc] at hspace
  have hdelimits : Delimits (more ++ behind) := by
    rcases hmore with ⟨rfl, -⟩ | ⟨t, rfl⟩
    · exact hbehind
    · exact Delimits.cons (by decide) _
  obtain ⟨hall, hrest⟩ :=
    predicates_text (listed_of_nonEmptyListOf hps) (mapM_ok_iff.mp hms) hdelimits hspace
  rcases hmore with ⟨rfl, heq⟩ | ⟨t, rfl⟩
  · exact .inl ⟨by rwa [heq, halternatives], hrest⟩
  · exact .inr ⟨t ++ behind, hrest⟩

/-! ### Braces -/

/-- What is printed behind the first of several conditions. -/
def afterFirst (es : List (String × Matcher)) (t : List Char) : List Char :=
  if es = [] then '\x7d' :: t else ',' :: ' ' :: (Filter.inside es ++ '\x7d' :: t)

theorem inside_cons (e : String × Matcher) (es : List (String × Matcher)) (t : List Char) :
    Filter.inside (e :: es) ++ '\x7d' :: t =
      e.1.toList ++ ':' :: ' ' :: (e.2.text.toList ++ afterFirst es t) := by
  cases es with
  | nil => simp [Filter.inside, afterFirst]
  | cons d es => simp [Filter.inside, afterFirst, List.intercalate_cons_cons]

theorem delimits_afterFirst (es : List (String × Matcher)) (t : List Char) :
    Delimits (afterFirst es t) := by
  unfold afterFirst
  split <;> exact Delimits.cons (by decide) _

theorem stops_inside {es : List (String × Matcher)} (hne : es ≠ [])
    (hes : ∀ e ∈ es, IsIdentifier e.1) (t : List Char) :
    Stops idleChars.contains (Filter.inside es ++ '\x7d' :: t) := by
  obtain ⟨e, es, rfl⟩ := List.exists_cons_of_ne_nil hne
  rw [inside_cons]
  exact (hes e List.mem_cons_self).stops (by decide) _

/-- The braces close, be it behind a comma. -/
def Closing (s : List Char) : Prop :=
  ∃ o mid rest, optional comma s = .done o mid ∧ gap mid = .done () ('\x7d' :: rest)

theorem not_closing (h : Stops idleChars.contains s) : ¬Closing s ∧ ¬Closing (',' :: ' ' :: s) := by
  have hgap : gap s = .done () s := gap_of_stops (h.of_subset (by decide))
  have hbrace {rest : List Char} (heq : s = '\x7d' :: rest) : False :=
    Stops.contains_cons_iff.mp (heq ▸ h) (by decide)
  constructor
  · rintro ⟨o, mid, rest, ho, hmid⟩
    have hcomma : comma s = .refused s := comma_refused (h.of_subset (by decide))
    obtain ⟨-, rfl⟩ := Reply.done.inj ((optional_of_refused hcomma).symm.trans ho)
    exact hbrace (Reply.done.inj (hgap.symm.trans hmid)).2
  · rintro ⟨o, mid, rest, ho, hmid⟩
    have hcomma : comma (',' :: ' ' :: s) = .done ',' s := comma_space (h.of_subset (by decide))
    obtain ⟨-, rfl⟩ := Reply.done.inj ((optional_of_done hcomma).symm.trans ho)
    exact hbrace (Reply.done.inj (hgap.symm.trans hmid)).2

/-- What is read of the first label. -/
theorem labelMatch_inside {e d : String × Matcher} {es ds : List (String × Matcher)}
    {m : LabelMatch} {t : List Char} (hlabel : IsIdentifier e.1)
    (h : labelMatch (Filter.inside (e :: es) ++ '\x7d' :: t) = .done m mid)
    (hd : m.entry source = .ok d)
    (hjoined : Filter.joined (Filter.conditionsOn e.1 (d :: ds)) = some e.2) :
    d.1 = e.1 ∧ ((∀ n ∈ e.2.alternatives, n.AsWritten) ∧ mid = afterFirst es t ∨
      ∃ u, mid = '&' :: u) := by
  rw [inside_cons] at h
  obtain ⟨hsame, hread⟩ := labelMatch_text hlabel (delimits_afterFirst es t) h hd
  rw [Filter.conditionsOn_cons, if_pos hsame] at hjoined
  exact ⟨hsame, hread hjoined⟩

theorem asWritten_of_listed {labels : List LabelMatch} (h : Listed labelMatch comma s labels rest)
    {more : List (String × Matcher)} {t : List Char} : Closing rest →
    ∀ {es ds : List (String × Matcher)}, es ≠ [] → (es.map (·.1)).Nodup →
      (∀ e ∈ es, IsIdentifier e.1) → s = Filter.inside es ++ '\x7d' :: t →
      List.Forall₂ (fun (m : LabelMatch) d => m.entry source = .ok d) labels ds →
      (∀ e ∈ es, Filter.joined (Filter.conditionsOn e.1 (ds ++ more)) = some e.2) →
        ∀ e ∈ es, ∀ n ∈ e.2.alternatives, n.AsWritten := by
  -- Behind a conjunction neither the next label nor the end is found.
  induction h with
  | one hm =>
    rintro hclosing es _ hne hnodup hlabels rfl (_ | ⟨hd, ⟨⟩⟩) hjoined
    obtain ⟨e, es, rfl⟩ := List.exists_cons_of_ne_nil hne
    rw [List.forall_mem_cons] at hlabels
    obtain ⟨-, ⟨hall, rfl⟩ | ⟨u, rfl⟩⟩ :=
      labelMatch_inside hlabels.1 hm hd (hjoined e List.mem_cons_self)
    · rw [afterFirst] at hclosing
      split at hclosing
      · next hnil =>
        subst hnil
        exact List.forall_mem_singleton.mpr hall
      · next hne => exact absurd hclosing (not_closing (stops_inside hne hlabels.2 t)).2
    · exact absurd hclosing (not_closing (Stops.cons (by decide))).1
  | more hm hsep hnext ih =>
    rintro hclosing es _ hne hnodup hlabels rfl (_ | ⟨hd, hds⟩) hjoined
    obtain ⟨e, es, rfl⟩ := List.exists_cons_of_ne_nil hne
    rw [List.forall_mem_cons] at hlabels
    obtain ⟨hsame, ⟨hall, rfl⟩ | ⟨u, rfl⟩⟩ :=
      labelMatch_inside hlabels.1 hm hd (hjoined e List.mem_cons_self)
    · rw [afterFirst] at hsep
      split at hsep
      · next hnil => exact absurd ((comma_refused (Stops.cons (by decide))).symm.trans hsep) nofun
      · next hne =>
        have hstops : Stops gapChars.contains _ :=
          (stops_inside hne hlabels.2 t).of_subset (by decide)
        obtain ⟨-, rfl⟩ := Reply.done.inj ((comma_space hstops).symm.trans hsep)
        obtain ⟨hfresh, hnodup⟩ := List.nodup_cons.mp hnodup
        refine List.forall_mem_cons.mpr ⟨hall, ih hclosing hne hnodup hlabels.2 rfl hds ?_⟩
        intro d hd
        have hjoined := hjoined d (List.mem_cons_of_mem e hd)
        rwa [List.cons_append, Filter.conditionsOn_cons, if_neg] at hjoined
        rw [hsame]
        exact fun heq => hfresh (List.mem_map.mpr ⟨d, hd, heq.symm⟩)
    · exact absurd ((comma_refused (Stops.cons (by decide))).symm.trans hsep) nofun

/-- Conditions that give the filter back are all there is of it. -/
theorem asWritten_of_matchBody {f : Filter} {labels more : List LabelMatch} {t : List Char}
    (h : matchBody ('\x7b' :: (Filter.inside f.conditions.toList ++ '\x7d' :: t)) =
      .done labels rest) (hne : f.isEmpty = false) (hlabels : ∀ m ∈ labels ++ more, m.Formed)
    (hf : Filter.ofLabels source (labels ++ more) = .ok f) : f.AsWritten := by
  obtain ⟨es, hes, hof⟩ := Filter.ofLabels_eq_ok.mp hf
  have hreadable := Filter.readable_of_mapM hes hlabels
  rw [List.mapM_append] at hes
  obtain ⟨ds, hds, hes⟩ := bind_eq_ok.mp hes
  obtain ⟨ds', -, hes⟩ := bind_eq_ok.mp hes
  rw [← Except.ok.inj hes] at hreadable hof
  have hjoined : ∀ e ∈ f.conditions.toList,
      Filter.joined (Filter.conditionsOn e.1 (ds ++ ds')) = some e.2 := by
    intro e he
    rw [← Filter.find?_ofEntries hreadable.conjuncts, hof]
    exact Filter.mem_iff_find?.mp he
  have hids : ∀ e ∈ f.conditions.toList, IsIdentifier e.1 := by
    intro e he
    obtain ⟨n, ns, hon, -⟩ := Filter.joined_eq_some (hjoined e he)
    exact (hreadable (e.1, n) (Filter.mem_of_mem_conditionsOn (hon ▸ List.mem_cons_self))).1
  have hentries : f.conditions.toList ≠ [] :=
    fun hnil => Bool.eq_false_iff.mp hne (List.isEmpty_iff.mpr hnil)
  obtain ⟨mid, hopen, hbody⟩ := matchBody_eq_done.mp h
  have hstops := stops_inside hentries hids t
  obtain ⟨-, rfl⟩ := Reply.done.inj
    ((openBrace_cons (hstops.of_subset (by decide))).symm.trans hopen)
  obtain ⟨s₁, s₂, hlist, ⟨o, ho⟩, hgap⟩ := braceRest_eq_done.mp hbody
  have hclosing : Closing s₁ := ⟨o, s₂, rest, ho, hgap⟩
  rcases listOf_eq_done.mp hlist with hlist | ⟨-, rfl, -⟩
  · exact asWritten_of_listed (listed_of_nonEmptyListOf hlist) hclosing hentries
      f.conditions.nodup_keys hids rfl (mapM_ok_iff.mp hds) hjoined
  · exact absurd hclosing (not_closing hstops).1

/-! ### Expressions and statements -/

/-- An expression has in it what is read first. -/
theorem parts_chain {operand : Parser (Located Expr)} {ops : List (Char × Merger)}
    {e : Located Expr} (h : chain operand ops s = .done e rest) :
    ∃ first mid, operand s = .done first mid ∧ first.node.parts ⊆ e.node.parts := by
  obtain ⟨first, mid, hfirst, hmore⟩ := bind_eq_done.mp h
  refine ⟨first, mid, hfirst, fold_eq_done (I := fun _ (e : Located Expr) =>
    first.node.parts ⊆ e.node.parts) ?_ (List.Subset.refl _) hmore⟩
  exact fun _ _ _ _ hsub _ =>
    List.subset_cons_of_subset _ (List.subset_append_of_subset_left _ hsub)

theorem parts_postfixed {inner : Parser (Located Expr)} {e : Located Expr}
    (h : postfixed inner s = .done e rest) :
    ∃ first mid, primary inner s = .done first mid ∧ first.node.parts ⊆ e.node.parts := by
  obtain ⟨first, mid, hfirst, hmore⟩ := bind_eq_done.mp h
  refine ⟨first, mid, hfirst, fold_eq_done (I := fun _ (e : Located Expr) =>
    first.node.parts ⊆ e.node.parts) ?_ (List.Subset.refl _) hmore⟩
  exact fun _ _ _ _ hsub _ => List.subset_cons_of_subset _ hsub

theorem exists_event {name : String} (hname : IsIdentifier name) {e : Located Expr}
    (h : expr (name.toList ++ '\x7b' :: s) = .done e rest) : ∃ labels mid,
      matchBody ('\x7b' :: s) = .done labels mid ∧ .event name labels ∈ e.node.parts := by
  rw [expr_eq] at h
  obtain ⟨term, _, hterm, hsum⟩ := parts_chain h
  obtain ⟨factor, _, hfactor, hterms⟩ := parts_chain hterm
  obtain ⟨first, mid, hfirst, hfactors⟩ := parts_postfixed hfactor
  obtain ⟨hsign, hdigit⟩ := hname.stops_number ('\x7b' :: s)
  obtain ⟨-, hevent⟩ := primary_eq_done.mp hfirst
  rw [orElse_of_refused _ (number_refused hsign hdigit),
    orElse_of_refused _ (paren_refused (hname.stops (by decide) _)),
    orElse_of_refused _ (call_refused (hname.stops (by decide) _))] at hevent
  obtain ⟨name', labels, after, hnode, hid, hlabels⟩ := event_eq_done.mp hevent
  obtain ⟨rfl, rfl⟩ := Reply.done.inj
    ((identifier_append hname (Marked.cons (by decide) _)).symm.trans hid)
  rcases hlabels with ⟨brace, hblanks, hbody⟩ | ⟨-, -, hrefuses⟩
  · obtain ⟨-, rfl⟩ := Reply.done.inj
      ((blanks_of_stops (Stops.cons (by decide))).symm.trans hblanks)
    refine ⟨labels, mid, hbody, hsum (hterms (hfactors ?_))⟩
    rw [hnode]
    exact Expr.mem_parts_self _
  · obtain ⟨brace, hblanks, hstops⟩ := refuses_labels.mp hrefuses
    obtain ⟨-, rfl⟩ := Reply.done.inj
      ((blanks_of_stops (Stops.cons (by decide))).symm.trans hblanks)
    exact absurd List.mem_cons_self (Stops.contains_cons_iff.mp hstops)

/-- Statements that were read before stay. -/
theorem prefix_of_statementsRest {st : Parser (Located Statement)}
    {found body : List (Located Statement)} (h : statementsRest st found s = .done body rest) :
    found <+: body := by
  induction hn : s.length using Nat.strongRecOn generalizing s found with
  | ind n ih =>
    rcases statementsRest_eq_done.mp h with ⟨-, rfl, -⟩ | ⟨-, x, mid, after, -, -, hmore⟩
    · exact List.prefix_refl _
    · rcases hmore with ⟨-, rfl, -⟩ | ⟨-, next, -, hlt, hrest⟩
      · exact List.prefix_append found [x]
      · exact (List.prefix_append found [x]).trans (ih next.length (hn ▸ hlt) hrest rfl)

/-- The event that a query begins with. -/
theorem exists_statement {name : String} (hname : IsIdentifier name)
    {body : List (Located Statement)}
    (h : statements (name.toList ++ '\x7b' :: s) = .done body rest) : ∃ start e labels mid,
      ⟨start, .expr none e⟩ ∈ body ∧ matchBody ('\x7b' :: s) = .done labels mid ∧
        .event name labels ∈ e.node.parts := by
  rw [statements_event_eq_done hname] at h
  rcases statementsRest_eq_done.mp h with ⟨hend, -⟩ | ⟨-, x, mid, after, hx, -, hmore⟩
  · exact absurd (hend.symm.trans (atEnd_event hname)) nofun
  have hmem : x ∈ body := by
    rcases hmore with ⟨-, rfl, -⟩ | ⟨-, next, -, -, hrest⟩
    · exact List.mem_singleton_self x
    · exact (prefix_of_statementsRest hrest).subset List.mem_cons_self
  obtain ⟨e, he, rfl⟩ := (statement_event_eq_done hname).mp hx
  obtain ⟨labels, mid, hbody, hevent⟩ := exists_event hname he
  exact ⟨_, e, labels, mid, hmem, hbody, hevent⟩

end Grammar

namespace Statement

theorem runsOf_eq_flatMap (filters : List LabelMatch) (grouped : Bool)
    (body : List (Located Statement)) :
    runsOf filters grouped body = body.flatMap (·.node.runs filters grouped) := by
  induction body with
  | nil => rfl
  | cons s rest ih => rw [runsOf, ih, List.flatMap_cons]

/-- Each event of an expression of a query is one of the query. -/
theorem mem_references {body : List (Located Statement)} {start : List Char}
    {name : Option String} {e : Located Expr} (hmem : ⟨start, .expr name e⟩ ∈ body)
    {event : String} {labels : List LabelMatch} (hevent : .event event labels ∈ e.node.parts) :
    ⟨event, labels ++ filtersIn [] body⟩ ∈ references body := by
  refine (Run.gathered_perm _).mem_iff.mpr ?_
  rw [runsOf_eq_flatMap, List.flatMap_assoc]
  refine List.mem_flatMap.mpr ⟨_, hmem, List.mem_flatMap.mpr ⟨_, List.mem_singleton_self _, ?_⟩⟩
  exact List.mem_filterMap.mpr ⟨_, hevent, rfl⟩

end Statement

/-! ## Queries -/

namespace Query

/-- The event of a leaf, and the conditions of a filter that is printed as it is written, can be
read. -/
theorem readable_leaf {source missing : String} {q : Query Float}
    (h : ofText source missing = .ok q) {leaf : Leaf} (hleaf : leaf ∈ q.leaves) :
    IsIdentifier leaf.event ∧
      (leaf.filter.AsWritten → Filter.Readable leaf.filter.conditions.toList) := by
  obtain ⟨r, hr, hevent, hfilter⟩ := exists_reference h hleaf
  obtain ⟨es, hes, hof⟩ := Filter.ofLabels_eq_ok.mp hfilter
  have hreadable := Filter.readable_of_mapM hes hr.conditions
  exact ⟨hevent ▸ hr.event, fun hwritten e he =>
    hreadable e (hwritten.mem_of_mem hreadable.conjuncts hof e he)⟩

/-- The text of an event and a filter only gives the filter if it is printed as it is written. -/
theorem asWritten_of_ofText {name missing : String} {f : Filter} (hname : IsIdentifier name)
    (hne : f.isEmpty = false) {q : Query Float} (h : ofText (name ++ f.text) missing = .ok q)
    {leaf : Leaf} (hleaves : q.leaves = [leaf]) (hfilter : leaf.filter = f) : f.AsWritten := by
  obtain ⟨body, hbody, hrefers⟩ := refers_leaves h (Filter.tracks_ofLabels _)
  have hformed := Statement.formed_references (Statement.allFormed_of_ofText hbody)
  rw [Statement.ofText_eq_ok, f.toList_text name] at hbody
  obtain ⟨start, e, labels, mid, hmem, hlabels, hevent⟩ := Grammar.exists_statement hname hbody
  have hreference := Statement.mem_references hmem hevent
  rw [hleaves] at hrefers
  obtain ⟨r, rs, hr, hrs, hall⟩ := List.forall₂_cons_right_iff.mp hrefers
  -- There is one leaf, so this event is the only one.
  rw [List.forall₂_nil_right_iff.mp hrs] at hall
  have hconditions := hr.filter
  rw [hall] at hreference hformed
  rw [hfilter, ← List.mem_singleton.mp hreference] at hconditions
  exact Grammar.asWritten_of_matchBody hlabels hne (hformed _ hreference).conditions hconditions

/-- Filters that are printed as they are written are told apart by their text. -/
theorem eq_of_text {f g : Filter} (hf : f.AsWritten)
    (hreadable : Filter.Readable f.conditions.toList) (hg : g.AsWritten)
    (hreadable' : Filter.Readable g.conditions.toList) (h : f.text = g.text) : f = g := by
  have hinside : Filter.inside f.conditions.toList = Filter.inside g.conditions.toList := by
    have htext : ("" ++ f.text).toList = ("" ++ g.text).toList := by rw [h]
    rw [f.toList_text, g.toList_text] at htext
    exact List.append_cancel_right (List.cons.inj htext).2
  have hempty (k : Filter) : k.isEmpty = (Filter.inside k.conditions.toList).isEmpty := by
    unfold Filter.isEmpty Index.isEmpty
    cases k.conditions.toList with
    | nil => rfl
    | cons e es => simp [Filter.inside, Parser.intercalate_cons]
  have hsame : f.isEmpty = g.isEmpty := by rw [hempty, hempty, hinside]
  cases hne : f.isEmpty with
  | true =>
    have hnil : f.conditions.toList = [] := List.isEmpty_iff.mp hne
    have hnil' : g.conditions.toList = [] := List.isEmpty_iff.mp (hsame.symm.trans hne)
    rw [← f.ofEntries_toList, ← g.ofEntries_toList, hnil, hnil']
  | false =>
    have hname : IsIdentifier "x" := ⟨'x', [], rfl, by decide +kernel, List.forall_mem_nil _⟩
    have hread := ofText_printed hname hf hreadable hne ""
    rw [h, ofText_printed hname hg hreadable' (hsame.symm.trans hne) ""] at hread
    obtain ⟨hscan, -⟩ := List.cons.inj (congrArg Query.nodes (Except.ok.inj hread))
    exact (congrArg Leaf.filter (Node.scan.inj hscan)).symm

/-- **The text of an event and its filter, in a query by itself, gives one leaf with this event and
this filter if and only if all values in the filter are such as take no quotes, no quoted text has
characters that are escaped, and no label stands under a conjunction. Such a filter is the only one
of its kind with its text.** -/
theorem reread_spec {source missing : String} {q : Query Float} (h : ofText source missing = .ok q)
    {leaf : Leaf} (hleaf : leaf ∈ q.leaves) (hne : leaf.filter.isEmpty = false)
    (missing' : String) :
    ((∃ q' leaf', ofText (leaf.event ++ leaf.filter.text) missing' = .ok q' ∧
        q'.leaves = [leaf'] ∧ leaf'.event = leaf.event ∧ leaf'.filter = leaf.filter) ↔
      leaf.filter.AsWritten) ∧
    (leaf.filter.AsWritten →
      ofText (leaf.event ++ leaf.filter.text) missing' =
        .ok ⟨[.scan ⟨leaf.event, leaf.filter, {}⟩]⟩ ∧
      ∀ (source₂ missing₂ : String) (q₂ : Query Float), ofText source₂ missing₂ = .ok q₂ →
        ∀ leaf₂ ∈ q₂.leaves, leaf₂.filter.AsWritten → leaf₂.filter.text = leaf.filter.text →
          leaf₂.filter = leaf.filter) := by
  obtain ⟨hname, hreadable⟩ := readable_leaf h hleaf
  refine ⟨⟨?_, fun hwritten => ?_⟩, fun hwritten => ⟨?_, ?_⟩⟩
  · rintro ⟨q', leaf', hq', hleaves, -, hfilter⟩
    exact asWritten_of_ofText hname hne hq' hleaves hfilter
  · exact ⟨_, _, ofText_printed hname hwritten (hreadable hwritten) hne missing', rfl, rfl, rfl⟩
  · exact ofText_printed hname hwritten (hreadable hwritten) hne missing'
  · intro source₂ missing₂ q₂ h₂ leaf₂ hleaf₂ hwritten₂ htext
    obtain ⟨-, hreadable₂⟩ := readable_leaf h₂ hleaf₂
    exact eq_of_text hwritten₂ (hreadable₂ hwritten₂) hwritten (hreadable hwritten) htext

/-- Several alternatives, text in quotes, and a clause. -/
theorem reread_spec_alternatives :
    let text := "\x7ba: x|!prefix(\"d e\"), b: !regexp(\"t+\"), c: y\x7d"
    ∃ q leaf,
      ofText "foo\x7bb: !regex(t+), a: 'x' | !PREFIX('d e')\x7d; *WHERE\x7bc: y\x7d" "" = .ok q ∧
      leaf ∈ q.leaves ∧ leaf.event = "foo" ∧ leaf.filter.text = text ∧ leaf.filter.AsWritten ∧
      ofText ("foo" ++ text) "" = .ok ⟨[.scan ⟨leaf.event, leaf.filter, {}⟩]⟩ := by
  intro text
  have hcompiles :
      (ofText "foo\x7bb: !regex(t+), a: 'x' | !PREFIX('d e')\x7d; *WHERE\x7bc: y\x7d"
        "").toOption.any
        (fun q => q.leaves.any fun leaf => decide (leaf.event = "foo" ∧ leaf.filter.text = text ∧
          leaf.filter.AsWritten ∧ leaf.filter.isEmpty = false)) = true := by decide +kernel
  obtain ⟨q, hq, hleaves⟩ := exists_of_toOption_any hcompiles
  obtain ⟨leaf, hleaf, hprops⟩ := List.any_eq_true.mp hleaves
  obtain ⟨hevent, htext, hwritten, hne⟩ := of_decide_eq_true hprops
  have hread := ((reread_spec hq hleaf hne "").2 hwritten).1
  rw [htext] at hread
  exact ⟨q, leaf, hq, hleaf, hevent, htext, hwritten, hevent ▸ hread⟩

theorem exists_of_one_leaf {source : String} {p : Leaf → Bool}
    (h : (ofText source "").toOption.any (fun q =>
      q.leaves.length == 1 && q.leaves.all p) = true) :
    ∃ q leaf, ofText source "" = .ok q ∧ q.leaves = [leaf] ∧ p leaf = true := by
  obtain ⟨q, hq, hleaves⟩ := exists_of_toOption_any h
  obtain ⟨hlength, hall⟩ := (Bool.and_eq_true _ _).mp hleaves
  obtain ⟨leaf, hleaf⟩ := List.length_eq_one_iff.mp (eq_of_beq hlength)
  exact ⟨q, leaf, hq, hleaf, List.all_eq_true.mp hall leaf (hleaf ▸ List.mem_cons_self)⟩

/-- Neither quotes nor conjunctions are printed so that they can be read, escapes are read as they
stand, and a value prints the same as alternatives. -/
theorem not_reread :
    (∀ source ∈ ["foo\x7bcolor: 'dark blue'\x7d", "foo\x7ba: ''\x7d", "foo\x7ba: x, a: y\x7d"],
      ∃ q leaf, ofText source "" = .ok q ∧ q.leaves = [leaf] ∧ leaf.filter.isEmpty = false ∧
        ∀ q', ofText (leaf.event ++ leaf.filter.text) "" ≠ .ok q') ∧
    (∃ q leaf q' leaf', ofText "foo\x7ba: 'x|y'\x7d" "" = .ok q ∧ q.leaves = [leaf] ∧
      ofText "foo\x7ba: x|y\x7d" "" = .ok q' ∧ q'.leaves = [leaf'] ∧
      leaf.filter ≠ leaf'.filter ∧ leaf.filter.text = leaf'.filter.text) := by
  refine ⟨fun source hsource => ?_, ?_⟩
  · have hfails : ∀ source ∈ ["foo\x7bcolor: 'dark blue'\x7d", "foo\x7ba: ''\x7d",
        "foo\x7ba: x, a: y\x7d"], (ofText source "").toOption.any (fun q =>
          q.leaves.length == 1 && q.leaves.all fun leaf => !leaf.filter.isEmpty &&
            !(ofText (leaf.event ++ leaf.filter.text) "").toBool) = true := by decide +kernel
    obtain ⟨q, leaf, hq, hleaves, hleaf⟩ := exists_of_one_leaf (hfails source hsource)
    obtain ⟨hne, hfails⟩ := (Bool.and_eq_true _ _).mp hleaf
    refine ⟨q, leaf, hq, hleaves, by simpa using hne, fun q' hq' => ?_⟩
    rw [hq'] at hfails
    contradiction
  · have hquoted : (ofText "foo\x7ba: 'x|y'\x7d" "").toOption.any (fun q =>
        q.leaves.length == 1 && q.leaves.all fun leaf => decide (
          leaf.filter.text = "\x7ba: x|y\x7d" ∧
            leaf.filter.find? "a" = some (.equals "x|y"))) = true := by decide +kernel
    have hbare : (ofText "foo\x7ba: x|y\x7d" "").toOption.any (fun q =>
        q.leaves.length == 1 && q.leaves.all fun leaf => decide (
          leaf.filter.text = "\x7ba: x|y\x7d" ∧
            leaf.filter.find? "a" = some (.any [.equals "x", .equals "y"]))) = true := by
      decide +kernel
    obtain ⟨q, leaf, hq, hleaves, hleaf⟩ := exists_of_one_leaf hquoted
    obtain ⟨q', leaf', hq', hleaves', hleaf'⟩ := exists_of_one_leaf hbare
    obtain ⟨htext, hvalue⟩ := of_decide_eq_true hleaf
    obtain ⟨htext', hvalue'⟩ := of_decide_eq_true hleaf'
    refine ⟨q, leaf, q', leaf', hq, hleaves, hq', hleaves', fun heq => ?_, htext.trans htext'.symm⟩
    rw [heq] at hvalue
    exact absurd (Option.some.inj (hvalue.symm.trans hvalue')) nofun

end Query

end SeriesQuery
