import SeriesQuery.Proofs.Query.Printing
import SeriesQuery.Proofs.Query.Rules
import SeriesQuery.Proofs.Text.Local

/-!
# Expressions with more text behind

What is read of an expression stays the same when a semicolon or a new line, and any text behind
that, is put after it. One thing can go wrong: a quotation mark that is not closed is read as it
stands, up to the next parenthesis, so it must not be closed by what is put behind.

* `Parted t` : if anything, a semicolon or a new line begins `t`;
* `Text.Unclosed mark s`, `Text.Spares t s` : a call that begins `s` leaves its mark open, and `t`
  does not close it;
* `Expr.conditions` : the conditions in an expression with their places;
* `Grammar.bracket_local`, `Grammar.number_local`, ... : pieces that are read alike before any `t`;
* `Grammar.labelMatch_append'`, `Grammar.expr_append` : conditions and expressions, if `t` spares
  what is read.
-/

namespace SeriesQuery

open Text (Located)

/-! ## Texts behind -/

/-- If anything, what ends a statement begins `t`. -/
def Parted (t : List Char) : Prop := ∀ c ∈ t.head?, c ∈ [';', '\n']

namespace Parted

variable {t : List Char}

theorem nil : Parted [] := fun _ h => absurd h (Option.not_mem_none _)

theorem cons {c : Char} (h : c ∈ [';', '\n']) (s : List Char) : Parted (c :: s) := by
  rintro _ ⟨⟩
  exact h

theorem stops (h : Parted t) {p : Char → Bool} (hp : [';', '\n'].any p = false) : Stops p t :=
  fun c hc => eq_false_of_any hp (h c hc)

end Parted

theorem any_isValueChar_ends : [';', '\n'].any isValueChar = false := by decide +kernel

/-- A call begins `s` whose argument begins with a quotation mark that does not stand again. -/
def Text.Unclosed (mark : Char) (s : List Char) : Prop :=
  ∃ name blanks tail, IsIdentifier name ∧ (∀ c ∈ blanks, c ∈ blankChars) ∧ mark ∉ tail ∧
    s = '!' :: (name.toList ++ '(' :: (blanks ++ mark :: tail))

/-- What `s` leaves open is not closed by `t`. -/
def Text.Spares (t s : List Char) : Prop := ∀ mark ∈ Grammar.quoteMarks, Unclosed mark s → mark ∉ t

/-! ## Conditions -/

namespace Expr

/-- The conditions in an expression, where they stand. -/
def conditions (e : Expr) : List (Located Predicate) :=
  e.parts.flatMap fun
    | .event _ labels => labels.flatMap (·.predicates)
    | _ => []

/-- `t` does not change how the conditions are read. -/
def Spared (t : List Char) (e : Expr) : Prop := ∀ x ∈ e.conditions, Text.Spares t x.start

namespace Spared

variable {t : List Char} {e lhs rhs : Located Expr} {es : List (Located Expr)}

theorem event {name : String} {labels : List LabelMatch} (h : (Expr.event name labels).Spared t) :
    ∀ m ∈ labels, ∀ x ∈ m.predicates, Text.Spares t x.start :=
  fun m hm x hx => h x (List.mem_append_left _ (List.mem_flatMap.mpr ⟨m, hm, hx⟩))

theorem binary_iff {op : Merger} :
    (Expr.binary op lhs rhs).Spared t ↔ lhs.node.Spared t ∧ rhs.node.Spared t := by
  unfold Spared conditions
  rw [parts, List.flatMap_cons, List.flatMap_append, List.nil_append, List.forall_mem_append]

theorem call {name : String} (h : (Expr.call name es).Spared t) : ∀ e ∈ es, e.node.Spared t := by
  unfold Spared conditions at h ⊢
  rw [parts, List.flatMap_cons, List.nil_append, partsOf_eq, List.flatMap_assoc] at h
  exact List.forall_mem_flatMap.mp h

end Spared

end Expr

/-! ## Pieces -/

namespace Grammar

open SeriesQuery.Parser

variable {s rest t : List Char}

section Pieces

variable (ht : Parted t)
include ht

theorem blanks_local : Local t blanks blanks := .blanks (ht.stops (by decide))

theorem identifier_local : Local t identifier identifier := by
  have hfirst : Stops isWordStart t := ht.stops (by decide +kernel)
  have hmore : Stops isWordChar t := ht.stops (by decide +kernel)
  exact (Local.takeWhile1 hfirst).bind fun _ => (Local.takeWhile hmore).bind fun _ => .pure _

theorem digits_local : Local t digits digits := .takeWhile1 (ht.stops (by decide))

theorem number_local : Local t number number :=
  (Local.char (ht.stops (by decide))).optional.bind fun _ => (digits_local ht).bind fun _ =>
    (((Local.char (ht.stops (by decide))).bind fun _ => digits_local ht).optional).bind fun _ =>
      .pure _

omit ht in
/-- An overflow is reported where the number stands. -/
theorem scale_local (place place' : List Char) (n unit : Int) :
    Local t (scale place n unit) (scale place' n unit) := by
  unfold scale
  cases Time.checked? (n * unit) with
  | some ms => exact .pure ms
  | none => exact ⟨nofun, nofun⟩

theorem unit_local : Local t Grammar.unit Grammar.unit :=
  (Local.oneOf (ht.stops (by decide))).bind fun _ => .pure _

theorem offsetSpec_local : Local t offsetSpec offsetSpec := by
  have hsigned : Local t signedDigits signedDigits :=
    (Local.oneOf (ht.stops (by decide))).optional.bind fun _ => (digits_local ht).bind fun _ =>
      .pure _
  have hplaces (place place' : List Char) := (hsigned.filterMap fun cs =>
    (readInt? cs).bind Time.checked?).bind fun n => (blanks_local ht).bind fun _ =>
      (Local.char (c := ':') (ht.stops (by decide))).bind fun _ => (blanks_local ht).bind fun _ =>
        (unit_local ht).bind fun unit => scale_local place place' n unit
  exact ⟨fun {s _ _} h => (hplaces s (s ++ t)).done h, fun {s} h => (hplaces s (s ++ t)).refuses h⟩

theorem stepSpec_local : Local t stepSpec stepSpec := by
  have hdigits : Local t (boundedInt digits) (boundedInt digits) := (digits_local ht).filterMap _
  have hcount := (hdigits.bind fun n => (blanks_local ht).bind fun _ => Local.pure n).optional
  have hpositive (ms : Int) : Local t (if ms ≤ 0 then refuse else return ms : Parser Int)
      (if ms ≤ 0 then refuse else return ms) := by
    split
    · exact .refuse
    · exact .pure ms
  have hplaces (place place' : List Char) := hcount.bind fun n => (unit_local ht).bind fun unit =>
    (scale_local place place' (n.getD 1) unit).bind hpositive
  exact ⟨fun {s _ _} h => (hplaces s (s ++ t)).done h, fun {s} h => (hplaces s (s ++ t)).refuses h⟩

theorem inBrackets_local {p : Parser α} (h : Local t p p) :
    Local t (inBrackets p) (inBrackets p) :=
  (Local.char (ht.stops (by decide))).bind fun _ => (blanks_local ht).bind fun _ =>
    h.bind fun _ => (blanks_local ht).bind fun _ => (Local.char (ht.stops (by decide))).bind
      fun _ => .pure _

theorem bracket_local : Local t bracket bracket :=
  inBrackets_local ht (((offsetSpec_local ht).map _).orElse ((stepSpec_local ht).map _))

theorem bar_local : Local t bar bar :=
  (blanks_local ht).bind fun _ => (Local.char (ht.stops (by decide))).bind fun _ => blanks_local ht

end Pieces

/-! ## Ends of items -/

/-- A comma or a closing brace comes next, be it on another line. -/
def ClosesBehindGap (s : List Char) : Prop := ∃ mid, gap s = .done () mid ∧ Closes mid

namespace ClosesBehindGap

variable (h : ClosesBehindGap s)
include h

theorem append (t : List Char) : ClosesBehindGap (s ++ t) := by
  obtain ⟨mid, hgap, c, tail, rfl, hc⟩ := h
  exact ⟨_, gap_append hgap (List.cons_ne_nil c tail) t, c, tail ++ t, rfl, hc⟩

theorem idle : Idle s := by
  obtain ⟨mid, hgap, c, tail, rfl, hc⟩ := h
  obtain ⟨cs, rfl, hcs, -⟩ := gap_eq_done.mp hgap
  cases cs with
  | nil =>
    have hsub : [',', '\x7d'] ⊆ idleChars := by decide
    exact .cons (hsub hc) tail
  | cons d cs =>
    have hsub : gapChars ⊆ idleChars := by decide
    exact .cons (hsub (List.contains_iff_mem.mp (hcs d List.mem_cons_self))) _

theorem refuses_bar : bar.Refuses s := by
  obtain ⟨mid, hgap, c, tail, rfl, hc⟩ := h
  refine refuses_bind.mpr (.inr ⟨(), _, rfl, refuses_bind.mpr (.inl (refuses_char.mpr ?_))⟩)
  refine stops_of_forall fun d after hafter hd => ?_
  obtain rfl : d = '|' := by simpa using hd
  -- A gap does not go on behind a bar, either.
  obtain ⟨bs, hs, hbs, -⟩ := blanks_eq_done.mp (rfl : blanks s = .done () _)
  have hbar : gap s = .done () ('|' :: after) := by
    refine gap_eq_done.mpr ⟨bs, hafter ▸ hs, fun b hb => ?_, Stops.cons (by decide)⟩
    have hsub : blankChars ⊆ gapChars := by decide
    exact List.contains_iff_mem.mpr (hsub (List.contains_iff_mem.mp (hbs b hb)))
  obtain ⟨-, heq⟩ := Reply.done.inj (hgap.symm.trans hbar)
  obtain ⟨rfl, -⟩ := List.cons.inj heq
  exact absurd hc (by decide)

end ClosesBehindGap

/-! ## Conditions read alike -/

theorem quoted_append' {v : String} (h : quoted s = .done v rest) (t : List Char) :
    quoted (s ++ t) = .done v (rest ++ t) := by
  obtain ⟨mark, hmark, h⟩ := quoted_eq_done.mp h
  obtain ⟨cs, rfl, rfl, hcs⟩ := quotedBy_eq_done.mp h
  exact quoted_eq_done.mpr ⟨mark, hmark, quotedBy_eq_done.mpr ⟨cs, rfl, by simp, hcs⟩⟩

/-- A mark is closed by what stands behind, or not at all. -/
theorem refuses_quoted_append (h : quoted.Refuses s) (hne : s ≠ [])
    (ht : ∀ mark ∈ quoteMarks, ∀ tail, s = mark :: tail → mark ∉ t) : quoted.Refuses (s ++ t) := by
  refine refuses_quoted.mpr fun mark hmark tail heq => ?_
  obtain ⟨c, s, rfl⟩ := List.exists_cons_of_ne_nil hne
  obtain ⟨rfl, rfl⟩ := List.cons.inj heq
  exact List.not_mem_append (refuses_quoted.mp h c hmark s rfl) (ht c hmark s rfl)

theorem rawArgument_append {v : String} (h : rawArgument s = .done v rest) (hne : rest ≠ [])
    (t : List Char) : rawArgument (s ++ t) = .done v (rest ++ t) := by
  obtain ⟨cs, rfl, rfl, hcs, hmem, hrest⟩ := rawArgument_eq_done.mp h
  exact rawArgument_eq_done.mpr ⟨cs, rfl, List.append_assoc .., hcs, hmem, hrest.append hne⟩

section Parted

variable (ht : Parted t)
include ht

theorem predicateCall_append' {x : Predicate} (h : predicateCall s = .done x rest)
    (hspares : Text.Spares t s) : predicateCall (s ++ t) = .done x (rest ++ t) := by
  obtain ⟨name, arg, s₁, s₂, s₃, s₄, rfl, rfl, hname, h₃, harg, h₄⟩ := predicateCall_eq_done.mp h
  have hblanks := (blanks_local ht).done (s := s₄) h₄
  have hne : s₄ ≠ [] := by
    rintro rfl
    exact absurd h₄ nofun
  refine predicateCall_eq_done.mpr ⟨name, arg, s₁ ++ t, s₂ ++ t, s₃ ++ t, s₄ ++ t, rfl, rfl,
    (identifier_local ht).done hname, (blanks_local ht).done h₃, ?_, hblanks⟩
  rcases orElse_eq_done.mp harg with harg | ⟨hrefuses, harg⟩
  · exact orElse_eq_done.mpr (.inl (quoted_append' harg t))
  · refine orElse_eq_done.mpr (.inr ⟨?_, rawArgument_append harg hne t⟩)
    obtain ⟨hs₁, hid, -⟩ := identifier_eq_done.mp hname
    obtain ⟨bs, hs₂, hbs, -⟩ := blanks_eq_done.mp h₃
    have hs₃ : s₃ ≠ [] := by
      rintro rfl
      exact absurd harg nofun
    refine refuses_quoted_append hrefuses hs₃ fun mark hmark tail heq => ?_
    refine hspares mark hmark ⟨name, bs, tail, hid, fun c hc => ?_, ?_, ?_⟩
    · exact List.contains_iff_mem.mp (hbs c hc)
    · exact refuses_quoted.mp hrefuses mark hmark tail heq
    · rw [hs₁, hs₂, heq]

theorem value_append' {v : String} (h : value s = .done v rest) :
    value (s ++ t) = .done v (rest ++ t) := by
  rcases orElse_eq_done.mp h with h | ⟨hrefuses, h⟩
  · exact orElse_eq_done.mpr (.inl (quoted_append' h t))
  · have hword := (Local.takeWhile1 (ht.stops any_isValueChar_ends)).map String.ofList
    refine orElse_eq_done.mpr (.inr ⟨?_, hword.done h⟩)
    obtain ⟨cs, hcs, -⟩ := map_eq_done.mp h
    obtain ⟨rfl, hne, hchars, -⟩ := takeWhile1_eq_done.mp hcs
    obtain ⟨c, cs, rfl⟩ := List.exists_cons_of_ne_nil hne
    refine refuses_quoted_append hrefuses (List.cons_ne_nil _ _) fun mark hmark tail heq => ?_
    obtain ⟨rfl, -⟩ := List.cons.inj heq
    have hmarks : quoteMarks ⊆ marks := by decide
    have hvalue := eq_false_of_any any_isValueChar_marks (hmarks hmark)
    exact absurd (hchars c List.mem_cons_self) (Bool.eq_false_iff.mp hvalue)

theorem predicate_append' {x : Located Predicate} (h : predicate s = .done x rest)
    (hspares : Text.Spares t x.start) :
    ∃ y, predicate (s ++ t) = .done y (rest ++ t) ∧ y.node = x.node := by
  obtain ⟨rfl, h⟩ := predicate_eq_done.mp h
  refine ⟨⟨x.start ++ t, x.node⟩, predicate_eq_done.mpr ⟨rfl, ?_⟩, rfl⟩
  rcases h with h | ⟨hrefuses, v, hv, hnode⟩
  · exact .inl (predicateCall_append' ht h hspares)
  · refine .inr ⟨?_, v, ?_, hnode⟩
    · rw [refuses_predicateCall] at hrefuses ⊢
      exact hrefuses.append_stops (ht.stops (by decide))
    · exact value_append' ht hv

/-! ### Labels -/

theorem labelMatch_append' {m : LabelMatch} (h : labelMatch s = .done m rest)
    (hspares : ∀ x ∈ m.predicates, Text.Spares t x.start) (hrest : ClosesBehindGap rest) :
    ∃ n, labelMatch (s ++ t) = .done n (rest ++ t) ∧ n.unplaced = m.unplaced := by
  obtain ⟨s₁, s₂, s₃, hlabel, h₁, h₂, hps⟩ := labelMatch_eq_done.mp h
  obtain ⟨ps, hps', hnodes⟩ := nonEmptyListOf_append (F := fun _ => True)
    (S := fun x y : Located Predicate => y.node = x.node)
    (fun s x mid hx hspares _ => predicate_append' ht hx hspares)
    (fun s x mid a after hx _ => ⟨trivial, (bar_local ht).done hx⟩) trivial
    (fun _ => refuses_bind.mpr (.inl (hrest.append t).refuses_bar)) hps hspares
  refine ⟨⟨m.label, ps⟩, labelMatch_eq_done.mpr ⟨s₁ ++ t, s₂ ++ t, s₃ ++ t,
    (identifier_local ht).done hlabel, (blanks_local ht).done h₁, (blanks_local ht).done h₂,
    hps'⟩, ?_⟩
  exact congrArg (LabelMatch.mk m.label) (map_eq_of_forall₂ (hnodes.imp fun x y h => by rw [h]))

end Parted

/-! ### Braces -/

theorem comma_append {c : Char} (h : comma s = .done c rest) (hne : rest ≠ []) (t : List Char) :
    comma (s ++ t) = .done c (rest ++ t) := by
  obtain ⟨rfl, mid, hbefore, hafter⟩ := comma_eq_done.mp h
  exact comma_eq_done.mpr
    ⟨rfl, mid ++ t, gap_append hbefore (List.cons_ne_nil _ _) t, gap_append hafter hne t⟩

/-- Braces close without a comma. -/
theorem refuses_comma (h : gap s = .done () ('\x7d' :: rest)) : comma.Refuses s :=
  refuses_bind.mpr (.inr ⟨(), _, h,
    refuses_bind.mpr (.inl (refuses_char.mpr (Stops.cons (by decide))))⟩)

section Braces

variable {α α' : Type} {item : Parser α} {item' : Parser α'} {S : α → α' → Prop} {H : α → Prop}
  (hitem : ∀ s a mid, item s = .done a mid → H a → ClosesBehindGap mid →
    ∃ a', item' (s ++ t) = .done a' (mid ++ t) ∧ S a a')
  (hnil : item.Refuses []) (hidle : ∀ s, Idle s → item'.Refuses s)
include hitem hnil hidle

theorem listOf_comma_append {items : List α} (h : listOf item comma s = .done items rest)
    (hrest : ClosesBehindGap rest)
    (hend : (do let _ ← comma; item : Parser α).Refuses rest →
      (do let _ ← comma; item' : Parser α').Refuses (rest ++ t))
    (hitems : ∀ a ∈ items, H a) :
    ∃ items', listOf item' comma (s ++ t) = .done items' (rest ++ t) ∧
      List.Forall₂ S items items' := by
  refine listOf_append hitem ?_ hrest (hidle _ (hrest.append t).idle) hend h hitems
  intro s c mid a after hcomma ha
  have hmid : mid ≠ [] := by
    rintro rfl
    obtain ⟨place, hplace⟩ := hnil
    exact absurd (hplace.symm.trans ha) nofun
  obtain ⟨rfl, before, hbefore, -⟩ := comma_eq_done.mp hcomma
  exact ⟨⟨_, hbefore, ',', before, rfl, by decide⟩, comma_append hcomma hmid t⟩

theorem braceRest_append {items : List α} (h : braceRest item s = .done items rest)
    (hitems : ∀ a ∈ items, H a) :
    ∃ items', braceRest item' (s ++ t) = .done items' (rest ++ t) ∧
      List.Forall₂ S items items' := by
  obtain ⟨s₁, s₂, hlist, ⟨o, ho⟩, hgap⟩ := braceRest_eq_done.mp h
  have hgap' := gap_append hgap (List.cons_ne_nil _ _) t
  rcases optional_eq_done.mp ho with ⟨c, rfl, hcomma⟩ | ⟨rfl, rfl, -⟩
  · -- A comma is left behind the last item because the braces close.
    have hs₂ : s₂ ≠ [] := by
      rintro rfl
      exact absurd hgap nofun
    obtain ⟨rfl, mid, hbefore, hafter⟩ := comma_eq_done.mp hcomma
    obtain ⟨-, -, -, hstops⟩ := gap_eq_done.mp hafter
    obtain rfl : s₂ = '\x7d' :: rest :=
      (Reply.done.inj ((gap_of_stops hstops).symm.trans hgap)).2
    have hcomma' := comma_append hcomma hs₂ t
    obtain ⟨items', hlist', hS⟩ := listOf_comma_append hitem hnil hidle hlist
      ⟨_, hbefore, ',', mid, rfl, by decide⟩
      (fun _ => refuses_bind.mpr (.inr ⟨',', _, hcomma', hidle _ (Idle.cons (by decide) _)⟩)) hitems
    exact ⟨items', braceRest_eq_done.mpr
      ⟨s₁ ++ t, _, hlist', ⟨some ',', optional_of_done hcomma'⟩, hgap'⟩, hS⟩
  · obtain ⟨place, hplace⟩ := refuses_comma hgap'
    obtain ⟨items', hlist', hS⟩ := listOf_comma_append hitem hnil hidle hlist
      ⟨_, hgap, '\x7d', rest, rfl, by decide⟩
      (fun _ => refuses_bind.mpr (.inl ⟨place, hplace⟩)) hitems
    exact ⟨items', braceRest_eq_done.mpr
      ⟨_, _, hlist', ⟨none, optional_of_refused hplace⟩, hgap'⟩, hS⟩

end Braces

theorem openBrace_append (h : openBrace s = .done () rest) (hne : rest ≠ []) (t : List Char) :
    openBrace (s ++ t) = .done () (rest ++ t) := by
  obtain ⟨mid, rfl, hgap⟩ := openBrace_eq_done.mp h
  exact openBrace_eq_done.mpr ⟨mid ++ t, rfl, gap_append hgap hne t⟩

/-- The braces have to be closed. -/
theorem braceRest_nil {item : Parser α} (hnil : item.Refuses []) {items : List α} :
    braceRest item [] ≠ .done items rest := by
  intro h
  obtain ⟨s₁, s₂, hlist, ⟨o, ho⟩, hgap⟩ := braceRest_eq_done.mp h
  obtain ⟨place, hplace⟩ := hnil
  obtain ⟨-, rfl⟩ := Reply.done.inj (hlist.symm.trans (listOf_of_refused hplace))
  have hcomma : comma [] = .refused [] := rfl
  obtain ⟨-, rfl⟩ := Reply.done.inj (ho.symm.trans (optional_of_refused hcomma))
  exact absurd hgap nofun

theorem labelMatch_refused (h : Idle s) : labelMatch.Refuses s :=
  ⟨s, bind_of_refused (identifier_refused (h.stops any_isWordStart_idleChars))⟩

theorem matchBody_append' (ht : Parted t) {labels : List LabelMatch}
    (h : matchBody s = .done labels rest)
    (hspares : ∀ m ∈ labels, ∀ x ∈ m.predicates, Text.Spares t x.start) :
    ∃ labels', matchBody (s ++ t) = .done labels' (rest ++ t) ∧
      labels'.map (·.unplaced) = labels.map (·.unplaced) := by
  obtain ⟨mid, hopen, hbody⟩ := matchBody_eq_done.mp h
  have hmid : mid ≠ [] := by
    rintro rfl
    exact braceRest_nil (labelMatch_refused .nil) hbody
  obtain ⟨labels', hbody', hS⟩ := braceRest_append
    (fun s m mid hm hspares hmid => labelMatch_append' ht hm hspares hmid)
    (labelMatch_refused .nil) (fun s hs => labelMatch_refused hs) hbody hspares
  exact ⟨labels', matchBody_eq_done.mpr ⟨_, openBrace_append hopen hmid t, hbody'⟩,
    map_eq_of_forall₂ hS⟩

/-! ## Expressions read alike -/

/-- An event has no labels where no brace opens. -/
theorem refuses_labels : (do blanks; matchBody : Parser _).Refuses s ↔
    ∃ mid, blanks s = .done () mid ∧ Stops ['\x7b'].contains mid := by
  simp [refuses_bind, refuses_matchBody, Unique.exists_iff]

/-- What `inner` reads, that `inner'` reads with `t` behind it, if `t` spares it. -/
def ReadsBefore (t : List Char) (inner inner' : Parser (Located Expr)) : Prop :=
  ∀ s e rest, inner s = .done e rest → e.node.Spared t →
    ∃ f, inner' (s ++ t) = .done f (rest ++ t) ∧ f.node.unplaced = e.node.unplaced

section Expr

variable (ht : Parted t)
include ht

theorem event_append' {e : Expr} (h : event s = .done e rest) (hspared : e.Spared t) :
    ∃ f, event (s ++ t) = .done f (rest ++ t) ∧ f.unplaced = e.unplaced := by
  obtain ⟨name, labels, mid, rfl, hname, hlabels⟩ := event_eq_done.mp h
  have hname' := (identifier_local ht).done hname
  rcases hlabels with ⟨mid', hblanks, hbody⟩ | ⟨rfl, rfl, hnone⟩
  · obtain ⟨labels', hbody', hsame⟩ := matchBody_append' ht hbody hspared.event
    refine ⟨.event name labels', event_eq_done.mpr ⟨name, labels', _, rfl, hname',
      .inl ⟨_, (blanks_local ht).done hblanks, hbody'⟩⟩, ?_⟩
    rw [Expr.unplaced, Expr.unplaced, hsame]
  · obtain ⟨mid, hblanks, hstops⟩ := refuses_labels.mp hnone
    have hnone' := refuses_labels.mpr
      ⟨_, (blanks_local ht).done hblanks, hstops.append_stops (ht.stops (by decide))⟩
    exact ⟨.event name [], event_eq_done.mpr ⟨name, [], _, rfl, hname',
      .inr ⟨rfl, rfl, hnone'⟩⟩, rfl⟩

section Inner

variable {inner inner' : Parser (Located Expr)} (hinner : ReadsBefore t inner inner')
  (hidle : ∀ s, Idle s → inner.Refuses s) (hidle' : ∀ s, Idle s → inner'.Refuses s)
include hinner hidle

omit ht in
theorem paren_append {e : Expr} (h : paren inner s = .done e rest) (hspared : e.Spared t) :
    ∃ f, paren inner' (s ++ t) = .done f (rest ++ t) ∧ f.unplaced = e.unplaced := by
  obtain ⟨x, mid, mid', mid'', rfl, rfl, hopen, hx, hclose⟩ := paren_eq_done.mp h
  have hmid' : mid' ≠ [] := by
    rintro rfl
    obtain ⟨place, hplace⟩ := hidle [] .nil
    exact absurd (hplace.symm.trans hx) nofun
  obtain ⟨y, hy, hsame⟩ := hinner mid' x mid'' hx hspared
  refine ⟨.paren y, paren_eq_done.mpr ⟨y, _, _, _, rfl, rfl, gap_append hopen hmid' t, hy,
    gap_append hclose (List.cons_ne_nil _ _) t⟩, ?_⟩
  rw [Expr.unplaced, Expr.unplaced, hsame]

include hidle' in
theorem call_append {e : Expr} (h : call inner s = .done e rest) (hspared : e.Spared t) :
    ∃ f, call inner' (s ++ t) = .done f (rest ++ t) ∧ f.unplaced = e.unplaced := by
  obtain ⟨name, args, mid, s₁, s₂, s₃, rfl, rfl, hname, hblanks, hopen, hargs⟩ := call_eq_done.mp h
  have hs₃ : s₃ ≠ [] := by
    rintro rfl
    exact braceRest_nil (hidle [] .nil) hargs
  obtain ⟨args', hargs', hS⟩ := braceRest_append
    (S := fun e f : Located Expr => f.node.unplaced = e.node.unplaced)
    (fun s e mid he hspared _ => hinner s e mid he hspared) (hidle [] .nil) hidle'
    hargs hspared.call
  refine ⟨.call name args', call_eq_done.mpr ⟨name, args', _, _, _, _, rfl, rfl,
    (identifier_local ht).done hname, (blanks_local ht).done hblanks, openBrace_append hopen hs₃ t,
    hargs'⟩, ?_⟩
  have hplaces := map_eq_of_forall₂ (f := fun e : Located Expr => Located.mk [] e.node.unplaced)
    (g := fun e : Located Expr => Located.mk [] e.node.unplaced) (hS.imp fun e f h => by rw [h])
  rw [Expr.unplaced, Expr.unplaced, Expr.unplacedAll_eq, Expr.unplacedAll_eq, hplaces]

include hidle' in
theorem primary_append : ReadsBefore t (primary inner) (primary inner') := by
  intro s e rest h hspared
  obtain ⟨rfl, h⟩ := primary_eq_done.mp h
  suffices hf : ∃ f, (number <|> paren inner' <|> call inner' <|> event : Parser Expr)
      (e.start ++ t) = .done f (rest ++ t) ∧ f.unplaced = e.node.unplaced by
    obtain ⟨f, hf, hsame⟩ := hf
    exact ⟨⟨_, f⟩, primary_eq_done.mpr ⟨rfl, hf⟩, hsame⟩
  rcases orElse_eq_done.mp h with h | ⟨hnumber, h⟩
  · exact ⟨e.node, orElse_eq_done.mpr (.inl ((number_local ht).done h)), rfl⟩
  obtain ⟨_, hnumber⟩ := (number_local ht).refuses hnumber
  rw [orElse_of_refused _ hnumber]
  rcases orElse_eq_done.mp h with h | ⟨hparen, h⟩
  · obtain ⟨f, hf, hsame⟩ := paren_append hinner hidle h hspared
    exact ⟨f, orElse_of_done _ hf, hsame⟩
  obtain ⟨_, hparen⟩ : (paren inner').Refuses (e.start ++ t) :=
    refuses_paren.mpr ((refuses_paren.mp hparen).append_stops (ht.stops (by decide)))
  rw [orElse_of_refused _ hparen]
  rcases orElse_eq_done.mp h with h | ⟨hcall, h⟩
  · obtain ⟨f, hf, hsame⟩ := call_append ht hinner hidle hidle' h hspared
    exact ⟨f, orElse_of_done _ hf, hsame⟩
  obtain ⟨_, hcall⟩ : (call inner').Refuses (e.start ++ t) :=
    refuses_call.mpr ((refuses_call.mp hcall).append_stops (ht.stops (by decide)))
  rw [orElse_of_refused _ hcall]
  exact event_append' ht h hspared

include hidle' in
theorem postfixed_append : ReadsBefore t (postfixed inner) (postfixed inner') := by
  intro s e rest h hspared
  obtain ⟨first, mid, hfirst, hmore⟩ := bind_eq_done.mp h
  obtain ⟨-, hkept, hfold⟩ := fold_append (S := Eq) (F := fun _ => True) (H := fun _ => True)
    (G := fun e : Located Expr => e.node.Spared t)
    (f := fun (e : Located Expr) (b : Bracket) => ⟨e.start, .shift e b⟩)
    (R := fun e f : Located Expr => f.node.unplaced = e.node.unplaced)
    (g := fun (e : Located Expr) (b : Bracket) => ⟨e.start, .shift e b⟩)
    (fun e b h => ⟨h, trivial⟩)
    (fun e f b b' hsame hb => by rw [Expr.unplaced, Expr.unplaced, hsame, hb])
    (fun _ _ _ _ => trivial)
    (fun s b mid hb _ _ => ⟨b, (bracket_local ht).done hb, rfl⟩) trivial
    (bracket_local ht).refuses hmore hspared
  obtain ⟨first', hfirst', hsame⟩ := primary_append ht hinner hidle hidle' s first mid hfirst hkept
  obtain ⟨f, hf, hsame⟩ := hfold first' hsame
  exact ⟨f, bind_eq_done.mpr ⟨first', _, hfirst', hf⟩, hsame⟩

end Inner

theorem chain_append {operand operand' : Parser (Located Expr)} (ops : List (Char × Merger))
    (hops : Stops (ops.map (·.1)).contains t) (hoperand : ReadsBefore t operand operand')
    (hnil : operand.Refuses []) : ReadsBefore t (chain operand ops) (chain operand' ops) := by
  intro s e rest h hspared
  obtain ⟨first, mid, hfirst, hmore⟩ := bind_eq_done.mp h
  obtain ⟨-, hkept, hfold⟩ := fold_append (F := fun _ => True)
    (H := fun x : Merger × Located Expr => x.2.node.Spared t)
    (S := fun x y : Merger × Located Expr => y.1 = x.1 ∧ y.2.node.unplaced = x.2.node.unplaced)
    (G := fun e : Located Expr => e.node.Spared t)
    (R := fun e f : Located Expr => f.node.unplaced = e.node.unplaced)
    (q := do let op ← operator ops; return (op, ← commit operand'))
    (g := fun lhs x => ⟨lhs.start, .binary x.1 lhs x.2⟩)
    (fun e x h => Expr.Spared.binary_iff.mp h)
    (fun e f x y hsame hxy => by
      rw [Expr.unplaced, Expr.unplaced, hsame, hxy.1, hxy.2])
    (fun _ _ _ _ => trivial)
    (fun s x mid hx hspared _ => by
      obtain ⟨place, hop, hx⟩ := right_eq_done.mp hx
      obtain ⟨c, between, hblanks, hc, hgap, hsome⟩ := operator_eq_done.mp hop
      have hplace : place ≠ [] := by
        rintro rfl
        obtain ⟨_, hrefused⟩ := hnil
        exact absurd (hrefused.symm.trans hx) nofun
      obtain ⟨f, hf, hsame⟩ := hoperand place x.2 mid hx hspared
      refine ⟨(x.1, f), right_eq_done.mpr ⟨_, operator_eq_done.mpr ⟨c, _,
        (blanks_local ht).done hblanks, hc, gap_append hgap hplace t, hsome⟩, hf⟩, rfl, hsame⟩)
    trivial
    (fun hend => by
      obtain ⟨mid, hblanks, hstops⟩ := refuses_operator.mp (refuses_right.mp hend)
      exact refuses_right.mpr (refuses_operator.mpr
        ⟨_, (blanks_local ht).done hblanks, hstops.append_stops hops⟩))
    hmore hspared
  obtain ⟨first', hfirst', hsame⟩ := hoperand s first mid hfirst hkept
  obtain ⟨f, hf, hsame⟩ := hfold first' hsame
  exact ⟨f, bind_eq_done.mpr ⟨first', _, hfirst', hf⟩, hsame⟩

omit ht in
theorem expr_eq (s : List Char) : expr s = exprWithin (s.length + 1) s := rfl

/-- More depth than it takes changes nothing, either. -/
theorem exprWithin_append {depth depth' : Nat} (hle : depth ≤ depth') :
    ReadsBefore t (exprWithin depth) (exprWithin depth') := by
  induction depth generalizing depth' with
  | zero => exact fun _ _ _ h => absurd h nofun
  | succ depth ih =>
    obtain ⟨depth', rfl⟩ : ∃ d, depth' = d + 1 := ⟨depth' - 1, by omega⟩
    have hpostfixed := postfixed_append ht (ih (Nat.le_of_succ_le_succ hle))
      (fun _ => exprWithin_refused depth) (fun _ => exprWithin_refused depth')
    have hnil : (postfixed (exprWithin depth)).Refuses [] :=
      ⟨[], bind_of_refused (primary_refused .nil)⟩
    have hterm := chain_append ht [('*', .mul), ('/', .div)] (ht.stops (by decide)) hpostfixed hnil
    exact chain_append ht _ (ht.stops (by decide)) hterm
      (refuses_bind.mpr (.inl hnil))

theorem expr_append : ReadsBefore t expr expr := by
  intro s e rest h hspared
  have hle : s.length + 1 ≤ (s ++ t).length + 1 := by
    rw [List.length_append]
    omega
  rw [expr_eq] at h ⊢
  exact exprWithin_append ht hle s e rest h hspared

end Expr

theorem expr_refused (h : Idle s) : expr.Refuses s := by
  unfold Refuses
  rw [expr_eq]
  exact exprWithin_refused _ h

end Grammar

end SeriesQuery
