import SeriesQuery.Proofs.Query.Levels

/-!
# Expressions read back from their text

An expression that is read and printed is read again as the same expression, up to the places its
parts are read from.

* `Expr.Plain`, `Expr.Printable` : numbers are finite and read back, quoted strings need no escapes;
* `Grammar.stops_text` : no text begins with a blank or an end of a line;
* `Grammar.readsAt` : the level of a printable expression reads it from its text;
* `Expr.printed_spec` : so does the grammar, to the end of the text.
-/

namespace SeriesQuery

open Text (Located)

namespace Expr

/-! ## Expressions that can be read back -/

/-- What is printed at the top of the expression is read back as it is. -/
def Plain : Expr → Prop
  | .event _ labels => ∀ m ∈ labels, m.Unescaped
  | .number v => v.isFinite = true ∧ readNumber? (plainText v).toList = some v
  | _ => True

def Printable (e : Expr) : Prop := ∀ f ∈ e.parts, f.Formed ∧ f.Plain

theorem printable_of_wellFormed {e : Expr} (h : e.WellFormed)
    (hfinite : ∀ v ∈ e.numbers, v.isFinite = true)
    (hescapes : ∀ p ∈ e.predicates, p.Unescaped)
    (hreads : ∀ v ∈ e.numbers, readNumber? (plainText v).toList = some v) : e.Printable := by
  intro f hf
  refine ⟨h f hf, ?_⟩
  cases f with
  | event name labels =>
    intro m hm p hp
    refine hescapes p.node (List.mem_flatMap.mpr ⟨_, hf, List.mem_flatMap.mpr ⟨m, hm, ?_⟩⟩)
    exact List.mem_map_of_mem hp
  | number v =>
    have hv : v ∈ e.numbers := List.mem_filterMap.mpr ⟨_, hf, rfl⟩
    exact ⟨hfinite v hv, hreads v hv⟩
  | _ => trivial

namespace Printable

variable {op : Merger} {e lhs rhs : Located Expr} {es : List (Located Expr)}

theorem binary (h : (Expr.binary op lhs rhs).Printable) :
    lhs.node.Printable ∧ rhs.node.Printable := by
  obtain ⟨-, h⟩ := List.forall_mem_cons.mp h
  exact List.forall_mem_append.mp h

theorem shift {b : Bracket} (h : (Expr.shift e b).Printable) : e.node.Printable :=
  (List.forall_mem_cons.mp h).2

theorem paren (h : (Expr.paren e).Printable) : e.node.Printable := (List.forall_mem_cons.mp h).2

theorem call {name : String} (h : (Expr.call name es).Printable) :
    ∀ e ∈ es, e.node.Printable := by
  obtain ⟨-, h⟩ := List.forall_mem_cons.mp h
  rw [partsOf_eq] at h
  exact List.forall_mem_flatMap.mp h

end Printable

theorem texts_eq (es : List (Located Expr)) : texts es = es.map (·.node.text) := by
  induction es with
  | nil => rfl
  | cons e es ih => rw [texts, ih, List.map_cons]

theorem unplacedAll_eq (es : List (Located Expr)) :
    unplacedAll es = es.map fun e => ⟨[], e.node.unplaced⟩ := by
  induction es with
  | nil => rfl
  | cons e es ih => rw [unplacedAll, ih, List.map_cons]

end Expr

namespace Grammar

open SeriesQuery.Parser

/-! ## Beginnings -/

theorem exists_text_event (name : String) (labels : List LabelMatch) :
    ∃ s, (Expr.event name labels).text.toList = name.toList ++ s := by
  unfold Expr.text
  split
  · exact ⟨[], (List.append_nil _).symm⟩
  · exact ⟨_, by rw [String.append_assoc, String.append_assoc, String.toList_append]⟩

theorem exists_text_call (name : String) (args : List (Located Expr)) :
    ∃ s, (Expr.call name args).text.toList = '!' :: s :=
  ⟨_, by rw [Expr.text, String.append_assoc, String.append_assoc, String.append_assoc,
    String.toList_append]; rfl⟩

theorem exists_text_paren (e : Located Expr) : ∃ s, (Expr.paren e).text.toList = '(' :: s :=
  ⟨_, by rw [Expr.text, String.append_assoc, String.toList_append]; rfl⟩

theorem stops_text : ∀ {e : Expr}, e.Printable → ∀ rest : List Char,
    Stops gapChars.contains (e.text.toList ++ rest)
  | .event name labels, h, rest => by
    obtain ⟨hname, -⟩ := (h _ (Expr.mem_parts_self _)).1
    obtain ⟨s, htext⟩ := exists_text_event name labels
    rw [htext, List.append_assoc]
    exact hname.stops (by decide) _
  | .number v, h, rest => by
    obtain ⟨x, htext⟩ := exists_numeral_of_isFinite (h _ (Expr.mem_parts_self _)).2.1
    rw [Expr.text, htext]
    exact x.stops_text (by decide) rest
  | .call name args, h, rest => by
    obtain ⟨s, htext⟩ := exists_text_call name args
    rw [htext]
    exact Stops.cons (by decide)
  | .binary op lhs rhs, h, rest => by
    have hlhs := h.binary.1
    rw [Expr.text, String.append_assoc, String.append_assoc, String.append_assoc,
      String.toList_append, List.append_assoc]
    exact stops_text hlhs _
  | .shift e b, h, rest => by
    have he := h.shift
    rw [Expr.text, String.toList_append, List.append_assoc]
    exact stops_text he _
  | .paren e, h, rest => by
    obtain ⟨s, htext⟩ := exists_text_paren e
    rw [htext]
    exact Stops.cons (by decide)

/-! ## One level on top of another -/

section Within

variable {inner : Parser (Located Expr)}

/-- The parser inside of parentheses and braces reads `e` from its text. -/
def ReadsInside (inner : Parser (Located Expr)) (e : Expr) : Prop :=
  ∀ rest, Follows 3 rest → ∃ x : Located Expr, x.node.unplaced = e.unplaced ∧
    inner (e.text.toList ++ rest) = .done x rest

theorem readsAt_zero {e : Expr} (h : ∀ rest, Follows 0 rest → ∃ f : Expr,
    f.unplaced = e.unplaced ∧ (number <|> paren inner <|> call inner <|> event : Parser Expr)
      (e.text.toList ++ rest) = .done f rest) : ReadsAt inner 0 e := by
  intro rest hrest
  obtain ⟨f, hf, hread⟩ := h rest hrest
  exact ⟨⟨_, f⟩, hf, located_of_done hread⟩

theorem paren_refused {s : List Char} (h : Stops ['('].contains s) :
    paren inner s = .refused s := by
  rw [paren, bind_of_refused (char_refused h)]

theorem call_refused {s : List Char} (h : Stops ['!'].contains s) : call inner s = .refused s := by
  rw [call, bind_of_refused (char_refused h)]

theorem primary_refused {s : List Char} (h : Idle s) : primary inner s = .refused s := by
  refine located_of_refused ?_
  rw [orElse_of_refused _ (number_refused (h.stops (by decide)) (h.stops (by decide))),
    orElse_of_refused _ (paren_refused (h.stops (by decide))),
    orElse_of_refused _ (call_refused (h.stops (by decide))), event,
    bind_of_refused (identifier_refused (h.stops any_isWordStart_idleChars))]

theorem readsAt_event {name : String} {labels : List LabelMatch}
    (h : (Expr.event name labels).Printable) : ReadsAt inner 0 (.event name labels) := by
  refine readsAt_zero fun rest hrest => ?_
  obtain ⟨⟨hname, hlabels⟩, hplain⟩ := h _ (Expr.mem_parts_self _)
  obtain ⟨x, hx, hunplaced⟩ :=
    event_append hname hlabels hplain hrest.marked (matchBody_refused hrest)
  obtain ⟨s, htext⟩ := exists_text_event name labels
  rw [htext, List.append_assoc] at hx ⊢
  obtain ⟨hsign, hdigit⟩ := hname.stops_number (s ++ rest)
  refine ⟨x, hunplaced, ?_⟩
  rw [orElse_of_refused _ (number_refused hsign hdigit),
    orElse_of_refused _ (paren_refused (hname.stops (by decide) _)),
    orElse_of_refused _ (call_refused (hname.stops (by decide) _)), hx]

theorem readsAt_number {v : Float} (h : (Expr.number v).Printable) :
    ReadsAt inner 0 (.number v) := by
  refine readsAt_zero fun rest hrest => ⟨.number v, rfl, ?_⟩
  obtain ⟨hfinite, hread⟩ := (h _ (Expr.mem_parts_self _)).2
  obtain ⟨x, htext⟩ := exists_numeral_of_isFinite hfinite
  have hvalue : x.value = v := by
    rw [htext, x.readNumber?_text] at hread
    exact Option.some.inj hread
  rw [Expr.text, htext, ← hvalue]
  exact orElse_of_done _ (number_append x hrest.marked)

theorem readsAt_paren {e : Located Expr} (h : (Expr.paren e).Printable)
    (he : ReadsInside inner e.node) : ReadsAt inner 0 (.paren e) := by
  refine readsAt_zero fun rest _ => ?_
  obtain ⟨x, hx, hread⟩ := he (')' :: rest) (.close (by decide) rest)
  have htext : (Expr.paren e).text.toList ++ rest = '(' :: (e.node.text.toList ++ ')' :: rest) := by
    simp [Expr.text]
  refine ⟨.paren x, by rw [Expr.unplaced, Expr.unplaced, hx], ?_⟩
  rw [htext, orElse_of_refused _ (number_refused (Stops.cons (by decide))
    (Stops.cons (by decide)))]
  refine orElse_of_done _ ?_
  rw [paren, bind_of_done (char_cons '(' _), bind_of_done (gap_of_stops (stops_text h.paren _)),
    bind_of_done (commit_of_done hread)]
  refine commit_of_done ?_
  rw [bind_of_done (gap_of_stops (Stops.cons (by decide))),
    bind_of_done (char_cons ')' rest)]
  rfl

theorem readsAt_call {name : String} {args : List (Located Expr)}
    (h : (Expr.call name args).Printable) (hargs : ∀ e ∈ args, ReadsInside inner e.node)
    (hnone : ∀ rest, ∃ place, inner ('\x7d' :: rest) = .refused place) :
    ReadsAt inner 0 (.call name args) := by
  refine readsAt_zero fun rest _ => ?_
  have hname : IsIdentifier name := (h _ (Expr.mem_parts_self _)).1
  have hstart : ∀ e ∈ args, ∀ rest,
      Stops gapChars.contains (e.node.text.toList ++ rest) :=
    fun e he => stops_text (h.call e he)
  have hitem : ∀ e ∈ args, ∀ rest, Closes rest → ∃ x, inner (e.node.text.toList ++ rest) =
      .done x rest ∧ (⟨[], x.node.unplaced⟩ : Located Expr) = ⟨[], e.node.unplaced⟩ := by
    intro e he rest hrest
    obtain ⟨x, hx, hread⟩ := hargs e he rest (.of_closes hrest)
    exact ⟨x, hread, by rw [hx]⟩
  obtain ⟨xs, hxs, hall⟩ := braceRest_intercalate hitem hstart hnone rest
  have hbraces : (do openBrace; braceRest inner : Parser _) ('\x7b' ::
      ([',', ' '].intercalate (args.map (·.node.text.toList)) ++ '\x7d' :: rest)) =
      .done xs rest := by
    rw [bind_of_done (openBrace_cons (stops_braces hstart rest)), hxs]
  have htext : (Expr.call name args).text.toList ++ rest = '!' :: (name.toList ++ '\x7b' ::
      ([',', ' '].intercalate (args.map (·.node.text.toList)) ++ '\x7d' :: rest)) := by
    simp [Expr.text, Expr.texts_eq, String.toList_intercalate, Function.comp_def]
  refine ⟨.call name xs, ?_, ?_⟩
  · rw [Expr.unplaced, Expr.unplaced, Expr.unplacedAll_eq, Expr.unplacedAll_eq, hall]
  · rw [htext, orElse_of_refused _ (number_refused (Stops.cons (by decide))
      (Stops.cons (by decide))), orElse_of_refused _ (paren_refused
      (Stops.cons (by decide)))]
    refine orElse_of_done _ ?_
    rw [call, bind_of_done (char_cons '!' _),
      bind_of_done (commit_of_done (identifier_append hname (Marked.cons (by decide) _))),
      bind_of_done (blanks_of_stops (Stops.cons (by decide))),
      bind_of_done (commit_of_done hbraces)]
    rfl

theorem ReadsAt.shift {e : Located Expr} {b : Bracket} (he : ReadsAt inner 1 e.node)
    (hb : b.Formed) : ReadsAt inner 1 (.shift e b) := by
  intro rest _
  obtain ⟨s, htext⟩ := b.exists_text
  have hfollows : Follows 0 (b.text.toList ++ rest) := htext ▸ .bracket _
  obtain ⟨x, hx, hread⟩ := he _ hfollows
  refine ⟨⟨x.start, .shift x b⟩, by rw [Expr.unplaced, Expr.unplaced, hx], ?_⟩
  rw [Expr.text, String.toList_append, List.append_assoc, hread, climb_bracket inner hb]

theorem ReadsAt.binary {op : Merger} {lhs rhs : Located Expr}
    (hlhs : ReadsAt inner op.rank lhs.node) (hrhs : ReadsAt inner (op.rank - 1) rhs.node)
    (hprint : rhs.node.Printable) :
    ReadsAt inner op.rank (.binary op lhs rhs) := by
  intro rest hrest
  have hrank : op.rank - 1 < op.rank := by cases op <;> decide
  obtain ⟨y, hy, hyread⟩ := hrhs.done hrest
  obtain ⟨x, hx, hxread⟩ := hlhs _ (.operator hrank (rhs.node.text.toList ++ rest))
  refine ⟨⟨x.start, .binary op x y⟩, by rw [Expr.unplaced, Expr.unplaced, hx, hy], ?_⟩
  have htext : (Expr.binary op lhs rhs).text.toList ++ rest = lhs.node.text.toList ++
      ' ' :: (op.symbol.toList ++ ' ' :: (rhs.node.text.toList ++ rest)) := by
    simp [Expr.text]
  have hlen : rest.length ≤ (rhs.node.text.toList ++ rest).length := by simp
  rw [htext, hxread, climb_operator inner op x (stops_text hprint rest) hyread hlen]

end Within

/-! ## All levels -/

/-- No expression begins between two items of a list, or at its end. -/
theorem exprWithin_refused (depth : Nat) {s : List Char} (h : Idle s) :
    (exprWithin depth).Refuses s := by
  cases depth with
  | zero => exact ⟨s, rfl⟩
  | succ depth =>
    exact ⟨s, bind_of_refused (bind_of_refused (bind_of_refused (primary_refused h)))⟩

theorem ReadsAt.inside {depth : Nat} {e : Expr} (h : ReadsAt (exprWithin depth) e.rank e) :
    ReadsInside (exprWithin (depth + 1)) e :=
  fun _ hrest => (h.of_le e.rank_le (Nat.le_refl 3)).done hrest

mutual

theorem readsAt : ∀ (e : Expr) {depth : Nat}, e.Printable → e.text.toList.length ≤ depth →
    ReadsAt (exprWithin depth) e.rank e
  | .event name labels, _, h, _ => readsAt_event h
  | .number v, _, h, _ => readsAt_number h
  | .call name args, depth, h, hlen => by
    simp only [Expr.text, Expr.texts_eq, String.toList_append, List.length_append] at hlen
    have hmark : "!".toList.length = 1 := rfl
    obtain ⟨depth, rfl⟩ : ∃ d, depth = d + 1 := ⟨depth - 1, by omega⟩
    have hlens : ∀ e ∈ args, e.node.text.toList.length ≤ depth := by
      intro e he
      have hmem : e.node.text.toList ∈ (args.map (·.node.text)).map String.toList := by
        rw [List.map_map]
        exact List.mem_map_of_mem he
      have hle : e.node.text.toList.length ≤
          (", ".intercalate (args.map (·.node.text))).toList.length := by
        rw [String.toList_intercalate]
        exact length_le_intercalate hmem
      omega
    exact readsAt_call h (fun e he => (readsAt_of_mem args h.call hlens e he).inside)
      fun rest => exprWithin_refused _ (Idle.cons (by decide) rest)
  | .binary op lhs rhs, depth, h, hlen => by
    obtain ⟨hlhs, hrhs⟩ : lhs.node.rank ≤ op.rank ∧ rhs.node.rank < op.rank :=
      (h _ (Expr.mem_parts_self _)).1
    simp only [Expr.text, String.toList_append, List.length_append] at hlen
    have hrank := op.rank_le
    have hleft := (readsAt lhs.node h.binary.1 (show _ ≤ depth by omega)).of_le hlhs hrank
    have hright := (readsAt rhs.node h.binary.2 (show _ ≤ depth by omega)).of_le
      (Nat.le_sub_one_of_lt hrhs) (by omega)
    exact hleft.binary hright h.binary.2
  | .shift e b, depth, h, hlen => by
    obtain ⟨hrank, hb⟩ : e.node.rank ≤ 1 ∧ b.Formed := (h _ (Expr.mem_parts_self _)).1
    simp only [Expr.text, String.toList_append, List.length_append] at hlen
    have he := readsAt e.node h.shift (show _ ≤ depth by omega)
    exact (he.of_le hrank (by decide)).shift hb
  | .paren e, depth, h, hlen => by
    simp only [Expr.text, String.toList_append, List.length_append] at hlen
    have hmark : "(".toList.length = 1 := rfl
    obtain ⟨depth, rfl⟩ : ∃ d, depth = d + 1 := ⟨depth - 1, by omega⟩
    exact readsAt_paren h (readsAt e.node h.paren (by omega)).inside

theorem readsAt_of_mem : ∀ (es : List (Located Expr)) {depth : Nat},
    (∀ e ∈ es, e.node.Printable) → (∀ e ∈ es, e.node.text.toList.length ≤ depth) →
    ∀ e ∈ es, ReadsAt (exprWithin depth) e.node.rank e.node
  | [], _, _, _ => List.forall_mem_nil _
  | e :: es, _, h, hlen => by
    rw [List.forall_mem_cons] at h hlen ⊢
    exact ⟨readsAt e.node h.1 hlen.1, readsAt_of_mem es h.2 hlen.2⟩

end

end Grammar

namespace Expr

/-- **An expression that is read, and printed, is read back from the whole of its text as the same
expression, up to places. Its numbers are finite and what they are printed as is read as the same
number; what is printed in quotes has no characters that are escaped there.** -/
theorem printed_spec {e : Expr} (h : e.IsRead) (hfinite : ∀ v ∈ e.numbers, v.isFinite = true)
    (hescapes : ∀ p ∈ e.predicates, p.Unescaped)
    (hreads : ∀ v ∈ e.numbers, readNumber? (plainText v).toList = some v) :
    ∃ x, Grammar.expr e.text.toList = .done x [] ∧ x.node.unplaced = e.unplaced := by
  have hprint := printable_of_wellFormed h.wellFormed hfinite hescapes hreads
  obtain ⟨x, hx, hread⟩ := (Grammar.readsAt e hprint (Nat.le_refl _)).inside [] .nil
  rw [List.append_nil] at hread
  exact ⟨x, hread, hx⟩

/-- Chains of both levels, a negative number behind a minus, brackets on brackets, values with and
without quotes, and in the source blanks and commas that are not printed. -/
theorem printed_spec_chains :
    let text := "!zipsum\x7ba\x7bb: c|\"d e\"|!prefix(\"f\")\x7d[-5:m], (2 - -0.5) * g[w]\x7d / 3"
    ∃ e : Expr, e.text = text ∧ e.IsRead ∧ (∀ v ∈ e.numbers, v.isFinite = true) ∧
      (∀ p ∈ e.predicates, p.Unescaped) ∧
      (∀ v ∈ e.numbers, readNumber? (plainText v).toList = some v) ∧
      ∃ x, Grammar.expr text.toList = .done x [] ∧ x.node.unplaced = e.unplaced := by
  intro text
  have hread : (Statement.ofText
      "n: !zipsum\x7ba \x7bb:c|'d e' | !prefix( f )\x7d[-300:s], (2- -0.50)*g[7d],\x7d/3.0"
      ).toOption.any (fun body => (Statement.exprsOf body).any fun x => decide (
        x.2.node.text = text ∧
        (∀ v ∈ x.2.node.numbers, v.isFinite = true) ∧ (∀ p ∈ x.2.node.predicates, p.Unescaped) ∧
        ∀ v ∈ x.2.node.numbers, readNumber? (plainText v).toList = some v)) = true := by
    decide +kernel
  obtain ⟨body, hbody, hany⟩ := exists_of_toOption_any hread
  obtain ⟨x, hx, hcond⟩ := List.any_eq_true.mp hany
  obtain ⟨htext, hfinite, hescapes, hreads⟩ := of_decide_eq_true hcond
  have he := IsRead.statement hbody hx
  have hback := printed_spec he hfinite hescapes hreads
  exact ⟨x.2.node, htext, he, hfinite, hescapes, hreads, htext ▸ hback⟩

end Expr

end SeriesQuery
