import SeriesQuery.Proofs.Query.Pieces

/-!
# The rules of the grammar, read backwards

What the text of a part looks like once the part has been read: one equivalence for each rule, in
terms of the parts that the rule is made of.

* `Grammar.quotedBy_eq_done`, `Grammar.predicateCall_eq_done`, `Grammar.labelMatch_eq_done`,
  `Grammar.braceRest_eq_done` : conditions;
* `Grammar.event_eq_done`, `Grammar.paren_eq_done`, `Grammar.call_eq_done` : expressions;
* `Grammar.groupClause_eq_done`, `Grammar.named_eq_done`, `Grammar.block_eq_done` : statements.
-/

namespace SeriesQuery

open Text (Located)

namespace Grammar

open SeriesQuery.Parser

variable {s rest : List Char}

/-! ## Conditions -/

theorem quotedBy_eq_done {mark : Char} {v : String} : quotedBy mark s = .done v rest ↔
    ∃ cs, v = String.ofList cs ∧ s = mark :: (cs ++ mark :: rest) ∧ mark ∉ cs := by
  simp only [quotedBy, bind_eq_done, char_eq_done, takeWhile_eq_done, pure_eq_done]
  constructor
  · rintro ⟨_, _, ⟨rfl, rfl⟩, cs, _, ⟨rfl, hcs, -⟩, _, _, ⟨rfl, rfl⟩, rfl, rfl⟩
    exact ⟨cs, rfl, rfl, fun hmem => by simpa using hcs _ hmem⟩
  · rintro ⟨cs, rfl, rfl, hcs⟩
    refine ⟨mark, _, ⟨rfl, rfl⟩, cs, _, ⟨rfl, fun c hc => ?_, Stops.cons (by simp)⟩, mark, rest,
      ⟨rfl, rfl⟩, rfl, rfl⟩
    exact bne_iff_ne.mpr fun heq => hcs (heq ▸ hc)

/-- A mark is not closed where it does not stand again. -/
theorem refuses_quotedBy {mark : Char} :
    (quotedBy mark).Refuses s ↔ ∀ tail, s = mark :: tail → mark ∉ tail := by
  constructor
  · rintro ⟨place, hplace⟩ tail rfl hmem
    obtain ⟨cs, rest, rfl, hcs⟩ := List.eq_append_cons_of_mem hmem
    have hdone : quotedBy mark (mark :: (cs ++ mark :: rest)) = .done (String.ofList cs) rest :=
      quotedBy_eq_done.mpr ⟨cs, rfl, rfl, hcs⟩
    exact absurd (hplace.symm.trans hdone) nofun
  · intro h
    refine refuses_bind.mpr (or_iff_not_imp_left.mpr fun hchar => ?_)
    cases s with
    | nil => exact absurd (refuses_char.mpr Stops.nil) hchar
    | cons c tail =>
      obtain rfl : c = mark := by
        by_contra hne
        exact hchar (refuses_char.mpr (Stops.cons (by simpa using hne)))
      refine ⟨c, tail, char_cons c tail, refuses_bind.mpr (.inr ⟨tail, [], ?_, ?_⟩)⟩
      · refine takeWhile_eq_done.mpr ⟨(List.append_nil _).symm, fun d hd => ?_, Stops.nil⟩
        exact bne_iff_ne.mpr fun heq => h tail rfl (heq ▸ hd)
      · exact refuses_bind.mpr (.inl (refuses_char.mpr Stops.nil))

/-- What texts are quoted by. -/
def quoteMarks : List Char := ['"', '\'']

theorem quoted_eq_done {v : String} :
    quoted s = .done v rest ↔ ∃ mark ∈ quoteMarks, quotedBy mark s = .done v rest := by
  have hmarks : (∃ mark ∈ quoteMarks, quotedBy mark s = .done v rest) ↔
      quotedBy '"' s = .done v rest ∨ quotedBy '\'' s = .done v rest := by
    simp [quoteMarks]
  rw [hmarks, quoted, orElse_eq_done, refuses_quotedBy]
  refine or_congr_right (and_iff_right_of_imp fun h => ?_)
  obtain ⟨cs, -, rfl, -⟩ := quotedBy_eq_done.mp h
  rintro tail heq
  exact absurd (List.cons.inj heq).1 (by decide)

theorem refuses_quoted : quoted.Refuses s ↔
    ∀ mark ∈ quoteMarks, ∀ tail, s = mark :: tail → mark ∉ tail := by
  simp [quoted, refuses_orElse, refuses_quotedBy, quoteMarks]

/-- Raw text reaches up to the first closing parenthesis. -/
theorem rawArgument_eq_done {v : String} : rawArgument s = .done v rest ↔
    ∃ cs, v = String.ofList (cs.reverse.dropWhile Text.isBlank).reverse ∧ s = cs ++ rest ∧
      cs ≠ [] ∧ ')' ∉ cs ∧ Stops (· != ')') rest := by
  simp only [rawArgument, bind_eq_done, takeWhile1_eq_done, pure_eq_done]
  constructor
  · rintro ⟨cs, _, ⟨rfl, hne, hcs, hrest⟩, rfl, rfl⟩
    exact ⟨cs, rfl, rfl, hne, fun hmem => by simpa using hcs _ hmem, hrest⟩
  · rintro ⟨cs, rfl, rfl, hne, hcs, hrest⟩
    refine ⟨cs, rest, ⟨rfl, hne, fun c hc => ?_, hrest⟩, rfl, rfl⟩
    exact bne_iff_ne.mpr fun heq => hcs (heq ▸ hc)

theorem predicateCall_eq_done {x : Predicate} : predicateCall s = .done x rest ↔
    ∃ name arg s₁ s₂ s₃ s₄, x = .call name arg ∧ s = '!' :: s₁ ∧
      identifier s₁ = .done name ('(' :: s₂) ∧ blanks s₂ = .done () s₃ ∧
      (quoted <|> rawArgument : Parser String) s₃ = .done arg s₄ ∧
      blanks s₄ = .done () (')' :: rest) := by
  simp only [predicateCall, bind_eq_done, commit_eq_done, char_eq_done, pure_eq_done]
  constructor
  · rintro ⟨_, s₁, ⟨rfl, rfl⟩, name, _, hname, _, s₂, ⟨rfl, rfl⟩, _, s₃, h₃, arg, s₄, harg, _, _,
      h₄, _, _, ⟨rfl, rfl⟩, rfl, rfl⟩
    exact ⟨name, arg, s₁, s₂, s₃, s₄, rfl, rfl, hname, h₃, harg, h₄⟩
  · rintro ⟨name, arg, s₁, s₂, s₃, s₄, rfl, rfl, hname, h₃, harg, h₄⟩
    exact ⟨'!', s₁, ⟨rfl, rfl⟩, name, _, hname, '(', s₂, ⟨rfl, rfl⟩, (), s₃, h₃, arg, s₄, harg,
      (), _, h₄, ')', rest, ⟨rfl, rfl⟩, rfl, rfl⟩

theorem refuses_predicateCall : predicateCall.Refuses s ↔ Stops ['!'].contains s := by
  simp [predicateCall, refuses_bind, refuses_char]

theorem predicate_eq_done {x : Located Predicate} : predicate s = .done x rest ↔ x.start = s ∧
    (predicateCall s = .done x.node rest ∨ predicateCall.Refuses s ∧
      ∃ v, value s = .done v rest ∧ .value v = x.node) := by
  rw [predicate, located_eq_done, orElse_eq_done, map_eq_done]

/-- What stands between two predicates for one label. -/
def bar : Parser Unit := do
  blanks
  let _ ← char '|'
  blanks

theorem labelMatch_eq_done {m : LabelMatch} : labelMatch s = .done m rest ↔
    ∃ s₁ s₂ s₃, identifier s = .done m.label s₁ ∧ blanks s₁ = .done () (':' :: s₂) ∧
      blanks s₂ = .done () s₃ ∧ nonEmptyListOf predicate bar s₃ = .done m.predicates rest := by
  simp only [labelMatch, bind_eq_done, char_eq_done, pure_eq_done]
  constructor
  · rintro ⟨label, s₁, hlabel, _, _, h₁, _, s₂, ⟨rfl, rfl⟩, _, s₃, h₂, ps, _, hps, rfl, rfl⟩
    exact ⟨s₁, s₂, s₃, hlabel, h₁, h₂, hps⟩
  · rintro ⟨s₁, s₂, s₃, hlabel, h₁, h₂, hps⟩
    exact ⟨m.label, s₁, hlabel, (), _, h₁, ':', s₂, ⟨rfl, rfl⟩, (), s₃, h₂, m.predicates, rest, hps,
      rfl, rfl⟩

theorem comma_eq_done {c : Char} : comma s = .done c rest ↔
    c = ',' ∧ ∃ mid, gap s = .done () (',' :: mid) ∧ gap mid = .done () rest := by
  simp only [comma, bind_eq_done, char_eq_done, pure_eq_done]
  constructor
  · rintro ⟨_, _, h₁, _, mid, ⟨rfl, rfl⟩, _, _, h₂, rfl, rfl⟩
    exact ⟨rfl, mid, h₁, h₂⟩
  · rintro ⟨rfl, mid, h₁, h₂⟩
    exact ⟨(), _, h₁, ',', mid, ⟨rfl, rfl⟩, (), rest, h₂, rfl, rfl⟩

theorem openBrace_eq_done {u : Unit} : openBrace s = .done u rest ↔
    ∃ mid, s = '\x7b' :: mid ∧ gap mid = .done () rest := by
  simp only [openBrace, bind_eq_done, char_eq_done]
  constructor
  · rintro ⟨_, mid, ⟨rfl, rfl⟩, h⟩
    exact ⟨mid, rfl, h⟩
  · rintro ⟨mid, rfl, h⟩
    exact ⟨'\x7b', mid, ⟨rfl, rfl⟩, h⟩

theorem braceRest_eq_done {α : Type} {item : Parser α} {items : List α} :
    braceRest item s = .done items rest ↔ ∃ s₁ s₂, listOf item comma s = .done items s₁ ∧
      (∃ o, optional comma s₁ = .done o s₂) ∧ gap s₂ = .done () ('\x7d' :: rest) := by
  simp only [braceRest, bind_eq_done, char_eq_done, pure_eq_done]
  constructor
  · rintro ⟨items, s₁, hitems, o, s₂, ho, _, _, h, _, _, ⟨rfl, rfl⟩, rfl, rfl⟩
    exact ⟨s₁, s₂, hitems, ⟨o, ho⟩, h⟩
  · rintro ⟨s₁, s₂, hitems, ⟨o, ho⟩, h⟩
    exact ⟨items, s₁, hitems, o, s₂, ho, (), _, h, '\x7d', rest, ⟨rfl, rfl⟩, rfl, rfl⟩

theorem matchBody_eq_done {labels : List LabelMatch} : matchBody s = .done labels rest ↔
    ∃ mid, openBrace s = .done () mid ∧ braceRest labelMatch mid = .done labels rest := by
  simp only [matchBody, bind_eq_done, commit_eq_done]
  exact ⟨fun ⟨_, mid, h⟩ => ⟨mid, h⟩, fun ⟨mid, h⟩ => ⟨(), mid, h⟩⟩

theorem refuses_matchBody : matchBody.Refuses s ↔ Stops ['\x7b'].contains s := by
  simp [matchBody, openBrace, refuses_bind, refuses_char]

/-! ## Expressions -/

theorem event_eq_done {e : Expr} : event s = .done e rest ↔
    ∃ name labels mid, e = .event name labels ∧ identifier s = .done name mid ∧
      ((∃ mid', blanks mid = .done () mid' ∧ matchBody mid' = .done labels rest) ∨
        labels = [] ∧ rest = mid ∧ (do blanks; matchBody : Parser _).Refuses mid) := by
  simp only [event, bind_eq_done, optional_eq_done, pure_eq_done]
  constructor
  · rintro ⟨name, mid, hname, o, _, ho, rfl, rfl⟩
    rcases ho with ⟨labels, rfl, _, mid', h₁, h₂⟩ | ⟨rfl, rfl, hplace⟩
    · exact ⟨name, labels, mid, rfl, hname, .inl ⟨mid', h₁, h₂⟩⟩
    · exact ⟨name, [], _, rfl, hname, .inr ⟨rfl, rfl, hplace⟩⟩
  · rintro ⟨name, labels, mid, rfl, hname, ⟨mid', h₁, h₂⟩ | ⟨rfl, rfl, hplace⟩⟩
    · exact ⟨name, mid, hname, some labels, rest, .inl ⟨labels, rfl, (), mid', h₁, h₂⟩, rfl, rfl⟩
    · exact ⟨name, _, hname, none, _, .inr ⟨rfl, rfl, hplace⟩, rfl, rfl⟩

section Inner

variable {inner : Parser (Located Expr)}

theorem paren_eq_done {e : Expr} : paren inner s = .done e rest ↔
    ∃ x mid mid' mid'', e = .paren x ∧ s = '(' :: mid ∧ gap mid = .done () mid' ∧
      inner mid' = .done x mid'' ∧ gap mid'' = .done () (')' :: rest) := by
  simp only [paren, bind_eq_done, commit_eq_done, char_eq_done, pure_eq_done]
  constructor
  · rintro ⟨_, mid, ⟨rfl, rfl⟩, _, mid', h₁, x, mid'', hx, _, _, h₂, _, _, ⟨rfl, rfl⟩, rfl, rfl⟩
    exact ⟨x, mid, mid', mid'', rfl, rfl, h₁, hx, h₂⟩
  · rintro ⟨x, mid, mid', mid'', rfl, rfl, h₁, hx, h₂⟩
    exact ⟨'(', mid, ⟨rfl, rfl⟩, (), mid', h₁, x, mid'', hx, (), _, h₂, ')', rest, ⟨rfl, rfl⟩, rfl,
      rfl⟩

theorem refuses_paren : (paren inner).Refuses s ↔ Stops ['('].contains s := by
  simp [paren, refuses_bind, refuses_char]

theorem call_eq_done {e : Expr} : call inner s = .done e rest ↔
    ∃ name args mid s₁ s₂ s₃, e = .call name args ∧ s = '!' :: mid ∧
      identifier mid = .done name s₁ ∧ blanks s₁ = .done () s₂ ∧ openBrace s₂ = .done () s₃ ∧
      braceRest inner s₃ = .done args rest := by
  simp only [call, bind_eq_done, commit_eq_done, char_eq_done, pure_eq_done]
  constructor
  · rintro ⟨_, mid, ⟨rfl, rfl⟩, name, s₁, hname, _, s₂, h₁, args, _, ⟨_, s₃, h₂, hargs⟩, rfl, rfl⟩
    exact ⟨name, args, mid, s₁, s₂, s₃, rfl, rfl, hname, h₁, h₂, hargs⟩
  · rintro ⟨name, args, mid, s₁, s₂, s₃, rfl, rfl, hname, h₁, h₂, hargs⟩
    exact ⟨'!', mid, ⟨rfl, rfl⟩, name, s₁, hname, (), s₂, h₁, args, rest, ⟨(), s₃, h₂, hargs⟩, rfl,
      rfl⟩

theorem refuses_call : (call inner).Refuses s ↔ Stops ['!'].contains s := by
  simp [call, refuses_bind, refuses_char]

theorem primary_eq_done {x : Located Expr} : primary inner s = .done x rest ↔ x.start = s ∧
    (number <|> paren inner <|> call inner <|> event : Parser Expr) s = .done x.node rest :=
  located_eq_done

end Inner

theorem operator_eq_done {ops : List (Char × Merger)} {op : Merger} :
    operator ops s = .done op rest ↔ ∃ c mid, blanks s = .done () (c :: mid) ∧
      c ∈ ops.map (·.1) ∧ gap mid = .done () rest ∧
      ((ops.find? (·.1 = c)).map (·.2)).getD .add = op := by
  simp only [operator, bind_eq_done, oneOf_eq_done, pure_eq_done]
  constructor
  · rintro ⟨_, _, h₁, c, mid, ⟨hc, rfl⟩, _, _, h₂, rfl, rfl⟩
    exact ⟨c, mid, h₁, hc, h₂, rfl⟩
  · rintro ⟨c, mid, h₁, hc, h₂, rfl⟩
    exact ⟨(), _, h₁, c, mid, ⟨hc, rfl⟩, (), rest, h₂, rfl, rfl⟩

theorem refuses_operator {ops : List (Char × Merger)} : (operator ops).Refuses s ↔
    ∃ mid, blanks s = .done () mid ∧ Stops (ops.map (·.1)).contains mid := by
  simp [operator, refuses_bind, refuses_oneOf, Unique.exists_iff]

/-- The right operand of a chain, behind its operator. -/
theorem right_eq_done {operand : Parser (Located Expr)} {ops : List (Char × Merger)}
    {x : Merger × Located Expr} :
    (do let op ← operator ops; return (op, ← commit operand) : Parser (Merger × Located Expr)) s =
        .done x rest ↔
      ∃ mid, operator ops s = .done x.1 mid ∧ operand mid = .done x.2 rest := by
  simp only [bind_eq_done, commit_eq_done, pure_eq_done]
  constructor
  · rintro ⟨op, mid, hop, e, _, he, rfl, rfl⟩
    exact ⟨mid, hop, he⟩
  · rintro ⟨mid, hop, he⟩
    exact ⟨x.1, mid, hop, x.2, rest, he, rfl, rfl⟩

/-- A chain ends where there is no operator. -/
theorem refuses_right {operand : Parser (Located Expr)} {ops : List (Char × Merger)} :
    (do let op ← operator ops; return (op, ← commit operand) :
      Parser (Merger × Located Expr)).Refuses s ↔ (operator ops).Refuses s := by
  simp [refuses_bind]

/-! ## Clauses -/

theorem filterClause_eq_done {c : Clause} : filterClause s = .done c rest ↔
    ∃ labels s₁ s₂, c = .filter labels ∧ keyword "WHERE".toList s = .done () s₁ ∧
      gap s₁ = .done () s₂ ∧ matchBody s₂ = .done labels rest := by
  simp only [filterClause, bind_eq_done, pure_eq_done]
  constructor
  · rintro ⟨_, s₁, hword, _, s₂, h, labels, _, hlabels, rfl, rfl⟩
    exact ⟨labels, s₁, s₂, rfl, hword, h, hlabels⟩
  · rintro ⟨labels, s₁, s₂, rfl, hword, h, hlabels⟩
    exact ⟨(), s₁, hword, (), s₂, h, labels, rest, hlabels, rfl, rfl⟩

theorem groupClause_eq_done {c : Clause} : groupClause s = .done c rest ↔
    ∃ args s₁ s₂ s₃ s₄, c = .group (args.foldl GroupArg.addTo {}) ∧
      (keyword "GROUP".toList <|> keyword "BY".toList : Parser Unit) s = .done () s₁ ∧
      gap s₁ = .done () s₂ ∧ openBrace s₂ = .done () s₃ ∧
      listOf groupArg comma s₃ = .done args s₄ ∧ gap s₄ = .done () ('\x7d' :: rest) := by
  simp only [groupClause, bind_eq_done, char_eq_done, pure_eq_done]
  constructor
  · rintro ⟨_, s₁, hword, _, s₂, h₁, _, s₃, h₂, args, s₄, hargs, _, _, h₃, _, _, ⟨rfl, rfl⟩,
      rfl, rfl⟩
    exact ⟨args, s₁, s₂, s₃, s₄, rfl, hword, h₁, h₂, hargs, h₃⟩
  · rintro ⟨args, s₁, s₂, s₃, s₄, rfl, hword, h₁, h₂, hargs, h₃⟩
    exact ⟨(), s₁, hword, (), s₂, h₁, (), s₃, h₂, args, s₄, hargs, (), _, h₃, '\x7d', rest,
      ⟨rfl, rfl⟩, rfl, rfl⟩

theorem reductionArg_eq_done {x : Located String} : reductionArg s = .done x rest ↔
    x.start = s ∧ ∃ mid, s = '!' :: mid ∧ identifier mid = .done x.node rest := by
  simp only [reductionArg, located_eq_done, bind_eq_done, char_eq_done]
  constructor
  · rintro ⟨rfl, _, mid, ⟨rfl, hs⟩, h⟩
    exact ⟨rfl, mid, hs, h⟩
  · rintro ⟨rfl, mid, hs, h⟩
    exact ⟨rfl, '!', mid, ⟨rfl, hs⟩, h⟩

theorem groupArg_eq_done {a : GroupArg} : groupArg s = .done a rest ↔
    (∃ v, quoted s = .done v rest ∧ .missing v = a) ∨
      quoted.Refuses s ∧ ((∃ x, reductionArg s = .done x rest ∧ .reduction x = a) ∨
        reductionArg.Refuses s ∧ ∃ name, identifier s = .done name rest ∧ .label name = a) := by
  simp only [groupArg, orElse_eq_done, map_eq_done, refuses_map]

theorem offsetClause_eq_done {c : Clause} : offsetClause s = .done c rest ↔
    ∃ ms s₁ s₂, c = .offset ms ∧ keyword "OFFSET".toList s = .done () s₁ ∧
      blanks s₁ = .done () s₂ ∧ inBrackets offsetSpec s₂ = .done ms rest := by
  simp only [offsetClause, bind_eq_done, pure_eq_done]
  constructor
  · rintro ⟨_, s₁, hword, _, s₂, h, ms, _, hms, rfl, rfl⟩
    exact ⟨ms, s₁, s₂, rfl, hword, h, hms⟩
  · rintro ⟨ms, s₁, s₂, rfl, hword, h, hms⟩
    exact ⟨(), s₁, hword, (), s₂, h, ms, rest, hms, rfl, rfl⟩

theorem clause_eq_done {c : Clause} : clause s = .done c rest ↔ ∃ mid, s = '*' :: mid ∧
    (filterClause <|> groupClause <|> offsetClause : Parser Clause) mid = .done c rest := by
  simp only [clause, bind_eq_done, char_eq_done, commit_eq_done]
  constructor
  · rintro ⟨_, mid, ⟨rfl, rfl⟩, h⟩
    exact ⟨mid, rfl, h⟩
  · rintro ⟨mid, rfl, h⟩
    exact ⟨'*', mid, ⟨rfl, rfl⟩, h⟩

/-! ## Statements -/

theorem named_eq_done {x : Statement} : named s = .done x rest ↔
    ∃ name e s₁ s₂ s₃, x = .expr (some name) e ∧ identifier s = .done name s₁ ∧
      blanks s₁ = .done () (':' :: s₂) ∧ gap s₂ = .done () s₃ ∧ expr s₃ = .done e rest := by
  simp only [named, bind_eq_done, commit_eq_done, char_eq_done, pure_eq_done]
  constructor
  · rintro ⟨name, s₁, hname, _, _, h₁, _, s₂, ⟨rfl, rfl⟩, _, s₃, h₂, e, _, he, rfl, rfl⟩
    exact ⟨name, e, s₁, s₂, s₃, rfl, hname, h₁, h₂, he⟩
  · rintro ⟨name, e, s₁, s₂, s₃, rfl, hname, h₁, h₂, he⟩
    exact ⟨name, s₁, hname, (), _, h₁, ':', s₂, ⟨rfl, rfl⟩, (), s₃, h₂, e, rest, he, rfl, rfl⟩

theorem block_eq_done {body : Parser (List (Located Statement))} {x : Statement} :
    block body s = .done x rest ↔
      ∃ xs mid, x = .block xs ∧ s = '\x7b' :: mid ∧ body mid = .done xs ('\x7d' :: rest) := by
  simp only [block, bind_eq_done, commit_eq_done, char_eq_done, pure_eq_done]
  constructor
  · rintro ⟨_, mid, ⟨rfl, rfl⟩, xs, _, hxs, _, _, ⟨rfl, rfl⟩, rfl, rfl⟩
    exact ⟨xs, mid, rfl, rfl, hxs⟩
  · rintro ⟨xs, mid, rfl, rfl, hxs⟩
    exact ⟨'\x7b', mid, ⟨rfl, rfl⟩, xs, _, hxs, '\x7d', rest, ⟨rfl, rfl⟩, rfl, rfl⟩

theorem separator_eq_done {u : Unit} : separator s = .done u rest ↔
    ∃ c mid, c ∈ [';', ',', '\n', '\r'] ∧ s = c :: mid ∧ separators mid = .done () rest := by
  simp only [separator, bind_eq_done, oneOf_eq_done]
  constructor
  · rintro ⟨c, mid, ⟨hc, rfl⟩, h⟩
    exact ⟨c, mid, hc, rfl, h⟩
  · rintro ⟨c, mid, hc, rfl, h⟩
    exact ⟨c, mid, ⟨hc, rfl⟩, h⟩

theorem closed_eq_done {statement : Parser (Located Statement)} {x : Located Statement}
    {after : List Char} :
    (do let x ← statement; blanks; return x : Parser (Located Statement)) s = .done x after ↔
      ∃ mid, statement s = .done x mid ∧ blanks mid = .done () after := by
  simp only [bind_eq_done, pure_eq_done]
  constructor
  · rintro ⟨_, mid, hx, _, _, hafter, rfl, rfl⟩
    exact ⟨mid, hx, hafter⟩
  · rintro ⟨mid, hx, hafter⟩
    exact ⟨x, mid, hx, (), after, hafter, rfl, rfl⟩

theorem statementsRest_eq_done {statement : Parser (Located Statement)}
    {found body : List (Located Statement)} : statementsRest statement found s = .done body rest ↔
      atEnd s = true ∧ body = found ∧ rest = s ∨
      atEnd s = false ∧ ∃ x mid after, statement s = .done x mid ∧ blanks mid = .done () after ∧
        (atEnd after = true ∧ body = found ++ [x] ∧ rest = after ∨
          atEnd after = false ∧ ∃ next, separator after = .done () next ∧ next.length < s.length ∧
            statementsRest statement (found ++ [x]) next = .done body rest) := by
  constructor
  · intro h
    rw [statementsRest] at h
    split at h
    · next hend =>
      obtain ⟨rfl, rfl⟩ := Reply.done.inj h
      exact .inl ⟨hend, rfl, rfl⟩
    · next hend =>
      split at h
      · next x after hx =>
        obtain ⟨mid, hmid, hafter⟩ := closed_eq_done.mp hx
        refine .inr ⟨Bool.eq_false_iff.mpr hend, x, mid, after, hmid, hafter, ?_⟩
        split at h
        · next hlast =>
          obtain ⟨rfl, rfl⟩ := Reply.done.inj h
          exact .inl ⟨hlast, rfl, rfl⟩
        · next hlast =>
          refine .inr ⟨Bool.eq_false_iff.mpr hlast, ?_⟩
          split at h
          · next _ next hnext =>
            split at h
            · next hlt => exact ⟨next, hnext, hlt, h⟩
            · contradiction
          · contradiction
          · contradiction
      · contradiction
      · contradiction
  · rintro (⟨hend, rfl, rfl⟩ | ⟨hend, x, mid, after, hx, hafter, hmore⟩)
    · rw [statementsRest, if_pos hend]
    · rw [statementsRest, if_neg (Bool.eq_false_iff.mp hend), closed_eq_done.mpr ⟨mid, hx, hafter⟩]
      dsimp only
      rcases hmore with ⟨hlast, rfl, rfl⟩ | ⟨hlast, next, hnext, hlt, h⟩
      · exact if_pos hlast
      · rw [if_neg (Bool.eq_false_iff.mp hlast), hnext]
        exact (if_pos hlt).trans h

end Grammar

end SeriesQuery
