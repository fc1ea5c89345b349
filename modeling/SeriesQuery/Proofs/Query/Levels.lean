import SeriesQuery.Proofs.Query.Forms

/-!
# Levels of the grammar

Each level reads an expression of the level below and then what it puts behind one: brackets,
factors or terms. So what is read of an expression depends on what follows it, and reading goes on
from it at the level where it was read.

* `Grammar.rung k`, `Grammar.climb k` : a level, and what it reads behind an expression;
* `Follows k s` : what may stand behind an expression that level `k` has read;
* `Grammar.climb_of_follows` : there the level stops;
* `Grammar.ReadsAt k e` : from the text of `e`, level `k` reads `e`, and goes on behind it;
* `Grammar.ReadsAt.of_le` : so do the levels above.
-/

namespace SeriesQuery

open Text (Located)

/-! ## What follows an expression -/

/-- The end of a list or of the text; a bracket behind what has none yet; an operator that binds
less tightly than level `k`. -/
inductive Follows : Nat → List Char → Prop where
  | nil {k : Nat} : Follows k []
  | close {k : Nat} {c : Char} (h : c ∈ [',', '\x7d', ')']) (s : List Char) : Follows k (c :: s)
  | bracket (s : List Char) : Follows 0 ('[' :: s)
  | operator {k : Nat} {op : Merger} (h : k < op.rank) (s : List Char) :
    Follows k (' ' :: (op.symbol.toList ++ ' ' :: s))

namespace Follows

variable {k : Nat} {s : List Char}

theorem mono {j : Nat} (h : Follows k s) (hj : j ≤ k) : Follows j s := by
  cases h with
  | nil => exact .nil
  | close h s => exact .close h s
  | bracket s => exact Nat.le_zero.mp hj ▸ .bracket s
  | operator h s => exact .operator (Nat.lt_of_le_of_lt hj h) s

theorem marked (h : Follows k s) : Marked s := by
  cases h with
  | nil => exact Marked.nil
  | close h s =>
    have hmarks : [',', '\x7d', ')'] ⊆ marks := by decide
    exact Marked.cons (hmarks h) s
  | bracket s => exact Marked.cons (by decide) s
  | operator _ s => exact Marked.cons (by decide) _

theorem of_closes (h : Closes s) : Follows k s := by
  obtain ⟨c, t, rfl, hc⟩ := h
  exact .close (List.mem_append_left [')'] hc) t

end Follows

namespace Grammar

open SeriesQuery.Parser

variable {k : Nat} {rest : List Char}

/-- Behind blanks stands the end of a list, a bracket or an operator. -/
theorem blanks_of_follows (h : Follows k rest) {p : Char → Bool}
    (hends : [',', '\x7d', ')', '['].any p = false)
    (hops : ∀ op : Merger, k < op.rank → op.symbol.toList.any p = false) :
    ∃ s, blanks rest = .done () s ∧ Stops p s := by
  have hblank : [',', '\x7d', ')', '['].any blankChars.contains = false := by decide
  cases h with
  | nil => exact ⟨[], blanks_of_stops Stops.nil, Stops.nil⟩
  | @close _ c h s =>
    have hc : c ∈ [',', '\x7d', ')', '['] := List.mem_append_left ['['] h
    exact ⟨c :: s, blanks_of_stops (Stops.cons (eq_false_of_any hblank hc)),
      Stops.cons (eq_false_of_any hends hc)⟩
  | bracket s =>
    exact ⟨'[' :: s, blanks_of_stops (Stops.cons (by decide)),
      Stops.cons (eq_false_of_any hends (by decide))⟩
  | @operator _ op h s =>
    have hstart : ∀ op : Merger, ∃ c, op.symbol.toList = [c] ∧ blankChars.contains c = false := by
      rintro (_ | _ | _ | _) <;> exact ⟨_, rfl, by decide⟩
    obtain ⟨c, hsymbol, hc⟩ := hstart op
    have hp := eq_false_of_any (hops op h) (hsymbol ▸ List.mem_cons_self)
    rw [hsymbol]
    exact ⟨c :: ' ' :: s, blanks_space (Stops.cons hc), Stops.cons hp⟩

theorem matchBody_refused (h : Follows k rest) :
    ∃ place, (do blanks; matchBody : Parser _) rest = .refused place := by
  have hops : ∀ op : Merger, op.symbol.toList.any ['\x7b'].contains = false := by
    rintro (_ | _ | _ | _) <;> decide
  obtain ⟨s, hs, hstop⟩ := blanks_of_follows h (by decide) fun op _ => hops op
  refine ⟨s, ?_⟩
  rw [bind_of_done hs, matchBody]
  exact bind_of_refused (bind_of_refused (char_refused hstop))

theorem bracket_refused (h : Follows 1 rest) : bracket rest = .refused rest := by
  have hstop : Stops ['['].contains rest := by
    cases h with
    | nil => exact Stops.nil
    | @close _ c h s =>
      have hclose : [',', '\x7d', ')'].any ['['].contains = false := by decide
      exact Stops.cons (eq_false_of_any hclose h)
    | operator _ s => exact Stops.cons (by decide)
  exact bind_of_refused (char_refused hstop)

/-! ## Operators -/

/-- The operators of level `k`. -/
def opsAt (k : Nat) : List (Char × Merger) :=
  if k = 2 then [('*', .mul), ('/', .div)] else [('+', .add), ('-', .sub)]

theorem operator_refused (h : Follows (k + 2) rest) :
    ∃ place, operator (opsAt (k + 2)) rest = .refused place := by
  have hends : [',', '\x7d', ')', '['].any ((opsAt (k + 2)).map (·.1)).contains = false := by
    unfold opsAt
    split <;> decide
  have hops : ∀ op : Merger, k + 2 < op.rank →
      op.symbol.toList.any ((opsAt (k + 2)).map (·.1)).contains = false := by
    intro op hop
    cases k with
    | zero => cases op <;> first | exact absurd hop (by decide) | decide
    | succ k =>
      have := op.rank_le
      omega
  obtain ⟨s, hs, hstop⟩ := blanks_of_follows h hends hops
  exact ⟨s, (bind_of_done hs).trans (bind_of_refused (oneOf_refused hstop))⟩

theorem operator_append (op : Merger) {s : List Char}
    (hs : Stops gapChars.contains s) :
    operator (opsAt op.rank) (' ' :: (op.symbol.toList ++ ' ' :: s)) = .done op s := by
  have hone : ∃ c, op.symbol.toList = [c] ∧ blankChars.contains c = false ∧
      ((opsAt op.rank).map (·.1)).contains c = true ∧
      (opsAt op.rank).find? (·.1 = c) = some (c, op) := by
    cases op <;> exact ⟨_, rfl, by decide, by decide, rfl⟩
  obtain ⟨c, hsymbol, hblank, hc, hfind⟩ := hone
  rw [hsymbol, List.singleton_append, operator,
    bind_of_done (blanks_space (Stops.cons hblank)), bind_of_done (oneOf_cons hc _),
    bind_of_done (gap_space hs), hfind]
  rfl

/-- Operators and right operands behind an expression. -/
def links (operand : Parser (Located Expr)) (ops : List (Char × Merger)) :
    Located Expr → Parser (Located Expr) :=
  fold (do let op ← operator ops; return (op, ← commit operand))
    (fun lhs (op, rhs) => ⟨lhs.start, .binary op lhs rhs⟩)

/-! ## Levels -/

section Within

variable (inner : Parser (Located Expr))

/-- The level `k`, which is the sums from three on. -/
def rung : Nat → Parser (Located Expr)
  | 0 => primary inner
  | 1 => postfixed inner
  | 2 => term inner
  | _ => sum inner

/-- What level `k` reads behind an expression. -/
def climb : Nat → Located Expr → Parser (Located Expr)
  | 0 => pure
  | 1 => fold bracket fun e b => ⟨e.start, .shift e b⟩
  | k + 2 => links (rung inner (k + 1)) (opsAt (k + 2))

theorem rung_succ (hk : k < 3) : rung inner (k + 1) = rung inner k >>= climb inner (k + 1) := by
  match k with
  | 0 | 1 | 2 => rfl
  | k + 3 => omega

/-- A level reads nothing more where no operator of its own follows. -/
theorem climb_of_follows (h : Follows k rest) (x : Located Expr) :
    climb inner k x rest = .done x rest := by
  match k with
  | 0 => rfl
  | 1 => exact fold_of_refused (bracket_refused h)
  | k + 2 =>
    obtain ⟨place, hplace⟩ := operator_refused h
    exact fold_of_refused (bind_of_refused hplace)

theorem climb_bracket {b : Bracket} (hb : b.Formed) (x : Located Expr) (rest : List Char) :
    climb inner 1 x (b.text.toList ++ rest) = climb inner 1 ⟨x.start, .shift x b⟩ rest := by
  obtain ⟨s, htext⟩ := b.exists_text
  refine fold_of_done (bracket_append hb rest) ?_
  rw [htext, List.length_append, List.length_cons]
  omega

/-- An operator and its right operand are read at the level of the operator. -/
theorem climb_operator (op : Merger) (x : Located Expr) {y : Located Expr} {s : List Char}
    (hs : Stops gapChars.contains s)
    (hy : rung inner (op.rank - 1) s = .done y rest) (hlen : rest.length ≤ s.length) :
    climb inner op.rank x (' ' :: (op.symbol.toList ++ ' ' :: s)) =
      climb inner op.rank ⟨x.start, .binary op x y⟩ rest := by
  obtain ⟨k, hk⟩ : ∃ k, op.rank = k + 2 := by cases op <;> exact ⟨_, rfl⟩
  have hop := operator_append op hs
  rw [hk] at hop ⊢
  have hy : rung inner (k + 1) s = .done y rest := by
    rw [hk] at hy
    exact hy
  have hboth : (do let op ← operator (opsAt (k + 2)); return (op, ← commit (rung inner (k + 1))) :
      Parser _) (' ' :: (op.symbol.toList ++ ' ' :: s)) = .done (op, y) rest := by
    rw [bind_of_done hop, bind_of_done (commit_of_done hy)]
    rfl
  refine fold_of_done hboth ?_
  simp only [List.length_cons, List.length_append]
  omega

/-! ## Reading at a level -/

/-- Level `k` reads `e` from its text, up to places, and goes on behind it. -/
def ReadsAt (k : Nat) (e : Expr) : Prop :=
  ∀ rest, Follows (k - 1) rest → ∃ x : Located Expr, x.node.unplaced = e.unplaced ∧
    rung inner k (e.text.toList ++ rest) = climb inner k x rest

variable {inner} {e : Expr}

theorem ReadsAt.done (h : ReadsAt inner k e) (hrest : Follows k rest) :
    ∃ x : Located Expr, x.node.unplaced = e.unplaced ∧
      rung inner k (e.text.toList ++ rest) = .done x rest := by
  obtain ⟨x, hx, hread⟩ := h rest (hrest.mono (Nat.sub_le k 1))
  exact ⟨x, hx, hread.trans (climb_of_follows inner hrest x)⟩

theorem ReadsAt.succ (h : ReadsAt inner k e) (hk : k < 3) : ReadsAt inner (k + 1) e := by
  intro rest hrest
  obtain ⟨x, hx, hread⟩ := h.done hrest
  exact ⟨x, hx, by rw [rung_succ inner hk, bind_of_done hread]⟩

theorem ReadsAt.of_le {j : Nat} (h : ReadsAt inner j e) (hjk : j ≤ k) (hk : k ≤ 3) :
    ReadsAt inner k e := by
  induction hjk with
  | refl => exact h
  | step _ ih => exact (ih (Nat.le_of_succ_le hk)).succ hk

end Within

end Grammar

end SeriesQuery
