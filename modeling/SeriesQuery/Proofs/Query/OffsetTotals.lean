import SeriesQuery.Proofs.Query.Reading
import SeriesQuery.Proofs.Query.Routes

/-!
# Sums of offsets

Each leg of the offsets on the way to a leaf is summed up when the query is compiled, and the query
is refused if one of the sums does not fit into 64 bits. The legs are not summed up with one
another: where offsets stand both inside and behind a zip, their total is looked at by nothing.

* `Expr.still`, `Statement.still`, `Statement.stillAll` : parts of a query with all offsets zero;
* `UpToRange` : a computation that fails, where another one succeeds, for the range of an offset
  only;
* `Scope.upToRange_agg`, `Scope.upToRange_nodes` : offsets are not wrong in any other way;
* `Query.totals_spec` : which sums are checked, and what follows for the totals;
* `Query.total_not_checked` : a query with a total that does not fit.
-/

namespace SeriesQuery

open Text (Located)

variable {β γ δ σ : Type}

/-! ## Parts without offsets -/

def Bracket.still : Bracket → Bracket
  | .offset _ => .offset 0
  | .step ms => .step ms

namespace Expr

mutual

def still : Expr → Expr
  | .event name labels => .event name labels
  | .number v => .number v
  | .call name args => .call name (stillAll args)
  | .binary op lhs rhs => .binary op ⟨lhs.start, lhs.node.still⟩ ⟨rhs.start, rhs.node.still⟩
  | .shift e bracket => .shift ⟨e.start, e.node.still⟩ bracket.still
  | .paren e => .paren ⟨e.start, e.node.still⟩

def stillAll : List (Located Expr) → List (Located Expr)
  | [] => []
  | e :: es => ⟨e.start, e.node.still⟩ :: stillAll es

end

end Expr

def Clause.still : Clause → Clause
  | .filter labels => .filter labels
  | .group args => .group args
  | .offset _ => .offset 0

namespace Statement

mutual

def still : Statement → Statement
  | .expr name e => .expr name ⟨e.start, e.node.still⟩
  | .block body => .block (stillAll body)
  | .clause c => .clause c.still

def stillAll : List (Located Statement) → List (Located Statement)
  | [] => []
  | s :: rest => ⟨s.start, s.node.still⟩ :: stillAll rest

end

end Statement

/-! ## Errors of offsets -/

/-- Where the first succeeds the second succeeds with a related result, or fails because an offset
is out of range. -/
def UpToRange (R : β → γ → Prop) (x : Except QueryError β) (y : Except QueryError γ) : Prop :=
  ∀ b, x = .ok b → (∃ c, y = .ok c ∧ R b c) ∨
    ∃ pos text, y = .error (.parse pos (.offsetOutOfRange text))

namespace UpToRange

variable {R : β → γ → Prop} {x : Except QueryError β} {y : Except QueryError γ}

theorem ok {b : β} {c : γ} (h : R b c) : UpToRange R (.ok b) (.ok c) :=
  fun _ hb => .inl ⟨c, rfl, Except.ok.inj hb ▸ h⟩

theorem error {e : QueryError} : UpToRange R (.error e) y := fun _ h => nomatch h

theorem refl (x : Except QueryError β) : UpToRange (· = ·) x x := fun b hb => .inl ⟨b, hb, rfl⟩

theorem bind {S : δ → σ → Prop} {f : β → Except QueryError δ} {g : γ → Except QueryError σ}
    (h : UpToRange R x y) (hfg : ∀ b c, R b c → UpToRange S (f b) (g c)) :
    UpToRange S (x >>= f) (y >>= g) := by
  intro d hd
  obtain ⟨b, hb, hd⟩ := bind_eq_ok.mp hd
  rcases h b hb with ⟨c, hc, hbc⟩ | ⟨pos, text, hy⟩
  · rw [hc]
    exact hfg b c hbc d hd
  · rw [hy]
    exact .inr ⟨pos, text, rfl⟩

/-- A sum that is checked fits or is the error. -/
theorem orOutOfRange {source start : List Char} {e : Expr} {o : Option γ} (h : ∀ b c, R b c) :
    UpToRange R x (Scope.orOutOfRange source start e o) := by
  intro b _
  cases o with
  | none => exact .inr ⟨_, _, rfl⟩
  | some c => exact .inl ⟨c, rfl, h b c⟩

end UpToRange

namespace Scope

variable {source : List Char} {missing : String} {s t : Scope}

/-! ## Expressions -/

theorem upToRange_leaf (event : String) (labels : List LabelMatch) :
    UpToRange (fun _ _ => True) (leaf source s event labels) (leaf source t event labels) :=
  (UpToRange.refl (Filter.ofLabels source labels)).bind fun _ _ _ => .ok trivial

theorem upToRange_bareLeaf : ∀ (start : List Char) (e : Expr),
    UpToRange (fun l l' => l.isSome = l'.isSome) (bareLeaf source s start e.still)
      (bareLeaf source t start e)
  | _, .event name labels => (upToRange_leaf name labels).bind fun _ _ _ => .ok rfl
  | _, .paren e => upToRange_bareLeaf e.start e.node
  | start, .shift e bracket => by
    refine (upToRange_bareLeaf e.start e.node).bind fun l l' hl => ?_
    cases l with
    | none =>
      cases l' with
      | none => exact .ok rfl
      | some _ => contradiction
    | some leaf =>
      cases l' with
      | none => contradiction
      | some leaf' =>
        cases bracket with
        | offset ms =>
          exact (UpToRange.orOutOfRange fun _ _ => trivial).bind fun _ _ _ => .ok rfl
        | step ms => exact .ok rfl
  | _, .number _ | _, .call .. | _, .binary .. => .ok rfl

mutual

theorem upToRange_agg : ∀ (start : List Char) (e : Expr),
    UpToRange (fun _ _ => True) (agg source s start e.still) (agg source t start e)
  | _, .event name labels => (upToRange_leaf name labels).bind fun _ _ _ => .ok trivial
  | _, .number _ => .ok trivial
  | _, .paren e => upToRange_agg e.start e.node
  | _, .binary op lhs rhs =>
    (upToRange_agg lhs.start lhs.node).bind fun _ _ _ =>
      (upToRange_agg rhs.start rhs.node).bind fun _ _ _ => .ok trivial
  | start, .shift e bracket => by
    refine (upToRange_agg e.start e.node).bind fun part part' _ => ?_
    cases bracket with
    | offset ms => exact .orOutOfRange fun _ _ => trivial
    | step ms => exact .ok trivial
  | start, .call name args => by
    have hargs := upToRange_aggs args
    rw [Expr.still]
    unfold agg
    cases CallKind.ofName? name with
    | none => exact .error
    | some kind =>
      match kind, args with
      | .plain f, [] | .plain f, _ :: _ :: _ | .zip f, [] | .collapse f, []
      | .collapse f, _ :: _ :: _ => exact .error
      | .plain f, [arg] =>
        refine (upToRange_bareLeaf arg.start arg.node).bind fun l l' hl => ?_
        cases l with
        | none => exact .error
        | some leaf =>
          cases l' with
          | none => contradiction
          | some leaf' => exact .ok trivial
      | .zip f, _ :: _ => exact hargs.bind fun _ _ _ => .ok trivial
      | .collapse f, [arg] =>
        exact (upToRange_agg arg.start arg.node).bind fun _ _ _ => .ok trivial

theorem upToRange_aggs : ∀ es : List (Located Expr),
    UpToRange (fun _ _ => True) (aggs source s (Expr.stillAll es)) (aggs source t es)
  | [] => .ok trivial
  | e :: es =>
    (upToRange_agg e.start e.node).bind fun _ _ _ =>
      (upToRange_aggs es).bind fun _ _ _ => .ok trivial

end

/-! ## Blocks -/

/-- The scopes differ in their offsets at most. -/
structure SameButOffset (s t : Scope) : Prop where
  filter : s.filter = t.filter
  grouping : s.grouping = t.grouping

theorem upToRange_withClauses : ∀ {s t : Scope} (own : Option Filter)
    (body : List (Located Statement)), s.SameButOffset t →
      UpToRange SameButOffset (withClauses source s own (Statement.stillAll body))
        (withClauses source t own body)
  | s, t, own, [], h => .ok ⟨congrArg own.getD h.filter, h.grouping⟩
  | s, t, own, ⟨_, .clause (.filter labels)⟩ :: rest, h => by
    refine (UpToRange.refl (Filter.ofLabels source labels)).bind ?_
    rintro f _ rfl
    exact upToRange_withClauses _ rest h
  | s, t, own, ⟨_, .clause (.group args)⟩ :: rest, h => by
    refine (UpToRange.refl (Grouping.ofArgs source args)).bind ?_
    rintro g _ rfl
    exact upToRange_withClauses own rest ⟨h.filter, rfl⟩
  | s, t, own, ⟨_, .clause (.offset ms)⟩ :: rest, h =>
    upToRange_withClauses own rest (s := { s with offset := 0 }) (t := { t with offset := ms })
      ⟨h.filter, h.grouping⟩
  | s, t, own, ⟨_, .expr ..⟩ :: rest, h | s, t, own, ⟨_, .block _⟩ :: rest, h =>
    upToRange_withClauses own rest h

theorem upToRange_inside (h : s.SameButOffset t) (body : List (Located Statement)) :
    UpToRange SameButOffset (s.inside source (Statement.stillAll body)) (t.inside source body) :=
  upToRange_withClauses none body h

theorem upToRange_item (h : s.SameButOffset t) (name : Option String) (e : Located Expr) :
    UpToRange (fun _ _ => True) (item source s name ⟨e.start, e.node.still⟩)
      (item source t name e) := by
  have hagg : UpToRange (fun _ _ => True) (agg source s e.start e.node.still)
      (agg source t e.start e.node) := upToRange_agg e.start e.node
  unfold item
  rw [h.grouping]
  split
  · refine (upToRange_bareLeaf e.start e.node).bind fun l l' hl => ?_
    cases l with
    | none =>
      cases l' with
      | none => exact hagg.bind fun _ _ _ => .ok trivial
      | some _ => contradiction
    | some leaf =>
      cases l' with
      | none => contradiction
      | some leaf' => exact .ok trivial
  · exact hagg.bind fun _ _ _ => .ok trivial

mutual

theorem upToRange_nodeItem : ∀ (x : Statement) {s t : Scope}, s.SameButOffset t →
    UpToRange (fun _ _ => True) (nodeItem source missing s x.still) (nodeItem source missing t x)
  | .clause _, _, _, _ => .ok trivial
  | .expr name e, _, _, h => (upToRange_item h name e).bind fun _ _ _ => .ok trivial
  | .block body, _, _, h =>
    (upToRange_inside h body).bind fun _ _ hinner =>
      (upToRange_items body hinner).bind fun _ _ _ => .ok trivial

theorem upToRange_items : ∀ (body : List (Located Statement)) {s t : Scope}, s.SameButOffset t →
    UpToRange (fun _ _ => True) (items source missing s (Statement.stillAll body))
      (items source missing t body)
  | [], _, _, _ => .ok trivial
  | x :: rest, _, _, h =>
    (upToRange_nodeItem x.node h).bind fun _ _ _ =>
      (upToRange_items rest h).bind fun _ _ _ => .ok trivial

end

/-- A block that compiles without its offsets compiles with them, or one is out of range. -/
theorem upToRange_nodes (h : s.SameButOffset t) (body : List (Located Statement)) :
    UpToRange (fun _ _ => True) (nodes source missing s (Statement.stillAll body))
      (nodes source missing t body) :=
  (upToRange_inside h body).bind fun _ _ hinner =>
    (upToRange_items body hinner).bind fun _ _ _ => .ok trivial

end Scope

/-! ## Totals -/

theorem Time.fits_sum {ts : List Int} (hfits : ∀ t ∈ ts, fits t = true)
    (h : (ts.filter (· ≠ 0)).length ≤ 1) : fits ts.sum = true := by
  induction ts with
  | nil => decide
  | cons t ts ih =>
    obtain ⟨ht, hts⟩ := List.forall_mem_cons.mp hfits
    by_cases hzero : t = 0
    · subst hzero
      rw [List.sum_cons, Int.zero_add]
      exact ih hts (by simpa using h)
    · rw [List.filter_cons_of_pos (by simpa using hzero), List.length_cons] at h
      have hnone : ts.filter (· ≠ 0) = [] := List.eq_nil_of_length_eq_zero (by omega)
      have hall : ∀ u ∈ ts, u = 0 := by simpa using hnone
      rw [List.sum_cons, List.sum_eq_zero hall, Int.add_zero]
      exact ht

/-- At most one leg has a sum that is not zero, as where the way goes through no zip. -/
def Route.OneLeg (r : Route) : Prop := ((r.legs.map List.sum).filter (· ≠ 0)).length ≤ 1

theorem Route.Leads.fits_total {r : Route} {way : List Shift} (h : r.Leads way) (hr : r.OneLeg) :
    Time.fits r.total = true := by
  rw [total, List.sum_flatten]
  exact Time.fits_sum (List.forall_mem_map.mpr h.fits) hr

/-- **Sums of offsets. Where a text compiles, the offsets on the route to an event are added up leg
by leg: each shift on the way to its leaf is the sum of one leg, and each of these sums fits into 64
bits. So does the total, if not more than one of the legs moves at all. A text with a leg whose sum
does not fit is refused; and if it would compile without its offsets, then because an offset is out
of range.** -/
theorem Query.totals_spec {source missing : String} {body : List (Located Statement)}
    (hbody : Statement.ofText source = .ok body) :
    (∀ q, Query.ofText source missing = .ok q →
      List.Forall₂ (fun (r : Route) way => way.map (·.offset) = r.legs.map List.sum ∧
          (∀ leg ∈ r.legs, Time.fits leg.sum = true) ∧ (r.OneLeg → Time.fits r.total = true))
        (Statement.routes body) q.ways ∧
      ∀ w, (q.queries w).map (·.window) = q.ways.map w.along) ∧
    ((∃ r ∈ Statement.routes body, ∃ leg ∈ r.legs, Time.fits leg.sum = false) →
      (∀ q, Query.ofText source missing ≠ .ok q) ∧
      ∀ ns, Scope.nodes source.toList missing {} (Statement.stillAll body) = .ok ns →
        ∃ pos text,
          Query.ofText source missing = .error (.parse pos (.offsetOutOfRange text))) := by
  have hread : Query.ofText source missing =
      Query.mk <$> Scope.nodes source.toList missing {} body := by
    rw [ofText, hbody]
    rfl
  have hleads : ∀ q, Query.ofText source missing = .ok q →
      List.Forall₂ Route.Leads (Statement.routes body) q.ways := by
    intro q hq
    obtain ⟨ns, hns, rfl⟩ := map_eq_ok.mp (hread ▸ hq)
    exact Scope.leads_nodes (Statement.allInRange_of_ofText hbody) hns
  refine ⟨fun q hq => ⟨?_, fun w => Node.map_window_queriesOf w q.nodes⟩, ?_⟩
  · exact (hleads q hq).imp fun r way h => ⟨h.offsets, h.fits, h.fits_total⟩
  · rintro ⟨r, hr, leg, hleg, hfits⟩
    have hnot : ∀ q, Query.ofText source missing ≠ .ok q := by
      intro q hq
      have hall := (hleads q hq).imp fun r way h => And.intro h.fits h
      rw [((List.forall₂_and_left _ _).mp hall).1 r hr leg hleg] at hfits
      contradiction
    refine ⟨hnot, fun ns hns => ?_⟩
    rcases Scope.upToRange_nodes ⟨rfl, rfl⟩ body ns hns with ⟨ns', hns', -⟩ | ⟨pos, text, herror⟩
    · exact absurd (hread.trans (congrArg _ hns')) (hnot ⟨ns'⟩)
    · refine ⟨pos, text, ?_⟩
      rw [hread, herror]
      rfl

/-- An hour behind a zip, a second in it and the day of a clause; and two offsets that fit each by
itself, on one leg. -/
theorem Query.totals_spec_zip :
    (∃ q body, Query.ofText "x: !zipsum{foo[-1:s], bar}[-1:h]; *OFFSET[-1:d]" "" = .ok q ∧
      Statement.ofText "x: !zipsum{foo[-1:s], bar}[-1:h]; *OFFSET[-1:d]" = .ok body ∧
      Statement.routes body =
        [⟨[-3600000], [[-86400000, -1000]]⟩, ⟨[-3600000], [[-86400000]]⟩] ∧
      List.Forall₂ (fun (r : Route) way => way.map (·.offset) = r.legs.map List.sum ∧
          (∀ leg ∈ r.legs, Time.fits leg.sum = true) ∧ (r.OneLeg → Time.fits r.total = true))
        (Statement.routes body) q.ways) ∧
    ∃ pos text, Query.ofText "foo[-10000000000:w]; *OFFSET[-10000000000:w]" "" =
      .error (.parse pos (.offsetOutOfRange text)) := by
  constructor
  · have hcompiles : (Query.ofText
        "x: !zipsum{foo[-1:s], bar}[-1:h]; *OFFSET[-1:d]" "").toOption.any
          (fun _ => true) = true := by
      decide +kernel
    have hroutes : (Statement.ofText
        "x: !zipsum{foo[-1:s], bar}[-1:h]; *OFFSET[-1:d]").toOption.any (fun body =>
          Statement.routes body =
            [⟨[-3600000], [[-86400000, -1000]]⟩, ⟨[-3600000], [[-86400000]]⟩]) = true := by
      decide +kernel
    obtain ⟨q, hq, -⟩ := exists_of_toOption_any hcompiles
    obtain ⟨body, hbody, hroutes⟩ := exists_of_toOption_any hroutes
    exact ⟨q, body, hq, hbody, of_decide_eq_true hroutes, ((totals_spec hbody).1 q hq).1⟩
  · have hread : (Statement.ofText "foo[-10000000000:w]; *OFFSET[-10000000000:w]").toOption.any
        (fun body => (Statement.routes body).any (fun r => r.legs.any (!Time.fits ·.sum)) &&
          (Scope.nodes "foo[-10000000000:w]; *OFFSET[-10000000000:w]".toList "" {}
            (Statement.stillAll body)).toOption.any fun _ => true) = true := by
      decide +kernel
    obtain ⟨body, hbody, hread⟩ := exists_of_toOption_any hread
    obtain ⟨hleg, hstill⟩ := (Bool.and_eq_true _ _).mp hread
    obtain ⟨r, hr, hleg⟩ := List.any_eq_true.mp hleg
    obtain ⟨leg, hleg, hfits⟩ := List.any_eq_true.mp hleg
    obtain ⟨ns, hns, -⟩ := exists_of_toOption_any hstill
    refine ((totals_spec hbody).2 ⟨r, hr, leg, hleg, ?_⟩).2 ns hns
    simpa using hfits

/-- The offsets inside and behind a zip add up to more than 64 bits hold, and the text compiles. It
does not with a collapse in place of the zip. -/
theorem Query.total_not_checked :
    (∃ q body, Query.ofText "!zipsum{foo[10000000000:w]}[10000000000:w]" "" = .ok q ∧
      Statement.ofText "!zipsum{foo[10000000000:w]}[10000000000:w]" = .ok body ∧
      Statement.routes body = [⟨[6048000000000000000], [[0, 6048000000000000000]]⟩] ∧
      q.ways = [[{ offset := 6048000000000000000 }, { offset := 6048000000000000000 }]] ∧
      Time.fits (Route.total ⟨[6048000000000000000], [[0, 6048000000000000000]]⟩) = false) ∧
    Query.ofText "!vsum{foo[10000000000:w]}[10000000000:w]" "" = .error (.parse ⟨0, 1, 1⟩
      (.offsetOutOfRange "!vsum{foo[10000000000:w]}[10000000000:w]")) := by
  have hread : (Query.ofText "!zipsum{foo[10000000000:w]}[10000000000:w]" "").toOption.any
      (fun q => q.ways =
        [[{ offset := 6048000000000000000 }, { offset := 6048000000000000000 }]]) = true := by
    decide +kernel
  have hroutes : (Statement.ofText "!zipsum{foo[10000000000:w]}[10000000000:w]").toOption.any
      (fun body => Statement.routes body =
        [⟨[6048000000000000000], [[0, 6048000000000000000]]⟩]) = true := by
    decide +kernel
  obtain ⟨q, hq, hways⟩ := exists_of_toOption_any hread
  obtain ⟨body, hbody, hroutes⟩ := exists_of_toOption_any hroutes
  refine ⟨⟨q, body, hq, hbody, of_decide_eq_true hroutes, of_decide_eq_true hways, by decide⟩, ?_⟩
  exact eq_error_of_failure? (by decide +kernel)

end SeriesQuery
