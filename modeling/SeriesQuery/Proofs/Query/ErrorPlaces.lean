import SeriesQuery.Proofs.Except
import SeriesQuery.Proofs.Query.Placement
import SeriesQuery.Proofs.Text.Position
import SeriesQuery.Query.Resolve

/-!
# The places of errors

An error of a query tells where in its text it comes from: at a place between two characters, and an
error about a name where an exclamation mark and that name stand. Errors get their places from
syntax nodes, so this is about where the nodes are (`Grammar.statements_placed`).

* `QueryError.PointsAt`, `QueryError.PlacedIn source` : the text that an error is about;
* `Scope.agg_failsIn`, `Scope.nodes_failsIn` : the errors of placed nodes are placed;
* `Query.places_spec` : and so are all errors of reading a query.
-/

namespace SeriesQuery

open Text (Located Position byteLength takeBytes)

/-! ## Placed errors -/

namespace QueryError

/-- What stands at the place that the error gives. -/
def PointsAt (rest : List Char) : QueryError → Prop
  | .parse .. => True
  | .unknownOperator _ name | .wrongArity _ name .. => Text.Call name rest
  | .invalidRegexp .. => ∃ name, Text.Call name rest ∧ Text.lower name ∈ ["regexp", "regex"]
  | .operandSizes .. | .tooManyScans .. | .scan _ => False

def PlacedIn (source : List Char) (e : QueryError) : Prop :=
  ∃ rest, rest <:+ source ∧ e.position? = some (Position.atRest source rest) ∧ e.PointsAt rest

end QueryError

variable {source : List Char}

theorem Statement.ofText_failsIn (source : String) :
    FailsIn (QueryError.PlacedIn source.toList) (Statement.ofText source) := by
  have hwithin := Grammar.statements_within source.toList (List.suffix_refl _)
  unfold Statement.ofText
  dsimp only
  split
  · next found rest hdone =>
    rw [hdone] at hwithin
    split
    · exact .ok found
    · exact .error ⟨_, (List.dropWhile_suffix _).trans hwithin, rfl, trivial⟩
  · next place hrefused =>
    rw [hrefused] at hwithin
    exact .error ⟨place, hwithin, rfl, trivial⟩
  · next place hfailed =>
    rw [hfailed] at hwithin
    exact .error ⟨place, hwithin, rfl, trivial⟩

/-! ### Conditions and clauses -/

theorem Matcher.ofPredicate_failsIn {p : Located Predicate} (hp : p.start <:+ source)
    (hplaced : p.node.PlacedAt p.start) :
    FailsIn (QueryError.PlacedIn source) (ofPredicate source p) := by
  obtain ⟨start, p⟩ := p
  cases p with
  | value s => exact .ok _
  | call name arg =>
    have hregexp (hname : Text.lower name ∈ ["regexp", "regex"]) :
        QueryError.PlacedIn source (.invalidRegexp (Position.atRest source start) arg) :=
      ⟨start, hp, rfl, name, hplaced, hname⟩
    unfold ofPredicate
    dsimp only
    split
    · exact .ok _
    · exact .ok _
    · next hname =>
      split
      · exact .ok _
      · exact .error (hregexp (hname ▸ List.mem_cons_self))
    · next hname =>
      split
      · exact .ok _
      · exact .error (hregexp (hname ▸ .tail _ List.mem_cons_self))
    · exact .error ⟨start, hp, rfl, hplaced⟩

theorem Filter.ofLabels_failsIn {start : List Char} {labels : List LabelMatch}
    (hstart : start <:+ source) (h : ∀ m ∈ labels, m.PlacedIn start) :
    FailsIn (QueryError.PlacedIn source) (ofLabels source labels) := by
  refine FailsIn.foldlM (fun f m hm => FailsIn.bind ?_ fun _ => .ok _) _
  refine FailsIn.mapM fun p hp => ?_
  obtain ⟨hin, hplaced⟩ := h m hm p hp
  exact Matcher.ofPredicate_failsIn (hin.trans hstart) hplaced

theorem Grouping.ofArgs_failsIn {start : List Char} {args : GroupArgs} (hstart : start <:+ source)
    (h : (Clause.group args).PlacedIn start) :
    FailsIn (QueryError.PlacedIn source) (ofArgs source args) := by
  obtain ⟨labels, reduction, missing⟩ := args
  unfold ofArgs
  cases reduction with
  | none => exact .ok _
  | some name =>
    obtain ⟨hin, hplaced⟩ := h name rfl
    dsimp only
    split
    · exact .ok _
    · exact .error ⟨name.start, hin.trans hstart, rfl, hplaced⟩

namespace Scope

theorem withClauses_failsIn (scope : Scope) (own : Option Filter) :
    ∀ body : List (Located Statement), Statement.AllPlacedIn source body →
      FailsIn (QueryError.PlacedIn source) (withClauses source scope own body)
  | [], _ => .ok _
  | ⟨start, .clause (.filter labels)⟩ :: rest, h => by
    obtain ⟨⟨hstart, -, hplaced⟩, hrest⟩ := h
    rw [withClauses]
    exact (Filter.ofLabels_failsIn hstart hplaced).bind fun f =>
      withClauses_failsIn scope _ rest hrest
  | ⟨start, .clause (.group args)⟩ :: rest, h => by
    obtain ⟨⟨hstart, -, hplaced⟩, hrest⟩ := h
    rw [withClauses]
    exact (Grouping.ofArgs_failsIn hstart hplaced).bind fun g =>
      withClauses_failsIn _ own rest hrest
  | ⟨_, .clause (.offset ms)⟩ :: rest, h => withClauses_failsIn _ own rest h.2
  | ⟨_, .expr ..⟩ :: rest, h | ⟨_, .block _⟩ :: rest, h => withClauses_failsIn scope own rest h.2

/-! ### Expressions -/

variable (scope : Scope)

theorem leaf_failsIn {start : List Char} {name : String} {labels : List LabelMatch}
    (hstart : start <:+ source) (h : (Expr.event name labels).PlacedAt start) :
    FailsIn (QueryError.PlacedIn source) (leaf source scope name labels) :=
  (Filter.ofLabels_failsIn hstart h.2).bind fun _ => .ok _

theorem orOutOfRange_failsIn {start : List Char} (hstart : start <:+ source) (e : Expr)
    (o : Option β) : FailsIn (QueryError.PlacedIn source) (orOutOfRange source start e o) := by
  cases o with
  | none => exact .error ⟨start, hstart, rfl, trivial⟩
  | some b => exact .ok b

theorem bareLeaf_failsIn : ∀ (start : List Char) (e : Expr), start <:+ source → e.PlacedAt start →
    FailsIn (QueryError.PlacedIn source) (bareLeaf source scope start e)
  | _, .event name labels, hstart, h => (leaf_failsIn scope hstart h).map _
  | _, .paren e, hstart, h => bareLeaf_failsIn e.start e.node (h.2.1.trans hstart) h.2.2
  | start, .shift e bracket, hstart, h => by
    rw [bareLeaf]
    refine (bareLeaf_failsIn e.start e.node (h.1 ▸ hstart) h.2).bind fun o => ?_
    cases o with
    | none => exact .ok _
    | some leaf =>
      cases bracket with
      | offset ms => exact (orOutOfRange_failsIn hstart _ _).bind fun _ => .ok _
      | step ms => exact .ok _
  | _, .number _, _, _ | _, .call .., _, _ | _, .binary .., _, _ => .ok _

mutual

theorem agg_failsIn : ∀ (start : List Char) (e : Expr), start <:+ source → e.PlacedAt start →
    FailsIn (QueryError.PlacedIn source) (agg source scope start e)
  | _, .event name labels, hstart, h => (leaf_failsIn scope hstart h).bind fun _ => .ok _
  | _, .number _, _, _ => .ok _
  | _, .paren e, hstart, h => agg_failsIn e.start e.node (h.2.1.trans hstart) h.2.2
  | _, .binary op lhs rhs, hstart, ⟨⟨hlhs, hl⟩, hrhs, hr⟩ =>
    (agg_failsIn lhs.start lhs.node (hlhs ▸ hstart) hl).bind fun _ =>
      (agg_failsIn rhs.start rhs.node (hrhs.trans hstart) hr).bind fun _ => .ok _
  | start, .shift e bracket, hstart, h => by
    rw [agg]
    refine (agg_failsIn e.start e.node (h.1 ▸ hstart) h.2).bind fun part => ?_
    cases bracket with
    | offset ms => exact orOutOfRange_failsIn hstart _ _
    | step ms => exact .ok _
  | start, .call name args, hstart, ⟨hname, hplaced⟩ => by
    have hargs := aggs_failsIn args hstart hplaced
    have harity (expected : Arity) (args : List (Located Expr)) :
        QueryError.PlacedIn source (wrongArity source start name expected args) :=
      ⟨start, hstart, rfl, hname⟩
    unfold agg
    cases CallKind.ofName? name with
    | none => exact .error ⟨start, hstart, rfl, hname⟩
    | some kind =>
      match kind, args with
      | .plain f, [] => exact .error (harity _ _)
      | .plain f, [arg] =>
        obtain ⟨⟨hin, harg⟩, -⟩ := hplaced
        refine (bareLeaf_failsIn scope arg.start arg.node (hin.trans hstart) harg).bind fun o => ?_
        cases o with
        | none => exact .error ⟨arg.start, hin.trans hstart, rfl, trivial⟩
        | some leaf => exact .ok _
      | .plain f, _ :: _ :: _ => exact .error (harity _ _)
      | .zip f, [] => exact .error (harity _ _)
      | .zip f, _ :: _ => exact hargs.bind fun _ => .ok _
      | .collapse f, [] => exact .error (harity _ _)
      | .collapse f, [arg] =>
        obtain ⟨⟨hin, harg⟩, -⟩ := hplaced
        exact (agg_failsIn arg.start arg.node (hin.trans hstart) harg).bind fun _ => .ok _
      | .collapse f, _ :: _ :: _ => exact .error (harity _ _)

theorem aggs_failsIn : ∀ {start : List Char} (es : List (Located Expr)), start <:+ source →
    Expr.AllPlacedIn start es → FailsIn (QueryError.PlacedIn source) (aggs source scope es)
  | _, [], _, _ => .ok _
  | _, e :: es, hstart, ⟨⟨hin, he⟩, hes⟩ => by
    rw [aggs]
    refine (agg_failsIn e.start e.node (hin.trans hstart) he).bind fun _ => ?_
    exact (aggs_failsIn es hstart hes).bind fun _ => .ok _

end

/-! ### Blocks -/

theorem item_failsIn (name : Option String) {e : Located Expr} (hstart : e.start <:+ source)
    (h : e.node.PlacedAt e.start) :
    FailsIn (QueryError.PlacedIn source) (item source scope name e) := by
  have hnamed := (agg_failsIn scope e.start e.node hstart h).bind fun x =>
    FailsIn.ok (Item.named ⟨name.getD e.node.text, x⟩)
  unfold item
  dsimp only
  split
  · refine (bareLeaf_failsIn scope e.start e.node hstart h).bind fun o => ?_
    cases o with
    | none => exact hnamed
    | some leaf => exact .ok _
  · exact hnamed

variable (missing : String)

mutual

theorem nodeItem_failsIn : ∀ (scope : Scope) {start : List Char} (s : Statement),
    start <:+ source → s.PlacedAt start →
    FailsIn (QueryError.PlacedIn source) (nodeItem source missing scope s)
  | _, _, .clause _, _, _ => .ok _
  | scope, _, .expr none e, hstart, h =>
    (item_failsIn scope none (h.1 ▸ hstart) h.2).map _
  | scope, _, .expr (some name) e, hstart, h =>
    (item_failsIn scope (some name) (h.2.1.trans hstart) h.2.2).map _
  | scope, _, .block body, hstart, h => by
    have hbody := h.2.mono hstart
    rw [nodeItem]
    refine (withClauses_failsIn scope none body hbody).bind fun inner => ?_
    exact (items_failsIn inner body hbody).bind fun _ => .ok _

theorem items_failsIn : ∀ (scope : Scope) (body : List (Located Statement)),
    Statement.AllPlacedIn source body →
    FailsIn (QueryError.PlacedIn source) (items source missing scope body)
  | _, [], _ => .ok _
  | scope, s :: rest, ⟨⟨hin, hs⟩, hrest⟩ => by
    rw [items]
    refine (nodeItem_failsIn scope s.node hin hs).bind fun _ => ?_
    exact (items_failsIn scope rest hrest).bind fun _ => .ok _

end

theorem nodes_failsIn (outer : Scope) {body : List (Located Statement)}
    (h : Statement.AllPlacedIn source body) :
    FailsIn (QueryError.PlacedIn source) (nodes source missing outer body) :=
  (withClauses_failsIn outer none body h).bind fun inner =>
    (items_failsIn missing inner body h).bind fun _ => .ok _

end Scope

/-! ## Whole queries -/

theorem Statement.allPlacedIn_of_ofText {source : String} {body : List (Located Statement)}
    (h : Statement.ofText source = .ok body) : AllPlacedIn source.toList body := by
  obtain ⟨rest, hbody⟩ := exists_of_ofText h
  exact Grammar.statements_placed hbody

namespace Query

theorem ofText_failsIn (source missing : String) :
    FailsIn (QueryError.PlacedIn source.toList) (ofText source missing) := by
  intro e he
  rcases bind_eq_error.mp he with he | ⟨body, hbody, he⟩
  · exact Statement.ofText_failsIn source e he
  · have hplaced := Statement.allPlacedIn_of_ofText hbody
    exact ((Scope.nodes_failsIn missing {} hplaced).bind fun _ => .ok _) e he

/-- **Errors point at what they are about. Each node of the syntax begins where it says it does, no
part begins before what it is a part of, and so the position of an error lies between two characters
of the text, with the call that the error is about behind it.** -/
theorem places_spec (source missing : String) :
    (∀ body, Statement.ofText source = .ok body → Statement.AllPlacedIn source.toList body) ∧
      ∀ e, ofText source missing = .error e → ∃ pos front rest, source.toList = front ++ rest ∧
        e.position? = some pos ∧ pos = Position.atRest source.toList rest ∧
        byteLength rest ≤ byteLength source.toList ∧
        pos.offset = byteLength front ∧ pos.offset ≤ byteLength source.toList ∧
        takeBytes pos.offset source.toList = front ∧ e.PointsAt rest := by
  refine ⟨fun body => Statement.allPlacedIn_of_ofText, fun e he => ?_⟩
  obtain ⟨rest, ⟨front, hsource⟩, hpos, hpoints⟩ := ofText_failsIn source missing e he
  have hlength := Text.byteLength_append front rest
  have hoffset := congrArg Position.offset (Position.atRest_append front rest)
  rw [← hsource] at hpos ⊢
  refine ⟨_, front, rest, rfl, hpos, rfl, ?_, hoffset, ?_, ?_, hpoints⟩
  · exact hlength ▸ Nat.le_add_left _ _
  · exact hoffset ▸ hlength ▸ Nat.le_add_right _ _
  · exact hoffset ▸ Text.takeBytes_append front rest

/-- A call of an unknown name, behind characters of two bytes. -/
theorem places_spec_umlaut :
    (∃ body, Statement.ofText "größe: !bär\x7bfoo\x7d" = .ok body ∧
      Statement.AllPlacedIn "größe: !bär\x7bfoo\x7d".toList body) ∧
    ∃ e rest, Query.ofText "größe: !bär\x7bfoo\x7d" "" = .error e ∧
      e.position? = some ⟨9, 1, 8⟩ ∧ Text.Call "bär" rest ∧
      takeBytes 9 "größe: !bär\x7bfoo\x7d".toList ++ rest = "größe: !bär\x7bfoo\x7d".toList := by
  obtain ⟨hplaced, herror⟩ := places_spec "größe: !bär\x7bfoo\x7d" ""
  obtain ⟨body, hbody, -⟩ := exists_of_toOption_any
    (x := Statement.ofText "größe: !bär\x7bfoo\x7d") (p := fun _ => true) (by decide +kernel)
  have he : Query.ofText "größe: !bär\x7bfoo\x7d" "" =
      .error (.unknownOperator ⟨9, 1, 8⟩ "bär") := eq_error_of_failure? (by decide +kernel)
  obtain ⟨pos, front, rest, hsource, ⟨⟩, -, -, -, -, hfront, hpoints⟩ := herror _ he
  exact ⟨⟨body, hbody, hplaced body hbody⟩, _, rest, he, rfl, hpoints, hfront ▸ hsource.symm⟩

end Query

end SeriesQuery
