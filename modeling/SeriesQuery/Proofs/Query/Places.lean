import SeriesQuery.Proofs.Except
import SeriesQuery.Query.Resolve

/-!
# Places in the text

What is read keeps the place it was read from. Places go into errors and into nothing else: a query
compiles to the same trees wherever its parts stand.

* `Expr.unplaced`, `Clause.unplaced`, `Statement.unplaced` : parts of a query with all places taken
  away, `Statement.unplacedAll` for blocks;
* `Expr.text_unplaced` : they are printed the same way;
* `Scope.toOption_agg`, `Scope.toOption_inside`, `Scope.toOption_items` : and compiled the same way;
* `Scope.nodes_of_unplaced` : so what two blocks compile to is equal if they differ in places only.
-/

namespace SeriesQuery

open Text (Located)

/-! ## Parts without places -/

def LabelMatch.unplaced (m : LabelMatch) : LabelMatch :=
  { m with predicates := m.predicates.map fun p => ⟨[], p.node⟩ }

namespace Expr

mutual

def unplaced : Expr → Expr
  | .event name labels => .event name (labels.map (·.unplaced))
  | .number v => .number v
  | .call name args => .call name (unplacedAll args)
  | .binary op lhs rhs => .binary op ⟨[], lhs.node.unplaced⟩ ⟨[], rhs.node.unplaced⟩
  | .shift e bracket => .shift ⟨[], e.node.unplaced⟩ bracket
  | .paren e => .paren ⟨[], e.node.unplaced⟩

def unplacedAll : List (Located Expr) → List (Located Expr)
  | [] => []
  | e :: es => ⟨[], e.node.unplaced⟩ :: unplacedAll es

end

end Expr

def GroupArgs.unplaced (args : GroupArgs) : GroupArgs :=
  { args with reduction := args.reduction.map fun name => ⟨[], name.node⟩ }

def Clause.unplaced : Clause → Clause
  | .filter labels => .filter (labels.map (·.unplaced))
  | .group args => .group args.unplaced
  | .offset ms => .offset ms

namespace Statement

mutual

def unplaced : Statement → Statement
  | .expr name e => .expr name ⟨[], e.node.unplaced⟩
  | .block body => .block (unplacedAll body)
  | .clause c => .clause c.unplaced

def unplacedAll : List (Located Statement) → List (Located Statement)
  | [] => []
  | s :: rest => ⟨[], s.node.unplaced⟩ :: unplacedAll rest

end

end Statement

/-! ## Printing -/

theorem LabelMatch.text_unplaced (m : LabelMatch) : m.unplaced.text = m.text := by
  unfold text unplaced
  rw [List.map_map]
  rfl

namespace Expr

mutual

theorem text_unplaced : ∀ e : Expr, e.unplaced.text = e.text
  | .event name labels => by
    have htexts : (labels.map (·.unplaced)).map (·.text) = labels.map (·.text) := by
      rw [List.map_map]
      exact List.map_congr_left fun m _ => m.text_unplaced
    rw [unplaced, text, text, htexts, List.isEmpty_map]
  | .number _ => rfl
  | .call name args => by rw [unplaced, text, text, texts_unplacedAll args]
  | .binary op lhs rhs => by
    rw [unplaced, text, text, text_unplaced lhs.node, text_unplaced rhs.node]
  | .shift e bracket => by rw [unplaced, text, text, text_unplaced e.node]
  | .paren e => by rw [unplaced, text, text, text_unplaced e.node]

theorem texts_unplacedAll : ∀ es : List (Located Expr), texts (unplacedAll es) = texts es
  | [] => rfl
  | e :: es => by rw [unplacedAll, texts, texts, text_unplaced e.node, texts_unplacedAll es]

end

end Expr

/-! ## Clauses -/

variable {source : List Char}

theorem Matcher.toOption_ofPredicate (p : Located Predicate) :
    (ofPredicate source p).toOption = (ofPredicate [] ⟨[], p.node⟩).toOption := by
  obtain ⟨start, p⟩ := p
  cases p with
  | value s => rfl
  | call name arg =>
    unfold ofPredicate
    dsimp only
    split
    · rfl
    · rfl
    · split <;> rfl
    · split <;> rfl
    · rfl

theorem Filter.toOption_ofLabels (labels : List LabelMatch) :
    (ofLabels source labels).toOption = (ofLabels [] (labels.map (·.unplaced))).toOption := by
  have hpredicates (m : LabelMatch) : (m.predicates.mapM (Matcher.ofPredicate source)).toOption =
      (m.unplaced.predicates.mapM (Matcher.ofPredicate [])).toOption := by
    unfold LabelMatch.unplaced
    rw [List.mapM_map]
    exact toOption_mapM_congr fun p _ => Matcher.toOption_ofPredicate p
  unfold ofLabels
  rw [List.foldlM_map]
  exact toOption_foldlM_congr (fun f m => toOption_bind_congr (hpredicates m) fun _ => rfl) _ _

theorem Grouping.toOption_ofArgs (args : GroupArgs) :
    (ofArgs source args).toOption = (ofArgs [] args.unplaced).toOption := by
  obtain ⟨labels, reduction, missing⟩ := args
  cases reduction with
  | none => rfl
  | some name =>
    unfold ofArgs GroupArgs.unplaced
    dsimp only [Option.map_some]
    split <;> rfl

namespace Scope

theorem toOption_withClauses (scope : Scope) (own : Option Filter) :
    ∀ body : List (Located Statement), (withClauses source scope own body).toOption =
      (withClauses [] scope own (Statement.unplacedAll body)).toOption
  | [] => rfl
  | ⟨_, .clause (.filter labels)⟩ :: rest => by
    rw [Statement.unplacedAll, Statement.unplaced, Clause.unplaced, withClauses, withClauses]
    exact toOption_bind_congr (Filter.toOption_ofLabels labels) fun f =>
      toOption_withClauses scope _ rest
  | ⟨_, .clause (.group args)⟩ :: rest => by
    rw [Statement.unplacedAll, Statement.unplaced, Clause.unplaced, withClauses, withClauses]
    exact toOption_bind_congr (Grouping.toOption_ofArgs args) fun g =>
      toOption_withClauses _ own rest
  | ⟨_, .clause (.offset ms)⟩ :: rest => toOption_withClauses _ own rest
  | ⟨_, .expr ..⟩ :: rest | ⟨_, .block _⟩ :: rest => toOption_withClauses scope own rest

theorem toOption_inside (outer : Scope) (body : List (Located Statement)) :
    (outer.inside source body).toOption =
      (outer.inside [] (Statement.unplacedAll body)).toOption :=
  toOption_withClauses outer none body

/-! ## Expressions -/

variable (scope : Scope)

theorem toOption_leaf (event : String) (labels : List LabelMatch) :
    (leaf source scope event labels).toOption =
      (leaf [] scope event (labels.map (·.unplaced))).toOption :=
  toOption_bind_congr (Filter.toOption_ofLabels labels) fun _ => rfl

theorem toOption_orOutOfRange {α : Type} (start start' : List Char) (e e' : Expr) (o : Option α) :
    (orOutOfRange source start e o).toOption = (orOutOfRange [] start' e' o).toOption := by
  cases o <;> rfl

theorem toOption_bareLeaf : ∀ (start : List Char) (e : Expr),
    (bareLeaf source scope start e).toOption = (bareLeaf [] scope [] e.unplaced).toOption
  | _, .event name labels => toOption_bind_congr (toOption_leaf scope name labels) fun _ => rfl
  | _, .paren e => toOption_bareLeaf e.start e.node
  | start, .shift e bracket => by
    rw [Expr.unplaced, bareLeaf, bareLeaf]
    refine toOption_bind_congr (toOption_bareLeaf e.start e.node) fun o => ?_
    cases o with
    | none => rfl
    | some leaf =>
      cases bracket with
      | offset ms => exact toOption_bind_congr (toOption_orOutOfRange _ _ _ _ _) fun _ => rfl
      | step ms => rfl
  | _, .number _ | _, .call .. | _, .binary .. => rfl

mutual

theorem toOption_agg : ∀ (start : List Char) (e : Expr),
    (agg source scope start e).toOption = (agg [] scope [] e.unplaced).toOption
  | _, .event name labels => toOption_bind_congr (toOption_leaf scope name labels) fun _ => rfl
  | _, .number _ => rfl
  | _, .paren e => toOption_agg e.start e.node
  | _, .binary op lhs rhs =>
    toOption_bind_congr (toOption_agg lhs.start lhs.node) fun _ =>
      toOption_bind_congr (toOption_agg rhs.start rhs.node) fun _ => rfl
  | start, .shift e bracket => by
    refine toOption_bind_congr (toOption_agg e.start e.node) fun part => ?_
    cases bracket with
    | offset ms => exact toOption_orOutOfRange _ _ _ _ _
    | step ms => rfl
  | start, .call name args => by
    have hargs := toOption_aggs args
    rw [Expr.unplaced]
    unfold agg
    cases CallKind.ofName? name with
    | none => rfl
    | some kind =>
      match kind, args with
      | .plain f, [] => rfl
      | .plain f, [arg] =>
        refine toOption_bind_congr (toOption_bareLeaf scope arg.start arg.node) fun o => ?_
        cases o <;> rfl
      | .plain f, _ :: _ :: _ => rfl
      | .zip f, [] => rfl
      | .zip f, _ :: _ => exact toOption_bind_congr hargs fun _ => rfl
      | .collapse f, [] => rfl
      | .collapse f, [arg] =>
        exact toOption_bind_congr (toOption_agg arg.start arg.node) fun _ => rfl
      | .collapse f, _ :: _ :: _ => rfl

theorem toOption_aggs : ∀ es : List (Located Expr),
    (aggs source scope es).toOption = (aggs [] scope (Expr.unplacedAll es)).toOption
  | [] => rfl
  | e :: es => by
    rw [Expr.unplacedAll, aggs, aggs]
    refine toOption_bind_congr (toOption_agg e.start e.node) fun x => ?_
    exact toOption_bind_congr (toOption_aggs es) fun xs => rfl

end

/-! ## Blocks -/

theorem toOption_item (name : Option String) (e : Located Expr) :
    (item source scope name e).toOption =
      (item [] scope name ⟨[], e.node.unplaced⟩).toOption := by
  have hnamed : (do return .named ⟨name.getD e.node.text, ← agg source scope e.start e.node⟩ :
        Except QueryError Item).toOption =
      (do return .named ⟨name.getD e.node.text, ← agg [] scope [] e.node.unplaced⟩ :
        Except QueryError Item).toOption :=
    toOption_bind_congr (toOption_agg scope e.start e.node) fun _ => rfl
  unfold item
  rw [e.node.text_unplaced]
  split
  · refine toOption_bind_congr (toOption_bareLeaf scope e.start e.node) fun o => ?_
    cases o with
    | none => exact hnamed
    | some leaf => rfl
  · exact hnamed

variable {missing : String}

mutual

theorem toOption_nodeItem : ∀ (scope : Scope) (s : Statement),
    (nodeItem source missing scope s).toOption =
      (nodeItem [] missing scope s.unplaced).toOption
  | _, .clause _ => rfl
  | scope, .expr name e => toOption_bind_congr (toOption_item scope name e) fun _ => rfl
  | scope, .block body => by
    rw [Statement.unplaced, nodeItem, nodeItem]
    refine toOption_bind_congr (toOption_inside scope body) fun inner => ?_
    exact toOption_bind_congr (toOption_items inner body) fun _ => rfl

theorem toOption_items : ∀ (scope : Scope) (body : List (Located Statement)),
    (items source missing scope body).toOption =
      (items [] missing scope (Statement.unplacedAll body)).toOption
  | _, [] => rfl
  | scope, s :: rest => by
    rw [Statement.unplacedAll, items, items]
    refine toOption_bind_congr (toOption_nodeItem scope s.node) fun first => ?_
    exact toOption_bind_congr (toOption_items scope rest) fun more => rfl

end

theorem toOption_nodes (outer : Scope) (body : List (Located Statement)) :
    (nodes source missing outer body).toOption =
      (nodes [] missing outer (Statement.unplacedAll body)).toOption :=
  toOption_bind_congr (toOption_inside outer body) fun inner =>
    toOption_bind_congr (toOption_items inner body) fun _ => rfl

/-- Blocks that differ in places compile to the same nodes, though not to the same errors. -/
theorem nodes_of_unplaced {source' : List Char} {outer : Scope}
    {body body' : List (Located Statement)} {ns : List (Node Float)}
    (h : nodes source missing outer body = .ok ns)
    (hbody : Statement.unplacedAll body' = Statement.unplacedAll body) :
    nodes source' missing outer body' = .ok ns := by
  refine eq_ok_of_toOption ?_ h
  rw [toOption_nodes, ← hbody, ← toOption_nodes]

end Scope

end SeriesQuery
