import SeriesQuery.Proofs.Query.Groups
import SeriesQuery.Proofs.Query.OffsetClause

/-!
# Where aggregates come from

Each aggregate in the groups of a compiled query is an expression of its text, compiled in the scope
of the block that the expression stands in.

* `Statement.exprs`, `Statement.exprsOf` : the expressions of statements, at any depth, with the
  names given to them;
* `Named.IsOf source scope x n` : `n` is what the expression `x` compiles to;
* `Scope.exists_expr_of_mem_items`, `Scope.exists_expr_of_mem_nodes` : every aggregate is of an
  expression, in a scope without an offset if no block sets one;
* `Query.exists_expr` : so it is for a query from its text.
-/

namespace SeriesQuery

open Text (Located)

/-! ## Expressions of a text -/

namespace Statement

mutual

def exprs : Statement → List (Option String × Located Expr)
  | .expr name e => [(name, e)]
  | .block body => exprsOf body
  | .clause _ => []

def exprsOf : List (Located Statement) → List (Option String × Located Expr)
  | [] => []
  | s :: rest => s.node.exprs ++ exprsOf rest

end

end Statement

/-- The aggregate has the name of the expression, or its text, and is what it compiles to. -/
structure Named.IsOf (source : List Char) (scope : Scope) (x : Option String × Located Expr)
    (n : Named Float) : Prop where
  name : n.name = x.1.getD x.2.node.text
  agg : scope.agg source x.2.start x.2.node = .ok n.agg

/-! ## Aggregates of a block -/

namespace Scope

variable {source : List Char} {missing : String}

/-- The named aggregates in the groups of an item. -/
def Item.aggs : Item → List (Named Float)
  | .node n => n.groups.flatMap (·.nodes)
  | .named n => [n]

/-- The named aggregates in the groups of nodes. -/
def aggsOf (ns : List (Node Float)) : List (Named Float) := (Node.groupsOf ns).flatMap (·.nodes)

theorem aggsOf_cons (node : Node Float) (ns : List (Node Float)) :
    aggsOf (node :: ns) = node.groups.flatMap (·.nodes) ++ aggsOf ns := by
  rw [aggsOf, Node.groupsOf, List.flatMap_append]
  rfl

theorem exists_item_of_cons {i : Item} {items : List Item} {n : Named Float}
    (h : ∃ j ∈ items, n ∈ j.aggs) : ∃ j ∈ i :: items, n ∈ j.aggs := by
  obtain ⟨j, hj, hn⟩ := h
  exact ⟨j, List.mem_cons_of_mem i hj, hn⟩

theorem exists_item_of_mem_nodes {items : List Item} {n : Named Float}
    (h : n ∈ aggsOf (items.filterMap Item.node?)) : ∃ i ∈ items, n ∈ i.aggs := by
  induction items with
  | nil => exact absurd h List.not_mem_nil
  | cons i items ih =>
    cases i with
    | node m =>
      have hcons : (Item.node m :: items).filterMap Item.node? =
          m :: items.filterMap Item.node? := rfl
      rw [hcons, aggsOf_cons, List.mem_append] at h
      exact h.elim (fun hm => ⟨.node m, List.mem_cons_self, hm⟩) fun hm =>
        exists_item_of_cons (ih hm)
    | named m => exact exists_item_of_cons (ih h)

/-- The group stands for all named items, wherever it is put. -/
theorem mem_group_or_item_of_mem_withGroup {g : Group Float} {items : List Item} {n : Named Float}
    (h : n ∈ aggsOf (withGroup g items)) : n ∈ g.nodes ∨ ∃ i ∈ items, n ∈ i.aggs := by
  induction items with
  | nil => exact absurd h List.not_mem_nil
  | cons i items ih =>
    cases i with
    | node m =>
      rw [withGroup, aggsOf_cons, List.mem_append] at h
      exact h.elim (fun hm => Or.inr ⟨.node m, List.mem_cons_self, hm⟩) fun hm =>
        (ih hm).imp_right exists_item_of_cons
    | named m =>
      rw [withGroup, aggsOf_cons, List.mem_append, Node.groups, List.flatMap_singleton] at h
      exact h.imp_right fun hm => exists_item_of_cons (exists_item_of_mem_nodes hm)

/-- A block has the aggregates of its items. -/
theorem exists_item_of_mem_assemble {scope : Scope} {items : List Item} {n : Named Float}
    (h : n ∈ aggsOf (scope.assemble missing items)) : ∃ i ∈ items, n ∈ i.aggs := by
  rcases mem_group_or_item_of_mem_withGroup h with h | h
  · obtain ⟨i, hi, him⟩ := List.mem_filterMap.mp h
    refine ⟨i, hi, ?_⟩
    cases i with
    | node _ => contradiction
    | named m => exact List.mem_singleton.mpr (Option.some.inj him).symm
  · exact h

theorem isOf_of_mem_item {scope : Scope} {name : Option String} {e : Located Expr} {i : Item}
    (h : item source scope name e = .ok i) {n : Named Float} (hn : n ∈ i.aggs) :
    n.IsOf source scope (name, e) := by
  have hnamed : ∀ {i : Item},
      (do return .named ⟨name.getD e.node.text, ← agg source scope e.start e.node⟩ :
        Except QueryError Item) = .ok i → n ∈ i.aggs → n.IsOf source scope (name, e) := by
    intro i h hn
    obtain ⟨a, ha, h⟩ := bind_eq_ok.mp h
    rw [← Except.ok.inj h, Item.aggs, List.mem_singleton] at hn
    exact ⟨congrArg Named.name hn, hn ▸ ha⟩
  unfold item at h
  split at h
  · obtain ⟨leaf, -, h⟩ := bind_eq_ok.mp h
    cases leaf with
    | none => exact hnamed h hn
    | some leaf =>
      rw [← Except.ok.inj h] at hn
      exact absurd hn List.not_mem_nil
  · exact hnamed h hn

mutual

theorem exists_expr_of_mem_nodeItem : ∀ {scope : Scope} (s : Statement) {o : Option Item},
    nodeItem source missing scope s = .ok o → ∀ i ∈ o, ∀ n ∈ i.aggs,
      ∃ scope' : Scope, ∃ x ∈ s.exprs, n.IsOf source scope' x ∧
        (s.offsetFree = true → scope'.offset = scope.offset)
  | _, .clause _, _, h, i, hi, _, _ => by
    rw [← Except.ok.inj h] at hi
    contradiction
  | scope, .expr name e, _, h, i, hi, n, hn => by
    obtain ⟨j, hj, rfl⟩ := map_eq_ok.mp h
    obtain rfl : j = i := Option.some.inj hi
    exact ⟨scope, (name, e), List.mem_singleton_self _, isOf_of_mem_item hj hn, fun _ => rfl⟩
  | scope, .block body, _, h, i, hi, n, hn => by
    obtain ⟨inner, hinner, h⟩ := bind_eq_ok.mp h
    obtain ⟨is, his, h⟩ := bind_eq_ok.mp h
    rw [← Except.ok.inj h] at hi
    obtain rfl : _ = i := Option.some.inj hi
    obtain ⟨j, hj, hn⟩ := exists_item_of_mem_assemble hn
    obtain ⟨scope', x, hx, hof, hoffset⟩ := exists_expr_of_mem_items body his j hj n hn
    exact ⟨scope', x, hx, hof, fun hfree =>
      (hoffset hfree).trans (offset_of_withClauses body hfree hinner)⟩

theorem exists_expr_of_mem_items : ∀ {scope : Scope} (body : List (Located Statement))
    {is : List Item}, items source missing scope body = .ok is → ∀ i ∈ is, ∀ n ∈ i.aggs,
      ∃ scope' : Scope, ∃ x ∈ Statement.exprsOf body, n.IsOf source scope' x ∧
        (Statement.allOffsetFree body = true → scope'.offset = scope.offset)
  | _, [], _, h, i, hi, _, _ => by
    rw [← Except.ok.inj h] at hi
    contradiction
  | _, s :: rest, _, h, i, hi, n, hn => by
    obtain ⟨first, hfirst, h⟩ := bind_eq_ok.mp h
    obtain ⟨more, hmore, h⟩ := bind_eq_ok.mp h
    rw [← Except.ok.inj h, List.mem_append, Option.mem_toList] at hi
    rcases hi with hi | hi
    · obtain ⟨scope', x, hx, hof, hoffset⟩ :=
        exists_expr_of_mem_nodeItem s.node hfirst i hi n hn
      exact ⟨scope', x, List.mem_append_left _ hx, hof, fun hfree =>
        hoffset ((Bool.and_eq_true _ _).mp hfree).1⟩
    · obtain ⟨scope', x, hx, hof, hoffset⟩ := exists_expr_of_mem_items rest hmore i hi n hn
      exact ⟨scope', x, List.mem_append_right _ hx, hof, fun hfree =>
        hoffset ((Bool.and_eq_true _ _).mp hfree).2⟩

end

theorem exists_expr_of_mem_nodes {outer : Scope} {body : List (Located Statement)}
    {ns : List (Node Float)} (h : nodes source missing outer body = .ok ns) {n : Named Float}
    (hn : n ∈ aggsOf ns) :
    ∃ scope : Scope, ∃ x ∈ Statement.exprsOf body, n.IsOf source scope x ∧
      (Statement.allOffsetFree body = true → scope.offset = outer.offset) := by
  obtain ⟨inner, hinner, h⟩ := bind_eq_ok.mp h
  obtain ⟨is, his, h⟩ := bind_eq_ok.mp h
  rw [← Except.ok.inj h] at hn
  obtain ⟨i, hi, hn⟩ := exists_item_of_mem_assemble hn
  obtain ⟨scope, x, hx, hof, hoffset⟩ := exists_expr_of_mem_items body his i hi n hn
  exact ⟨scope, x, hx, hof, fun hfree =>
    (hoffset hfree).trans (offset_of_withClauses body hfree hinner)⟩

end Scope

/-- The aggregates of a query are those of the expressions in its text. -/
theorem Query.exists_expr {source missing : String} {q : Query Float}
    {body : List (Located Statement)} (hbody : Statement.ofText source = .ok body)
    (hq : Query.ofText source missing = .ok q) {g : Group Float} (hg : g ∈ q.groups)
    {n : Named Float} (hn : n ∈ g.nodes) :
    ∃ scope : Scope, ∃ x ∈ Statement.exprsOf body, n.IsOf source.toList scope x ∧
      (Statement.allOffsetFree body = true → scope.offset = 0) := by
  obtain ⟨body', hbody', h⟩ := bind_eq_ok.mp hq
  obtain rfl : body = body' := Except.ok.inj (hbody.symm.trans hbody')
  obtain ⟨ns, hns, h⟩ := bind_eq_ok.mp h
  rw [← Except.ok.inj h] at hg
  exact Scope.exists_expr_of_mem_nodes hns (List.mem_flatMap.mpr ⟨g, hg, hn⟩)

end SeriesQuery
