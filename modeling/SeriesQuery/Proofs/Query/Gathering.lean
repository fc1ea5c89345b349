import SeriesQuery.Proofs.Query.Clauses

/-!
# From the text to the nodes of a block

All aggregates of a block go into one group, which stands where the first of them does. What is read
off the nodes of a block therefore comes in another order than the statements, but it comes from
them one by one. To relate the two it is enough to look at single expressions.

* `forall₂_of_map_eq` : lists that are related to the same;
* `Expr.isBare`, `Scope.isSome_bareLeaf` : which expressions have a bare leaf;
* `Run`, `Run.gathered` : what comes from one statement, and the order that a block puts it in;
* `Gatherer`, `Node.gatherOf` : something that is read off leaves and aggregates, in tree order;
* `Outline`, `Statement.outline` : something that is read off the text, in the same order;
* `Scope.gatherOf_assemble` : the nodes of a block give the runs of its items;
* `Outline.Describes`, `Outline.Describes.nodes` : what relates the two for expressions relates them
  for blocks.
-/

namespace SeriesQuery

open Text (Located)

variable {β γ δ κ : Type}

/-! ## Related lists -/

/-- A relation that only looks at `f` does not tell apart lists that `f` does not. -/
theorem forall₂_of_map_eq {R : β → γ → Prop} {f : γ → δ}
    (hR : ∀ x y z, f z = f y → R x y → R x z) {xs : List β} {ys zs : List γ}
    (h : List.Forall₂ R xs ys) (hf : zs.map f = ys.map f) : List.Forall₂ R xs zs := by
  induction h generalizing zs with
  | nil =>
    rw [List.map_eq_nil_iff.mp hf]
    exact .nil
  | cons hxy _ ih =>
    obtain ⟨z, zs, rfl, hz, hzs⟩ := List.map_eq_cons_iff.mp hf
    exact .cons (hR _ _ _ hz hxy) (ih hzs)

/-! ## Bare events -/

/-- An event with nothing but parentheses and brackets around it. -/
def Expr.isBare : Expr → Bool
  | .event .. => true
  | .paren e | .shift e _ => e.node.isBare
  | _ => false

theorem Scope.isSome_bareLeaf {source : List Char} {scope : Scope} : ∀ {start : List Char}
    (e : Expr) {o : Option Leaf}, bareLeaf source scope start e = .ok o → o.isSome = e.isBare
  | _, .event .., _, h => by
    obtain ⟨leaf, -, rfl⟩ := map_eq_ok.mp h
    rfl
  | _, .paren e, _, h => isSome_bareLeaf e.node h
  | _, .shift e bracket, _, h => by
    obtain ⟨inner, hinner, h⟩ := bind_eq_ok.mp h
    have hbare : inner.isSome = e.node.isBare := isSome_bareLeaf e.node hinner
    cases inner with
    | none =>
      rw [← Except.ok.inj h]
      exact hbare
    | some leaf =>
      cases bracket with
      | offset ms =>
        obtain ⟨shift, -, h⟩ := bind_eq_ok.mp h
        rw [← Except.ok.inj h]
        exact hbare
      | step ms =>
        rw [← Except.ok.inj h]
        exact hbare
  | _, .number _, _, h | _, .call .., _, h | _, .binary .., _, h => by
    rw [← Except.ok.inj h]
    rfl

/-! ## Runs -/

/-- What comes from one statement. What is grouped goes into the group of its block. -/
structure Run (β : Type) where
  grouped : Bool
  elements : List β

namespace Run

/-- The runs of a block in order, all grouped ones where the first of them stands. -/
def gathered : List (Run β) → List β
  | [] => []
  | ⟨false, xs⟩ :: runs => xs ++ gathered runs
  | ⟨true, xs⟩ :: runs => xs ++ (runs.filter (·.grouped)).flatMap (·.elements) ++
      (runs.filter (!·.grouped)).flatMap (·.elements)

/-- Nothing is lost or added. -/
theorem gathered_perm (runs : List (Run β)) : (gathered runs).Perm (runs.flatMap (·.elements)) := by
  induction runs with
  | nil => exact .nil
  | cons r runs ih =>
    obtain ⟨grouped, xs⟩ := r
    cases grouped with
    | false => exact ih.append_left xs
    | true =>
      show (xs ++ (runs.filter (·.grouped)).flatMap (·.elements) ++
        (runs.filter (!·.grouped)).flatMap (·.elements)).Perm _
      rw [List.append_assoc, ← List.flatMap_append]
      exact ((List.filter_append_perm (·.grouped) runs).flatMap_right _).append_left xs

/-- Runs of related elements. -/
structure Related (R : β → γ → Prop) (r : Run β) (s : Run γ) : Prop where
  grouped : r.grouped = s.grouped
  elements : List.Forall₂ R r.elements s.elements

variable {R : β → γ → Prop} {rs : List (Run β)} {ss : List (Run γ)}

theorem forall₂_filter_elements (h : List.Forall₂ (Related R) rs ss) (p : Bool → Bool) :
    List.Forall₂ R ((rs.filter (p ·.grouped)).flatMap (·.elements))
      ((ss.filter (p ·.grouped)).flatMap (·.elements)) := by
  induction h with
  | nil => exact .nil
  | cons h _ ih =>
    rw [List.filter_cons, List.filter_cons, h.grouped]
    split
    · rw [List.flatMap_cons, List.flatMap_cons]
      exact List.rel_append h.elements ih
    · exact ih

theorem forall₂_gathered (h : List.Forall₂ (Related R) rs ss) :
    List.Forall₂ R (gathered rs) (gathered ss) := by
  induction h with
  | nil => exact .nil
  | @cons r s rs ss h hrest ih =>
    obtain ⟨grouped, xs⟩ := r
    obtain ⟨grouped', ys⟩ := s
    obtain rfl : grouped = grouped' := h.grouped
    cases grouped with
    | false => exact List.rel_append h.elements ih
    | true =>
      exact List.rel_append
        (List.rel_append h.elements (forall₂_filter_elements hrest fun grouped => grouped))
        (forall₂_filter_elements hrest fun grouped => !grouped)

end Run

/-! ## What is read off nodes -/

/-- What a leaf of raw outputs gives, and what an aggregate of a group does. -/
structure Gatherer (β : Type) where
  leaf : Leaf → List β
  agg : Agg Float → List β

namespace Node

mutual

def gather (g : Gatherer β) : Node Float → List β
  | .scan leaf => g.leaf leaf
  | .group named => named.nodes.flatMap (g.agg ·.agg)
  | .block nodes => gatherOf g nodes

def gatherOf (g : Gatherer β) : List (Node Float) → List β
  | [] => []
  | node :: nodes => node.gather g ++ gatherOf g nodes

end

end Node

namespace Scope

variable {missing : String}

def Item.run (g : Gatherer β) : Item → Run β
  | .node n => ⟨false, n.gather g⟩
  | .named n => ⟨true, g.agg n.agg⟩

theorem gather_named (g : Gatherer β) (is : List Item) :
    ((is.map (Item.run g)).filter (·.grouped)).flatMap (·.elements) =
      (is.filterMap Item.named?).flatMap (g.agg ·.agg) := by
  induction is with
  | nil => rfl
  | cons i is ih =>
    cases i with
    | node n => exact ih
    | named n => exact congrArg (g.agg n.agg ++ ·) ih

theorem gather_nodes (g : Gatherer β) (is : List Item) :
    ((is.map (Item.run g)).filter (!·.grouped)).flatMap (·.elements) =
      Node.gatherOf g (is.filterMap Item.node?) := by
  induction is with
  | nil => rfl
  | cons i is ih =>
    cases i with
    | node n => exact congrArg (n.gather g ++ ·) ih
    | named n => exact ih

/-- The group gives what all grouped runs do. -/
theorem gatherOf_withGroup (g : Gatherer β) {named : Group Float} {is : List Item}
    (hnamed : named.nodes = is.filterMap Item.named?) :
    Node.gatherOf g (withGroup named is) = Run.gathered (is.map (Item.run g)) := by
  induction is with
  | nil => rfl
  | cons i is ih =>
    cases i with
    | node n => exact congrArg (n.gather g ++ ·) (ih hnamed)
    | named n =>
      rw [withGroup, Node.gatherOf, Node.gather, hnamed, ← gather_nodes]
      refine congrArg (· ++ _) ?_
      exact congrArg (g.agg n.agg ++ ·) (gather_named g is).symm

theorem gatherOf_assemble (g : Gatherer β) (scope : Scope) (is : List Item) :
    Node.gatherOf g (scope.assemble missing is) = Run.gathered (is.map (Item.run g)) :=
  gatherOf_withGroup g rfl

end Scope

/-! ## What is read off the text -/

/-- What an expression gives in a context, and the context inside of a block. -/
structure Outline (κ γ : Type) where
  enter : κ → List (Located Statement) → κ
  expr : κ → Expr → List γ

namespace Statement

/-- Whether a grouping is in effect in a block. -/
def groupedIn (grouped : Bool) (body : List (Located Statement)) : Bool :=
  grouped || !(clausesOf .group body).isEmpty

mutual

/-- Without a grouping, bare events that have no name are not grouped. A block is one run, which is
not grouped whatever is in it. -/
def outlined (o : Outline κ γ) (k : κ) (grouped : Bool) : Statement → List (Run γ)
  | .clause _ => []
  | .expr name e => [⟨grouped || name.isSome || !e.node.isBare, o.expr k e.node⟩]
  | .block body =>
    [⟨false, Run.gathered (outlinedOf o (o.enter k body) (groupedIn grouped body) body)⟩]

def outlinedOf (o : Outline κ γ) (k : κ) (grouped : Bool) :
    List (Located Statement) → List (Run γ)
  | [] => []
  | s :: rest => s.node.outlined o k grouped ++ outlinedOf o k grouped rest

end

/-- What a block gives in the context `k` around it, in the order of its nodes. -/
def outline (o : Outline κ γ) (k : κ) (grouped : Bool) (body : List (Located Statement)) : List γ :=
  Run.gathered (outlinedOf o (o.enter k body) (groupedIn grouped body) body)

end Statement

namespace Scope

open Statement

theorem isSome_of_groupingOf {source : List Char} {g g' : Option Grouping} : ∀ {cs : List Clause},
    (∀ c ∈ cs, c.kind = .group) → groupingOf source g cs = .ok g' →
      g'.isSome = (g.isSome || !cs.isEmpty)
  | [], _, h => by
    rw [← Except.ok.inj h]
    exact (Bool.or_false _).symm
  | .group _ :: cs, hcs, h => by
    obtain ⟨own, -, h⟩ := bind_eq_ok.mp h
    rw [isSome_of_groupingOf (List.forall_mem_of_forall_mem_cons hcs) h]
    exact (Bool.or_true _).symm
  | .filter _ :: cs, hcs, _ | .offset _ :: cs, hcs, _ => nomatch hcs _ List.mem_cons_self

theorem isSome_inside {source : List Char} {outer inner : Scope} {body : List (Located Statement)}
    (h : outer.inside source body = .ok inner) :
    inner.grouping.isSome = groupedIn outer.grouping.isSome body := by
  obtain ⟨f, g, -, hg, rfl⟩ := inside_eq_ok.mp h
  exact isSome_of_groupingOf (fun c => kind_of_mem_clausesOf) hg

end Scope

/-! ## Both -/

/-- In contexts that agree with the scopes, what is read off an expression is related to what is
read off the leaf or the aggregate that it compiles to. `P` holds of all statements of the text. -/
structure Outline.Describes (source : List Char) (o : Outline κ γ) (g : Gatherer β)
    (Agrees : κ → Scope → Prop) (R : γ → β → Prop) (P : Statement → Prop) : Prop where
  block : ∀ {body : List (Located Statement)}, P (.block body) → ∀ s ∈ body, P s.node
  inside : ∀ {k : κ} {outer inner : Scope} {body : List (Located Statement)},
    (∀ s ∈ body, P s.node) → Agrees k outer → outer.inside source body = .ok inner →
      Agrees (o.enter k body) inner
  leaf : ∀ {k : κ} {scope : Scope} {start : List Char} {e : Expr} {leaf : Leaf}, Agrees k scope →
    Scope.bareLeaf source scope start e = .ok (some leaf) →
      List.Forall₂ R (o.expr k e) (g.leaf leaf)
  agg : ∀ {k : κ} {scope : Scope} {start : List Char} {e : Expr} {a : Agg Float}, Agrees k scope →
    Scope.agg source scope start e = .ok a → List.Forall₂ R (o.expr k e) (g.agg a)

namespace Outline.Describes

open Scope Statement

variable {source : List Char} {missing : String} {o : Outline κ γ} {g : Gatherer β}
  {Agrees : κ → Scope → Prop} {R : γ → β → Prop} {P : Statement → Prop}

theorem item (d : o.Describes source g Agrees R P) {k : κ} {scope : Scope} (hk : Agrees k scope)
    {name : Option String} {e : Located Expr} {i : Item}
    (h : Scope.item source scope name e = .ok i) :
    Run.Related R ⟨scope.grouping.isSome || name.isSome || !e.node.isBare, o.expr k e.node⟩
      (i.run g) := by
  have hnamed : ∀ {i : Item},
      (do return .named ⟨name.getD e.node.text, ← Scope.agg source scope e.start e.node⟩ :
        Except QueryError Item) = .ok i →
      (i.run g).grouped = true ∧ List.Forall₂ R (o.expr k e.node) (i.run g).elements := by
    intro i h
    obtain ⟨a, ha, h⟩ := bind_eq_ok.mp h
    rw [← Except.ok.inj h]
    exact ⟨rfl, d.agg hk ha⟩
  unfold Scope.item at h
  split at h
  · next hplain =>
    -- here only the form of the expression decides, in the same way for both
    obtain ⟨hgrouping, hname⟩ := (Bool.and_eq_true _ _).mp hplain
    rw [Option.isNone_iff_eq_none] at hgrouping hname
    rw [hgrouping, hname]
    obtain ⟨l, hl, h⟩ := bind_eq_ok.mp h
    rw [← isSome_bareLeaf e.node hl]
    cases l with
    | none =>
      obtain ⟨hgrouped, hrelated⟩ := hnamed h
      exact ⟨hgrouped.symm, hrelated⟩
    | some leaf =>
      rw [← Except.ok.inj h]
      exact ⟨rfl, d.leaf hk hl⟩
  · next hplain =>
    obtain ⟨hgrouped, hrelated⟩ := hnamed h
    refine ⟨?_, hrelated⟩
    have hnone : (scope.grouping.isSome || name.isSome) = true := by
      rw [← Option.not_isNone, ← Option.not_isNone, ← Bool.not_and, Bool.not_eq_true']
      exact Bool.eq_false_iff.mpr hplain
    rw [hgrouped, hnone, Bool.true_or]

mutual

theorem nodeItem (d : o.Describes source g Agrees R P) : ∀ (s : Statement) {k : κ} {scope : Scope}
    {i : Option Item}, P s → Agrees k scope → Scope.nodeItem source missing scope s = .ok i →
      List.Forall₂ (Run.Related R) (s.outlined o k scope.grouping.isSome)
        (i.toList.map (Item.run g))
  | .clause _, _, _, _, _, _, h => by
    rw [← Except.ok.inj h]
    exact .nil
  | .expr name e, _, _, _, _, hk, h => by
    obtain ⟨i, hi, rfl⟩ := map_eq_ok.mp h
    exact .cons (d.item hk hi) .nil
  | .block body, k, scope, _, hs, hk, h => by
    obtain ⟨inner, hinner, h⟩ := bind_eq_ok.mp h
    obtain ⟨is, his, h⟩ := bind_eq_ok.mp h
    have hbody := d.block hs
    have hruns := d.items body hbody (d.inside hbody hk hinner) his
    rw [isSome_inside hinner] at hruns
    rw [← Except.ok.inj h]
    refine .cons ⟨rfl, ?_⟩ .nil
    have hnodes : (Item.run g (.node (.block (inner.assemble missing is)))).elements =
        Run.gathered (is.map (Item.run g)) := gatherOf_assemble g inner is
    rw [hnodes]
    exact Run.forall₂_gathered hruns

theorem items (d : o.Describes source g Agrees R P) : ∀ (body : List (Located Statement)) {k : κ}
    {scope : Scope} {is : List Item}, (∀ s ∈ body, P s.node) → Agrees k scope →
      Scope.items source missing scope body = .ok is →
        List.Forall₂ (Run.Related R) (outlinedOf o k scope.grouping.isSome body)
          (is.map (Item.run g))
  | [], _, _, _, _, _, h => by
    rw [← Except.ok.inj h]
    exact .nil
  | s :: rest, _, _, _, hbody, hk, h => by
    obtain ⟨hs, hrest⟩ := List.forall_mem_cons.mp hbody
    obtain ⟨first, hfirst, h⟩ := bind_eq_ok.mp h
    obtain ⟨more, hmore, h⟩ := bind_eq_ok.mp h
    rw [← Except.ok.inj h, List.map_append]
    exact List.rel_append (d.nodeItem s.node hs hk hfirst) (d.items rest hrest hk hmore)

end

/-- What relates single expressions to what they compile to relates a block to its nodes. -/
theorem nodes (d : o.Describes source g Agrees R P) {k : κ} {outer : Scope}
    {body : List (Located Statement)} (hbody : ∀ s ∈ body, P s.node) (hk : Agrees k outer)
    {ns : List (Node Float)} (h : Scope.nodes source missing outer body = .ok ns) :
    List.Forall₂ R (outline o k outer.grouping.isSome body) (Node.gatherOf g ns) := by
  obtain ⟨inner, hinner, h⟩ := bind_eq_ok.mp h
  obtain ⟨is, his, h⟩ := bind_eq_ok.mp h
  have hruns := d.items body hbody (d.inside hbody hk hinner) his
  rw [isSome_inside hinner] at hruns
  rw [← Except.ok.inj h, gatherOf_assemble]
  exact Run.forall₂_gathered hruns

end Outline.Describes

end SeriesQuery
