import SeriesQuery.Proofs.Query.Places
import SeriesQuery.Proofs.Query.Translation

/-!
# The offset clause

An offset clause goes into the leaves and literals of its block, and not into zips: what it makes of
a block is the block's tree, translated. Brackets are checked additions to the offsets there are, so
they add up in any order.

* `Statement.offsetFree` : no block of a statement has an offset clause, at any depth;
* `Scope.translate d scope` : the scope with offsets `d` later;
* `Scope.bothOk_agg`, `Scope.bothOk_item`, `Scope.bothOk_items` : what compiles in both scopes is
  translated;
* `Scope.bothOk_nodes` : and so is a block that an offset clause is put behind;
* `Query.offset_spec` : the clause moves the window of a query.
-/

namespace SeriesQuery

open Text (Located)

/-! ## Statements without offsets -/

def Clause.isOffset : Clause → Bool
  | .offset _ => true
  | _ => false

namespace Statement

mutual

def offsetFree : Statement → Bool
  | .expr .. => true
  | .block body => allOffsetFree body
  | .clause c => !c.isOffset

def allOffsetFree : List (Located Statement) → Bool
  | [] => true
  | s :: rest => s.node.offsetFree && allOffsetFree rest

end

end Statement

/-! ## Brackets -/

theorem Shift.translate_addOffset? {s t t' : Shift} {d offset : Int}
    (h : s.addOffset? offset = some t) (h' : (s.translate d).addOffset? offset = some t') :
    t' = t.translate d := by
  unfold addOffset? Time.checked? at h h'
  split at h
  · split at h'
    · rw [← Option.some.inj h, ← Option.some.inj h']
      unfold translate
      rw [Int.add_right_comm]
    · contradiction
  · contradiction

namespace Agg

theorem translate_shiftOffset? {d offset : Int} : ∀ {a b b' : Agg α},
    a.shiftOffset? offset = some b → (a.translate d).shiftOffset? offset = some b' →
      b' = b.translate d
  | .scan leaf f, _, _, h, h' => by
    obtain ⟨s, hs, rfl⟩ := Option.map_eq_some_iff.mp h
    obtain ⟨s', hs', rfl⟩ := Option.map_eq_some_iff.mp h'
    rw [Shift.translate_addOffset? hs hs']
    rfl
  | .zip parts f shift, _, _, h, h' => by
    obtain ⟨s, hs, rfl⟩ := Option.map_eq_some_iff.mp h
    obtain ⟨s', hs', rfl⟩ := Option.map_eq_some_iff.mp h'
    rw [Option.some.inj (hs.symm.trans hs')]
    rfl
  | .collapse part f, _, _, h, h' => by
    obtain ⟨p, hp, rfl⟩ := Option.map_eq_some_iff.mp h
    obtain ⟨p', hp', rfl⟩ := Option.map_eq_some_iff.mp h'
    rw [translate_shiftOffset? hp hp']
    rfl
  | .op x y f, _, _, h, h' => by
    obtain ⟨u, hu, h⟩ := Option.bind_eq_some_iff.mp h
    obtain ⟨v, hv, h⟩ := Option.bind_eq_some_iff.mp h
    obtain ⟨u', hu', h'⟩ := Option.bind_eq_some_iff.mp h'
    obtain ⟨v', hv', h'⟩ := Option.bind_eq_some_iff.mp h'
    rw [← Option.some.inj h, ← Option.some.inj h', translate_shiftOffset? hu hu',
      translate_shiftOffset? hv hv']
    rfl
  | .value v shift, _, _, h, h' => by
    obtain ⟨s, hs, rfl⟩ := Option.map_eq_some_iff.mp h
    obtain ⟨s', hs', rfl⟩ := Option.map_eq_some_iff.mp h'
    rw [Shift.translate_addOffset? hs hs']
    rfl

theorem translate_shiftStep (d step : Int) : ∀ a : Agg α,
    (a.translate d).shiftStep step = (a.shiftStep step).translate d
  | .scan .. | .zip .. | .value .. => rfl
  | .collapse part f => by
    rw [translate, shiftStep, shiftStep, translate, translate_shiftStep d step part]
  | .op x y f => by
    rw [translate, shiftStep, shiftStep, translate, translate_shiftStep d step x,
      translate_shiftStep d step y]

end Agg

/-! ## Expressions -/

namespace Scope

variable {source : List Char} {d : Int}

def translate (d : Int) (scope : Scope) : Scope := { scope with offset := scope.offset + d }

theorem bothOk_leaf (scope : Scope) (event : String) (labels : List LabelMatch) :
    BothOk (fun l l' => l' = l.translate d) (leaf source scope event labels)
      (leaf source (scope.translate d) event labels) := by
  unfold leaf
  cases Filter.ofLabels source labels with
  | error e => exact .error
  | ok own => exact .ok rfl

theorem bothOk_orOutOfRange {α β : Type} {R : α → β → Prop} {start : List Char} {e : Expr}
    {o : Option α} {o' : Option β} (h : ∀ a b, o = some a → o' = some b → R a b) :
    BothOk R (orOutOfRange source start e o) (orOutOfRange source start e o') := by
  intro a b ha hb
  refine h a b ?_ ?_
  · cases o with
    | none => contradiction
    | some a' => exact congrArg some (Except.ok.inj ha)
  · cases o' with
    | none => contradiction
    | some b' => exact congrArg some (Except.ok.inj hb)

variable (scope : Scope)

theorem bothOk_bareLeaf : ∀ (start : List Char) (e : Expr),
    BothOk (fun o o' => o' = o.map (·.translate d)) (bareLeaf source scope start e)
      (bareLeaf source (scope.translate d) start e)
  | _, .event name labels =>
    (bothOk_leaf scope name labels).bind fun _ _ h => .ok (congrArg some h)
  | _, .paren e => bothOk_bareLeaf e.start e.node
  | start, .shift e bracket => by
    rw [bareLeaf, bareLeaf]
    refine (bothOk_bareLeaf e.start e.node).bind fun o o' h => ?_
    subst h
    cases o with
    | none => exact .ok rfl
    | some leaf =>
      cases bracket with
      | offset ms =>
        refine BothOk.bind (bothOk_orOutOfRange fun s s' => Shift.translate_addOffset?) ?_
        rintro s _ rfl
        exact .ok rfl
      | step ms => exact .ok rfl
  | _, .number _ | _, .call .. | _, .binary .. => .ok rfl

mutual

theorem bothOk_agg : ∀ (start : List Char) (e : Expr),
    BothOk (fun a a' => a' = a.translate d) (agg source scope start e)
      (agg source (scope.translate d) start e)
  | _, .event name labels =>
    (bothOk_leaf scope name labels).bind fun _ _ h => .ok (h ▸ rfl)
  | _, .number _ => .ok rfl
  | _, .paren e => bothOk_agg e.start e.node
  | _, .binary op lhs rhs => by
    refine (bothOk_agg lhs.start lhs.node).bind fun x x' hx => ?_
    refine (bothOk_agg rhs.start rhs.node).bind fun y y' hy => .ok ?_
    rw [hx, hy, Agg.translate]
  | start, .shift e bracket => by
    refine (bothOk_agg e.start e.node).bind fun a a' h => ?_
    subst h
    cases bracket with
    | offset ms => exact bothOk_orOutOfRange fun b b' => Agg.translate_shiftOffset?
    | step ms => exact .ok (Agg.translate_shiftStep d ms a)
  | start, .call name args => by
    have hargs := bothOk_aggs args
    unfold agg
    cases CallKind.ofName? name with
    | none => exact .error
    | some kind =>
      match kind, args with
      | .plain f, [] => exact .error
      | .plain f, [arg] =>
        refine (bothOk_bareLeaf scope arg.start arg.node).bind fun o o' h => ?_
        subst h
        cases o with
        | none => exact .error
        | some leaf => exact .ok rfl
      | .plain f, _ :: _ :: _ => exact .error
      | .zip f, [] => exact .error
      | .zip f, _ :: _ => exact hargs.bind fun as as' h => .ok (h ▸ rfl)
      | .collapse f, [] => exact .error
      | .collapse f, [arg] =>
        exact (bothOk_agg arg.start arg.node).bind fun a a' h => .ok (h ▸ rfl)
      | .collapse f, _ :: _ :: _ => exact .error

theorem bothOk_aggs : ∀ es : List (Located Expr),
    BothOk (fun as as' => as' = Agg.translateAll d as) (aggs source scope es)
      (aggs source (scope.translate d) es)
  | [] => .ok rfl
  | e :: es => by
    rw [aggs, aggs]
    refine (bothOk_agg e.start e.node).bind fun x x' hx => ?_
    refine (bothOk_aggs es).bind fun xs xs' hxs => .ok ?_
    rw [hx, hxs, Agg.translateAll]

end

/-! ## Blocks -/

def Item.translate (d : Int) : Item → Item
  | .node n => .node (n.translate d)
  | .named n => .named (n.translate d)

theorem bothOk_item (name : Option String) (e : Located Expr) :
    BothOk (fun i i' => i' = i.translate d) (item source scope name e)
      (item source (scope.translate d) name e) := by
  have hnamed : BothOk (fun i i' => i' = Item.translate d i)
      (do return .named ⟨name.getD e.node.text, ← agg source scope e.start e.node⟩)
      (do return .named ⟨name.getD e.node.text,
        ← agg source (scope.translate d) e.start e.node⟩) :=
    (bothOk_agg scope e.start e.node).bind fun _ _ h => .ok (h ▸ rfl)
  unfold item
  rw [show (scope.translate d).grouping = scope.grouping from rfl]
  split
  · refine (bothOk_bareLeaf scope e.start e.node).bind fun o o' h => ?_
    subst h
    cases o with
    | none => exact hnamed
    | some leaf => exact .ok rfl
  · exact hnamed

theorem node?_translate (i : Item) : (i.translate d).node? = i.node?.map (·.translate d) := by
  cases i <;> rfl

theorem named?_translate (i : Item) : (i.translate d).named? = i.named?.map (·.translate d) := by
  cases i <;> rfl

theorem translateAll_eq (nodes : List (Node Float)) :
    Node.translateAll d nodes = nodes.map (·.translate d) := by
  induction nodes with
  | nil => rfl
  | cons node nodes ih => rw [Node.translateAll, ih, List.map_cons]

theorem withGroup_translate (g : Group Float) (items : List Item) :
    withGroup (g.translate d) (items.map (·.translate d)) =
      Node.translateAll d (withGroup g items) := by
  induction items with
  | nil => rfl
  | cons i items ih =>
    cases i with
    | node n => exact congrArg (n.translate d :: ·) ih
    | named n =>
      have hnodes : (items.map (·.translate d)).filterMap Item.node? =
          Node.translateAll d (items.filterMap Item.node?) := by
        rw [translateAll_eq, List.filterMap_map, List.map_filterMap]
        exact List.filterMap_congr fun i _ => node?_translate i
      exact congrArg (.group (g.translate d) :: ·) hnodes

variable {missing : String}

theorem assemble_translate (items : List Item) :
    (scope.translate d).assemble missing (items.map (·.translate d)) =
      Node.translateAll d (scope.assemble missing items) := by
  have hnamed : (items.map (·.translate d)).filterMap Item.named? =
      (items.filterMap Item.named?).map (·.translate d) := by
    rw [List.filterMap_map, List.map_filterMap]
    exact List.filterMap_congr fun i _ => named?_translate i
  unfold assemble
  rw [hnamed]
  exact withGroup_translate (scope.group missing (items.filterMap Item.named?)) items

/-- Without offset clauses the scope of a block is as late as the one around it. -/
theorem bothOk_withClauses (own : Option Filter) : ∀ (scope : Scope)
    (body : List (Located Statement)), Statement.allOffsetFree body = true →
      BothOk (fun s s' => s' = s.translate d) (withClauses source scope own body)
        (withClauses source (scope.translate d) own body)
  | _, [], _ => .ok rfl
  | scope, ⟨_, .clause (.filter labels)⟩ :: rest, h => by
    rw [withClauses, withClauses]
    cases Filter.ofLabels source labels with
    | error e => exact .error
    | ok f => exact bothOk_withClauses _ scope rest h
  | scope, ⟨_, .clause (.group args)⟩ :: rest, h => by
    rw [withClauses, withClauses]
    cases Grouping.ofArgs source args with
    | error e => exact .error
    | ok g => exact bothOk_withClauses own { scope with grouping := some g } rest h
  | _, ⟨_, .clause (.offset _)⟩ :: _, h => nomatch h
  | scope, ⟨_, .expr ..⟩ :: rest, h => bothOk_withClauses own scope rest h
  | scope, ⟨_, .block _⟩ :: rest, h =>
    bothOk_withClauses own scope rest ((Bool.and_eq_true _ _).mp h).2

mutual

theorem bothOk_nodeItem : ∀ (scope : Scope) (s : Statement), s.offsetFree = true →
    BothOk (fun o o' => o' = o.map (·.translate d)) (nodeItem source missing scope s)
      (nodeItem source missing (scope.translate d) s)
  | _, .clause _, _ => .ok rfl
  | scope, .expr name e, _ =>
    (bothOk_item scope name e).bind fun _ _ h => .ok (congrArg some h)
  | scope, .block body, h => by
    rw [nodeItem, nodeItem]
    refine BothOk.bind (bothOk_withClauses none scope body h) fun inner inner' hi => ?_
    subst hi
    refine (bothOk_items inner body h).bind fun is is' his => .ok ?_
    rw [his, assemble_translate]
    rfl

theorem bothOk_items : ∀ (scope : Scope) (body : List (Located Statement)),
    Statement.allOffsetFree body = true →
      BothOk (fun is is' => is' = is.map (·.translate d)) (items source missing scope body)
        (items source missing (scope.translate d) body)
  | _, [], _ => .ok rfl
  | scope, s :: rest, h => by
    obtain ⟨hs, hrest⟩ := (Bool.and_eq_true _ _).mp h
    rw [items, items]
    refine (bothOk_nodeItem scope s.node hs).bind fun first first' hfirst => ?_
    refine (bothOk_items scope rest hrest).bind fun more more' hmore => .ok ?_
    rw [hfirst, hmore, List.map_append]
    cases first <;> rfl

end

/-! ## A clause behind a block -/

theorem offset_of_withClauses {own : Option Filter} {inner : Scope} : ∀ {scope : Scope}
    (body : List (Located Statement)), Statement.allOffsetFree body = true →
      withClauses source scope own body = .ok inner → inner.offset = scope.offset
  | _, [], _, h => Except.ok.inj h ▸ rfl
  | _, ⟨_, .clause (.filter _)⟩ :: rest, hfree, h => by
    obtain ⟨_, -, h⟩ := bind_eq_ok.mp h
    exact offset_of_withClauses rest hfree h
  | _, ⟨_, .clause (.group _)⟩ :: rest, hfree, h => by
    obtain ⟨_, -, h⟩ := bind_eq_ok.mp h
    exact (offset_of_withClauses rest hfree h :)
  | _, ⟨_, .clause (.offset _)⟩ :: _, hfree, _ => nomatch hfree
  | _, ⟨_, .expr ..⟩ :: rest, hfree, h => offset_of_withClauses rest hfree h
  | _, ⟨_, .block _⟩ :: rest, hfree, h =>
    offset_of_withClauses rest ((Bool.and_eq_true _ _).mp hfree).2 h

/-- The last offset clause is the one that counts. -/
theorem withClauses_append_offset (start : List Char) (ms : Int) (own : Option Filter) :
    ∀ (scope : Scope) (body : List (Located Statement)),
      withClauses source scope own (body ++ [⟨start, .clause (.offset ms)⟩]) =
        ({ · with offset := ms }) <$> withClauses source scope own body
  | _, [] => rfl
  | scope, ⟨_, .clause (.filter labels)⟩ :: rest => by
    rw [List.cons_append, withClauses, withClauses]
    cases Filter.ofLabels source labels with
    | error e => rfl
    | ok f => exact withClauses_append_offset start ms _ scope rest
  | scope, ⟨_, .clause (.group args)⟩ :: rest => by
    rw [List.cons_append, withClauses, withClauses]
    cases Grouping.ofArgs source args with
    | error e => rfl
    | ok g => exact withClauses_append_offset start ms own _ rest
  | scope, ⟨_, .clause (.offset _)⟩ :: rest => withClauses_append_offset start ms own _ rest
  | scope, ⟨_, .expr ..⟩ :: rest | scope, ⟨_, .block _⟩ :: rest =>
    withClauses_append_offset start ms own scope rest

theorem items_append_clause (start : List Char) (c : Clause) (body : List (Located Statement)) :
    items source missing scope (body ++ [⟨start, .clause c⟩]) =
      items source missing scope body := by
  induction body with
  | nil => rfl
  | cons s rest ih => rw [List.cons_append, items, items, ih]

/-- A block that is followed by a clause for offsets `d` later than those around it. -/
theorem bothOk_nodes {outer : Scope} {body : List (Located Statement)}
    (hfree : Statement.allOffsetFree body = true) (start : List Char) :
    BothOk (fun ns ns' => ns' = Node.translateAll d ns) (nodes source missing outer body)
      (nodes source missing outer
        (body ++ [⟨start, .clause (.offset (outer.offset + d))⟩])) := by
  intro ns ns' h h'
  obtain ⟨inner, hinner, h⟩ := bind_eq_ok.mp h
  obtain ⟨is, his, h⟩ := bind_eq_ok.mp h
  obtain ⟨inner', hinner', h'⟩ := bind_eq_ok.mp h'
  obtain ⟨is', his', h'⟩ := bind_eq_ok.mp h'
  have hscope : inner' = inner.translate d := by
    rw [inside, withClauses_append_offset, ← inside, hinner] at hinner'
    rw [← Except.ok.inj hinner', ← offset_of_withClauses body hfree hinner]
    rfl
  rw [hscope, items_append_clause] at his'
  rw [← Except.ok.inj h, ← Except.ok.inj h', hscope,
    bothOk_items inner body hfree is is' his his', assemble_translate]

end Scope

/-! ## Queries -/

namespace Query

/-- **An offset clause moves the window of a query. Take statements without such a clause in any
block, and the same ones with an offset clause of `d` behind them, read from any texts. If both
compile, and no sum of offsets leaves 64 bits, then over a window the second query asks for what the
first one asks for over the window moved by `d`; and on the same series both fail with the same
error, or have outputs that agree one by one: equal raw ones, and computed ones with equal names,
fields and values.** -/
theorem offset_spec {source source' : List Char} {missing : String} {d : Int}
    {body body' : List (Located Statement)} (hfree : Statement.allOffsetFree body = true)
    (start : List Char) (hbody : Statement.unplacedAll body' =
      Statement.unplacedAll (body ++ [⟨start, .clause (.offset d)⟩]))
    {p q : Query Float} (hp : Scope.nodes source missing {} body = .ok p.nodes)
    (hq : Scope.nodes source' missing {} body' = .ok q.nodes) {w : Window}
    (hfits : Unclipped d w (q.moves w) (p.moves (w.shift d))) :
    q.queries w = p.queries (w.shift d) ∧
      ∀ xs : List (Series Float),
        Matches (List.Forall₂ Output.Agrees) (q.evaluate w xs) (p.evaluate (w.shift d) xs) := by
  have hmoved : q = p.translate d := by
    have hnodes : BothOk (fun ns ns' => ns' = Node.translateAll d ns)
        (Scope.nodes source missing {} body)
        (Scope.nodes source missing {} (body ++ [⟨start, .clause (.offset (0 + d))⟩])) :=
      Scope.bothOk_nodes hfree start
    rw [Int.zero_add] at hnodes
    exact congrArg Query.mk (hnodes _ _ hp (Scope.nodes_of_unplaced hq hbody.symm))
  subst hmoved
  obtain ⟨hqueries, houtputs⟩ := translate_eq hfits
  exact ⟨hqueries, fun xs => houtputs xs⟩

/-- A zip with a bracket and a literal in it, a grouping block and a raw event, an hour back. -/
theorem offset_spec_hour_back :
    let foo : Located Expr := ⟨[], .event "foo" []⟩
    let sum : Located Expr := ⟨[], .call "sum" [⟨[], .shift foo (.offset (-1000))⟩]⟩
    let body : List (Located Statement) :=
      [⟨[], .expr (some "x") ⟨[], .call "zipsum" [sum, ⟨[], .number 2⟩]⟩⟩,
        ⟨[], .block [⟨[], .expr (some "y") ⟨[], .call "avg" [foo]⟩⟩,
          ⟨[], .clause (.group { labels := ["size"] })⟩]⟩,
        ⟨[], .expr none ⟨[], .event "bar" []⟩⟩]
    let body' : List (Located Statement) := body ++ [⟨[], .clause (.offset (-3600000))⟩]
    let w : Window := ⟨7200000, 7320000, 60000⟩
    ∃ p q : Query Float, Statement.allOffsetFree body = true ∧
      Scope.nodes [] "" {} body = .ok p.nodes ∧ Scope.nodes [] "" {} body' = .ok q.nodes ∧
      Unclipped (-3600000) w (q.moves w) (p.moves (w.shift (-3600000))) ∧
      q.queries w = p.queries (w.shift (-3600000)) ∧
      ∀ xs : List (Series Float), Matches (List.Forall₂ Output.Agrees) (q.evaluate w xs)
        (p.evaluate (w.shift (-3600000)) xs) := by
  intro foo sum body body' w
  have hplain : (Scope.nodes [] "" {} body).toOption.any (fun ns =>
      Shift.AllFit ((⟨ns⟩ : Query Float).moves (w.shift (-3600000)))) = true := by
    decide +kernel
  have hmoved : (Scope.nodes [] "" {} body').toOption.any (fun ns =>
      Shift.AllFit ((⟨ns⟩ : Query Float).moves w)) = true := by
    decide +kernel
  obtain ⟨ns, hp, hplain⟩ := exists_of_toOption_any hplain
  obtain ⟨ns', hq, hmoved⟩ := exists_of_toOption_any hmoved
  have hfits : Unclipped (-3600000) w ((⟨ns'⟩ : Query Float).moves w)
      ((⟨ns⟩ : Query Float).moves (w.shift (-3600000))) :=
    ⟨by decide, of_decide_eq_true hmoved, of_decide_eq_true hplain⟩
  have hfree : Statement.allOffsetFree body = true := by decide
  have hspec := offset_spec (p := ⟨ns⟩) (q := ⟨ns'⟩) hfree [] rfl hp hq hfits
  exact ⟨⟨ns⟩, ⟨ns'⟩, hfree, hp, hq, hfits, hspec⟩

end Query

end SeriesQuery
