import SeriesQuery.Proofs.Except
import SeriesQuery.Proofs.Query.Reading
import SeriesQuery.Query.Resolve

/-!
# Steps of a compiled query

A bracket that sets a step says a positive one, so no request of a query that was compiled from text
is over a window without a positive step.

* `Shift.StepPositive`, `Agg.StepsPositive`, `Node.StepsPositive` : all steps that are set;
* `Agg.stepsPositive_shiftOffset?`, `Agg.stepsPositive_shiftStep` : brackets keep this;
* `Scope.agg_call_cases` : what a call compiles to;
* `Scope.stepsPositive_agg`, `Scope.stepsPositive_nodes` : so it holds of what is compiled;
* `Query.step_pos_of_mem_queries` : and of what is then asked for.
-/

namespace SeriesQuery

open Text (Located)

variable {α : Type}

/-! ## Shifts -/

/-- A step, if one is set, is positive. -/
def Shift.StepPositive (s : Shift) : Prop := ∀ step, s.step = some step → 0 < step

namespace Shift

theorem stepPositive_of_none {s : Shift} (h : s.step = none) : s.StepPositive := by
  intro step hs
  rw [h] at hs
  contradiction

theorem step_pos_apply {s : Shift} (h : s.StepPositive) {w : Window} (hw : 0 < w.step) :
    0 < (s.apply w).step := by
  unfold apply
  split
  · next step hs => exact h step hs
  · exact hw

theorem stepPositive_addOffset? {s t : Shift} {offset : Int} (h : s.StepPositive)
    (ht : s.addOffset? offset = some t) : t.StepPositive := by
  unfold addOffset? at ht
  obtain ⟨_, -, rfl⟩ := Option.map_eq_some_iff.mp ht
  exact h

theorem stepPositive_setStep (s : Shift) {step : Int} (h : 0 < step) :
    (s.setStep step).StepPositive :=
  fun _ hs => Option.some.inj hs ▸ h

end Shift

/-! ## Aggregates -/

namespace Agg

mutual

def StepsPositive : Agg α → Prop
  | .scan leaf _ => leaf.shift.StepPositive
  | .zip parts _ shift => shift.StepPositive ∧ AllStepsPositive parts
  | .collapse part _ => part.StepsPositive
  | .op x y _ => x.StepsPositive ∧ y.StepsPositive
  | .value .. => True

def AllStepsPositive : List (Agg α) → Prop
  | [] => True
  | part :: parts => part.StepsPositive ∧ AllStepsPositive parts

end

mutual

theorem step_pos_of_mem_queries : ∀ (a : Agg α) (w : Window), a.StepsPositive → 0 < w.step →
    ∀ p ∈ a.queries w, 0 < p.window.step
  | .scan leaf _, w, h, hw, p, hp => by
    rw [queries, List.mem_singleton] at hp
    rw [hp]
    exact Shift.step_pos_apply h hw
  | .zip parts _ shift, w, h, hw, p, hp =>
    step_pos_of_mem_queriesOf parts (shift.apply w) h.2 (Shift.step_pos_apply h.1 hw) p hp
  | .collapse part _, w, h, hw, p, hp => step_pos_of_mem_queries part w h hw p hp
  | .op x y _, w, h, hw, p, hp => by
    rw [queries, List.mem_append] at hp
    exact hp.elim (step_pos_of_mem_queries x w h.1 hw p) (step_pos_of_mem_queries y w h.2 hw p)
  | .value .., _, _, _, _, hp => nomatch hp

theorem step_pos_of_mem_queriesOf : ∀ (parts : List (Agg α)) (w : Window), AllStepsPositive parts →
    0 < w.step → ∀ p ∈ queriesOf parts w, 0 < p.window.step
  | [], _, _, _, _, hp => nomatch hp
  | part :: parts, w, h, hw, p, hp => by
    rw [queriesOf, List.mem_append] at hp
    exact hp.elim (step_pos_of_mem_queries part w h.1 hw p)
      (step_pos_of_mem_queriesOf parts w h.2 hw p)

end

theorem stepsPositive_shiftOffset? {offset : Int} : ∀ {a b : Agg α}, a.StepsPositive →
    a.shiftOffset? offset = some b → b.StepsPositive
  | .scan leaf f, b, h, hb => by
    obtain ⟨shift, hs, rfl⟩ := Option.map_eq_some_iff.mp hb
    exact Shift.stepPositive_addOffset? h hs
  | .zip parts f shift, b, h, hb => by
    obtain ⟨shift', hs, rfl⟩ := Option.map_eq_some_iff.mp hb
    exact ⟨Shift.stepPositive_addOffset? h.1 hs, h.2⟩
  | .collapse part f, b, h, hb => by
    obtain ⟨part', hp, rfl⟩ := Option.map_eq_some_iff.mp hb
    exact stepsPositive_shiftOffset? (a := part) (b := part') h hp
  | .op x y f, b, h, hb => by
    obtain ⟨x', hx, hb⟩ := Option.bind_eq_some_iff.mp hb
    obtain ⟨y', hy, hb⟩ := Option.bind_eq_some_iff.mp hb
    rw [← Option.some.inj hb]
    exact ⟨stepsPositive_shiftOffset? h.1 hx, stepsPositive_shiftOffset? h.2 hy⟩
  | .value v shift, b, _, hb => by
    obtain ⟨shift', -, rfl⟩ := Option.map_eq_some_iff.mp hb
    exact trivial

theorem stepsPositive_shiftStep {step : Int} (hstep : 0 < step) : ∀ {a : Agg α}, a.StepsPositive →
    (a.shiftStep step).StepsPositive
  | .scan leaf _, _ => leaf.shift.stepPositive_setStep hstep
  | .zip _ _ shift, h => ⟨shift.stepPositive_setStep hstep, h.2⟩
  | .collapse part _, h => stepsPositive_shiftStep hstep (a := part) h
  | .op _ _ _, h => ⟨stepsPositive_shiftStep hstep h.1, stepsPositive_shiftStep hstep h.2⟩
  | .value .., _ => trivial

end Agg

/-! ## Nodes -/

def Group.StepsPositive (g : Group α) : Prop := ∀ n ∈ g.nodes, n.agg.StepsPositive

namespace Node

mutual

def StepsPositive : Node α → Prop
  | .scan leaf => leaf.shift.StepPositive
  | .group g => g.StepsPositive
  | .block nodes => AllStepsPositive nodes

def AllStepsPositive : List (Node α) → Prop
  | [] => True
  | node :: nodes => node.StepsPositive ∧ AllStepsPositive nodes

end

mutual

theorem step_pos_of_mem_queries : ∀ (node : Node α) (w : Window), node.StepsPositive → 0 < w.step →
    ∀ p ∈ node.queries w, 0 < p.window.step
  | .scan leaf, w, h, hw, p, hp => by
    rw [queries, List.mem_singleton] at hp
    rw [hp]
    exact Shift.step_pos_apply h hw
  | .group g, w, h, hw, p, hp => by
    obtain ⟨n, hn, hp⟩ := List.mem_flatMap.mp hp
    exact n.agg.step_pos_of_mem_queries w (h n hn) hw p hp
  | .block nodes, w, h, hw, p, hp => step_pos_of_mem_queriesOf nodes w h hw p hp

theorem step_pos_of_mem_queriesOf : ∀ (nodes : List (Node α)) (w : Window), AllStepsPositive nodes →
    0 < w.step → ∀ p ∈ queriesOf nodes w, 0 < p.window.step
  | [], _, _, _, _, hp => nomatch hp
  | node :: nodes, w, h, hw, p, hp => by
    rw [queriesOf, List.mem_append] at hp
    exact hp.elim (step_pos_of_mem_queries node w h.1 hw p)
      (step_pos_of_mem_queriesOf nodes w h.2 hw p)

end

theorem allStepsPositive_iff {nodes : List (Node α)} :
    AllStepsPositive nodes ↔ ∀ node ∈ nodes, node.StepsPositive := by
  induction nodes with
  | nil => exact ⟨fun _ _ h => absurd h List.not_mem_nil, fun _ => trivial⟩
  | cons node nodes ih => rw [AllStepsPositive, ih, List.forall_mem_cons]

end Node

/-! ## Compiling -/

namespace Scope

variable {source : List Char}

theorem stepPositive_leaf {scope : Scope} {event : String} {labels : List LabelMatch} {leaf : Leaf}
    (h : Scope.leaf source scope event labels = .ok leaf) : leaf.shift.StepPositive := by
  obtain ⟨own, -, h⟩ := bind_eq_ok.mp h
  exact Except.ok.inj h ▸ Shift.stepPositive_of_none rfl

theorem eq_some_of_orOutOfRange {start : List Char} {e : Expr} {o : Option α} {a : α}
    (h : orOutOfRange source start e o = .ok a) : o = some a := by
  cases o with
  | none => contradiction
  | some b => exact congrArg some (Except.ok.inj h)

/-- All that a call can compile to. -/
theorem agg_call_cases {scope : Scope} {start : List Char} {name : String}
    {args : List (Located Expr)} {a : Agg Float}
    (h : agg source scope start (.call name args) = .ok a) :
    (∃ arg leaf f, CallKind.ofName? name = some (.plain f) ∧ args = [arg] ∧
      bareLeaf source scope arg.start arg.node = .ok (some leaf) ∧ a = .scan leaf f) ∨
    (∃ parts f, CallKind.ofName? name = some (.zip f) ∧ aggs source scope args = .ok parts ∧
      a = .zip parts f {}) ∨
    (∃ arg part f, CallKind.ofName? name = some (.collapse f) ∧ args = [arg] ∧
      agg source scope arg.start arg.node = .ok part ∧ a = .collapse part f) := by
  unfold agg at h
  split at h
  · next f arg hkind =>
    obtain ⟨o, ho, h⟩ := bind_eq_ok.mp h
    cases o with
    | none => contradiction
    | some leaf => exact .inl ⟨arg, leaf, f, hkind, rfl, ho, (Except.ok.inj h).symm⟩
  · contradiction
  · contradiction
  · next f hkind _ =>
    obtain ⟨parts, hparts, h⟩ := bind_eq_ok.mp h
    exact .inr (.inl ⟨parts, f, hkind, hparts, (Except.ok.inj h).symm⟩)
  · next f arg hkind =>
    obtain ⟨part, hpart, h⟩ := bind_eq_ok.mp h
    exact .inr (.inr ⟨arg, part, f, hkind, rfl, hpart, (Except.ok.inj h).symm⟩)
  · contradiction
  · contradiction

theorem stepPositive_bareLeaf {scope : Scope} : ∀ {start : List Char} {e : Expr} {leaf : Leaf},
    e.InRange → bareLeaf source scope start e = .ok (some leaf) → leaf.shift.StepPositive
  | _, .event .., _, _, h => by
    obtain ⟨leaf, hleaf, h⟩ := map_eq_ok.mp h
    exact Option.some.inj h ▸ stepPositive_leaf hleaf
  | _, .paren e, _, he, h => stepPositive_bareLeaf (e := e.node) he h
  | start, .shift e bracket, leaf, he, h => by
    obtain ⟨inner, hinner, h⟩ := bind_eq_ok.mp h
    cases inner with
    | none => exact absurd (Except.ok.inj h) nofun
    | some inner =>
      have hpos := stepPositive_bareLeaf (e := e.node) he.1 hinner
      cases bracket with
      | offset ms =>
        obtain ⟨shift, hshift, h⟩ := bind_eq_ok.mp h
        rw [← Option.some.inj (Except.ok.inj h)]
        exact Shift.stepPositive_addOffset? hpos (eq_some_of_orOutOfRange hshift)
      | step ms =>
        rw [← Option.some.inj (Except.ok.inj h)]
        exact inner.shift.stepPositive_setStep he.2.1
  | _, .number _, _, _, h | _, .call .., _, _, h | _, .binary .., _, _, h => by
    exact absurd (Except.ok.inj h) nofun

theorem allStepsPositive_aggs {scope : Scope} {es : List (Located Expr)} {parts : List (Agg Float)}
    (he : ∀ e ∈ es, ∀ a, agg source scope e.start e.node = .ok a → a.StepsPositive)
    (h : aggs source scope es = .ok parts) : Agg.AllStepsPositive parts := by
  induction es generalizing parts with
  | nil => exact Except.ok.inj h ▸ trivial
  | cons e es ih =>
    obtain ⟨hfirst, hrest⟩ := List.forall_mem_cons.mp he
    obtain ⟨x, hx, h⟩ := bind_eq_ok.mp h
    obtain ⟨xs, hxs, h⟩ := bind_eq_ok.mp h
    rw [← Except.ok.inj h]
    exact ⟨hfirst x hx, ih hrest hxs⟩

mutual

theorem stepsPositive_agg {scope : Scope} : ∀ {start : List Char} (e : Expr) {a : Agg Float},
    e.InRange → agg source scope start e = .ok a → a.StepsPositive
  | _, .event .., _, _, h => by
    obtain ⟨leaf, hleaf, h⟩ := bind_eq_ok.mp h
    exact Except.ok.inj h ▸ stepPositive_leaf hleaf
  | _, .number _, _, _, h => Except.ok.inj h ▸ trivial
  | _, .paren e, _, he, h => stepsPositive_agg e.node he h
  | _, .binary op lhs rhs, _, he, h => by
    obtain ⟨x, hx, h⟩ := bind_eq_ok.mp h
    obtain ⟨y, hy, h⟩ := bind_eq_ok.mp h
    rw [← Except.ok.inj h]
    exact ⟨stepsPositive_agg lhs.node he.1 hx, stepsPositive_agg rhs.node he.2 hy⟩
  | start, .shift e bracket, _, he, h => by
    obtain ⟨part, hpart, h⟩ := bind_eq_ok.mp h
    have hpos := stepsPositive_agg e.node he.1 hpart
    cases bracket with
    | offset ms => exact Agg.stepsPositive_shiftOffset? hpos (eq_some_of_orOutOfRange h)
    | step ms => exact Except.ok.inj h ▸ Agg.stepsPositive_shiftStep he.2.1 hpos
  | start, .call name args, a, he, h => by
    have hargs : ∀ e ∈ args, ∀ a, agg source scope e.start e.node = .ok a → a.StepsPositive :=
      stepsPositive_args args he
    rcases agg_call_cases h with ⟨arg, leaf, f, -, rfl, hleaf, rfl⟩ | ⟨parts, f, -, hparts, rfl⟩ |
      ⟨arg, part, f, -, rfl, hpart, rfl⟩
    · exact stepPositive_bareLeaf he.1 hleaf
    · exact ⟨Shift.stepPositive_of_none rfl, allStepsPositive_aggs hargs hparts⟩
    · exact hargs arg (List.mem_singleton_self arg) part hpart

theorem stepsPositive_args {scope : Scope} : ∀ es : List (Located Expr), Expr.AllInRange es →
    ∀ e ∈ es, ∀ a, agg source scope e.start e.node = .ok a → a.StepsPositive
  | [], _, _, h, _, _ => nomatch h
  | e :: es, he, x, hx, a, ha => by
    rcases List.mem_cons.mp hx with h | h
    · rw [h] at ha
      exact stepsPositive_agg e.node he.1 ha
    · exact stepsPositive_args es he.2 x h a ha

end

/-! ### Blocks -/

def Item.StepsPositive : Item → Prop
  | .node n => n.StepsPositive
  | .named n => n.agg.StepsPositive

theorem stepsPositive_item {scope : Scope} {name : Option String} {e : Located Expr} {i : Item}
    (he : e.node.InRange) (h : item source scope name e = .ok i) : i.StepsPositive := by
  have hnamed : ∀ {i : Item},
      (do return .named ⟨name.getD e.node.text, ← agg source scope e.start e.node⟩ :
        Except QueryError Item) = .ok i → i.StepsPositive := by
    intro i h
    obtain ⟨a, ha, h⟩ := bind_eq_ok.mp h
    exact Except.ok.inj h ▸ stepsPositive_agg e.node he ha
  unfold item at h
  split at h
  · obtain ⟨leaf, hleaf, h⟩ := bind_eq_ok.mp h
    cases leaf with
    | none => exact hnamed h
    | some leaf => exact Except.ok.inj h ▸ stepPositive_bareLeaf he hleaf
  · exact hnamed h

theorem stepsPositive_assemble {missing : String} {scope : Scope} {items : List Item}
    (h : ∀ i ∈ items, i.StepsPositive) :
    Node.AllStepsPositive (assemble missing scope items) := by
  have hnode : ∀ items : List Item, (∀ i ∈ items, i.StepsPositive) →
      ∀ n ∈ items.filterMap Item.node?, n.StepsPositive := by
    intro items h n hn
    obtain ⟨i, hi, hin⟩ := List.mem_filterMap.mp hn
    have hpos := h i hi
    cases i with
    | node m => exact Option.some.inj hin ▸ hpos
    | named m => contradiction
  have hgroup : (scope.group missing (items.filterMap Item.named?)).StepsPositive := by
    intro n hn
    obtain ⟨i, hi, hin⟩ := List.mem_filterMap.mp hn
    have hpos := h i hi
    cases i with
    | node m => contradiction
    | named m => exact Option.some.inj hin ▸ hpos
  unfold assemble
  generalize scope.group missing (items.filterMap Item.named?) = g at hgroup
  induction items with
  | nil => exact trivial
  | cons i items ih =>
    obtain ⟨hi, hitems⟩ := List.forall_mem_cons.mp h
    cases i with
    | node n => exact ⟨hi, ih hitems⟩
    | named n => exact ⟨hgroup, Node.allStepsPositive_iff.mpr (hnode items hitems)⟩

mutual

theorem stepsPositive_nodeItem {missing : String} : ∀ {scope : Scope} (s : Statement)
    {o : Option Item}, s.InRange → nodeItem source missing scope s = .ok o →
      ∀ i ∈ o, i.StepsPositive
  | _, .clause _, _, _, h, i, hi => by
    rw [← Except.ok.inj h] at hi
    contradiction
  | _, .expr name e, _, hs, h, i, hi => by
    obtain ⟨j, hj, rfl⟩ := map_eq_ok.mp h
    exact Option.some.inj hi ▸ stepsPositive_item hs hj
  | _, .block body, _, hs, h, i, hi => by
    obtain ⟨inner, -, h⟩ := bind_eq_ok.mp h
    obtain ⟨is, his, h⟩ := bind_eq_ok.mp h
    rw [← Except.ok.inj h] at hi
    rw [← Option.some.inj hi]
    exact stepsPositive_assemble (stepsPositive_items body hs his)

theorem stepsPositive_items {missing : String} : ∀ {scope : Scope} (body : List (Located Statement))
    {is : List Item}, Statement.AllInRange body → items source missing scope body = .ok is →
      ∀ i ∈ is, i.StepsPositive
  | _, [], _, _, h, i, hi => by
    rw [← Except.ok.inj h] at hi
    contradiction
  | _, s :: rest, _, hs, h, i, hi => by
    obtain ⟨first, hfirst, h⟩ := bind_eq_ok.mp h
    obtain ⟨more, hmore, h⟩ := bind_eq_ok.mp h
    rw [← Except.ok.inj h, List.mem_append, Option.mem_toList] at hi
    exact hi.elim (stepsPositive_nodeItem s.node hs.1 hfirst i)
      (stepsPositive_items rest hs.2 hmore i)

end

theorem stepsPositive_nodes {missing : String} {outer : Scope} {body : List (Located Statement)}
    {ns : List (Node Float)} (hbody : Statement.AllInRange body)
    (h : nodes source missing outer body = .ok ns) : Node.AllStepsPositive ns := by
  obtain ⟨inner, -, h⟩ := bind_eq_ok.mp h
  obtain ⟨is, his, h⟩ := bind_eq_ok.mp h
  rw [← Except.ok.inj h]
  exact stepsPositive_assemble (stepsPositive_items body hbody his)

end Scope

/-! ## Requests -/

/-- **A query compiled from text asks only for positive steps over a window with one.** -/
theorem Query.step_pos_of_mem_queries {source missing : String} {q : Query Float}
    (h : Query.ofText source missing = .ok q) {w : Window} (hw : 0 < w.step) {p : ScanQuery}
    (hp : p ∈ q.queries w) : 0 < p.window.step := by
  obtain ⟨body, hbody, h⟩ := bind_eq_ok.mp h
  obtain ⟨ns, hns, h⟩ := bind_eq_ok.mp h
  rw [← Except.ok.inj h] at hp
  have hpos := Scope.stepsPositive_nodes (Statement.allInRange_of_ofText hbody) hns
  exact Node.step_pos_of_mem_queriesOf ns w hpos hw p hp

end SeriesQuery
