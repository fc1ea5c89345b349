import SeriesQuery.Proofs.Filters
import SeriesQuery.Proofs.Query.Forms
import SeriesQuery.Proofs.Query.Gathering
import SeriesQuery.Proofs.Query.Steps

/-!
# What events refer to

An event in a query refers to the series of its name that satisfy the conditions written with it and
those of the filters around it. Each leaf of a compiled query is there for one event.

* `Reference`, `Reference.Admits` : an event with all conditions it stands under, and its series;
* `Statement.filtersIn` : the filters of a block are its own, or those around it if it has none;
* `Expr.references`, `Statement.references` : the events of an expression and of a query, in the
  order of the leaves;
* `Agg.leaves`, `Query.leaves` : the leaves, in tree order;
* `Filter.Tracks`, `Leaf.Refers` : how filters go with conditions, and leaves with events then;
* `Scope.refers_agg`, `Scope.refers_nodes` : what an expression and what a block compile to;
* `Filter.Means` : a filter for these conditions and no others;
* `Query.references_spec` : the series that each leaf of a query accepts.
-/

namespace SeriesQuery

open Text (Located)

variable {α : Type}

/-! ## Events -/

/-- An event in a query, with the conditions of its own and of the filters around it. -/
structure Reference where
  event : String
  conditions : List LabelMatch
deriving DecidableEq

/-- All conditions have to hold, also several for one label. `found` says which patterns are found
in which values. -/
def Reference.Admits (found : String → String → Bool) (r : Reference) (s : Series α) : Prop :=
  s.event = r.event ∧ ∀ m ∈ r.conditions, m.Satisfied found s.fields

namespace Expr

/-- The events in an expression that stands under the conditions `filters`. -/
def references (filters : List LabelMatch) (e : Expr) : List Reference :=
  e.parts.filterMap fun
    | .event name labels => some ⟨name, labels ++ filters⟩
    | _ => none

theorem references_call (filters : List LabelMatch) (name : String) (args : List (Located Expr)) :
    (call name args).references filters = args.flatMap (·.node.references filters) := by
  have hparts : (call name args).references filters = (partsOf args).filterMap _ := rfl
  rw [hparts, partsOf_eq, List.filterMap_flatMap]
  rfl

theorem references_binary (filters : List LabelMatch) (op : Merger) (lhs rhs : Located Expr) :
    (binary op lhs rhs).references filters =
      lhs.node.references filters ++ rhs.node.references filters :=
  List.filterMap_append

end Expr

/-! ## Blocks -/

def Clause.labels : Clause → List LabelMatch
  | .filter labels => labels
  | _ => []

namespace Statement

/-- The conditions that a block stands under: of all its filters, or of those around it. -/
def filtersIn (filters : List LabelMatch) (body : List (Located Statement)) : List LabelMatch :=
  match clausesOf .filter body with
  | [] => filters
  | cs => cs.flatMap Clause.labels

mutual

/-- The events of a statement. Without a grouping, bare events that have no name are not grouped. -/
def runs (filters : List LabelMatch) (grouped : Bool) : Statement → List (Run Reference)
  | .clause _ => []
  | .expr name e => [⟨grouped || name.isSome || !e.node.isBare, e.node.references filters⟩]
  | .block body =>
    [⟨false, Run.gathered (runsOf (filtersIn filters body) (groupedIn grouped body) body)⟩]

def runsOf (filters : List LabelMatch) (grouped : Bool) :
    List (Located Statement) → List (Run Reference)
  | [] => []
  | s :: rest => s.node.runs filters grouped ++ runsOf filters grouped rest

end

/-- The events of a query, in the order of the leaves that they compile to. -/
def references (body : List (Located Statement)) : List Reference :=
  Run.gathered (runsOf (filtersIn [] body) (groupedIn false body) body)

/-- Events under the conditions of the blocks around them. -/
def events : Outline (List LabelMatch) Reference :=
  ⟨filtersIn, fun filters e => e.references filters⟩

mutual

theorem runs_eq : ∀ (s : Statement) (filters : List LabelMatch) (grouped : Bool),
    s.runs filters grouped = s.outlined events filters grouped
  | .clause _, _, _ | .expr .., _, _ => rfl
  | .block body, _, _ => by
    rw [runs, outlined, runsOf_eq]
    rfl

theorem runsOf_eq : ∀ (body : List (Located Statement)) (filters : List LabelMatch)
    (grouped : Bool), runsOf filters grouped body = outlinedOf events filters grouped body
  | [], _, _ => rfl
  | s :: rest, _, _ => by rw [runsOf, outlinedOf, runs_eq, runsOf_eq]

end

theorem references_eq (body : List (Located Statement)) :
    references body = outline events [] false body := by
  rw [references, runsOf_eq]
  rfl

end Statement

/-! ## Leaves -/

/-- Whether a series belongs to the leaf, if `found` says which patterns are found in which
values. -/
def Leaf.acceptsWith (found : String → String → Bool) (leaf : Leaf) (s : Series α) : Bool :=
  s.event = leaf.event && leaf.filter.acceptsWith found s.fields

theorem Leaf.acceptsWith_finds (leaf : Leaf) (s : Series α) :
    leaf.acceptsWith Regexp.finds s = leaf.accepts s := by
  rw [acceptsWith, Filter.acceptsWith_finds, accepts]

namespace Agg

mutual

def leaves : Agg α → List Leaf
  | .scan leaf _ => [leaf]
  | .zip parts _ _ => leavesOf parts
  | .collapse part _ => part.leaves
  | .op x y _ => x.leaves ++ y.leaves
  | .value .. => []

def leavesOf : List (Agg α) → List Leaf
  | [] => []
  | part :: parts => part.leaves ++ leavesOf parts

end

end Agg

namespace Node

mutual

def leaves : Node α → List Leaf
  | .scan leaf => [leaf]
  | .group g => g.nodes.flatMap (·.agg.leaves)
  | .block nodes => leavesOf nodes

def leavesOf : List (Node α) → List Leaf
  | [] => []
  | node :: nodes => node.leaves ++ leavesOf nodes

end

end Node

def Leaf.gatherer : Gatherer Leaf := ⟨fun leaf => [leaf], Agg.leaves⟩

namespace Node

mutual

theorem leaves_eq : ∀ node : Node Float, node.leaves = node.gather Leaf.gatherer
  | .scan _ | .group _ => rfl
  | .block nodes => by rw [leaves, gather, leavesOf_eq nodes]

theorem leavesOf_eq : ∀ nodes : List (Node Float), leavesOf nodes = gatherOf Leaf.gatherer nodes
  | [] => rfl
  | node :: nodes => by rw [leavesOf, gatherOf, leaves_eq node, leavesOf_eq nodes]

end

end Node

/-- All leaves of a query, in tree order. -/
def Query.leaves (q : Query α) : List Leaf := Node.leavesOf q.nodes

/-! ## From filters to leaves -/

/-- `M` relates filters to conditions, and goes on to when filters are put together. -/
structure Filter.Tracks (source : List Char) (M : Filter → List LabelMatch → Prop) : Prop where
  empty : M empty []
  and : ∀ {f g : Filter} {conditions more : List LabelMatch}, M f conditions → M g more →
    M (f.and g) (conditions ++ more)
  ofLabels : ∀ {labels : List LabelMatch} {f : Filter}, ofLabels source labels = .ok f → M f labels

/-- The leaf is for the event, with a filter for its conditions, over whatever window. -/
structure Leaf.Refers (M : Filter → List LabelMatch → Prop) (r : Reference) (leaf : Leaf) :
    Prop where
  event : leaf.event = r.event
  filter : M leaf.filter r.conditions

namespace Agg

/-- What the leaves read, whatever the window. -/
def reads (a : Agg α) : List (String × Filter) := a.leaves.map fun leaf => (leaf.event, leaf.filter)

theorem reads_op (x y : Agg α) (f : Merger) : (op x y f).reads = x.reads ++ y.reads :=
  List.map_append

/-- Brackets move leaves, which read the same then. -/
theorem reads_shiftOffset? {offset : Int} : ∀ {a b : Agg α}, a.shiftOffset? offset = some b →
    b.reads = a.reads
  | .scan .., _, h | .zip .., _, h | .value .., _, h => by
    obtain ⟨_, -, rfl⟩ := Option.map_eq_some_iff.mp h
    rfl
  | .collapse part f, _, h => by
    obtain ⟨part', hpart, rfl⟩ := Option.map_eq_some_iff.mp h
    exact reads_shiftOffset? (a := part) (b := part') hpart
  | .op x y f, _, h => by
    obtain ⟨x', hx, h⟩ := Option.bind_eq_some_iff.mp h
    obtain ⟨y', hy, h⟩ := Option.bind_eq_some_iff.mp h
    rw [← Option.some.inj h, reads_op, reads_op, reads_shiftOffset? hx, reads_shiftOffset? hy]

theorem reads_shiftStep (step : Int) : ∀ a : Agg α, (a.shiftStep step).reads = a.reads
  | .scan .. | .zip .. | .value .. => rfl
  | .collapse part _ => reads_shiftStep step part
  | .op x y _ => by
    rw [shiftStep, reads_op, reads_op, reads_shiftStep step x, reads_shiftStep step y]

theorem refers_of_reads_eq {M : Filter → List LabelMatch → Prop} {a b : Agg α}
    (h : b.reads = a.reads) {rs : List Reference} (ha : List.Forall₂ (Leaf.Refers M) rs a.leaves) :
    List.Forall₂ (Leaf.Refers M) rs b.leaves := by
  refine forall₂_of_map_eq (fun r l l' hl hrefers => ?_) ha h
  obtain ⟨hevent, hfilter⟩ := Prod.mk.inj hl
  exact ⟨hevent ▸ hrefers.event, hfilter ▸ hrefers.filter⟩

end Agg

namespace Scope

open Statement

variable {source : List Char} {missing : String} {M : Filter → List LabelMatch → Prop}

/-! ## Filters of a block -/

theorem tracks_filterOf (hM : Filter.Tracks source M) {f : Option Filter} : ∀ (cs : List Clause)
    {own : Filter} {conditions : List LabelMatch}, filterOf source (some own) cs = .ok f →
      M own conditions → ∃ g, f = some g ∧ M g (conditions ++ cs.flatMap Clause.labels)
  | [], own, conditions, h, hown => by
    refine ⟨own, (Except.ok.inj h).symm, ?_⟩
    rwa [List.flatMap_nil, List.append_nil]
  | .filter labels :: cs, own, conditions, h, hown => by
    obtain ⟨g, hg, h⟩ := bind_eq_ok.mp h
    obtain ⟨f', hf', htracks⟩ := tracks_filterOf hM _ h (hM.and hown (hM.ofLabels hg))
    refine ⟨f', hf', ?_⟩
    rwa [List.flatMap_cons, ← List.append_assoc]
  | .group _ :: cs, _, _, h, hown | .offset _ :: cs, _, _, h, hown =>
    tracks_filterOf hM cs h hown

theorem tracks_inside (hM : Filter.Tracks source M) {outer inner : Scope}
    {body : List (Located Statement)} (h : outer.inside source body = .ok inner)
    {filters : List LabelMatch} (houter : M outer.filter filters) :
    M inner.filter (filtersIn filters body) := by
  obtain ⟨f, g, hf, -, rfl⟩ := inside_eq_ok.mp h
  unfold filtersIn
  cases hcs : clausesOf .filter body with
  | nil =>
    rw [hcs] at hf
    rw [← Except.ok.inj hf]
    exact houter
  | cons c cs =>
    have hkind : c.kind = .filter := kind_of_mem_clausesOf (hcs ▸ List.mem_cons_self)
    rw [hcs] at hf
    cases c with
    | filter labels =>
      obtain ⟨own, hown, hf⟩ := bind_eq_ok.mp hf
      obtain ⟨g, rfl, hg⟩ := tracks_filterOf hM _ hf (hM.ofLabels hown)
      exact hg
    | group _ => contradiction
    | offset _ => contradiction

/-! ## Leaves of an expression -/

section

variable {scope : Scope} {filters : List LabelMatch}

theorem refers_leaf (hM : Filter.Tracks source M) (hscope : M scope.filter filters)
    {event : String} {labels : List LabelMatch} {leaf : Leaf}
    (h : Scope.leaf source scope event labels = .ok leaf) :
    leaf.Refers M ⟨event, labels ++ filters⟩ := by
  obtain ⟨own, hown, h⟩ := bind_eq_ok.mp h
  rw [← Except.ok.inj h]
  exact ⟨rfl, hM.and (hM.ofLabels hown) hscope⟩

theorem refers_bareLeaf (hM : Filter.Tracks source M) (hscope : M scope.filter filters) :
    ∀ {start : List Char} (e : Expr) {leaf : Leaf},
    bareLeaf source scope start e = .ok (some leaf) →
      ∃ r, e.references filters = [r] ∧ leaf.Refers M r
  | _, .event name labels, _, h => by
    obtain ⟨leaf, hleaf, h⟩ := map_eq_ok.mp h
    exact ⟨_, rfl, Option.some.inj h ▸ refers_leaf hM hscope hleaf⟩
  | _, .paren e, _, h => refers_bareLeaf hM hscope e.node h
  | start, .shift e bracket, _, h => by
    obtain ⟨inner, hinner, h⟩ := bind_eq_ok.mp h
    cases inner with
    | none => exact absurd (Except.ok.inj h) nofun
    | some leaf =>
      obtain ⟨r, hr, hleaf⟩ := refers_bareLeaf hM hscope e.node hinner
      have hmoved (shift : Shift) : { leaf with shift }.Refers M r := ⟨hleaf.event, hleaf.filter⟩
      cases bracket with
      | offset ms =>
        obtain ⟨shift, -, h⟩ := bind_eq_ok.mp h
        exact ⟨r, hr, Option.some.inj (Except.ok.inj h) ▸ hmoved shift⟩
      | step ms => exact ⟨r, hr, Option.some.inj (Except.ok.inj h) ▸ hmoved _⟩
  | _, .number _, _, h | _, .call .., _, h | _, .binary .., _, h =>
    absurd (Except.ok.inj h) nofun

mutual

theorem refers_agg (hM : Filter.Tracks source M) (hscope : M scope.filter filters) :
    ∀ {start : List Char} (e : Expr) {a : Agg Float}, agg source scope start e = .ok a →
      List.Forall₂ (Leaf.Refers M) (e.references filters) a.leaves
  | _, .event .., _, h => by
    obtain ⟨leaf, hleaf, h⟩ := bind_eq_ok.mp h
    rw [← Except.ok.inj h]
    exact .cons (refers_leaf hM hscope hleaf) .nil
  | _, .number _, _, h => by
    rw [← Except.ok.inj h]
    exact .nil
  | _, .paren e, _, h => refers_agg hM hscope e.node h
  | _, .binary op lhs rhs, _, h => by
    obtain ⟨x, hx, h⟩ := bind_eq_ok.mp h
    obtain ⟨y, hy, h⟩ := bind_eq_ok.mp h
    rw [← Except.ok.inj h, Expr.references_binary]
    exact List.rel_append (refers_agg hM hscope lhs.node hx) (refers_agg hM hscope rhs.node hy)
  | start, .shift e bracket, _, h => by
    obtain ⟨part, hpart, h⟩ := bind_eq_ok.mp h
    have hrefers := refers_agg hM hscope e.node hpart
    cases bracket with
    | offset ms =>
      exact Agg.refers_of_reads_eq (Agg.reads_shiftOffset? (eq_some_of_orOutOfRange h)) hrefers
    | step ms =>
      rw [← Except.ok.inj h]
      exact Agg.refers_of_reads_eq (Agg.reads_shiftStep ms part) hrefers
  | start, .call name args, a, h => by
    have hargs : ∀ {parts : List (Agg Float)}, aggs source scope args = .ok parts →
        List.Forall₂ (Leaf.Refers M) ((Expr.call name args).references filters)
          (Agg.leavesOf parts) := by
      intro parts h
      rw [Expr.references_call]
      exact refers_aggs hM hscope args h
    rcases agg_call_cases h with ⟨arg, leaf, f, -, rfl, hleaf, rfl⟩ | ⟨parts, f, -, hparts, rfl⟩ |
      ⟨arg, part, f, -, rfl, hpart, rfl⟩
    · obtain ⟨r, hr, hrefers⟩ := refers_bareLeaf hM hscope arg.node hleaf
      rw [Expr.references_call, List.flatMap_singleton, hr]
      exact .cons hrefers .nil
    · exact hargs hparts
    · have hparts : aggs source scope [arg] = .ok [part] := by
        rw [aggs, hpart]
        rfl
      have hrefers := hargs hparts
      rwa [Agg.leavesOf, Agg.leavesOf, List.append_nil] at hrefers

theorem refers_aggs (hM : Filter.Tracks source M) (hscope : M scope.filter filters) :
    ∀ (es : List (Located Expr)) {parts : List (Agg Float)}, aggs source scope es = .ok parts →
      List.Forall₂ (Leaf.Refers M) (es.flatMap (·.node.references filters)) (Agg.leavesOf parts)
  | [], _, h => by
    rw [← Except.ok.inj h]
    exact .nil
  | e :: es, _, h => by
    obtain ⟨x, hx, h⟩ := bind_eq_ok.mp h
    obtain ⟨xs, hxs, h⟩ := bind_eq_ok.mp h
    rw [← Except.ok.inj h, List.flatMap_cons]
    exact List.rel_append (refers_agg hM hscope e.node hx) (refers_aggs hM hscope es hxs)

end

end

/-! ## Leaves of a block -/

theorem refers_nodes (hM : Filter.Tracks source M) {body : List (Located Statement)}
    {ns : List (Node Float)}
    (h : nodes source missing {} body = .ok ns) :
    List.Forall₂ (Leaf.Refers M) (references body) (Node.leavesOf ns) := by
  have hdescribes : events.Describes source Leaf.gatherer
      (fun filters scope => M scope.filter filters) (Leaf.Refers M) fun _ => True :=
    { block := fun _ _ _ => trivial
      inside := fun _ hk h => tracks_inside hM h hk
      leaf := fun hk h => by
        obtain ⟨r, hr, hleaf⟩ := refers_bareLeaf hM hk _ h
        exact (congrArg (List.Forall₂ _ · _) hr).mpr (.cons hleaf .nil)
      agg := fun hk h => refers_agg hM hk _ h }
  rw [references_eq, Node.leavesOf_eq]
  exact hdescribes.nodes (fun _ _ => trivial) hM.empty h

end Scope

/-- The leaves of a query are those of the events in its text, one for each. -/
theorem Query.refers_leaves {source missing : String} {q : Query Float}
    (h : Query.ofText source missing = .ok q) {M : Filter → List LabelMatch → Prop}
    (hM : Filter.Tracks source.toList M) :
    ∃ body, Statement.ofText source = .ok body ∧
      List.Forall₂ (Leaf.Refers M) (Statement.references body) q.leaves := by
  obtain ⟨body, hbody, h⟩ := bind_eq_ok.mp h
  obtain ⟨ns, hns, h⟩ := bind_eq_ok.mp h
  exact ⟨body, hbody, Except.ok.inj h ▸ Scope.refers_nodes hM hns⟩

/-! ## Meanings -/

/-- The filter asks for all of these conditions and for nothing else. -/
def Filter.Means (f : Filter) (conditions : List LabelMatch) : Prop :=
  ∀ (found : String → String → Bool) (fields : Fields),
    f.acceptsWith found fields = true ↔ ∀ m ∈ conditions, m.Satisfied found fields

theorem Filter.tracks_means (source : List Char) : Tracks source Means where
  empty := fun _ _ => ⟨fun _ => List.forall_mem_nil _, fun _ => rfl⟩
  and hf hg := by
    intro found fields
    rw [acceptsWith_and, Bool.and_eq_true, hf found fields, hg found fields, List.forall_mem_append]
  ofLabels h := fun _ _ => acceptsWith_ofLabels h

theorem Leaf.Refers.acceptsWith_iff {r : Reference} {leaf : Leaf} (h : leaf.Refers Filter.Means r)
    (found : String → String → Bool) (s : Series α) :
    leaf.acceptsWith found s = true ↔ r.Admits found s := by
  rw [acceptsWith, Bool.and_eq_true, decide_eq_true_eq, h.event, h.filter found s.fields,
    Reference.Admits]

/-- **What a query reads. Its leaves are those of the events in its text, one for each. The leaf of
an event accepts a series if and only if this has the event's name and satisfies all conditions that
are written with the event and in the filters of the innermost block around it that has any: the
label is there and one of the alternatives holds of its first value. This is so whatever the
patterns mean, and so for what they are found in.** -/
theorem Query.references_spec {source missing : String} {q : Query Float}
    (h : Query.ofText source missing = .ok q) :
    ∃ body, Statement.ofText source = .ok body ∧
      List.Forall₂ (fun (r : Reference) (leaf : Leaf) => ∀ (α : Type) (s : Series α),
          (∀ found, leaf.acceptsWith found s = true ↔ r.Admits found s) ∧
            (leaf.accepts s = true ↔ r.Admits Regexp.finds s))
        (Statement.references body) q.leaves := by
  obtain ⟨body, hbody, hleaves⟩ := refers_leaves h (Filter.tracks_means _)
  refine ⟨body, hbody, hleaves.imp fun r leaf hmeans α s => ?_⟩
  refine ⟨fun found => hmeans.acceptsWith_iff found s, ?_⟩
  rw [← leaf.acceptsWith_finds]
  exact hmeans.acceptsWith_iff Regexp.finds s

/-- Two filters replace the one around them, and labels are repeated. -/
theorem Query.references_spec_nested :
    let source := "foo{a: s, a: !suffix(t)}; *WHERE{b: x}; " ++
      "{bar{c: y}; *WHERE{c: z}; n: foo; *WHERE{d: !regexp(w)}}"
    ∃ q body, Query.ofText source "" = .ok q ∧ Statement.ofText source = .ok body ∧
      ((Statement.references body).map fun r => (r.event, r.conditions.map (·.label))) =
        [("foo", ["a", "a", "b"]), ("bar", ["c", "c", "d"]), ("foo", ["c", "d"])] ∧
      List.Forall₂ (fun (r : Reference) (leaf : Leaf) => ∀ s : Series Float,
        leaf.accepts s = true ↔ r.Admits Regexp.finds s) (Statement.references body) q.leaves := by
  intro source
  have hcompiles : (Query.ofText source "").toOption.any (fun _ => true) = true := by
    decide +kernel
  have hevents : (Statement.ofText source).toOption.any (fun body =>
      ((Statement.references body).map fun r => (r.event, r.conditions.map (·.label))) =
        [("foo", ["a", "a", "b"]), ("bar", ["c", "c", "d"]), ("foo", ["c", "d"])]) = true := by
    decide +kernel
  obtain ⟨q, hq, -⟩ := exists_of_toOption_any hcompiles
  obtain ⟨body, hbody, hevents⟩ := exists_of_toOption_any hevents
  obtain ⟨body', hbody', hleaves⟩ := references_spec hq
  obtain rfl := Except.ok.inj (hbody.symm.trans hbody')
  exact ⟨q, body, hq, hbody, of_decide_eq_true hevents,
    hleaves.imp fun _ _ h s => (h Float s).2⟩

end SeriesQuery
