import SeriesQuery.Proofs.Query.BareEvents
import SeriesQuery.Proofs.Query.OffsetBracket
import SeriesQuery.Proofs.Query.Steps

/-!
# Offsets on the way to a leaf

In the text an event stands under an offset clause and in brackets. A call of a zip around it ends
one leg of brackets and begins another: the leaf adds up the leg next to it and each zip its own.
The window of a leaf is moved leg by leg.

* `Route` : the offsets that apply to an event in the text, in legs; `Expr.routes`,
  `Statement.routes`;
* `Agg.ways`, `Query.ways` : the shifts on the way to each leaf, `Agg.map_window_queries` that they
  make its window;
* `Route.Leads` : the shifts of a way are the sums of the legs of a route, and fit into 64 bits;
* `Scope.leads_agg`, `Scope.leads_nodes` : this of all that compiles.
-/

namespace SeriesQuery

open Text (Located)

variable {α : Type}

/-! ## Routes -/

/-- The offsets that apply to an event. -/
structure Route where
  /-- Those behind the outermost zip, or all of them without one. -/
  outer : List Int
  /-- Those inside of zips, from the outermost zip inwards. -/
  inner : List (List Int)
deriving DecidableEq

namespace Route

def legs (r : Route) : List (List Int) := r.outer :: r.inner

/-- The sum of all offsets. -/
def total (r : Route) : Int := r.legs.flatten.sum

def bracket (b : Bracket) (r : Route) : Route :=
  match b with
  | .offset ms => { r with outer := r.outer ++ [ms] }
  | .step _ => r

/-- Through a zip, behind which no bracket stands yet. -/
def zipped (r : Route) : Route := ⟨[], r.legs⟩

end Route

namespace Expr

mutual

/-- The routes to the events of an expression that stands under the offset `base`. -/
def routes (base : Int) : Expr → List Route
  | .event .. => [⟨[base], []⟩]
  | .number _ => []
  | .call name args =>
    match Scope.CallKind.ofName? name with
    | some (.zip _) => (routesOf base args).map Route.zipped
    | _ => routesOf base args
  | .binary _ lhs rhs => lhs.node.routes base ++ rhs.node.routes base
  | .shift e b => (e.node.routes base).map (Route.bracket b)
  | .paren e => e.node.routes base

def routesOf (base : Int) : List (Located Expr) → List Route
  | [] => []
  | e :: es => e.node.routes base ++ routesOf base es

end

end Expr

namespace Statement

/-- Events under the offsets of the blocks around them. -/
def offsets : Outline Int Route :=
  ⟨fun base body => Scope.offsetOf base (clausesOf .offset body), Expr.routes⟩

/-- The routes to the events of a query, in the order of its leaves. -/
def routes (body : List (Located Statement)) : List Route := outline offsets 0 false body

end Statement

/-! ## Ways -/

namespace Agg

mutual

/-- For each leaf the shifts that its window is moved by, from the outermost one inwards. -/
def ways : Agg α → List (List Shift)
  | .scan leaf _ => [[leaf.shift]]
  | .zip parts _ shift => (waysOf parts).map (shift :: ·)
  | .collapse part _ => part.ways
  | .op x y _ => x.ways ++ y.ways
  | .value .. => []

def waysOf : List (Agg α) → List (List Shift)
  | [] => []
  | part :: parts => part.ways ++ waysOf parts

end

end Agg

/-- The window at the end of a way. -/
def Window.along (w : Window) (way : List Shift) : Window := way.foldl (fun v s => s.apply v) w

namespace Agg

mutual

theorem map_window_queries : ∀ (a : Agg α) (w : Window),
    (a.queries w).map (·.window) = a.ways.map w.along
  | .scan .., _ => rfl
  | .zip parts _ shift, w => by
    rw [queries, ways, List.map_map, map_window_queriesOf parts (shift.apply w)]
    rfl
  | .collapse part _, w => map_window_queries part w
  | .op x y _, w => by
    rw [queries, ways, List.map_append, List.map_append, map_window_queries x w,
      map_window_queries y w]
  | .value .., _ => rfl

theorem map_window_queriesOf : ∀ (parts : List (Agg α)) (w : Window),
    (queriesOf parts w).map (·.window) = (waysOf parts).map w.along
  | [], _ => rfl
  | part :: parts, w => by
    rw [queriesOf, waysOf, List.map_append, List.map_append, map_window_queries part w,
      map_window_queriesOf parts w]

end

end Agg

def Gatherer.ways : Gatherer (List Shift) := ⟨fun leaf => [[leaf.shift]], Agg.ways⟩

/-- The ways to all leaves of a query, in tree order. -/
def Query.ways (q : Query Float) : List (List Shift) := Node.gatherOf .ways q.nodes

namespace Node

mutual

theorem map_window_queries (w : Window) : ∀ node : Node Float,
    (node.queries w).map (·.window) = (node.gather .ways).map w.along
  | .scan _ => rfl
  | .group g => by
    rw [queries, gather, Group.queries, List.map_flatMap, List.map_flatMap]
    exact List.flatMap_congr fun n _ => n.agg.map_window_queries w
  | .block nodes => map_window_queriesOf w nodes

theorem map_window_queriesOf (w : Window) : ∀ nodes : List (Node Float),
    (queriesOf nodes w).map (·.window) = (gatherOf .ways nodes).map w.along
  | [] => rfl
  | node :: nodes => by
    rw [queriesOf, gatherOf, List.map_append, List.map_append, map_window_queries w node,
      map_window_queriesOf w nodes]

end

end Node

/-! ## Routes and ways -/

/-- Each shift of the way is the sum of one leg of the route, and all these sums fit into 64
bits. -/
structure Route.Leads (r : Route) (way : List Shift) : Prop where
  offsets : way.map (·.offset) = r.legs.map List.sum
  fits : ∀ leg ∈ r.legs, Time.fits leg.sum = true

namespace Route

variable {r : Route} {s t : Shift} {way : List Shift}

theorem leads_event {base : Int} (h : Time.fits base = true) :
    Leads ⟨[base], []⟩ [{ offset := base }] :=
  ⟨by simp [legs], by simpa [legs] using h⟩

theorem Leads.zipped (h : r.Leads way) : r.zipped.Leads ({} :: way) := by
  have hzero : Time.fits ([] : List Int).sum = true := by decide
  refine ⟨?_, List.forall_mem_cons.mpr ⟨hzero, h.fits⟩⟩
  rw [List.map_cons, h.offsets]
  rfl

/-- A bracket is added to the outermost leg, and the sum is checked. -/
theorem Leads.offset {ms : Int} (h : r.Leads (s :: way)) (hs : s.addOffset? ms = some t) :
    (r.bracket (.offset ms)).Leads (t :: way) := by
  obtain ⟨hfits, rfl⟩ := Shift.addOffset?_eq_some_iff.mp hs
  obtain ⟨houter, hinner⟩ := List.cons.inj h.offsets
  have hsum : (r.outer ++ [ms]).sum = s.offset + ms := by
    rw [List.sum_append, List.sum_singleton, ← houter]
  refine ⟨?_, List.forall_mem_cons.mpr ⟨hsum ▸ hfits, (List.forall_mem_cons.mp h.fits).2⟩⟩
  exact congrArg₂ List.cons hsum.symm hinner

end Route

namespace Agg

/-- Two ways that differ in the first shift, to which the offset `ms` is added. -/
def WayMoved (ms : Int) (way way' : List Shift) : Prop :=
  ∃ s t rest, way = s :: rest ∧ s.addOffset? ms = some t ∧ way' = t :: rest

theorem Bracketed.ways {ms : Int} {a b : Agg α} (h : Bracketed ms a b) :
    List.Forall₂ (WayMoved ms) a.ways b.ways := by
  induction h with
  | scan h => exact .cons ⟨_, _, [], rfl, h, rfl⟩ .nil
  | zip h =>
    refine List.forall₂_map_left_iff.mpr (List.forall₂_map_right_iff.mpr ?_)
    exact List.forall₂_same.mpr fun way _ => ⟨_, _, way, rfl, h, rfl⟩
  | collapse _ ih => exact ih
  | op _ _ ihx ihy => exact List.rel_append ihx ihy
  | value => exact .nil

/-- Steps have no part in the offsets. -/
theorem offsets_shiftStep (ms : Int) : ∀ a : Agg α,
    (a.shiftStep ms).ways.map (·.map (·.offset)) = a.ways.map (·.map (·.offset))
  | .scan .. => rfl
  | .zip parts _ shift => by
    rw [shiftStep, ways, ways, List.map_map, List.map_map]
    rfl
  | .collapse part _ => offsets_shiftStep ms part
  | .op x y _ => by
    rw [shiftStep, ways, ways, List.map_append, List.map_append, offsets_shiftStep ms x,
      offsets_shiftStep ms y]
  | .value .. => rfl

variable {rs : List Route} {a b : Agg α}

theorem leads_shiftOffset? {ms : Int} (ha : List.Forall₂ Route.Leads rs a.ways)
    (h : a.shiftOffset? ms = some b) :
    List.Forall₂ Route.Leads (rs.map (Route.bracket (.offset ms))) b.ways := by
  have hmoved := (bracketed_of_shiftOffset? h).ways
  generalize a.ways = ways at ha hmoved
  generalize b.ways = ways' at hmoved ⊢
  induction hmoved generalizing rs with
  | nil =>
    cases ha
    exact .nil
  | cons hway _ ih =>
    cases ha with
    | cons hlead ha =>
      obtain ⟨s, t, rest, rfl, hs, rfl⟩ := hway
      exact .cons (hlead.offset hs) (ih ha)

theorem leads_shiftStep {ms : Int} (ha : List.Forall₂ Route.Leads rs a.ways) :
    List.Forall₂ Route.Leads (rs.map (Route.bracket (.step ms))) (a.shiftStep ms).ways := by
  have hsame : rs.map (Route.bracket (.step ms)) = rs := List.map_id rs
  rw [hsame]
  refine forall₂_of_map_eq (fun r way way' hway h => ?_) ha (offsets_shiftStep ms a)
  exact ⟨hway.trans h.offsets, h.fits⟩

end Agg

namespace Scope

open Statement

variable {source : List Char} {missing : String} {scope : Scope}

mutual

theorem leads_agg (hscope : Time.fits scope.offset = true) : ∀ {start : List Char} (e : Expr)
    {a : Agg Float}, agg source scope start e = .ok a →
      List.Forall₂ Route.Leads (e.routes scope.offset) a.ways
  | _, .event .., _, h => by
    obtain ⟨leaf, hleaf, h⟩ := bind_eq_ok.mp h
    obtain ⟨own, -, hleaf⟩ := bind_eq_ok.mp hleaf
    rw [← Except.ok.inj h, ← Except.ok.inj hleaf]
    exact .cons (Route.leads_event hscope) .nil
  | _, .number _, _, h => by
    rw [← Except.ok.inj h]
    exact .nil
  | _, .paren e, _, h => leads_agg hscope e.node h
  | _, .binary op lhs rhs, _, h => by
    obtain ⟨x, hx, h⟩ := bind_eq_ok.mp h
    obtain ⟨y, hy, h⟩ := bind_eq_ok.mp h
    rw [← Except.ok.inj h]
    exact List.rel_append (leads_agg hscope lhs.node hx) (leads_agg hscope rhs.node hy)
  | start, .shift e bracket, _, h => by
    obtain ⟨part, hpart, h⟩ := bind_eq_ok.mp h
    have hleads := leads_agg hscope e.node hpart
    cases bracket with
    | offset ms => exact Agg.leads_shiftOffset? hleads (eq_some_of_orOutOfRange h)
    | step ms =>
      rw [← Except.ok.inj h]
      exact Agg.leads_shiftStep hleads
  | start, .call name args, _, h => by
    have hargs : ∀ {parts : List (Agg Float)}, aggs source scope args = .ok parts →
        List.Forall₂ Route.Leads (Expr.routesOf scope.offset args) (Agg.waysOf parts) :=
      leads_aggs hscope args
    rw [Expr.routes]
    rcases agg_call_cases h with ⟨arg, leaf, f, hkind, rfl, hleaf, rfl⟩ |
      ⟨parts, f, hkind, hparts, rfl⟩ | ⟨arg, part, f, hkind, rfl, hpart, rfl⟩
    · have hparts : aggs source scope [arg] = .ok [.scan leaf scope.reduction] := by
        rw [aggs, agg_of_bareLeaf hleaf]
        rfl
      rw [hkind]
      exact hargs hparts
    · rw [hkind]
      refine List.forall₂_map_left_iff.mpr (List.forall₂_map_right_iff.mpr ?_)
      exact (hargs hparts).imp fun _ _ h => h.zipped
    · have hparts : aggs source scope [arg] = .ok [part] := by
        rw [aggs, hpart]
        rfl
      have hleads := hargs hparts
      rw [Agg.waysOf, Agg.waysOf, List.append_nil] at hleads
      rw [hkind]
      exact hleads

theorem leads_aggs (hscope : Time.fits scope.offset = true) : ∀ (es : List (Located Expr))
    {parts : List (Agg Float)}, aggs source scope es = .ok parts →
      List.Forall₂ Route.Leads (Expr.routesOf scope.offset es) (Agg.waysOf parts)
  | [], _, h => by
    rw [← Except.ok.inj h]
    exact .nil
  | e :: es, _, h => by
    obtain ⟨x, hx, h⟩ := bind_eq_ok.mp h
    obtain ⟨xs, hxs, h⟩ := bind_eq_ok.mp h
    rw [← Except.ok.inj h]
    exact List.rel_append (leads_agg hscope e.node hx) (leads_aggs hscope es hxs)

end

/-! ## Blocks -/

theorem fits_offsetOf : ∀ {base : Int} (cs : List Clause), Time.fits base = true →
    (∀ c ∈ cs, c.InRange) → Time.fits (offsetOf base cs) = true
  | _, [], hbase, _ => hbase
  | _, .offset _ :: cs, _, h =>
    fits_offsetOf cs (List.forall_mem_cons.mp h).1 (List.forall_mem_cons.mp h).2
  | _, .filter _ :: cs, hbase, h | _, .group _ :: cs, hbase, h =>
    fits_offsetOf cs hbase (List.forall_mem_cons.mp h).2

theorem inRange_of_mem_clausesOf {k : Clause.Kind} {body : List (Located Statement)}
    (hbody : ∀ s ∈ body, s.node.InRange) {c : Clause} (hc : c ∈ clausesOf k body) : c.InRange := by
  obtain ⟨⟨start, s⟩, hs, hclause⟩ := List.mem_filterMap.mp (List.mem_filter.mp hc).1
  have hrange := hbody _ hs
  cases s with
  | clause d => exact Option.some.inj hclause ▸ hrange
  | expr _ _ => contradiction
  | block _ => contradiction

theorem describes_offsets : offsets.Describes source .ways
    (fun base scope => scope.offset = base ∧ Time.fits base = true) Route.Leads
      Statement.InRange where
  block h := allInRange_iff.mp h
  inside := by
    intro base outer inner body hbody hk h
    obtain ⟨f, g, -, -, rfl⟩ := inside_eq_ok.mp h
    obtain ⟨rfl, hfits⟩ := hk
    exact ⟨rfl, fits_offsetOf _ hfits fun c => inRange_of_mem_clausesOf hbody⟩
  leaf := by
    rintro base scope start e leaf ⟨rfl, hfits⟩ h
    exact leads_agg hfits e (agg_of_bareLeaf h)
  agg := by
    rintro base scope start e a ⟨rfl, hfits⟩ h
    exact leads_agg hfits e h

/-- What compiles moves each leaf by the offsets on the route to its event. -/
theorem leads_nodes {body : List (Located Statement)} (hbody : AllInRange body)
    {ns : List (Node Float)} (h : nodes source missing {} body = .ok ns) :
    List.Forall₂ Route.Leads (routes body) (Node.gatherOf .ways ns) :=
  describes_offsets.nodes (allInRange_iff.mp hbody) ⟨rfl, by decide⟩ h

end Scope

end SeriesQuery
