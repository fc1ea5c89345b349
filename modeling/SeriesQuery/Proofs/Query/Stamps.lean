import SeriesQuery.Proofs.Query.Operands
import SeriesQuery.Proofs.Query.Origins

/-!
# Windows of computed series

A group gives the window asked for to each series that it computes. The samples are those of the
effective window of the aggregate, which offsets and steps on the way to it have moved, so the
window of a computed series does not say when it was sampled. It does where nothing is moved.

* `Agg.unmoved` : neither an offset nor a step on the way to the node that the samples are from;
  then the window asked for is the effective one (`Agg.effective_of_unmoved`);
* `Expr.unbracketed` : no brackets in an expression; without an offset clause it compiles to an
  aggregate that is not moved (`Scope.unmoved_agg`);
* `Node.exists_of_computed` : the group, the bucket and the aggregate of a computed output;
* `Query.stamped_spec` : what its window and its times are.
-/

namespace SeriesQuery

open Text (Located)

variable {α : Type}

/-! ## Aggregates that are not moved -/

theorem Shift.apply_neutral {w : Window} (hstart : Time.fits w.start = true)
    (hstop : Time.fits w.stop = true) : ({} : Shift).apply w = w := by
  have hfits : ({} : Shift).fits w = true := by
    unfold fits
    rw [Int.add_zero, Int.add_zero, hstart, hstop]
    rfl
  rw [apply_eq hfits, Int.add_zero, Int.add_zero]
  rfl

namespace Agg

/-- Nothing shifts the window on the way to the node that the samples are from: along the left
operands, and through zips of one part. -/
def unmoved : Agg α → Bool
  | .scan leaf _ => leaf.shift = {}
  | .zip [only] _ shift => shift = {} && only.unmoved
  | .zip _ _ shift => shift = {}
  | .collapse part _ => part.unmoved
  | .op x _ _ => x.unmoved
  | .value _ shift => shift = {}

theorem effective_of_unmoved {w : Window} (hstart : Time.fits w.start = true)
    (hstop : Time.fits w.stop = true) : ∀ a : Agg α, a.unmoved = true → a.effective w = w
  | .scan leaf _, h => by
    have hshift : leaf.shift = {} := of_decide_eq_true h
    rw [effective, Leaf.window, hshift, Shift.apply_neutral hstart hstop]
  | .zip [only] _ shift, h => by
    obtain ⟨hshift, honly⟩ := (Bool.and_eq_true _ _).mp h
    have hshift : shift = {} := of_decide_eq_true hshift
    rw [effective, hshift, Shift.apply_neutral hstart hstop,
      effective_of_unmoved hstart hstop only honly]
  | .zip [] _ shift, h | .zip (_ :: _ :: _) _ shift, h | .value _ shift, h => by
    have hshift : shift = {} := of_decide_eq_true h
    rw [effective, hshift, Shift.apply_neutral hstart hstop]
    all_goals nofun
  | .collapse part _, h => effective_of_unmoved hstart hstop part h
  | .op x _ _, h => effective_of_unmoved hstart hstop x h

end Agg

/-! ## Expressions without brackets -/

namespace Expr

mutual

def unbracketed : Expr → Bool
  | .event .. | .number _ => true
  | .call _ args => allUnbracketed args
  | .binary _ lhs rhs => lhs.node.unbracketed && rhs.node.unbracketed
  | .shift .. => false
  | .paren e => e.node.unbracketed

def allUnbracketed : List (Located Expr) → Bool
  | [] => true
  | e :: es => e.node.unbracketed && allUnbracketed es

end

end Expr

namespace Scope

variable {source : List Char} {scope : Scope}

theorem shift_of_leaf {event : String} {labels : List LabelMatch} {leaf : Leaf}
    (hscope : scope.offset = 0) (h : Scope.leaf source scope event labels = .ok leaf) :
    leaf.shift = {} := by
  obtain ⟨own, -, h⟩ := bind_eq_ok.mp h
  rw [← Except.ok.inj h, hscope]

theorem shift_of_bareLeaf (hscope : scope.offset = 0) : ∀ {start : List Char} (e : Expr)
    {leaf : Leaf}, e.unbracketed = true → bareLeaf source scope start e = .ok (some leaf) →
      leaf.shift = {}
  | _, .event .., _, _, h => by
    obtain ⟨leaf, hleaf, h⟩ := map_eq_ok.mp h
    exact Option.some.inj h ▸ shift_of_leaf hscope hleaf
  | _, .paren e, _, he, h => shift_of_bareLeaf hscope e.node he h
  | _, .shift .., _, he, _ => nomatch he
  | _, .number _, _, _, h | _, .call .., _, _, h | _, .binary .., _, _, h =>
    absurd (Except.ok.inj h) nofun

theorem length_of_aggs {es : List (Located Expr)} {parts : List (Agg Float)}
    (h : aggs source scope es = .ok parts) : parts.length = es.length := by
  induction es generalizing parts with
  | nil => exact Except.ok.inj h ▸ rfl
  | cons e es ih =>
    obtain ⟨x, -, h⟩ := bind_eq_ok.mp h
    obtain ⟨xs, hxs, h⟩ := bind_eq_ok.mp h
    rw [← Except.ok.inj h, List.length_cons, ih hxs, List.length_cons]

theorem unmoved_agg (hscope : scope.offset = 0) : ∀ {start : List Char} (e : Expr) {a : Agg Float},
    e.unbracketed = true → agg source scope start e = .ok a → a.unmoved = true
  | _, .event .., _, _, h => by
    obtain ⟨leaf, hleaf, h⟩ := bind_eq_ok.mp h
    rw [← Except.ok.inj h]
    exact decide_eq_true (shift_of_leaf hscope hleaf)
  | _, .number _, _, _, h => by
    rw [← Except.ok.inj h, hscope]
    rfl
  | _, .paren e, _, he, h => unmoved_agg hscope e.node he h
  | _, .binary _ lhs rhs, _, he, h => by
    obtain ⟨x, hx, h⟩ := bind_eq_ok.mp h
    obtain ⟨y, -, h⟩ := bind_eq_ok.mp h
    have hunmoved : x.unmoved = true :=
      unmoved_agg hscope lhs.node ((Bool.and_eq_true _ _).mp he).1 hx
    rwa [← Except.ok.inj h]
  | _, .shift .., _, he, _ => nomatch he
  | start, .call name args, a, he, h => by
    unfold agg at h
    cases hkind : CallKind.ofName? name with
    | none => rw [hkind] at h; contradiction
    | some kind =>
      rw [hkind] at h
      match kind, args with
      | .plain f, [arg] =>
        have harg : arg.node.unbracketed = true := ((Bool.and_eq_true _ _).mp he).1
        obtain ⟨leaf, hleaf, h⟩ := bind_eq_ok.mp h
        cases leaf with
        | none => contradiction
        | some leaf =>
          rw [← Except.ok.inj h]
          exact decide_eq_true (shift_of_bareLeaf hscope arg.node harg hleaf)
      | .zip f, [arg] =>
        have harg : arg.node.unbracketed = true := ((Bool.and_eq_true _ _).mp he).1
        obtain ⟨parts, hparts, h⟩ := bind_eq_ok.mp h
        obtain ⟨x, hx, hparts⟩ := bind_eq_ok.mp hparts
        have hunmoved : x.unmoved = true := unmoved_agg hscope arg.node harg hx
        rwa [← Except.ok.inj h, ← Except.ok.inj hparts]
      | .zip f, _ :: _ :: _ =>
        -- a zip of several parts has its own window, whatever the parts are
        obtain ⟨parts, hparts, h⟩ := bind_eq_ok.mp h
        rw [← Except.ok.inj h]
        match parts, length_of_aggs hparts with
        | _ :: _ :: _, _ => rfl
      | .collapse f, [arg] =>
        have harg : arg.node.unbracketed = true := ((Bool.and_eq_true _ _).mp he).1
        obtain ⟨part, hpart, h⟩ := bind_eq_ok.mp h
        have hunmoved : part.unmoved = true := unmoved_agg hscope arg.node harg hpart
        rwa [← Except.ok.inj h]
      | .plain _, [] | .plain _, _ :: _ :: _ | .zip _, [] | .collapse _, []
      | .collapse _, _ :: _ :: _ => contradiction

end Scope

/-! ## Computed outputs -/

section Computed

variable [Sample α] {w : Window} {xs : List (Series α)} {s : Series α}

/-- The series is the value of the aggregate in the bucket `k`, with the name of the aggregate, the
key of the bucket and the window asked for. -/
structure Group.Computes (g : Group α) (w : Window) (xs : List (Series α)) (n : Named α)
    (s : Series α) : Prop where
  mem_nodes : n ∈ g.nodes
  mem_keys : s.fields ∈ g.keys xs
  value : ∃ t, n.agg.evaluate w (g.members s.fields xs) = .ok t ∧
    s = { t with event := n.name, fields := s.fields, window := w }

theorem Group.exists_of_mem {g : Group α} {os : List (Output α)} (h : g.evaluate w xs = .ok os)
    {o : Output α} (ho : o ∈ os) : ∃ n s, o = .computed s ∧ g.Computes w xs n s := by
  rw [evaluate_eq] at h
  obtain ⟨oss, hoss, h⟩ := bind_eq_ok.mp h
  rw [← Except.ok.inj h] at ho
  obtain ⟨bucket, hbucket, ho⟩ := List.mem_flatten.mp ho
  obtain ⟨k, hk, hbucket⟩ := exists_of_mem_mapM hoss hbucket
  obtain ⟨n, hn, ho⟩ := exists_of_mem_mapM hbucket ho
  obtain ⟨t, ht, ho⟩ := bind_eq_ok.mp ho
  exact ⟨n, { t with event := n.name, fields := k, window := w }, (Except.ok.inj ho).symm,
    hn, hk, t, ht, rfl⟩

theorem Group.exists_of_computed {g : Group α} {os : List (Output α)}
    (h : g.evaluate w xs = .ok os) (hs : .computed s ∈ os) : ∃ n, g.Computes w xs n s := by
  obtain ⟨n, t, hst, hn⟩ := Group.exists_of_mem h hs
  exact ⟨n, Output.computed.inj hst ▸ hn⟩

namespace Node

mutual

theorem exists_of_computed : ∀ (node : Node α) {os : List (Output α)},
    node.evaluate w xs = .ok os → .computed s ∈ os → ∃ g ∈ node.groups, ∃ n, g.Computes w xs n s
  | .scan leaf, os, h, hs => by
    rw [← Except.ok.inj h] at hs
    obtain ⟨_, -, hs⟩ := List.mem_map.mp hs
    contradiction
  | .group g, _, h, hs => ⟨g, List.mem_singleton_self g, Group.exists_of_computed h hs⟩
  | .block nodes, _, h, hs => exists_of_computed_all nodes h hs

theorem exists_of_computed_all : ∀ (nodes : List (Node α)) {os : List (Output α)},
    evaluateAll nodes w xs = .ok os → .computed s ∈ os →
      ∃ g ∈ groupsOf nodes, ∃ n, g.Computes w xs n s
  | [], _, h, hs => by
    rw [← Except.ok.inj h] at hs
    contradiction
  | node :: nodes, _, h, hs => by
    obtain ⟨os, hos, h⟩ := bind_eq_ok.mp h
    obtain ⟨os', hos', h⟩ := bind_eq_ok.mp h
    rw [← Except.ok.inj h, List.mem_append] at hs
    rcases hs with hs | hs
    · obtain ⟨g, hg, hn⟩ := exists_of_computed node hos hs
      exact ⟨g, List.mem_append_left _ hg, hn⟩
    · obtain ⟨g, hg, hn⟩ := exists_of_computed_all nodes hos' hs
      exact ⟨g, List.mem_append_right _ hg, hn⟩

end

end Node

theorem Group.Computes.times_eq {g : Group α} {n : Named α} (h : g.Computes w xs n s) :
    s.window = w ∧ s.points.times = (n.agg.effective w).times := by
  obtain ⟨t, ht, hs⟩ := h.value
  rw [hs]
  exact ⟨rfl, congrArg Prod.snd (Agg.shape_evaluate ht)⟩

end Computed

/-! ## Queries -/

namespace Query

/-- **The window and the times of a computed series. It is the value of an aggregate in a bucket of
a group, and comes with the window asked for; its times are the sample times of the effective window
of the aggregate. These are the sample times of its own window if nothing on the way to them is
moved, as it is everywhere in a query without offset clauses and without brackets.** -/
theorem stamped_spec {source missing : String} {q : Query Float}
    (hq : Query.ofText source missing = .ok q) {w : Window} (hstart : Time.fits w.start = true)
    (hstop : Time.fits w.stop = true) {xs : List (Series Float)} {os : List (Output Float)}
    (h : q.evaluate w xs = .ok os) :
    ∀ s, Output.computed s ∈ os → s.window = w ∧
      ∃ g ∈ q.groups, ∃ n, g.Computes w (distinctBy Series.key xs) n s ∧
        s.points.times = (n.agg.effective w).times ∧
        (n.agg.unmoved = true → s.points.times = s.window.times) ∧
        ∀ body, Statement.ofText source = .ok body → Statement.allOffsetFree body = true →
          (∀ x ∈ Statement.exprsOf body, x.2.node.unbracketed = true) → n.agg.unmoved = true := by
  intro s hs
  obtain ⟨g, hg, n, hn⟩ := Node.exists_of_computed_all q.nodes h hs
  obtain ⟨hwindow, htimes⟩ := hn.times_eq
  refine ⟨hwindow, g, hg, n, hn, htimes, fun hunmoved => ?_, fun body hbody hfree hplain => ?_⟩
  · rw [htimes, Agg.effective_of_unmoved hstart hstop n.agg hunmoved, hwindow]
  · obtain ⟨scope, x, hx, hof, hoffset⟩ := exists_expr hbody hq hg hn.mem_nodes
    exact Scope.unmoved_agg (hoffset hfree) x.2.node (hplain x hx) hof.agg

/-- A sum that is not moved, and one of it and the second before. -/
theorem stamped_spec_sums :
    let source := "x: !sum{foo}; y: foo + foo[-1:s]"
    let w : Window := ⟨10000, 12000, 1000⟩
    ∃ q os, Query.ofText source "" = .ok q ∧ Time.fits w.start = true ∧ Time.fits w.stop = true ∧
      q.evaluate w [] = .ok os ∧ os.length = 2 ∧
      ∀ s, Output.computed s ∈ os → s.window = w ∧
        ∃ g ∈ q.groups, ∃ n, g.Computes w (distinctBy Series.key []) n s ∧
          s.points.times = (n.agg.effective w).times ∧
          (n.agg.unmoved = true → s.points.times = s.window.times) ∧
          ∀ body, Statement.ofText source = .ok body → Statement.allOffsetFree body = true →
            (∀ x ∈ Statement.exprsOf body, x.2.node.unbracketed = true) →
              n.agg.unmoved = true := by
  intro source w
  have hread : (Query.ofText source "").toOption.any (fun q =>
      (q.evaluate w []).toOption.any fun os => os.length = 2) = true := by
    decide +kernel
  obtain ⟨q, hq, hread⟩ := exists_of_toOption_any hread
  obtain ⟨os, hos, hlen⟩ := exists_of_toOption_any hread
  have hspec := stamped_spec hq (w := w) (by decide) (by decide) hos
  exact ⟨q, os, hq, by decide, by decide, hos, of_decide_eq_true hlen, hspec⟩

/-- A sum of the second before is sampled a second before the window that it comes with. -/
theorem times_ne_window :
    let w : Window := ⟨10000, 12000, 1000⟩
    ∃ q os, Query.ofText "x: !sum{foo[-1:s]}" "" = .ok q ∧ q.evaluate w [] = .ok os ∧
      ∃ s, Output.computed s ∈ os ∧ s.window = w ∧ s.points.times = [9000, 10000] ∧
        s.points.times ≠ s.window.times := by
  intro w
  have hread : (Query.ofText "x: !sum{foo[-1:s]}" "").toOption.any (fun q =>
      (q.evaluate w []).toOption.any fun os => os.any fun
        | .computed s => s.window = w && s.points.times = [9000, 10000]
        | .raw _ => false) = true := by
    decide +kernel
  obtain ⟨q, hq, hread⟩ := exists_of_toOption_any hread
  obtain ⟨os, hos, hread⟩ := exists_of_toOption_any hread
  obtain ⟨o, ho, hread⟩ := List.any_eq_true.mp hread
  cases o with
  | raw _ => contradiction
  | computed s =>
    obtain ⟨hwindow, htimes⟩ := (Bool.and_eq_true _ _).mp hread
    have hwindow : s.window = w := of_decide_eq_true hwindow
    have htimes : s.points.times = [9000, 10000] := of_decide_eq_true htimes
    exact ⟨q, os, hq, hos, s, ho, hwindow, htimes, by rw [htimes, hwindow]; decide⟩

end Query

end SeriesQuery
