import SeriesQuery.Fields
import SeriesQuery.Pattern.Reader
import SeriesQuery.Text.Quoted

/-!
# Filters

* `Regexp` : a text that reads as a pattern; two are equal when their texts are;
* `Matcher` : a condition on one value; `Matcher.holds`;
* `Matcher.or`, `Matcher.and` : joined without nesting alternatives in alternatives or conditions
  in conditions;
* `Matcher.text` : in query syntax, conditions joined with `&`;
* `Filter` : a condition for each of some labels; `Filter.accepts` asks that every label is present
  and its value satisfies the condition;
* `Filter.merge`, `Filter.and` : both filters' labels, the conditions of shared labels joined by
  `Matcher.or` or `Matcher.and`.
-/

namespace SeriesQuery

/-! ## Regular expressions -/

structure Regexp where
  text : String
  pattern : Pattern
  reads : Pattern.ofText? text.toList = some pattern

namespace Regexp

theorem ext_text {r s : Regexp} (h : r.text = s.text) : r = s := by
  obtain ⟨t, p, hp⟩ := r
  obtain ⟨u, q, hq⟩ := s
  subst h
  obtain rfl : p = q := Option.some.inj (hp.symm.trans hq)
  rfl

instance : DecidableEq Regexp := fun r s =>
  decidable_of_iff (r.text = s.text) ⟨ext_text, fun h => h ▸ rfl⟩

def ofText? (text : String) : Option Regexp :=
  match h : Pattern.ofText? text.toList with
  | some pattern => some ⟨text, pattern, h⟩
  | none => none

/-- Found anywhere in `value`. -/
def holds (r : Regexp) (value : String) : Bool := r.pattern.isFoundIn value.toList

end Regexp

/-! ## Conditions on a value -/

inductive Matcher where
  | equals (s : String)
  | startsWith (s : String)
  | endsWith (s : String)
  | regexp (r : Regexp)
  | any (ms : List Matcher)
  | all (ms : List Matcher)

namespace Matcher

mutual

/-- Equality, decided along the tree. -/
def same : Matcher → Matcher → Bool
  | .equals s, .equals t => s == t
  | .startsWith s, .startsWith t => s == t
  | .endsWith s, .endsWith t => s == t
  | .regexp r, .regexp s => r == s
  | .any ms, .any ns => allSame ms ns
  | .all ms, .all ns => allSame ms ns
  | _, _ => false

def allSame : List Matcher → List Matcher → Bool
  | [], [] => true
  | m :: ms, n :: ns => same m n && allSame ms ns
  | _, _ => false

end

mutual

theorem same_iff : ∀ m n : Matcher, same m n = true ↔ m = n
  | .equals _, n | .startsWith _, n | .endsWith _, n | .regexp _, n => by
    cases n <;> simp [same]
  | .any ms, n => by cases n <;> simp [same, allSame_iff ms]
  | .all ms, n => by cases n <;> simp [same, allSame_iff ms]

theorem allSame_iff : ∀ ms ns : List Matcher, allSame ms ns = true ↔ ms = ns
  | [], ns => by cases ns <;> simp [allSame]
  | m :: ms, ns => by cases ns <;> simp [allSame, same_iff m, allSame_iff ms]

end

instance : DecidableEq Matcher := fun m n => decidable_of_iff _ (same_iff m n)

mutual

def holds : Matcher → String → Bool
  | .equals s, value => value == s
  | .startsWith s, value => s.toList.isPrefixOf value.toList
  | .endsWith s, value => s.toList.isSuffixOf value.toList
  | .regexp r, value => r.holds value
  | .any ms, value => anyHolds ms value
  | .all ms, value => allHold ms value

def anyHolds : List Matcher → String → Bool
  | [], _ => false
  | m :: ms, value => m.holds value || anyHolds ms value

def allHold : List Matcher → String → Bool
  | [], _ => true
  | m :: ms, value => m.holds value && allHold ms value

end

def or : Matcher → Matcher → Matcher
  | .any ms, .any ns => .any (ms ++ ns)
  | .any ms, n => .any (ms ++ [n])
  | m, .any ns => .any (m :: ns)
  | m, n => .any [m, n]

def and : Matcher → Matcher → Matcher
  | .all ms, .all ns => .all (ms ++ ns)
  | .all ms, n => .all (ms ++ [n])
  | m, .all ns => .all (m :: ns)
  | m, n => .all [m, n]

mutual

def text : Matcher → String
  | .equals s => s
  | .startsWith s => "!prefix(" ++ Text.quote s ++ ")"
  | .endsWith s => "!suffix(" ++ Text.quote s ++ ")"
  | .regexp r => "!regexp(" ++ Text.quote r.text ++ ")"
  | .any ms => "|".intercalate (texts ms)
  | .all ms => "&".intercalate (texts ms)

def texts : List Matcher → List String
  | [] => []
  | m :: ms => m.text :: texts ms

end

end Matcher

/-! ## Conditions on fields -/

structure Filter where
  conditions : Index Matcher
deriving DecidableEq

namespace Filter

def empty : Filter := ⟨.empty⟩

def isEmpty (f : Filter) : Bool := f.conditions.isEmpty

/-- The filter with `m` as the only condition on `label`. -/
def withLabel (f : Filter) (label : String) (m : Matcher) : Filter :=
  ⟨f.conditions.insert label m⟩

def accepts (f : Filter) (fields : Fields) : Bool :=
  f.conditions.toList.all fun (label, m) => (fields.get? label).any m.holds

/-- Conditions that share a label are joined by `join`, those of `f` first. -/
def combine (join : Matcher → Matcher → Matcher) (f g : Filter) : Filter :=
  ⟨g.conditions.toList.foldl
    (fun conditions (label, m) =>
      conditions.update label fun | some old => join old m | none => m)
    f.conditions⟩

def merge : Filter → Filter → Filter := combine .or

def and : Filter → Filter → Filter := combine .and

def text (f : Filter) : String :=
  "\x7b" ++ ", ".intercalate (f.conditions.toList.map fun (l, m) => l ++ ": " ++ m.text) ++ "\x7d"

end Filter

end SeriesQuery
