import SeriesQuery.Pattern.Repertoire

/-!
# Patterns

Regular expressions over characters, and whether one is found anywhere in a text.

* `CharSet`, `CharSet.contains` : sets of characters, closed under the boolean operations and
  under taking other letter cases;
* `Assertion`, `Assertion.holds` : conditions on a place between two characters;
* `Pattern` : sequence, choice and bounded or unbounded repetition of these;
* `Spot` : a place in a text, with the character before it and the text after it;
* `Pattern.ends p spots` : where a match of `p` that begins at one of `spots` can end. All ends are
  followed at once, so greedy and lazy repetition are the same here and no match is tried twice;
* `Pattern.isFoundIn p text`.
-/

namespace SeriesQuery

/-! ## Characters -/

inductive CharSet where
  | none
  | range (lo hi : Char)
  | category (ks : List Text.Category)
  | alphabetic
  | blank
  | word
  | complement (s : CharSet)
  | union (s t : CharSet)
  | inter (s t : CharSet)
  /-- Every character that differs from one in `s` by letter case only. -/
  | anyCase (s : CharSet)
deriving DecidableEq, Repr

namespace CharSet

def contains : CharSet → Char → Bool
  | .none, _ => false
  | .range lo hi, c => lo ≤ c && c ≤ hi
  | .category ks, c => Repertoire.isOfCategory ks c
  | .alphabetic, c => Repertoire.isAlphabetic c
  | .blank, c => Text.isBlank c
  | .word, c => Repertoire.isWord c
  | .complement s, c => !s.contains c
  | .union s t, c => s.contains c || t.contains c
  | .inter s t, c => s.contains c && t.contains c
  | .anyCase s, c => (Repertoire.caseVariants c).any s.contains

def single (c : Char) : CharSet := .range c c

def digit : CharSet := .category [.nd]

def diff (s t : CharSet) : CharSet := .inter s (.complement t)

def symmDiff (s t : CharSet) : CharSet := .union (s.diff t) (t.diff s)

/-- The set as a pattern means it: all letter cases if asked, and only then the complement if asked.
The other way round a negated letter would leave out nothing. -/
def denoted (anyCase negated : Bool) (s : CharSet) : CharSet :=
  let s := if anyCase then .anyCase s else s
  if negated then .complement s else s

end CharSet

/-! ## Places -/

/-- A place in a text. -/
structure Spot where
  /-- The character before it, none at the start of the text. -/
  before : Option Char
  rest : List Char
deriving DecidableEq, Repr

namespace Spot

/-- The start of `text` and every place after it. -/
def all (before : Option Char) : List Char → List Spot
  | [] => [⟨before, []⟩]
  | c :: cs => ⟨before, c :: cs⟩ :: all (some c) cs

def afterWord (s : Spot) : Bool := s.before.any Repertoire.isWord

def beforeWord (s : Spot) : Bool := s.rest.head?.any Repertoire.isWord

/-- The spots of one text are told apart by how much text is left. -/
def unite (ss : List Spot) : List Spot → List Spot
  | [] => ss
  | t :: ts =>
    if ss.any (·.rest.length == t.rest.length) then unite ss ts else unite (ss ++ [t]) ts

end Spot

inductive Assertion where
  | textStart
  | textEnd
  | lineStart
  | lineEnd
  | wordEdge
  | notWordEdge
  | wordStart
  | wordEnd
  /-- No word before, whatever follows. -/
  | wordStartHalf
  /-- No word behind, whatever precedes. -/
  | wordEndHalf
deriving DecidableEq, Repr

def Assertion.holds : Assertion → Spot → Bool
  | .textStart, s => s.before.isNone
  | .textEnd, s => s.rest.isEmpty
  | .lineStart, s => s.before.all (· == '\n')
  | .lineEnd, s => s.rest.head?.all (· == '\n')
  | .wordEdge, s => s.afterWord != s.beforeWord
  | .notWordEdge, s => s.afterWord == s.beforeWord
  | .wordStart, s => !s.afterWord && s.beforeWord
  | .wordEnd, s => s.afterWord && !s.beforeWord
  | .wordStartHalf, s => !s.afterWord
  | .wordEndHalf, s => !s.beforeWord

/-! ## Patterns -/

inductive Pattern where
  | empty
  | char (s : CharSet)
  | assertion (a : Assertion)
  | seq (p q : Pattern)
  | choice (p q : Pattern)
  /-- At least `least` times, and at most `most` times if that is given. -/
  | repeated (p : Pattern) (least : Nat) (most : Option Nat)
deriving DecidableEq, Repr

namespace Pattern

/-- `f` applied `n` times; nothing comes of an empty list. -/
def iterate (f : List Spot → List Spot) : Nat → List Spot → List Spot
  | 0, spots => spots
  | n + 1, spots => if spots.isEmpty then [] else iterate f n (f spots)

/-- The spots reached from `found` by up to `n` more applications of `f`; `fresh` are those of
them that `f` was not yet applied to. -/
def reach (f : List Spot → List Spot) : Nat → (fresh found : List Spot) → List Spot
  | 0, _, found => found
  | n + 1, fresh, found =>
    let next := (f fresh).filter fun t => !(found.any (·.rest.length == t.rest.length))
    if next.isEmpty then found else reach f n next (Spot.unite found next)

/-- More rounds than this reach nothing new. -/
def longest (spots : List Spot) : Nat := (spots.map (·.rest.length)).foldl max 0 + 1

def ends : Pattern → List Spot → List Spot
  | .empty, spots => spots
  | .char s, spots => spots.filterMap fun
    | ⟨_, c :: cs⟩ => if s.contains c then some ⟨some c, cs⟩ else none
    | ⟨_, []⟩ => none
  | .assertion a, spots => spots.filter a.holds
  | .seq p q, spots => q.ends (p.ends spots)
  | .choice p q, spots => Spot.unite (p.ends spots) (q.ends spots)
  | .repeated p least most, spots =>
    let required := iterate p.ends least spots
    let rounds := match most with
      | some most => min (most - least) (longest required)
      | none => longest required
    reach p.ends rounds required required

/-- Whether some part of `text` matches. -/
def isFoundIn (p : Pattern) (text : List Char) : Bool := !(p.ends (Spot.all none text)).isEmpty

end Pattern

end SeriesQuery
