import SeriesQuery.Pattern.Property
import SeriesQuery.Text.Digits

/-!
# Reading patterns

* `Pattern.Flags` : what inline flags switch; they hold to the end of the group they stand in;
* `Escape.read?` : what follows a backslash: a character, a set or an assertion;
* `SetReader.body?` : a bracketed class, with nested classes and set operations;
* `PatternReader.branches?` : everything up to the end of a group;
* `Pattern.ofText? text` : the whole of `text` as a pattern, if it is one.

Each function consumes at least one character before it calls itself, so the length of the text is
fuel enough.
-/

namespace SeriesQuery

/-- What inline flags switch on and off. -/
structure Pattern.Flags where
  anyCase : Bool := false
  dotMatchesNewline : Bool := false
  multiLine : Bool := false

/-! ## Escapes -/

inductive Escape where
  | char (c : Char)
  | set (negated : Bool) (s : CharSet)
  | assertion (a : Assertion)

namespace Escape

/-- Either `count` digits or any number of them in braces. -/
def hex? (count : Nat) : List Char → Option (Escape × List Char)
  | '\x7b' :: cs => do
    let rest := cs.dropWhile (· != '\x7d')
    guard (!rest.isEmpty)
    return (.char (← charOfHex? (cs.takeWhile (· != '\x7d'))), rest.drop 1)
  | cs => do
    guard (count ≤ cs.length)
    return (.char (← charOfHex? (cs.take count)), cs.drop count)

def splitAt? (sep : Char) (cs : List Char) : Option (List Char × List Char) :=
  if cs.contains sep then some (cs.takeWhile (· != sep), (cs.dropWhile (· != sep)).drop 1) else none

/-- A property by its name alone, or a category as `gc=name` or `gc!=name`. -/
def property? (name : List Char) : Option CharSet :=
  let valued (key value : List Char) : Option CharSet :=
    if ["gc", "generalcategory"].contains (Property.plainName key) then
      Property.ofCategoryName? value
    else none
  match splitAt? '=' name with
  | some (key, value) =>
    if key.getLast? = some '!' then (valued key.dropLast value).map .complement
    else match splitAt? ':' name with
      | some (key, value) => valued key value
      | none => valued key value
  | none => match splitAt? ':' name with
    | some (key, value) => valued key value
    | none => Property.ofName? name

/-- A property in braces or of one letter. -/
def propertySet? : List Char → Option (CharSet × List Char)
  | '\x7b' :: cs => do
    let rest := cs.dropWhile (· != '\x7d')
    guard (!rest.isEmpty)
    return (← property? (cs.takeWhile (· != '\x7d')), rest.drop 1)
  | '\\' :: _ => none
  | c :: cs => do return (← Property.ofName? [c], cs)
  | [] => none

def isEdgeName (c : Char) : Bool := c.isAlpha || c == '-'

/-- A word edge may carry a name in braces; braces that begin otherwise are a repetition. -/
def wordEdge? : List Char → Option (Assertion × List Char)
  | '\x7b' :: cs =>
    match cs with
    | [] => none
    | c :: _ =>
      if isEdgeName c then
        match cs.dropWhile isEdgeName with
        | '\x7d' :: rest =>
          match String.ofList (cs.takeWhile isEdgeName) with
          | "start" => some (.wordStart, rest)
          | "end" => some (.wordEnd, rest)
          | "start-half" => some (.wordStartHalf, rest)
          | "end-half" => some (.wordEndHalf, rest)
          | _ => none
        | _ => none
      else some (.wordEdge, '\x7b' :: cs)
  | cs => some (.wordEdge, cs)

/-- ASCII other than letters, digits and the angle brackets may be escaped to stand for itself. -/
def standsForItself (c : Char) : Bool := c.toNat < 128 && !c.isAlphanum && c != '<' && c != '>'

/-- What follows a backslash, and the text behind it. -/
def read? : List Char → Option (Escape × List Char)
  | [] => none
  | c :: cs =>
    match c with
    | 'x' => hex? 2 cs
    | 'u' => hex? 4 cs
    | 'U' => hex? 8 cs
    | 'p' => do let (s, rest) ← propertySet? cs; return (.set false s, rest)
    | 'P' => do let (s, rest) ← propertySet? cs; return (.set true s, rest)
    | 'd' => some (.set false .digit, cs)
    | 'D' => some (.set true .digit, cs)
    | 's' => some (.set false .blank, cs)
    | 'S' => some (.set true .blank, cs)
    | 'w' => some (.set false .word, cs)
    | 'W' => some (.set true .word, cs)
    | 'a' => some (.char '\x07', cs)
    | 'f' => some (.char '\x0c', cs)
    | 't' => some (.char '\t', cs)
    | 'n' => some (.char '\n', cs)
    | 'r' => some (.char '\r', cs)
    | 'v' => some (.char '\x0b', cs)
    | 'A' => some (.assertion .textStart, cs)
    | 'z' => some (.assertion .textEnd, cs)
    | 'b' => do let (a, rest) ← wordEdge? cs; return (.assertion a, rest)
    | 'B' => some (.assertion .notWordEdge, cs)
    | '<' => some (.assertion .wordStart, cs)
    | '>' => some (.assertion .wordEnd, cs)
    | c => if standsForItself c then some (.char c, cs) else none

/-- The characters meant, if it is not an assertion. -/
def set? (anyCase : Bool) : Escape → Option CharSet
  | .char c => some (CharSet.denoted anyCase false (.single c))
  | .set negated s => some (s.denoted anyCase negated)
  | .assertion _ => none

end Escape

/-! ## Classes in brackets -/

inductive SetOperator where
  | inter
  | diff
  | symmDiff

namespace SetReader

def operator? : List Char → Option (SetOperator × List Char)
  | '&' :: '&' :: cs => some (.inter, cs)
  | '-' :: '-' :: cs => some (.diff, cs)
  | '~' :: '~' :: cs => some (.symmDiff, cs)
  | _ => none

/-- Closes a pending operation; both sides take other letter cases first. -/
def combine (anyCase : Bool) : Option (SetOperator × CharSet) → CharSet → CharSet
  | none, s => s
  | some (op, lhs), s =>
    let (lhs, s) := (lhs.denoted anyCase false, s.denoted anyCase false)
    match op with
    | .inter => .inter lhs s
    | .diff => lhs.diff s
    | .symmDiff => lhs.symmDiff s

/-- One character or escape of a class. -/
def item? : List Char → Option (Escape × List Char)
  | '\\' :: cs => Escape.read? cs
  | c :: cs => some (.char c, cs)
  | [] => none

/-- An item, or the range that it begins. A hyphen before the closing bracket or before another
hyphen begins none. -/
def itemOrRange? (anyCase : Bool) (cs : List Char) : Option (CharSet × List Char) := do
  let (lo, rest) ← item? cs
  match rest with
  | '-' :: ']' :: _ | '-' :: '-' :: _ => return (← lo.set? anyCase, rest)
  | '-' :: cs =>
    let (hi, rest) ← item? cs
    match lo, hi with
    | .char lo, .char hi => if lo ≤ hi then some (.range lo hi, rest) else none
    | _, _ => none
  | _ => return (← lo.set? anyCase, rest)

/-- Hyphens at the start of a class, and then a closing bracket if there were none, stand for
themselves. -/
def opening (cs : List Char) : CharSet × List Char :=
  match cs.takeWhile (· == '-'), cs.dropWhile (· == '-') with
  | [], ']' :: rest => (.single ']', rest)
  | [], rest => (.none, rest)
  | _ :: _, rest => (.single '-', rest)

def negation : List Char → Bool × List Char
  | '^' :: cs => (true, cs)
  | cs => (false, cs)

/-- What stands between `[:` and `:]`, if it names a set. -/
def posix? (anyCase : Bool) : List Char → Option (CharSet × List Char)
  | ':' :: cs =>
    let (negated, cs) := negation cs
    match cs.dropWhile (· != ':') with
    | ':' :: ']' :: rest =>
      (Property.ofPosixName? (cs.takeWhile (· != ':'))).map fun s =>
        (s.denoted anyCase negated, rest)
    | _ => none
  | _ => none

/-- A class up to behind its closing bracket, before its own letter cases and negation. `found` is
the union so far and `pending` an operation that waits for its right side. -/
def rest? (anyCase : Bool) : Nat → Option (SetOperator × CharSet) → CharSet → List Char →
    Option (CharSet × List Char)
  | 0, _, _, _ => none
  | fuel + 1, pending, found, cs =>
    match operator? cs with
    | some (op, cs) => rest? anyCase fuel (some (op, combine anyCase pending found)) .none cs
    | none =>
      match cs with
      | [] => none
      | ']' :: cs => some (combine anyCase pending found, cs)
      | '[' :: cs =>
        match posix? anyCase cs with
        | some (s, cs) => rest? anyCase fuel pending (.union found s) cs
        | none => do
          let (negated, cs) := negation cs
          let (first, cs) := opening cs
          let (s, cs) ← rest? anyCase fuel none first cs
          rest? anyCase fuel pending (.union found (s.denoted anyCase negated)) cs
      | cs => do
        let (s, cs) ← itemOrRange? anyCase cs
        rest? anyCase fuel pending (.union found s) cs

def body? (anyCase : Bool) (cs : List Char) : Option (CharSet × List Char) := do
  let (negated, rest) := negation cs
  let (first, rest) := opening rest
  let (s, rest) ← rest? anyCase (cs.length + 1) none first rest
  return (s.denoted anyCase negated, rest)

end SetReader

/-! ## Groups and repetition -/

namespace PatternReader

open Pattern (Flags)

/-- Flags up to a colon or a closing parenthesis, which is left in the text. -/
def flags? (cs : List Char) : Option (Flags → Flags) := do
  let on := cs.takeWhile (· != '-')
  let off := (cs.dropWhile (· != '-')).drop 1
  guard (on ++ off).Nodup
  guard !(cs.contains '-' && off.isEmpty)
  let switch (value : Bool) : Char → Option (Flags → Flags)
    | 'i' => some ({ · with anyCase := value })
    | 's' => some ({ · with dotMatchesNewline := value })
    | 'm' => some ({ · with multiLine := value })
    | 'U' => some id
    | 'u' => if value then some id else none
    | _ => none
  let ons ← on.mapM (switch true)
  let offs ← off.mapM (switch false)
  return fun f => (ons ++ offs).foldl (fun f g => g f) f

def isNameStart (c : Char) : Bool := c == '_' || Text.isAlphabetic c

def isNameRest (c : Char) : Bool :=
  c == '_' || c == '.' || c == '[' || c == ']' || Text.isAlphanumeric c

/-- A group name up to its closing angle bracket. -/
def name? (cs : List Char) : Option (List Char × List Char) :=
  match cs.takeWhile (· != '>'), cs.dropWhile (· != '>') with
  | c :: name, '>' :: rest =>
    if isNameStart c && name.all isNameRest then some (c :: name, rest) else none
  | _, _ => none

/-- A number with blanks around it. -/
def count? (cs : List Char) : Option (Nat × List Char) :=
  let cs := cs.dropWhile Text.isBlank
  let digits := cs.takeWhile Char.isDigit
  let n := digits.foldl (fun n d => 10 * n + (d.toNat - '0'.toNat)) 0
  if digits.isEmpty || n ≥ Nat.pow 2 32 then none
  else some (n, (cs.dropWhile Char.isDigit).dropWhile Text.isBlank)

/-- A counted repetition from behind its opening brace. -/
def counts? (cs : List Char) : Option ((Nat × Option Nat) × List Char) := do
  let (least, cs) ← count? cs
  match cs with
  | '\x7d' :: cs => return ((least, some least), cs)
  | ',' :: '\x7d' :: cs => return ((least, none), cs)
  | ',' :: cs =>
    let (most, cs) ← count? cs
    match cs with
    | '\x7d' :: cs => if least ≤ most then return ((least, some most), cs) else none
    | _ => none
  | _ => none

/-- A repetition operator and the mark that makes it lazy. -/
def repetition? (cs : List Char) : Option (Option ((Nat × Option Nat) × List Char)) :=
  let lazyMark (cs : List Char) : List Char := if cs.head? = some '?' then cs.drop 1 else cs
  match cs with
  | '*' :: cs => some (some ((0, none), lazyMark cs))
  | '+' :: cs => some (some ((1, none), lazyMark cs))
  | '?' :: cs => some (some ((0, some 1), lazyMark cs))
  | '\x7b' :: cs => some ((counts? cs).map fun (n, cs) => (n, lazyMark cs))
  | _ => none

/-- Items of a sequence, latest first; flags are an item that cannot be repeated. -/
def sequence : List (Option Pattern) → Pattern
  | [] => .empty
  | none :: items => sequence items
  | some p :: items => .seq (sequence items) p

def close (earlier : Option Pattern) (items : List (Option Pattern)) : Pattern :=
  match earlier with
  | some p => .choice p (sequence items)
  | none => sequence items

/-- What stands behind an opening parenthesis. -/
inductive Opening where
  | group (flags : Flags) (names : List (List Char))
  | flags (flags : Flags)

def opening? (flags : Flags) (names : List (List Char)) :
    List Char → Option (Opening × List Char)
  | '?' :: '=' :: _ | '?' :: '!' :: _ | '?' :: '<' :: '=' :: _ | '?' :: '<' :: '!' :: _ => none
  | '?' :: 'P' :: '<' :: cs | '?' :: '<' :: cs => do
    let (name, rest) ← name? cs
    guard !(names.contains name)
    return (.group flags (name :: names), rest)
  | '?' :: cs => do
    let marks := cs.takeWhile fun c => c != ':' && c != ')'
    let change ← flags? marks
    match cs.dropWhile fun c => c != ':' && c != ')' with
    | ':' :: rest => return (.group (change flags) names, rest)
    | ')' :: rest => if marks.isEmpty then none else return (.flags (change flags), rest)
    | _ => none
  | cs => some (.group flags names, cs)

def dot (flags : Flags) : Pattern :=
  .char (if flags.dotMatchesNewline then Property.any else .complement (.single '\n'))

/-- Branches up to the end of the text or a closing parenthesis, which is left in the text.
`earlier` are the branches read, `items` what the current one holds, `names` the group names
taken. -/
def branches? : Nat → Flags → List (List Char) → Option Pattern → List (Option Pattern) →
    List Char → Option (Pattern × List (List Char) × List Char)
  | 0, _, _, _, _, _ => none
  | fuel + 1, flags, names, earlier, items, cs =>
    let next (p : Pattern) (cs : List Char) :=
      branches? fuel flags names earlier (some p :: items) cs
    match repetition? cs with
    | some none => none
    | some (some ((least, most), cs)) =>
      match items with
      | some p :: items =>
        branches? fuel flags names earlier (some (.repeated p least most) :: items) cs
      | _ => none
    | none =>
      match cs with
      | [] => some (close earlier items, names, [])
      | ')' :: cs => some (close earlier items, names, ')' :: cs)
      | '|' :: cs => branches? fuel flags names (some (close earlier items)) [] cs
      | '(' :: cs => do
        match ← opening? flags names cs with
        | (.flags flags, cs) => branches? fuel flags names earlier (none :: items) cs
        | (.group inner names, cs) =>
          let (p, names, cs) ← branches? fuel inner names none [] cs
          match cs with
          | ')' :: cs => branches? fuel flags names earlier (some p :: items) cs
          | _ => none
      | '[' :: cs => do
        let (s, cs) ← SetReader.body? flags.anyCase cs
        next (.char s) cs
      | '.' :: cs => next (dot flags) cs
      | '^' :: cs => next (.assertion (if flags.multiLine then .lineStart else .textStart)) cs
      | '$' :: cs => next (.assertion (if flags.multiLine then .lineEnd else .textEnd)) cs
      | '\\' :: cs => do
        match ← Escape.read? cs with
        | (.assertion a, cs) => next (.assertion a) cs
        | (e, cs) => next (.char (← e.set? flags.anyCase)) cs
      | c :: cs => next (.char (CharSet.denoted flags.anyCase false (.single c))) cs

end PatternReader

def Pattern.ofText? (text : List Char) : Option Pattern :=
  match PatternReader.branches? (text.length + 1) {} [] none [] text with
  | some (p, _, []) => some p
  | _ => none

end SeriesQuery
