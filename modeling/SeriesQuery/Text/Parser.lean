import SeriesQuery.Text.Class
import SeriesQuery.Text.Position

/-!
# Parsers

A parser reads from the start of a text. It can end in three ways: done with a value and the rest of
the text, refused, so that another alternative may be tried from the same place, or failed for good.
The latter two name the place where reading stopped.

* `Parser.orElse` (`<|>`) : the second parser where the first refuses;
* `Parser.commit` : a refusal becomes a failure;
* `Parser.optional`, `Parser.fold`, `Parser.many`, `Parser.listOf`, `Parser.nonEmptyListOf` :
  repetition up to the first refusal, which is forgotten;
* `Parser.char`, `Parser.exactly`, `Parser.takeWhile`, `Parser.keyword`, ... : text;
* `Parser.filterMap` : a value computed if possible, or else a refusal before what was read;
* `Parser.located` : the value with the text it was read from.
-/

namespace SeriesQuery

inductive Reply (α : Type) where
  | done (value : α) (rest : List Char)
  | refused (place : List Char)
  | failed (place : List Char)

def Parser (α : Type) : Type := List Char → Reply α

namespace Parser

variable {α β σ : Type}

protected def pure (a : α) : Parser α := fun s => .done a s

protected def bind (p : Parser α) (f : α → Parser β) : Parser β := fun s =>
  match p s with
  | .done a rest => f a rest
  | .refused place => .refused place
  | .failed place => .failed place

instance : Monad Parser where
  pure := Parser.pure
  bind := Parser.bind

/-! ## Alternatives -/

def refuse : Parser α := fun s => .refused s

def orElse (p q : Parser α) : Parser α := fun s =>
  match p s with
  | .refused _ => q s
  | reply => reply

instance : OrElse (Parser α) := ⟨fun p q => orElse p (q ())⟩

def commit (p : Parser α) : Parser α := fun s =>
  match p s with
  | .refused place => .failed place
  | reply => reply

def optional (p : Parser α) : Parser (Option α) := fun s =>
  match p s with
  | .done a rest => .done (some a) rest
  | .refused _ => .done none s
  | .failed place => .failed place

def filterMap (f : α → Option β) (p : Parser α) : Parser β := fun s =>
  match p s with
  | .done a rest =>
    match f a with
    | some b => .done b rest
    | none => .refused s
  | .refused place => .refused place
  | .failed place => .failed place

/-! ## Repetition -/

/-- Values of `p` up to the first refusal, combined from the left. Repetition also ends when `p`
reads nothing. -/
def fold (p : Parser β) (f : α → β → α) (acc : α) : Parser α := fun s =>
  match p s with
  | .done b rest =>
    if rest.length < s.length then fold p f (f acc b) rest else .done (f acc b) rest
  | .refused _ => .done acc s
  | .failed place => .failed place
termination_by s => s.length

/-- One or more items; a separator that no item follows is left in the text. -/
def nonEmptyListOf (item : Parser α) (separator : Parser σ) : Parser (List α) := do
  let first ← item
  fold (do let _ ← separator; item) (fun items a => items ++ [a]) [first]

def listOf (item : Parser α) (separator : Parser σ) : Parser (List α) := fun s =>
  match nonEmptyListOf item separator s with
  | .refused _ => .done [] s
  | reply => reply

/-! ## Text -/

def char (c : Char) : Parser Char
  | d :: rest => if d = c then .done d rest else .refused (d :: rest)
  | [] => .refused []

def oneOf (cs : List Char) : Parser Char
  | d :: rest => if cs.contains d then .done d rest else .refused (d :: rest)
  | [] => .refused []

def takeWhile (p : Char → Bool) : Parser (List Char) := fun s =>
  .done (s.takeWhile p) (s.dropWhile p)

def takeWhile1 (p : Char → Bool) : Parser (List Char) := fun s =>
  if (s.takeWhile p).isEmpty then .refused s else .done (s.takeWhile p) (s.dropWhile p)

def digits : Parser (List Char) := takeWhile1 Char.isDigit

/-- A word of ASCII capitals, in any letter case. -/
def keyword (word : List Char) : Parser Unit := fun s =>
  if (s.take word.length).map Char.toUpper = word then .done () (s.drop word.length)
  else .refused s

def satisfy (p : Char → Bool) : Parser Char
  | c :: rest => if p c then .done c rest else .refused (c :: rest)
  | [] => .refused []

def exactly (w : List Char) : Parser Unit := fun s =>
  if w.isPrefixOf s then .done () (s.drop w.length) else .refused s

/-- The end of the whole text. -/
def atEnd : Parser Unit := fun s => if s.isEmpty then .done () s else .refused s

/-- Zero or more values of `p`. -/
def many (p : Parser α) : Parser (List α) :=
  List.reverse <$> fold p (fun values a => a :: values) []

/-- Spaces and tabs. -/
def blanks : Parser Unit := do let _ ← takeWhile [' ', '\t'].contains

/-- Spaces, tabs and ends of lines. -/
def gap : Parser Unit := do let _ ← takeWhile [' ', '\t', '\r', '\n'].contains

def located (p : Parser α) : Parser (Text.Located α) := fun s =>
  match p s with
  | .done a rest => .done ⟨s, a⟩ rest
  | .refused place => .refused place
  | .failed place => .failed place

end Parser

end SeriesQuery
