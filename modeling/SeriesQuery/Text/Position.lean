/-!
# Places in a text

* `byteLength cs` : the length of `cs` in UTF-8;
* `Position` : a byte offset with its line and column, both counted from one;
* `Position.locate source offset` : the position of a byte offset, the end of the text at most;
* `Position.atRest source rest` : where the suffix `rest` of `source` begins;
* `Located α` : a syntax node together with the text from its start on.
-/

namespace SeriesQuery.Text

def byteLength : List Char → Nat
  | [] => 0
  | c :: cs => c.utf8Size + byteLength cs

/-- The characters that end within the first `n` bytes. -/
def takeBytes : Nat → List Char → List Char
  | _, [] => []
  | n, c :: cs => if c.utf8Size ≤ n then c :: takeBytes (n - c.utf8Size) cs else []

structure Position where
  /-- In bytes. -/
  offset : Nat
  line : Nat
  /-- In characters. -/
  column : Nat
deriving DecidableEq, Repr

namespace Position

/-- Lines end at a newline; the column restarts behind the last one. -/
def locate (source : List Char) (offset : Nat) : Position :=
  let offset := min offset (byteLength source)
  let before := takeBytes offset source
  { offset
    line := before.count '\n' + 1
    column := (before.reverse.takeWhile (· != '\n')).length + 1 }

def atRest (source rest : List Char) : Position :=
  locate source (byteLength source - byteLength rest)

def text (p : Position) : String := s!"{p.line}:{p.column}"

end Position

/-- A syntax node and the source text from its first character to the end of the source. -/
structure Located (α : Type) where
  start : List Char
  node : α
deriving DecidableEq, Repr

def Located.position (source : List Char) (x : Located α) : Position :=
  Position.atRest source x.start

end SeriesQuery.Text
