import SeriesQuery.Calendar.Timestamp
import SeriesQuery.Decimal.Text
import SeriesQuery.Toml.Basic

/-!
# Reading TOML

* `Toml.stringValue`, `Toml.numberValue`, `Toml.timeValue` : the scalars;
* `Toml.valueWithin depth` : values with arrays and tables in braces up to some depth;
* `Toml.Line` : a header or an entry; blank lines are none;
* `Toml.Document` : what the lines so far define, `Toml.Document.add`;
* `Toml.read? s` : the entries of a whole document.
-/

namespace SeriesQuery.Toml

open SeriesQuery.Parser

/-! ## Lines and comments -/

/-- Comments and strings hold no control characters but tabs. -/
def isText (c : Char) : Bool := c == '\t' || (32 ≤ c.toNat && c.toNat != 127)

def newline : Parser Unit := exactly ['\n'] <|> exactly ['\r', '\n']

def comment : Parser Unit := do
  let _ ← char '#'
  let _ ← Parser.takeWhile isText

def lineEnd : Parser Unit := do
  blanks
  let _ ← optional comment
  newline <|> atEnd

/-- Blanks, comments and ends of lines between the items of an array. -/
def betweenItems : Parser Unit := do
  blanks
  let _ ← many (do let _ ← optional comment; newline; blanks)

/-! ## Strings -/

def shortEscape? : Char → Option Char
  | 'b' => some '\x08'
  | 't' => some '\t'
  | 'n' => some '\n'
  | 'f' => some '\x0c'
  | 'r' => some '\r'
  | '"' => some '"'
  | '\\' => some '\\'
  | _ => none

def codePoint (count : Nat) : Parser Char :=
  filterMap charOfHex? fun s =>
    let ds := s.take count
    if ds.length = count then .done ds (s.drop count) else .refused s

def escape : Parser Char := do
  let _ ← char '\\'
  filterMap shortEscape? (satisfy fun _ => true) <|>
    (do let _ ← char 'u'; codePoint 4) <|> (do let _ ← char 'U'; codePoint 8)

/-- A backslash before the end of a line, with all blank space up to the next text. -/
def joinedLines : Parser (List Char) := do
  let _ ← char '\\'
  blanks
  newline
  let _ ← many (newline <|> (do let _ ← oneOf [' ', '\t']))
  return []

def rawText (mark : Char) (escapes : Bool) : Parser (List Char) :=
  takeWhile1 fun c => isText c && c != mark && !(escapes && c == '\\')

def escaped (escapes : Bool) : Parser (List Char) :=
  if escapes then (fun c => [c]) <$> escape else refuse

def lineString (mark : Char) (escapes : Bool) : Parser (List Char) := do
  let _ ← char mark
  let parts ← many (rawText mark escapes <|> escaped escapes)
  let _ ← char mark
  return parts.flatten

/-- One or two marks, which do not end a string of several lines. -/
def fewMarks (mark : Char) : Parser (List Char) :=
  filterMap (fun marks => if marks.length ≤ 2 then some marks else none) (takeWhile1 (· == mark))

/-- Three marks, and up to two marks before them that belong to the text. -/
def closingMarks (mark : Char) : Parser (List Char) :=
  filterMap (fun marks => if 3 ≤ marks.length ∧ marks.length ≤ 5 then some (marks.drop 3) else none)
    (takeWhile1 (· == mark))

/-- Text over several lines. A line that the opening marks stand on alone is left out. -/
def blockString (mark : Char) (escapes : Bool) : Parser (List Char) := do
  exactly [mark, mark, mark]
  let _ ← optional newline
  let parts ← many <|
    rawText mark escapes <|> (if escapes then joinedLines else refuse) <|> escaped escapes <|>
      (do newline; return ['\n']) <|> fewMarks mark
  return parts.flatten ++ (← closingMarks mark)

def stringValue : Parser Toml :=
  (fun cs => Toml.string (String.ofList cs)) <$>
    (blockString '"' true <|> lineString '"' true <|>
      blockString '\'' false <|> lineString '\'' false)

/-! ## Numbers -/

def sign : Parser (List Char) := Option.toList <$> optional (oneOf ['+', '-'])

/-- Digits, single underscores between them left out. -/
def grouped (isDigit : Char → Bool) : Parser (List Char) := do
  let first ← satisfy isDigit
  let more ← many ((do let _ ← char '_'; satisfy isDigit) <|> satisfy isDigit)
  return first :: more

/-- No digit follows a leading zero. -/
def wholeDigits : Parser (List Char) := (do let c ← char '0'; return [c]) <|> grouped Char.isDigit

def integer? (n : Int) : Option Toml := .integer <$> Time.checked? n

def decimalInteger : Parser Toml :=
  filterMap (fun cs => (readInt? cs).bind integer?) do return (← sign) ++ (← wholeDigits)

def ofRadix (radix : Nat) (digits : List Char) : Int :=
  digits.foldl (fun n d => radix * n + (hexDigit? d).getD 0) 0

def radixInteger (mark : Char) (radix : Nat) : Parser Toml :=
  filterMap (fun cs => integer? (ofRadix radix cs)) do
    exactly ['0', mark]
    grouped fun c => (hexDigit? c).any (· < radix)

def exponent : Parser Int := do
  let _ ← oneOf ['e', 'E']
  let negative := (← sign) == ['-']
  let digits ← grouped Char.isDigit
  return if negative then -natOfDigits digits else natOfDigits digits

/-- A fraction, an exponent or both. Numbers too large for a double are refused unless they are
negative. -/
def decimalFloat : Parser Toml :=
  filterMap (fun x => if x.isInf && x > 0.0 then none else some (Toml.float x)) do
    let negative := (← sign) == ['-']
    let whole ← wholeDigits
    let fraction ← optional (do let _ ← char '.'; grouped Char.isDigit)
    let e ← (if fraction.isSome then optional exponent else some <$> exponent)
    let fraction := fraction.getD []
    let magnitude :=
      floatOfDecimal (natOfDigits (whole ++ fraction)) (e.getD 0 - fraction.length)
    return if negative then -magnitude else magnitude

def namedFloat : Parser Toml := do
  let negative := (← sign) == ['-']
  let magnitude ←
    (do exactly ['i', 'n', 'f']; return 1.0 / 0.0)
      <|> (do exactly ['n', 'a', 'n']; return 0.0 / 0.0)
  return .float (if negative then -magnitude else magnitude)

def numberValue : Parser Toml :=
  decimalFloat <|> namedFloat <|> radixInteger 'x' 16 <|> radixInteger 'o' 8 <|>
    radixInteger 'b' 2 <|> decimalInteger

/-! ## Times and truth values -/

/-- A date, a time of day, or both with an optional offset. -/
def timeValue : Parser Toml :=
  (do
    let _ ← Calendar.date
    let _ ← optional do
      let _ ← oneOf ['T', 't', ' ']
      let _ ← Calendar.timeOfDay
      optional (Calendar.offset ['-'])
    return .time) <|>
  (do let _ ← Calendar.timeOfDay; return .time)

def booleanValue : Parser Toml :=
  (do exactly "true".toList; return .boolean true) <|>
  (do exactly "false".toList; return .boolean false)

/-! ## Keys and nested values -/

/-- The limit on the nesting of values and on the parts of a key. -/
def greatestDepth : Nat := 79

def bareKey : Parser (List Char) := takeWhile1 fun c => c.isAlphanum || c == '_' || c == '-'

def keyPart : Parser String := do
  blanks
  let cs ← bareKey <|> lineString '"' true <|> lineString '\'' false
  blanks
  return String.ofList cs

/-- The parts before the last one, and the last one. -/
def splitKey? (parts : List String) : Option (List String × String) :=
  if parts.length ≤ greatestDepth then parts.getLast?.map (parts.dropLast, ·) else none

def key : Parser (List String × String) := filterMap splitKey? (nonEmptyListOf keyPart (char '.'))

/-- An entry as it stands in braces or on a line. -/
structure Entry where
  path : List String
  key : String
  value : Toml

def entry (value : Parser Toml) : Parser Entry := do
  let (path, last) ← key
  let _ ← char '='
  blanks
  return ⟨path, last, ← value⟩

def arrayOf (value : Parser Toml) : Parser Toml := do
  let _ ← char '['
  let items ← listOf (do betweenItems; let v ← value; betweenItems; return v) (char ',')
  if !items.isEmpty then
    let _ ← optional (char ',')
  betweenItems
  let _ ← char ']'
  return .array items

def tableOf? (entries : List Entry) : Option Toml :=
  table .braces <$>
    entries.foldlM (fun made (e : Entry) => addEntry e.path e.key e.value .braces made) []

def tableOf (value : Parser Toml) : Parser Toml :=
  filterMap tableOf? do
    let _ ← char '\x7b'
    let entries ← listOf (do let e ← entry value; blanks; return e) (char ',')
    blanks
    let _ ← char '\x7d'
    return entries

def scalar : Parser Toml := stringValue <|> timeValue <|> numberValue <|> booleanValue

def valueWithin : Nat → Parser Toml
  | 0 => scalar
  | depth + 1 => scalar <|> arrayOf (valueWithin depth) <|> tableOf (valueWithin depth)

/-! ## Documents -/

inductive Line where
  | blank
  | header (path : List String) (key : String)
  | arrayHeader (path : List String) (key : String)
  | entry (e : Entry)

def arrayHeader : Parser Line := do
  exactly ['[', '[']
  let (path, last) ← key
  exactly [']', ']']
  return .arrayHeader path last

def header : Parser Line := do
  let _ ← char '['
  let (path, last) ← key
  let _ ← char ']'
  return .header path last

/-- A line with its end; there is none at the end of the text. -/
def line : Parser Line := fun s =>
  if s.isEmpty then .refused s
  else
    (do
      blanks
      let content ←
        arrayHeader <|> header <|> Line.entry <$> entry (valueWithin greatestDepth) <|>
          pure .blank
      lineEnd
      return content : Parser Line) s

/-- The entries so far, and the path of the table that further entries go to. -/
structure Document where
  entries : Entries
  current : List String

namespace Document

def empty : Document := ⟨[], []⟩

def add (d : Document) : Line → Option Document
  | .blank => some d
  | .header path key => do
    return ⟨← openTable path key .header d.entries, path ++ [key]⟩
  | .arrayHeader path key => do
    return ⟨← appendTable path key .header d.entries, path ++ [key]⟩
  | .entry e => do
    let added := addEntry e.path e.key e.value
    return { d with entries := ← descend false added d.current .header d.entries }

end Document

/-- A byte order mark may stand at the beginning. -/
def read? (s : String) : Option Entries :=
  let cs := s.toList
  let cs := if cs.head? = some '\ufeff' then cs.drop 1 else cs
  match many line cs with
  | .done lines [] => Document.entries <$> lines.foldlM Document.add .empty
  | _ => none

end SeriesQuery.Toml
