import SeriesQuery.Query.Error
import SeriesQuery.Query.Syntax
import SeriesQuery.Text.Parser

/-!
# Grammar of queries

* `Grammar.identifier`, `Grammar.quoted`, `Grammar.bracket`, `Grammar.matchBody`, ... : the parts;
* `Grammar.exprWithin depth`, `Grammar.expr` : expressions, `*` and `/` before `+` and `-`, both
  from the left. An operator stands on the line of its left operand, so that a line can end a
  statement;
* `Grammar.statementsWithin depth`, `Grammar.statements` : statements up to the end of the text or
  a closing brace;
* `Statement.ofText source` : the statements of a whole query, or where reading stopped.

Every nested construct begins with a character of its own, so the length of the text bounds the
depth.
-/

namespace SeriesQuery

open Text (Located Position)

namespace Grammar

open SeriesQuery.Parser

/-! ## Words and values -/

/-- Names of events, labels and reductions. -/
def identifier : Parser String := do
  let first ← takeWhile1 fun c => Text.isAlphabetic c || c == '_'
  let rest ← Parser.takeWhile fun c => Text.isAlphanumeric c || c == '_' || c == '.'
  return String.ofList (first ++ rest)

/-- Text between two marks of one kind, which it cannot hold. -/
def quotedBy (mark : Char) : Parser String := do
  let _ ← char mark
  let text ← Parser.takeWhile (· != mark)
  let _ ← char mark
  return String.ofList text

def quoted : Parser String := quotedBy '"' <|> quotedBy '\''

def comma : Parser Char := do
  gap
  let c ← char ','
  gap
  return c

def number : Parser Expr := do
  let sign ← optional (char '-')
  let whole ← digits
  let fraction ← optional (do let _ ← char '.'; digits)
  let fraction := fraction.getD []
  let magnitude := floatOfDecimal (natOfDigits (whole ++ fraction)) (-fraction.length)
  return .number (if sign.isSome then -magnitude else magnitude)

/-! ## Brackets -/

def unit : Parser Int := do
  let letter ← oneOf (Time.units.map (·.2))
  return ((Time.units.find? (·.2 = letter)).map (·.1)).getD Time.second

/-- `n` units, as long as that fits; an overflow is a failure at `place`. -/
def scale (place : List Char) (n unit : Int) : Parser Int := fun s =>
  match Time.checked? (n * unit) with
  | some ms => .done ms s
  | none => .failed place

def boundedInt (p : Parser (List Char)) : Parser Int :=
  filterMap (fun cs => (readInt? cs).bind Time.checked?) p

def signedDigits : Parser (List Char) := do
  let sign ← optional (oneOf ['+', '-'])
  return sign.toList ++ (← digits)

/-- `n:unit`. -/
def offsetSpec : Parser Int := fun s => (show Parser Int from do
  let n ← boundedInt signedDigits
  blanks
  let _ ← char ':'
  blanks
  scale s n (← unit)) s

/-- `unit` or `n unit`, more than nothing. -/
def stepSpec : Parser Int := fun s => (show Parser Int from do
  let n ← optional (do let n ← boundedInt digits; blanks; return n)
  let ms ← scale s (n.getD 1) (← unit)
  if ms ≤ 0 then refuse else return ms) s

def inBrackets (p : Parser α) : Parser α := do
  let _ ← char '['
  blanks
  let a ← p
  blanks
  let _ ← char ']'
  return a

def bracket : Parser Bracket :=
  inBrackets (Bracket.offset <$> offsetSpec <|> Bracket.step <$> stepSpec)

/-! ## Conditions -/

def value : Parser String := quoted <|> String.ofList <$> takeWhile1 isValueChar

/-- Up to the closing parenthesis, without blanks at the end. -/
def rawArgument : Parser String := do
  let text ← takeWhile1 (· != ')')
  return String.ofList (text.reverse.dropWhile Text.isBlank).reverse

def predicateCall : Parser Predicate := do
  let _ ← char '!'
  let name ← commit identifier
  commit do
    let _ ← char '('
    blanks
    let arg ← quoted <|> rawArgument
    blanks
    let _ ← char ')'
    return .call name arg

def predicate : Parser (Located Predicate) :=
  located (predicateCall <|> Predicate.value <$> value)

def labelMatch : Parser LabelMatch := do
  let label ← identifier
  blanks
  let _ ← char ':'
  blanks
  let predicates ← nonEmptyListOf predicate (do blanks; let _ ← char '|'; blanks)
  return ⟨label, predicates⟩

/-- Items between braces, with a comma allowed after the last one. -/
def braceRest (item : Parser α) : Parser (List α) := do
  let items ← listOf item comma
  let _ ← optional comma
  gap
  let _ ← char '\x7d'
  return items

def openBrace : Parser Unit := do
  let _ ← char '\x7b'
  gap

def matchBody : Parser (List LabelMatch) := do
  openBrace
  commit (braceRest labelMatch)

/-! ## Expressions -/

def event : Parser Expr := do
  let name ← identifier
  let labels ← optional (do blanks; matchBody)
  return .event name (labels.getD [])

section Within

variable (inner : Parser (Located Expr))

def paren : Parser Expr := do
  let _ ← char '('
  gap
  let e ← commit inner
  commit do
    gap
    let _ ← char ')'
    return .paren e

def call : Parser Expr := do
  let _ ← char '!'
  let name ← commit identifier
  blanks
  let args ← commit (do openBrace; braceRest inner)
  return .call name args

def primary : Parser (Located Expr) :=
  located (number <|> paren inner <|> call inner <|> event)

/-- An expression with what is put behind it begins where it does itself. -/
def postfixed : Parser (Located Expr) := do
  let e ← primary inner
  fold bracket (fun e b => ⟨e.start, .shift e b⟩) e

def operator (ops : List (Char × Merger)) : Parser Merger := do
  blanks
  let symbol ← oneOf (ops.map (·.1))
  gap
  return ((ops.find? (·.1 = symbol)).map (·.2)).getD .add

def chain (operand : Parser (Located Expr)) (ops : List (Char × Merger)) :
    Parser (Located Expr) := do
  let e ← operand
  fold (do let op ← operator ops; return (op, ← commit operand))
    (fun lhs (op, rhs) => ⟨lhs.start, .binary op lhs rhs⟩) e

def term : Parser (Located Expr) := chain (postfixed inner) [('*', .mul), ('/', .div)]

def sum : Parser (Located Expr) := chain (term inner) [('+', .add), ('-', .sub)]

end Within

def exprWithin : Nat → Parser (Located Expr)
  | 0 => refuse
  | depth + 1 => sum (exprWithin depth)

def expr : Parser (Located Expr) := fun s => exprWithin (s.length + 1) s

/-! ## Clauses -/

def filterClause : Parser Clause := do
  keyword "WHERE".toList
  gap
  return .filter (← matchBody)

inductive GroupArg where
  | missing (value : String)
  | reduction (name : Located String)
  | label (name : String)

def reductionArg : Parser (Located String) := located do
  let _ ← char '!'
  identifier

def groupArg : Parser GroupArg :=
  GroupArg.missing <$> quoted <|> GroupArg.reduction <$> reductionArg <|>
    GroupArg.label <$> identifier

/-- Labels add up; of the other arguments the last one counts. -/
def GroupArg.addTo (args : GroupArgs) : GroupArg → GroupArgs
  | .missing value => { args with missing := some value }
  | .reduction name => { args with reduction := some name }
  | .label name => { args with labels := args.labels ++ [name] }

def groupClause : Parser Clause := do
  keyword "GROUP".toList <|> keyword "BY".toList
  gap
  openBrace
  let args ← listOf groupArg comma
  gap
  let _ ← char '\x7d'
  return .group (args.foldl GroupArg.addTo {})

def offsetClause : Parser Clause := do
  keyword "OFFSET".toList
  blanks
  return .offset (← inBrackets offsetSpec)

def clause : Parser Clause := do
  let _ ← char '*'
  commit (filterClause <|> groupClause <|> offsetClause)

/-! ## Statements -/

def named : Parser Statement := do
  let name ← identifier
  blanks
  let _ ← char ':'
  gap
  return .expr (some name) (← commit expr)

def separators : Parser Unit := do
  let _ ← Parser.takeWhile fun c => Text.isBlank c || c == ';' || c == ','

/-- The end of the text or of the block. -/
def atEnd : List Char → Bool
  | [] => true
  | c :: _ => c == '\x7d'

/-- What has to stand between two statements. -/
def separator : Parser Unit := do
  let _ ← oneOf [';', ',', '\n', '\r']
  separators

def statementsRest (statement : Parser (Located Statement)) (found : List (Located Statement)) :
    Parser (List (Located Statement)) := fun s =>
  if atEnd s then .done found s
  else
    match (do let x ← statement; blanks; return x : Parser (Located Statement)) s with
    | .done x rest =>
      if atEnd rest then .done (found ++ [x]) rest
      else
        match separator rest with
        | .done _ rest =>
          if rest.length < s.length then statementsRest statement (found ++ [x]) rest
          else .refused rest
        | .refused place => .refused place
        | .failed place => .failed place
    | .refused place => .refused place
    | .failed place => .failed place
termination_by s => s.length

def block (body : Parser (List (Located Statement))) : Parser Statement := do
  let _ ← char '\x7b'
  let statements ← commit body
  let _ ← commit (char '\x7d')
  return .block statements

def statement (body : Parser (List (Located Statement))) : Parser (Located Statement) :=
  located <|
    Statement.clause <$> clause <|> block body <|> named <|> Statement.expr none <$> expr

def statementsWithin : Nat → Parser (List (Located Statement))
  | 0 => refuse
  | depth + 1 => do
    separators
    statementsRest (statement (statementsWithin depth)) []

def statements : Parser (List (Located Statement)) := fun s =>
  statementsWithin (s.length + 1) s

end Grammar

/-! ## Whole queries -/

/-- The first line of `rest`, 24 characters of it at most. -/
def snippet (rest : List Char) : String :=
  let line := rest.takeWhile (· != '\n')
  let line :=
    if line.length < rest.length && line.getLast? = some '\r' then line.dropLast else line
  String.ofList (line.take 24)

def Statement.ofText (source : String) : Except QueryError (List (Located Statement)) :=
  let source := source.toList
  let stopped (rest : List Char) (fault : ParseFault) : QueryError :=
    .parse (Position.atRest source rest) fault
  match Grammar.statements source with
  | .done found rest =>
    match rest.dropWhile Text.isBlank with
    | [] => .ok found
    | rest => .error (stopped rest (.unexpected (snippet rest)))
  | .refused place | .failed place =>
    .error <| stopped place <|
      if place.isEmpty then .endOfInput else .unexpected (snippet place)

end SeriesQuery
