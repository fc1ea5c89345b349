import SeriesQuery.Json.Basic
import SeriesQuery.Text.Parser

/-!
# Reading JSON

* `Json.stringRest?` : a string behind its opening quote;
* `Json.numberToken` : a number as it is written;
* `Json.valueWithin depth` : a value, blanks before it skipped;
* `Json.read? s` : the whole text as one value.
-/

namespace SeriesQuery.Json

open SeriesQuery.Parser

/-! ## Strings -/

/-- A character, or a 16-bit unit that was escaped. -/
inductive StringUnit where
  | char (c : Char)
  | unit (n : Nat)

def shortEscape? : Char → Option Char
  | '"' => some '"'
  | '\\' => some '\\'
  | '/' => some '/'
  | 'b' => some '\x08'
  | 'f' => some '\x0c'
  | 'n' => some '\n'
  | 'r' => some '\r'
  | 't' => some '\t'
  | _ => none

/-- The units up to the closing quote, and the text behind it. -/
def stringRest? : List Char → Option (List StringUnit × List Char)
  | '"' :: rest => some ([], rest)
  | '\\' :: 'u' :: a :: b :: c :: d :: rest => do
    let n ← natOfHex? [a, b, c, d]
    let (units, rest) ← stringRest? rest
    return (.unit n :: units, rest)
  | '\\' :: e :: rest => do
    let c ← shortEscape? e
    let (units, rest) ← stringRest? rest
    return (.char c :: units, rest)
  | c :: rest =>
    if c.toNat < 32 then none
    else do
      let (units, rest) ← stringRest? rest
      return (.char c :: units, rest)
  | [] => none

/-- Units joined in surrogate pairs, none if one is without its other half. -/
def joinUnits : List StringUnit → Option (List Char)
  | [] => some []
  | .char c :: rest => (joinUnits rest).map (c :: ·)
  | .unit n :: rest =>
    if 0xD800 ≤ n && n < 0xDC00 then
      match rest with
      | .unit m :: rest =>
        if 0xDC00 ≤ m && m < 0xE000 then
          (joinUnits rest).map (Char.ofNat (0x10000 + (n - 0xD800) * 0x400 + (m - 0xDC00)) :: ·)
        else none
      | _ => none
    else if 0xDC00 ≤ n && n < 0xE000 then none
    else (joinUnits rest).map (Char.ofNat n :: ·)

def stringToken : Parser (Option String) := fun
  | '"' :: rest =>
    match stringRest? rest with
    | some (units, rest) => .done ((joinUnits units).map String.ofList) rest
    | none => .failed ('"' :: rest)
  | s => .refused s

/-! ## Numbers -/

/-- No digit follows a leading zero. -/
def wholeDigits : Parser (List Char) :=
  (do let c ← char '0'; return [c]) <|> digits

def fractionDigits : Parser (List Char) := do
  let point ← char '.'
  return point :: (← commit digits)

def exponentDigits : Parser (List Char) := do
  let e ← oneOf ['e', 'E']
  let sign ← optional (oneOf ['+', '-'])
  return e :: sign.toList ++ (← commit digits)

def numberToken : Parser (List Char) := do
  let sign ← optional (char '-')
  let whole ← wholeDigits
  let fraction ← optional fractionDigits
  let exponent ← optional exponentDigits
  return sign.toList ++ whole ++ fraction.getD [] ++ exponent.getD []

/-! ## Values -/

def word (w : String) (j : Json) : Parser Json := do
  exactly w.toList
  return j

/-- Items between an opening and a closing character, without a comma after the last one. -/
def between (opening closing : Char) (item : Parser α) : Parser (List α) := do
  let _ ← char opening
  gap
  match ← optional (char closing) with
  | some _ => return []
  | none =>
    let items ← nonEmptyListOf (do let a ← item; gap; return a) (char ',')
    let _ ← char closing
    return items

def entry (value : Parser Json) : Parser (Option String × Json) := do
  gap
  let key ← stringToken
  gap
  let _ ← char ':'
  return (key, ← value)

def valueWithin : Nat → Parser Json
  | 0 => refuse
  | depth + 1 => do
    gap
    word "null" .null <|> word "true" (.bool true) <|> word "false" (.bool false) <|>
      Json.string <$> stringToken <|> Json.number <$> numberToken <|>
      Json.array <$> between '[' ']' (valueWithin depth) <|>
      Json.object <$> between '\x7b' '\x7d' (entry (valueWithin depth))

def read? (s : String) : Option Json :=
  let cs := s.toList
  match (do let j ← valueWithin (cs.length + 1); gap; return j : Parser Json) cs with
  | .done j [] => some j
  | _ => none

end SeriesQuery.Json
