import SeriesQuery.Text.Class

/-!
# Quoted text

Text between double quotes, with escapes for what would not show or would end it.

* `escape alsoApostrophe c` : how `c` is written inside the quotes;
* `quote s` : `s` in quotes, as names and filters print it;
* `quotePath s` : the same for file paths, where an apostrophe is escaped too.
-/

namespace SeriesQuery.Text

/-- A character by its code point, in lower-case hexadecimal without leading zeros. -/
def escapeCode (c : Char) : List Char :=
  ['\\', 'u', '{'] ++ Nat.toDigits 16 c.toNat ++ ['}']

/-- The five short escapes, then the apostrophe if asked, then code points for what does not print
or would join the character before it. -/
def escape (alsoApostrophe : Bool) (c : Char) : List Char :=
  match c with
  | '\x00' => ['\\', '0']
  | '\t' => ['\\', 't']
  | '\r' => ['\\', 'r']
  | '\n' => ['\\', 'n']
  | '\\' => ['\\', '\\']
  | '"' => ['\\', '"']
  | c =>
    if c == '\'' && alsoApostrophe then ['\\', c]
    else if extendsGrapheme c || !isPrintable c then escapeCode c
    else [c]

def quoteWith (alsoApostrophe : Bool) (s : String) : String :=
  String.ofList ('"' :: s.toList.flatMap (escape alsoApostrophe) ++ ['"'])

def quote (s : String) : String := quoteWith false s

def quotePath (s : String) : String := quoteWith true s

end SeriesQuery.Text
