import SeriesQuery.Pattern.Basic

/-!
# Named sets of characters

* `Property.ofName? name` : the set that `\p{name}` stands for. Letter case, spaces, hyphens and
  underscores of the name do not count;
* `Property.ofPosixName? name` : the set that `[:name:]` stands for inside a class.
-/

namespace SeriesQuery.Property

open Text (Category)

/-- A name without what does not count in it. -/
def plainName (name : List Char) : String :=
  let cs := (name.filter fun c => !(c == ' ' || c == '-' || c == '_')).map Char.toLower
  String.ofList (if cs.take 2 == ['i', 's'] then cs.drop 2 else cs)

/-- General categories and their groups, by short and long name. -/
def categories : List (List String × List Category) := [
  (["l", "letter"], Category.letters),
  (["lc", "casedletter"], [.lu, .ll, .lt]),
  (["lu", "uppercaseletter"], [.lu]),
  (["ll", "lowercaseletter"], [.ll]),
  (["lt", "titlecaseletter"], [.lt]),
  (["lm", "modifierletter"], [.lm]),
  (["lo", "otherletter"], [.lo]),
  (["m", "mark", "combiningmark"], Category.marks),
  (["mn", "nonspacingmark"], [.mn]),
  (["mc", "spacingmark"], [.mc]),
  (["me", "enclosingmark"], [.me]),
  (["n", "number"], Category.numbers),
  (["nd", "decimalnumber", "digit"], [.nd]),
  (["nl", "letternumber"], [.nl]),
  (["no", "othernumber"], [.no]),
  (["p", "punctuation", "punct"], Category.punctuation),
  (["pc", "connectorpunctuation"], [.pc]),
  (["pd", "dashpunctuation"], [.pd]),
  (["ps", "openpunctuation"], [.ps]),
  (["pe", "closepunctuation"], [.pe]),
  (["pi", "initialpunctuation"], [.pi]),
  (["pf", "finalpunctuation"], [.pf]),
  (["po", "otherpunctuation"], [.po]),
  (["s", "symbol"], Category.symbols),
  (["sm", "mathsymbol"], [.sm]),
  (["sc", "currencysymbol"], [.sc]),
  (["sk", "modifiersymbol"], [.sk]),
  (["so", "othersymbol"], [.so]),
  (["z", "separator"], Category.separators),
  (["zs", "spaceseparator"], [.zs]),
  (["zl", "lineseparator"], [.zl]),
  (["zp", "paragraphseparator"], [.zp]),
  (["c", "other"], Category.others),
  (["cc", "control", "cntrl"], [.cc]),
  (["cf", "format"], [.cf]),
  (["co", "privateuse"], [.co]),
  (["cn", "unassigned"], [.cn])]

def ofCategoryName? (name : List Char) : Option CharSet :=
  (categories.find? (·.1.contains (plainName name))).map fun e => .category e.2

def any : CharSet := .complement .none

def ofName? (name : List Char) : Option CharSet :=
  match plainName name with
  | "any" => some any
  | "assigned" => some (.complement (.category [.cn]))
  | "ascii" => some (.range '\x00' '\x7f')
  | "alphabetic" | "alpha" => some .alphabetic
  | "whitespace" | "wspace" | "space" => some .blank
  | _ => ofCategoryName? name

def digits : CharSet := .range '0' '9'

def lowercase : CharSet := .range 'a' 'z'

def uppercase : CharSet := .range 'A' 'Z'

def letters : CharSet := .union lowercase uppercase

/-- These are sets of ASCII characters. -/
def ofPosixName? (name : List Char) : Option CharSet :=
  match String.ofList name with
  | "alnum" => some (.union letters digits)
  | "alpha" => some letters
  | "ascii" => some (.range '\x00' '\x7f')
  | "blank" => some (.union (.single '\t') (.single ' '))
  | "cntrl" => some (.union (.range '\x00' '\x1f') (.single '\x7f'))
  | "digit" => some digits
  | "graph" => some (.range '!' '~')
  | "lower" => some lowercase
  | "print" => some (.range ' ' '~')
  | "punct" => some <|
    .union (.union (.range '!' '/') (.range ':' '@'))
      (.union (.range '[' '\x60') (.range '\x7b' '~'))
  | "space" => some (.union (.range '\t' '\r') (.single ' '))
  | "upper" => some uppercase
  | "word" => some (.union (.union letters digits) (.single '_'))
  | "xdigit" => some (.union digits (.union (.range 'a' 'f') (.range 'A' 'F')))
  | _ => none

end SeriesQuery.Property
