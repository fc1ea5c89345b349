/-!
# TOML values

* `Toml` : a value. Tables remember how they came to be, which decides what can still be added;
* `Toml.descend` : a change to the table that a path leads to, made on the way if it is not there;
* `Toml.addEntry`, `Toml.openTable`, `Toml.appendTable` : the three kinds of line of a document.
  Each is refused where it would define something twice.
-/

namespace SeriesQuery

/-- What made a table. -/
inductive Toml.Origin where
  /-- A header of its own. -/
  | header
  /-- The headers of tables inside it. A header of its own may still follow. -/
  | implied
  /-- The dotted keys of its entries. More of them may follow, but no header. -/
  | dotted
  /-- Braces. Nothing can be added. -/
  | braces
deriving DecidableEq, Repr

inductive Toml where
  | string (s : String)
  | integer (n : Int)
  | float (x : Float)
  | boolean (b : Bool)
  /-- A date, a time of day or both. Its parts are checked and not kept. -/
  | time
  | array (items : List Toml)
  | table (origin : Toml.Origin) (entries : List (String × Toml))
  /-- Tables that share a header in double brackets, the last one apart. -/
  | tables (earlier : List (List (String × Toml))) (last : List (String × Toml))

namespace Toml

abbrev Entries : Type := List (String × Toml)

def setEntry (key : String) (value : Toml) : Entries → Entries
  | [] => [(key, value)]
  | (k, v) :: entries =>
    if k = key then (key, value) :: entries else (k, v) :: setEntry key value entries

/-- What `f` makes of the table at the end of the path. Of tables with one header a path leads into
the last one. Dotted keys do not lead into a table with a header of its own. -/
def descend (dotted : Bool) (f : Origin → Entries → Option Entries) :
    List String → Origin → Entries → Option Entries
  | [], origin, entries => f origin entries
  | key :: path, _, entries => do
    let next ← match entries.lookup key with
      | none =>
        let origin := if dotted then .dotted else .implied
        table origin <$> descend dotted f path origin []
      | some (table origin inner) =>
        if origin = .braces ∨ (dotted ∧ origin = .header) then none
        else table origin <$> descend dotted f path origin inner
      | some (tables earlier last) => tables earlier <$> descend dotted f path .header last
      | some _ => none
    return setEntry key next entries

/-- A new entry below a table. All but the last part of a dotted key name tables that dotted keys
made. -/
def addEntry (path : List String) (key : String) (value : Toml) :
    Origin → Entries → Option Entries :=
  descend true (fun origin entries =>
    if !path.isEmpty && origin != .dotted then none
    else if (entries.lookup key).isSome then none
    else some (setEntry key value entries)) path

/-- The table of a header. -/
def openTable (path : List String) (key : String) : Origin → Entries → Option Entries :=
  descend false (fun _ entries =>
    match entries.lookup key with
    | none => some (setEntry key (table .header []) entries)
    | some (table .implied inner) => some (setEntry key (table .header inner) entries)
    | some _ => none) path

/-- Another table of a header in double brackets. -/
def appendTable (path : List String) (key : String) : Origin → Entries → Option Entries :=
  descend false (fun _ entries =>
    match entries.lookup key with
    | none => some (setEntry key (tables [] []) entries)
    | some (tables earlier last) => some (setEntry key (tables (earlier ++ [last]) []) entries)
    | some _ => none) path

end Toml

end SeriesQuery
