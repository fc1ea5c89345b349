import SeriesQuery.Host
import SeriesQuery.Query.Report
import SeriesQuery.Text.Quoted
import SeriesQuery.Toml.Reader

/-!
# Settings

* `Settings` : options of queries and of logging;
* `Settings.ofText? s` : read from a TOML document; what it leaves out keeps its default;
* `Settings.defaultText` : a document with all defaults;
* `Settings.override` : variables of the environment win over documents, those without meaning
  being passed over;
* `Settings.load`, `Settings.find` : from one file, or from the first usable one of the usual
  places.
-/

namespace SeriesQuery

structure Logging where
  level : String := "info"
  format : String := "pretty"
deriving DecidableEq, Repr

structure Settings where
  query : QueryOptions := {}
  logging : Logging := {}
deriving DecidableEq, Repr

namespace Settings

/-! ## From a document -/

/-- The members of a section by name. An array gives them in order, and a time gives none. -/
def members? (names : List String) : Toml → Option (List (Option Toml))
  | .table _ entries => some (names.map (entries.lookup ·))
  | .array items => some ((List.range names.length).map fun i => items[i]?)
  | .time => some (names.map fun _ => none)
  | _ => none

/-- What is left out has a default; what is there must be of the right kind. -/
def memberOr (default : α) (decode? : Toml → Option α) : Option Toml → Option α
  | none => some default
  | some value => decode? value

def text? : Toml → Option String
  | .string s => some s
  | _ => none

def truth? : Toml → Option Bool
  | .boolean b => some b
  | _ => none

def count? : Toml → Option Nat
  | .integer n => if 0 ≤ n then some n.toNat else none
  | _ => none

def queryOptions? (t : Toml) : Option QueryOptions := do
  let default : QueryOptions := {}
  match ← members? ["dedup_scan_queries", "max_scan_queries", "group_empty"] t with
  | [distinct, limit, missing] =>
    return {
      distinctScans := ← memberOr default.distinctScans truth? distinct
      maxScans := ← memberOr default.maxScans count? limit
      missing := ← memberOr default.missing text? missing }
  | _ => none

def logging? (t : Toml) : Option Logging := do
  let default : Logging := {}
  match ← members? ["level", "format"] t with
  | [level, format] =>
    return {
      level := ← memberOr default.level text? level
      format := ← memberOr default.format text? format }
  | _ => none

/-- Entries that are no settings are passed over. -/
def ofEntries? (entries : Toml.Entries) : Option Settings := do
  return {
    query := ← memberOr {} queryOptions? (entries.lookup "query")
    logging := ← memberOr {} logging? (entries.lookup "logging") }

def ofText? (s : String) : Option Settings := do ofEntries? (← Toml.read? s)

def defaultText : String :=
  "# Tally Configuration\n" ++
  "#\n" ++
  "# Environment variables override these settings:\n" ++
  "# - TALLY_DEDUP_SCANS\n" ++
  "# - TALLY_MAX_SCANS\n" ++
  "# - TALLY_GROUP_EMPTY\n" ++
  "# - TALLY_LOG_LEVEL\n" ++
  "# - TALLY_LOG_FORMAT\n" ++
  "\n" ++
  "[query]\n" ++
  "# Send identical scan queries to the backend only once\n" ++
  "dedup_scan_queries = true\n" ++
  "\n" ++
  "# Maximum scan queries per evaluation (0 = unlimited)\n" ++
  "max_scan_queries = 0\n" ++
  "\n" ++
  "# Group value for series that lack a grouped label\n" ++
  "group_empty = \"\"\n" ++
  "\n" ++
  "[logging]\n" ++
  "# Log level: trace, debug, info, warn, error\n" ++
  "level = \"info\"\n" ++
  "\n" ++
  "# Log format: pretty (for development) or json (for production)\n" ++
  "format = \"pretty\"\n"

/-! ## From the environment -/

/-- Digits with an optional plus sign, within 64 bits. -/
def readLimit? (s : String) : Option Nat := do
  let n ← readInt? s.toList
  if s.toList.head? = some '-' ∨ n ≥ Nat.pow 2 64 then none else some n.toNat

def readTruth? (s : String) : Option Bool :=
  match s with
  | "true" => some true
  | "false" => some false
  | _ => none

def override (environment : String → Option String) (s : Settings) : Settings where
  query := {
    distinctScans :=
      ((environment "TALLY_DEDUP_SCANS").bind readTruth?).getD s.query.distinctScans
    maxScans := ((environment "TALLY_MAX_SCANS").bind readLimit?).getD s.query.maxScans
    missing := (environment "TALLY_GROUP_EMPTY").getD s.query.missing }
  logging := {
    level := (environment "TALLY_LOG_LEVEL").getD s.logging.level
    format := (environment "TALLY_LOG_FORMAT").getD s.logging.format }

def ofEnvironment (environment : String → Option String) : Settings := override environment {}

/-! ## From files -/

inductive FileFault where
  | unreadable (path : String) (cause : FileError)
  | malformed (path : String)
deriving DecidableEq, Repr

def FileFault.message : FileFault → String
  | .unreadable path cause =>
    "Failed to read config file " ++ Text.quotePath path ++ ": " ++ cause.message
  | .malformed path =>
    "Failed to parse config file " ++ Text.quotePath path ++ ": not a document of settings"

variable {m : Type → Type} [Monad m]

/-- What a file says, without the environment. -/
def readFrom (host : Host m) (path : String) : m (Except FileFault Settings) := do
  match ← host.readText path with
  | .error cause => return .error (.unreadable path cause)
  | .ok content =>
    match ofText? content with
    | some s => return .ok s
    | none => return .error (.malformed path)

def load (host : Host m) (path : String) : m (Except FileFault Settings) := do
  return (← readFrom host path).map (override host.environment)

def joinPath (directory file : String) : String :=
  if directory.endsWith "/" then directory ++ file else directory ++ "/" ++ file

/-- The user's directory for settings: a variable names it if it is an absolute path. -/
def userDirectory? (environment : String → Option String) : Option String :=
  match environment "XDG_CONFIG_HOME" with
  | some directory => if directory.startsWith "/" then some directory else home?
  | none => home?
where
  home? : Option String :=
    match environment "HOME" with
    | none | some "" => none
    | some home => some (joinPath home ".config")

def usualPlaces (environment : String → Option String) : List String :=
  ((userDirectory? environment).map (joinPath · "tally/config.toml")).toList ++
    ["/etc/tally/config.toml", "./tally.toml"]

/-- The settings of the first usable file. -/
def firstOf (host : Host m) : List String → m (Option Settings)
  | [] => return none
  | path :: paths => do
    match ← load host path with
    | .ok s => return some s
    | .error _ => firstOf host paths

/-- With no usable file, the defaults and the environment. -/
def find (host : Host m) : m Settings := do
  return (← firstOf host (usualPlaces host.environment)).getD (ofEnvironment host.environment)

end Settings

end SeriesQuery
