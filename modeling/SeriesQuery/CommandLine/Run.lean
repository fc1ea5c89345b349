import SeriesQuery.CommandLine.Command
import SeriesQuery.CommandLine.Table
import SeriesQuery.Json.Codec
import SeriesQuery.Settings

/-!
# Running commands

* `Failure` : why a command failed, `Failure.message`;
* `Outcome` : what is printed, and the exit code;
* `run host args` : the whole program. Settings are read first, then the window, then data, then the
  query: the first of several mistakes is the one reported.
-/

namespace SeriesQuery.CommandLine

/-! ## Failures -/

inductive Failure where
  | settings (fault : Settings.FileFault)
  | period (e : PeriodError)
  | unreadable (path : String) (cause : FileError)
  | malformed (path : String)
  | query (e : QueryError)
  | unwritable (path : String) (cause : FileError)

/-- A cause stands on lines of its own behind the message. -/
def causedBy (message cause : String) : String := message ++ "\n\nCaused by:\n    " ++ cause

def Failure.message : Failure → String
  | .settings fault => fault.message
  | .period e => e.message
  | .unreadable path cause => causedBy ("Failed to read " ++ Text.quotePath path) cause.message
  | .malformed path => causedBy ("Failed to parse " ++ Text.quotePath path)
      "not an array of records"
  | .query (.invalidRegexp pos pattern) =>
    (QueryError.invalidRegexp pos pattern).message ++ ": regex parse error:\n    " ++ pattern
  | .query e => e.message
  | .unwritable path cause => causedBy ("Failed to write " ++ Text.quotePath path) cause.message

/-! ## Outcomes -/

def usage : String :=
  "Query language for grouped event time series\n\n" ++
  "Usage: tally [OPTIONS] <COMMAND>\n\n" ++
  "Commands:\n" ++
  "  plan <QUERY>                Print the scan queries a query needs\n" ++
  "  query <QUERY> --data <DATA> Run a query against points from a JSON file\n" ++
  "  config                      Generate default config file\n" ++
  "  help                        Print this message\n\n" ++
  "Options:\n" ++
  "  -c, --config <CONFIG>       Config file (default: search standard locations)\n" ++
  "  -f, --format <FORMAT>       Output format (table, json) [default: table]\n" ++
  "  -d, --data <DATA>           JSON array of records: event, fields, timestamp, value\n" ++
  "  -o, --output <OUTPUT>       Output path (default: stdout)\n" ++
  "      --start <START>         Window start: now, RFC 3339 or Unix milliseconds\n" ++
  "      --end <END>             Window end: now, RFC 3339 or Unix milliseconds [default: now]\n" ++
  "  -l, --last <LAST>           Window length when no start is given [default: 1d]\n" ++
  "  -s, --step <STEP>           Sampling interval [default: 1h]\n" ++
  "  -h, --help                  Print help\n" ++
  "  -V, --version               Print version\n"

def versionLine : String := "tally 0.1.0\n"

inductive Outcome where
  | printed (text : String)
  | failed (failure : Failure)
  /-- The command line itself is mistaken. -/
  | misused

namespace Outcome

def exitCode : Outcome → Nat
  | .printed _ => 0
  | .failed _ => 1
  | .misused => 2

def output : Outcome → String
  | .printed text => text
  | _ => ""

/-- What goes to the error output. -/
def complaint? : Outcome → Option String
  | .printed _ => none
  | .failed failure => some failure.message
  | .misused => some usage

end Outcome

/-! ## Commands -/

variable {m : Type → Type} [Monad m]

/-- A value, or a failure made from an error. -/
def orFail (failure : ε → Failure) (e : Except ε α) : ExceptT Failure m α :=
  ExceptT.mk (pure (e.mapError failure))

def orFailM (failure : ε → Failure) (e : m (Except ε α)) : ExceptT Failure m α :=
  ExceptT.mk do return (← e).mapError failure

def settingsFor (host : Host m) : Option String → ExceptT Failure m Settings
  | some path => orFailM .settings (Settings.load host path)
  | none => ExceptT.lift (Settings.find host)

def recordsOf (host : Host m) (path : String) : ExceptT Failure m (List (Record Float)) := do
  let content ← orFailM (.unreadable path) (host.readText path)
  match (Json.read? content).bind (Json.toList? Record.decode?) with
  | some records => return records
  | none => throw (.malformed path)

def isJson (format : String) : Bool := format == "json"

def runPlan (host : Host m) (options : QueryOptions) (format : String) (query : String)
    (period : Period) : ExceptT Failure m String := do
  let w ← orFail .period (period.window (← host.now))
  let q ← orFail .query (Query.ofText query options.missing)
  let plan ← orFail .query (q.plan options w)
  return if isJson format then (Json.array (plan.map ScanQuery.encode)).pretty ++ "\n"
    else planTable plan

def runQuery (host : Host m) (options : QueryOptions) (format : String) (query data : String)
    (period : Period) : ExceptT Failure m String := do
  let w ← orFail .period (period.window (← host.now))
  let store := Store.empty.insertRecords (← recordsOf host data)
  let started ← host.now
  let report ← orFailM .query (Query.executeText options store.scanner w query)
  let elapsed := (← host.now) - started
  return if isJson format then (report.encode elapsed.toNat).pretty ++ "\n"
    else outputTable report.outputs

def runSettings (host : Host m) : Option String → ExceptT Failure m String
  | none => return Settings.defaultText
  | some path => do
    orFailM (.unwritable path) (host.writeText path Settings.defaultText)
    return "Config written to " ++ Text.quotePath path ++ "\n"

def runInvocation (host : Host m) (i : Invocation) : ExceptT Failure m String := do
  let settings ← settingsFor host i.settingsPath
  match i.command with
  | .plan query period => runPlan host settings.query i.format query period
  | .query query data period => runQuery host settings.query i.format query data period
  | .settings output => runSettings host output

def run (host : Host m) (args : List String) : m Outcome := do
  match Invocation.ofArguments args with
  | .error .help => return .printed usage
  | .error .version => return .printed versionLine
  | .error .mistake => return .misused
  | .ok i =>
    match ← (runInvocation host i).run with
    | .ok text => return .printed text
    | .error failure => return .failed failure

end SeriesQuery.CommandLine
