import SeriesQuery.CommandLine.Arguments
import SeriesQuery.CommandLine.Period

/-!
# Commands

* `Command` : show the plan of a query, run it, or write the default settings;
* `Invocation` : a command with the options that every command takes. Such an option may stand
  before or behind the command's name, where it wins;
* `Invocation.ofArguments args` : the whole command line.
-/

namespace SeriesQuery.CommandLine

inductive Command where
  | plan (query : String) (period : Period)
  | query (query data : String) (period : Period)
  | settings (output : Option String)
deriving DecidableEq, Repr

structure Invocation where
  settingsPath : Option String
  format : String
  command : Command
deriving DecidableEq, Repr

/-! ## What commands take -/

def commonOptions : List OptionName :=
  [⟨"config", some 'c', false⟩, ⟨"format", some 'f', true⟩]

def periodOptions : List OptionName :=
  [⟨"start", none, true⟩, ⟨"end", none, true⟩, ⟨"last", some 'l', true⟩, ⟨"step", some 's', true⟩]

def topics : List String := ["plan", "query", "config", "help"]

namespace Signature

def top : Signature := ⟨commonOptions, 0, topics, true⟩

def plan : Signature := ⟨commonOptions ++ periodOptions, 1, [], false⟩

def query : Signature :=
  ⟨commonOptions ++ ⟨"data", some 'd', false⟩ :: periodOptions, 1, [], false⟩

def settings : Signature := ⟨⟨"output", some 'o', false⟩ :: commonOptions, 0, [], false⟩

end Signature

/-! ## Reading a command line -/

namespace Arguments

def period (given : Arguments) : Period where
  start := given.value? "start"
  stop := (given.value? "end").getD "now"
  length := (given.value? "last").getD "1d"
  step := (given.value? "step").getD "1h"

def required (value : Option String) : Except Stop String :=
  match value with
  | some s => .ok s
  | none => .error .mistake

end Arguments

namespace Command

def ofArguments (name : String) (args : List String) : Except Stop (Command × Arguments) := do
  match name with
  | "plan" =>
    let (given, _) ← Signature.plan.read args
    return (.plan (← Arguments.required given.placed.head?) given.period, given)
  | "query" =>
    let (given, _) ← Signature.query.read args
    let query ← Arguments.required given.placed.head?
    return (.query query (← Arguments.required (given.value? "data")) given.period, given)
  | "config" =>
    let (given, _) ← Signature.settings.read args
    return (.settings (given.value? "output"), given)
  | "help" => throw (if args.length ≤ 1 && args.all topics.contains then .help else .mistake)
  | _ => throw .mistake

end Command

def Invocation.ofArguments (args : List String) : Except Stop Invocation := do
  let (before, rest) ← Signature.top.read args
  match rest with
  | [] => throw .mistake
  | name :: args =>
    let (command, behind) ← Command.ofArguments name args
    let common (name : String) := (behind.value? name).or (before.value? name)
    return ⟨common "config", (common "format").getD "table", command⟩

end SeriesQuery.CommandLine
