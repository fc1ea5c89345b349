/-!
# Arguments

The arguments of a command: options with a value, written `--name value`, `--name=value`,
`-n value`, `-nvalue` or `-n=value`, and other arguments by their place. Behind `--` everything
stands for itself.

* `OptionName`, `Signature` : what a command takes;
* `Token`, `Signature.token` : what an argument looks like by itself;
* `Arguments` : what was given; an option is given once at most;
* `Stop` : reading ends early, for help or for a mistake;
* `Signature.read` : the arguments up to the name of a subcommand, and those from there on.
-/

namespace SeriesQuery.CommandLine

structure OptionName where
  long : String
  short : Option Char
  /-- Whether the value may be empty. -/
  mayBeEmpty : Bool

structure Signature where
  options : List OptionName
  /-- How many arguments it takes by place. -/
  places : Nat
  subcommands : List String
  /-- Whether it tells its version. -/
  hasVersion : Bool

inductive Stop where
  | help
  | version
  | mistake
deriving DecidableEq, Repr

structure Arguments where
  /-- Values by the long names of their options. -/
  values : List (String × String)
  placed : List String

/-! ## Tokens -/

inductive Token where
  /-- Two dashes. -/
  | separator
  | help
  | version
  | option (name : OptionName) (attached : Option String)
  | plain
  | unknown

/-- Only a lone dash begins with a dash and stands for itself. -/
def isPlain (arg : String) : Bool := !arg.startsWith "-" || arg == "-"

/-- The name before an equals sign, and the value behind it. -/
def splitAttached (cs : List Char) : List Char × Option String :=
  match cs.dropWhile (· != '=') with
  | [] => (cs, none)
  | _ :: value => (cs.takeWhile (· != '='), some (String.ofList value))

namespace Signature

def longToken (sig : Signature) (cs : List Char) : Token :=
  let (name, attached) := splitAttached cs
  let name := String.ofList name
  if name = "help" then (if attached.isSome then .unknown else .help)
  else if name = "version" && sig.hasVersion then (if attached.isSome then .unknown else .version)
  else match sig.options.find? (·.long = name) with
    | some o => .option o attached
    | none => .unknown

/-- What follows the letter is its value, behind an equals sign or at once. -/
def shortToken (sig : Signature) (letter : Char) (cs : List Char) : Token :=
  if letter = 'h' then .help
  else if letter = 'V' && sig.hasVersion then .version
  else match sig.options.find? (·.short = some letter) with
    | none => .unknown
    | some o =>
      match cs with
      | [] => .option o none
      | '=' :: cs => .option o (some (String.ofList cs))
      | cs => .option o (some (String.ofList cs))

def token (sig : Signature) (arg : String) : Token :=
  match arg.toList with
  | ['-'] => .plain
  | ['-', '-'] => .separator
  | '-' :: '-' :: cs => sig.longToken cs
  | '-' :: letter :: cs => sig.shortToken letter cs
  | _ => .plain

end Signature

/-! ## Reading -/

namespace Arguments

def empty : Arguments := ⟨[], []⟩

def value? (given : Arguments) (name : String) : Option String := given.values.lookup name

def setValue (given : Arguments) (o : OptionName) (value : String) : Except Stop Arguments :=
  if (given.value? o.long).isSome || (value.isEmpty && !o.mayBeEmpty) then .error .mistake
  else .ok { given with values := given.values ++ [(o.long, value)] }

def place (sig : Signature) (given : Arguments) (arg : String) : Except Stop Arguments :=
  if given.placed.length < sig.places then .ok { given with placed := given.placed ++ [arg] }
  else .error .mistake

end Arguments

namespace Signature

/-- An option without an attached value takes the next argument, if that stands for itself. -/
def readFrom (sig : Signature) (given : Arguments) :
    List String → Except Stop (Arguments × List String)
  | [] => .ok (given, [])
  | arg :: args =>
    match sig.token arg with
    | .separator => do return (← args.foldlM (Arguments.place sig) given, [])
    | .help => .error .help
    | .version => .error .version
    | .unknown => .error .mistake
    | .plain =>
      if sig.subcommands.contains arg then .ok (given, arg :: args)
      else do sig.readFrom (← given.place sig arg) args
    | .option o (some value) => do sig.readFrom (← given.setValue o value) args
    | .option o none =>
      match args with
      | [] => .error .mistake
      | value :: args =>
        if isPlain value then do sig.readFrom (← given.setValue o value) args
        else .error .mistake

def read (sig : Signature) (args : List String) : Except Stop (Arguments × List String) :=
  sig.readFrom .empty args

end Signature

end SeriesQuery.CommandLine
