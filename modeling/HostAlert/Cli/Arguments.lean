/-!
# Command line arguments

The program takes one option, `-f`, with the name of the configuration file, given as the next
argument or attached, with an equals sign or without. `-h` and `--help` ask for help. Reading goes
from left to right and the first thing that ends it decides.
-/

namespace HostAlert.Cli

/-- What the arguments ask for. -/
inductive Invocation
  | help
  /-- The arguments are wrong. -/
  | wrong
  | run (file : String)
  deriving DecidableEq

namespace Invocation

/-- Whether the argument looks like an option; a single dash does not. -/
def isOption (arg : List Char) : Bool :=
  arg.head? == some '-' && 1 < arg.length

/-- The value attached to an option, after an equals sign if there is one. -/
def attached (value : List Char) : String :=
  String.ofList (if value.head? = some '=' then value.tail else value)

/-- Reads arguments; `file` is the file named so far. -/
def parse (file : Option String) : List (List Char) → Invocation
  | [] =>
    match file with
    | some f => run f
    | none => wrong
  | arg :: args =>
    match arg with
    | '-' :: '-' :: long =>
      if long = [] then
        match args, file with
        | [], some f => run f
        | _, _ => wrong
      else if long = "help".toList then help
      else wrong
    | '-' :: 'h' :: _ => help
    | ['-', 'f'] =>
      match args with
      | [] => wrong
      | value :: args =>
        if isOption value || file.isSome then wrong else parse (some (String.ofList value)) args
    | '-' :: 'f' :: value =>
      if file.isSome then wrong else parse (some (attached value)) args
    | _ => wrong

def ofArguments (args : List String) : Invocation :=
  parse none (args.map String.toList)

example : ofArguments ["-f=config.json"] = run "config.json" := by decide +kernel
example : ofArguments ["-f", "-h"] = wrong := by decide +kernel
example : ofArguments ["-fx", "-h"] = help := by decide +kernel

end Invocation

def helpText : String :=
  String.intercalate "\n"
    [ "Sends host resource alerts to Telegram", "", "Usage: host-alert -f <FILE>", "", "Options:",
      "  -f <FILE>      Config file", "  -h, --help     Print help", "" ]

def usageText : String :=
  String.intercalate "\n"
    [ "error: the arguments are not valid", "", "Usage: host-alert -f <FILE>", "",
      "For more information, try '--help'.", "" ]

end HostAlert.Cli
