import TemplateExport.CommandLine.Arguments
import TemplateExport.Generation

namespace TemplateExport

def usage : String :=
  "Usage: scrapper [OPTIONS] --output-header <OUTPUT_HEADER> --output-impl <OUTPUT_IMPL> <INPUT>"

def helpLines : List String :=
  ["Generates C convenience wrappers for C++ function templates",
    "",
    usage,
    "",
    "Arguments:",
    "  <INPUT>  Path to the JSON (or .toml) file describing the C++ functions to wrap",
    "",
    "Options:",
    "  -H, --output-header <OUTPUT_HEADER>  Path of the generated export header",
    "  -I, --output-impl <OUTPUT_IMPL>      Path of the generated implementation file",
    "  -v, --verbose                        Enable verbose output",
    "      --json-logs                      Emit logs as JSON",
    "      --dry-run                        Validate and render without writing any file",
    "  -h, --help                           Print help"]

namespace ArgumentFault

def message : ArgumentFault → String
  | help => "help was asked for"
  | unknown word => "unexpected argument '" ++ word ++ "'"
  | missing name => "the argument '" ++ name ++ "' is missing"
  | noValue name => "a value is required for '" ++ name ++ "'"
  | unwantedValue name => "no value is possible for '" ++ name ++ "'"
  | repeated name => "the argument '" ++ name ++ "' cannot be used multiple times"

def exitCode : ArgumentFault → Nat
  | help => 0
  | _ => 2

end ArgumentFault

namespace Arguments

variable {m : Type → Type} [Host m]

/-- The run that the arguments ask for, with paths seen from the current directory. -/
def generation (a : Arguments) : Generation where
  storage := .current
  input := ⟨a.input⟩
  outputs := ⟨⟨a.outputHeader⟩, ⟨a.outputImpl⟩⟩
  dryRun := a.dryRun

def announce (report : Report) : m Unit :=
  match report.written with
  | some outputs => do
    Host.print ("Header: " ++ outputs.header.text)
    Host.print ("Implementation: " ++ outputs.implementation.text)
  | none => report.symbols.forM Host.print

def run (a : Arguments) : m Nat := do
  Host.log .programStarted
  Host.log (.argumentsRead a)
  match a.check with
  | .error problem =>
    Host.log (.argumentsRefused problem)
    Host.log (.argumentsAdvice problem)
    Host.tell problem.friendlyMessage
    return problem.exitCode
  | .ok () =>
    if a.dryRun then
      Host.log .dryRun
    match ← observing a.generation.run with
    | .ok report =>
      Host.log (.generated report.symbols.length)
      announce report
      return 0
    | .error problem =>
      Host.log (.generationFailed problem)
      Host.log (.generationAdvice problem)
      Host.tell problem.friendlyMessage
      Host.tell ("Suggestion: " ++ problem.suggestion)
      return problem.exitCode

end Arguments

def runCommandLine {m : Type → Type} [Host m] (words : List String) : m Nat := do
  match Arguments.ofWords words with
  | .ok a => a.run
  | .error .help =>
    helpLines.forM Host.print
    return ArgumentFault.help.exitCode
  | .error fault =>
    Host.tell ("error: " ++ fault.message)
    Host.tell usage
    return fault.exitCode

end TemplateExport
