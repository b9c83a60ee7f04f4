import TemplateExport.CommandLine.Arguments
import TemplateExport.Json.Printer
import TemplateExport.Text.Characters

namespace TemplateExport

inductive Level where
  | error
  | info
  | debug
deriving DecidableEq, Repr

def Level.name : Level → String
  | .error => "ERROR"
  | .info => "INFO"
  | .debug => "DEBUG"

inductive Event where
  | programStarted
  | argumentsRead (arguments : Arguments)
  | argumentsRefused (problem : Problem)
  | argumentsAdvice (problem : Problem)
  | dryRun
  | generationStarted
  | loading
  | configSought (path : Path)
  | reading (path : Path)
  | configAccepted (path : Path) (functions : Nat)
  | loaded (functions : Nat) (linkageLabel : String)
  | rendering
  | wrappersCounted (wrappers : Nat)
  | rendered (wrappers : Nat)
  | writingOutputs
  | wouldExport (symbol : String)
  | writing (bytes : Nat) (path : Path)
  | headerWritten (path : Path)
  | implementationWritten (path : Path)
  | headerSaved (path : Path)
  | implementationSaved (path : Path)
  | generated (wrappers : Nat)
  | generationFailed (problem : Problem)
  | generationAdvice (problem : Problem)

namespace Event

def level : Event → Level
  | argumentsRefused _ | argumentsAdvice _ | generationFailed _ | generationAdvice _ => .error
  | argumentsRead _ | configSought _ | reading _ | configAccepted _ _ | wrappersCounted _
  | writing _ _ | headerWritten _ | implementationWritten _ => .debug
  | programStarted | dryRun | generationStarted | loading | loaded _ _ | rendering | rendered _
  | writingOutputs | wouldExport _ | headerSaved _ | implementationSaved _ | generated _ => .info

def message : Event → String
  | programStarted => "Starting scrapper"
  | argumentsRead arguments => "CLI config: " ++ arguments.description
  | argumentsRefused problem => "Argument validation failed: " ++ problem.message
  | argumentsAdvice problem => "Suggestion: " ++ problem.suggestion
  | dryRun => "Dry run: no files will be written"
  | generationStarted => "Starting wrapper generation"
  | loading => "Loading config..."
  | configSought path => "Reading wrapper config from: " ++ path.text
  | reading path => "Reading " ++ path.text
  | configAccepted path functions =>
    "Config '" ++ path.text ++ "' declares " ++ toString functions ++ " function(s)"
  | loaded functions linkageLabel =>
    "Loaded " ++ toString functions ++ " function(s) with linkage macro " ++ linkageLabel
  | rendering => "Rendering wrappers..."
  | wrappersCounted wrappers => "Rendering " ++ toString wrappers ++ " wrapper(s)"
  | rendered wrappers => "Rendered " ++ toString wrappers ++ " C wrapper(s)"
  | writingOutputs => "Writing outputs..."
  | wouldExport symbol => "Would export: " ++ symbol
  | writing bytes path => "Writing " ++ toString bytes ++ " bytes to " ++ path.text
  | headerWritten path => "Wrote export header: " ++ path.text
  | implementationWritten path => "Wrote implementation: " ++ path.text
  | headerSaved path => "Header saved to: " ++ path.text
  | implementationSaved path => "Implementation saved to: " ++ path.text
  | generated wrappers => "Generated " ++ toString wrappers ++ " wrapper(s)"
  | generationFailed problem =>
    "Generation failed: " ++ problem.message ++ " (Category: " ++ problem.category.name ++ ")"
  | generationAdvice problem => "Recovery suggestion: " ++ problem.suggestion

end Event

structure LogStyle where
  verbose : Bool
  json : Bool

namespace LogStyle

def ofWords (words : List String) : LogStyle :=
  match Arguments.ofWords words with
  | .ok a => ⟨a.verbose, a.jsonLogs⟩
  | .error _ => ⟨false, false⟩

/-- The message of an event as it is shown. One in JSON can hold any character. -/
def message (style : LogStyle) (event : Event) : String :=
  if style.json then event.message else terminalText event.message

def line (style : LogStyle) (event : Event) : String :=
  if style.json then
    String.ofList (Json.print (.table [("level", .text event.level.name),
      ("fields", .table [("message", .text (style.message event))])]))
  else
    "".pushn ' ' (5 - event.level.name.length) ++ event.level.name ++ " " ++ style.message event

end LogStyle

end TemplateExport
