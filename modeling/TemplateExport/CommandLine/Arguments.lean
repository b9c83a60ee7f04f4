import TemplateExport.Config.Rules
import TemplateExport.Files.Path
import TemplateExport.Text.Characters

namespace TemplateExport

structure Arguments where
  input : String
  outputHeader : String
  outputImpl : String
  verbose : Bool
  jsonLogs : Bool
  dryRun : Bool
deriving DecidableEq, Repr

namespace Arguments

def check (a : Arguments) : Check := do
  checkPath "input" a.input
  checkPath "output-header" a.outputHeader
  checkPath "output-impl" a.outputImpl

def description (a : Arguments) : String :=
  let fields : List (String × String) :=
    [("input", quoted a.input), ("output_header", quoted a.outputHeader),
      ("output_impl", quoted a.outputImpl), ("verbose", toString a.verbose),
      ("json_logs", toString a.jsonLogs), ("dry_run", toString a.dryRun)]
  "CliConfig \x7b " ++ ", ".intercalate (fields.map fun (name, value) => name ++ ": " ++ value) ++
    " \x7d"

end Arguments

/-- Why the words of a command line are no arguments, or ask for help instead. -/
inductive ArgumentFault where
  | help
  | unknown (word : String)
  | missing (name : String)
  | noValue (name : String)
  | unwantedValue (name : String)
  | repeated (name : String)
deriving DecidableEq, Repr

inductive ValueOption where
  | outputHeader
  | outputImpl
deriving DecidableEq, Repr

inductive Flag where
  | verbose
  | jsonLogs
  | dryRun
deriving DecidableEq, Repr

def ValueOption.name : ValueOption → String
  | .outputHeader => "output-header"
  | .outputImpl => "output-impl"

def Flag.name : Flag → String
  | .verbose => "verbose"
  | .jsonLogs => "json-logs"
  | .dryRun => "dry-run"

inductive Switch where
  | option (o : ValueOption)
  | flag (f : Flag)
  | help
deriving DecidableEq, Repr

namespace Switch

def ofName? : String → Option Switch
  | "output-header" => some (option .outputHeader)
  | "output-impl" => some (option .outputImpl)
  | "verbose" => some (flag .verbose)
  | "json-logs" => some (flag .jsonLogs)
  | "dry-run" => some (flag .dryRun)
  | "help" => some help
  | _ => none

def ofLetter? : Char → Option Switch
  | 'H' => some (option .outputHeader)
  | 'I' => some (option .outputImpl)
  | 'v' => some (flag .verbose)
  | 'h' => some help
  | _ => none

end Switch

inductive CommandWord where
  /-- From here on no word is a switch. -/
  | terminator
  | named (name : String) (value : Option String)
  | letters (all : List Char)
  | plain
deriving DecidableEq, Repr

def CommandWord.ofText (word : String) : CommandWord :=
  match word.toList with
  | ['-', '-'] => .terminator
  | '-' :: '-' :: rest =>
    let name := rest.takeWhile (· ≠ '=')
    match rest.drop name.length with
    | [] => .named (String.ofList name) none
    | _ :: value => .named (String.ofList name) (some (String.ofList value))
  | '-' :: letter :: rest => .letters (letter :: rest)
  | _ => .plain

/-- What the words so far have said. -/
structure PartialArguments where
  input : Option String
  outputHeader : Option String
  outputImpl : Option String
  verbose : Bool
  jsonLogs : Bool
  dryRun : Bool
  /-- The last option, and its value if that has come. It counts when the next word is known to be
  something else. -/
  pending : Option (ValueOption × Option String)
  terminated : Bool
deriving DecidableEq, Repr

namespace PartialArguments

def empty : PartialArguments :=
  ⟨none, none, none, false, false, false, none, false⟩

def assign (s : PartialArguments) (o : ValueOption) (value : String) :
    Except ArgumentFault PartialArguments :=
  match o with
  | .outputHeader =>
    if s.outputHeader.isSome then .error (.repeated o.name)
    else .ok { s with outputHeader := some value }
  | .outputImpl =>
    if s.outputImpl.isSome then .error (.repeated o.name)
    else .ok { s with outputImpl := some value }

def raise (s : PartialArguments) (f : Flag) : Except ArgumentFault PartialArguments :=
  match f with
  | .verbose => if s.verbose then .error (.repeated f.name) else .ok { s with verbose := true }
  | .jsonLogs => if s.jsonLogs then .error (.repeated f.name) else .ok { s with jsonLogs := true }
  | .dryRun => if s.dryRun then .error (.repeated f.name) else .ok { s with dryRun := true }

def settle (s : PartialArguments) : Except ArgumentFault PartialArguments :=
  match s.pending with
  | none => .ok s
  | some (o, none) => .error (.noValue o.name)
  | some (o, some value) => { s with pending := none }.assign o value

/-- An option whose value is the next word. -/
def await (s : PartialArguments) (o : ValueOption) : Except ArgumentFault PartialArguments := do
  return { ← s.settle with pending := some (o, none) }

def addPlain (s : PartialArguments) (word : String) : Except ArgumentFault PartialArguments :=
  if s.input.isSome then .error (.unknown word)
  else do return { ← s.settle with input := some word }

def addNamed (s : PartialArguments) (word name : String) (value : Option String) :
    Except ArgumentFault PartialArguments :=
  match Switch.ofName? name, value with
  | none, _ => .error (.unknown word)
  | some (.option o), none => s.await o
  | some (.option o), some value => do (← s.settle).assign o value
  | some (.flag f), none => do (← s.settle).raise f
  | some (.flag f), some _ => .error (.unwantedValue f.name)
  | some .help, none => do let _ ← s.settle; throw .help
  | some .help, some _ => .error (.unwantedValue "help")

/-- Letters of switches. The rest after the letter of an option is its value. -/
def addLetters (word : String) :
    PartialArguments → List Char → Except ArgumentFault PartialArguments
  | s, [] => .ok s
  | s, letter :: rest =>
    match Switch.ofLetter? letter with
    | none => .error (.unknown word)
    | some (.flag f) => do addLetters word (← (← s.settle).raise f) rest
    | some .help => do let _ ← s.settle; throw .help
    | some (.option o) =>
      match rest with
      | [] => s.await o
      | '=' :: value => do (← s.settle).assign o (String.ofList value)
      | value => do (← s.settle).assign o (String.ofList value)

def add (s : PartialArguments) (word : String) : Except ArgumentFault PartialArguments :=
  if s.terminated then s.addPlain word
  else match CommandWord.ofText word with
    | .terminator => .ok { s with terminated := true }
    | .named name value => s.addNamed word name value
    | .letters all => addLetters word s all
    | .plain =>
      match s.pending with
      | some (o, none) => .ok { s with pending := some (o, some word) }
      | _ => s.addPlain word

def finish (s : PartialArguments) : Except ArgumentFault Arguments := do
  let s ← s.settle
  match s.input, s.outputHeader, s.outputImpl with
  | some input, some outputHeader, some outputImpl =>
    return ⟨input, outputHeader, outputImpl, s.verbose, s.jsonLogs, s.dryRun⟩
  | _, none, _ => throw (.missing "output-header")
  | _, _, none => throw (.missing "output-impl")
  | none, _, _ => throw (.missing "input")

end PartialArguments

/-- Reads the words of a command line from left to right. The first fault counts. -/
def Arguments.ofWords (words : List String) : Except ArgumentFault Arguments := do
  (← words.foldlM PartialArguments.add .empty).finish

end TemplateExport
