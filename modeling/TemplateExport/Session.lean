import TemplateExport.Files.FileTree
import TemplateExport.Files.Storage

namespace TemplateExport

inductive Message where
  | logged (event : Event)
  | told (text : String)

/-- Whether a message is shown. What is told is always shown, log lines if there is a log, and
details only on demand. -/
def Message.shown (logging verbose : Bool) : Message → Bool
  | told _ => true
  | logged event => logging && (verbose || event.level ≠ .debug)

/-- The world around a run, as far as a run can change it. -/
structure Session where
  files : FileTree
  printed : Array String
  messages : Array Message

/-- The effect of a run on the world. It stays when the run fails. -/
abbrev SessionM : Type → Type :=
  ExceptT Problem (StateM Session)

namespace Session

def start (files : FileTree) : Session :=
  ⟨files, #[], #[]⟩

def output (s : Session) : String :=
  String.join (s.printed.toList.map (· ++ "\n"))

def readFile (p : Path) : SessionM ByteArray := do
  match (← get).files.read p with
  | .ok content => return content
  | .error fault => throw (.file fault)

def makeDirectories (p : Path) : SessionM Unit := do
  let s ← get
  let (files, result) := s.files.makeDirectories p
  set { s with files }
  match result with
  | .ok () => return ()
  | .error fault => throw (.file fault)

def writeFile (p : Path) (content : ByteArray) : SessionM Unit := do
  let s ← get
  match s.files.write p content with
  | .ok files => set { s with files }
  | .error fault => throw (.file fault)

instance : Host SessionM where
  readFile := readFile
  makeDirectories := makeDirectories
  writeFile := writeFile
  log event := modify fun s => { s with messages := s.messages.push (.logged event) }
  print line := modify fun s => { s with printed := s.printed.push line }
  tell text := modify fun s => { s with messages := s.messages.push (.told text) }

/-- The answer of a run, and the world after it. -/
def run {α : Type} (s : Session) (act : SessionM α) : Except Problem α × Session :=
  StateT.run (ExceptT.run act) s

end Session

end TemplateExport
