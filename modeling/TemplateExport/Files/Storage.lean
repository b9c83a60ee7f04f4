import TemplateExport.CommandLine.Log

namespace TemplateExport

/-- What a run does to the world around it: files, a log, lines of result and messages to the
user. Any of these can fail with a problem. -/
class Host (m : Type → Type) extends Monad m, MonadExceptOf Problem m where
  readFile : Path → m ByteArray
  /-- Makes a directory and those around it, as far as they are missing. -/
  makeDirectories : Path → m Unit
  writeFile : Path → ByteArray → m Unit
  log : Event → m Unit
  print : String → m Unit
  tell : String → m Unit

/-- The place from which the paths of a run are seen. -/
structure Storage where
  root : Path

namespace Storage

def current : Storage := ⟨⟨"."⟩⟩

def resolve (s : Storage) (p : Path) : Path :=
  s.root.join p

variable {m : Type → Type} [Host m]

def read (s : Storage) (p : Path) : m ByteArray := do
  Host.log (.reading (s.resolve p))
  Host.readFile (s.resolve p)

def write (s : Storage) (p : Path) (content : ByteArray) : m Unit := do
  Host.makeDirectories (s.resolve p).parent
  Host.log (.writing content.size (s.resolve p))
  Host.writeFile (s.resolve p) content

end Storage

end TemplateExport
