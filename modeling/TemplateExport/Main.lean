import TemplateExport.CommandLine.Log
import TemplateExport.CommandLine.Run
import TemplateExport.Session

namespace TemplateExport

/-- Runs on the files of the machine. -/
abbrev Console : Type → Type :=
  ReaderT LogStyle (ExceptT Problem IO)

namespace Console

def faultOf : IO.Error → FileFault
  | .alreadyExists _ code text | .invalidArgument _ code text | .permissionDenied _ code text
  | .resourceExhausted _ code text | .inappropriateType _ code text | .noSuchThing _ code text
  | .otherError code text | .resourceBusy code text | .resourceVanished code text
  | .unsupportedOperation code text | .hardwareFault code text | .unsatisfiedConstraints code text
  | .illegalOperation code text | .protocolError code text | .timeExpired code text
  | .interrupted _ code text | .noFileOrDirectory _ code text =>
    .ofCode code.toInt32.toInt.natAbs text
  | .unexpectedEof => .system 0 "Unexpected end of file"
  | .userError text => .system 0 text

def onFile {α : Type} (p : Path) (act : String → IO α) : Console α := do
  if let some fault := p.fault? then
    throw (Problem.file fault)
  let result : Except IO.Error α ← (observing (act p.text) : IO _)
  match result with
  | .ok a => return a
  | .error e => throw (Problem.file (faultOf e))

instance : Host Console where
  readFile p := onFile p fun text => IO.FS.readBinFile text
  makeDirectories p :=
    if p.steps.isEmpty then return () else onFile p fun text => IO.FS.createDirAll text
  writeFile p content := onFile p fun text => IO.FS.writeBinFile text content
  log event := do
    let style ← read
    if Message.shown true style.verbose (.logged event) then
      (IO.eprintln (style.line event) : IO Unit)
  print line := (IO.println line : IO Unit)
  tell text := (IO.eprintln text : IO Unit)

end Console

end TemplateExport

open TemplateExport in
def main (words : List String) : IO UInt32 := do
  match ← ((runCommandLine words : Console Nat).run (.ofWords words)).run with
  | .ok code => return UInt32.ofNat code
  | .error problem =>
    IO.eprintln problem.friendlyMessage
    return UInt32.ofNat problem.exitCode
