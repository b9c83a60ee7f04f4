import TemplateExport.Config.File
import TemplateExport.Files.Storage
import TemplateExport.Sources

namespace TemplateExport

structure Outputs where
  header : Path
  implementation : Path
deriving DecidableEq, Repr

structure Generation where
  storage : Storage
  input : Path
  outputs : Outputs
  /-- Whether the files stay unwritten. -/
  dryRun : Bool

structure Report where
  written : Option Outputs
  symbols : List String
deriving DecidableEq, Repr

namespace Generation

variable {m : Type → Type} [Host m]

def extract (g : Generation) : m Config := do
  Host.log (.configSought g.input)
  let bytes ← g.storage.read g.input
  match Utf8.decode bytes with
  | .error fault => throw (.config (.notText g.input.text fault))
  | .ok text =>
    let config ← MonadExcept.ofExcept (Config.ofText (Format.ofPath g.input) text)
    MonadExcept.ofExcept config.validate
    Host.log (.configAccepted g.input config.functions.length)
    return config

def transform (config : Config) : m Sources := do
  let sources ← MonadExcept.ofExcept config.render
  Host.log (.wrappersCounted sources.symbols.length)
  return sources

/-- Writes the generated files, or only says what they would export. -/
def deliver (g : Generation) (sources : Sources) : m Report := do
  if g.dryRun then
    sources.symbols.forM fun symbol => Host.log (.wouldExport symbol)
    return ⟨none, sources.symbols⟩
  else
    g.storage.write g.outputs.header sources.header.toUTF8
    Host.log (.headerWritten g.outputs.header)
    g.storage.write g.outputs.implementation sources.implementation.toUTF8
    Host.log (.implementationWritten g.outputs.implementation)
    return ⟨some g.outputs, sources.symbols⟩

def run (g : Generation) : m Report := do
  Host.log .generationStarted
  Host.log .loading
  let config ← g.extract
  Host.log (.loaded config.functions.length config.linkageLabel)
  Host.log .rendering
  let sources ← transform config
  Host.log (.rendered sources.symbols.length)
  Host.log .writingOutputs
  let report ← g.deliver sources
  if let some outputs := report.written then
    Host.log (.headerSaved outputs.header)
    Host.log (.implementationSaved outputs.implementation)
  return report

end Generation

end TemplateExport
