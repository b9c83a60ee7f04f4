import TemplateExport.Config.Reader
import TemplateExport.Files.Path
import TemplateExport.Files.Storage
import TemplateExport.Json.Outline
import TemplateExport.Problem
import TemplateExport.Toml.Outline

namespace TemplateExport

/-- The notation of the file that a path names. -/
def Format.ofPath (p : Path) : Format :=
  match p.extension? with
  | some extension => if extension.toLower = "toml" then .toml else .json
  | none => .json

def Format.read {α : Type} (format : Format) (reader : Format → Document → Reading α)
    (text : String) : Except Problem α :=
  match format with
  | .json => (Json.read (reader .json) text).mapError (.unreadable .json)
  | .toml => (Toml.read (reader .toml) text).mapError (.unreadable .toml)

def Config.ofText (format : Format) (text : String) : Except Problem Config :=
  format.read Config.read text

def Config.load {m : Type → Type} [Host m] (p : Path) : m Config := do
  let bytes ← Host.readFile p
  match Utf8.decode bytes with
  | .error _ => throw (.file .notText)
  | .ok text => MonadExcept.ofExcept (Config.ofText (Format.ofPath p) text)

end TemplateExport
