import TemplateExport.Document.Mismatch
import TemplateExport.Files.Path
import TemplateExport.Text.Utf8

namespace TemplateExport

inductive Objection where
  | emptyName
  | notIdentifier
  | reservedWord
  | emptyPath
  | nulInPath
  | emptyList
  | blankText
  | repeatedName
  | suffixAlphabet
  | shadowsTypeParameter
  | unevenLists (expected found : Nat)
  | stated (text : String)
deriving DecidableEq, Repr

def Objection.message : Objection → String
  | .emptyName => "Identifier cannot be empty"
  | .notIdentifier => "Not a valid C identifier"
  | .reservedWord => "C/C++ keywords cannot be used as names"
  | .emptyPath => "Path cannot be empty"
  | .nulInPath => "Path contains null bytes"
  | .emptyList => "List cannot be empty"
  | .blankText => "Value cannot be empty or whitespace-only"
  | .repeatedName => "Duplicate name"
  | .suffixAlphabet => "Suffix may only contain letters, digits and underscores"
  | .shadowsTypeParameter => "Parameter name shadows a template parameter"
  | .unevenLists expected found =>
    "'fixed' combination needs type lists of equal length (expected " ++ toString expected ++
      ", found " ++ toString found ++ ")"
  | .stated text => text

inductive SymbolFault where
  | notIdentifier (symbol : String)
  | repeated (symbol : String)
  | stated (text : String)
deriving DecidableEq, Repr

def SymbolFault.message : SymbolFault → String
  | .notIdentifier symbol =>
    "wrapper name '" ++ symbol ++
      "' is not a valid C identifier; add a suffix-mapping entry for its types"
  | .repeated symbol => "wrapper name '" ++ symbol ++ "' is generated more than once"
  | .stated text => text

inductive ConfigFault where
  | notText (path : String) (fault : Utf8.Fault)
  | stated (text : String)
deriving DecidableEq, Repr

def ConfigFault.message : ConfigFault → String
  | .notText path fault => path ++ " is not valid UTF-8: " ++ fault.message
  | .stated text => text

/-- Everything that can stop a run. -/
inductive Problem where
  | file (fault : FileFault)
  | unreadable (format : Format) (problem : ReadProblem)
  | config (fault : ConfigFault)
  | missingField (field : String)
  | invalidValue (field value : String) (objection : Objection)
  | symbol (fault : SymbolFault)

inductive Category where
  | files
  | configuration
  | generation
deriving DecidableEq, Repr

def Category.name : Category → String
  | .files => "Io"
  | .configuration => "Configuration"
  | .generation => "Generation"

def ReadProblem.message (format : Format) : ReadProblem → String
  | .malformed .cutOff => "the text ends too early"
  | .malformed .illFormed => "the text is not well-formed"
  | .mismatch reason position =>
    match format with
    | .json =>
      reason.message format ++ " at line " ++ toString position.line ++ " column " ++
        toString position.column
    | .toml => reason.message format

namespace Problem

def message : Problem → String
  | file fault => "IO error: " ++ fault.message
  | unreadable .json problem => "JSON config error: " ++ problem.message .json
  | unreadable .toml problem => "TOML config error: " ++ problem.message .toml
  | config fault => "Configuration error: " ++ fault.message
  | missingField field => "Missing required config field: " ++ field
  | invalidValue field value objection =>
    "Invalid value '" ++ value ++ "' for '" ++ field ++ "': " ++ objection.message
  | symbol fault => "Code generation error: " ++ fault.message

def category : Problem → Category
  | file _ => .files
  | unreadable _ _ | config _ | missingField _ | invalidValue _ _ _ => .configuration
  | symbol _ => .generation

def exitCode (p : Problem) : Nat :=
  match p.category with
  | .configuration | .generation => 1
  | .files => 3

def suggestion : Problem → String
  | file _ => "Check that the input file exists and the output directories are writable"
  | unreadable .json _ => "Fix the JSON syntax of the config file"
  | unreadable .toml _ => "Fix the TOML syntax of the config file"
  | config _ => "Review the config file structure"
  | missingField field => "Add the '" ++ field ++ "' field to the config"
  | invalidValue field _ _ => "Correct the value of '" ++ field ++ "' in the config"
  | symbol _ =>
    "Adjust the template types or suffix-mapping so every wrapper gets a distinct C name"

/-- The message with a few words on what could not be done. -/
def friendlyMessage (p : Problem) : String :=
  match p.category with
  | .files => "Could not read or write a file: " ++ p.message
  | .configuration => "The wrapper config is invalid: " ++ p.message
  | .generation => "Could not generate wrappers: " ++ p.message

end Problem

end TemplateExport
