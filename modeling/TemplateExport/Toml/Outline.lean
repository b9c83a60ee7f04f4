import TemplateExport.Toml.Value

namespace TemplateExport.Toml

inductive Statement where
  | entry (path : List String) (key : String) (value : Document)
  | table (path : List String) (key : String)
  | element (path : List String) (key : String)

def statement? (cs : List Char) : Option (Statement × List Char) :=
  match cs with
  | '[' :: '[' :: rest => do
    let ((path, key), rest) ← key? rest
    return (.element path key, ← expect? ']' (← expect? ']' rest))
  | '[' :: rest => do
    let ((path, key), rest) ← key? rest
    return (.table path key, ← expect? ']' rest)
  | cs => do
    let ((path, key), rest) ← key? cs
    let (value, rest) ← value? (skipSpace (← expect? '=' rest))
    return (.entry path key value, rest)

def statementsWithin : Nat → List Char → Option (List Statement)
  | 0, _ => some []
  | steps + 1, cs => do
    match ← skipFill false cs with
    | [] => return []
    | cs =>
      let (statement, rest) ← statement? cs
      let rest ← finishLine rest
      return statement :: (← statementsWithin steps rest)

/-- Puts the statements into a document, below the header that is in force. -/
def build : List String → Entries → List Statement → Option Entries
  | _, entries, [] => some entries
  | header, entries, .entry path key value :: rest => do
    build header (← addBelow header path key value entries) rest
  | _, entries, .table path key :: rest => do
    build (path ++ [key]) (← openTable path key entries) rest
  | _, entries, .element path key :: rest => do
    build (path ++ [key]) (← addTable path key entries) rest

/-- The document of a text. A byte order mark at its start does not count. -/
def document? (text : String) : Option Document := do
  let cs :=
    match text.toList with
    | '\ufeff' :: rest => rest
    | cs => cs
  let statements ← statementsWithin (cs.length + 1) cs
  let entries ← build [] [] statements
  return Node.document (.table .header entries)

def read {α : Type} (reader : Document → Reading α) (text : String) : Reading α :=
  match document? text with
  | some d => reader d
  | none => .error (.malformed .illFormed)

end TemplateExport.Toml
