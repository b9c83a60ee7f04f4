import TemplateExport.Document.Basic

namespace TemplateExport.Toml

/-- How a table came about: from its own header, from the header of a table below it, or from a
key with points. -/
inductive Origin where
  | header
  | path
  | dotted
deriving DecidableEq, Repr

/-- What stands under a key while a document is being put together. -/
inductive Node where
  | value (document : Document)
  | table (origin : Origin) (entries : List (String × Node))
  /-- Tables with one header each, the last one apart. -/
  | tables (earlier : List (List (String × Node))) (latest : List (String × Node))

abbrev Entries := List (String × Node)

def changeAt (key : String) (change : Option Node → Option Node) : Entries → Option Entries
  | [] => (change none).map fun node => [(key, node)]
  | (k, node) :: rest =>
    if k = key then (change (some node)).map fun node => (key, node) :: rest
    else (changeAt key change rest).map ((k, node) :: ·)

/-- Changes the table at the end of a path; tables that are missing on the way get `origin`. Of a
list of tables the latest one is on the way. A key with points does not reach into a single table
that has a header. -/
def changeTable (origin : Origin) (change : Origin → Entries → Option Entries) :
    List String → Origin → Entries → Option Entries
  | [], here, entries => change here entries
  | key :: path, _, entries =>
    changeAt key (fun
      | none => (changeTable origin change path origin []).map (.table origin)
      | some (.value _) => none
      | some (.table here inner) =>
        if origin = .dotted ∧ here = .header then none
        else (changeTable origin change path here inner).map (.table here)
      | some (.tables earlier latest) =>
        (changeTable origin change path .header latest).map (.tables earlier)) entries

/-- Puts a value under a key with points. Keys of one table are all written in one way. -/
def addValue (path : List String) (key : String) (value : Document) (entries : Entries) :
    Option Entries :=
  changeTable .dotted
    (fun here inner =>
      if (here = .dotted) ↔ (path ≠ []) then
        changeAt key (fun | none => some (.value value) | some _ => none) inner
      else none)
    path .header entries

/-- Opens a table with a header of its own; it may exist as part of a path only. -/
def openTable (path : List String) (key : String) (entries : Entries) : Option Entries :=
  changeTable .path
    (fun _ inner =>
      changeAt key (fun
        | none => some (.table .header [])
        | some (.table .path old) => some (.table .header old)
        | some _ => none) inner)
    path .header entries

def addTable (path : List String) (key : String) (entries : Entries) : Option Entries :=
  changeTable .path
    (fun _ inner =>
      changeAt key (fun
        | none => some (.tables [] [])
        | some (.tables earlier latest) => some (.tables (earlier ++ [latest]) [])
        | some _ => none) inner)
    path .header entries

def addBelow (header path : List String) (key : String) (value : Document) (entries : Entries) :
    Option Entries :=
  changeTable .path (fun _ inner => addValue path key value inner) header .header entries

def insertSorted (entry : String × Document) :
    List (String × Document) → List (String × Document)
  | [] => [entry]
  | other :: rest =>
    if entry.1 < other.1 then entry :: other :: rest else other :: insertSorted entry rest

def sortedTable (entries : List (String × Document)) : Document :=
  let sorted := entries.foldr insertSorted []
  .table .start (sorted.map fun (key, value) => (.text key .start .start, value)) (.ok .start)

mutual

/-- The finished value under a key. A table gives its entries in the order of their keys. -/
def Node.document : Node → Document
  | .value d => d
  | .table _ entries => sortedTable (entryDocuments entries)
  | .tables earlier latest =>
    .array .start (tableDocuments earlier ++ [sortedTable (entryDocuments latest)]) (.ok .start)

def entryDocuments : Entries → List (String × Document)
  | [] => []
  | (key, node) :: rest => (key, node.document) :: entryDocuments rest

def tableDocuments : List Entries → List Document
  | [] => []
  | entries :: rest => sortedTable (entryDocuments entries) :: tableDocuments rest

end

end TemplateExport.Toml
