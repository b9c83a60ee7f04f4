import TemplateExport.Document.Basic

namespace TemplateExport

/-- One field of a record that is being read: whether it has a value already, and how its value is
read into the record. -/
structure Field (σ : Type) where
  key : String
  isSet : σ → Bool
  read : Document → σ → Reading σ

def Field.of {σ α : Type} (key : String) (get : σ → Option α) (set : α → σ → σ)
    (read : Document → Reading α) : Field σ where
  key := key
  isSet draft := (get draft).isSome
  read value draft := do return set (← read value) draft

inductive RecordEnd where
  | table (stop : Position)
  | sequence (record : String) (size : Nat) (stop : Position)

def RecordEnd.missing (ending : RecordEnd) (index : Nat) (key : String) : ReadProblem :=
  match ending with
  | .table stop => .mismatch (.missingField key) stop
  | .sequence record size stop => .mismatch (.invalidLength index record size) stop

def RecordEnd.require {α : Type} (ending : RecordEnd) (index : Nat) (key : String)
    (value : Option α) : Reading α :=
  match value with
  | some a => .ok a
  | none => .error (ending.missing index key)

namespace Document

variable {σ : Type}

/-- Takes the entries of a table into a draft. A key that is no field is passed over. -/
def readEntries (fields : List (Field σ)) : σ → List (Key × Document) → Reading σ
  | draft, [] => .ok draft
  | draft, (key, value) :: rest => do
    let (k, _, resume) ← readKey key
    match fields.find? (·.key == k) with
    | none =>
      value.skip
      readEntries fields draft rest
    | some field =>
      if field.isSet draft then .error (.mismatch (.duplicateField k) resume)
      else readEntries fields (← field.read value draft) rest

/-- Takes the elements of a sequence into a draft, field by field; `extra` says what becomes of
elements behind the last field. -/
def readElements (extra : Reading Unit) : List (Field σ) → σ → List Document → Reading σ
  | _, draft, [] => .ok draft
  | [], draft, _ :: _ => do
    extra
    return draft
  | field :: fields, draft, item :: items => do
    readElements extra fields (← field.read item draft) items

/-- A record is written as a table, or as a sequence of its fields in order. -/
def readRecord {α : Type} (format : Format) (name : String) (fields : List (Field σ))
    (blank : σ) (finish : RecordEnd → σ → Reading α) (d : Document) : Reading α :=
  match d, d.entries? with
  | array _ items close, _ => do
    let extra : Reading Unit :=
      match format with
      | .json => .error (.malformed .illFormed)
      | .toml => .ok ()
    let draft ← readElements extra fields blank items
    finish (.sequence name fields.length (← closing close)) draft
  | _, some (entries, close) => do
    let draft ← readEntries fields blank entries
    finish (.table (← closing close)) draft
  | _, none => .error (d.wrongType (.record name))

end Document

end TemplateExport
