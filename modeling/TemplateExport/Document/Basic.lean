import TemplateExport.Document.Mismatch

namespace TemplateExport

/-- The value of a document, without the places at which its parts stand. -/
inductive Tree where
  | null
  | boolean (value : Bool)
  | text (value : String)
  | array (items : List Tree)
  | table (entries : List (String × Tree))
deriving Inhabited, Repr

inductive Key where
  /-- A text, the place behind it, and the place at which a repeated key is reported. -/
  | text (value : String) (stop resume : Position)
  /-- No text, or one that no string can hold: what skipping it meets, and what reading it meets. -/
  | refused (skipping : Option Break) (reading : Break)

/-- A document as far as it could be followed. Values are read from left to right, so an early
value with a wrong shape counts before a later place that is ill-formed. -/
inductive Document where
  | scalar (value : Scalar) (stop : Position)
  | moment (text : String)
  /-- A text, a number or a name that breaks off or that no value can hold: what skipping it
  meets, and what reading it meets. -/
  | refused (isText : Bool) (skipping : Option Break) (reading : Break)
  | tooLarge (kind : NumberKind)
  /-- No value at a place where one is due: the text ends, or something else stands there. -/
  | missing (how : Break)
  | array (start : Position) (items : List Document) (close : Except Break Position)
  | table (start : Position) (entries : List (Key × Document)) (close : Except Break Position)

abbrev Reading (α : Type) := Except ReadProblem α

def closing (close : Except Break Position) : Reading Position :=
  match close with
  | .ok stop => .ok stop
  | .error how => .error (.malformed how)

namespace Document

def outOfRange (kind : NumberKind) : ReadProblem :=
  .mismatch (.numberOutOfRange kind) .start

def wrongType (wanted : Wanted) : Document → ReadProblem
  | scalar value stop => .mismatch (.wrongType (.scalar value) wanted) stop
  | moment _ => .mismatch (.wrongType .map wanted) .start
  | refused _ _ reading => .malformed reading
  | tooLarge kind => outOfRange kind
  | missing how => .malformed how
  | array start _ _ => .mismatch (.wrongType .sequence wanted) start
  | table start _ _ => .mismatch (.wrongType .map wanted) start

def skipKey : Key → Reading Unit
  | .text _ _ _ | .refused none _ => .ok ()
  | .refused (some how) _ => .error (.malformed how)

mutual

/-- Passes over a value that nobody asked for. -/
def skip : Document → Reading Unit
  | scalar _ _ => .ok ()
  | moment _ => .ok ()
  | refused _ none _ => .ok ()
  | refused _ (some how) _ => .error (.malformed how)
  | tooLarge kind => .error (outOfRange kind)
  | missing how => .error (.malformed how)
  | array _ items close => do
    skipItems items
    let _ ← closing close
  | table _ entries close => do
    skipEntries entries
    let _ ← closing close

def skipItems : List Document → Reading Unit
  | [] => .ok ()
  | item :: rest => do
    item.skip
    skipItems rest

def skipEntries : List (Key × Document) → Reading Unit
  | [] => .ok ()
  | (key, value) :: rest => do
    skipKey key
    value.skip
    skipEntries rest

end

def readText : Document → Reading String
  | scalar (.text s) _ => .ok s
  | other => .error (other.wrongType .text)

def readOptionalText : Document → Reading (Option String)
  | scalar .null _ => .ok none
  | other => some <$> other.readText

def readBoolean : Document → Reading Bool
  | scalar (.boolean b) _ => .ok b
  | other => .error (other.wrongType .boolean)

def readList {α : Type} (read : Document → Reading α) : Document → Reading (List α)
  | array _ items close => do
    let values ← items.mapM read
    let _ ← closing close
    return values
  | other => .error (other.wrongType .sequence)

def readKey : Key → Reading (String × Position × Position)
  | .text s stop resume => .ok (s, stop, resume)
  | .refused _ how => .error (.malformed how)

/-- The key under which a date or a time shows itself to a reader that wants a table. -/
def momentKey : String := "$__toml_private_datetime"

def entries? : Document → Option (List (Key × Document) × Except Break Position)
  | table _ entries close => some (entries, close)
  | moment s => some ([(.text momentKey .start .start, scalar (.text s) .start)], .ok .start)
  | _ => none

/-- Texts under text keys, in the order in which they are written. -/
def readTexts (d : Document) : Reading (List (String × String)) :=
  match d.entries? with
  | none => .error (d.wrongType .map)
  | some (entries, close) => do
    let texts ← entries.mapM fun (key, value) => do
      let (k, _) ← readKey key
      return (k, ← value.readText)
    let _ ← closing close
    return texts

end Document

end TemplateExport
