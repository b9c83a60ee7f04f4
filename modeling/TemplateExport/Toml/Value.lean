import TemplateExport.Toml.Moment
import TemplateExport.Toml.Number
import TemplateExport.Toml.Table
import TemplateExport.Toml.Text

namespace TemplateExport.Toml

def isBare (c : Char) : Bool :=
  c.isAlphanum || c == '_' || c == '-'

def simpleKey? (cs : List Char) : Option (String × List Char) :=
  match cs.takeWhile isBare with
  | [] => (quotedLine? cs).map fun (text, rest) => (String.ofList text, rest)
  | bare => some (String.ofList bare, cs.dropWhile isBare)

/-- A key with at most so many parts: what is before the last point, and what is behind it. -/
def keyWithin : Nat → List Char → Option ((List String × String) × List Char)
  | 0, _ => none
  | parts + 1, cs => do
    let (key, rest) ← simpleKey? (skipSpace cs)
    match skipSpace rest with
    | '.' :: rest =>
      let ((path, last), rest) ← keyWithin parts rest
      return ((key :: path, last), rest)
    | rest => return (([], key), rest)

/-- How many parts a key may have, and how deep arrays and tables may stand in one another within
a value. -/
def depthLimit : Nat := 80

def key? (cs : List Char) : Option ((List String × String) × List Char) :=
  keyWithin depthLimit cs

def endsWord (c : Char) : Bool :=
  c == ',' || c == ']' || c == '\x7d' || c == '[' || c == '\x7b' || c == '#' || c == '=' ||
    c == '\n' || c == '\r'

def startsQuoted (cs : List Char) : Bool :=
  cs.head?.any fun c => c == '"' || c == '\''

/-- A word up to where it ends. Blanks belong to it if it goes on behind them, which it does not
with a quoted text. -/
def word : List Char → List Char × List Char
  | [] => ([], [])
  | c :: rest =>
    if endsWord c then ([], c :: rest)
    else
      match word rest with
      | (more, behind) =>
        if isSpace c && (more.isEmpty || startsQuoted rest) then ([], c :: rest)
        else (c :: more, behind)

def wordValue? (w : List Char) : Option Document :=
  if w = "true".toList then some (.scalar (.boolean true) .start)
  else if w = "false".toList then some (.scalar (.boolean false) .start)
  else
    integer? w <|> (float? w).map (floatDocument (w.contains 'i')) <|> (moment? w).map .moment

mutual

def valueWithin : Nat → Nat → List Char → Option (Document × List Char)
  | 0, _, _ => none
  | steps + 1, depth, cs =>
    match cs with
    | '[' :: rest =>
      match depth, skipFill false rest with
      | depth + 1, some rest => do
        let (items, rest) ← itemsWithin steps depth rest
        return (.array .start items (.ok .start), rest)
      | _, _ => none
    | '\x7b' :: rest =>
      match depth, skipFill false rest with
      | depth + 1, some rest => do
        let (entries, rest) ← entriesWithin steps depth [] rest
        return (Node.document (.table .header entries), rest)
      | _, _ => none
    | '"' :: _ | '\'' :: _ =>
      (quotedText? cs).map fun (text, rest) =>
        (.scalar (.text (String.ofList text)) .start, rest)
    | _ =>
      let (w, rest) := word cs
      (wordValue? w).map (·, rest)

/-- The elements of an array up to its end. A comma may stand behind the last one. -/
def itemsWithin : Nat → Nat → List Char → Option (List Document × List Char)
  | 0, _, _ => none
  | _, _, ']' :: rest => some ([], rest)
  | steps + 1, depth, cs => do
    let (item, rest) ← valueWithin steps depth cs
    match ← skipFill false rest with
    | ',' :: rest =>
      let (items, rest) ← itemsWithin steps depth (← skipFill false rest)
      return (item :: items, rest)
    | ']' :: rest => return ([item], rest)
    | _ => none

/-- The entries of a table in braces up to its end, added to those before. A line may end on either
side of the equals sign. -/
def entriesWithin : Nat → Nat → Entries → List Char → Option (Entries × List Char)
  | 0, _, _, _ => none
  | _, _, entries, '\x7d' :: rest => some (entries, rest)
  | steps + 1, depth, entries, cs => do
    let ((path, key), rest) ← key? cs
    let rest ← expect? '=' (← skipFill false rest)
    let (value, rest) ← valueWithin steps depth (← skipFill false rest)
    let entries ← addValue path key value entries
    match ← skipFill false rest with
    | ',' :: rest => entriesWithin steps depth entries (← skipFill false rest)
    | '\x7d' :: rest => return (entries, rest)
    | _ => none

end

/-- The value at the start of a text. Two steps into a value take a character at least, which
bounds their number. -/
def value? (cs : List Char) : Option (Document × List Char) :=
  valueWithin (2 * cs.length + 1) depthLimit cs

end TemplateExport.Toml
