namespace TemplateExport.Toml

def isSpace (c : Char) : Bool :=
  c == ' ' || c == '\t'

/-- The characters that may stand in a comment and, quotes and backslashes apart, in a text on one
line. -/
def isPlain (c : Char) : Bool :=
  c == '\t' || (0x20 ≤ c.toNat && c.toNat != 0x7F)

def skipSpace (cs : List Char) : List Char :=
  cs.dropWhile isSpace

/-- The text behind a line end. A carriage return must come with a line feed. -/
def lineEnd? : List Char → Option (List Char)
  | '\n' :: rest => some rest
  | '\r' :: '\n' :: rest => some rest
  | _ => none

def skipComment : List Char → Option (List Char)
  | [] => some []
  | c :: rest =>
    if (lineEnd? (c :: rest)).isSome then some (c :: rest)
    else if isPlain c then skipComment rest
    else none

/-- Passes over blanks, comments and line ends, up to something else. -/
def skipFill (inComment : Bool) : List Char → Option (List Char)
  | [] => some []
  | '\n' :: rest => skipFill false rest
  | '\r' :: '\n' :: rest => skipFill false rest
  | c :: rest =>
    if inComment then if isPlain c then skipFill true rest else none
    else if isSpace c then skipFill false rest
    else if c == '#' then skipFill true rest
    else some (c :: rest)

/-- The text of the next line, if nothing but blanks and a comment is left of this one. -/
def finishLine (cs : List Char) : Option (List Char) :=
  let behind : Option (List Char) :=
    match skipSpace cs with
    | '#' :: rest => skipComment rest
    | rest => some rest
  match behind with
  | none => none
  | some [] => some []
  | some rest => lineEnd? rest

end TemplateExport.Toml
