namespace TemplateExport

inductive FileFault where
  | notFound
  | alreadyExists
  | notADirectory
  | isADirectory
  | nameTooLong
  | nulInPath
  | notText
  /-- Any other fault, by the number and the words of the operating system. -/
  | system (code : Nat) (text : String)
deriving DecidableEq, Repr

def FileFault.message : FileFault → String
  | .notFound => "No such file or directory (os error 2)"
  | .alreadyExists => "File exists (os error 17)"
  | .notADirectory => "Not a directory (os error 20)"
  | .isADirectory => "Is a directory (os error 21)"
  | .nameTooLong => "File name too long (os error 36)"
  | .nulInPath => "file name contained an unexpected NUL byte"
  | .notText => "stream did not contain valid UTF-8"
  | .system code text => text ++ " (os error " ++ toString code ++ ")"

def FileFault.ofCode (code : Nat) (text : String) : FileFault :=
  match code with
  | 2 => .notFound
  | 17 => .alreadyExists
  | 20 => .notADirectory
  | 21 => .isADirectory
  | 36 => .nameTooLong
  | _ => .system code text

structure Path where
  text : String
deriving DecidableEq, Repr

namespace Path

def piecesOf : List Char → List (List Char)
  | [] => [[]]
  | c :: rest =>
    if c = '/' then [] :: piecesOf rest
    else match piecesOf rest with
      | [] => [[c]]
      | piece :: pieces => (c :: piece) :: pieces

def pieces (p : Path) : List String :=
  (piecesOf p.text.toList).map String.ofList

def ofPieces (pieces : List String) : Path :=
  ⟨"/".intercalate pieces⟩

/-- A piece that leads nowhere. -/
def isIdle (piece : String) : Bool :=
  piece = "" || piece = "."

/-- The names to follow from the start of the path; ".." leads to the surrounding directory. -/
def steps (p : Path) : List String :=
  p.pieces.filter (!isIdle ·)

def isAbsolute (p : Path) : Bool :=
  p.text.toList.head? = some '/'

/-- The second path as seen from the first one. An absolute path is the same from everywhere. -/
def join (base p : Path) : Path :=
  if p.isAbsolute || base.text.isEmpty then p
  else if base.text.toList.getLast? = some '/' then ⟨base.text ++ p.text⟩
  else ⟨base.text ++ "/" ++ p.text⟩

def dropEnd (test : String → Bool) (pieces : List String) : List String :=
  (pieces.reverse.dropWhile test).reverse

/-- The path without its last step and without idle pieces at its end. -/
def parent (p : Path) : Path :=
  ofPieces (dropEnd isIdle (dropEnd isIdle p.pieces).dropLast)

/-- What follows the last point of the last step. The point of a hidden file separates nothing. -/
def extension? (p : Path) : Option String := do
  let name ← p.steps.getLast?
  if name = ".." then none
  let backward := name.toList.reverse
  let after := backward.takeWhile (· ≠ '.')
  match backward.drop after.length with
  | [] | [_] => none
  | _ => some (String.ofList after.reverse)

inductive Target where
  /-- An entry of the directory at the end of the way. -/
  | entry (way : List String) (name : String)
  /-- A directory, said by a slash after the name. -/
  | folder (way : List String) (name : String)
  /-- The directory at the end of the way. -/
  | directory (way : List String)
deriving DecidableEq, Repr

def target (p : Path) : Target :=
  match p.pieces.reverse.dropWhile (· = "") with
  | [] => .directory []
  | last :: _ =>
    if last = "." || last = ".." then .directory p.steps
    else if p.pieces.getLast? = some "" then .folder p.steps.dropLast last
    else .entry p.steps.dropLast last

def sizeLimit : Nat := 4096

def nameLimit : Nat := 255

/-- What is wrong with a path whatever the files are. -/
def fault? (p : Path) : Option FileFault :=
  if p.text.toList.contains '\x00' then some .nulInPath
  else if p.text.isEmpty then some .notFound
  else if sizeLimit ≤ p.text.utf8ByteSize then some .nameTooLong
  else none

end Path

end TemplateExport
