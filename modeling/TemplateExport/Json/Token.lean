import TemplateExport.Json.Numeral
import TemplateExport.Json.Text

namespace TemplateExport.Json

inductive Lexeme where
  | openArray
  | closeArray
  | openTable
  | closeTable
  | comma
  | colon
  | scalar (value : Scalar)
  /-- A value that cannot be read. If skipping it meets a break as well, nothing follows. -/
  | refused (isText : Bool) (skipping : Option Break) (reading : Break)
  | stray

structure Token where
  lexeme : Lexeme
  start : Position
  stop : Position

def isSpace (c : Char) : Bool :=
  c == ' ' || c == '\t' || c == '\n' || c == '\r'

def scanWord : List Char → List Char → Except Break (List Char)
  | [], rest => .ok rest
  | _ :: _, [] => .error .cutOff
  | w :: word, c :: rest => if w = c then scanWord word rest else .error .illFormed

/-- A lexeme, and the place and the text behind it; no text follows a broken one. -/
structure Scan where
  lexeme : Lexeme
  stop : Position
  rest : List Char

def scanLiteral (p : Position) (word : List Char) (value : Scalar) (cs : List Char) : Scan :=
  match scanWord word cs with
  | .ok rest => ⟨.scalar value, p.after word, rest⟩
  | .error how => ⟨.refused false (some how) how, p, []⟩

def scanNumber (p : Position) (cs : List Char) : Scan :=
  match scanNumeral cs with
  | .error (skipping, reading) => ⟨.refused false (some skipping) reading, p, []⟩
  | .ok (numeral, rest) =>
    let stop := p.after (cs.take (cs.length - rest.length))
    match numeral.value? with
    | some value => ⟨.scalar value, stop, rest⟩
    | none => ⟨.refused false none .illFormed, stop, rest⟩

def scanString (p : Position) (cs : List Char) : Scan :=
  match scanText p cs with
  | (pieces, .closed stop rest) =>
    match joinPieces pieces with
    | some chars => ⟨.scalar (.text (String.ofList chars)), stop, rest⟩
    | none => ⟨.refused true none .illFormed, stop, rest⟩
  | (pieces, .broken how) =>
    let reading := if (joinPieces (dropPending pieces)).isSome then how else .illFormed
    ⟨.refused true (some how) reading, p, []⟩

def scanLexeme (p : Position) (c : Char) (rest : List Char) : Scan :=
  match c with
  | '[' => ⟨.openArray, p.next c, rest⟩
  | ']' => ⟨.closeArray, p.next c, rest⟩
  | '\x7b' => ⟨.openTable, p.next c, rest⟩
  | '\x7d' => ⟨.closeTable, p.next c, rest⟩
  | ',' => ⟨.comma, p.next c, rest⟩
  | ':' => ⟨.colon, p.next c, rest⟩
  | '"' => scanString (p.next c) rest
  | 'n' => scanLiteral p "null".toList .null (c :: rest)
  | 't' => scanLiteral p "true".toList (.boolean true) (c :: rest)
  | 'f' => scanLiteral p "false".toList (.boolean false) (c :: rest)
  | _ => if c.isDigit || c == '-' then scanNumber p (c :: rest) else ⟨.stray, p, []⟩

/-- The tokens of a text and the place of its end. Every step takes a character at least, so the
length of the text is steps enough. -/
def tokensWithin : Nat → Position → List Char → List Token × Position
  | 0, p, _ => ([], p)
  | _, p, [] => ([], p)
  | steps + 1, p, c :: rest =>
    if isSpace c then tokensWithin steps (p.next c) rest
    else
      let scan := scanLexeme p c rest
      let (tokens, last) := tokensWithin steps scan.stop scan.rest
      (⟨scan.lexeme, p, scan.stop⟩ :: tokens, last)

def tokens (cs : List Char) : List Token × Position :=
  tokensWithin cs.length .start cs

end TemplateExport.Json
