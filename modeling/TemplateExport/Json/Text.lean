import TemplateExport.Document.Mismatch

namespace TemplateExport.Json

/-- A part of a text: a character, or a code unit of 16 bits given by number. -/
inductive Piece where
  | char (c : Char)
  | code (n : Nat)
deriving DecidableEq, Repr

def isHighSurrogate (n : Nat) : Bool := 0xD800 ≤ n && n < 0xDC00

def isLowSurrogate (n : Nat) : Bool := 0xDC00 ≤ n && n < 0xE000

def pairChar (high low : Nat) : Char :=
  Char.ofNat (0x10000 + (high - 0xD800) * 0x400 + (low - 0xDC00))

/-- The characters of a text, unless a surrogate in it has no partner. -/
def joinPieces : List Piece → Option (List Char)
  | [] => some []
  | .char c :: rest => (c :: ·) <$> joinPieces rest
  | .code n :: rest =>
    if isHighSurrogate n then
      match rest with
      | .code k :: rest => if isLowSurrogate k then (pairChar n k :: ·) <$> joinPieces rest else none
      | _ => none
    else if isLowSurrogate n then none
    else (Char.ofNat n :: ·) <$> joinPieces rest

/-- The pieces up to a first half of a pair whose other half may still follow. -/
def dropPending (pieces : List Piece) : List Piece :=
  match pieces.getLast? with
  | some (.code n) => if isHighSurrogate n then pieces.dropLast else pieces
  | _ => pieces

inductive TextEnd where
  | closed (stop : Position) (rest : List Char)
  | broken (how : Break)
deriving DecidableEq, Repr

def hexDigit? (c : Char) : Option Nat :=
  if c.isDigit then some (c.toNat - '0'.toNat)
  else if 'a' ≤ c ∧ c ≤ 'f' then some (c.toNat - 'a'.toNat + 10)
  else if 'A' ≤ c ∧ c ≤ 'F' then some (c.toNat - 'A'.toNat + 10)
  else none

def hexCode? (digits : List Char) : Option Nat :=
  digits.foldlM (fun n c => (n * 16 + ·) <$> hexDigit? c) 0

def escape? (c : Char) : Option Char :=
  match c with
  | '"' => some '"'
  | '\\' => some '\\'
  | '/' => some '/'
  | 'b' => some '\x08'
  | 'f' => some '\x0C'
  | 'n' => some '\n'
  | 'r' => some '\r'
  | 't' => some '\t'
  | _ => none

def utf8Length (cs : List Char) : Nat :=
  (String.ofList cs).utf8ByteSize

/-- The text after an opening quote, with the place before it. A code unit needs four more bytes;
with fewer of them the text is cut off, whatever they are. -/
def scanText (p : Position) : List Char → List Piece × TextEnd
  | [] => ([], .broken .cutOff)
  | '"' :: rest => ([], .closed (p.next '"') rest)
  | '\\' :: 'u' :: a :: b :: c :: d :: rest =>
    match hexCode? [a, b, c, d] with
    | none => ([], .broken .illFormed)
    | some n =>
      let (pieces, ending) := scanText (p.after ['\\', 'u', a, b, c, d]) rest
      (.code n :: pieces, ending)
  | '\\' :: 'u' :: rest => ([], .broken (if utf8Length rest < 4 then .cutOff else .illFormed))
  | '\\' :: c :: rest =>
    match escape? c with
    | none => ([], .broken .illFormed)
    | some e =>
      let (pieces, ending) := scanText (p.after ['\\', c]) rest
      (.char e :: pieces, ending)
  | ['\\'] => ([], .broken .cutOff)
  | c :: rest =>
    if c.toNat < 0x20 then ([], .broken .illFormed)
    else
      let (pieces, ending) := scanText (p.next c) rest
      (.char c :: pieces, ending)

end TemplateExport.Json
