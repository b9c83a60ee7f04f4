import TemplateExport.Json.Text
import TemplateExport.Toml.Blank

namespace TemplateExport.Toml

def numbered? (digits : List Char) : Option Char :=
  match Json.hexCode? digits with
  | none => none
  | some n => if n.isValidChar then some (Char.ofNat n) else none

/-- The character that an escape stands for, and the number of characters behind the backslash
that make it up. -/
def escape? : List Char → Option (Char × Nat)
  | 'b' :: _ => some ('\x08', 1)
  | 't' :: _ => some ('\t', 1)
  | 'n' :: _ => some ('\n', 1)
  | 'f' :: _ => some ('\x0C', 1)
  | 'r' :: _ => some ('\r', 1)
  | 'e' :: _ => some ('\x1B', 1)
  | '"' :: _ => some ('"', 1)
  | '\\' :: _ => some ('\\', 1)
  | 'x' :: a :: b :: _ => (numbered? [a, b]).map (·, 3)
  | 'u' :: a :: b :: c :: d :: _ => (numbered? [a, b, c, d]).map (·, 5)
  | 'U' :: a :: b :: c :: d :: e :: f :: g :: h :: _ =>
    (numbered? [a, b, c, d, e, f, g, h]).map (·, 9)
  | _ => none

/-- The text behind a quote, with the contents before it. -/
abbrev Quotation := Option (List Char × List Char)

def scanBasic (cs : List Char) : Quotation :=
  match cs with
  | [] => none
  | '"' :: rest => some ([], rest)
  | '\\' :: rest =>
    match escape? rest with
    | none => none
    | some (c, used) => (scanBasic (rest.drop used)).map fun (text, behind) => (c :: text, behind)
  | c :: rest =>
    if isPlain c then (scanBasic rest).map fun (text, behind) => (c :: text, behind) else none
termination_by cs.length
decreasing_by
  · simp only [List.length_drop, List.length_cons]
    omega
  · simp

/-- A text on one line in which nothing is escaped. -/
def scanLiteral : List Char → Quotation
  | [] => none
  | '\'' :: rest => some ([], rest)
  | c :: rest =>
    if isPlain c then (scanLiteral rest).map fun (text, behind) => (c :: text, behind) else none

/-- The quotes at the end of a text of several lines: those that still belong to it, and what is
behind. Up to two quotes may stand before the three that close it. -/
def closeLines (quote : Char) : List Char → Quotation
  | a :: b :: c :: rest =>
    if a = quote ∧ b = quote ∧ c = quote then
      match rest with
      | d :: e :: more =>
        if d = quote ∧ e = quote then some ([quote, quote], more)
        else if d = quote then some ([quote], e :: more)
        else some ([], d :: e :: more)
      | [d] => if d = quote then some ([quote], []) else some ([], [d])
      | [] => some ([], [])
    else none
  | _ => none

def skipLines : List Char → List Char
  | '\n' :: rest => skipLines rest
  | '\r' :: '\n' :: rest => skipLines rest
  | c :: rest => if isSpace c then skipLines rest else c :: rest
  | [] => []

theorem length_skipLines_le (cs : List Char) : (skipLines cs).length ≤ cs.length := by
  fun_induction skipLines cs <;> simp_all <;> omega

/-- The text behind a backslash at the end of a line, without the blanks and line ends it starts
with. -/
def joinLine? (cs : List Char) : Option (List Char) :=
  if (lineEnd? (skipSpace cs)).isSome then some (skipLines cs) else none

def isPlainInLines (c : Char) (rest : List Char) : Bool :=
  isPlain c || c == '\n' || (c == '\r' && rest.head? == some '\n')

def scanBasicLines (cs : List Char) : Quotation :=
  match closeLines '"' cs with
  | some closed => some closed
  | none =>
    match cs with
    | [] => none
    | '\\' :: rest =>
      match _h : joinLine? rest with
      | some joined => scanBasicLines joined
      | none =>
        match escape? rest with
        | none => none
        | some (c, used) =>
          (scanBasicLines (rest.drop used)).map fun (text, behind) => (c :: text, behind)
    | c :: rest =>
      if isPlainInLines c rest then
        (scanBasicLines rest).map fun (text, behind) => (c :: text, behind)
      else none
termination_by cs.length
decreasing_by
  · have : joined.length ≤ rest.length := by
      unfold joinLine? at _h
      split at _h
      · exact Option.some.inj _h ▸ length_skipLines_le _
      · simp at _h
    simp only [List.length_cons]
    omega
  · simp only [List.length_drop, List.length_cons]
    omega
  · simp

def scanLiteralLines : List Char → Quotation
  | [] => none
  | c :: rest =>
    match closeLines '\'' (c :: rest) with
    | some closed => some closed
    | none =>
      if isPlainInLines c rest then
        (scanLiteralLines rest).map fun (text, behind) => (c :: text, behind)
      else none

/-- The first line end of a text of several lines does not belong to it. -/
def dropLineEnd (cs : List Char) : List Char :=
  (lineEnd? cs).getD cs

def quotedLine? : List Char → Quotation
  | '"' :: rest => scanBasic rest
  | '\'' :: rest => scanLiteral rest
  | _ => none

def quotedText? : List Char → Quotation
  | '"' :: '"' :: '"' :: rest => scanBasicLines (dropLineEnd rest)
  | '\'' :: '\'' :: '\'' :: rest => scanLiteralLines (dropLineEnd rest)
  | cs => quotedLine? cs

end TemplateExport.Toml
