import TemplateExport.Document.Basic

namespace TemplateExport.Json

def hexChar (n : Nat) : Char :=
  if n < 10 then Char.ofNat ('0'.toNat + n) else Char.ofNat ('a'.toNat + (n - 10))

/-- A character inside a text. Quotes, backslashes and controls are given in another way. -/
def printChar (c : Char) : List Char :=
  match c with
  | '"' => ['\\', '"']
  | '\\' => ['\\', '\\']
  | '\x08' => ['\\', 'b']
  | '\t' => ['\\', 't']
  | '\n' => ['\\', 'n']
  | '\x0C' => ['\\', 'f']
  | '\r' => ['\\', 'r']
  | _ =>
    if c.toNat < 0x20 then
      ['\\', 'u', '0', '0', hexChar (c.toNat / 16), hexChar (c.toNat % 16)]
    else [c]

def printText (s : String) : List Char :=
  '"' :: s.toList.flatMap printChar ++ ['"']

mutual

/-- The shortest text of a value, without blanks. -/
def print : Tree → List Char
  | .null => "null".toList
  | .boolean true => "true".toList
  | .boolean false => "false".toList
  | .text s => printText s
  | .array items => '[' :: printItems items ++ [']']
  | .table entries => '\x7b' :: printEntries entries ++ ['\x7d']

def printItems : List Tree → List Char
  | [] => []
  | [item] => print item
  | item :: rest => print item ++ ',' :: printItems rest

def printEntries : List (String × Tree) → List Char
  | [] => []
  | [(key, value)] => printText key ++ ':' :: print value
  | (key, value) :: rest => printText key ++ ':' :: print value ++ ',' :: printEntries rest

end

end TemplateExport.Json
