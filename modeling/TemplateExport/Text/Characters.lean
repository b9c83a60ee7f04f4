import TemplateExport.Text.Printable

namespace TemplateExport

/-- The characters with the Unicode property White_Space. -/
def isBlank (c : Char) : Bool :=
  let n := c.toNat
  (0x9 ≤ n && n ≤ 0xD) || n == 0x20 || n == 0x85 || n == 0xA0 || n == 0x1680 ||
    (0x2000 ≤ n && n ≤ 0x200A) || n == 0x2028 || n == 0x2029 || n == 0x202F ||
    n == 0x205F || n == 0x3000

def trimBlank (s : String) : String :=
  String.ofList (((s.toList.dropWhile isBlank).reverse.dropWhile isBlank).reverse)

def isBlankText (s : String) : Bool :=
  s.toList.all isBlank

def hexDigits (n : Nat) : String :=
  String.ofList (Nat.toDigits 16 n)

/-- A character inside a quoted text. A character that cannot be shown is given by its number. -/
def quotedChar (c : Char) : String :=
  if c = '"' then "\\\""
  else if c = '\\' then "\\\\"
  else if c = '\n' then "\\n"
  else if c = '\r' then "\\r"
  else if c = '\t' then "\\t"
  else if c = '\x00' then "\\0"
  else if isPrintable c then String.singleton c
  else "\\u\x7b" ++ hexDigits c.toNat ++ "\x7d"

/-- A text between quotes, on one line and with every character visible. -/
def quoted (s : String) : String :=
  "\"" ++ String.join (s.toList.map quotedChar) ++ "\""

/-- Whether a terminal may take a character for a command or for the start of one. -/
def isTerminalControl (c : Char) : Bool :=
  c == '\x07' || c == '\x08' || c == '\x0C' || c == '\x1B' || c == '\x7F' ||
    (0x80 ≤ c.toNat && c.toNat < 0xA0)

def terminalChar (c : Char) : String :=
  if !isTerminalControl c then String.singleton c
  else if c.toNat < 0x10 then "\\x0" ++ hexDigits c.toNat
  else if c.toNat < 0x80 then "\\x" ++ hexDigits c.toNat
  else "\\u\x7b" ++ hexDigits c.toNat ++ "\x7d"

/-- A text that is safe to show. Tabs and line ends stay. -/
def terminalText (s : String) : String :=
  String.join (s.toList.map terminalChar)

end TemplateExport
