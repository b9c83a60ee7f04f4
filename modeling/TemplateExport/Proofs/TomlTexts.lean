import TemplateExport.Proofs.Readings
import TemplateExport.Toml.Outline

namespace TemplateExport.Toml

/-- A character inside a text on one line. Quotes, backslashes and controls are given in another
way. -/
def printChar (c : Char) : List Char :=
  if c = '"' ∨ c = '\\' then ['\\', c]
  else if isPlain c then [c]
  else ['\\', 'u', '0', '0', Json.hexChar (c.toNat / 16), Json.hexChar (c.toNat % 16)]

def printText (s : String) : List Char :=
  '"' :: (s.toList.flatMap printChar ++ ['"'])

mutual

/-- A value on one line, without blanks. A null has no text. -/
def print : Tree → List Char
  | .null => []
  | .boolean true => "true".toList
  | .boolean false => "false".toList
  | .text s => printText s
  | .array items => '[' :: (printItems items ++ [']'])
  | .table entries => '\x7b' :: (printEntries entries ++ ['\x7d'])

def printItems : List Tree → List Char
  | [] => []
  | [item] => print item
  | item :: rest => print item ++ ',' :: printItems rest

def printEntries : List (String × Tree) → List Char
  | [] => []
  | [(key, value)] => printText key ++ '=' :: print value
  | (key, value) :: rest => printText key ++ '=' :: (print value ++ ',' :: printEntries rest)

end

/-- A document with one line for each entry of its outermost table. -/
def printDocument (entries : List (String × Tree)) : List Char :=
  entries.flatMap fun (key, value) => printText key ++ '=' :: (print value ++ ['\n'])

theorem toNat_lt_of_not_plain {c : Char} (h : isPlain c = false) : c.toNat < 0x80 := by
  simp only [isPlain, Bool.or_eq_false_iff, Bool.and_eq_false_iff, decide_eq_false_iff_not,
    bne_eq_false_iff_eq] at h
  omega

theorem escape?_numbered {c : Char} (h : c.toNat < 0x100) (rest : List Char) :
    escape? ('u' :: '0' :: '0' :: Json.hexChar (c.toNat / 16) :: Json.hexChar (c.toNat % 16) ::
      rest) = some (c, 5) := by
  have valid : c.toNat.isValidChar := c.valid
  simp [escape?, numbered?, Json.hexCode?_hexChar h, valid]

theorem scanBasic_printChar (c : Char) (rest : List Char) :
    scanBasic (printChar c ++ rest) =
      (scanBasic rest).map fun (text, behind) => (c :: text, behind) := by
  unfold printChar
  split
  next quote =>
    rcases quote with rfl | rfl <;> simp [scanBasic, escape?]
  next plain =>
    rw [not_or] at plain
    split
    next shown =>
      rw [List.singleton_append, scanBasic] <;> simp_all
    next hidden =>
      have small := toNat_lt_of_not_plain (Bool.eq_false_iff.mpr hidden)
      simp only [List.cons_append, List.nil_append]
      rw [scanBasic, escape?_numbered (by omega)]
      simp

theorem scanBasic_printed (cs rest : List Char) :
    scanBasic (cs.flatMap printChar ++ '"' :: rest) = some (cs, rest) := by
  induction cs with
  | nil => simp [scanBasic]
  | cons c cs ih =>
    rw [List.flatMap_cons, List.append_assoc, scanBasic_printChar, ih, Option.map_some]

theorem printChar_head (c : Char) : ∃ d ds, printChar c = d :: ds ∧ d ≠ '"' := by
  unfold printChar
  split
  · exact ⟨_, _, rfl, by decide⟩
  next plain =>
    split
    · exact ⟨_, _, rfl, fun same => plain (Or.inl same)⟩
    · exact ⟨_, _, rfl, by decide⟩

theorem quotedLine?_printText (s : String) (rest : List Char) :
    quotedLine? (printText s ++ rest) = some (s.toList, rest) := by
  have whole := scanBasic_printed s.toList rest
  simpa [printText, quotedLine?] using whole

/-- A text is one on one line, unless a quote follows an empty one. -/
theorem quotedText?_printText (s : String) {rest : List Char} (parted : rest.head? ≠ some '"') :
    quotedText? (printText s ++ rest) = some (s.toList, rest) := by
  rw [← quotedLine?_printText s rest, quotedText?]
  · intro more same
    rw [printText, List.cons_append, List.cons.injEq] at same
    cases chars : s.toList with
    | nil => simp_all
    | cons c cs =>
      obtain ⟨d, ds, head, ne⟩ := printChar_head c
      simp_all
  · intro more same
    simp [printText] at same

theorem skipSpace_of_visible {c : Char} (visible : isSpace c = false) (rest : List Char) :
    skipSpace (c :: rest) = c :: rest :=
  List.dropWhile_cons_of_neg (by simp [visible])

theorem simpleKey?_printText (s : String) (rest : List Char) :
    simpleKey? (printText s ++ rest) = some (s, rest) := by
  have quoted : (printText s ++ rest).takeWhile isBare = [] :=
    List.takeWhile_cons_of_neg (by decide)
  rw [simpleKey?, quoted, quotedLine?_printText]
  exact congrArg (fun t => some (t, rest)) (String.ofList_toList)

theorem key?_printText (s : String) (rest : List Char) :
    key? (printText s ++ '=' :: rest) = some (([], s), '=' :: rest) := by
  have start : skipSpace (printText s ++ '=' :: rest) = printText s ++ '=' :: rest :=
    skipSpace_of_visible rfl _
  have marked : skipSpace ('=' :: rest) = '=' :: rest := skipSpace_of_visible rfl _
  rw [key?, depthLimit, keyWithin, start, simpleKey?_printText]
  simp only [bind, Option.bind, marked]
  rfl

/-- A text before which a value ends. -/
def Parted (rest : List Char) : Prop :=
  ∃ c more, rest = c :: more ∧ endsWord c = true

theorem word_append {w rest : List Char}
    (inside : ∀ c ∈ w, isSpace c = false ∧ endsWord c = false) (parted : Parted rest) :
    word (w ++ rest) = (w, rest) := by
  induction w with
  | nil =>
    obtain ⟨c, more, rfl, ends⟩ := parted
    simp [word, ends]
  | cons c w ih =>
    obtain ⟨here, later⟩ := List.forall_mem_cons.mp inside
    simp [word, here, ih later]

end TemplateExport.Toml
