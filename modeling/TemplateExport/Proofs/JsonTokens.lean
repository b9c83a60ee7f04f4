import TemplateExport.Json.Printer
import TemplateExport.Json.Token

namespace TemplateExport.Json

theorem hexDigit?_hexChar : ∀ n < 16, hexDigit? (hexChar n) = some n := by
  decide

theorem hexCode?_hexChar {n : Nat} (h : n < 0x100) :
    hexCode? ['0', '0', hexChar (n / 16), hexChar (n % 16)] = some n := by
  have high := hexDigit?_hexChar (n / 16) (by omega)
  have low := hexDigit?_hexChar (n % 16) (by omega)
  have zero : hexDigit? '0' = some 0 := by decide
  simp [hexCode?, high, low, zero]
  omega

/-- A printed character is one piece of the text and stands for itself. -/
theorem scanText_printChar (c : Char) (p : Position) (rest : List Char) :
    ∃ piece p', scanText p (printChar c ++ rest) =
        (piece :: (scanText p' rest).1, (scanText p' rest).2) ∧
      ∀ pieces, joinPieces (piece :: pieces) = (c :: ·) <$> joinPieces pieces := by
  unfold printChar
  split
  case h_8 quote backslash _ _ _ _ _ =>
    split
    next control =>
      refine ⟨.code c.toNat, p.after ['\\', 'u', '0', '0', hexChar (c.toNat / 16),
        hexChar (c.toNat % 16)], ?_, ?_⟩
      · simp only [List.cons_append, List.nil_append]
        rw [scanText, hexCode?_hexChar (by omega)]
      · intro pieces
        have high : isHighSurrogate c.toNat = false := by
          simp only [isHighSurrogate, Bool.and_eq_false_iff, decide_eq_false_iff_not]
          omega
        have low : isLowSurrogate c.toNat = false := by
          simp only [isLowSurrogate, Bool.and_eq_false_iff, decide_eq_false_iff_not]
          omega
        rw [joinPieces.eq_def]
        simp [high, low]
    next plain =>
      refine ⟨.char c, p.next c, ?_, fun _ => rfl⟩
      rw [List.singleton_append, scanText, if_neg plain]
      all_goals simp_all
  all_goals exact ⟨.char _, _, rfl, fun _ => rfl⟩

theorem scanText_printed (cs : List Char) (p : Position) (rest : List Char) :
    ∃ pieces stop, scanText p (cs.flatMap printChar ++ '"' :: rest) =
        (pieces, .closed stop rest) ∧ joinPieces pieces = some cs := by
  induction cs generalizing p with
  | nil => exact ⟨[], p.next '"', rfl, rfl⟩
  | cons c cs ih =>
    obtain ⟨piece, p', scanned, joined⟩ :=
      scanText_printChar c p (cs.flatMap printChar ++ '"' :: rest)
    obtain ⟨pieces, stop, closed, whole⟩ := ih p'
    refine ⟨piece :: pieces, stop, ?_, ?_⟩
    · rw [List.flatMap_cons, List.append_assoc, scanned, closed]
    · rw [joined, whole]
      rfl

/-- A part of a text that is read as the given lexemes, whatever follows it. -/
def Emits (cs : List Char) (lexemes : List Lexeme) : Prop :=
  ∀ steps p rest, (cs ++ rest).length ≤ steps → ∃ ts steps' p', ts.map (·.lexeme) = lexemes ∧
    rest.length ≤ steps' ∧ tokensWithin steps p (cs ++ rest) =
      (ts ++ (tokensWithin steps' p' rest).1, (tokensWithin steps' p' rest).2)

theorem emits_nil : Emits [] [] :=
  fun steps p _ enough => ⟨[], steps, p, rfl, enough, rfl⟩

theorem Emits.append {cs ds : List Char} {lexemes lexemes' : List Lexeme} (h : Emits cs lexemes)
    (h' : Emits ds lexemes') : Emits (cs ++ ds) (lexemes ++ lexemes') := by
  intro steps p rest enough
  rw [List.append_assoc] at enough ⊢
  obtain ⟨ts, steps₁, p₁, same₁, enough₁, scanned₁⟩ := h steps p (ds ++ rest) enough
  obtain ⟨us, steps₂, p₂, same₂, enough₂, scanned₂⟩ := h' steps₁ p₁ rest enough₁
  refine ⟨ts ++ us, steps₂, p₂, by simp [same₁, same₂], enough₂, ?_⟩
  rw [scanned₁, scanned₂, List.append_assoc]

theorem emits_lexeme {c : Char} {cs : List Char} {lexeme : Lexeme} (visible : isSpace c = false)
    (h : ∀ p rest, ∃ stop, scanLexeme p c (cs ++ rest) = ⟨lexeme, stop, rest⟩) :
    Emits (c :: cs) [lexeme] := by
  intro steps p rest enough
  obtain ⟨stop, scanned⟩ := h p rest
  cases steps with
  | zero => simp at enough
  | succ steps =>
    refine ⟨[⟨lexeme, p, stop⟩], steps, stop, rfl, ?_, ?_⟩
    · simp only [List.cons_append, List.length_cons, List.length_append] at enough
      omega
    · simp [tokensWithin, visible, scanned]

theorem emits_printText (s : String) : Emits (printText s) [.scalar (.text s)] := by
  rw [printText, List.cons_append]
  refine emits_lexeme rfl ?_
  intro p rest
  obtain ⟨pieces, stop, scanned, joined⟩ := scanText_printed s.toList (p.next '"') rest
  refine ⟨stop, ?_⟩
  rw [List.append_assoc, List.singleton_append]
  simp [scanLexeme, scanString, scanned, joined]

theorem scanWord_append (word rest : List Char) : scanWord word (word ++ rest) = .ok rest := by
  induction word with
  | nil => rfl
  | cons c word ih => simp [scanWord, ih]

theorem emits_word {c : Char} {word : List Char} {value : Scalar} (visible : isSpace c = false)
    (h : ∀ p rest, scanLexeme p c rest = scanLiteral p (c :: word) value (c :: rest)) :
    Emits (c :: word) [.scalar value] := by
  refine emits_lexeme visible fun p rest => ⟨p.after (c :: word), ?_⟩
  rw [h, ← List.cons_append, scanLiteral, scanWord_append]

mutual

/-- The lexemes of a printed value. -/
def lexemesOf : Tree → List Lexeme
  | .null => [.scalar .null]
  | .boolean b => [.scalar (.boolean b)]
  | .text s => [.scalar (.text s)]
  | .array items => .openArray :: (itemLexemes items ++ [.closeArray])
  | .table entries => .openTable :: (entryLexemes entries ++ [.closeTable])

def itemLexemes : List Tree → List Lexeme
  | [] => []
  | [item] => lexemesOf item
  | item :: rest => lexemesOf item ++ .comma :: itemLexemes rest

def entryLexemes : List (String × Tree) → List Lexeme
  | [] => []
  | [(key, value)] => .scalar (.text key) :: .colon :: lexemesOf value
  | (key, value) :: rest =>
    .scalar (.text key) :: .colon :: (lexemesOf value ++ .comma :: entryLexemes rest)

end

theorem emits_comma : Emits [','] [.comma] :=
  emits_lexeme rfl fun p _ => ⟨p.next ',', rfl⟩

theorem emits_colon : Emits [':'] [.colon] :=
  emits_lexeme rfl fun p _ => ⟨p.next ':', rfl⟩

theorem emits_open_array : Emits ['['] [.openArray] :=
  emits_lexeme rfl fun p _ => ⟨p.next '[', rfl⟩

theorem emits_close_array : Emits [']'] [.closeArray] :=
  emits_lexeme rfl fun p _ => ⟨p.next ']', rfl⟩

theorem emits_open_table : Emits ['\x7b'] [.openTable] :=
  emits_lexeme rfl fun p _ => ⟨p.next '\x7b', rfl⟩

theorem emits_close_table : Emits ['\x7d'] [.closeTable] :=
  emits_lexeme rfl fun p _ => ⟨p.next '\x7d', rfl⟩

theorem emits_entry {key : String} {cs : List Char} {lexemes : List Lexeme}
    (value : Emits cs lexemes) :
    Emits (printText key ++ ':' :: cs) (.scalar (.text key) :: .colon :: lexemes) :=
  (emits_printText key).append (emits_colon.append value)

mutual

theorem emits_print : (t : Tree) → Emits (print t) (lexemesOf t)
  | .null => emits_word rfl fun _ _ => rfl
  | .boolean true => emits_word rfl fun _ _ => rfl
  | .boolean false => emits_word rfl fun _ _ => rfl
  | .text s => emits_printText s
  | .array items => by
    have inside := emits_open_array.append (emits_printItems items)
    exact inside.append emits_close_array
  | .table entries => by
    have inside := emits_open_table.append (emits_printEntries entries)
    exact inside.append emits_close_table

theorem emits_printItems : (items : List Tree) → Emits (printItems items) (itemLexemes items)
  | [] => emits_nil
  | [item] => emits_print item
  | item :: next :: rest => by
    have others := emits_comma.append (emits_printItems (next :: rest))
    exact (emits_print item).append others

theorem emits_printEntries :
    (entries : List (String × Tree)) → Emits (printEntries entries) (entryLexemes entries)
  | [] => emits_nil
  | [(_, value)] => emits_entry (emits_print value)
  | (key, value) :: next :: rest => by
    have others := emits_comma.append (emits_printEntries (next :: rest))
    exact (emits_entry (emits_print value)).append others

end

end TemplateExport.Json
