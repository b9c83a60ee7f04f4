namespace TemplateExport

def isNameStart (c : Char) : Bool :=
  c.isAlpha || c == '_'

def isNamePart (c : Char) : Bool :=
  c.isAlphanum || c == '_'

/-- Whether a text has the form of a C identifier, keywords included. -/
def isIdentifier (s : String) : Bool :=
  match s.toList with
  | [] => false
  | c :: rest => isNameStart c && rest.all isNamePart

theorem isNamePart_of_isNameStart {c : Char} (h : isNameStart c = true) : isNamePart c = true := by
  simp only [isNameStart, isNamePart, Char.isAlphanum, Bool.or_eq_true] at h ⊢
  rcases h with h | h
  · exact Or.inl (Or.inl h)
  · exact Or.inr h

theorem isNamePart_of_isIdentifier {s : String} (h : isIdentifier s = true) :
    ∀ c ∈ s.toList, isNamePart c = true := by
  unfold isIdentifier at h
  split at h
  next => cases h
  next first rest chars =>
    rw [Bool.and_eq_true] at h
    rw [chars]
    intro c hc
    rcases List.mem_cons.mp hc with rfl | hc
    · exact isNamePart_of_isNameStart h.1
    · exact List.all_eq_true.mp h.2 c hc

theorem isIdentifier_append {s t : String} (h : isIdentifier s = true)
    (parts : t.toList.all isNamePart = true) : isIdentifier (s ++ t) = true := by
  unfold isIdentifier at h ⊢
  rw [String.toList_append]
  cases chars : s.toList with
  | nil =>
    rw [chars] at h
    cases h
  | cons first rest =>
    simp only [chars, Bool.and_eq_true] at h
    simp only [List.cons_append, List.all_append, h, parts, Bool.and_self]

/-- The keywords of C11 and C++17 and the alternative operator spellings. -/
def reservedWords : List String :=
  ["alignas", "alignof", "and", "and_eq", "asm", "auto", "bitand", "bitor", "bool", "break",
    "case", "catch", "char", "char16_t", "char32_t", "class", "compl", "const", "const_cast",
    "constexpr", "continue", "decltype", "default", "delete", "do", "double", "dynamic_cast",
    "else", "enum", "explicit", "export", "extern", "false", "float", "for", "friend", "goto",
    "if", "inline", "int", "long", "mutable", "namespace", "new", "noexcept", "not", "not_eq",
    "nullptr", "operator", "or", "or_eq", "private", "protected", "public", "register",
    "reinterpret_cast", "restrict", "return", "short", "signed", "sizeof", "static",
    "static_assert", "static_cast", "struct", "switch", "template", "this", "thread_local",
    "throw", "true", "try", "typedef", "typeid", "typename", "union", "unsigned", "using",
    "virtual", "void", "volatile", "wchar_t", "while", "xor", "xor_eq", "_Alignas", "_Alignof",
    "_Atomic", "_Bool", "_Complex", "_Generic", "_Imaginary", "_Noreturn", "_Static_assert",
    "_Thread_local"]

def isReservedWord (s : String) : Bool :=
  reservedWords.contains s

end TemplateExport
