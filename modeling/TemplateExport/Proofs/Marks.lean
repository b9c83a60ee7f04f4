import Mathlib.Data.List.Infix
import TemplateExport.Proofs.Acceptance

namespace TemplateExport

/-- The keywords that a name which is none makes with an underscore and more. -/
def composedKeywords : List (String × String) :=
  [("char16", "char16_t"), ("char32", "char32_t"), ("dynamic", "dynamic_cast"),
    ("reinterpret", "reinterpret_cast"), ("thread", "thread_local"), ("wchar", "wchar_t"),
    ("_Static", "_Static_assert"), ("_Thread", "_Thread_local")]

theorem keyword_heads : ∀ word ∈ reservedWords, ∀ head ∈ word.toList.inits,
    head ++ ['_'] <+: word.toList → isIdentifier (String.ofList head) = true →
      isReservedWord (String.ofList head) = false →
        (String.ofList head, word) ∈ composedKeywords := by
  decide +kernel

/-- What the names of the linkage marks have behind the name of the library. -/
def markWords : List String :=
  ["EXTERN_C", "IMPORT", "EXPORT", "EXPORTED_INTERFACE_H"]

theorem markWord_heads : ∀ word ∈ markWords, ∀ head ∈ word.toList.inits,
    head ++ ['_'] <+: word.toList →
      String.ofList head ∈ ["EXTERN", "EXPORTED", "EXPORTED_INTERFACE"] := by
  decide +kernel

theorem head_of_divided {word head tail : String} (divided : word = head ++ "_" ++ tail) :
    head.toList ∈ word.toList.inits ∧ head.toList ++ ['_'] <+: word.toList := by
  have chars : word.toList = head.toList ++ ['_'] ++ tail.toList := by
    simp [divided, String.toList_append]
  have start : head.toList ++ ['_'] <+: word.toList := chars ▸ List.prefix_append _ _
  exact ⟨List.mem_inits _ _ |>.mpr ((List.prefix_append _ _).trans start), start⟩

theorem composed_of_keyword {name rest : String} (named : IsName name)
    (keyword : isReservedWord (name ++ "_" ++ rest) = true) :
    (name, name ++ "_" ++ rest) ∈ composedKeywords := by
  obtain ⟨init, start⟩ := head_of_divided (rfl : name ++ "_" ++ rest = name ++ "_" ++ rest)
  have known : name ++ "_" ++ rest ∈ reservedWords := by simpa [isReservedWord] using keyword
  have composed := keyword_heads _ known _ init start
  rw [String.ofList_toList] at composed
  exact composed named.identifier named.unreserved

/-- A text that is divided at a character in two ways: the ways are one, or in one of them the part
before the character goes on over the other. -/
theorem append_cons_eq_append_cons {α : Type} {c : α} {before behind before' behind' : List α}
    (same : before ++ c :: behind = before' ++ c :: behind') :
    (before = before' ∧ behind = behind') ∨
      (∃ more, before' = before ++ c :: more ∧ behind = more ++ c :: behind') ∨
      ∃ more, before = before' ++ c :: more ∧ behind' = more ++ c :: behind := by
  rcases List.append_eq_append_iff.mp same with ⟨more, rfl, parts⟩ | ⟨more, rfl, parts⟩
  · cases more with
    | nil => exact Or.inl (by simpa using parts)
    | cons d more =>
      obtain ⟨rfl, rest⟩ := List.cons.inj parts
      exact Or.inr (Or.inl ⟨more, rfl, rest⟩)
  · cases more with
    | nil => exact Or.inl (by simpa using parts.symm)
    | cons d more =>
      obtain ⟨rfl, rest⟩ := List.cons.inj parts
      exact Or.inr (Or.inr ⟨more, rfl, rest⟩)

/-- Two divided names are one only if their first parts are one, or if one of these goes on as
the other name does. -/
theorem divided_eq_divided {name rest library word : String}
    (same : name ++ "_" ++ rest = library ++ "_" ++ word) :
    name = library ∨ (∃ middle, library = name ++ "_" ++ middle) ∨
      ∃ head tail, word = head ++ "_" ++ tail ∧ name = library ++ "_" ++ head := by
  have chars : name.toList ++ '_' :: rest.toList = library.toList ++ '_' :: word.toList := by
    simpa [String.toList_append] using congrArg String.toList same
  rcases append_cons_eq_append_cons chars with
    ⟨here, -⟩ | ⟨middle, longer, -⟩ | ⟨head, longer, behind⟩
  · exact Or.inl (String.toList_inj.mp here)
  · refine Or.inr (Or.inl ⟨String.ofList middle, String.toList_inj.mp ?_⟩)
    simpa [String.toList_append] using longer
  · refine Or.inr (Or.inr ⟨String.ofList head, rest, String.toList_inj.mp ?_,
      String.toList_inj.mp ?_⟩)
    · simpa [String.toList_append] using behind
    · simpa [String.toList_append] using longer

/-- The names that a library defines for the preprocessor. -/
def Config.markNames (c : Config) : List String :=
  markWords.map (c.linkageLabel ++ "_" ++ ·)

theorem Config.markNames_eq (c : Config) :
    c.markNames = [externMark c.linkageLabel, importMark c.linkageLabel,
      exportMark c.linkageLabel, includeGuard c.linkageLabel] := by
  simp [markNames, markWords, externMark, importMark, exportMark, includeGuard,
    String.append_assoc]

namespace Wrapper

variable {c : Config} {w : Wrapper}

/-- A wrapper is named like a mark only if its function has a name of a few: that of the library,
a start of it, or the start of a mark. -/
theorem name_of_mark {name : String} (mark : name ∈ c.markNames) (same : w.name c.suffixes = name) :
    w.function.name = c.linkageLabel ∨
      (∃ middle, c.linkageLabel = w.function.name ++ "_" ++ middle) ∨
      ∃ head ∈ ["EXTERN", "EXPORTED", "EXPORTED_INTERFACE"],
        w.function.name = c.linkageLabel ++ "_" ++ head := by
  obtain ⟨word, known, rfl⟩ := List.mem_map.mp mark
  rcases divided_eq_divided same with here | before | ⟨head, tail, divided, longer⟩
  · exact Or.inl here
  · exact Or.inr (Or.inl before)
  · obtain ⟨init, start⟩ := head_of_divided divided
    have found := markWord_heads word known head.toList init start
    rw [String.ofList_toList] at found
    exact Or.inr (Or.inr ⟨head, found, longer⟩)

end Wrapper

end TemplateExport
