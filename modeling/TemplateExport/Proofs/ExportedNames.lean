import TemplateExport.Proofs.LanguageParts
import TemplateExport.Proofs.LineBreaks

namespace TemplateExport

open Preprocessor

/-- The lines that a compiler reads in a text. -/
def sourceLines (text : String) : List String :=
  (text.toList.splitOnP (· ∈ lineEnds)).map String.ofList

/-- The name that a line defines for the preprocessor. -/
def Directive.defined? : Directive → Option String
  | defines name => some name
  | _ => none

/-- The names that the lines of a text define. -/
def definedNames (text : String) : List String :=
  (sourceLines text).filterMap fun line => (Directive.ofText line).defined?

theorem sourceLines_append_end (s t : String) :
    sourceLines (s ++ "\n" ++ t) = sourceLines s ++ sourceLines t := by
  have ends : decide ('\n' ∈ lineEnds) = true := by decide
  have split := List.splitOnP_append_cons (p := (· ∈ lineEnds)) s.toList t.toList ends
  rw [sourceLines, String.append_assoc, String.toList_append, String.toList_append]
  exact (congrArg (List.map String.ofList) split).trans List.map_append

theorem definedNames_append_end (s t : String) :
    definedNames (s ++ "\n" ++ t) = definedNames s ++ definedNames t := by
  rw [definedNames, sourceLines_append_end, List.filterMap_append]
  rfl

theorem definedNames_join {lines : List Line} (filled : lines ≠ []) :
    definedNames (Line.join lines) = lines.flatMap (definedNames ·.text) := by
  have empty : definedNames "" = [] := by decide
  induction lines with
  | nil => exact absurd rfl filled
  | cons line rest ih =>
    cases rest with
    | nil =>
      have ended := definedNames_append_end line.text ""
      rw [String.append_empty, empty, List.append_nil] at ended
      rw [Line.join_singleton, ended]
      simp
    | cons next rest =>
      rw [Line.join_cons_cons, definedNames_append_end, ih (by simp)]
      rfl

section

variable {ch : Char} (ends : ch ∈ lineEnds)

include ends

theorem not_isGap_of_mem_lineEnds : isGap ch = false ∧ ch ≠ '#' := by
  simp only [lineEnds, List.mem_cons, List.not_mem_nil, or_false] at ends
  rcases ends with rfl | rfl <;> decide

theorem dropWhile_isGap_append (before after : List Char) :
    (before ++ ch :: after).dropWhile isGap = before.dropWhile isGap ++ ch :: after := by
  induction before with
  | nil => simp [not_isGap_of_mem_lineEnds ends]
  | cons c before ih =>
    rw [List.cons_append, List.dropWhile_cons, List.dropWhile_cons, ih]
    cases isGap c <;> rfl

theorem takeWhile_isNamePart_append (before after : List Char) :
    (before ++ ch :: after).takeWhile isNamePart = before.takeWhile isNamePart := by
  induction before with
  | nil => simp [not_isNamePart_of_mem_lineEnds ends]
  | cons c before ih => rw [List.cons_append, List.takeWhile_cons, List.takeWhile_cons, ih]

/-- A directive is read in the first line of a text. -/
theorem Directive.ofText_append_end (before after : List Char) :
    ofText (String.ofList (before ++ ch :: after)) = ofText (String.ofList before) := by
  have sign := (not_isGap_of_mem_lineEnds ends).2
  simp only [ofText, String.toList_ofList]
  rw [dropWhile_isGap_append ends]
  cases before.dropWhile isGap with
  | nil =>
    rw [List.nil_append]
    split
    next same => exact absurd (List.cons.inj same).1 sign
    next => rfl
  | cons first rest =>
    rw [List.cons_append]
    by_cases number : first = '#'
    · subst number
      have keyword : (rest.dropWhile isGap).takeWhile isNamePart <+: rest.dropWhile isGap :=
        List.takeWhile_prefix _
      simp only [dropWhile_isGap_append ends, takeWhile_isNamePart_append ends,
        List.drop_append_of_le_length keyword.length_le]
    · split
      next same => exact absurd (List.cons.inj same).1 number
      next =>
        split
        next same => exact absurd (List.cons.inj same).1 number
        next => rfl

end

theorem Directive.defined?_eq_some_iff {d : Directive} {name : String} :
    d.defined? = some name ↔ d = .defines name := by
  cases d <;> simp [defined?]

theorem whole_iff_forall_not_mem {text : String} :
    Whole text ↔ ∀ c ∈ text.toList, c ∉ lineEnds := by
  simp only [Whole, occurrences, List.count_eq_zero]
  exact ⟨fun h c mem ends => h c ends mem, fun h c ends mem => h c mem ends⟩

theorem sourceLines_of_whole {text : String} (h : Whole text) : sourceLines text = [text] := by
  have alone : text.toList.splitOnP (· ∈ lineEnds) = [text.toList] :=
    List.splitOnP_eq_singleton fun c mem => by simpa using whole_iff_forall_not_mem.mp h c mem
  rw [sourceLines, alone, List.map_singleton, String.ofList_toList]

theorem exists_sourceLines (text : String) :
    ∃ first more, sourceLines text = first :: more ∧
      Directive.ofText first = Directive.ofText text := by
  cases found : text.toList.find? (· ∈ lineEnds) with
  | none =>
    have whole : Whole text := by
      simpa [whole_iff_forall_not_mem] using List.find?_eq_none.mp found
    exact ⟨text, [], sourceLines_of_whole whole, rfl⟩
  | some ch =>
    obtain ⟨ends, before, after, parts, plain⟩ := List.find?_eq_some_iff_append.mp found
    have unended : ∀ c ∈ before, decide (c ∈ lineEnds) = false := by simpa using plain
    have split := List.splitOnP_append_cons_of_forall_mem unended ch ends after
    refine ⟨String.ofList before, (after.splitOnP (· ∈ lineEnds)).map String.ofList, ?_, ?_⟩
    · rw [sourceLines, parts, split]
      rfl
    · rw [← Directive.ofText_append_end (by simpa using ends) before after, ← parts,
        String.ofList_toList]

/-- A text defines what its first line defines, and what the lines behind it define. -/
theorem mem_definedNames_iff {text name : String} : name ∈ definedNames text ↔
    Directive.ofText text = .defines name ∨
      ∃ line ∈ (sourceLines text).tail, Directive.ofText line = .defines name := by
  obtain ⟨first, more, lines, same⟩ := exists_sourceLines text
  rw [definedNames, lines, List.mem_filterMap, List.exists_mem_cons_iff, List.tail_cons, same]
  simp only [Directive.defined?_eq_some_iff]

/-- The lines of which each defines a name. -/
def definers (lines : List Line) : List String :=
  lines.filterMap (·.directive.defined?)

theorem definers_append (part more : List Line) :
    definers (part ++ more) = definers part ++ definers more :=
  List.filterMap_append

theorem mem_definers_iff {lines : List Line} {name : String} :
    name ∈ definers lines ↔ ∃ line ∈ lines, line.directive = .defines name := by
  simp only [definers, List.mem_filterMap, Directive.defined?_eq_some_iff]

theorem definers_of_silent {part : List Line} (h : Silent part) : definers part = [] := by
  refine List.filterMap_eq_nil_iff.mpr ?_
  intro line mem
  rw [h line mem]
  rfl

theorem definers_define {name : String} (named : isIdentifier name = true)
    (body : Option String) : definers [.define name body] = [name] := by
  simp [definers, Line.directive_define named, Directive.defined?]

theorem definers_choice {tested name : String} (testable : isIdentifier tested = true)
    (named : isIdentifier name = true) (yes no : Option String) :
    definers (choice tested name yes no) = [name, name] := by
  simp [choice, definers, Line.directive_define named, Line.directive_ifDefined testable,
    Line.directive_otherwise, Line.directive_endIf, Directive.defined?]

namespace Config

variable {c : Config}

/-- One of the lines, which carries texts of the configuration, defines the name behind an end of
a line that is in one of these. -/
def BringsAlong (c : Config) (lines : List Line) (name : String) : Prop :=
  ∃ line ∈ lines, ∃ texts, c.Carries line texts ∧ (∃ text ∈ texts, ¬Whole text) ∧
    ∃ part ∈ (sourceLines line.text).tail, Directive.ofText part = .defines name

/-- The names that files with these lines define are the marks, as far as no text of the
configuration brings along more. -/
structure DefinesMarks (c : Config) (lines : List Line) (names : List String) : Prop where
  marks : ∀ name ∈ c.markNames, name ∈ names
  others : ∀ name ∈ names, name ∈ c.markNames ∨ c.BringsAlong lines name
  unbroken : (∀ text ∈ c.texts, Whole text) → ∀ name, name ∈ names ↔ name ∈ c.markNames

theorem BringsAlong.mono {part lines : List Line} {name : String} (h : c.BringsAlong part name)
    (inside : part ⊆ lines) : c.BringsAlong lines name := by
  obtain ⟨line, mem, carried⟩ := h
  exact ⟨line, inside mem, carried⟩

theorem Covers.bringsAlong {lines : List Line} (covered : c.Covers lines) {line : Line}
    (mem : line ∈ lines) {part name : String} (behind : part ∈ (sourceLines line.text).tail)
    (defines : Directive.ofText part = .defines name) : c.BringsAlong lines name := by
  obtain ⟨texts, fills⟩ := covered line mem
  refine ⟨line, mem, texts, fills.carries, ?_, part, behind, defines⟩
  by_contra none
  have whole : Whole line.text := by
    intro ch ends
    rw [fills.ends ch ends]
    refine List.sum_eq_zero ?_
    intro n hn
    obtain ⟨text, ht, rfl⟩ := List.mem_map.mp hn
    by_contra some
    exact none ⟨text, ht, fun unbroken => some (unbroken ch ends)⟩
  rw [sourceLines_of_whole whole] at behind
  cases behind

theorem mem_definedNames_join {lines : List Line} (filled : lines ≠ []) (covered : c.Covers lines)
    {name : String} (h : name ∈ definedNames (Line.join lines)) :
    name ∈ definers lines ∨ c.BringsAlong lines name := by
  rw [definedNames_join filled] at h
  obtain ⟨line, mem, inside⟩ := List.mem_flatMap.mp h
  rcases mem_definedNames_iff.mp inside with first | ⟨part, behind, defines⟩
  · exact Or.inl (mem_definers_iff.mpr ⟨line, mem, first⟩)
  · exact Or.inr (covered.bringsAlong mem behind defines)

theorem mem_definedNames_of_definers {lines : List Line} {name : String}
    (h : name ∈ definers lines) : name ∈ definedNames (Line.join lines) := by
  obtain ⟨line, mem, first⟩ := mem_definers_iff.mp h
  rw [definedNames_join (List.ne_nil_of_mem mem)]
  exact List.mem_flatMap.mpr ⟨line, mem, mem_definedNames_iff.mpr (Or.inl first)⟩

theorem Accepted.definers_headerLines (accepted : c.Accepted) {lines : List Line}
    (h : c.headerLines = .ok lines) : definers lines =
      [includeGuard c.linkageLabel, externMark c.linkageLabel, externMark c.linkageLabel,
        importMark c.linkageLabel, importMark c.linkageLabel] := by
  have even := unevenness?_eq_none_iff.mpr accepted.even
  obtain ⟨linkage, imported, -, guard⟩ := marks_isIdentifier accepted.isIdentifier_linkageLabel
  have declarations := c.importDeclarations_eq
  have dispatches := c.dispatchDefinitions_eq
  rw [headerLines_eq, even] at h
  rw [even] at declarations dispatches
  have platform : isIdentifier "__cplusplus" = true ∧ isIdentifier "_WIN32" = true := by decide
  have opened : definers [.ifNotDefined (includeGuard c.linkageLabel)] = [] := by
    simp [definers, Line.directive_ifNotDefined guard, Directive.defined?]
  have cpp : definers [.ifDefined "__cplusplus"] = [] := by decide +kernel
  have closed (remark : Option String) : definers [.endIf remark] = [] := by
    simp [definers, Line.directive_endIf, Directive.defined?]
  obtain rfl := Except.ok.inj h
  simp only [guarded_body, headerBody, headerDeclarations, headerTop, definers_append,
    definers_define guard, definers_choice platform.1 linkage, definers_choice platform.2 imported,
    opened, cpp, closed,
    definers_of_silent c.silent_includeBlock, definers_of_silent c.silent_templateDeclarations,
    definers_of_silent (silent_importDeclarations imported declarations),
    definers_of_silent (silent_dispatchDefinitions dispatches), definers_of_silent silent_blank,
    definers_of_silent (silent_comment _)]
  rfl

theorem Accepted.definers_implementationLines (accepted : c.Accepted) {lines : List Line}
    (h : c.implementationLines = .ok lines) :
    definers lines = [exportMark c.linkageLabel, exportMark c.linkageLabel] := by
  obtain ⟨-, -, exported, -⟩ := marks_isIdentifier accepted.isIdentifier_linkageLabel
  have windows : isIdentifier "_WIN32" = true := by decide
  obtain ⟨part, rfl, definitions⟩ := accepted.exists_implementation h
  have silent := silent_definitions exported definitions
  have once : definers [.pragmaOnce] = [] := by decide +kernel
  simp only [implementationPreamble_eq, implementationTop, definers_append, once,
    definers_choice windows exported, definers_of_silent silent, definers_of_silent silent_blank,
    definers_of_silent c.silent_includeBlock, definers_of_silent c.silent_templateDeclarations]
  rfl

theorem Accepted.definesMarks (accepted : c.Accepted) {header implementation : List Line}
    (headed : c.headerLines = .ok header) (implemented : c.implementationLines = .ok implementation) :
    c.DefinesMarks (header ++ implementation)
      (definedNames (Line.join header) ++ definedNames (Line.join implementation)) := by
  have above := accepted.definers_headerLines headed
  have below := accepted.definers_implementationLines implemented
  have marks (name : String) :
      name ∈ definers header ∨ name ∈ definers implementation ↔ name ∈ c.markNames := by
    simp only [above, below, markNames_eq, List.mem_cons, List.not_mem_nil]
    tauto
  have filled : header ≠ [] ∧ implementation ≠ [] := by
    constructor <;> rintro rfl
    · cases above
    · cases below
  have defined : ∀ name ∈ c.markNames,
      name ∈ definedNames (Line.join header) ++ definedNames (Line.join implementation) := by
    intro name mark
    rw [List.mem_append]
    exact ((marks name).mpr mark).imp mem_definedNames_of_definers mem_definedNames_of_definers
  have others : ∀ name,
      name ∈ definedNames (Line.join header) ++ definedNames (Line.join implementation) →
        name ∈ c.markNames ∨ c.BringsAlong (header ++ implementation) name := by
    intro name mem
    rcases List.mem_append.mp mem with inside | inside
    · exact (mem_definedNames_join filled.1 (accepted.covers_headerLines headed) inside).imp
        (fun h => (marks name).mp (Or.inl h)) (·.mono (List.subset_append_left _ _))
    · exact (mem_definedNames_join filled.2 (accepted.covers_implementationLines implemented)
        inside).imp (fun h => (marks name).mp (Or.inr h)) (·.mono (List.subset_append_right _ _))
  refine ⟨defined, others, ?_⟩
  intro whole name
  refine ⟨fun mem => (others name mem).resolve_right ?_, defined name⟩
  rintro ⟨line, -, texts, carries, ⟨text, ht, broken⟩, -⟩
  exact broken (whole text (accepted.mem_texts_of_carries carries text ht))

end Config

/-- The symbols of an accepted configuration are identifiers. A keyword is among them only if a
function has the start of one as its name. A name that the two files define is among them only if
a function is named in the manner of the library, or if a text of the configuration brings the
definition along behind the end of a line. -/
theorem exported_symbols_usable {c : Config} (valid : c.validate = .ok ()) :
    ∃ s header implementation, c.render = .ok s ∧ c.exportedSymbols = .ok s.symbols ∧
      s.header = Line.join header ∧ s.implementation = Line.join implementation ∧
      s.symbols = c.exports.map (·.name c.suffixes) ∧
      c.DefinesMarks (header ++ implementation)
        (definedNames s.header ++ definedNames s.implementation) ∧
      ∀ w ∈ c.exports, w.function ∈ c.functions ∧ isIdentifier (w.name c.suffixes) = true ∧
        (isReservedWord (w.name c.suffixes) = true →
          (w.function.name, w.name c.suffixes) ∈ composedKeywords) ∧
        (w.name c.suffixes ∈ definedNames s.header ++ definedNames s.implementation →
          (w.function.name = c.linkageLabel ∨
            (∃ middle, c.linkageLabel = w.function.name ++ "_" ++ middle) ∨
            ∃ head ∈ ["EXTERN", "EXPORTED", "EXPORTED_INTERFACE"],
              w.function.name = c.linkageLabel ++ "_" ++ head) ∨
          c.BringsAlong (header ++ implementation) (w.name c.suffixes)) := by
  have accepted := Config.validate_eq_ok_iff.mp valid
  obtain ⟨header, implementation, headed, implemented, rendered⟩ := accepted.exists_lines
  have defines := accepted.definesMarks headed implemented
  refine ⟨_, header, implementation, rendered, accepted.exportedSymbols_eq, rfl, rfl, rfl,
    defines, ?_⟩
  intro w hw
  have member := Config.function_mem_of_mem_exports hw
  refine ⟨member, accepted.symbols.identifiers _ (List.mem_map_of_mem hw), ?_, ?_⟩
  · intro keyword
    exact composed_of_keyword (accepted.functions _ member).name keyword
  · intro defined
    exact (defines.others _ defined).imp_left fun mark => Wrapper.name_of_mark mark rfl

/-- A function with the name of the library, and one with the start of a keyword as its name. -/
def clashingLibrary : Config where
  linkageName := some "MATH"
  includes := []
  suffixes := ⟨.empty⟩
  functions :=
    [{ name := "MATH"
       typeParameters := [⟨"T", ["IMPORT"]⟩]
       combination := .all
       returns := ⟨none, "T", false, false⟩
       parameters := [] },
     { name := "wchar"
       typeParameters := [⟨"T", ["t"]⟩]
       combination := .all
       returns := ⟨none, "T", false, false⟩
       parameters := [] }]

theorem clashingLibrary_validate : clashingLibrary.validate = .ok () :=
  rfl

theorem clashingLibrary_usable : clashingLibrary.validate = .ok () ∧
    ∃ s, clashingLibrary.render = .ok s ∧ s.symbols = ["MATH_IMPORT", "wchar_t"] ∧
      (∀ name, name ∈ definedNames s.header ++ definedNames s.implementation ↔
        name ∈ ["MATH_EXTERN_C", "MATH_IMPORT", "MATH_EXPORT", "MATH_EXPORTED_INTERFACE_H"]) ∧
      ∀ symbol ∈ s.symbols, isIdentifier symbol = true := by
  obtain ⟨s, _, _, rendered, -, -, -, symbols, defines, named⟩ :=
    exported_symbols_usable clashingLibrary_validate
  have whole : ∀ text ∈ clashingLibrary.texts, Whole text := by decide
  have marks : clashingLibrary.markNames =
      ["MATH_EXTERN_C", "MATH_IMPORT", "MATH_EXPORT", "MATH_EXPORTED_INTERFACE_H"] := rfl
  refine ⟨clashingLibrary_validate, s, rendered, symbols, marks ▸ defines.unbroken whole, ?_⟩
  intro symbol mem
  rw [symbols] at mem
  obtain ⟨w, hw, rfl⟩ := List.mem_map.mp mem
  exact (named w hw).2.1

/-- An include that defines the name of a wrapper behind the end of its line. -/
def hidingInclude : Config where
  linkageName := some "MATH"
  includes := ["<stdint.h>\n#define add_f32 hidden"]
  suffixes := ⟨.empty⟩
  functions :=
    [{ name := "add"
       typeParameters := [⟨"T", ["float"]⟩]
       combination := .all
       returns := ⟨none, "T", false, false⟩
       parameters := [⟨some "left", "T", false, false⟩] }]

/-- An accepted configuration can export a name that its header defines, and a keyword. -/
theorem mark_and_keyword_exported :
    (clashingLibrary.validate = .ok () ∧ ∃ s, clashingLibrary.render = .ok s ∧
      s.symbols = ["MATH_IMPORT", "wchar_t"] ∧ "MATH_IMPORT" ∈ definedNames s.header ∧
      isReservedWord "wchar_t" = true) ∧
    hidingInclude.validate = .ok () ∧ ∃ s, hidingInclude.render = .ok s ∧
      s.symbols = ["add_f32"] ∧ "add_f32" ∈ definedNames s.header := by
  have valid : hidingInclude.validate = .ok () := rfl
  have clashing := Config.validate_eq_ok_iff.mp clashingLibrary_validate
  obtain ⟨_, _, headed, implemented, rendered⟩ := clashing.exists_lines
  obtain ⟨_, _, headed', _, rendered'⟩ := (Config.validate_eq_ok_iff.mp valid).exists_lines
  refine ⟨⟨clashingLibrary_validate, _, rendered, rfl, ?_, by decide⟩, valid, _, rendered', rfl, ?_⟩
  · refine Config.mem_definedNames_of_definers ?_
    rw [clashing.definers_headerLines headed]
    decide
  · have included : Line.includes "<stdint.h>\n#define add_f32 hidden" ∈
        hidingInclude.includeLines := by decide
    have there := (Config.includeLines_infix_header headed').subset included
    rw [definedNames_join (List.ne_nil_of_mem there)]
    exact List.mem_flatMap.mpr ⟨_, there, by decide +kernel⟩

end TemplateExport
