import TemplateExport.Proofs.CarriedTexts
import TemplateExport.Proofs.Rendering

namespace TemplateExport

/-- The pieces between the line breaks of a text. -/
def pieces (text : String) : List (List Char) :=
  text.toList.splitOn '\n'

theorem splitOn_append_break (before after : List Char) :
    (before ++ '\n' :: after).splitOn '\n' = before.splitOn '\n' ++ after.splitOn '\n' :=
  List.splitOnP_append_cons before after rfl

theorem length_pieces (text : String) : (pieces text).length = breaks text + 1 := by
  have counted (cs : List Char) : (cs.splitOn '\n').length = cs.count '\n' + 1 := by
    -- on the number of breaks, so that the text behind the first one is shorter by one
    induction number : cs.count '\n' generalizing cs with
    | zero =>
      rw [List.splitOn_eq_singleton (List.count_eq_zero.mp number)]
      rfl
    | succ n ih =>
      have mem : '\n' ∈ cs := List.count_pos_iff.mp (by omega)
      obtain ⟨before, after, rfl, first⟩ := List.eq_append_cons_of_mem mem
      have fewer : after.count '\n' = n := by
        rw [List.count_append, List.count_eq_zero.mpr first, List.count_cons_self] at number
        omega
      rw [splitOn_append_break, List.splitOn_eq_singleton first, List.length_append,
        ih after fewer, List.length_singleton, Nat.add_comm]
  exact counted text.toList

namespace Line

theorem join_singleton (line : Line) : join [line] = line.text ++ "\n" := by
  simp [join]

theorem join_cons_cons (line next : Line) (rest : List Line) :
    join (line :: next :: rest) = line.text ++ "\n" ++ join (next :: rest) := by
  simp [join, String.append_assoc]

theorem breaks_join {lines : List Line} (filled : lines ≠ []) :
    breaks (join lines) = lines.length + (lines.map (breaks ·.text)).sum := by
  induction lines with
  | nil => exact absurd rfl filled
  | cons line rest ih =>
    have split (s t : String) : breaks (s ++ t) = breaks s + breaks t := occurrences_append '\n' s t
    have ended : breaks (line.text ++ "\n") = breaks line.text + 1 := split _ _
    cases rest with
    | nil => simp [join_singleton, ended, Nat.add_comm]
    | cons next rest =>
      rw [join_cons_cons, split, ended, ih (by simp)]
      simp only [List.length_cons, List.map_cons, List.sum_cons]
      omega

theorem pieces_join {lines : List Line} (filled : lines ≠ []) :
    pieces (join lines) = lines.flatMap (pieces ·.text) ++ [[]] := by
  induction lines with
  | nil => exact absurd rfl filled
  | cons line rest ih =>
    have ended (behind : String) : pieces (line.text ++ "\n" ++ behind) =
        pieces line.text ++ pieces behind := by
      rw [pieces, String.append_assoc, String.toList_append, String.toList_append]
      exact splitOn_append_break _ _
    cases rest with
    | nil =>
      have last := ended ""
      rw [String.append_empty] at last
      simp [join_singleton, last]
      rfl
    | cons next rest =>
      rw [join_cons_cons, ended, ih (by simp), ← List.append_assoc]
      rfl

/-- A file splits into its lines just if no line has a break of its own. -/
theorem pieces_join_eq_iff {lines : List Line} (filled : lines ≠ []) :
    pieces (join lines) = lines.map (·.text.toList) ++ [[]] ↔
      ∀ line ∈ lines, breaks line.text = 0 := by
  constructor
  · intro same
    have lengths := congrArg List.length same
    rw [length_pieces, breaks_join filled] at lengths
    simp only [List.length_append, List.length_map, List.length_singleton] at lengths
    have none : (lines.map (breaks ·.text)).sum = 0 := by omega
    intro line mem
    exact List.sum_eq_zero_iff.mp none _ (List.mem_map_of_mem mem)
  · intro whole
    have alone : ∀ line ∈ lines, pieces line.text = [line.text.toList] :=
      fun line mem => List.splitOn_eq_singleton (List.count_eq_zero.mp (whole line mem))
    rw [pieces_join filled, List.flatMap_congr alone, ← List.map_eq_flatMap]

end Line

namespace Config

variable {c : Config}

/-- Each text of the configuration is put into some line. -/
def Shows (c : Config) (lines : List Line) : Prop :=
  ∀ text ∈ c.texts, ∃ line ∈ lines, ∃ texts, c.Fills line texts ∧ text ∈ texts

/-- The includes and the declarations of the templates show all texts but the types at choice. -/
theorem Accepted.shows_of_preamble (accepted : c.Accepted) {lines : List Line}
    (included : ∀ line ∈ c.includeLines, line ∈ lines)
    (templates : ∀ line ∈ c.templateDeclarations, line ∈ lines)
    (types : ∀ f ∈ c.functions, ∀ p ∈ f.typeParameters, ∀ type ∈ p.types,
      ∃ line ∈ lines, ∃ texts, c.Fills line texts ∧ type ∈ texts) : c.Shows lines := by
  intro text mem
  rcases List.mem_append.mp mem with mem | mem
  · obtain ⟨name, there, rfl⟩ := List.mem_map.mp mem
    exact ⟨_, included _ (List.mem_map_of_mem there), _, fills_include there, by simp⟩
  · obtain ⟨f, hf, mem⟩ := List.mem_flatMap.mp mem
    rcases List.mem_append.mp mem with mem | mem
    · obtain ⟨p, hp, ht⟩ := List.mem_flatMap.mp mem
      exact types f hf p hp text ht
    · exact ⟨_, templates _ (List.mem_map_of_mem hf), _, accepted.fills_template hf (by simp), mem⟩

theorem Accepted.exists_export_of_typed (accepted : c.Accepted) {f : FunctionTemplate}
    (h : f ∈ c.functions) {p : TypeParameter} (hp : p ∈ f.typeParameters) {type : String}
    (ht : type ∈ p.types) : ∃ w ∈ f.exports, type ∈ w.instantiation.types := by
  obtain ⟨row, mem, inside⟩ :=
    (accepted.functions f h).exists_row_of_typed (accepted.even f h) hp ht
  refine ⟨_, List.mem_map_of_mem mem, ?_⟩
  rwa [Instantiation.types_ofRow (FunctionTemplate.length_of_mem_rows mem)]

theorem condition_mem_chain {ws : List Wrapper} {w : Wrapper} (h : w ∈ ws) :
    ∃ keyword ∈ ["if", "else if"], .code (Line.indent ++ keyword ++ " constexpr (" ++
      (w.branch c.suffixes).condition ++ ") \x7b") ∈
        Branch.chain (ws.map (·.branch c.suffixes)) := by
  have first (keyword : String) : Line.code (Line.indent ++ keyword ++ " constexpr (" ++
      (w.branch c.suffixes).condition ++ ") \x7b") ∈ (w.branch c.suffixes).lines keyword :=
    List.mem_cons_self ..
  cases ws with
  | nil => cases h
  | cons v rest =>
    rcases List.mem_cons.mp h with rfl | there
    · exact ⟨"if", List.mem_cons_self .., List.mem_append_left _ (first "if")⟩
    · have later := List.mem_flatMap.mpr ⟨_, List.mem_map_of_mem there, first "else if"⟩
      exact ⟨"else if", by simp, List.mem_append_right _ later⟩

theorem includeLines_infix_header {lines : List Line} (h : c.headerLines = .ok lines) :
    c.includeLines <:+: lines := by
  rw [headerLines_eq] at h
  obtain ⟨-, rfl⟩ := unlessProblem_eq_ok_iff.mp h
  have inside : c.includeBlock <:+: c.headerPreamble :=
    ⟨[.ifNotDefined (includeGuard c.linkageLabel), .define (includeGuard c.linkageLabel) none,
      .blank], importMarkLines c.linkageLabel ++ [.blank, .ifDefined "__cplusplus"] ++
        c.templateDeclarations ++ [.endIf none, .blank], by
      simp only [headerPreamble, List.append_assoc, List.cons_append, List.nil_append]⟩
  rw [List.append_assoc]
  exact (c.includeLines_prefix.isInfix.trans inside).trans (List.prefix_append _ _).isInfix

theorem Accepted.shows_headerLines (accepted : c.Accepted) {lines : List Line}
    (h : c.headerLines = .ok lines) : c.Shows lines := by
  have included := (includeLines_infix_header h).subset
  rw [headerLines_eq] at h
  obtain ⟨-, rfl⟩ := unlessProblem_eq_ok_iff.mp h
  refine accepted.shows_of_preamble (fun line mem => included mem) ?_ ?_
  · intro line mem
    simp [headerPreamble, mem]
  · intro f hf p hp type ht
    obtain ⟨w, hw, inside⟩ := accepted.exists_export_of_typed hf hp ht
    obtain ⟨keyword, known, there⟩ := condition_mem_chain (c := c) hw
    have dispatched : Line.code (Line.indent ++ keyword ++ " constexpr (" ++
        (w.branch c.suffixes).condition ++ ") \x7b") ∈ c.functions.flatMap fun f =>
          f.dispatchText (f.exports.map (·.branch c.suffixes)) ++ [.blank] := by
      have inside : _ ∈ f.dispatchText (f.exports.map (·.branch c.suffixes)) :=
        List.mem_append_left _ (List.mem_append_left _ (List.mem_cons_of_mem _ there))
      exact List.mem_flatMap.mpr ⟨f, hf, List.mem_append_left _ inside⟩
    refine ⟨_, ?_, _, accepted.fills_condition (mem_exports hf hw) known, inside⟩
    simp only [headerDispatch, List.mem_append, dispatched, true_or, or_true]

theorem Accepted.exists_implementation (accepted : c.Accepted) {lines : List Line}
    (h : c.implementationLines = .ok lines) : ∃ part, lines = c.implementationPreamble ++ part ∧
      (c.exports.map (·.definition c.suffixes)).flatMap (·.lines (exportMark c.linkageLabel)) =
        part ++ [.blank] := by
  rw [implementationLines_eq] at h
  obtain ⟨-, rfl⟩ := unlessProblem_eq_ok_iff.mp h
  exact exists_definitions accepted.exports_ne_nil

theorem Accepted.includeLines_infix_implementation (accepted : c.Accepted) {lines : List Line}
    (h : c.implementationLines = .ok lines) : c.includeLines <:+: lines := by
  obtain ⟨part, rfl, -⟩ := accepted.exists_implementation h
  have inside : c.includeBlock <:+: c.implementationPreamble :=
    ⟨[.pragmaOnce, .blank], exportMarkLines c.linkageLabel ++ [.blank] ++
      c.templateDeclarations ++ [.blank], by simp [implementationPreamble, templateDeclarations]⟩
  exact (c.includeLines_prefix.isInfix.trans inside).trans (List.prefix_append _ _).isInfix

theorem Accepted.shows_implementationLines (accepted : c.Accepted) {lines : List Line}
    (h : c.implementationLines = .ok lines) : c.Shows lines := by
  have included := (accepted.includeLines_infix_implementation h).subset
  obtain ⟨part, rfl, definitions⟩ := accepted.exists_implementation h
  refine accepted.shows_of_preamble (fun line mem => included mem) ?_ ?_
  · intro line mem
    have declared : line ∈ c.functions.map fun f => Line.code (f.cppSignature ++ ";") := mem
    simp only [implementationPreamble, List.mem_append]
    simp only [declared, true_or, or_true]
  · intro f hf p hp type ht
    obtain ⟨w, hw, inside⟩ := accepted.exists_export_of_typed hf hp ht
    have there := mem_exports hf hw
    have defined : Line.code (Line.indent ++ "return " ++ (w.definition c.suffixes).call ++ ";") ∈
        part ++ [.blank] := by
      rw [← definitions]
      exact List.mem_flatMap.mpr ⟨_, List.mem_map_of_mem there,
        List.mem_cons_of_mem _ (List.mem_cons_self ..)⟩
    exact ⟨_, List.mem_append_right _ (by simpa using defined), _, accepted.fills_call there, inside⟩

/-- The line breaks in the lines of a file are those of the texts that are put into them. -/
structure BrokenByTexts (c : Config) (lines : List Line) : Prop where
  carried : ∀ line ∈ lines, ∃ texts, c.Carries line texts ∧
    (∀ text ∈ texts, text ∈ c.texts) ∧ breaks line.text = (texts.map breaks).sum
  included : c.includeLines <:+: lines
  /-- The file splits into the pieces of its lines, of which each break makes one more. -/
  split : pieces (Line.join lines) = lines.flatMap (pieces ·.text) ++ [[]] ∧
    ∀ line ∈ lines, (pieces line.text).length = breaks line.text + 1
  whole : pieces (Line.join lines) = lines.map (·.text.toList) ++ [[]] ↔
    ∀ text ∈ c.texts, breaks text = 0

theorem Accepted.brokenByTexts (accepted : c.Accepted) {lines : List Line}
    (covered : c.Covers lines) (shown : c.Shows lines) (included : c.includeLines <:+: lines) :
    c.BrokenByTexts lines := by
  have filled : lines ≠ [] := by
    obtain ⟨f, hf⟩ := List.exists_mem_of_ne_nil _ accepted.exporting
    obtain ⟨line, mem, -⟩ := shown _ (mem_texts_of_argument hf (List.mem_cons_self ..))
    exact List.ne_nil_of_mem mem
  refine ⟨?_, included, ⟨Line.pieces_join filled, fun line _ => length_pieces line.text⟩, ?_⟩
  · intro line mem
    obtain ⟨texts, fills⟩ := covered line mem
    exact ⟨texts, fills.carries, accepted.mem_texts_of_carries fills.carries,
      fills.ends '\n' (by decide)⟩
  · rw [Line.pieces_join_eq_iff filled]
    constructor
    · intro unbroken text mem
      -- a text with a break would break the line that shows it
      obtain ⟨line, hline, texts, fills, inside⟩ := shown text mem
      have none : breaks line.text = (texts.map breaks).sum := fills.ends '\n' (by decide)
      rw [unbroken line hline] at none
      exact List.sum_eq_zero_iff.mp none.symm _ (List.mem_map_of_mem inside)
    · intro unbroken line mem
      obtain ⟨texts, fills⟩ := covered line mem
      have none : breaks line.text = (texts.map breaks).sum := fills.ends '\n' (by decide)
      rw [none]
      refine List.sum_eq_zero ?_
      intro n hn
      obtain ⟨text, ht, rfl⟩ := List.mem_map.mp hn
      exact unbroken text (accepted.mem_texts_of_carries fills.carries text ht)

end Config

/-- The lines of the files of an accepted configuration are broken by its includes and types only,
so the files split into their lines just if none of these has a line break. -/
theorem lines_broken_by_texts {c : Config} (valid : c.validate = .ok ()) :
    ∃ header implementation, c.headerLines = .ok header ∧
      c.implementationLines = .ok implementation ∧ c.BrokenByTexts header ∧
      c.BrokenByTexts implementation := by
  have accepted := Config.validate_eq_ok_iff.mp valid
  obtain ⟨header, implementation, headed, implemented, -⟩ := accepted.exists_lines
  exact ⟨header, implementation, headed, implemented,
    accepted.brokenByTexts (accepted.covers_headerLines headed)
      (accepted.shows_headerLines headed) (Config.includeLines_infix_header headed),
    accepted.brokenByTexts (accepted.covers_implementationLines implemented)
      (accepted.shows_implementationLines implemented)
      (accepted.includeLines_infix_implementation implemented)⟩

/-- An include that closes the guard behind itself. -/
def brokenLibrary : Config where
  linkageName := some "MATH"
  includes := ["<stdint.h>\n#endif"]
  suffixes := ⟨.empty⟩
  functions :=
    [{ name := "add"
       typeParameters := [⟨"T", ["float"]⟩]
       combination := .all
       returns := ⟨none, "T", false, false⟩
       parameters := [⟨some "left", "T", false, false⟩] }]

theorem brokenLibrary_validate : brokenLibrary.validate = .ok () :=
  rfl

theorem brokenLibrary_broken : brokenLibrary.validate = .ok () ∧ ∃ header implementation,
    brokenLibrary.headerLines = .ok header ∧
    brokenLibrary.implementationLines = .ok implementation ∧
    pieces (Line.join header) ≠ header.map (·.text.toList) ++ [[]] ∧
    pieces (Line.join implementation) ≠ implementation.map (·.text.toList) ++ [[]] := by
  obtain ⟨header, implementation, headed, implemented, h, h'⟩ :=
    lines_broken_by_texts brokenLibrary_validate
  have broken : ¬∀ text ∈ brokenLibrary.texts, breaks text = 0 := by decide
  exact ⟨brokenLibrary_validate, header, implementation, headed, implemented,
    h.whole.not.mpr broken, h'.whole.not.mpr broken⟩

/-- The line of an include adds a directive of its own. -/
theorem include_adds_directive : brokenLibrary.validate = .ok () ∧
    ∃ header line, brokenLibrary.headerLines = .ok header ∧ line ∈ header ∧
      '\n' ∈ line.text.toList ∧
      pieces line.text = ["#include <stdint.h>".toList, "#endif".toList] :=
  ⟨brokenLibrary_validate, _, .includes "<stdint.h>\n#endif", rfl, by decide, by decide, by decide⟩

end TemplateExport
