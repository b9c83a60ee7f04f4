import Mathlib.Algebra.GroupWithZero.Nat
import Mathlib.Algebra.Order.BigOperators.Group.List
import Mathlib.Algebra.Order.Group.Nat
import TemplateExport.Proofs.Emission
import TemplateExport.Proofs.TypeWords

namespace TemplateExport

/-- How many line breaks a text has. -/
def breaks (text : String) : Nat :=
  text.toList.count '\n'

/-- The characters at which a compiler may end a line. -/
def lineEnds : List Char :=
  ['\n', '\r']

/-- How often a character stands in a text. -/
def occurrences (ch : Char) (text : String) : Nat :=
  text.toList.count ch

theorem occurrences_append (ch : Char) (s t : String) :
    occurrences ch (s ++ t) = occurrences ch s + occurrences ch t := by
  rw [occurrences, String.toList_append, List.count_append]
  rfl

theorem occurrences_intercalate {ch : Char} {separator : String}
    (none : occurrences ch separator = 0) (texts : List String) :
    occurrences ch (separator.intercalate texts) = (texts.map (occurrences ch)).sum := by
  induction texts with
  | nil => rfl
  | cons text rest ih =>
    cases rest with
    | nil => simp
    | cons next rest =>
      rw [String.intercalate_cons_cons, occurrences_append, occurrences_append, none, ih]
      simp

/-- A text in which no line ends. -/
def Whole (text : String) : Prop :=
  ∀ ch ∈ lineEnds, occurrences ch text = 0

-- over the list, and not over all characters
instance (text : String) : Decidable (Whole text) :=
  List.decidableBAll (fun ch => occurrences ch text = 0) lineEnds

theorem whole_append_iff {s t : String} : Whole (s ++ t) ↔ Whole s ∧ Whole t := by
  simp only [Whole, occurrences_append, Nat.add_eq_zero_iff]
  exact ⟨fun h => ⟨fun ch ends => (h ch ends).1, fun ch ends => (h ch ends).2⟩,
    fun h ch ends => ⟨h.1 ch ends, h.2 ch ends⟩⟩

theorem Whole.intercalate {separator : String} (whole : Whole separator) {texts : List String}
    (h : ∀ text ∈ texts, Whole text) : Whole (separator.intercalate texts) := by
  intro ch ends
  rw [occurrences_intercalate (whole ch ends)]
  refine List.sum_eq_zero ?_
  intro n mem
  obtain ⟨text, ht, rfl⟩ := List.mem_map.mp mem
  exact h text ht ch ends

theorem not_isNamePart_of_mem_lineEnds {ch : Char} (ends : ch ∈ lineEnds) :
    isNamePart ch = false := by
  simp only [lineEnds, List.mem_cons, List.not_mem_nil, or_false] at ends
  rcases ends with rfl | rfl <;> rfl

theorem whole_of_isIdentifier {name : String} (h : isIdentifier name = true) : Whole name := by
  intro ch ends
  refine List.count_eq_zero.mpr ?_
  intro mem
  have apart := not_isNamePart_of_mem_lineEnds ends
  rw [isNamePart_of_isIdentifier h ch mem] at apart
  cases apart

section

variable {ch : Char} (ends : ch ∈ lineEnds)

include ends

theorem occurrences_includeOperand (included : String) :
    occurrences ch (includeOperand included) = occurrences ch (trimBlank included) := by
  have mark : Whole "\"" := by decide
  have quoted (name : String) : occurrences ch ("\"" ++ name ++ "\"") = occurrences ch name := by
    rw [occurrences_append, occurrences_append, mark ch ends]
    omega
  unfold includeOperand
  dsimp only
  split
  · rfl
  · rfl
  · exact quoted _

theorem Argument.occurrences_spell (a : Argument) (type : String) :
    occurrences ch (a.spell type) = occurrences ch type := by
  have const : Whole (if a.isConst then " const" else "") := by cases a.isConst <;> decide
  have pointer : Whole (if a.isPointer then "*" else "") := by cases a.isPointer <;> decide
  rw [spell, occurrences_append, occurrences_append, const ch ends, pointer ch ends]
  rfl

theorem Argument.occurrences_declaration {a : Argument} (named : Whole a.label)
    (resolve : String → String) :
    occurrences ch (a.declaration resolve) = occurrences ch (resolve a.type) := by
  have space : Whole " " := by decide
  rw [declaration, occurrences_append, occurrences_append, named ch ends, space ch ends,
    occurrences_spell ends]
  rfl

theorem WrapperSignature.occurrences_text {s : WrapperSignature} (named : Whole s.name) :
    occurrences ch s.text = occurrences ch s.result + (s.parameters.map (occurrences ch)).sum := by
  have marks : Whole ", " ∧ Whole "void" ∧ Whole " " ∧ Whole "(" ∧ Whole ")" := by decide
  obtain ⟨comma, void, space, opened, closed⟩ := marks
  have inside : occurrences ch
      (if s.parameters.isEmpty then "void" else ", ".intercalate s.parameters) =
        (s.parameters.map (occurrences ch)).sum := by
    cases parameters : s.parameters with
    | nil => exact void ch ends
    | cons first rest => exact occurrences_intercalate (comma ch ends) (first :: rest)
  simp only [text, occurrences_append, inside, named ch ends, space ch ends, opened ch ends,
    closed ch ends]
  omega

end

namespace FunctionTemplate

variable {f : FunctionTemplate}

/-- No line ends in a name. -/
structure Named (f : FunctionTemplate) : Prop where
  name : Whole f.name
  typeNames : ∀ name ∈ f.typeNames, Whole name
  labels : ∀ a ∈ f.parameters, Whole a.label

theorem Accepted.named (accepted : f.Accepted) : f.Named := by
  refine ⟨whole_of_isIdentifier accepted.name.identifier, ?_, ?_⟩
  · intro name mem
    exact whole_of_isIdentifier (accepted.isName_of_mem_typeNames mem).identifier
  · intro a ha
    exact whole_of_isIdentifier (accepted.isIdentifier_label ha)

namespace Named

variable (named : f.Named)

include named

theorem whole_templateHead : Whole f.templateHead := by
  have marks : Whole "template <" ∧ Whole "typename " ∧ Whole ", " ∧ Whole ">" := by decide
  obtain ⟨opened, word, comma, closed⟩ := marks
  have names : ∀ text ∈ f.typeNames.map ("typename " ++ ·), Whole text := by
    intro text mem
    obtain ⟨name, hn, rfl⟩ := List.mem_map.mp mem
    exact whole_append_iff.mpr ⟨word, named.typeNames name hn⟩
  exact whole_append_iff.mpr ⟨whole_append_iff.mpr ⟨opened, comma.intercalate names⟩, closed⟩

theorem whole_forwardedArguments : Whole f.forwardedArguments := by
  refine Whole.intercalate (by decide) ?_
  intro text mem
  obtain ⟨a, ha, rfl⟩ := List.mem_map.mp mem
  exact named.labels a ha

section

variable {ch : Char} (ends : ch ∈ lineEnds)

include ends

theorem occurrences_parameters (resolve : String → String) :
    (f.parameterList resolve).map (occurrences ch) =
      f.parameters.map fun a => occurrences ch (resolve a.type) := by
  rw [parameterList, List.map_map]
  refine List.map_congr_left ?_
  intro a ha
  exact Argument.occurrences_declaration ends (named.labels a ha) resolve

theorem occurrences_cppSignature : occurrences ch f.cppSignature =
    ((f.returns :: f.parameters).map (occurrences ch ·.type)).sum := by
  have marks : Whole ", " ∧ Whole " " ∧ Whole "(" ∧ Whole ")" := by decide
  obtain ⟨comma, space, opened, closed⟩ := marks
  simp only [cppSignature, occurrences_append, named.whole_templateHead ch ends,
    named.name ch ends, space ch ends, opened ch ends, closed ch ends,
    Argument.occurrences_spell ends, occurrences_intercalate (comma ch ends),
    named.occurrences_parameters ends, List.map_cons, List.sum_cons, id_eq]
  omega

theorem occurrences_wrapperSignature {r : Instantiation} {m : SuffixMapping}
    (symbol : Whole (m.symbol f r)) : occurrences ch (f.wrapperSignature r m).text =
      ((f.returns :: f.parameters).map fun a => occurrences ch (r.resolve a.type)).sum := by
  have name : Whole (f.wrapperSignature r m).name := symbol
  rw [WrapperSignature.occurrences_text ends name]
  simp only [wrapperSignature, Argument.occurrences_spell ends,
    named.occurrences_parameters ends, List.map_cons, List.sum_cons]

end

end Named

end FunctionTemplate

/-- The types in the declaration of a wrapper. -/
def Wrapper.signatureTypes (w : Wrapper) : List String :=
  (w.function.returns :: w.function.parameters).map fun a => w.instantiation.resolve a.type

namespace Config

/-- The texts of a configuration that are put into a line as they are. -/
inductive Carries (c : Config) : Line → List String → Prop
  | included {text : String} (mem : text ∈ c.includes) :
    c.Carries (.includes (includeOperand text)) [trimBlank text]
  | template {f : FunctionTemplate} (mem : f ∈ c.functions) {ending : String}
    (known : ending ∈ [";", " \x7b"]) :
    c.Carries (.code (f.cppSignature ++ ending)) ((f.returns :: f.parameters).map (·.type))
  | declaration {w : Wrapper} (mem : w ∈ c.exports) :
    c.Carries (w.declaration c.suffixes c.linkageLabel) w.signatureTypes
  | condition {w : Wrapper} (mem : w ∈ c.exports) {keyword : String}
    (known : keyword ∈ ["if", "else if"]) :
    c.Carries (.code (Line.indent ++ keyword ++ " constexpr (" ++
      (w.branch c.suffixes).condition ++ ") \x7b")) w.instantiation.types
  | definition {w : Wrapper} (mem : w ∈ c.exports) :
    c.Carries (.code (exportMark c.linkageLabel ++ " " ++ (w.signature c.suffixes).text ++
      " \x7b")) w.signatureTypes
  | call {w : Wrapper} (mem : w ∈ c.exports) :
    c.Carries (.code (Line.indent ++ "return " ++ (w.definition c.suffixes).call ++ ";"))
      w.instantiation.types
  | none {line : Line} (whole : breaks line.text = 0) : c.Carries line []

/-- The includes, the types at choice, and the types of results and parameters. -/
def texts (c : Config) : List String :=
  c.includes.map trimBlank ++ c.functions.flatMap fun f =>
    f.typeParameters.flatMap (·.types) ++ (f.returns :: f.parameters).map (·.type)

variable {c : Config}

/-- Each end of a line within a line is in one of the texts that are put into it. -/
structure Fills (c : Config) (line : Line) (texts : List String) : Prop where
  carries : c.Carries line texts
  ends : ∀ ch ∈ lineEnds, occurrences ch line.text = (texts.map (occurrences ch)).sum

variable {c : Config}

theorem Accepted.whole_linkage (accepted : c.Accepted) : Whole c.linkageLabel :=
  whole_of_isIdentifier accepted.isIdentifier_linkageLabel

theorem Accepted.named (accepted : c.Accepted) {f : FunctionTemplate} (h : f ∈ c.functions) :
    f.Named :=
  (accepted.functions f h).named

theorem Accepted.whole_name (accepted : c.Accepted) {w : Wrapper} (h : w ∈ c.exports) :
    Whole (w.name c.suffixes) :=
  whole_of_isIdentifier (accepted.symbols.identifiers _ (List.mem_map_of_mem h))

theorem bindings_of_mem_exports {w : Wrapper} (h : w ∈ c.exports) :
    w.instantiation.bindings.map (·.1) = w.function.typeNames := by
  obtain ⟨f, -, hw⟩ := List.mem_flatMap.mp h
  obtain ⟨row, mem, rfl⟩ := List.mem_map.mp hw
  exact (FunctionTemplate.bindings_of_mem_rows mem).1

theorem fills_of_whole {line : Line} (whole : Whole line.text) : c.Fills line [] :=
  ⟨.none (whole '\n' (by decide)), whole⟩

theorem fills_include {text : String} (h : text ∈ c.includes) :
    c.Fills (.includes (includeOperand text)) [trimBlank text] := by
  have mark : Whole "#include " := by decide
  refine ⟨.included h, ?_⟩
  intro ch ends
  rw [Line.text, occurrences_append, occurrences_includeOperand ends, mark ch ends]
  simp

theorem Accepted.fills_template (accepted : c.Accepted) {f : FunctionTemplate}
    (h : f ∈ c.functions) {ending : String} (known : ending ∈ [";", " \x7b"]) :
    c.Fills (.code (f.cppSignature ++ ending)) ((f.returns :: f.parameters).map (·.type)) := by
  have ended : ∀ ending ∈ [";", " \x7b"], Whole ending := by decide
  refine ⟨.template h known, ?_⟩
  intro ch ends
  rw [Line.text, occurrences_append, ended _ known ch ends,
    (accepted.named h).occurrences_cppSignature ends, List.map_map]
  rfl

section

variable (accepted : c.Accepted) {w : Wrapper} (h : w ∈ c.exports)

include accepted h

theorem Accepted.occurrences_signature {ch : Char} (ends : ch ∈ lineEnds) :
    occurrences ch (w.signature c.suffixes).text =
      (w.signatureTypes.map (occurrences ch)).sum := by
  have named := accepted.named (function_mem_of_mem_exports h)
  rw [Wrapper.signature, named.occurrences_wrapperSignature ends (accepted.whole_name h),
    Wrapper.signatureTypes, List.map_map]
  rfl

theorem Accepted.fills_declaration :
    c.Fills (w.declaration c.suffixes c.linkageLabel) w.signatureTypes := by
  have marks : Whole "_IMPORT" ∧ Whole " " ∧ Whole ";" := by decide
  obtain ⟨mark, space, ended⟩ := marks
  refine ⟨.declaration h, ?_⟩
  intro ch ends
  simp only [Wrapper.declaration, Line.text, importMark, occurrences_append,
    accepted.whole_linkage ch ends, mark ch ends, space ch ends, ended ch ends,
    accepted.occurrences_signature h ends]
  omega

theorem Accepted.fills_definition :
    c.Fills (.code (exportMark c.linkageLabel ++ " " ++ (w.signature c.suffixes).text ++
      " \x7b")) w.signatureTypes := by
  have marks : Whole "_EXPORT" ∧ Whole " " ∧ Whole " \x7b" := by decide
  obtain ⟨mark, space, ended⟩ := marks
  refine ⟨.definition h, ?_⟩
  intro ch ends
  simp only [Line.text, exportMark, occurrences_append, accepted.whole_linkage ch ends,
    mark ch ends, space ch ends, ended ch ends, accepted.occurrences_signature h ends]
  omega

theorem Accepted.fills_condition {keyword : String} (known : keyword ∈ ["if", "else if"]) :
    c.Fills (.code (Line.indent ++ keyword ++ " constexpr (" ++
      (w.branch c.suffixes).condition ++ ") \x7b")) w.instantiation.types := by
  have named := accepted.named (function_mem_of_mem_exports h)
  have bound := bindings_of_mem_exports h
  have marks : Whole "std::is_same_v<" ∧ Whole ", " ∧ Whole ">" ∧ Whole " && " := by decide
  obtain ⟨asked, comma, closed, both⟩ := marks
  have around : Whole Line.indent ∧ Whole " constexpr (" ∧ Whole ") \x7b" := by decide
  obtain ⟨indent, opened, ended⟩ := around
  have started : ∀ keyword ∈ ["if", "else if"], Whole keyword := by decide
  refine ⟨.condition h known, ?_⟩
  intro ch ends
  have each : ∀ b ∈ w.instantiation.bindings,
      occurrences ch ("std::is_same_v<" ++ b.2 ++ ", " ++ b.1 ++ ">") = occurrences ch b.2 := by
    intro b hb
    have name : Whole b.1 := named.typeNames b.1 (bound ▸ List.mem_map_of_mem hb)
    simp only [occurrences_append, name ch ends, asked ch ends, comma ch ends, closed ch ends]
    omega
  have condition : occurrences ch (w.branch c.suffixes).condition =
      (w.instantiation.types.map (occurrences ch)).sum := by
    rw [Branch.condition, occurrences_intercalate (both ch ends), List.map_map,
      Instantiation.types, List.map_map]
    exact congrArg List.sum (List.map_congr_left each)
  simp only [Line.text, occurrences_append, started _ known ch ends, indent ch ends,
    opened ch ends, ended ch ends, condition]
  omega

theorem Accepted.fills_call :
    c.Fills (.code (Line.indent ++ "return " ++ (w.definition c.suffixes).call ++ ";"))
      w.instantiation.types := by
  have named := accepted.named (function_mem_of_mem_exports h)
  have marks : Whole "<" ∧ Whole ", " ∧ Whole ">(" ∧ Whole ")" := by decide
  obtain ⟨opened, comma, between, closed⟩ := marks
  have around : Whole Line.indent ∧ Whole "return " ∧ Whole ";" := by decide
  obtain ⟨indent, returned, ended⟩ := around
  refine ⟨.call h, ?_⟩
  intro ch ends
  simp only [Line.text, WrapperDefinition.call, Wrapper.definition, occurrences_append,
    named.name ch ends, named.whole_forwardedArguments ch ends,
    occurrences_intercalate (comma ch ends), opened ch ends, between ch ends, closed ch ends,
    indent ch ends, returned ch ends, ended ch ends]
  omega

end

/-- Of every line it is known what fills it. -/
def Covers (c : Config) (lines : List Line) : Prop :=
  ∀ line ∈ lines, ∃ texts, c.Fills line texts

theorem Covers.append {part more : List Line} (h : c.Covers part) (h' : c.Covers more) :
    c.Covers (part ++ more) := by
  intro line mem
  exact (List.mem_append.mp mem).elim (h line) (h' line)

theorem covers_of_whole {part : List Line} (h : ∀ line ∈ part, Whole line.text) :
    c.Covers part :=
  fun line mem => ⟨[], fills_of_whole (h line mem)⟩

theorem whole_importMarkLines {linkage : String} (h : Whole linkage) :
    ∀ line ∈ importMarkLines linkage, Whole line.text := by
  simp [importMarkLines, Line.text, externMark, importMark, whole_append_iff, h]
  decide

theorem whole_exportMarkLines {linkage : String} (h : Whole linkage) :
    ∀ line ∈ exportMarkLines linkage, Whole line.text := by
  simp [exportMarkLines, Line.text, exportMark, whole_append_iff, h]
  decide

theorem covers_includeBlock (c : Config) : c.Covers c.includeBlock := by
  intro line mem
  rcases line_of_mem_includeBlock mem with included | rfl
  · obtain ⟨text, ht, rfl⟩ := List.mem_map.mp included
    exact ⟨_, fills_include ht⟩
  · exact ⟨[], fills_of_whole (by decide)⟩

theorem Accepted.covers_templateDeclarations (accepted : c.Accepted) :
    c.Covers c.templateDeclarations := by
  intro line mem
  obtain ⟨f, hf, rfl⟩ := List.mem_map.mp mem
  exact ⟨_, accepted.fills_template hf (by simp)⟩

theorem Accepted.covers_branch (accepted : c.Accepted) {w : Wrapper} (h : w ∈ c.exports)
    {keyword : String} (known : keyword ∈ ["if", "else if"]) :
    c.Covers ((w.branch c.suffixes).lines keyword) := by
  have named := accepted.named (function_mem_of_mem_exports h)
  have callee : Whole (w.branch c.suffixes).callee := accepted.whole_name h
  have arguments : Whole (w.branch c.suffixes).arguments := named.whole_forwardedArguments
  have call : Whole (Line.code (Line.indent ++ Line.indent ++ "return " ++
      (w.branch c.suffixes).callee ++ "(" ++ (w.branch c.suffixes).arguments ++ ");")).text := by
    simp only [Line.text, whole_append_iff, callee, arguments]
    decide
  intro line mem
  rcases List.mem_cons.mp mem with rfl | mem
  · exact ⟨_, accepted.fills_condition h known⟩
  · exact covers_of_whole (List.forall_mem_cons.mpr ⟨call, by decide⟩) line mem

theorem Accepted.covers_chain (accepted : c.Accepted) {ws : List Wrapper}
    (h : ∀ w ∈ ws, w ∈ c.exports) : c.Covers (Branch.chain (ws.map (·.branch c.suffixes))) := by
  intro line mem
  obtain ⟨keyword, known, b, hb, inside⟩ := Branch.exists_of_mem_chain mem
  obtain ⟨w, hw, rfl⟩ := List.mem_map.mp hb
  exact accepted.covers_branch (h w hw) known line inside

theorem Accepted.covers_rejection (accepted : c.Accepted) {f : FunctionTemplate}
    (h : f ∈ c.functions) : c.Covers f.rejection := by
  have name : Whole ((f.typeNames.head?).getD "") := by
    cases first : f.typeNames.head? with
    | none => decide
    | some name => exact (accepted.named h).typeNames name (List.mem_of_head? first)
  refine covers_of_whole ?_
  simp [FunctionTemplate.rejection, Line.text, whole_append_iff, name]
  decide

theorem Accepted.covers_dispatchText (accepted : c.Accepted) {f : FunctionTemplate}
    (h : f ∈ c.functions) : c.Covers (f.dispatchText (f.exports.map (·.branch c.suffixes))) := by
  have head : c.Covers [.code (f.cppSignature ++ " \x7b")] := by
    intro line mem
    rw [List.mem_singleton.mp mem]
    exact ⟨_, accepted.fills_template h (by simp)⟩
  have last : c.Covers [.code "\x7d"] := covers_of_whole (by decide)
  exact ((head.append (accepted.covers_chain fun _ => mem_exports h)).append
    (accepted.covers_rejection h)).append last

theorem Accepted.covers_definition (accepted : c.Accepted) {w : Wrapper} (h : w ∈ c.exports) :
    c.Covers ((w.definition c.suffixes).lines (exportMark c.linkageLabel)) := by
  intro line mem
  rcases List.mem_cons.mp mem with rfl | mem
  · exact ⟨_, accepted.fills_definition h⟩
  · rcases List.mem_cons.mp mem with rfl | mem
    · exact ⟨_, accepted.fills_call h⟩
    · exact covers_of_whole (by decide) line mem

theorem Accepted.covers_headerLines (accepted : c.Accepted) {lines : List Line}
    (h : c.headerLines = .ok lines) : c.Covers lines := by
  rw [headerLines_eq] at h
  obtain ⟨-, rfl⟩ := unlessProblem_eq_ok_iff.mp h
  have linkage := accepted.whole_linkage
  have blank : c.Covers [.blank] := covers_of_whole (by decide)
  have guard : Whole (includeGuard c.linkageLabel) :=
    whole_append_iff.mpr ⟨linkage, by decide⟩
  have opening : c.Covers [.ifNotDefined (includeGuard c.linkageLabel),
      .define (includeGuard c.linkageLabel) none, .blank] := by
    refine covers_of_whole ?_
    simp [Line.text, whole_append_iff, guard]
    decide
  have closing : c.Covers [.endIf none, .blank, .endIf (some (includeGuard c.linkageLabel))] := by
    refine covers_of_whole ?_
    simp [Line.text, whole_append_iff, guard]
    decide
  have marks : c.Covers (importMarkLines c.linkageLabel) :=
    covers_of_whole (whole_importMarkLines linkage)
  have declarations : c.Covers (c.functions.flatMap fun f =>
      f.exports.map (·.declaration c.suffixes c.linkageLabel) ++ [.blank]) := by
    intro line mem
    obtain ⟨f, hf, mem⟩ := List.mem_flatMap.mp mem
    rcases List.mem_append.mp mem with mem | mem
    · obtain ⟨w, hw, rfl⟩ := List.mem_map.mp mem
      exact ⟨_, accepted.fills_declaration (mem_exports hf hw)⟩
    · exact blank line mem
  have dispatch : c.Covers (c.functions.flatMap fun f =>
      f.dispatchText (f.exports.map (·.branch c.suffixes)) ++ [.blank]) := by
    intro line mem
    obtain ⟨f, hf, mem⟩ := List.mem_flatMap.mp mem
    exact ((accepted.covers_dispatchText hf).append blank) line mem
  have cpp : c.Covers [.ifDefined "__cplusplus"] := covers_of_whole (by decide)
  have ended : c.Covers [.endIf none, .blank] := covers_of_whole (by decide)
  have dispatching : c.Covers [.comment "C++ wrapper impl.", .ifDefined "__cplusplus",
      .includes "<type_traits>", .blank] := covers_of_whole (by decide)
  have preamble : c.Covers c.headerPreamble :=
    (((((opening.append c.covers_includeBlock).append marks).append blank).append cpp).append
      accepted.covers_templateDeclarations).append ended
  exact (preamble.append declarations).append ((dispatching.append dispatch).append closing)

theorem Accepted.covers_implementationLines (accepted : c.Accepted) {lines : List Line}
    (h : c.implementationLines = .ok lines) : c.Covers lines := by
  rw [implementationLines_eq] at h
  obtain ⟨-, rfl⟩ := unlessProblem_eq_ok_iff.mp h
  have blank : c.Covers [.blank] := covers_of_whole (by decide)
  have opening : c.Covers [.pragmaOnce, .blank] := covers_of_whole (by decide)
  have marks : c.Covers (exportMarkLines c.linkageLabel) :=
    covers_of_whole (whole_exportMarkLines accepted.whole_linkage)
  have preamble : c.Covers c.implementationPreamble :=
    ((((opening.append c.covers_includeBlock).append marks).append blank).append
      accepted.covers_templateDeclarations).append blank
  have definitions : c.Covers ((c.exports.map (·.definition c.suffixes)).flatMap
      (·.lines (exportMark c.linkageLabel))) := by
    intro line mem
    obtain ⟨d, hd, inside⟩ := List.mem_flatMap.mp mem
    obtain ⟨w, hw, rfl⟩ := List.mem_map.mp hd
    exact accepted.covers_definition hw line inside
  obtain ⟨blanks, split, -⟩ := dropFinalBlanks_append c.definitionLines
  intro line mem
  have inside : line ∈ c.definitionLines := split ▸ List.mem_append_left _ mem
  exact (preamble.append definitions) line inside

theorem mem_texts_of_typed {f : FunctionTemplate} (h : f ∈ c.functions) {p : TypeParameter}
    (hp : p ∈ f.typeParameters) {type : String} (ht : type ∈ p.types) : type ∈ c.texts :=
  List.mem_append_right _ (List.mem_flatMap.mpr
    ⟨f, h, List.mem_append_left _ (List.mem_flatMap.mpr ⟨p, hp, ht⟩)⟩)

theorem mem_texts_of_argument {f : FunctionTemplate} (h : f ∈ c.functions) {a : Argument}
    (ha : a ∈ f.returns :: f.parameters) : a.type ∈ c.texts :=
  List.mem_append_right _ (List.mem_flatMap.mpr
    ⟨f, h, List.mem_append_right _ (List.mem_map_of_mem ha)⟩)

theorem mem_texts_of_binding {w : Wrapper} (h : w ∈ c.exports) {b : String × String}
    (hb : b ∈ w.instantiation.bindings) : b.2 ∈ c.texts := by
  obtain ⟨f, hf, hw⟩ := List.mem_flatMap.mp h
  obtain ⟨row, mem, rfl⟩ := List.mem_map.mp hw
  obtain ⟨p, hp, ht⟩ := (FunctionTemplate.bindings_of_mem_rows mem).2 b hb
  exact mem_texts_of_typed hf hp ht

theorem Accepted.mem_texts_of_signature (accepted : c.Accepted) {w : Wrapper}
    (h : w ∈ c.exports) {type : String} (ht : type ∈ w.signatureTypes) : type ∈ c.texts := by
  have member := function_mem_of_mem_exports h
  have distinct : (w.instantiation.bindings.map (·.1)).Nodup :=
    bindings_of_mem_exports h ▸ (accepted.functions _ member).typeNames
  obtain ⟨a, ha, rfl⟩ := List.mem_map.mp ht
  -- the type of an argument is replaced only where it is a type parameter
  by_cases bound : a.type ∈ w.instantiation.bindings.map (·.1)
  · obtain ⟨⟨name, concrete⟩, there, same⟩ := List.mem_map.mp bound
    rw [← same, Instantiation.resolve_of_mem distinct there]
    exact mem_texts_of_binding h there
  · rw [Instantiation.resolve_of_not_mem bound]
    exact mem_texts_of_argument member ha

theorem Accepted.mem_texts_of_carries (accepted : c.Accepted) {line : Line}
    {texts : List String} (h : c.Carries line texts) : ∀ text ∈ texts, text ∈ c.texts := by
  intro text mem
  cases h with
  | included there =>
    rw [List.mem_singleton.mp mem]
    exact List.mem_append_left _ (List.mem_map_of_mem there)
  | template there =>
    obtain ⟨a, ha, rfl⟩ := List.mem_map.mp mem
    exact mem_texts_of_argument there ha
  | declaration there => exact accepted.mem_texts_of_signature there mem
  | definition there => exact accepted.mem_texts_of_signature there mem
  | condition there =>
    obtain ⟨b, hb, rfl⟩ := List.mem_map.mp mem
    exact mem_texts_of_binding there hb
  | call there =>
    obtain ⟨b, hb, rfl⟩ := List.mem_map.mp mem
    exact mem_texts_of_binding there hb
  | none => cases mem

end Config

end TemplateExport
