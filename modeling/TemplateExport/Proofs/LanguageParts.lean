import Mathlib.Data.List.Nodup
import TemplateExport.Proofs.Conditionals
import TemplateExport.Proofs.Marks
import TemplateExport.Proofs.Rendering

namespace TemplateExport

open Preprocessor

theorem Line.directive_marked {mark : String} (named : isIdentifier mark = true)
    (signature ending : String) :
    (code (mark ++ " " ++ signature ++ ending)).directive = .other := by
  unfold isIdentifier at named
  cases chars : mark.toList with
  | nil =>
    rw [chars] at named
    cases named
  | cons first more =>
    simp only [chars, Bool.and_eq_true] at named
    have part := isNamePart_of_isNameStart named.1
    have parts : (code (mark ++ " " ++ signature ++ ending)).text.toList =
        [] ++ first :: (more ++ ' ' :: signature.toList ++ ending.toList) := by
      simp [text, String.toList_append, chars]
    refine directive_of_visible parts (by simp) (not_isGap_of_isNamePart part) ?_
    rintro rfl
    cases part

theorem FunctionTemplate.directive_cppSignature (f : FunctionTemplate) (ending : String) :
    (Line.code (f.cppSignature ++ ending)).directive = .other := by
  simp [Line.directive, Line.text, Directive.ofText, isGap, cppSignature, templateHead,
    String.toList_append]

theorem silent_nil : Silent [] :=
  fun _ mem => nomatch mem

theorem silent_blank : Silent [.blank] := by
  simpa [Silent] using Line.directive_blank

theorem silent_comment (remark : String) : Silent [.comment remark] := by
  simpa [Silent] using Line.directive_comment remark

theorem silent_includes (operand : String) : Silent [.includes operand] := by
  simpa [Silent] using Line.directive_includes operand

theorem silent_unless {part : List Line} (h : Silent part) (condition : Bool) :
    Silent (if condition then part else []) := by
  cases condition
  · exact silent_nil
  · exact h

theorem silent_branch {keyword : String} (known : keyword ∈ ["if", "else if"]) (b : Branch) :
    Silent (b.lines keyword) := by
  rcases List.mem_cons.mp known with rfl | known
  · simp [Silent, Branch.lines, Line.directive, Line.text, Directive.ofText, isGap,
      String.toList_append, Line.indent]
  · rw [List.mem_singleton.mp known]
    simp [Silent, Branch.lines, Line.directive, Line.text, Directive.ofText, isGap,
      String.toList_append, Line.indent]

theorem silent_chain (branches : List Branch) : Silent (Branch.chain branches) := by
  intro line mem
  obtain ⟨keyword, known, b, -, inside⟩ := Branch.exists_of_mem_chain mem
  exact silent_branch known b line inside

theorem silent_rejection (f : FunctionTemplate) : Silent f.rejection := by
  simp [Silent, FunctionTemplate.rejection, Line.directive, Line.text, Directive.ofText, isGap,
    String.toList_append, Line.indent]

theorem silent_dispatchText (f : FunctionTemplate) (branches : List Branch) :
    Silent (f.dispatchText branches) := by
  have head : Silent [.code (f.cppSignature ++ " \x7b")] := by
    simpa [Silent] using f.directive_cppSignature " \x7b"
  have last : Silent [.code "\x7d"] := by
    simp [Silent, Line.directive, Line.text, Directive.ofText, isGap]
  exact ((head.append (silent_chain branches)).append (silent_rejection f)).append last

theorem silent_definition {mark : String} (named : isIdentifier mark = true)
    (d : WrapperDefinition) : Silent (d.lines mark) := by
  have head := Line.directive_marked named d.signature.text " \x7b"
  have call : (Line.code (Line.indent ++ "return " ++ d.call ++ ";")).directive = .other := by
    simp [Line.directive, Line.text, Directive.ofText, isGap, String.toList_append, Line.indent]
  have last : (Line.code "\x7d").directive = .other := by
    simp [Line.directive, Line.text, Directive.ofText, isGap]
  simpa [Silent, WrapperDefinition.lines, Line.directive_blank] using ⟨head, call, last⟩

theorem silent_definitions {mark : String} (named : isIdentifier mark = true)
    {definitions : List WrapperDefinition} {part more : List Line}
    (parts : definitions.flatMap (·.lines mark) = part ++ more) : Silent part := by
  intro line mem
  have inside : line ∈ definitions.flatMap (·.lines mark) := parts ▸ List.mem_append_left _ mem
  obtain ⟨d, -, here⟩ := List.mem_flatMap.mp inside
  exact silent_definition named d line here

namespace Config

variable (c : Config)

theorem silent_includeLines : Silent c.includeLines := by
  intro line mem
  obtain ⟨included, -, rfl⟩ := List.mem_map.mp mem
  exact Line.directive_includes _

theorem silent_includeBlock : Silent c.includeBlock := by
  intro line mem
  rcases line_of_mem_includeBlock mem with included | rfl
  · exact c.silent_includeLines line included
  · exact Line.directive_blank

theorem silent_templateDeclarations : Silent c.templateDeclarations := by
  intro line mem
  obtain ⟨f, -, rfl⟩ := List.mem_map.mp mem
  exact f.directive_cppSignature ";"

variable {c}

theorem silent_importDeclarations {imports : List Line}
    (named : isIdentifier (importMark c.linkageLabel) = true)
    (h : c.importDeclarations = .ok imports) : Silent imports := by
  rw [importDeclarations_eq] at h
  obtain ⟨-, rfl⟩ := unlessProblem_eq_ok_iff.mp h
  intro line mem
  obtain ⟨f, -, mem⟩ := List.mem_flatMap.mp mem
  rcases List.mem_append.mp mem with mem | mem
  · obtain ⟨w, -, rfl⟩ := List.mem_map.mp mem
    exact Line.directive_marked named _ ";"
  · exact silent_blank line mem

theorem silent_dispatchDefinitions {dispatch : List Line}
    (h : c.dispatchDefinitions = .ok dispatch) : Silent dispatch := by
  rw [dispatchDefinitions_eq] at h
  obtain ⟨-, rfl⟩ := unlessProblem_eq_ok_iff.mp h
  intro line mem
  obtain ⟨f, -, mem⟩ := List.mem_flatMap.mp mem
  exact ((silent_dispatchText f _).append silent_blank) line mem

end Config

theorem isIdentifier_mark {linkage word : String} (named : isIdentifier linkage = true)
    (known : word ∈ markWords) : isIdentifier (linkage ++ "_" ++ word) = true := by
  have parts : ∀ word ∈ markWords, word.toList.all isNamePart = true := by
    decide
  exact isIdentifier_append (isIdentifier_append named (by decide)) (parts word known)

/-- What the platform defines ends in another way than every mark. -/
theorem platform_not_mark {c : Config} {name : String}
    (platform : name ∈ ["__cplusplus", "_WIN32"]) : name ∉ c.markNames := by
  have ends : ∀ word ∈ markWords, ∀ name ∈ ["__cplusplus", "_WIN32"],
      word.toList ≠ [] ∧ word.toList.getLast? ≠ name.toList.getLast? := by
    decide
  intro mark
  obtain ⟨word, known, same⟩ := List.mem_map.mp mark
  obtain ⟨filled, apart⟩ := ends word known name platform
  have last := congrArg (·.toList.getLast?) same
  rw [String.toList_append, List.getLast?_append_of_ne_nil _ filled] at last
  exact apart last

namespace Config

section

variable (c : Config) (setting : String → Bool) (imports dispatch : List Line)

/-- The condition around all of the header. -/
def guardCondition : Condition :=
  ⟨includeGuard c.linkageLabel, false, setting (includeGuard c.linkageLabel) == false⟩

/-- The condition around what only C++ can read. -/
def cppCondition : Condition :=
  ⟨"__cplusplus", true, setting "__cplusplus" == true⟩

/-- What stands above the declarations of the templates, within the guard. -/
def headerTop : List Line :=
  [.define (includeGuard c.linkageLabel) none] ++ [.blank] ++ c.includeBlock ++
    choice "__cplusplus" (externMark c.linkageLabel) (some "extern \"C\"") none ++ [.blank] ++
    choice "_WIN32" (importMark c.linkageLabel)
      (some (externMark c.linkageLabel ++ " __declspec(dllimport)"))
      (some (externMark c.linkageLabel))

/-- What stands above the declarations of the wrappers, within the guard. -/
def headerDeclarations : List Line :=
  c.headerTop ++ [.blank] ++ ([.ifDefined "__cplusplus"] ++ c.templateDeclarations ++
    [.endIf none]) ++ [.blank]

/-- What stands within the guard. -/
def headerBody : List Line :=
  c.headerDeclarations ++ (imports ++ [.comment "C++ wrapper impl."]) ++
    ([.ifDefined "__cplusplus"] ++ ([.includes "<type_traits>", .blank] ++ dispatch) ++
      [.endIf none]) ++ [.blank]

theorem headerPreamble_eq : c.headerPreamble =
    [.ifNotDefined (includeGuard c.linkageLabel)] ++ c.headerDeclarations := by
  simp [headerPreamble, headerDeclarations, headerTop, importMarkLines, choice]

theorem guarded_body : c.headerPreamble ++ imports ++ c.headerDispatch dispatch =
    [.ifNotDefined (includeGuard c.linkageLabel)] ++ c.headerBody imports dispatch ++
      [.endIf (some (includeGuard c.linkageLabel))] := by
  simp [headerPreamble_eq, headerDispatch, headerBody]

/-- The definition of the mark of C linkage. -/
def externDefinition : Line :=
  .define (externMark c.linkageLabel) (if setting "__cplusplus" then some "extern \"C\"" else none)

/-- The definition of the mark of what is taken from the library. -/
def importDefinition : Line :=
  .define (importMark c.linkageLabel)
    (if setting "_WIN32" then some (externMark c.linkageLabel ++ " __declspec(dllimport)")
      else some (externMark c.linkageLabel))

/-- What is let through down to the definitions of the marks. -/
def keptTop : List Line :=
  [.define (includeGuard c.linkageLabel) none] ++ [.blank] ++ c.includeBlock ++
    [c.externDefinition setting] ++ [.blank] ++ [c.importDefinition setting]

/-- What is let through below that. -/
def keptBelow : List Line :=
  [.blank] ++ (if setting "__cplusplus" then c.templateDeclarations else []) ++ [.blank] ++
    (imports ++ [.comment "C++ wrapper impl."]) ++
    (if setting "__cplusplus" then [.includes "<type_traits>", .blank] ++ dispatch else []) ++
    [.blank]

end

/-- The conditions of a header: how they stand around its parts, and what they let through where
the header is read for the first time. -/
structure HeaderParts (c : Config) (setting : String → Bool) (imports dispatch lines : List Line) :
    Prop where
  /-- Every branch that ends is open, and the guard is open between the first and the last line. -/
  enclosed : ∀ above below, lines = above ++ below → ∃ s, (start setting).run above = some s ∧
    (s.conditions = [] ↔ above = [] ∨ below = [])
  included : Stands (start setting) lines
    ([.ifNotDefined (includeGuard c.linkageLabel)] ++
      ([.define (includeGuard c.linkageLabel) none] ++ [.blank]))
    c.includeLines [c.guardCondition setting]
  templated : Stands (start setting) lines
    ([.ifNotDefined (includeGuard c.linkageLabel)] ++ (c.headerTop ++ [.blank]) ++
      [.ifDefined "__cplusplus"])
    c.templateDeclarations [cppCondition setting, c.guardCondition setting]
  imported : Stands (start setting) lines c.headerPreamble imports [c.guardCondition setting]
  dispatched : Stands (start setting) lines
    (c.headerPreamble ++ (imports ++ [.comment "C++ wrapper impl."]) ++ [.ifDefined "__cplusplus"])
    ([.includes "<type_traits>", .blank] ++ dispatch)
    [cppCondition setting, c.guardCondition setting]
  /-- Above all declarations each mark is defined once, and not again. -/
  marked : setting (includeGuard c.linkageLabel) = false → ∃ s t,
    (start setting).run ([.ifNotDefined (includeGuard c.linkageLabel)] ++ c.headerTop) = some s ∧
    (start setting).run lines = some t ∧ ∀ u ∈ [s, t],
      u.definitionsOf (externMark c.linkageLabel) = [c.externDefinition setting] ∧
      u.definitionsOf (importMark c.linkageLabel) = [c.importDefinition setting]
  compiled : setting (includeGuard c.linkageLabel) = false → ∃ s,
    (start setting).run lines = some s ∧ s.compiled = c.includeLines ++
      (if setting "__cplusplus" then c.templateDeclarations else []) ++
      imports.filter (·.text ≠ "") ++ [.comment "C++ wrapper impl."] ++
      (if setting "__cplusplus" then .includes "<type_traits>" :: dispatch.filter (·.text ≠ "")
        else [])

variable {c : Config} (setting : String → Bool) {imports dispatch : List Line}
  (named : isIdentifier c.linkageLabel = true)

include named

theorem mem_markNames_isIdentifier {name : String} (h : name ∈ c.markNames) :
    isIdentifier name = true := by
  obtain ⟨word, known, rfl⟩ := List.mem_map.mp h
  exact isIdentifier_mark named known

theorem marks_isIdentifier : isIdentifier (externMark c.linkageLabel) = true ∧
    isIdentifier (importMark c.linkageLabel) = true ∧
    isIdentifier (exportMark c.linkageLabel) = true ∧
    isIdentifier (includeGuard c.linkageLabel) = true := by
  have each {name : String} (h : name ∈ c.markNames) : isIdentifier name = true :=
    mem_markNames_isIdentifier named h
  rw [c.markNames_eq] at each
  exact ⟨each (by simp), each (by simp), each (by simp), each (by simp)⟩

theorem headerTop_letsThrough :
    LetsThrough c.markNames ((start setting).under (c.guardCondition setting)) c.headerTop
      (c.keptTop setting) := by
  have marks := c.markNames_eq
  have identifiers {name : String} : name ∈ c.markNames → isIdentifier name = true :=
    mem_markNames_isIdentifier named
  have guard : includeGuard c.linkageLabel ∈ c.markNames := by simp [marks]
  have linkage : externMark c.linkageLabel ∈ c.markNames := by simp [marks]
  have imported : importMark c.linkageLabel ∈ c.markNames := by simp [marks]
  have cpp : "__cplusplus" ∉ c.markNames := platform_not_mark (by simp)
  have windows : "_WIN32" ∉ c.markNames := platform_not_mark (by simp)
  have opening := flat_define (identifiers guard) guard none
  have opened := (LetsThrough.nil c.markNames
    ((start setting).under (c.guardCondition setting))).flat_append
      ((opening.append silent_blank.flat).append c.silent_includeBlock.flat)
  have linked := (opened.choice_append (by decide) cpp (identifiers linkage) linkage
    (some "extern \"C\"") none).flat_append silent_blank.flat
  exact linked.choice_append (by decide) windows (identifiers imported) imported
    (some (externMark c.linkageLabel ++ " __declspec(dllimport)"))
    (some (externMark c.linkageLabel))

theorem headerDeclarations_letsThrough :
    LetsThrough c.markNames ((start setting).under (c.guardCondition setting))
      c.headerDeclarations (c.keptTop setting ++ [.blank] ++
        (if setting "__cplusplus" then c.templateDeclarations else []) ++ [.blank]) := by
  have top := headerTop_letsThrough setting named
  have cpp : (Line.ifDefined "__cplusplus").directive = .opens "__cplusplus" true :=
    Line.directive_ifDefined (by decide)
  have closing := Line.directive_endIf none
  have templates := ((top.flat_append silent_blank.flat).conditional_append
    (platform_not_mark (by simp)) cpp closing c.silent_templateDeclarations.flat).flat_append
      silent_blank.flat
  simpa [under, start, headerDeclarations] using templates

theorem headerBody_letsThrough (himports : Silent imports) (hdispatch : Silent dispatch) :
    LetsThrough c.markNames ((start setting).under (c.guardCondition setting))
      (c.headerBody imports dispatch)
      (c.keptTop setting ++ c.keptBelow setting imports dispatch) := by
  have declared := headerDeclarations_letsThrough setting named
  have cpp : (Line.ifDefined "__cplusplus").directive = .opens "__cplusplus" true :=
    Line.directive_ifDefined (by decide)
  have closing := Line.directive_endIf none
  have dispatched := ((declared.flat_append
    (himports.append (silent_comment "C++ wrapper impl.")).flat).conditional_append
      (platform_not_mark (by simp)) cpp closing (((silent_includes "<type_traits>").append
        silent_blank).append hdispatch).flat).flat_append silent_blank.flat
  simpa [under, start, headerBody, keptBelow] using dispatched

end Config

theorem Config.markNames_nodup (c : Config) : c.markNames.Nodup := by
  have distinct : markWords.Nodup := by decide
  refine distinct.map ?_
  intro word other same
  exact String.toList_inj.mp (by simpa [String.toList_append] using congrArg String.toList same)

theorem definitions_of_silent {part : List Line} (h : Silent part) (name : String) :
    part.filter (·.directive = .defines name) = [] := by
  refine List.filter_eq_nil_iff.mpr ?_
  intro line mem
  simp [h line mem]

theorem definitions_of_define {name : String} (named : isIdentifier name = true)
    (body : Option String) (other : String) :
    [Line.define name body].filter (·.directive = .defines other) =
      if name = other then [.define name body] else [] := by
  by_cases same : name = other
  · simp [← same, Line.directive_define named]
  · simp [Line.directive_define named, same]

theorem compiled_of_silent {part : List Line} (h : Silent part) :
    part.filter (fun line => line.directive = .other ∧ line.text ≠ "") =
      part.filter (·.text ≠ "") := by
  refine List.filter_congr ?_
  intro line mem
  simp [h line mem]

theorem compiled_of_define {name : String} (named : isIdentifier name = true)
    (body : Option String) :
    [Line.define name body].filter (fun line => line.directive = .other ∧ line.text ≠ "") = [] := by
  simp [Line.directive_define named]

namespace Config

theorem filter_includeBlock (c : Config) :
    c.includeBlock.filter (·.text ≠ "") = c.includeLines := by
  have visible : c.includeLines.filter (·.text ≠ "") = c.includeLines := by
    refine List.filter_eq_self.mpr ?_
    intro line mem
    obtain ⟨included, -, rfl⟩ := List.mem_map.mp mem
    simp [Line.text]
  unfold includeBlock
  split
  next none => simp [includeLines, List.isEmpty_iff.mp none]
  next =>
    rw [List.filter_append, visible]
    simp [Line.text]

theorem filter_templateDeclarations (c : Config) :
    c.templateDeclarations.filter (·.text ≠ "") = c.templateDeclarations := by
  refine List.filter_eq_self.mpr ?_
  intro line mem
  obtain ⟨f, -, rfl⟩ := List.mem_map.mp mem
  simp [Line.text]

variable {c : Config} (setting : String → Bool) {imports dispatch : List Line}
  (named : isIdentifier c.linkageLabel = true)

include named

/-- Of what is let through, one line defines the mark of C linkage, and one the mark of what is
taken from the library. -/
theorem definitions_of_keptTop :
    (c.keptTop setting).filter (·.directive = .defines (externMark c.linkageLabel)) =
        [c.externDefinition setting] ∧
      (c.keptTop setting).filter (·.directive = .defines (importMark c.linkageLabel)) =
        [c.importDefinition setting] := by
  obtain ⟨linkage, imported, -, guard⟩ := marks_isIdentifier named
  have distinct := c.markNames_nodup
  simp only [c.markNames_eq, List.nodup_cons, List.mem_cons, not_or] at distinct
  obtain ⟨⟨apart, -, guarded, -⟩, ⟨-, guarded', -⟩, -⟩ := distinct
  constructor <;>
    simp only [keptTop, externDefinition, importDefinition, List.filter_append,
      definitions_of_define guard, definitions_of_define linkage, definitions_of_define imported,
      definitions_of_silent silent_blank, definitions_of_silent c.silent_includeBlock]
  · simp [Ne.symm guarded, Ne.symm apart]
  · simp [Ne.symm guarded', apart]

omit named

/-- Below the definitions of the marks nothing is defined. -/
theorem silent_keptBelow (himports : Silent imports) (hdispatch : Silent dispatch) :
    Silent (c.keptBelow setting imports dispatch) := by
  have templates := silent_unless c.silent_templateDeclarations (setting "__cplusplus")
  have dispatched : Silent (if setting "__cplusplus" then
      [.includes "<type_traits>", .blank] ++ dispatch else []) :=
    silent_unless (((silent_includes _).append silent_blank).append hdispatch) _
  exact (((((silent_blank.append templates).append silent_blank).append
    (himports.append (silent_comment _))).append dispatched).append silent_blank)

theorem filter_keptBelow : (c.keptBelow setting imports dispatch).filter (·.text ≠ "") =
    (if setting "__cplusplus" then c.templateDeclarations else []) ++
      imports.filter (·.text ≠ "") ++ [.comment "C++ wrapper impl."] ++
      (if setting "__cplusplus" then .includes "<type_traits>" :: dispatch.filter (·.text ≠ "")
        else []) := by
  cases h : setting "__cplusplus" <;>
    simp only [keptBelow, h, List.filter_append, filter_templateDeclarations, if_true,
      Bool.false_eq_true, if_false] <;>
    simp [Line.text]

include named

theorem compiled_of_keptTop :
    (c.keptTop setting).filter (fun line => line.directive = .other ∧ line.text ≠ "") =
      c.includeLines := by
  obtain ⟨linkage, imported, -, guard⟩ := marks_isIdentifier named
  simp only [keptTop, externDefinition, importDefinition, List.filter_append,
    compiled_of_define guard, compiled_of_define linkage, compiled_of_define imported,
    compiled_of_silent silent_blank, compiled_of_silent c.silent_includeBlock,
    filter_includeBlock]
  simp [Line.text]

theorem definitions_of_kept {s : Preprocessor} {below : List Line} (silent : Silent below)
    (kept : s.kept = c.keptTop setting ++ below) :
    s.definitionsOf (externMark c.linkageLabel) = [c.externDefinition setting] ∧
      s.definitionsOf (importMark c.linkageLabel) = [c.importDefinition setting] := by
  simp only [definitionsOf, kept, List.filter_append, definitions_of_silent silent,
    List.append_nil]
  exact definitions_of_keptTop setting named

theorem compiled_of_kept {s : Preprocessor} (himports : Silent imports)
    (hdispatch : Silent dispatch)
    (kept : s.kept = c.keptTop setting ++ c.keptBelow setting imports dispatch) :
    s.compiled = c.includeLines ++ (if setting "__cplusplus" then c.templateDeclarations else []) ++
      imports.filter (·.text ≠ "") ++ [.comment "C++ wrapper impl."] ++
      (if setting "__cplusplus" then .includes "<type_traits>" :: dispatch.filter (·.text ≠ "")
        else []) := by
  rw [compiled, kept, List.filter_append, compiled_of_keptTop setting named,
    compiled_of_silent (silent_keptBelow setting himports hdispatch), filter_keptBelow]
  simp only [List.append_assoc]

omit named in
/-- The parts of the header in their order. -/
theorem header_parts (imports dispatch : List Line) :
    let lines := c.headerPreamble ++ imports ++ c.headerDispatch dispatch
    let first := [Line.ifNotDefined (includeGuard c.linkageLabel)]
    first ++ ([.define (includeGuard c.linkageLabel) none] ++ [.blank]) ++ c.includeLines <+:
        lines ∧
      first ++ (c.headerTop ++ [.blank]) ++ [.ifDefined "__cplusplus"] ++ c.templateDeclarations <+:
        lines ∧
      first ++ c.headerDeclarations ++ imports <+: lines ∧
      first ++ (c.headerDeclarations ++ (imports ++ [.comment "C++ wrapper impl."])) ++
        [.ifDefined "__cplusplus"] ++ ([.includes "<type_traits>", .blank] ++ dispatch) <+:
          lines := by
  obtain ⟨rest, block⟩ := c.includeLines_prefix
  refine ⟨?_, ?_, ?_, ?_⟩ <;>
    simp [headerPreamble_eq, headerDispatch, headerDeclarations, headerTop, ← block]

theorem headerParts (himports : Silent imports) (hdispatch : Silent dispatch) :
    c.HeaderParts setting imports dispatch
      (c.headerPreamble ++ imports ++ c.headerDispatch dispatch) := by
  have guarding : includeGuard c.linkageLabel ∈ c.markNames := by simp [c.markNames_eq]
  have guard := Line.directive_ifNotDefined (mem_markNames_isIdentifier named guarding)
  have ending := Line.directive_endIf (some (includeGuard c.linkageLabel))
  have cpp : (Line.ifDefined "__cplusplus").directive = .opens "__cplusplus" true :=
    Line.directive_ifDefined (by decide)
  have platform : "__cplusplus" ∉ c.markNames := platform_not_mark (by simp)
  -- Every part is read from the state behind the first line.
  have entered : (start setting).run [.ifNotDefined (includeGuard c.linkageLabel)] =
      some ((start setting).under (c.guardCondition setting)) :=
    run_cons_of_step (step_opens guard)
  have opened := (LetsThrough.nil c.markNames
    ((start setting).under (c.guardCondition setting))).flat_append
      ((flat_define (mem_markNames_isIdentifier named guarding) guarding none).append
        silent_blank.flat)
  have top := headerTop_letsThrough setting named
  have declarations := headerDeclarations_letsThrough setting named
  have commented := declarations.flat_append (himports.append
    (silent_comment "C++ wrapper impl.")).flat
  have dispatched : Silent ([.includes "<type_traits>", .blank] ++ dispatch) :=
    ((silent_includes _).append silent_blank).append hdispatch
  obtain ⟨whole, enclosed⟩ := Preprocessor.enclosed guard ending
    (headerBody_letsThrough setting named himports hdispatch)
  rw [← guarded_body] at whole enclosed
  obtain ⟨first, second, third, fourth⟩ := c.header_parts imports dispatch
  refine ⟨enclosed, opened.stands entered first c.silent_includeLines.flat,
    (top.flat_append silent_blank.flat).stands_conditional entered platform cpp second
      c.silent_templateDeclarations.flat, ?_, ?_, ?_, ?_⟩
  · have stands := declarations.stands entered third himports.flat
    rwa [← headerPreamble_eq] at stands
  · have stands := commented.stands_conditional entered platform cpp fourth dispatched.flat
    rwa [← List.append_assoc [_] c.headerDeclarations, ← headerPreamble_eq] at stands
  · intro new
    have takes : ((start setting).under (c.guardCondition setting)).takes = true := by
      simp [under, start, Preprocessor.takes, guardCondition, new]
    refine ⟨_, _, (run_append entered).trans top.passes.run, whole, ?_⟩
    intro u hu
    rcases List.mem_cons.mp hu with rfl | hu
    · exact definitions_of_kept setting named silent_nil
        ((accept_kept takes _).trans (List.append_nil _).symm)
    · rw [List.mem_singleton.mp hu, new]
      -- Below the marks no line defines anything, so the definitions are those from above.
      exact definitions_of_kept setting named (silent_keptBelow setting himports hdispatch)
        (accept_kept rfl _)
  · intro new
    rw [new] at whole
    exact ⟨_, whole, compiled_of_kept setting named himports hdispatch (accept_kept rfl _)⟩

end Config

namespace Config

section

variable (c : Config) (setting : String → Bool)

/-- What stands above the declarations of the templates. -/
def implementationTop : List Line :=
  [.pragmaOnce] ++ [.blank] ++ c.includeBlock ++
    choice "_WIN32" (exportMark c.linkageLabel) (some "extern \"C\" __declspec(dllexport)")
      (some "extern \"C\" __attribute__((visibility(\"default\")))")

theorem implementationPreamble_eq : c.implementationPreamble =
    c.implementationTop ++ ([.blank] ++ c.templateDeclarations ++ [.blank]) := by
  simp [implementationPreamble, implementationTop, exportMarkLines, choice, templateDeclarations]

/-- The definition of the mark of what the library offers. -/
def exportDefinition : Line :=
  .define (exportMark c.linkageLabel)
    (if setting "_WIN32" then some "extern \"C\" __declspec(dllexport)"
      else some "extern \"C\" __attribute__((visibility(\"default\")))")

end

/-- The conditions of an implementation. -/
structure ImplementationParts (c : Config) (setting : String → Bool)
    (definitions : List WrapperDefinition) (lines : List Line) : Prop where
  /-- Every branch that ends is open, and none is open at the end. -/
  balanced : ∀ above below, lines = above ++ below → ∃ s, (start setting).run above = some s ∧
    (below = [] → s.conditions = [])
  /-- The definitions stand under no condition. -/
  defined : ∃ part, definitions.flatMap (·.lines (exportMark c.linkageLabel)) = part ++ [.blank] ∧
    Stands (start setting) lines c.implementationPreamble part []
  /-- Above all declarations the mark is defined once, and not again. -/
  marked : c.implementationTop <+: c.implementationPreamble ∧ ∃ s t,
    (start setting).run c.implementationTop = some s ∧ (start setting).run lines = some t ∧
    ∀ u ∈ [s, t], u.definitionsOf (exportMark c.linkageLabel) = [c.exportDefinition setting]

section

variable {c : Config} (setting : String → Bool) (named : isIdentifier c.linkageLabel = true)

include named

theorem implementationTop_letsThrough :
    LetsThrough c.markNames (start setting) c.implementationTop
      ([.pragmaOnce] ++ [.blank] ++ c.includeBlock ++ [c.exportDefinition setting]) := by
  have exported : exportMark c.linkageLabel ∈ c.markNames := by simp [c.markNames_eq]
  have windows : "_WIN32" ∉ c.markNames := platform_not_mark (by simp)
  have once : Silent [.pragmaOnce] := by simpa [Silent] using Line.directive_pragmaOnce
  have opened := (LetsThrough.nil c.markNames (start setting)).flat_append
    ((once.append silent_blank).append c.silent_includeBlock).flat
  exact opened.choice_append (by decide) windows (mem_markNames_isIdentifier named exported)
    exported (some "extern \"C\" __declspec(dllexport)")
    (some "extern \"C\" __attribute__((visibility(\"default\")))")

theorem definitions_of_exported {s : Preprocessor} {below : List Line} (silent : Silent below)
    (kept : s.kept = [.pragmaOnce] ++ [.blank] ++ c.includeBlock ++ [c.exportDefinition setting] ++
      below) : s.definitionsOf (exportMark c.linkageLabel) = [c.exportDefinition setting] := by
  have once : Silent [.pragmaOnce] := by simpa [Silent] using Line.directive_pragmaOnce
  obtain ⟨-, -, exported, -⟩ := marks_isIdentifier named
  simp only [definitionsOf, kept, exportDefinition, List.filter_append, definitions_of_silent once,
    definitions_of_silent silent_blank, definitions_of_silent c.silent_includeBlock,
    definitions_of_define exported, definitions_of_silent silent, if_true, List.nil_append,
    List.append_nil]

theorem implementationParts {definitions : List WrapperDefinition} {part : List Line}
    (hpart : definitions.flatMap (·.lines (exportMark c.linkageLabel)) = part ++ [.blank]) :
    c.ImplementationParts setting definitions (c.implementationPreamble ++ part) := by
  obtain ⟨-, -, exported, -⟩ := marks_isIdentifier named
  have silent := silent_definitions exported hpart
  have top := implementationTop_letsThrough setting named
  have templates := (silent_blank.append c.silent_templateDeclarations).append silent_blank
  have preamble := top.flat_append templates.flat
  rw [← implementationPreamble_eq] at preamble
  have whole := preamble.flat_append silent.flat
  refine ⟨?_, ⟨part, hpart, ?_⟩, ?_, ?_⟩
  · intro above below parts
    obtain ⟨s, ran, -⟩ := whole.passes.sheltered above ⟨below, parts.symm⟩
    refine ⟨s, ran, ?_⟩
    rintro rfl
    rw [List.append_nil] at parts
    obtain rfl := Option.some.inj (whole.passes.run.symm.trans (parts ▸ ran))
    exact accept_conditions _ _
  · exact preamble.stands (run_nil _) List.prefix_rfl silent.flat
  · rw [implementationPreamble_eq]
    exact List.prefix_append _ _
  · refine ⟨_, _, top.passes.run, whole.passes.run, ?_⟩
    intro u hu
    rcases List.mem_cons.mp hu with rfl | hu
    · exact definitions_of_exported setting named silent_nil
        ((accept_kept rfl _).trans (List.append_nil _).symm)
    · rw [List.mem_singleton.mp hu]
      exact definitions_of_exported setting named (templates.append silent)
        ((accept_kept rfl _).trans (List.append_assoc _ _ part))

end

end Config

/-- The conditions of the files of an accepted configuration are balanced, and they let the parts
of each language through to its compilers, behind one definition of every mark. -/
theorem conditions_part_languages {c : Config} (valid : c.validate = .ok ()) :
    ∃ imports dispatch header definitions implementation,
      c.importDeclarations = .ok imports ∧ c.dispatchDefinitions = .ok dispatch ∧
      c.headerLines = .ok header ∧ c.wrappers = .ok definitions ∧
      c.implementationLines = .ok implementation ∧
      ∀ setting, c.HeaderParts setting imports dispatch header ∧
        c.ImplementationParts setting definitions implementation := by
  have accepted := Config.validate_eq_ok_iff.mp valid
  have even := Config.unevenness?_eq_none_iff.mpr accepted.even
  have named := accepted.isIdentifier_linkageLabel
  obtain ⟨part, lines, definitions⟩ := Config.exists_definitions accepted.exports_ne_nil
  have imports := c.importDeclarations_eq
  have dispatch := c.dispatchDefinitions_eq
  have header := c.headerLines_eq
  have wrappers := c.wrappers_eq
  have implementation := c.implementationLines_eq
  rw [even] at imports dispatch header wrappers implementation
  refine ⟨_, _, _, _, _, imports, dispatch, header, wrappers, implementation, ?_⟩
  intro setting
  obtain ⟨-, imported, -, -⟩ := Config.marks_isIdentifier named
  refine ⟨Config.headerParts setting named (Config.silent_importDeclarations imported imports)
    (Config.silent_dispatchDefinitions dispatch), ?_⟩
  rw [lines]
  exact Config.implementationParts setting named definitions

/-- A C compiler sees the includes and the declarations of the wrappers. -/
theorem sampleLibrary_parted : sampleLibrary.validate = .ok () ∧ ∃ imports header s,
    sampleLibrary.importDeclarations = .ok imports ∧ sampleLibrary.headerLines = .ok header ∧
    (start fun _ => false).run header = some s ∧ s.conditions = [] ∧
    s.compiled = sampleLibrary.includeLines ++ imports.filter (·.text ≠ "") ++
      [.comment "C++ wrapper impl."] := by
  obtain ⟨imports, _, header, _, _, imported, _, headed, _, _, parts⟩ :=
    conditions_part_languages sampleLibrary_validate
  have header := (parts fun _ => false).1
  obtain ⟨s, ran, compiled⟩ := header.compiled rfl
  obtain ⟨t, ran', ended⟩ := header.enclosed _ [] (List.append_nil _).symm
  obtain rfl := Option.some.inj (ran.symm.trans ran')
  refine ⟨sampleLibrary_validate, imports, _, s, imported, headed, ran, ended.mpr (Or.inr rfl), ?_⟩
  simpa using compiled

end TemplateExport
