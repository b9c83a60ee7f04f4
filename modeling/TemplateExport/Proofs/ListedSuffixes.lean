import TemplateExport.Proofs.FittingTypes

namespace TemplateExport

theorem SuffixMapping.symbol_congr {m m' : SuffixMapping} {r : Instantiation}
    (same : ∀ type ∈ r.types, m.suffix type = m'.suffix type) (f : FunctionTemplate) :
    m.symbol f r = m'.symbol f r := by
  rw [symbol, symbol, joined, joined, List.map_congr_left same]

theorem claimFunctions_congr {m m' : SuffixMapping} {functions : List FunctionTemplate}
    (same : ∀ f ∈ functions, f.exports.map (·.name m) = f.exports.map (·.name m'))
    (used : List String) : claimFunctions m used functions = claimFunctions m' used functions := by
  induction functions generalizing used with
  | nil => rfl
  | cons f rest ih =>
    have later := ih fun g hg => same g (List.mem_cons_of_mem f hg)
    simp only [claimFunctions_cons, same f List.mem_cons_self, later]

namespace Config

/-- Configurations for the same functions that give the same short names to the types that these
are instantiated with. What else their suffix mappings hold is left open. -/
structure NamesAlike (c d : Config) : Prop where
  linkage : c.linkageLabel = d.linkageLabel
  includes : c.includes = d.includes
  functions : c.functions = d.functions
  suffixes : ∀ type, c.Lists type → c.suffixes.suffix type = d.suffixes.suffix type

variable {c d : Config}

theorem lists_of_mem_exports {f : FunctionTemplate} (hf : f ∈ c.functions) {w : Wrapper}
    (hw : w ∈ f.exports) {type : String} (h : type ∈ w.instantiation.types) : c.Lists type := by
  obtain ⟨row, mem, rfl⟩ := List.mem_map.mp hw
  rw [Instantiation.types_ofRow (FunctionTemplate.length_of_mem_rows mem)] at h
  obtain ⟨p, hp, typed⟩ := FunctionTemplate.exists_typed_of_mem_rows mem h
  exact ⟨f, hf, p, hp, typed⟩

namespace NamesAlike

/-- The suffix mapping reaches a wrapper through its name alone. -/
theorem signature_eq (alike : c.NamesAlike d) {f : FunctionTemplate} (hf : f ∈ c.functions)
    {w : Wrapper} (hw : w ∈ f.exports) : w.signature c.suffixes = w.signature d.suffixes := by
  have symbol := SuffixMapping.symbol_congr
    (fun type h => alike.suffixes type (lists_of_mem_exports hf hw h)) w.function
  simp only [Wrapper.signature, FunctionTemplate.wrapperSignature, symbol]

theorem map_exports_eq (alike : c.NamesAlike d) {α : Type} {f : FunctionTemplate}
    (hf : f ∈ c.functions) (piece : Wrapper → WrapperSignature → α) :
    f.exports.map (fun w => piece w (w.signature c.suffixes)) =
      f.exports.map fun w => piece w (w.signature d.suffixes) :=
  List.map_congr_left fun _ hw => congrArg (piece _) (alike.signature_eq hf hw)

theorem exportedSymbols_eq (alike : c.NamesAlike d) : c.exportedSymbols = d.exportedSymbols := by
  rw [exportedSymbols, exportedSymbols, ← alike.functions]
  exact claimFunctions_congr
    (fun f hf => alike.map_exports_eq hf fun _ signature => signature.name) []

theorem unevenness?_eq (alike : c.NamesAlike d) : c.unevenness? = d.unevenness? := by
  rw [unevenness?, unevenness?, alike.functions]

theorem includeBlock_eq (alike : c.NamesAlike d) : c.includeBlock = d.includeBlock := by
  rw [includeBlock, includeBlock, includeLines, includeLines, alike.includes]

theorem headerText_eq (alike : c.NamesAlike d) : c.headerText = d.headerText := by
  have preamble : c.headerPreamble = d.headerPreamble := by
    rw [headerPreamble, headerPreamble, alike.includeBlock_eq, templateDeclarations,
      templateDeclarations, alike.functions, alike.linkage]
  have dispatch (lines : List Line) : c.headerDispatch lines = d.headerDispatch lines := by
    rw [headerDispatch, headerDispatch, alike.linkage]
  have declarations : (c.functions.flatMap fun f =>
      f.exports.map (·.declaration c.suffixes c.linkageLabel) ++ [.blank]) =
      d.functions.flatMap fun f =>
        f.exports.map (·.declaration d.suffixes d.linkageLabel) ++ [.blank] := by
    rw [← alike.functions, ← alike.linkage]
    refine List.flatMap_congr fun f hf => congrArg (· ++ [Line.blank]) ?_
    exact alike.map_exports_eq hf fun _ signature =>
      Line.code (importMark c.linkageLabel ++ " " ++ signature.text ++ ";")
  have definitions : (c.functions.flatMap fun f =>
      f.dispatchText (f.exports.map (·.branch c.suffixes)) ++ [.blank]) =
      d.functions.flatMap fun f =>
        f.dispatchText (f.exports.map (·.branch d.suffixes)) ++ [.blank] := by
    rw [← alike.functions]
    refine List.flatMap_congr fun f hf => congrArg (f.dispatchText · ++ [Line.blank]) ?_
    exact alike.map_exports_eq hf fun w signature =>
      Branch.mk w.instantiation.bindings signature.name w.function.forwardedArguments
  rw [headerText, headerText, preamble, dispatch, declarations, definitions]

theorem definitionLines_eq (alike : c.NamesAlike d) : c.definitionLines = d.definitionLines := by
  have preamble : c.implementationPreamble = d.implementationPreamble := by
    rw [implementationPreamble, implementationPreamble, alike.includeBlock_eq, alike.functions,
      alike.linkage]
  have definitions : c.exports.map (·.definition c.suffixes) =
      d.exports.map (·.definition d.suffixes) := by
    rw [exports, exports, ← alike.functions, List.map_flatMap, List.map_flatMap]
    exact List.flatMap_congr fun f hf => alike.map_exports_eq hf fun w signature =>
      WrapperDefinition.mk signature w.function.name w.instantiation.types
        w.function.forwardedArguments
  rw [definitionLines, definitionLines, preamble, definitions, alike.linkage]

theorem header_eq (alike : c.NamesAlike d) : c.header = d.header := by
  rw [c.header_eq, d.header_eq, alike.unevenness?_eq, alike.headerText_eq]

theorem implementation_eq (alike : c.NamesAlike d) : c.implementation = d.implementation := by
  rw [c.implementation_eq, d.implementation_eq, alike.unevenness?_eq, alike.definitionLines_eq]

end NamesAlike

/-- Configurations with the same answers, texts or problems, from every stage of rendering. -/
structure RenderedAlike (c d : Config) : Prop where
  render : c.render = d.render
  header : c.header = d.header
  implementation : c.implementation = d.implementation
  symbols : c.exportedSymbols = d.exportedSymbols

theorem NamesAlike.renderedAlike (alike : c.NamesAlike d) : c.RenderedAlike d where
  render := by
    rw [Config.render, Config.render, alike.exportedSymbols_eq, alike.header_eq,
      alike.implementation_eq]
  header := alike.header_eq
  implementation := alike.implementation_eq
  symbols := alike.exportedSymbols_eq

/-- Changes of the suffix mapping that leave each listed type its short name. -/
theorem namesAlike_of_suffixes {m : SuffixMapping} (key : String)
    (others : ∀ type, type ≠ key → m.suffix type = c.suffixes.suffix type)
    (h : ¬c.Lists key ∨ m.suffix key = c.suffixes.suffix key) :
    { c with suffixes := m }.NamesAlike c := by
  refine ⟨rfl, rfl, rfl, ?_⟩
  intro type listed
  by_cases here : type = key
  · obtain rfl := here
    exact h.resolve_left (absurd listed)
  · exact others type here

theorem namesAlike_mapSuffix {key value : String}
    (h : ¬c.Lists key ∨ value = c.suffixes.suffix key) :
    ((Edit.mapSuffix key value).apply c).NamesAlike c := by
  refine namesAlike_of_suffixes key ?_ ?_
  · intro type apart
    simp [SuffixMapping.suffix, apart]
  · simpa [SuffixMapping.suffix] using h

/-- Without its entry a type has its built-in short name or its own spelling. -/
theorem namesAlike_unmapSuffix {key : String}
    (h : ¬c.Lists key ∨ c.suffixes.suffix key = (builtInSuffixes.lookup key).getD key) :
    ((Edit.unmapSuffix key).apply c).NamesAlike c := by
  refine namesAlike_of_suffixes key ?_ ?_
  · intro type apart
    simp [SuffixMapping.suffix, apart]
  · refine h.imp_right ?_
    intro same
    rw [same, SuffixMapping.suffix, TextTable.get?_erase, if_pos rfl, Option.getD_none]

end Config

/-- Short names count only as the short names of listed types: configurations for the same
functions that give these the same ones are rendered alike, or fail alike. So nothing comes of an
entry for a type that no list names, nor of one that says what holds without it. -/
theorem suffixes_act_through_listed_types :
    (∀ c d : Config, c.NamesAlike d → c.RenderedAlike d) ∧
    (∀ (c : Config) (key value : String), ¬c.Lists key ∨ value = c.suffixes.suffix key →
      ((Edit.mapSuffix key value).apply c).RenderedAlike c) ∧
    ∀ (c : Config) (key : String),
      ¬c.Lists key ∨ c.suffixes.suffix key = (builtInSuffixes.lookup key).getD key →
        ((Edit.unmapSuffix key).apply c).RenderedAlike c := by
  refine ⟨fun _ _ alike => alike.renderedAlike, ?_, ?_⟩
  · intro c key value h
    exact (Config.namesAlike_mapSuffix h).renderedAlike
  · intro c key h
    exact (Config.namesAlike_unmapSuffix h).renderedAlike

/-- A function with a parameter of a type that it is not instantiated with. -/
def countedLibrary : Config where
  linkageName := some "MATH"
  includes := []
  suffixes := ⟨.ofList [("long", "l"), ("float", "f32")]⟩
  functions :=
    [{ name := "sum"
       typeParameters := [⟨"T", ["float", "long"]⟩]
       combination := .all
       returns := ⟨none, "T", false, false⟩
       parameters := [⟨some "values", "T", true, true⟩, ⟨some "count", "size_t", false, false⟩] }]

theorem countedLibrary_renderedAlike :
    countedLibrary.exportedSymbols = .ok ["sum_f32", "sum_l"] ∧
    countedLibrary.NamesAlike
      { countedLibrary with suffixes := ⟨.ofList [("long", "l"), ("size_t", "sz")]⟩ } ∧
    countedLibrary.RenderedAlike
      { countedLibrary with suffixes := ⟨.ofList [("long", "l"), ("size_t", "sz")]⟩ } ∧
    ¬countedLibrary.Lists "size_t" ∧
    ((Edit.mapSuffix "size_t" "sz").apply countedLibrary).RenderedAlike countedLibrary ∧
    ((Edit.mapSuffix "long" "l").apply countedLibrary).RenderedAlike countedLibrary ∧
    ((Edit.unmapSuffix "float").apply countedLibrary).RenderedAlike countedLibrary := by
  obtain ⟨between, mapped, unmapped⟩ := suffixes_act_through_listed_types
  have lists {type : String} (h : countedLibrary.Lists type) : type ∈ ["float", "long"] := by
    obtain ⟨f, hf, p, hp, mem⟩ := h
    obtain rfl := List.mem_singleton.mp hf
    obtain rfl := List.mem_singleton.mp hp
    exact mem
  have unlisted : ¬countedLibrary.Lists "size_t" := fun h => absurd (lists h) (by decide)
  have alike : countedLibrary.NamesAlike
      { countedLibrary with suffixes := ⟨.ofList [("long", "l"), ("size_t", "sz")]⟩ } := by
    have same : ∀ type ∈ ["float", "long"], countedLibrary.suffixes.suffix type =
        SuffixMapping.suffix ⟨.ofList [("long", "l"), ("size_t", "sz")]⟩ type := by decide
    exact ⟨rfl, rfl, rfl, fun type listed => same type (lists listed)⟩
  exact ⟨rfl, alike, between _ _ alike, unlisted, mapped _ _ _ (Or.inl unlisted),
    mapped _ _ _ (Or.inr rfl), unmapped _ _ (Or.inr rfl)⟩

end TemplateExport
