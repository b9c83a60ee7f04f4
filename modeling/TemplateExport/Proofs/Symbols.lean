import TemplateExport.Proofs.Wrappers

namespace TemplateExport

/-- Names that can be put behind the ones in use. -/
structure Fresh (used names : List String) : Prop where
  identifiers : ∀ name ∈ names, isIdentifier name = true
  nodup : names.Nodup
  unused : ∀ name ∈ names, name ∉ used

theorem fresh_nil (used : List String) : Fresh used [] :=
  ⟨by simp, List.nodup_nil, by simp⟩

theorem fresh_append {used xs ys : List String} :
    Fresh used (xs ++ ys) ↔ Fresh used xs ∧ Fresh (used ++ xs) ys := by
  constructor
  · intro h
    obtain ⟨ids, nodup, unused⟩ := h
    obtain ⟨hx, hy, apart⟩ := List.nodup_append.mp nodup
    refine ⟨⟨fun n hn => ids n (by simp [hn]), hx, fun n hn => unused n (by simp [hn])⟩,
      ⟨fun n hn => ids n (by simp [hn]), hy, ?_⟩⟩
    intro n hn hm
    rcases List.mem_append.mp hm with hm | hm
    · exact unused n (by simp [hn]) hm
    · exact apart n hm n hn rfl
  · intro h
    obtain ⟨⟨idx, hx, ux⟩, ⟨idy, hy, uy⟩⟩ := h
    refine ⟨?_, List.nodup_append.mpr ⟨hx, hy, ?_⟩, ?_⟩
    · intro n hn
      exact (List.mem_append.mp hn).elim (idx n) (idy n)
    · intro a ha b hb same
      exact uy b hb (by simp [← same, ha])
    · intro n hn hu
      rcases List.mem_append.mp hn with hn | hn
      · exact ux n hn hu
      · exact uy n hn (by simp [hu])

theorem fresh_singleton {used : List String} {name : String} :
    Fresh used [name] ↔ isIdentifier name = true ∧ name ∉ used := by
  constructor
  · intro h
    exact ⟨h.identifiers name (by simp), h.unused name (by simp)⟩
  · intro h
    obtain ⟨hi, hu⟩ := h
    exact ⟨by simpa using hi, by simp, by simpa using hu⟩

theorem fresh_empty_iff {names : List String} :
    Fresh [] names ↔ (∀ name ∈ names, isIdentifier name = true) ∧ names.Nodup := by
  constructor
  · intro fresh
    exact ⟨fresh.identifiers, fresh.nodup⟩
  · intro h
    exact ⟨h.1, h.2, by simp⟩

theorem Fresh.sublist {used names others : List String} (fresh : Fresh used names)
    (h : others.Sublist names) : Fresh used others :=
  ⟨fun name mem => fresh.identifiers name (h.subset mem), fresh.nodup.sublist h,
    fun name mem => fresh.unused name (h.subset mem)⟩

theorem claimNames_eq_ok_iff {used names out : List String} :
    claimNames used names = .ok out ↔ Fresh used names ∧ used ++ names = out := by
  induction names generalizing used with
  | nil => simp [claimNames, fresh_nil]
  | cons name rest ih =>
    have split : Fresh used (name :: rest) ↔
        (isIdentifier name = true ∧ name ∉ used) ∧ Fresh (used ++ [name]) rest := by
      rw [← fresh_singleton, ← fresh_append, List.singleton_append]
    by_cases hi : isIdentifier name = true
    · by_cases hu : name ∈ used
      · simp [claimNames, split, hi, hu]
      · simp [claimNames, split, hi, hu, ih]
    · simp [claimNames, split, hi]

/-- The names of the wrappers of a list of functions, in the order in which they are claimed. -/
def wrapperNames (m : SuffixMapping) (functions : List FunctionTemplate) : List String :=
  (functions.flatMap (·.exports)).map (·.name m)

theorem wrapperNames_cons (m : SuffixMapping) (f : FunctionTemplate)
    (rest : List FunctionTemplate) :
    wrapperNames m (f :: rest) = f.exports.map (·.name m) ++ wrapperNames m rest := by
  simp [wrapperNames]

theorem wrapperNames_append (m : SuffixMapping) (before behind : List FunctionTemplate) :
    wrapperNames m (before ++ behind) = wrapperNames m before ++ wrapperNames m behind := by
  simp [wrapperNames]

theorem claimFunctions_cons (m : SuffixMapping) (used : List String) (f : FunctionTemplate)
    (rest : List FunctionTemplate) :
    claimFunctions m used (f :: rest) =
      match f.unevenness? with
      | some problem => .error problem
      | none => claimNames used (f.exports.map (·.name m)) >>= (claimFunctions m · rest) := by
  have names : f.exports.map (·.name m) = (f.exports.map (·.instantiation)).map (m.symbol f) := by
    rw [FunctionTemplate.exports, List.map_map, List.map_map, List.map_map]
    rfl
  rw [claimFunctions, f.instantiations_eq_exports, names]
  cases f.unevenness? <;> rfl

theorem claimFunctions_eq_ok_iff {m : SuffixMapping} {used out : List String}
    {functions : List FunctionTemplate} :
    claimFunctions m used functions = .ok out ↔
      functions.findSome? (·.unevenness?) = none ∧
        Fresh used (wrapperNames m functions) ∧ used ++ wrapperNames m functions = out := by
  induction functions generalizing used with
  | nil => simp [claimFunctions, wrapperNames, fresh_nil]
  | cons f rest ih =>
    rw [claimFunctions_cons, wrapperNames_cons, fresh_append, ← List.append_assoc]
    cases hu : f.unevenness? with
    | some problem => simp [hu]
    | none =>
      simp only [List.findSome?_cons, hu]
      cases hn : claimNames used (f.exports.map (·.name m)) with
      | error problem =>
        have none_fresh : ¬ Fresh used (f.exports.map (·.name m)) := by
          intro fresh
          have := claimNames_eq_ok_iff.mpr ⟨fresh, rfl⟩
          rw [hn] at this
          cases this
        simp [bind, Except.bind, none_fresh]
      | ok claimed =>
        obtain ⟨fresh, rfl⟩ := claimNames_eq_ok_iff.mp hn
        simp only [bind, Except.bind, ih, fresh, true_and]

theorem Config.exportedSymbols_eq_ok_iff {c : Config} {symbols : List String} :
    c.exportedSymbols = .ok symbols ↔
      c.unevenness? = none ∧ Fresh [] symbols ∧ c.exports.map (·.name c.suffixes) = symbols := by
  rw [exportedSymbols, claimFunctions_eq_ok_iff, List.nil_append]
  constructor
  · intro h
    obtain ⟨even, fresh, rfl⟩ := h
    exact ⟨even, fresh, rfl⟩
  · intro h
    obtain ⟨even, fresh, rfl⟩ := h
    exact ⟨even, fresh, rfl⟩

/-- Where all names are claimed, the texts follow: the header and the implementation fail on
uneven lists only. -/
theorem Config.render_eq (c : Config) :
    c.render = (fun symbols =>
      ⟨c.headerText, Line.join (dropFinalBlanks c.definitionLines), symbols⟩) <$>
        c.exportedSymbols := by
  cases h : c.exportedSymbols with
  | error problem => simp [render, h, bind, Except.bind]
  | ok symbols =>
    obtain ⟨even, _⟩ := exportedSymbols_eq_ok_iff.mp h
    simp only [render, h, header_eq, implementation_eq, even]
    rfl

theorem Config.render_eq_ok_iff {c : Config} {s : Sources} :
    c.render = .ok s ↔ c.exportedSymbols = .ok s.symbols ∧ s.header = c.headerText ∧
      s.implementation = Line.join (dropFinalBlanks c.definitionLines) := by
  obtain ⟨header, implementation, symbols⟩ := s
  rw [render_eq]
  cases c.exportedSymbols with
  | error problem => simp
  | ok claimed =>
    simp only [Except.map_ok, Except.ok.injEq, Sources.mk.injEq]
    constructor
    · intro ⟨hh, hi, hs⟩
      exact ⟨hs, hh.symm, hi.symm⟩
    · intro ⟨hs, hh, hi⟩
      exact ⟨hh.symm, hi.symm, hs⟩

/-- A sum for every pair of types, and a product for pairs of types given one by one. -/
def sampleLibrary : Config where
  linkageName := some "MATH"
  includes := ["<stdint.h>"]
  suffixes := ⟨.ofList [("half", "h")]⟩
  functions :=
    [{ name := "add"
       typeParameters := [⟨"S", ["uint32_t", "int8_t"]⟩, ⟨"T", ["float", "double"]⟩]
       combination := .all
       returns := ⟨none, "T", false, false⟩
       parameters := [⟨some "left", "S", true, false⟩, ⟨some "right", "T", true, false⟩] },
     { name := "scale"
       typeParameters := [⟨"V", ["half", "float"]⟩, ⟨"F", ["float", "double"]⟩]
       combination := .fixed
       returns := ⟨none, "V", false, false⟩
       parameters := [⟨some "values", "V", false, true⟩, ⟨some "factor", "F", true, false⟩] }]

theorem sampleLibrary_symbols : sampleLibrary.exportedSymbols = .ok
    ["add_ui32_f32", "add_ui32_f64", "add_i8_f32", "add_i8_f64", "scale_h_f32",
      "scale_f32_f64"] :=
  rfl

end TemplateExport
