import TemplateExport.Proofs.Acceptance
import Mathlib.Data.List.Nodup

namespace TemplateExport

/-- The symbol that the i-th function asks for by its a-th instantiation. -/
def Config.symbolAt? (c : Config) (i a : Nat) : Option String := do
  let f ← c.functions[i]?
  let rows ← f.instantiations.toOption
  let r ← rows[a]?
  return c.suffixes.symbol f r

theorem FunctionTemplate.map_symbol_instantiations {f : FunctionTemplate}
    {rows : List Instantiation} (h : f.instantiations = .ok rows) (m : SuffixMapping) :
    rows.map (m.symbol f) = f.exports.map (·.name m) := by
  rw [f.instantiations_eq_exports] at h
  obtain ⟨_, rfl⟩ := unlessProblem_eq_ok_iff.mp h
  simp only [exports, List.map_map]
  rfl

theorem FunctionTemplate.exists_instantiations {f : FunctionTemplate} :
    (∃ rows, f.instantiations = .ok rows) ↔ f.Even := by
  simp [f.instantiations_eq_exports, unlessProblem_eq_ok_iff, unevenness?_eq_none_iff]

theorem Config.symbolAt?_eq_some_iff {c : Config} {i a : Nat} {name : String} :
    c.symbolAt? i a = some name ↔ ∃ f, c.functions[i]? = some f ∧ f.Even ∧
      (f.exports.map (·.name c.suffixes))[a]? = some name := by
  simp only [symbolAt?, bind, Option.bind_eq_some_iff]
  refine exists_congr fun f => and_congr_right fun _ => ?_
  constructor
  · intro h
    obtain ⟨rows, instantiated, r, here, made⟩ := h
    cases hi : f.instantiations with
    | error problem =>
      rw [hi] at instantiated
      cases instantiated
    | ok others =>
      rw [hi] at instantiated
      obtain rfl := Option.some.inj instantiated
      refine ⟨FunctionTemplate.exists_instantiations.mp ⟨_, hi⟩, ?_⟩
      rw [← FunctionTemplate.map_symbol_instantiations hi, List.getElem?_map, here]
      exact made
  · intro h
    obtain ⟨even, here⟩ := h
    obtain ⟨rows, hi⟩ := FunctionTemplate.exists_instantiations.mpr even
    rw [← FunctionTemplate.map_symbol_instantiations hi, List.getElem?_map,
      Option.map_eq_some_iff] at here
    obtain ⟨r, there, made⟩ := here
    exact ⟨rows, by rw [hi]; rfl, r, there, congrArg some made⟩

/-- In a list of parts nothing occurs twice just where no element stands at two places. -/
theorem nodup_flatMap_iff_places {α β : Type} {part : α → List β} {xs : List α} :
    (xs.flatMap part).Nodup ↔ ∀ (i a j b : Nat) (x y : α) (e : β), xs[i]? = some x →
      (part x)[a]? = some e → xs[j]? = some y → (part y)[b]? = some e → i = j ∧ a = b := by
  rw [List.nodup_flatMap]
  constructor
  · intro h i a j b x y e hx ha hy hb
    obtain ⟨each, apart⟩ := h
    obtain ⟨hi, rfl⟩ := List.getElem?_eq_some_iff.mp hx
    obtain ⟨hj, rfl⟩ := List.getElem?_eq_some_iff.mp hy
    have disjoint := List.pairwise_iff_getElem.mp apart
    rcases Nat.lt_trichotomy i j with lt | rfl | gt
    · exact absurd (List.mem_of_getElem? hb)
        (disjoint i j hi hj lt (List.mem_of_getElem? ha))
    · obtain ⟨ha, rfl⟩ := List.getElem?_eq_some_iff.mp ha
      obtain ⟨hb, same⟩ := List.getElem?_eq_some_iff.mp hb
      exact ⟨rfl, ((each _ (List.getElem_mem hi)).getElem_inj_iff.mp same).symm⟩
    · exact absurd (List.mem_of_getElem? ha)
        (disjoint j i hj hi gt (List.mem_of_getElem? hb))
  · intro h
    refine ⟨?_, ?_⟩
    · intro x hx
      obtain ⟨i, hi⟩ := List.mem_iff_getElem?.mp hx
      refine List.nodup_iff_getElem?_ne_getElem?.mpr ?_
      intro a b lt hb same
      have there := List.getElem?_eq_getElem hb
      have := h i a i b x x _ hi (same.trans there) hi there
      omega
    · refine List.pairwise_iff_getElem.mpr ?_
      intro i j hi hj lt e here there
      obtain ⟨a, ha⟩ := List.mem_iff_getElem?.mp here
      obtain ⟨b, hb⟩ := List.mem_iff_getElem?.mp there
      have := h i a j b _ _ e (List.getElem?_eq_getElem hi) ha (List.getElem?_eq_getElem hj) hb
      omega

/-- The symbols of even functions are all different just where no two instantiations ask for one
symbol. -/
theorem Config.nodup_names_iff_places {c : Config} (even : ∀ f ∈ c.functions, f.Even) :
    (c.exports.map (·.name c.suffixes)).Nodup ↔ ∀ (x y : Nat × Nat) (name : String),
      c.symbolAt? x.1 x.2 = some name → c.symbolAt? y.1 y.2 = some name → x = y := by
  rw [exports, List.map_flatMap, nodup_flatMap_iff_places]
  simp only [symbolAt?_eq_some_iff]
  constructor
  · intro h x y name hx hy
    obtain ⟨f, hf, _, here⟩ := hx
    obtain ⟨g, hg, _, there⟩ := hy
    obtain ⟨function, row⟩ := h _ _ _ _ f g name hf here hg there
    exact Prod.ext function row
  · intro h i a j b f g name hf here hg there
    have same := h (i, a) (j, b) name ⟨f, hf, even f (List.mem_of_getElem? hf), here⟩
      ⟨g, hg, even g (List.mem_of_getElem? hg), there⟩
    exact Prod.mk.inj same

theorem Config.mem_names_iff_places {c : Config} (even : ∀ f ∈ c.functions, f.Even)
    {name : String} : name ∈ c.exports.map (·.name c.suffixes) ↔
      ∃ i a, c.symbolAt? i a = some name := by
  rw [exports, List.map_flatMap, List.mem_flatMap]
  simp only [symbolAt?_eq_some_iff]
  constructor
  · intro h
    obtain ⟨f, hf, here⟩ := h
    obtain ⟨i, hi⟩ := List.mem_iff_getElem?.mp hf
    obtain ⟨a, ha⟩ := List.mem_iff_getElem?.mp here
    exact ⟨i, a, f, hi, even f hf, ha⟩
  · intro h
    obtain ⟨i, a, f, hi, _, ha⟩ := h
    exact ⟨f, List.mem_of_getElem? hi, List.mem_of_getElem? ha⟩

theorem Config.forall_names_iff_places {c : Config} (even : ∀ f ∈ c.functions, f.Even)
    {holds : String → Prop} : (∀ i a name, c.symbolAt? i a = some name → holds name) ↔
      ∀ name ∈ c.exports.map (·.name c.suffixes), holds name := by
  constructor
  · intro h name mem
    obtain ⟨i, a, here⟩ := (mem_names_iff_places even).mp mem
    exact h i a name here
  · intro h i a name here
    exact h name ((mem_names_iff_places even).mpr ⟨i, a, here⟩)

theorem mem_withEarlier {α : Type} {before : List α} {x : α} {xs : List α} :
    (before, x) ∈ withEarlier xs ↔ ∃ behind, xs = before ++ x :: behind := by
  induction xs generalizing before with
  | nil => simp [withEarlier]
  | cons y rest ih =>
    rw [withEarlier_cons]
    cases before with
    | nil => simp [eq_comm]
    | cons z before => simp [ih, eq_comm, and_comm]

theorem mem_symbolBreaches {used : List String} {requests : List (Except Problem String)}
    {p : Problem} : p ∈ symbolBreaches used requests ↔
      ∃ before request behind, requests = before ++ request :: behind ∧
        p ∈ requestBreaches (used ++ before.filterMap Except.toOption) request := by
  simp only [symbolBreaches, List.mem_flatMap, Prod.exists, mem_withEarlier]
  tauto

theorem Config.mem_symbolBreaches_of_error {c : Config} {p : Problem}
    (h : c.exportedSymbols = .error p) :
    p ∈ symbolBreaches [] (c.functions.flatMap (·.requests c.suffixes)) := by
  refine List.mem_of_mem_head? (firstOf_eq_error_iff.mp ?_)
  rw [firstOf_symbolBreaches_functions]
  rw [exportedSymbols] at h
  rw [h]
  rfl

namespace FunctionTemplate

variable {f : FunctionTemplate} {m : SuffixMapping}

theorem ne_symbol_of_request {problem : Problem} (h : .error problem ∈ f.requests m)
    (fault : SymbolFault) : problem ≠ .symbol fault := by
  unfold requests at h
  split at h
  next uneven found =>
    obtain rfl := Except.error.inj (List.mem_singleton.mp h)
    unfold unevenness? at found
    split at found
    next =>
      obtain ⟨p, _, rfl⟩ := Option.map_eq_some_iff.mp found
      intro same
      cases same
    next => cases found
  next => simp at h

/-- The symbols among the requests of a function. -/
def asked (m : SuffixMapping) (f : FunctionTemplate) : List String :=
  (f.requests m).filterMap Except.toOption

theorem asked_of_even (even : f.Even) : f.asked m = f.exports.map (·.name m) := by
  rw [asked, requests, unevenness?_eq_none_iff.mpr even, List.filterMap_map]
  exact congrFun List.filterMap_eq_map f.exports

theorem asked_of_uneven (uneven : ¬f.Even) : f.asked m = [] := by
  obtain ⟨problem, h⟩ := Option.ne_none_iff_exists'.mp (unevenness?_eq_none_iff.not.mpr uneven)
  rw [asked, requests, h]
  rfl

end FunctionTemplate

theorem Config.flatMap_asked_of_even {c : Config} (even : ∀ f ∈ c.functions, f.Even) :
    c.functions.flatMap (·.asked c.suffixes) = c.exports.map (·.name c.suffixes) := by
  rw [exports, List.map_flatMap]
  exact List.flatMap_congr fun f hf => FunctionTemplate.asked_of_even (even f hf)

/-- A refused symbol is no identifier, or is asked for before. -/
theorem Config.asked_of_refused {c : Config} {fault : SymbolFault}
    (h : c.exportedSymbols = .error (.symbol fault)) :
    ∃ before name behind, c.functions.flatMap (·.asked c.suffixes) = before ++ name :: behind ∧
      (¬isIdentifier name ∧ fault = .notIdentifier name ∨
        name ∈ before ∧ fault = .repeated name) := by
  obtain ⟨before, request, behind, split, breach⟩ :=
    mem_symbolBreaches.mp (mem_symbolBreaches_of_error h)
  have asked : c.functions.flatMap (·.asked c.suffixes) =
      (c.functions.flatMap (·.requests c.suffixes)).filterMap Except.toOption :=
    List.filterMap_flatMap.symm
  cases request with
  | error problem =>
    have mem : .error problem ∈ c.functions.flatMap (·.requests c.suffixes) := by simp [split]
    obtain ⟨f, _, requested⟩ := List.mem_flatMap.mp mem
    exact absurd (List.mem_singleton.mp breach).symm
      (FunctionTemplate.ne_symbol_of_request requested fault)
  | ok name =>
    refine ⟨before.filterMap Except.toOption, name, behind.filterMap Except.toOption, ?_, ?_⟩
    · rw [asked, split, List.filterMap_append]
      rfl
    · simpa [requestBreaches, breachIf] using breach

end TemplateExport
