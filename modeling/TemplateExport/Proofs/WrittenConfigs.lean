import TemplateExport.Config.File
import TemplateExport.Config.Writer
import TemplateExport.Proofs.Records

namespace TemplateExport

open Document

theorem Tree.writesList_map {α : Type} {writes : α → Tree → Prop} {toTree : α → Tree}
    (h : ∀ a, writes a (toTree a)) (values : List α) :
    (Tree.array (values.map toTree)).WritesList writes values :=
  .array (List.forall₂_map_right_iff.mpr (List.forall₂_same.mpr fun a _ => h a))

/-- Texts are written as they are. -/
def Tree.WritesTexts (values : List String) (t : Tree) : Prop :=
  t.WritesList (fun s item => item = .text s) values

theorem Tree.writesTexts_map (values : List String) :
    (Tree.array (values.map .text)).WritesTexts values := by
  refine writesList_map ?_ values
  simp

theorem readTexts_of_writes {values : List String} {t : Tree} (written : t.WritesTexts values)
    {d : Document} (holds : d.Holds t) : readList readText d = .ok values :=
  readList_of_writes (fun same _ there => readText_of_holds (same ▸ there)) written holds

namespace TypeParameter

variable (p : TypeParameter)

def forms : List FieldForm :=
  [⟨"name", (· = .text p.name), False⟩, ⟨"types", (·.WritesTexts p.types), False⟩]

def Written (t : Tree) : Prop :=
  t.Writes p.forms

theorem written_toTree : p.Written p.toTree := by
  refine .table (by simp) ?_ (by simp [forms])
  simp [forms, Tree.writesTexts_map]

/-- A draft that has the fields with the given keys, all with their values. -/
def draft (keys : List String) : Draft :=
  ⟨kept keys "name" p.name, kept keys "types" p.types⟩

theorem reads_forms : Reads fields p.draft p.forms := by
  refine ⟨by decide, .cons ⟨rfl, ?_⟩ (.cons ⟨rfl, ?_⟩ .nil)⟩
  · rintro _ rfl
    exact Field.of_takes (fun _ => rfl) (by simp [draft, kept]) fun _ => readText_of_holds
  · intro t written
    exact Field.of_takes (fun _ => rfl) (by simp [draft, kept]) fun _ =>
      readTexts_of_writes written

variable {p}

theorem read_of_written (format : Format) {t : Tree} (written : p.Written t) {d : Document}
    (holds : d.Holds t) : read format d = .ok p := by
  obtain ⟨stop, keys, complete, same⟩ :=
    readRecord_of_writes p.reads_forms format "Template" Draft.finish written holds
  simp only [forms, List.forall_mem_cons, false_or] at complete
  obtain ⟨name, types, _⟩ := complete
  refine same.trans ?_
  simp only [Draft.finish, draft, kept_of_mem name, kept_of_mem types]
  rfl

end TypeParameter

namespace Argument

variable (a : Argument)

/-- The fields of an argument. A name that is absent may also be written as a null. -/
def forms : List FieldForm :=
  [⟨"name", (· = (a.name.map .text).getD .null), a.name = none⟩,
    ⟨"type", (· = .text a.type), False⟩,
    ⟨"const", (· = .boolean a.isConst), a.isConst = false⟩,
    ⟨"pointer", (· = .boolean a.isPointer), a.isPointer = false⟩]

def Written (t : Tree) : Prop :=
  t.Writes a.forms

theorem written_toTree : a.Written a.toTree := by
  obtain ⟨_ | name, type, isConst, isPointer⟩ := a
  all_goals exact .table (by simp) (by simp [forms]) (by simp [forms])

def draft (keys : List String) : Draft :=
  ⟨kept keys "name" a.name, kept keys "type" a.type, kept keys "const" a.isConst,
    kept keys "pointer" a.isPointer⟩

theorem reads_forms : Reads fields a.draft a.forms := by
  refine ⟨by decide, .cons ⟨rfl, ?_⟩ (.cons ⟨rfl, ?_⟩ (.cons ⟨rfl, ?_⟩ (.cons ⟨rfl, ?_⟩ .nil)))⟩
  · rintro _ rfl
    exact Field.of_takes (fun _ => rfl) (by simp [draft, kept]) fun _ =>
      readOptionalText_of_holds
  · rintro _ rfl
    exact Field.of_takes (fun _ => rfl) (by simp [draft, kept]) fun _ => readText_of_holds
  · rintro _ rfl
    exact Field.of_takes (fun _ => rfl) (by simp [draft, kept]) fun _ => readBoolean_of_holds
  · rintro _ rfl
    exact Field.of_takes (fun _ => rfl) (by simp [draft, kept]) fun _ => readBoolean_of_holds

variable {a}

theorem read_of_written (format : Format) {t : Tree} (written : a.Written t) {d : Document}
    (holds : d.Holds t) : read format d = .ok a := by
  obtain ⟨stop, keys, complete, same⟩ :=
    readRecord_of_writes a.reads_forms format "Argument" Draft.finish written holds
  simp only [forms, List.forall_mem_cons, false_or] at complete
  obtain ⟨name, type, isConst, isPointer, _⟩ := complete
  refine same.trans ?_
  simp only [Draft.finish, draft, kept_of_mem type, getD_kept name, getD_kept isConst,
    getD_kept isPointer]
  rfl

end Argument

theorem Combination.read_of_holds {c : Combination} (format : Format) {d : Document}
    (holds : d.Holds c.toTree) : read format d = .ok c := by
  cases c <;> cases holds <;> cases format <;> rfl

namespace FunctionTemplate

variable (f : FunctionTemplate)

def forms : List FieldForm :=
  [⟨"name", (· = .text f.name), False⟩,
    ⟨"templates", (·.WritesList TypeParameter.Written f.typeParameters), False⟩,
    ⟨"combination", (· = f.combination.toTree), f.combination = .all⟩,
    ⟨"return", f.returns.Written, False⟩,
    ⟨"parameters", (·.WritesList Argument.Written f.parameters), f.parameters = []⟩]

def Written (t : Tree) : Prop :=
  t.Writes f.forms

theorem written_toTree : f.Written f.toTree := by
  refine .table (by simp) ?_ (by simp [forms])
  simp [forms, Tree.writesList_map TypeParameter.written_toTree,
    Tree.writesList_map Argument.written_toTree, Argument.written_toTree]

def draft (keys : List String) : Draft :=
  ⟨kept keys "name" f.name, kept keys "templates" f.typeParameters,
    kept keys "combination" f.combination, kept keys "return" f.returns,
    kept keys "parameters" f.parameters⟩

theorem reads_forms (format : Format) : Reads (fields format) f.draft f.forms := by
  refine ⟨by simp [fields, Field.of], .cons ⟨rfl, ?_⟩ (.cons ⟨rfl, ?_⟩ (.cons ⟨rfl, ?_⟩
    (.cons ⟨rfl, ?_⟩ (.cons ⟨rfl, ?_⟩ .nil))))⟩
  · rintro _ rfl
    exact Field.of_takes (fun _ => rfl) (by simp [draft, kept]) fun _ => readText_of_holds
  · intro t written
    exact Field.of_takes (fun _ => rfl) (by simp [draft, kept]) fun _ =>
      readList_of_writes (TypeParameter.read_of_written format) written
  · rintro _ rfl
    exact Field.of_takes (fun _ => rfl) (by simp [draft, kept]) fun _ =>
      Combination.read_of_holds format
  · intro t written
    exact Field.of_takes (fun _ => rfl) (by simp [draft, kept]) fun _ =>
      Argument.read_of_written format written
  · intro t written
    exact Field.of_takes (fun _ => rfl) (by simp [draft, kept]) fun _ =>
      readList_of_writes (Argument.read_of_written format) written

variable {f}

theorem read_of_written (format : Format) {t : Tree} (written : f.Written t) {d : Document}
    (holds : d.Holds t) : read format d = .ok f := by
  obtain ⟨stop, keys, complete, same⟩ :=
    readRecord_of_writes (f.reads_forms format) format "Function" Draft.finish written holds
  simp only [forms, List.forall_mem_cons, false_or] at complete
  obtain ⟨name, typeParameters, combination, returns, parameters, _⟩ := complete
  refine same.trans ?_
  simp only [Draft.finish, draft, kept_of_mem name, kept_of_mem typeParameters,
    kept_of_mem returns, getD_kept combination, getD_kept parameters]
  rfl

end FunctionTemplate

/-- The overrides are written under their types, in any order. -/
def SuffixMapping.Written (m : SuffixMapping) (t : Tree) : Prop :=
  ∃ entries : List (String × String), entries.Perm m.overrides.entries ∧
    t = .table (entries.map fun e => (e.1, .text e.2))

theorem SuffixMapping.read_of_written {m : SuffixMapping} {t : Tree} (written : m.Written t)
    {d : Document} (holds : d.Holds t) : TextTable.ofList <$> d.readTexts = .ok m.overrides := by
  obtain ⟨entries, perm, rfl⟩ := written
  rw [readTexts_of_holds holds]
  exact congrArg Except.ok (TextTable.ofList_eq_of_perm perm)

namespace Config

variable (c : Config)

/-- The fields of a configuration. All of them may be left out where they say nothing. -/
def forms : List FieldForm :=
  [⟨"linkage-macro", (· = (c.linkageName.map .text).getD .null), c.linkageName = none⟩,
    ⟨"includes", (·.WritesTexts c.includes), c.includes = []⟩,
    ⟨"suffix-mapping", c.suffixes.Written, c.suffixes.overrides = .empty⟩,
    ⟨"functions", (·.WritesList FunctionTemplate.Written c.functions), c.functions = []⟩]

def Written (t : Tree) : Prop :=
  t.Writes c.forms

theorem written_toTree : c.Written c.toTree := by
  refine .table (by simp) ?_ (by simp [forms])
  have suffixes : c.suffixes.Written c.suffixes.toTree := ⟨_, .refl _, rfl⟩
  simp [forms, suffixes, Tree.writesTexts_map,
    Tree.writesList_map FunctionTemplate.written_toTree]

def draft (keys : List String) : Draft :=
  ⟨kept keys "linkage-macro" c.linkageName, kept keys "includes" c.includes,
    kept keys "suffix-mapping" c.suffixes.overrides, kept keys "functions" c.functions⟩

theorem reads_forms (format : Format) : Reads (fields format) c.draft c.forms := by
  refine ⟨by simp [fields, Field.of], .cons ⟨rfl, ?_⟩ (.cons ⟨rfl, ?_⟩ (.cons ⟨rfl, ?_⟩
    (.cons ⟨rfl, ?_⟩ .nil)))⟩
  · rintro _ rfl
    exact Field.of_takes (fun _ => rfl) (by simp [draft, kept]) fun _ =>
      readOptionalText_of_holds
  · intro t written
    exact Field.of_takes (fun _ => rfl) (by simp [draft, kept]) fun _ =>
      readTexts_of_writes written
  · intro t written
    exact Field.of_takes (fun _ => rfl) (by simp [draft, kept]) fun _ =>
      SuffixMapping.read_of_written written
  · intro t written
    exact Field.of_takes (fun _ => rfl) (by simp [draft, kept]) fun _ =>
      readList_of_writes (FunctionTemplate.read_of_written format) written

variable {c}

theorem read_of_written (format : Format) {t : Tree} (written : c.Written t) {d : Document}
    (holds : d.Holds t) : read format d = .ok c := by
  obtain ⟨stop, keys, complete, same⟩ :=
    readRecord_of_writes (c.reads_forms format) format "WrapperConfig" Draft.finish written holds
  simp only [forms, List.forall_mem_cons] at complete
  obtain ⟨linkageName, includes, suffixes, functions, _⟩ := complete
  refine same.trans ?_
  simp only [Draft.finish, draft, getD_kept linkageName, getD_kept includes, getD_kept suffixes,
    getD_kept functions]
  rfl

theorem ofText_of_written {t : Tree} (written : c.Written t) :
    ofText .json (String.ofList (Json.print t)) = .ok c := by
  obtain ⟨d, holds, same⟩ := Json.read_print (read .json) t
  simp only [ofText, Format.read, same, read_of_written .json written holds]
  rfl

end Config

/-- The text of a configuration is read as that configuration, with its fields and the overrides
in any order and with any of the fields left out that say nothing. -/
theorem written_config_is_read_back (c : Config) :
    Config.ofText .json (String.ofList (Json.print c.toTree)) = .ok c ∧
    c.Written c.toTree ∧
    ∀ t, c.Written t → Config.ofText .json (String.ofList (Json.print t)) = .ok c :=
  ⟨Config.ofText_of_written c.written_toTree, c.written_toTree,
    fun _ => Config.ofText_of_written⟩

def sparseFunction : FunctionTemplate where
  name := "same"
  typeParameters := [⟨"T", ["half", "µ\n"]⟩]
  combination := .all
  returns := ⟨none, "T", false, true⟩
  parameters := []

def sparseConfig : Config where
  linkageName := none
  includes := []
  suffixes := ⟨⟨[("bool", "\"b\""), ("half", "\\")], by decide⟩⟩
  functions := [sparseFunction]

/-- The sparse function without the fields that say nothing, and in another order. -/
def sparseFunctionTree : Tree :=
  .table [("return", .table [("pointer", .boolean true), ("type", .text "T")]),
    ("templates", .array [.table [("types", .array [.text "half", .text "µ\n"]),
      ("name", .text "T")]]),
    ("name", .text "same")]

def sparseTree : Tree :=
  .table [("functions", .array [sparseFunctionTree]),
    ("suffix-mapping", .table [("half", .text "\\"), ("bool", .text "\"b\"")])]

theorem sparseFunction_written : sparseFunction.Written sparseFunctionTree := by
  have returns : Argument.Written ⟨none, "T", false, true⟩
      (.table [("pointer", .boolean true), ("type", .text "T")]) :=
    .table (by simp) (by simp [Argument.forms]) (by simp [Argument.forms])
  have parameter : TypeParameter.Written ⟨"T", ["half", "µ\n"]⟩
      (.table [("types", .array [.text "half", .text "µ\n"]), ("name", .text "T")]) := by
    refine .table (by simp) ?_ (by simp [TypeParameter.forms])
    have types := Tree.writesTexts_map ["half", "µ\n"]
    simpa [TypeParameter.forms] using types
  refine .table (by simp) ?_ (by simp [FunctionTemplate.forms, sparseFunction])
  have templates := Tree.WritesList.array (.cons parameter .nil)
  simpa [FunctionTemplate.forms, sparseFunction, returns] using templates

theorem sparseConfig_is_read_back : sparseConfig.Written sparseTree ∧
    Config.ofText .json (String.ofList (Json.print sparseTree)) = .ok sparseConfig := by
  have suffixes : sparseConfig.suffixes.Written
      (.table [("half", .text "\\"), ("bool", .text "\"b\"")]) :=
    ⟨[("half", "\\"), ("bool", "\"b\"")], .swap _ _ _, rfl⟩
  have functions : (Tree.array [sparseFunctionTree]).WritesList FunctionTemplate.Written
      sparseConfig.functions := .array (.cons sparseFunction_written .nil)
  have written : sparseConfig.Written sparseTree := by
    refine .table (by simp) ?_ (by simp [Config.forms, sparseConfig])
    simp [Config.forms, functions, suffixes]
  exact ⟨written, (written_config_is_read_back sparseConfig).2.2 sparseTree written⟩

end TemplateExport
