import TemplateExport.Config.Rules
import TemplateExport.Config.File
import TemplateExport.Proofs.Meanings
import TemplateExport.Proofs.TomlDocuments
import TemplateExport.Sources

namespace TemplateExport

/-- A text whose document shows the value. -/
def Json.TextOf (text : String) (t : Tree) : Prop :=
  ∃ d : Document, d.Shows t ∧ IsDocument text d

/-- A text within the limits of the reader whose document shows the value. -/
def Toml.TextOf (text : String) (t : Tree) : Prop :=
  ∃ d : Document, d.Shows t ∧ document? text = some d

theorem Json.textOf_print (t : Tree) : TextOf (String.ofList (print t)) t := by
  obtain ⟨d, holds, whole⟩ := document_print t
  exact ⟨d, Document.shows_of_holds t holds, whole⟩

theorem Toml.textOf_print {entries : List (String × Tree)} (plain : (Tree.table entries).Plain)
    (within : ∀ e ∈ entries, e.2.nesting ≤ depthLimit) :
    TextOf (String.ofList (printDocument entries)) (.table entries) :=
  document?_print plain within

namespace Config

theorem eq_ok_of_toOption {ε α : Type} {x : Except ε α} {a : α} (h : x.toOption = some a) :
    x = .ok a := by
  cases x with
  | ok b => exact congrArg Except.ok (Option.some.inj h)
  | error p => cases h

theorem toOption_mapError {ε ε' α : Type} (f : ε → ε') (x : Except ε α) :
    (x.mapError f).toOption = x.toOption := by
  cases x <;> rfl

variable {t : Tree} {text : String}

theorem ofText_json (plain : t.Plain) (placed : Placed t) (h : Json.TextOf text t) :
    (ofText .json text).toOption = ofTree? t := by
  obtain ⟨d, shown, whole⟩ := h
  rw [ofText, Format.read, toOption_mapError, Json.read_of_document _ whole]
  exact read_gives .json plain placed d shown

theorem ofText_toml (plain : t.Plain) (placed : Placed t) (h : Toml.TextOf text t) :
    (ofText .toml text).toOption = ofTree? t := by
  obtain ⟨d, shown, whole⟩ := h
  rw [ofText, Format.read, toOption_mapError, Toml.read, whole]
  exact read_gives .toml plain placed d shown

/-- Either both texts give one configuration, or neither gives any. -/
inductive ReadAlike (json toml : String) : Prop where
  | same (c : Config) (left : ofText .json json = .ok c) (right : ofText .toml toml = .ok c)
  | neither (p q : Problem) (left : ofText .json json = .error p)
      (right : ofText .toml toml = .error q)

theorem readAlike_of_toOption_eq {json toml : String}
    (h : (ofText .json json).toOption = (ofText .toml toml).toOption) : ReadAlike json toml := by
  cases left : ofText .json json with
  | ok c =>
    cases right : ofText .toml toml with
    | ok c' =>
      rw [left, right] at h
      cases h
      exact .same c left right
    | error q => simp [left, right, Except.toOption] at h
  | error p =>
    cases right : ofText .toml toml with
    | ok c' => simp [left, right, Except.toOption] at h
    | error q => exact .neither p q left right

end Config

/-- Texts of one tree in the two notations are read alike, as what the tree stands for. Every tree
has a text in the first notation, and in the second one if no value is deeper than its reader
follows. -/
theorem notations_are_read_alike {entries : List (String × Tree)}
    (plain : (Tree.table entries).Plain) (placed : Config.Placed (.table entries)) :
    Json.TextOf (String.ofList (Json.print (.table entries))) (.table entries) ∧
    ((∀ e ∈ entries, e.2.nesting ≤ Toml.depthLimit) →
      Toml.TextOf (String.ofList (Toml.printDocument entries)) (.table entries)) ∧
    ∀ json toml, Json.TextOf json (.table entries) → Toml.TextOf toml (.table entries) →
      Config.ReadAlike json toml ∧
      (Config.ofText .json json).toOption = Config.ofTree? (.table entries) ∧
      ∀ c c', Config.ofText .json json = .ok c → Config.ofText .toml toml = .ok c' →
        c.validate = c'.validate ∧ c.exportedSymbols = c'.exportedSymbols ∧
          c.render = c'.render := by
  refine ⟨Json.textOf_print _, Toml.textOf_print plain, ?_⟩
  intro json toml json_text toml_text
  have same := (Config.ofText_json plain placed json_text).trans
    (Config.ofText_toml plain placed toml_text).symm
  refine ⟨Config.readAlike_of_toOption_eq same, Config.ofText_json plain placed json_text, ?_⟩
  intro c c' left right
  rw [left, right] at same
  cases same
  exact ⟨rfl, rfl, rfl⟩

/-- A function template with an entry that says nothing to the reader. -/
def shuffledFunction : Tree :=
  .table [("return", .table [("type", .text "T")]), ("since", .boolean true),
    ("name", .text "same"), ("combination", .text "fixed"),
    ("templates", .array [.table [("types", .array [.text "half", .text "µ\n"]),
      ("name", .text "T")]])]

def shuffledEntries : List (String × Tree) :=
  [("notes", .array [.array [.text "draft"], .table []]), ("functions", .array [shuffledFunction]),
    ("suffix-mapping", .table [("half", .text "h"), ("bool", .text "b8")])]

def shuffledConfig : Config where
  linkageName := none
  includes := []
  suffixes := ⟨⟨[("bool", "b8"), ("half", "h")], by decide⟩⟩
  functions :=
    [{ name := "same"
       typeParameters := [⟨"T", ["half", "µ\n"]⟩]
       combination := .fixed
       returns := ⟨none, "T", false, false⟩
       parameters := [] }]

theorem shuffledEntries_plain : (Tree.table shuffledEntries).Plain := by
  simp [shuffledEntries, shuffledFunction]

theorem shuffledEntries_placed : Config.Placed (.table shuffledEntries) := by
  have function : FunctionTemplate.Placed shuffledFunction := by
    constructor <;> simp [shuffledFunction]
  constructor <;> simp [shuffledEntries, function]

theorem shuffledEntries_are_read_alike :
    (Tree.table shuffledEntries).Plain ∧ Config.Placed (.table shuffledEntries) ∧
    (∀ e ∈ shuffledEntries, e.2.nesting ≤ Toml.depthLimit) ∧
    Config.ofText .json (String.ofList (Json.print (.table shuffledEntries))) =
      .ok shuffledConfig ∧
    Config.ofText .toml (String.ofList (Toml.printDocument shuffledEntries)) =
      .ok shuffledConfig := by
  have shallow : ∀ e ∈ shuffledEntries, e.2.nesting ≤ Toml.depthLimit := by decide
  obtain ⟨json, toml, alike⟩ :=
    notations_are_read_alike shuffledEntries_plain shuffledEntries_placed
  obtain ⟨same, meant, _⟩ := alike _ _ json (toml shallow)
  have read : Config.ofText .json _ = .ok shuffledConfig := Config.eq_ok_of_toOption meant
  refine ⟨shuffledEntries_plain, shuffledEntries_placed, shallow, read, ?_⟩
  rcases same with ⟨c, left, right⟩ | ⟨p, q, left, right⟩
  · cases left.symm.trans read
    exact right
  · cases left.symm.trans read

/-- `n` arrays around an empty one. -/
def Tree.brackets : Nat → Tree
  | 0 => .array []
  | n + 1 => .array [brackets n]

theorem Tree.plain_brackets (n : Nat) : (brackets n).Plain := by
  induction n with
  | zero => simp [brackets]
  | succ n ih => simp [brackets, ih]

theorem Toml.print_brackets (n : Nat) : ∃ rest,
    print (.brackets n) = List.replicate (n + 1) '[' ++ rest := by
  induction n with
  | zero => exact ⟨_, rfl⟩
  | succ n ih =>
    obtain ⟨rest, inner⟩ := ih
    refine ⟨rest ++ [']'], ?_⟩
    rw [Tree.brackets, print, printItems, inner, List.replicate_succ (n := n + 1),
      List.append_assoc]
    rfl

/-- A value that nobody asks for is followed to a limit in one notation only. -/
theorem deep_value_is_read_in_one_notation :
    let entries := [("x", Tree.brackets Toml.depthLimit)]
    (Tree.table entries).Plain ∧ Config.Placed (.table entries) ∧
    Config.ofText .json (String.ofList (Json.print (.table entries))) =
      .ok ⟨none, [], ⟨.empty⟩, []⟩ ∧
    Config.ofText .toml (String.ofList (Toml.printDocument entries)) =
      .error (.unreadable .toml (.malformed .illFormed)) := by
  intro entries
  have plain : (Tree.table entries).Plain := by simp [entries, Tree.plain_brackets]
  have placed : Config.Placed (.table entries) := by constructor <;> simp [entries]
  have meant := Config.ofText_json plain placed (Json.textOf_print _)
  change _ = some (⟨none, [], ⟨.empty⟩, []⟩ : Config) at meant
  refine ⟨plain, placed, ?_, ?_⟩
  · exact Config.eq_ok_of_toOption meant
  · obtain ⟨rest, printed⟩ := Toml.print_brackets Toml.depthLimit
    have failed := Toml.document?_too_deep "x" (rest ++ ['\n'])
    have whole : Toml.printDocument entries = Toml.printText "x" ++
        '=' :: (List.replicate (Toml.depthLimit + 1) '[' ++ (rest ++ ['\n'])) := by
      rw [Toml.printDocument_cons, printed, List.append_assoc]
      rfl
    rw [whole, Config.ofText, Format.read, Toml.read, failed]
    rfl

end TemplateExport
