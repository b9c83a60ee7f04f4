import Mathlib.Data.List.Perm.Basic
import TemplateExport.Proofs.Records

namespace TemplateExport

namespace Tree

variable {α : Type}

def text? : Tree → Option String
  | .text s => some s
  | _ => none

/-- A text that may be absent, which a null says. -/
def optionalText? : Tree → Option (Option String)
  | .null => some none
  | t => some <$> t.text?

def boolean? : Tree → Option Bool
  | .boolean b => some b
  | _ => none

def list? (value? : Tree → Option α) : Tree → Option (List α)
  | .array items => items.mapM value?
  | _ => none

def texts? : Tree → Option TextTable
  | .table entries =>
    TextTable.ofList <$> entries.mapM fun (key, value) => (key, ·) <$> value.text?
  | _ => none

def entries? : Tree → Option (List (String × Tree))
  | .table entries => some entries
  | _ => none

/-- What stands under a key: nothing, or a value. A wrong value is a failure. -/
def under? (entries : List (String × Tree)) (key : String) (value? : Tree → Option α) :
    Option (Option α) :=
  match entries.lookup key with
  | none => some none
  | some t => some <$> value? t

/-- A tree without nulls in which no table has a key twice. -/
inductive Plain : Tree → Prop where
  | boolean (b : Bool) : Plain (.boolean b)
  | text (s : String) : Plain (.text s)
  | array {items : List Tree} (parts : ∀ item ∈ items, Plain item) : Plain (.array items)
  | table {entries : List (String × Tree)} (once : (entries.map (·.1)).Nodup)
      (parts : ∀ e ∈ entries, Plain e.2) : Plain (.table entries)

def IsArray (t : Tree) : Prop :=
  ∃ items, t = .array items

def IsTable (t : Tree) : Prop :=
  ∃ entries, t = .table entries

/-- Every item of an array has a property. -/
def Each (P : Tree → Prop) (t : Tree) : Prop :=
  ∀ items, t = .array items → ∀ item ∈ items, P item

/-- What stands under a key of a table has a property. -/
def Under (key : String) (P : Tree → Prop) (t : Tree) : Prop :=
  ∀ entries, t = .table entries → ∀ value, (key, value) ∈ entries → P value

@[simp] theorem plain_boolean (b : Bool) : (boolean b).Plain := .boolean b

@[simp] theorem plain_text (s : String) : (text s).Plain := .text s

@[simp] theorem plain_array {items : List Tree} :
    (array items).Plain ↔ ∀ item ∈ items, item.Plain :=
  ⟨fun | .array parts => parts, .array⟩

@[simp] theorem plain_table {entries : List (String × Tree)} :
    (table entries).Plain ↔ (entries.map (·.1)).Nodup ∧ ∀ e ∈ entries, e.2.Plain :=
  ⟨fun | .table once parts => ⟨once, parts⟩, fun h => .table h.1 h.2⟩

@[simp] theorem isArray_array (items : List Tree) : (array items).IsArray := ⟨items, rfl⟩

@[simp] theorem not_isArray_text (s : String) : ¬ (text s).IsArray := nofun

@[simp] theorem not_isArray_table (entries : List (String × Tree)) : ¬ (table entries).IsArray :=
  nofun

@[simp] theorem not_isTable_text (s : String) : ¬ (text s).IsTable := nofun

@[simp] theorem each_array {P : Tree → Prop} {items : List Tree} :
    (array items).Each P ↔ ∀ item ∈ items, P item :=
  ⟨fun h => h items rfl, fun h _ same => array.inj same ▸ h⟩

@[simp] theorem under_table {key : String} {P : Tree → Prop} {entries : List (String × Tree)} :
    (table entries).Under key P ↔ ∀ value, (key, value) ∈ entries → P value :=
  ⟨fun h => h entries rfl, fun h _ same => table.inj same ▸ h⟩

theorem Plain.each {t : Tree} (h : t.Plain) : t.Each Plain := by
  rintro items rfl
  exact plain_array.mp h

theorem Plain.under {t : Tree} (h : t.Plain) (key : String) : t.Under key Plain := by
  rintro entries rfl value there
  exact (plain_table.mp h).2 _ there

end Tree

/-- A document without any fault that has the given value, with the entries of its tables in any
order. -/
inductive Document.Shows : Document → Tree → Prop where
  | null (stop : Position) : Shows (.scalar .null stop) .null
  | boolean (b : Bool) (stop : Position) : Shows (.scalar (.boolean b) stop) (.boolean b)
  | text (s : String) (stop : Position) : Shows (.scalar (.text s) stop) (.text s)
  | array {items : List Document} {trees : List Tree} (start stop : Position)
      (parts : List.Forall₂ Shows items trees) :
      Shows (.array start items (.ok stop)) (.array trees)
  | table {entries : List (Key × Document)} {listed pairs : List (String × Tree)}
      (start stop : Position) (order : listed.Perm pairs)
      (keys : List.Forall₂ Key.Holds (entries.map (·.1)) (listed.map (·.1)))
      (values : List.Forall₂ Shows (entries.map (·.2)) (listed.map (·.2))) :
      Shows (.table start entries (.ok stop)) (.table pairs)

namespace Document

mutual

theorem shows_of_holds : (t : Tree) → {d : Document} → d.Holds t → d.Shows t
  | .null, _, .null stop => .null stop
  | .boolean b, _, .boolean _ stop => .boolean b stop
  | .text s, _, .text _ stop => .text s stop
  | .array trees, _, .array start stop parts => .array start stop (shows_items trees parts)
  | .table pairs, _, .table start stop keys values =>
    .table start stop (.refl _) keys (shows_values pairs values)

theorem shows_items : (trees : List Tree) → {items : List Document} →
    List.Forall₂ Holds items trees → List.Forall₂ Shows items trees
  | [], _, .nil => .nil
  | t :: trees, _, .cons first rest => .cons (shows_of_holds t first) (shows_items trees rest)

theorem shows_values : (pairs : List (String × Tree)) → {values : List Document} →
    List.Forall₂ Holds values (pairs.map (·.2)) → List.Forall₂ Shows values (pairs.map (·.2))
  | [], _, .nil => .nil
  | (_, t) :: pairs, _, .cons first rest =>
    .cons (shows_of_holds t first) (shows_values pairs rest)

end

mutual

/-- Nothing is wrong with a value that nobody asked for. -/
theorem skip_of_shows : (d : Document) → {t : Tree} → d.Shows t → d.skip = .ok ()
  | .scalar _ _, _, _ => rfl
  | .array _ items _, _, .array _ _ parts => by
    rw [skip, skipItems_of_shows items parts]
    rfl
  | .table _ entries _, _, .table _ _ _ keys values => by
    rw [skip, skipEntries_of_shows entries keys values]
    rfl

theorem skipItems_of_shows : (items : List Document) → {trees : List Tree} →
    List.Forall₂ Shows items trees → skipItems items = .ok ()
  | [], _, _ => rfl
  | item :: rest, _, .cons first others => by
    rw [skipItems, skip_of_shows item first, skipItems_of_shows rest others]
    rfl

theorem skipEntries_of_shows : (entries : List (Key × Document)) → {names : List String} →
    {trees : List Tree} → List.Forall₂ Key.Holds (entries.map (·.1)) names →
    List.Forall₂ Shows (entries.map (·.2)) trees → skipEntries entries = .ok ()
  | [], _, _, _, _ => rfl
  | (_, value) :: rest, _, _, .cons (.text ..) keys, .cons first others => by
    rw [skipEntries, skip_of_shows value first, skipEntries_of_shows rest keys others]
    rfl

end

/-- A reader gives what a tree stands for, from every document that shows the tree. -/
def Gives {α : Type} (read : Document → Reading α) (value? : Tree → Option α) (t : Tree) : Prop :=
  ∀ d : Document, d.Shows t → (read d).toOption = value? t

variable {α β : Type}

theorem toOption_bind (x : Reading α) (f : α → Reading β) :
    (x >>= f).toOption = x.toOption.bind fun a => (f a).toOption := by
  cases x <;> rfl

theorem toOption_map (x : Reading α) (f : α → β) :
    (f <$> x).toOption = f <$> x.toOption := by
  cases x <;> rfl

theorem readText_gives (t : Tree) : Gives readText Tree.text? t := by
  rintro _ (_ | _ | _ | _ | _) <;> rfl

theorem readOptionalText_gives (t : Tree) : Gives readOptionalText Tree.optionalText? t := by
  rintro _ (_ | _ | _ | _ | _) <;> rfl

theorem readBoolean_gives (t : Tree) : Gives readBoolean Tree.boolean? t := by
  rintro _ (_ | _ | _ | _ | _) <;> rfl

theorem readEach_gives {γ : Type} {R : β → γ → Prop} {read : β → Reading α}
    {value? : γ → Option α} {parts : List β} {wholes : List γ}
    (related : List.Forall₂ R parts wholes)
    (gives : ∀ b, ∀ c ∈ wholes, R b c → (read b).toOption = value? c) :
    (parts.mapM read).toOption = wholes.mapM value? := by
  induction related with
  | nil => rfl
  | cons first _ ih =>
    have later := ih fun b c there => gives b c (List.mem_cons_of_mem _ there)
    simp only [List.mapM_cons, toOption_bind, gives _ _ List.mem_cons_self first, later]
    rfl

theorem readList_gives {read : Document → Reading α} {value? : Tree → Option α} {t : Tree}
    (gives : t.Each (Gives read value?)) : Gives (readList read) (Tree.list? value?) t := by
  rintro _ (_ | _ | _ | ⟨start, stop, parts⟩ | _)
  case array =>
    rw [readList, toOption_bind, readEach_gives parts fun d t there => gives _ rfl t there d]
    exact Option.bind_fun_some _
  all_goals rfl

/-- An entry of a table that shows its key and its value. -/
def ShowsEntry (entry : Key × Document) (pair : String × Tree) : Prop :=
  entry.1.Holds pair.1 ∧ entry.2.Shows pair.2

theorem showsEntry_of_columns {entries : List (Key × Document)} {pairs : List (String × Tree)}
    (keys : List.Forall₂ Key.Holds (entries.map (·.1)) (pairs.map (·.1)))
    (values : List.Forall₂ Shows (entries.map (·.2)) (pairs.map (·.2))) :
    List.Forall₂ ShowsEntry entries pairs := by
  rw [List.forall₂_map_left_iff, List.forall₂_map_right_iff] at keys values
  induction keys with
  | nil => exact .nil
  | cons key _ ih =>
    cases values with
    | cons value others => exact .cons ⟨key, value⟩ (ih others)

theorem map_eq_of_forall₂ {γ : Type} {f : α → γ} {g : β → γ} {as : List α} {bs : List β}
    (h : List.Forall₂ (fun a b => f a = g b) as bs) : as.map f = bs.map g := by
  rwa [← List.forall₂_eq_eq_eq, List.forall₂_map_left_iff, List.forall₂_map_right_iff]

theorem mapM_eq_some_iff {f : α → Option β} {as : List α} {bs : List β} :
    as.mapM f = some bs ↔ List.Forall₂ (fun a b => f a = some b) as bs := by
  induction as generalizing bs with
  | nil => cases bs <;> simp
  | cons a as ih => cases bs <;> simp [List.mapM_cons, Option.bind_eq_some_iff, ih]

/-- The order of texts under keys does not matter. -/
theorem texts?_of_perm {listed pairs : List (String × Tree)} (order : listed.Perm pairs)
    (once : (pairs.map (·.1)).Nodup) {table : TextTable}
    (h : Tree.texts? (.table listed) = some table) :
    Tree.texts? (.table pairs) = some table := by
  obtain ⟨texts, taken, rfl⟩ := Option.map_eq_some_iff.mp h
  obtain ⟨others, there, same⟩ :=
    List.perm_comp_forall₂ order.symm (mapM_eq_some_iff.mp taken)
  have keys : pairs.map (·.1) = others.map (·.1) := by
    refine map_eq_of_forall₂ (there.imp fun pair text h => ?_)
    obtain ⟨s, _, rfl⟩ := Option.map_eq_some_iff.mp h
    rfl
  have alike : TextTable.ofList texts = TextTable.ofList others :=
    TextTable.ofList_perm same.symm (keys ▸ once)
  exact Option.map_eq_some_iff.mpr ⟨others, mapM_eq_some_iff.mpr there, alike.symm⟩

theorem readPair_gives {entry : Key × Document} {pair : String × Tree}
    (shown : ShowsEntry entry pair) :
    (readKey entry.1 >>= fun key => entry.2.readText >>= fun s => pure (key.1, s) :
      Reading (String × String)).toOption = (pair.1, ·) <$> pair.2.text? := by
  obtain ⟨key, value⟩ := shown
  obtain ⟨places, named⟩ := readKey_of_holds key
  rw [named, ← readText_gives pair.2 entry.2 value]
  cases entry.2.readText <;> rfl

theorem readTexts_gives {t : Tree} (plain : t.Plain) :
    Gives (fun d => TextTable.ofList <$> readTexts d) Tree.texts? t := by
  rintro _ (_ | _ | _ | _ | @⟨entries, listed, pairs, start, stop, order, keys, values⟩)
  case table =>
    obtain ⟨once, _⟩ := Tree.plain_table.mp plain
    have listed_once : (listed.map (·.1)).Nodup := (order.map _).nodup_iff.mpr once
    have same : Tree.texts? (.table listed) = Tree.texts? (.table pairs) := by
      ext table
      exact ⟨texts?_of_perm order once, texts?_of_perm order.symm listed_once⟩
    have each := readEach_gives (showsEntry_of_columns keys values)
      fun _ _ _ shown => readPair_gives shown
    rw [← same, toOption_map, readTexts, entries?, Tree.texts?, ← each]
    simp only [toOption_bind]
    exact congrArg _ (Option.bind_fun_some _)
  all_goals rfl

end Document
end TemplateExport
