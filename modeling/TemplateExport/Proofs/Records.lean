import Mathlib.Data.List.Forall2
import TemplateExport.Document.Record
import TemplateExport.Proofs.JsonDocuments
import TemplateExport.TextTable

namespace TemplateExport

/-- One field of a record in a document: its key, the values that write it, and whether the field
may be left out. -/
structure FieldForm where
  key : String
  writes : Tree → Prop
  optional : Prop

/-- A table writes a record: it has no key twice, every entry writes the field under its key, and
only optional fields are left out. The order of the entries is free. -/
inductive Tree.Writes (forms : List FieldForm) : Tree → Prop where
  | table {entries : List (String × Tree)} (once : (entries.map (·.1)).Nodup)
      (known : ∀ e ∈ entries, ∃ form ∈ forms, form.key = e.1 ∧ form.writes e.2)
      (complete : ∀ form ∈ forms, form.optional ∨ form.key ∈ entries.map (·.1)) :
      Tree.Writes forms (.table entries)

/-- An array writes a list: each item writes the value at its place. -/
inductive Tree.WritesList {α : Type} (writes : α → Tree → Prop) (values : List α) :
    Tree → Prop where
  | array {items : List Tree} (parts : List.Forall₂ writes values items) :
      Tree.WritesList writes values (.array items)

/-- The value of a field in a draft that has the fields with these keys. -/
def kept {α : Type} (keys : List String) (key : String) (a : α) : Option α :=
  if key ∈ keys then some a else none

section Draft

variable {α : Type} {keys : List String} {key : String} {a : α}

theorem kept_of_mem (h : key ∈ keys) : kept keys key a = some a :=
  if_pos h

theorem kept_of_not_mem (h : key ∉ keys) : kept keys key a = none :=
  if_neg h

theorem getD_kept {blank : α} (h : a = blank ∨ key ∈ keys) : (kept keys key a).getD blank = a := by
  rcases h with rfl | h
  · unfold kept
    split <;> rfl
  · rw [kept_of_mem h, Option.getD_some]

end Draft

variable {σ α : Type}

/-- A field takes a value: it is put beside the fields that the draft has, unless the draft has
the field already. -/
def Field.Takes (field : Field σ) (keep : List String → σ) (value : Tree) : Prop :=
  ∀ keys, field.key ∉ keys → field.isSet (keep keys) = false ∧
    ∀ d : Document, d.Holds value → field.read d (keep keys) = .ok (keep (field.key :: keys))

theorem Field.of_takes {key : String} {get : σ → Option α} {set : α → σ → σ}
    {read : Document → Reading α} {keep : List String → σ} {value : Tree} {a : α}
    (gets : ∀ keys, get (keep keys) = kept keys key a)
    (sets : ∀ keys, set a (keep keys) = keep (key :: keys))
    (reads : ∀ d : Document, d.Holds value → read d = .ok a) :
    (Field.of key get set read).Takes keep value := by
  intro keys fresh
  constructor
  · have unset : get (keep keys) = none := (gets keys).trans (kept_of_not_mem fresh)
    simp [Field.of, unset]
  · intro d holds
    change (read d >>= fun v => pure (set v (keep keys))) = _
    rw [reads d holds]
    exact congrArg Except.ok (sets keys)

/-- The fields of a reader are the fields of a form, and each takes all that its form writes. -/
structure Reads (fields : List (Field σ)) (keep : List String → σ) (forms : List FieldForm) :
    Prop where
  distinct : (fields.map (·.key)).Nodup
  matching : List.Forall₂ (fun field form => field.key = form.key ∧
    ∀ value, form.writes value → field.Takes keep value) fields forms

theorem find?_key_eq_some {fields : List (Field σ)} (distinct : (fields.map (·.key)).Nodup)
    {field : Field σ} (mem : field ∈ fields) :
    fields.find? (·.key == field.key) = some field := by
  induction fields with
  | nil => cases mem
  | cons first rest ih =>
    rw [List.map_cons, List.nodup_cons] at distinct
    rcases List.mem_cons.mp mem with rfl | later
    · simp
    · have ne : first.key ≠ field.key := by
        intro same
        exact distinct.1 (same ▸ List.mem_map_of_mem later)
      simp [ne, ih distinct.2 later]

theorem exists_left_of_forall₂ {β : Type} {R : α → β → Prop} {as : List α} {bs : List β} {b : β}
    (h : List.Forall₂ R as bs) (mem : b ∈ bs) : ∃ a ∈ as, R a b := by
  induction h with
  | nil => cases mem
  | cons head _ ih =>
    rcases List.mem_cons.mp mem with rfl | later
    · exact ⟨_, List.mem_cons_self, head⟩
    · obtain ⟨a, there, related⟩ := ih later
      exact ⟨a, List.mem_cons_of_mem _ there, related⟩

namespace Document

theorem readKey_of_holds {key : Key} {s : String} (h : key.Holds s) :
    ∃ places, readKey key = .ok (s, places) := by
  cases h with
  | text => exact ⟨_, rfl⟩

theorem readEntries_cons_of_field {fields : List (Field σ)} {field : Field σ} {draft : σ}
    {key : Key} {name : String} {value : Document} (named : key.Holds name)
    (found : fields.find? (·.key == name) = some field) (unset : field.isSet draft = false)
    (rest : List (Key × Document)) :
    readEntries fields draft ((key, value) :: rest) =
      field.read value draft >>= fun draft => readEntries fields draft rest := by
  obtain ⟨places, read⟩ := readKey_of_holds named
  rw [readEntries, read]
  simp only [bind, Except.bind, found, unset, Bool.false_eq_true, ↓reduceIte]

theorem readEntries_of_taken {fields : List (Field σ)} {keep : List String → σ}
    {entries : List (Key × Document)} {pairs : List (String × Tree)} (keys : List String)
    (names : List.Forall₂ Key.Holds (entries.map (·.1)) (pairs.map (·.1)))
    (values : List.Forall₂ Holds (entries.map (·.2)) (pairs.map (·.2)))
    (once : (pairs.map (·.1)).Nodup) (fresh : ∀ key ∈ pairs.map (·.1), key ∉ keys)
    (taken : ∀ e ∈ pairs, ∃ field, fields.find? (·.key == e.1) = some field ∧ field.key = e.1 ∧
      field.Takes keep e.2) :
    readEntries fields (keep keys) entries = .ok (keep ((pairs.map (·.1)).reverse ++ keys)) := by
  -- `keys` are the keys read before, so it is general: each entry puts its own in front of them.
  induction pairs generalizing entries keys with
  | nil =>
    have none : entries = [] := by simpa using values
    simp [none, readEntries]
  | cons pair rest ih =>
    cases entries with
    | nil => simp at values
    | cons entry others =>
      simp only [List.map_cons, List.forall₂_cons, List.nodup_cons] at names values once
      obtain ⟨field, found, key_eq, takes⟩ := taken pair List.mem_cons_self
      have unread := fresh pair.1 List.mem_cons_self
      obtain ⟨unset, read⟩ := takes keys (key_eq ▸ unread)
      have later : ∀ key ∈ rest.map (·.1), key ∉ pair.1 :: keys := by
        intro key hkey again
        rcases List.mem_cons.mp again with rfl | again
        · exact once.1 hkey
        · exact fresh key (List.mem_cons_of_mem _ hkey) again
      have step := ih (pair.1 :: keys) names.2 values.2 once.2 later fun e he =>
        taken e (List.mem_cons_of_mem _ he)
      rw [readEntries_cons_of_field names.1 found unset, read entry.2 values.1, key_eq]
      change readEntries fields (keep (pair.1 :: keys)) others = _
      rw [step]
      simp

/-- A record is read from any table that writes it. What is left out stays unset. -/
theorem readRecord_of_writes {fields : List (Field σ)} {keep : List String → σ}
    {forms : List FieldForm} (reads : Reads fields keep forms) (format : Format) (name : String)
    (finish : RecordEnd → σ → Reading α) {t : Tree} (written : t.Writes forms) {d : Document}
    (holds : d.Holds t) :
    ∃ stop keys, (∀ form ∈ forms, form.optional ∨ form.key ∈ keys) ∧
      readRecord format name fields (keep []) finish d = finish (.table stop) (keep keys) := by
  rcases written with @⟨pairs, once, known, complete⟩
  rcases holds with _ | _ | _ | _ | @⟨entries, _, start, stop, names, values⟩
  have taken : ∀ e ∈ pairs, ∃ field, fields.find? (·.key == e.1) = some field ∧
      field.key = e.1 ∧ field.Takes keep e.2 := by
    intro e he
    obtain ⟨form, hform, same, writes⟩ := known e he
    obtain ⟨field, hfield, key_eq, takes⟩ := exists_left_of_forall₂ reads.matching hform
    have key_eq : field.key = e.1 := key_eq.trans same
    exact ⟨field, key_eq ▸ find?_key_eq_some reads.distinct hfield, key_eq, takes _ writes⟩
  have read := readEntries_of_taken [] names values once (by simp) taken
  refine ⟨stop, (pairs.map (·.1)).reverse ++ [], ?_, ?_⟩
  · simpa using complete
  · simp only [readRecord, entries?, read, closing, bind, Except.bind]

theorem readText_of_holds {d : Document} {s : String} (h : d.Holds (.text s)) :
    d.readText = .ok s := by
  cases h
  rfl

theorem readOptionalText_of_holds {d : Document} {s : Option String}
    (h : d.Holds ((s.map .text).getD .null)) : d.readOptionalText = .ok s := by
  cases s <;> cases h <;> rfl

theorem readBoolean_of_holds {d : Document} {b : Bool} (h : d.Holds (.boolean b)) :
    d.readBoolean = .ok b := by
  cases h
  rfl

theorem readEach_of_writes {read : Document → Reading α} {writes : α → Tree → Prop}
    (reads : ∀ {a t}, writes a t → ∀ {d : Document}, d.Holds t → read d = .ok a) {values : List α}
    {trees : List Tree} {items : List Document} (written : List.Forall₂ writes values trees)
    (parts : List.Forall₂ Holds items trees) : items.mapM read = .ok values := by
  induction written generalizing items with
  | nil =>
    cases parts
    rfl
  | cons head _ ih =>
    cases parts with
    | cons first rest =>
      rw [List.mapM_cons, reads head first, ih rest]
      rfl

theorem readList_of_writes {read : Document → Reading α} {writes : α → Tree → Prop}
    (reads : ∀ {a t}, writes a t → ∀ {d : Document}, d.Holds t → read d = .ok a) {values : List α}
    {t : Tree} (written : t.WritesList writes values) {d : Document} (holds : d.Holds t) :
    readList read d = .ok values := by
  rcases written with ⟨written⟩
  rcases holds with _ | _ | _ | ⟨start, stop, parts⟩
  simp only [readList, readEach_of_writes reads written parts]
  rfl

theorem readTexts_of_holds {texts : List (String × String)} {d : Document}
    (h : d.Holds (.table (texts.map fun e => (e.1, .text e.2)))) : readTexts d = .ok texts := by
  rcases h with _ | _ | _ | _ | @⟨entries, _, start, stop, names, values⟩
  simp only [List.map_map, Function.comp_def] at names values
  have each : (entries.mapM fun entry => do
      let key ← readKey entry.1
      return (key.1, ← entry.2.readText)) = (.ok texts : Reading _) := by
    induction texts generalizing entries with
    | nil =>
      have none : entries = [] := by simpa using values
      rw [none]
      rfl
    | cons text rest ih =>
      cases entries with
      | nil => simp at values
      | cons entry others =>
        simp only [List.map_cons, List.forall₂_cons] at names values
        obtain ⟨places, key_read⟩ := readKey_of_holds names.1
        rw [List.mapM_cons, key_read, readText_of_holds values.1, ih names.2 values.2]
        rfl
  change ((entries.mapM fun entry => do
      let key ← readKey entry.1
      return (key.1, ← entry.2.readText)) >>= fun texts =>
    closing (.ok stop) >>= fun _ => pure texts) = _
  rw [each]
  rfl

end Document

namespace TextTable

theorem perm_insertEntry {key value : String} {entries : List (String × String)}
    (fresh : ∀ e ∈ entries, e.1 ≠ key) :
    (insertEntry key value entries).Perm ((key, value) :: entries) := by
  induction entries with
  | nil => exact .refl _
  | cons entry rest ih =>
    have ne : key ≠ entry.1 := fun same => fresh entry List.mem_cons_self same.symm
    have later := ih fun e he => fresh e (List.mem_cons_of_mem _ he)
    rw [insertEntry, if_neg ne]
    split
    · exact .refl _
    · exact (later.cons entry).trans (.swap _ _ _)

theorem perm_foldl_insert {entries : List (String × String)} (t : TextTable)
    (once : (entries.map (·.1)).Nodup)
    (fresh : ∀ e ∈ t.entries, e.1 ∉ entries.map (·.1)) :
    (entries.foldl (fun t e => t.insert e.1 e.2) t).entries.Perm (entries ++ t.entries) := by
  induction entries generalizing t with
  | nil => exact .refl _
  | cons entry rest ih =>
    rw [List.map_cons, List.nodup_cons] at once
    have inserted : (t.insert entry.1 entry.2).entries.Perm (entry :: t.entries) :=
      perm_insertEntry fun e he same => fresh e he (same ▸ List.mem_cons_self)
    have later : ∀ e ∈ (t.insert entry.1 entry.2).entries, e.1 ∉ rest.map (·.1) := by
      intro e he again
      rcases List.mem_cons.mp (inserted.subset he) with rfl | he
      · exact once.1 again
      · exact fresh e he (List.mem_cons_of_mem _ again)
    exact (ih _ once.2 later).trans ((inserted.append_left rest).trans List.perm_middle)

theorem keys_nodup (t : TextTable) : t.keys.Nodup := by
  rw [keys, List.Nodup, List.pairwise_map]
  refine t.sorted.imp ?_
  intro a b lt same
  exact String.lt_irrefl _ (same ▸ lt)

theorem perm_ofList {entries : List (String × String)} (once : (entries.map (·.1)).Nodup) :
    (ofList entries).entries.Perm entries := by
  have built := perm_foldl_insert empty once (by simp [empty])
  rwa [show empty.entries = [] from rfl, List.append_nil] at built

/-- A table is built from its entries in any order. -/
theorem ofList_eq_of_perm {t : TextTable} {entries : List (String × String)}
    (h : entries.Perm t.entries) : ofList entries = t := by
  have once : (entries.map (·.1)).Nodup := (h.map _).nodup_iff.mpr t.keys_nodup
  have built : (ofList entries).entries.Perm t.entries := (perm_ofList once).trans h
  have same : (ofList entries).entries = t.entries :=
    built.eq_of_pairwise (fun a b _ _ lt gt => absurd gt (String.lt_asymm lt))
      (ofList entries).sorted t.sorted
  cases t
  cases hs : ofList entries
  simp_all

theorem ofList_perm {entries others : List (String × String)} (h : entries.Perm others)
    (once : (others.map (·.1)).Nodup) : ofList entries = ofList others :=
  ofList_eq_of_perm (h.trans (perm_ofList once).symm)

end TextTable

end TemplateExport
