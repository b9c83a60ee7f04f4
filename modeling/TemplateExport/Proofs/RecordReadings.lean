import Mathlib.Data.List.Pairwise
import TemplateExport.Proofs.Readings

namespace TemplateExport

/-- A field of a record, and how it takes what a tree stands for. -/
structure Slot (σ : Type) where
  field : Field σ
  put : Tree → σ → Option σ

namespace Slot

variable {σ α β : Type}

/-- A slot kept as an option in a draft. -/
def of (key : String) (get : σ → Option α) (set : α → σ → σ) (read : Document → Reading α)
    (value? : Tree → Option α) : Slot σ where
  field := .of key get set read
  put t draft := (value? t).map (set · draft)

/-- Two slots can be filled in any order, and neither fills the other. -/
structure Apart (s u : Slot σ) : Prop where
  keys : s.field.key ≠ u.field.key
  swap : ∀ t v draft, (s.put t draft).bind (u.put v) = (u.put v draft).bind (s.put t)
  left : ∀ {t draft filled}, s.put t draft = some filled →
    u.field.isSet filled = u.field.isSet draft
  right : ∀ {t draft filled}, u.put t draft = some filled →
    s.field.isSet filled = s.field.isSet draft

instance : Std.Symm (α := Slot σ) Apart where
  symm _ _ h := ⟨h.keys.symm, fun t v draft => (h.swap v t draft).symm, h.right, h.left⟩

theorem of_apart {key key' : String} {get : σ → Option α} {get' : σ → Option β}
    {set : α → σ → σ} {set' : β → σ → σ} {read : Document → Reading α}
    {read' : Document → Reading β} {value? : Tree → Option α} {value'? : Tree → Option β}
    (keys : key ≠ key') (swap : ∀ a b draft, set' b (set a draft) = set a (set' b draft))
    (left : ∀ a draft, get' (set a draft) = get' draft)
    (right : ∀ b draft, get (set' b draft) = get draft) :
    (of key get set read value?).Apart (of key' get' set' read' value'?) := by
  refine ⟨keys, ?_, ?_, ?_⟩
  · intro t v draft
    cases ht : value? t <;> cases hv : value'? v <;> simp [of, ht, hv, swap]
  · intro t draft filled h
    obtain ⟨a, _, rfl⟩ := Option.map_eq_some_iff.mp h
    exact congrArg Option.isSome (left a draft)
  · intro t draft filled h
    obtain ⟨b, _, rfl⟩ := Option.map_eq_some_iff.mp h
    exact congrArg Option.isSome (right b draft)

/-- The field reads what the slot takes from a tree. -/
def Reads (s : Slot σ) (t : Tree) : Prop :=
  ∀ draft, Document.Gives (s.field.read · draft) (s.put · draft) t

theorem of_reads {key : String} {get : σ → Option α} {set : α → σ → σ}
    {read : Document → Reading α} {value? : Tree → Option α} {t : Tree}
    (gives : Document.Gives read value? t) : (of key get set read value?).Reads t := by
  intro draft d shown
  change (read d >>= fun a => pure (set a draft)).toOption = (value? t).map (set · draft)
  rw [← gives d shown]
  cases read d <;> rfl

/-- Fills a slot with what stands under its key. -/
def fill (entries : List (String × Tree)) (s : Slot σ) (draft : σ) : Option σ :=
  match entries.lookup s.field.key with
  | none => some draft
  | some t => s.put t draft

def fillAll (entries : List (String × Tree)) : List (Slot σ) → σ → Option σ
  | [], draft => some draft
  | s :: slots, draft => (s.fill entries draft).bind (fillAll entries slots)

variable {entries : List (String × Tree)} {pair : String × Tree} {s u : Slot σ}
  {slots : List (Slot σ)}

theorem fill_cons_of_ne (other : s.field.key ≠ pair.1) :
    s.fill (pair :: entries) = s.fill entries := by
  funext draft
  rw [fill, fill, List.lookup_cons, beq_eq_false_iff_ne.mpr other]

theorem fill_cons_of_eq (same : s.field.key = pair.1) :
    s.fill (pair :: entries) = s.put pair.2 := by
  funext draft
  rw [fill, List.lookup_cons, beq_iff_eq.mpr same]

theorem fill_of_absent (absent : s.field.key ∉ entries.map (·.1)) (draft : σ) :
    s.fill entries draft = some draft := by
  rw [fill, lookup_eq_none_of_not_mem absent]

theorem fill_bind_put (apart : u.Apart s) (t : Tree) (draft : σ) :
    (u.fill entries draft).bind (s.put t) = (s.put t draft).bind (u.fill entries) := by
  cases found : entries.lookup u.field.key with
  | none =>
    have skips : u.fill entries = some := by funext; rw [fill, found]
    rw [skips, Option.bind_some, Option.bind_fun_some]
  | some v =>
    have takes : u.fill entries = u.put v := by funext; rw [fill, found]
    rw [takes, apart.swap]

/-- A slot kept as an option is filled with what stands under its key, if anything does. -/
theorem of_fill {key : String} {get : σ → Option α} {set : α → σ → σ}
    {read : Document → Reading α} {value? : Tree → Option α} (draft : σ) :
    (of key get set read value?).fill entries draft =
      (Tree.under? entries key value?).map fun found => found.elim draft (set · draft) := by
  cases found : entries.lookup key with
  | none => simp [fill, Tree.under?, of, Field.of, found]
  | some t => cases taken : value? t <;> simp [fill, Tree.under?, of, Field.of, found, taken]

theorem fillAll_cons_of_unknown (unknown : ∀ s ∈ slots, s.field.key ≠ pair.1) :
    fillAll (pair :: entries) slots = fillAll entries slots := by
  induction slots with
  | nil => rfl
  | cons s slots ih =>
    obtain ⟨first, rest⟩ := List.forall_mem_cons.mp unknown
    funext draft
    rw [fillAll, fillAll, fill_cons_of_ne first, ih rest]

/-- An entry can be taken before all others. -/
theorem fillAll_cons_of_known (apart : slots.Pairwise Apart) (known : s ∈ slots)
    (same : s.field.key = pair.1) (fresh : pair.1 ∉ entries.map (·.1)) (draft : σ) :
    fillAll (pair :: entries) slots draft =
      (s.put pair.2 draft).bind (fillAll entries slots) := by
  induction slots generalizing draft with
  | nil => cases known
  | cons u slots ih =>
    obtain ⟨first, rest⟩ := List.pairwise_cons.mp apart
    rcases List.mem_cons.mp known with rfl | later
    · have unknown : ∀ v ∈ slots, v.field.key ≠ pair.1 := by
        intro v there
        exact same ▸ (first v there).keys.symm
      have passes : ∀ draft, s.fill entries draft = some draft := fill_of_absent (same ▸ fresh)
      rw [fillAll, fill_cons_of_eq same, fillAll_cons_of_unknown unknown]
      simp only [fillAll, passes, Option.bind_some]
    · have other : u.field.key ≠ pair.1 := same ▸ (first s later).keys
      have others := funext (ih rest later)
      rw [fillAll, fill_cons_of_ne other, others, ← Option.bind_assoc,
        fill_bind_put (first s later), Option.bind_assoc]
      rfl

theorem fillAll_perm {listed pairs : List (String × Tree)} (order : listed.Perm pairs)
    (once : (pairs.map (·.1)).Nodup) : fillAll listed slots = fillAll pairs slots := by
  have listed_once : (listed.map (·.1)).Nodup := (order.map _).nodup_iff.mpr once
  have lookups : ∀ key, listed.lookup key = pairs.lookup key := by
    intro key
    ext t
    rw [lookup_eq_some_iff_mem listed_once, lookup_eq_some_iff_mem once, order.mem_iff]
  induction slots with
  | nil => rfl
  | cons s slots ih =>
    funext draft
    rw [fillAll, fillAll, fill, fill, lookups, ih]

theorem fillAll_nil (draft : σ) : fillAll [] slots draft = some draft := by
  induction slots with
  | nil => rfl
  | cons s slots ih => rw [fillAll, fill_of_absent List.not_mem_nil, Option.bind_some, ih]

end Slot

namespace Document

variable {σ α : Type}

theorem readEntries_cons_of_unknown {fields : List (Field σ)} {draft : σ} {key : Key}
    {name : String} {value : Document} (named : key.Holds name)
    (absent : fields.find? (·.key == name) = none) {t : Tree} (shown : value.Shows t)
    (rest : List (Key × Document)) :
    readEntries fields draft ((key, value) :: rest) = readEntries fields draft rest := by
  obtain ⟨places, read⟩ := readKey_of_holds named
  rw [readEntries, read]
  simp only [bind, Except.bind, absent, skip_of_shows value shown]

variable {slots : List (Slot σ)}

theorem readEntries_fills (apart : slots.Pairwise Slot.Apart) {entries : List (Key × Document)}
    {pairs : List (String × Tree)} (shown : List.Forall₂ ShowsEntry entries pairs)
    (once : (pairs.map (·.1)).Nodup)
    (reads : ∀ s ∈ slots, ∀ t, (s.field.key, t) ∈ pairs → s.Reads t) {draft : σ}
    (unset : ∀ s ∈ slots, s.field.key ∈ pairs.map (·.1) → s.field.isSet draft = false) :
    (readEntries (slots.map (·.field)) draft entries).toOption =
      Slot.fillAll pairs slots draft := by
  have distinct : ((slots.map (·.field)).map (·.key)).Nodup := by
    rw [List.map_map]
    exact List.pairwise_map.mpr (apart.imp Slot.Apart.keys)
  -- An entry is read before all that come later, so filling with it is moved to the front.
  induction shown generalizing draft with
  | nil => exact (Slot.fillAll_nil draft).symm
  | @cons entry pair entries pairs first others ih =>
    obtain ⟨named, value⟩ := first
    rw [List.map_cons, List.nodup_cons] at once
    obtain ⟨fresh, once⟩ := once
    have later : ∀ {draft}, (∀ s ∈ slots, s.field.key ∈ pairs.map (·.1) →
        s.field.isSet draft = false) → _ :=
      fun unset => ih once (fun s there t mem => reads s there t (List.mem_cons_of_mem _ mem)) unset
    by_cases known : ∃ s ∈ slots, s.field.key = pair.1
    · obtain ⟨s, there, same⟩ := known
      have found := find?_key_eq_some distinct (List.mem_map_of_mem there)
      have blank := unset s there (same ▸ List.mem_cons_self)
      have taken := reads s there pair.2 (same ▸ List.mem_cons_self) draft entry.2 value
      rw [Slot.fillAll_cons_of_known apart there same fresh,
        readEntries_cons_of_field named (same ▸ found) blank, toOption_bind]
      change (s.field.read entry.2 draft).toOption = s.put pair.2 draft at taken
      rw [taken]
      refine Option.bind_congr fun filled put => later fun u mem listed => ?_
      have ne : s ≠ u := by
        rintro rfl
        exact fresh (same ▸ listed)
      rw [(apart.forall there mem ne).left put]
      exact unset u mem (List.mem_cons_of_mem _ listed)
    · have unknown : ∀ s ∈ slots, s.field.key ≠ pair.1 := fun s there same => known ⟨s, there, same⟩
      have absent : (slots.map (·.field)).find? (·.key == pair.1) = none := by
        simpa using unknown
      rw [Slot.fillAll_cons_of_unknown unknown, readEntries_cons_of_unknown named absent value]
      exact later fun s there mem => unset s there (List.mem_cons_of_mem _ mem)

/-- A record is read from the entries of a table in any order, with faults anywhere among them. -/
theorem readRecord_gives (apart : slots.Pairwise Slot.Apart) {blank : σ}
    (unset : ∀ s ∈ slots, s.field.isSet blank = false) {format : Format} {name : String}
    {finish : RecordEnd → σ → Reading α} {value? : Tree → Option α}
    (others : ∀ t, t.entries? = none → value? t = none)
    (finished : ∀ stop entries, ((Slot.fillAll entries slots blank).bind fun draft =>
      (finish (.table stop) draft).toOption) = value? (.table entries)) {t : Tree}
    (plain : t.Plain) (placed : ¬ t.IsArray)
    (reads : ∀ s ∈ slots, t.Under s.field.key s.Reads) :
    Gives (readRecord format name (slots.map (·.field)) blank finish) value? t := by
  rintro _ (_ | _ | _ | _ | @⟨entries, listed, pairs, start, stop, order, keys, values⟩)
  case array => exact absurd ⟨_, rfl⟩ placed
  case table =>
    obtain ⟨once, _⟩ := Tree.plain_table.mp plain
    have filled := readEntries_fills apart (showsEntry_of_columns keys values)
      ((order.map _).nodup_iff.mpr once)
      (fun s there t mem => reads s there pairs rfl t (order.subset mem))
      (fun s there _ => unset s there)
    change (readEntries (slots.map (·.field)) blank entries >>= fun draft =>
      finish (.table stop) draft).toOption = _
    rw [toOption_bind, filled, Slot.fillAll_perm order once, finished]
  all_goals exact (others _ rfl).symm

end Document
end TemplateExport
