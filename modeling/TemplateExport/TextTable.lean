namespace TemplateExport

section Lookup

variable {α : Type} {entries : List (String × α)} {key : String} {value : α}

theorem lookup_eq_some_iff_mem (once : (entries.map (·.1)).Nodup) :
    entries.lookup key = some value ↔ (key, value) ∈ entries := by
  constructor
  · intro found
    obtain ⟨before, behind, rfl, _⟩ := List.lookup_eq_some_iff.mp found
    simp
  · intro mem
    obtain ⟨before, behind, rfl⟩ := List.append_of_mem mem
    refine List.lookup_eq_some_iff.mpr ⟨before, behind, rfl, ?_⟩
    rw [List.map_append, List.map_cons, List.nodup_append] at once
    intro e there
    have ne := once.2.2 e.1 (List.mem_map_of_mem there) key List.mem_cons_self
    simpa using ne.symm

theorem lookup_eq_none_of_not_mem (absent : key ∉ entries.map (·.1)) :
    entries.lookup key = none := by
  refine List.lookup_eq_none_iff.mpr fun e there => ?_
  have ne : key ≠ e.1 := fun same => absent (same ▸ List.mem_map_of_mem there)
  simpa using ne

theorem lookup_cons_eq (key name : String) (value : α) (entries : List (String × α)) :
    ((name, value) :: entries).lookup key =
      if key = name then some value else entries.lookup key := by
  rw [List.lookup_cons]
  by_cases same : key = name
  · rw [beq_iff_eq.mpr same, if_pos same]
  · rw [beq_eq_false_iff_ne.mpr same, if_neg same]

theorem lookup_filter_ne (key name : String) (entries : List (String × α)) :
    (entries.filter (·.1 ≠ name)).lookup key =
      if key = name then none else entries.lookup key := by
  induction entries with
  | nil => simp
  | cons entry rest ih =>
    obtain ⟨other, value⟩ := entry
    by_cases dropped : other = name
    · rw [List.filter_cons_of_neg (by simpa using dropped), ih, lookup_cons_eq, dropped]
      split <;> rfl
    · rw [List.filter_cons_of_pos (by simpa using dropped), lookup_cons_eq, lookup_cons_eq, ih]
      by_cases here : key = other
      · simp [here, dropped]
      · simp [here]

end Lookup

/-- Texts under text keys. The keys are in order and no key occurs twice, so two tables that
answer every look-up alike are equal. -/
structure TextTable where
  entries : List (String × String)
  sorted : entries.Pairwise (fun a b => a.1 < b.1)
deriving DecidableEq

namespace TextTable

def empty : TextTable := ⟨[], List.Pairwise.nil⟩

instance : Inhabited TextTable := ⟨empty⟩

def get? (t : TextTable) (key : String) : Option String :=
  t.entries.lookup key

def keys (t : TextTable) : List String :=
  t.entries.map (·.1)

def insertEntry (key value : String) : List (String × String) → List (String × String)
  | [] => [(key, value)]
  | entry :: rest =>
    if key < entry.1 then (key, value) :: entry :: rest
    else if key = entry.1 then (key, value) :: rest
    else entry :: insertEntry key value rest

theorem mem_insertEntry {key value : String} {entries : List (String × String)}
    {e : String × String} (h : e ∈ insertEntry key value entries) :
    e = (key, value) ∨ e ∈ entries := by
  induction entries with
  | nil => exact Or.inl (by simpa [insertEntry] using h)
  | cons entry rest ih =>
    unfold insertEntry at h
    split at h
    · simpa using h
    · split at h
      · rcases List.mem_cons.mp h with h | h
        · exact Or.inl h
        · exact Or.inr (List.mem_cons_of_mem _ h)
      · rcases List.mem_cons.mp h with h | h
        · exact Or.inr (h ▸ List.mem_cons_self)
        · exact (ih h).imp id (List.mem_cons_of_mem _)

theorem insertEntry_sorted (key value : String) {entries : List (String × String)}
    (h : entries.Pairwise (fun a b => a.1 < b.1)) :
    (insertEntry key value entries).Pairwise (fun a b => a.1 < b.1) := by
  induction entries with
  | nil => simp [insertEntry]
  | cons entry rest ih =>
    have hr := List.pairwise_cons.mp h
    unfold insertEntry
    split
    next lt =>
      refine List.pairwise_cons.mpr ⟨fun e he => ?_, h⟩
      rcases List.mem_cons.mp he with rfl | he
      · exact lt
      · exact String.lt_trans lt (hr.1 e he)
    next nlt =>
      split
      next eq => exact List.pairwise_cons.mpr ⟨fun e he => eq ▸ hr.1 e he, hr.2⟩
      next ne =>
        refine List.pairwise_cons.mpr ⟨fun e he => ?_, ih hr.2⟩
        rcases mem_insertEntry he with rfl | he
        · have le : entry.1 ≤ key := String.not_lt.mp nlt
          rcases Decidable.em (entry.1 < key) with lt | nlt'
          · exact lt
          · exact absurd (String.le_antisymm (String.not_lt.mp nlt') le) ne
        · exact hr.1 e he

def insert (t : TextTable) (key value : String) : TextTable :=
  ⟨insertEntry key value t.entries, insertEntry_sorted key value t.sorted⟩

theorem lookup_insertEntry (key value other : String) (entries : List (String × String)) :
    (insertEntry key value entries).lookup other =
      if other = key then some value else entries.lookup other := by
  induction entries with
  | nil => exact lookup_cons_eq other key value []
  | cons entry rest ih =>
    unfold insertEntry
    split
    next => exact lookup_cons_eq other key value (entry :: rest)
    next =>
      obtain ⟨name, text⟩ := entry
      split
      next same =>
        obtain rfl : key = name := same
        rw [lookup_cons_eq, lookup_cons_eq]
        split <;> rfl
      next apart =>
        rw [lookup_cons_eq, lookup_cons_eq, ih]
        by_cases here : other = name
        · simp [here, Ne.symm apart]
        · simp [here]

@[simp]
theorem get?_insert (t : TextTable) (key value other : String) :
    (t.insert key value).get? other = if other = key then some value else t.get? other :=
  lookup_insertEntry key value other t.entries

def erase (t : TextTable) (key : String) : TextTable :=
  ⟨t.entries.filter (·.1 ≠ key), t.sorted.sublist List.filter_sublist⟩

@[simp]
theorem get?_erase (t : TextTable) (key other : String) :
    (t.erase key).get? other = if other = key then none else t.get? other :=
  lookup_filter_ne other key t.entries

/-- The last of several entries under one key counts. -/
def ofList (entries : List (String × String)) : TextTable :=
  entries.foldl (fun t e => t.insert e.1 e.2) empty

end TextTable

end TemplateExport
