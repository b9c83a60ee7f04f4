import TemplateExport.Proofs.TomlTexts

namespace TemplateExport

mutual

/-- How deep arrays and tables stand in one another. -/
def Tree.nesting : Tree → Nat
  | .null | .boolean _ | .text _ => 0
  | .array items => itemsNesting items + 1
  | .table entries => entriesNesting entries + 1

def Tree.itemsNesting : List Tree → Nat
  | [] => 0
  | item :: rest => max item.nesting (itemsNesting rest)

def Tree.entriesNesting : List (String × Tree) → Nat
  | [] => 0
  | (_, value) :: rest => max value.nesting (entriesNesting rest)

end

namespace Toml

open Document

theorem skipFill_of_visible {c : Char} (visible : isSpace c = false)
    (other : c ≠ '\n' ∧ c ≠ '\r' ∧ c ≠ '#') (rest : List Char) :
    skipFill false (c :: rest) = some (c :: rest) := by
  obtain ⟨feed, back, comment⟩ := other
  rw [skipFill]
  · simp [visible, comment]
  · exact feed
  · exact fun _ same _ => back same

theorem print_head {t : Tree} (plain : t.Plain) :
    ∃ c cs, print t = c :: cs ∧ c ∈ ['[', '\x7b', '"', 't', 'f'] := by
  rcases plain with ⟨_ | _⟩ | _ | _ | _
  all_goals exact ⟨_, _, rfl, by decide⟩

theorem skipFill_print {t : Tree} (plain : t.Plain) (rest : List Char) :
    skipFill false (print t ++ rest) = some (print t ++ rest) := by
  obtain ⟨c, cs, head, start⟩ := print_head plain
  rw [head, List.cons_append]
  simp only [List.mem_cons, List.not_mem_nil, or_false] at start
  rcases start with rfl | rfl | rfl | rfl | rfl
  all_goals exact skipFill_of_visible rfl (by decide) _

section

variable {steps depth : Nat} {cs after rest : List Char} {value : Document}

theorem valueWithin_array {items : List Document} (filled : skipFill false cs = some cs)
    (inside : itemsWithin steps depth cs = some (items, rest)) :
    valueWithin (steps + 1) (depth + 1) ('[' :: cs) =
      some (.array .start items (.ok .start), rest) := by
  simp [valueWithin, filled, inside]

theorem valueWithin_table {entries : Entries} (filled : skipFill false cs = some cs)
    (inside : entriesWithin steps depth [] cs = some (entries, rest)) :
    valueWithin (steps + 1) (depth + 1) ('\x7b' :: cs) =
      some (Node.document (.table .header entries), rest) := by
  simp [valueWithin, filled, inside]

theorem valueWithin_word {c : Char} {w : List Char}
    (bare : c ≠ '[' ∧ c ≠ '\x7b' ∧ c ≠ '"' ∧ c ≠ '\'')
    (inside : ∀ d ∈ c :: w, isSpace d = false ∧ endsWord d = false) (parted : Parted rest)
    (known : wordValue? (c :: w) = some value) :
    valueWithin (steps + 1) depth (c :: w ++ rest) = some (value, rest) := by
  have scanned := word_append inside parted
  rw [List.cons_append] at scanned ⊢
  simp [valueWithin, bare, scanned, known]

theorem valueWithin_boolean (b : Bool) (parted : Parted rest) :
    valueWithin (steps + 1) depth (print (.boolean b) ++ rest) =
      some (.scalar (.boolean b) .start, rest) := by
  cases b with
  | false =>
    rw [show print (.boolean false) = ['f', 'a', 'l', 's', 'e'] from rfl]
    exact valueWithin_word (by decide) (by simp [isSpace, endsWord]) parted rfl
  | true =>
    rw [show print (.boolean true) = ['t', 'r', 'u', 'e'] from rfl]
    exact valueWithin_word (by decide) (by simp [isSpace, endsWord]) parted rfl

theorem valueWithin_text (s : String) (parted : Parted rest) :
    valueWithin (steps + 1) depth (printText s ++ rest) =
      some (.scalar (.text s) .start, rest) := by
  have apart : rest.head? ≠ some '"' := by
    obtain ⟨c, more, rfl, ends⟩ := parted
    rintro same
    cases Option.some.inj same
    exact absurd ends (by decide)
  have quoted := quotedText?_printText s apart
  rw [printText, List.cons_append] at quoted ⊢
  simp only [valueWithin, quoted, Option.map_some, String.ofList_toList]

theorem itemsWithin_close : itemsWithin (steps + 1) depth (']' :: rest) = some ([], rest) := by
  simp [itemsWithin]

theorem itemsWithin_last (filled : cs.head? ≠ some ']')
    (first : valueWithin steps depth cs = some (value, ']' :: rest)) :
    itemsWithin (steps + 1) depth cs = some ([value], rest) := by
  have closed := skipFill_of_visible (c := ']') rfl (by decide) rest
  rw [itemsWithin, first]
  · simp only [bind, Option.bind, closed]
    rfl
  · intro rest same
    simp [same] at filled

theorem itemsWithin_more (filled : cs.head? ≠ some ']') {items : List Document}
    (first : valueWithin steps depth cs = some (value, ',' :: after))
    (next : skipFill false after = some after)
    (others : itemsWithin steps depth after = some (items, rest)) :
    itemsWithin (steps + 1) depth cs = some (value :: items, rest) := by
  have parted := skipFill_of_visible (c := ',') rfl (by decide) after
  rw [itemsWithin, first]
  · simp only [bind, Option.bind, parted, next, others]
    rfl
  · intro rest same
    simp [same] at filled

variable {key : String} {entries more : Entries}

theorem entriesWithin_close :
    entriesWithin (steps + 1) depth entries ('}' :: rest) = some (entries, rest) := by
  simp [entriesWithin]

theorem entriesWithin_last (next : skipFill false cs = some cs)
    (first : valueWithin steps depth cs = some (value, '}' :: rest))
    (added : addValue [] key value entries = some more) :
    entriesWithin (steps + 1) depth entries (printText key ++ '=' :: cs) = some (more, rest) := by
  have marked := skipFill_of_visible (c := '=') rfl (by decide) cs
  have closed := skipFill_of_visible (c := '}') rfl (by decide) rest
  rw [entriesWithin, key?_printText]
  · simp only [bind, Option.bind, marked, expect?, next, first, added, closed, ↓reduceIte]
    rfl
  · intro rest same
    simp [printText] at same

theorem entriesWithin_more (next : skipFill false cs = some cs)
    (first : valueWithin steps depth cs = some (value, ',' :: after))
    (added : addValue [] key value entries = some more)
    (filled : skipFill false after = some after) :
    entriesWithin (steps + 1) depth entries (printText key ++ '=' :: cs) =
      entriesWithin steps depth more after := by
  have marked := skipFill_of_visible (c := '=') rfl (by decide) cs
  have parted := skipFill_of_visible (c := ',') rfl (by decide) after
  rw [entriesWithin, key?_printText]
  · simp only [bind, Option.bind, marked, expect?, next, first, added, parted, filled, ↓reduceIte]
  · intro rest same
    simp [printText] at same

end

/-- Entries that were put into a table as they are. -/
def valueEntries (documents : List (String × Document)) : Entries :=
  documents.map fun (key, value) => (key, .value value)

theorem valueEntries_keys (documents : List (String × Document)) :
    (valueEntries documents).map (·.1) = documents.map (·.1) := by
  rw [valueEntries, List.map_map]
  rfl

theorem entryDocuments_valueEntries (documents : List (String × Document)) :
    entryDocuments (valueEntries documents) = documents := by
  induction documents with
  | nil => rfl
  | cons document rest ih =>
    rw [valueEntries, List.map_cons, entryDocuments, Node.document]
    exact congrArg _ ih

theorem not_mem_of_nodup_append_cons {keys others : List String} {key : String}
    (once : (keys ++ key :: others).Nodup) : key ∉ keys :=
  fun there => (List.nodup_append.mp once).2.2 key there key List.mem_cons_self rfl

theorem changeAt_of_fresh {key : String} {entries : Entries}
    (fresh : key ∉ entries.map (·.1)) (change : Option Node → Option Node) :
    changeAt key change entries = (change none).map fun node => entries ++ [(key, node)] := by
  induction entries with
  | nil => rfl
  | cons entry rest ih =>
    rw [List.map_cons, List.mem_cons, not_or] at fresh
    rw [changeAt, if_neg (Ne.symm fresh.1), ih fresh.2, Option.map_map]
    rfl

theorem addValue_of_fresh {key : String} {documents : List (String × Document)}
    (fresh : key ∉ documents.map (·.1)) (value : Document) :
    addValue [] key value (valueEntries documents) =
      some (valueEntries (documents ++ [(key, value)])) := by
  rw [addValue, changeTable, if_pos (by simp),
    changeAt_of_fresh (by rwa [valueEntries_keys])]
  simp [valueEntries]

theorem perm_insertSorted (entry : String × Document) (others : List (String × Document)) :
    (insertSorted entry others).Perm (entry :: others) := by
  induction others with
  | nil => exact .refl _
  | cons other rest ih =>
    rw [insertSorted]
    split
    · exact .refl _
    · exact (ih.cons other).trans (.swap _ _ _)

theorem perm_foldr_insertSorted (documents : List (String × Document)) :
    (documents.foldr insertSorted []).Perm documents := by
  induction documents with
  | nil => exact .refl _
  | cons entry rest ih => exact (perm_insertSorted entry _).trans (ih.cons entry)

/-- A value under its key. -/
def ShowsPair (entry : String × Document) (pair : String × Tree) : Prop :=
  entry.1 = pair.1 ∧ entry.2.Shows pair.2

theorem keys_of_shows {documents : List (String × Document)} {pairs : List (String × Tree)}
    (shown : List.Forall₂ ShowsPair documents pairs) :
    documents.map (·.1) = pairs.map (·.1) :=
  map_eq_of_forall₂ (shown.imp fun _ _ h => h.1)

theorem sortedTable_shows {documents : List (String × Document)} {pairs : List (String × Tree)}
    (shown : List.Forall₂ ShowsPair documents pairs) :
    (sortedTable documents).Shows (.table pairs) := by
  obtain ⟨listed, alike, order⟩ :=
    List.perm_comp_forall₂ (perm_foldr_insertSorted documents) shown
  refine .table .start .start order ?_ ?_
  · rw [List.map_map, List.forall₂_map_left_iff, List.forall₂_map_right_iff]
    exact alike.imp fun entry pair h => h.1 ▸ .text entry.1 .start .start
  · rw [List.map_map, List.forall₂_map_left_iff, List.forall₂_map_right_iff]
    exact alike.imp fun entry pair h => h.2

theorem printItems_cons_cons (item next : Tree) (others : List Tree) :
    printItems (item :: next :: others) = print item ++ ',' :: printItems (next :: others) :=
  rfl

theorem printEntries_cons_cons (key : String) (value : Tree) (next : String × Tree)
    (others : List (String × Tree)) :
    printEntries ((key, value) :: next :: others) =
      printText key ++ '=' :: (print value ++ ',' :: printEntries (next :: others)) :=
  rfl

theorem printItems_cons (item : Tree) (others : List Tree) :
    ∃ behind, printItems (item :: others) = print item ++ behind := by
  cases others with
  | nil => exact ⟨[], (List.append_nil _).symm⟩
  | cons next others => exact ⟨_, rfl⟩

theorem printEntries_cons (key : String) (value : Tree) (others : List (String × Tree)) :
    ∃ behind, printEntries ((key, value) :: others) = printText key ++ behind := by
  cases others with
  | nil => exact ⟨_, rfl⟩
  | cons next others => exact ⟨_, rfl⟩

theorem skipFill_printItems {items : List Tree} (plain : ∀ item ∈ items, item.Plain)
    (rest : List Char) :
    skipFill false (printItems items ++ ']' :: rest) = some (printItems items ++ ']' :: rest) := by
  cases items with
  | nil => exact skipFill_of_visible rfl (by decide) rest
  | cons item others =>
    obtain ⟨behind, whole⟩ := printItems_cons item others
    rw [whole, List.append_assoc]
    exact skipFill_print (plain item List.mem_cons_self) _

theorem skipFill_printEntries (pairs : List (String × Tree)) (rest : List Char) :
    skipFill false (printEntries pairs ++ '\x7d' :: rest) =
      some (printEntries pairs ++ '\x7d' :: rest) := by
  cases pairs with
  | nil => exact skipFill_of_visible rfl (by decide) rest
  | cons pair others =>
    obtain ⟨behind, whole⟩ := printEntries_cons pair.1 pair.2 others
    rw [whole, List.append_assoc]
    exact skipFill_of_visible rfl (by decide) _

theorem print_ne_close {t : Tree} (plain : t.Plain) (rest : List Char) :
    (print t ++ rest).head? ≠ some ']' := by
  obtain ⟨c, cs, head, start⟩ := print_head plain
  rw [head]
  rintro same
  cases Option.some.inj same
  exact absurd start (by decide)

theorem parted_of_ends {c : Char} (ends : endsWord c = true) (rest : List Char) :
    Parted (c :: rest) :=
  ⟨c, rest, rfl, ends⟩

mutual

theorem valueWithin_print : (t : Tree) → t.Plain → (steps depth : Nat) → (rest : List Char) →
    (print t).length ≤ steps → t.nesting ≤ depth → Parted rest →
    ∃ d : Document, d.Shows t ∧ valueWithin steps depth (print t ++ rest) = some (d, rest)
  | .boolean true, _, steps + 1, depth, rest, _, _, parted =>
    ⟨_, .boolean true .start, valueWithin_boolean true parted⟩
  | .boolean false, _, steps + 1, depth, rest, _, _, parted =>
    ⟨_, .boolean false .start, valueWithin_boolean false parted⟩
  | .text s, _, steps + 1, depth, rest, _, _, parted =>
    ⟨_, .text s .start, valueWithin_text s parted⟩
  | .array items, plain, steps + 1, depth + 1, rest, enough, within, _ => by
    have parts := plain.each items rfl
    rw [print, List.length_cons, List.length_append, List.length_singleton] at enough
    rw [Tree.nesting] at within
    obtain ⟨documents, shown, read⟩ :=
      itemsWithin_print items parts steps depth rest (by omega) (by omega)
    refine ⟨_, .array .start .start shown, ?_⟩
    rw [print, List.cons_append, List.append_assoc, List.singleton_append]
    exact valueWithin_array (skipFill_printItems parts rest) read
  | .table pairs, plain, steps + 1, depth + 1, rest, enough, within, _ => by
    obtain ⟨once, parts⟩ := Tree.plain_table.mp plain
    rw [print, List.length_cons, List.length_append, List.length_singleton] at enough
    rw [Tree.nesting] at within
    obtain ⟨documents, shown, read⟩ :=
      entriesWithin_print pairs parts [] once steps depth rest (by omega) (by omega)
    refine ⟨_, sortedTable_shows shown, ?_⟩
    rw [print, List.cons_append, List.append_assoc, List.singleton_append,
      valueWithin_table (skipFill_printEntries pairs rest) read, Node.document,
      entryDocuments_valueEntries, List.nil_append]

theorem itemsWithin_print : (items : List Tree) → (∀ item ∈ items, item.Plain) →
    (steps depth : Nat) → (rest : List Char) → (printItems items).length < steps →
    Tree.itemsNesting items ≤ depth → ∃ documents, List.Forall₂ Shows documents items ∧
      itemsWithin steps depth (printItems items ++ ']' :: rest) = some (documents, rest)
  | [], _, steps + 1, depth, rest, _, _ => ⟨[], .nil, itemsWithin_close⟩
  | [item], plain, steps + 1, depth, rest, enough, within => by
    have plain := plain item List.mem_cons_self
    rw [printItems] at enough
    rw [Tree.itemsNesting] at within
    obtain ⟨d, shown, read⟩ := valueWithin_print item plain steps depth (']' :: rest) (by omega)
      (by omega) (parted_of_ends rfl rest)
    exact ⟨[d], .cons shown .nil, itemsWithin_last (print_ne_close plain _) read⟩
  | item :: next :: others, plain, steps + 1, depth, rest, enough, within => by
    obtain ⟨here, later⟩ := List.forall_mem_cons.mp plain
    rw [printItems_cons_cons, List.length_append, List.length_cons] at enough
    rw [Tree.itemsNesting] at within
    obtain ⟨d, shown, read⟩ := valueWithin_print item here steps depth
      (',' :: (printItems (next :: others) ++ ']' :: rest)) (by omega) (by omega)
      (parted_of_ends rfl _)
    obtain ⟨documents, all_shown, all_read⟩ :=
      itemsWithin_print (next :: others) later steps depth rest (by omega) (by omega)
    refine ⟨d :: documents, .cons shown all_shown, ?_⟩
    rw [printItems_cons_cons, List.append_assoc, List.cons_append]
    exact itemsWithin_more (print_ne_close here _) read (skipFill_printItems later rest) all_read

theorem entriesWithin_print : (pairs : List (String × Tree)) → (∀ pair ∈ pairs, pair.2.Plain) →
    (earlier : List (String × Document)) → (earlier.map (·.1) ++ pairs.map (·.1)).Nodup →
    (steps depth : Nat) → (rest : List Char) → (printEntries pairs).length < steps →
    Tree.entriesNesting pairs ≤ depth → ∃ documents, List.Forall₂ ShowsPair documents pairs ∧
      entriesWithin steps depth (valueEntries earlier) (printEntries pairs ++ '\x7d' :: rest) =
        some (valueEntries (earlier ++ documents), rest)
  | [], _, earlier, _, steps + 1, depth, rest, _, _ => by
    refine ⟨[], .nil, ?_⟩
    rw [List.append_nil]
    exact entriesWithin_close
  | [(key, value)], plain, earlier, once, steps + 1, depth, rest, enough, within => by
    have plain := plain _ List.mem_cons_self
    rw [printEntries, List.length_append, List.length_cons] at enough
    rw [Tree.entriesNesting] at within
    obtain ⟨d, shown, read⟩ := valueWithin_print value plain steps depth ('\x7d' :: rest) (by omega)
      (by omega) (parted_of_ends rfl rest)
    have added := addValue_of_fresh (not_mem_of_nodup_append_cons once) d
    refine ⟨[(key, d)], .cons ⟨rfl, shown⟩ .nil, ?_⟩
    rw [printEntries, List.append_assoc, List.cons_append]
    exact entriesWithin_last (skipFill_print plain _) read added
  | (key, value) :: next :: others, plain, earlier, once, steps + 1, depth, rest, enough,
      within => by
    obtain ⟨here, later⟩ := List.forall_mem_cons.mp plain
    rw [printEntries_cons_cons, List.length_append, List.length_cons, List.length_append,
      List.length_cons] at enough
    rw [Tree.entriesNesting] at within
    obtain ⟨d, shown, read⟩ := valueWithin_print value here steps depth
      (',' :: (printEntries (next :: others) ++ '\x7d' :: rest)) (by omega) (by omega)
      (parted_of_ends rfl _)
    have added := addValue_of_fresh (not_mem_of_nodup_append_cons once) d
    have still_once : ((earlier ++ [(key, d)]).map (·.1) ++ (next :: others).map (·.1)).Nodup := by
      simpa using once
    obtain ⟨documents, all_shown, all_read⟩ := entriesWithin_print (next :: others) later
      (earlier ++ [(key, d)]) still_once steps depth rest (by omega) (by omega)
    refine ⟨(key, d) :: documents, .cons ⟨rfl, shown⟩ all_shown, ?_⟩
    rw [printEntries_cons_cons, List.append_assoc, List.cons_append, List.append_assoc,
      List.cons_append,
      entriesWithin_more (skipFill_print here _) read added (skipFill_printEntries _ rest),
      all_read, List.append_assoc]
    rfl

end

end Toml

end TemplateExport
