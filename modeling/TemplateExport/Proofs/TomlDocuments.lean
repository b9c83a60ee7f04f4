import TemplateExport.Proofs.TomlValues

namespace TemplateExport.Toml

open Document

theorem printDocument_cons (key : String) (value : Tree) (others : List (String × Tree)) :
    printDocument ((key, value) :: others) =
      printText key ++ '=' :: (print value ++ '\n' :: printDocument others) := by
  simp [printDocument]

theorem statement?_entry (key : String) (cs : List Char) :
    statement? (printText key ++ '=' :: cs) =
      (value? (skipSpace cs)).map fun (value, rest) => (.entry [] key value, rest) := by
  have named := key?_printText key cs
  rw [printText, List.cons_append] at named ⊢
  rw [statement?, named]
  · simp only [bind, Option.bind, expect?, ↓reduceIte]
    cases value? (skipSpace cs) <;> rfl
  · intro rest same
    simp at same
  · intro rest same
    simp at same

theorem skipSpace_print {t : Tree} (plain : t.Plain) (rest : List Char) :
    skipSpace (print t ++ rest) = print t ++ rest := by
  obtain ⟨c, cs, head, start⟩ := print_head plain
  have visible : isSpace c = false := by
    simp only [List.mem_cons, List.not_mem_nil, or_false] at start
    rcases start with rfl | rfl | rfl | rfl | rfl
    all_goals rfl
  rw [head, List.cons_append, skipSpace_of_visible visible]

theorem statement?_print {value : Tree} (plain : value.Plain) (within : value.nesting ≤ depthLimit)
    (key : String) (rest : List Char) : ∃ d : Document, d.Shows value ∧
      statement? (printText key ++ '=' :: (print value ++ '\n' :: rest)) =
        some (.entry [] key d, '\n' :: rest) := by
  obtain ⟨d, shown, read⟩ := valueWithin_print value plain
    (2 * (print value ++ '\n' :: rest).length + 1) depthLimit ('\n' :: rest)
    (by rw [List.length_append]; omega) within (parted_of_ends rfl rest)
  refine ⟨d, shown, ?_⟩
  rw [statement?_entry, skipSpace_print plain, value?, read]
  rfl

theorem statementsWithin_entry (steps : Nat) (key : String) (cs : List Char) :
    statementsWithin (steps + 1) (printText key ++ cs) =
      (statement? (printText key ++ cs)).bind fun found =>
        (finishLine found.2).bind fun rest =>
          (statementsWithin steps rest).map (found.1 :: ·) := by
  have filled : skipFill false (printText key ++ cs) = some (printText key ++ cs) :=
    skipFill_of_visible rfl (by decide) _
  rw [statementsWithin, filled]
  change (statement? (printText key ++ cs) >>= fun x => finishLine x.2 >>= fun rest =>
    statementsWithin steps rest >>= fun others => some (x.1 :: others)) = _
  simp only [Option.bind_eq_bind, Option.map_eq_bind]
  rfl

theorem statementsWithin_print {entries : List (String × Tree)}
    (plain : ∀ e ∈ entries, e.2.Plain) (within : ∀ e ∈ entries, e.2.nesting ≤ depthLimit)
    {steps : Nat} (enough : entries.length < steps) :
    ∃ documents, List.Forall₂ ShowsPair documents entries ∧
      statementsWithin steps (printDocument entries) =
        some (documents.map fun (key, value) => .entry [] key value) := by
  induction entries generalizing steps with
  | nil =>
    obtain ⟨steps, rfl⟩ := Nat.exists_eq_add_of_lt enough
    exact ⟨[], .nil, by simp [printDocument, statementsWithin, skipFill]⟩
  | cons entry others ih =>
    obtain ⟨key, value⟩ := entry
    obtain ⟨here, later⟩ := List.forall_mem_cons.mp plain
    obtain ⟨fits, rest_fits⟩ := List.forall_mem_cons.mp within
    cases steps with
    | zero => simp at enough
    | succ steps =>
      obtain ⟨documents, all_shown, all_read⟩ := ih later rest_fits (Nat.lt_of_succ_lt_succ enough)
      obtain ⟨d, shown, read⟩ := statement?_print here fits key (printDocument others)
      refine ⟨(key, d) :: documents, .cons ⟨rfl, shown⟩ all_shown, ?_⟩
      have finished : finishLine ('\n' :: printDocument others) = some (printDocument others) := rfl
      rw [printDocument_cons, statementsWithin_entry, read, Option.bind_some]
      simp only [finished, Option.bind_some, all_read]
      rfl

theorem build_entries (earlier documents : List (String × Document))
    (once : (earlier.map (·.1) ++ documents.map (·.1)).Nodup) :
    build [] (valueEntries earlier) (documents.map fun (key, value) => .entry [] key value) =
      some (valueEntries (earlier ++ documents)) := by
  induction documents generalizing earlier with
  | nil => simp [build]
  | cons document rest ih =>
    have shifted : earlier ++ document :: rest = (earlier ++ [document]) ++ rest := by simp
    have added := addValue_of_fresh (not_mem_of_nodup_append_cons once) document.2
    rw [List.map_cons, build, addBelow, changeTable, added, shifted]
    exact ih _ (by simpa using once)

theorem length_le_printDocument (entries : List (String × Tree)) :
    entries.length ≤ (printDocument entries).length := by
  induction entries with
  | nil => exact Nat.le_refl _
  | cons entry others ih =>
    rw [printDocument_cons]
    simp only [List.length_cons, List.length_append]
    omega

theorem document?_ofList {cs : List Char} (unmarked : cs.head? ≠ some '\ufeff') :
    document? (String.ofList cs) = (statementsWithin (cs.length + 1) cs).bind fun statements =>
      (build [] [] statements).map fun entries => Node.document (.table .header entries) := by
  rw [document?, String.toList_ofList]
  split
  next rest => simp at unmarked
  next =>
    simp only [Option.bind_eq_bind, Option.map_eq_bind]
    rfl

theorem printDocument_head (entries : List (String × Tree)) :
    (printDocument entries).head? ≠ some '\ufeff' := by
  cases entries with
  | nil => exact nofun
  | cons entry others =>
    rw [printDocument_cons]
    rintro same
    exact absurd (Option.some.inj same) (by decide)

/-- A tree that is not too deep is read from its text. -/
theorem document?_print {entries : List (String × Tree)} (plain : (Tree.table entries).Plain)
    (within : ∀ e ∈ entries, e.2.nesting ≤ depthLimit) :
    ∃ d : Document, d.Shows (.table entries) ∧
      document? (String.ofList (printDocument entries)) = some d := by
  obtain ⟨once, parts⟩ := Tree.plain_table.mp plain
  have enough := Nat.lt_succ_of_le (length_le_printDocument entries)
  obtain ⟨documents, shown, read⟩ := statementsWithin_print parts within enough
  have built := build_entries [] documents (by rwa [keys_of_shows shown])
  refine ⟨_, sortedTable_shows shown, ?_⟩
  rw [document?_ofList (printDocument_head entries), read, Option.bind_some,
    show ([] : Entries) = valueEntries [] from rfl, built, Option.map_some, Node.document,
    entryDocuments_valueEntries, List.nil_append]

theorem itemsWithin_of_failed {steps depth : Nat} {cs : List Char} (filled : cs.head? ≠ some ']')
    (failed : ∀ steps, valueWithin steps depth cs = none) : itemsWithin steps depth cs = none := by
  cases steps with
  | zero => rfl
  | succ steps =>
    rw [itemsWithin, failed]
    · rfl
    · intro rest same
      simp [same] at filled

theorem valueWithin_of_failed {steps depth : Nat} {cs : List Char}
    (filled : skipFill false cs = some cs) (failed : itemsWithin steps depth cs = none) :
    valueWithin (steps + 1) (depth + 1) ('[' :: cs) = none := by
  simp [valueWithin, filled, failed]

theorem valueWithin_too_deep (steps depth : Nat) (rest : List Char) :
    valueWithin steps depth (List.replicate (depth + 1) '[' ++ rest) = none := by
  induction depth generalizing steps with
  | zero => cases steps <;> simp [valueWithin]
  | succ depth ih =>
    cases steps with
    | zero => rfl
    | succ steps =>
      have failed : itemsWithin steps depth (List.replicate (depth + 1) '[' ++ rest) = none :=
        itemsWithin_of_failed (by simp [List.replicate_succ]) ih
      have filled : skipFill false (List.replicate (depth + 1) '[' ++ rest) =
          some (List.replicate (depth + 1) '[' ++ rest) :=
        skipFill_of_visible rfl (by decide) _
      exact valueWithin_of_failed filled failed

/-- A text is no document if its first value stands in more brackets than the reader follows. -/
theorem document?_too_deep (key : String) (rest : List Char) :
    document? (String.ofList
      (printText key ++ '=' :: (List.replicate (depthLimit + 1) '[' ++ rest))) = none := by
  have unspaced : skipSpace (List.replicate (depthLimit + 1) '[' ++ rest) =
      List.replicate (depthLimit + 1) '[' ++ rest := skipSpace_of_visible rfl _
  have failed : statement? (printText key ++ '=' :: (List.replicate (depthLimit + 1) '[' ++ rest)) =
      none := by
    rw [statement?_entry, unspaced, value?, valueWithin_too_deep]
    rfl
  rw [document?_ofList (by simp [printText]), statementsWithin_entry, failed]
  rfl

end TemplateExport.Toml
