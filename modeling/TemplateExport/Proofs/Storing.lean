import TemplateExport.Proofs.Delivery

namespace TemplateExport

/-- A path by which a file can be reached if the files allow it. -/
structure Path.Fit (p : Path) : Prop where
  sound : p.fault? = none
  entry : ∃ way name, p.target = .entry way name
  short : Path.Short p.steps

namespace FileTree

variable {p q : Path} {content other : ByteArray} {t : FileTree}

/-- There is room for a file where a path leads: files are neither in its way nor made directories
by it. -/
structure Room (t : FileTree) (p : Path) : Prop where
  clear : t.Clear (t.way p)
  free : t.look (t.locate p) ≠ some .directory
  beside : t.locate p ∉ t.way p

/-- A file can be saved exactly where its path fits and there is room for it. -/
theorem exists_save_iff (content : ByteArray) :
    (∃ t', t.save p content = (t', .ok ())) ↔ p.Fit ∧ t.Room p := by
  have place := (t.change_way p).locate_eq p
  simp only [save_eq_ok_iff, write_eq_ok_iff, place]
  constructor
  · rintro ⟨_, made, ⟨sound, way, name, target, short_name, _⟩, free, _⟩
    obtain ⟨steps, _⟩ := Path.steps_of_target_entry target
    obtain ⟨short_way, clear⟩ := (makeDirectories_eq_ok_iff sound).mp made
    have short : Path.Short p.steps := by
      rw [steps, List.dropLast_concat] at short_way
      rw [steps]
      exact Path.short_concat.mpr ⟨short_way, fun _ => short_name⟩
    rw [look_makeDirectories made] at free
    have beside : t.locate p ∉ t.way p := fun inside => free (if_pos inside)
    rw [if_neg beside] at free
    exact ⟨⟨sound, ⟨way, name, target⟩, short⟩, clear, free, beside⟩
  · rintro ⟨⟨sound, ⟨way, name, target⟩, short⟩, clear, free, beside⟩
    obtain ⟨steps, down⟩ := Path.steps_of_target_entry target
    rw [steps] at short
    obtain ⟨short_way, short_name⟩ := Path.short_concat.mp short
    have made := (makeDirectories_eq_ok_iff sound).mpr
      ⟨by rwa [steps, List.dropLast_concat], clear⟩
    obtain ⟨last, walked⟩ := walk_of_makeDirectories made
    rw [steps, List.dropLast_concat] at walked
    refine ⟨_, made, ⟨sound, way, name, target, short_name down, last, ?_⟩, ?_, rfl⟩
    · rwa [(t.change_way p).start_eq]
    · rwa [look_makeDirectories made, if_neg beside]

/-- What is where after a file was saved. -/
theorem look_saved {t' : FileTree} (h : t.save p content = (t', .ok ())) (spot : Location) :
    t'.look spot = if spot = t.locate p then some (.file content)
      else if spot ∈ t.way p then some .directory else t.look spot := by
  obtain ⟨made, wrote⟩ := save_eq_ok_iff.mp h
  obtain ⟨_, free, rfl⟩ := write_eq_ok_iff.mp wrote
  rw [(t.change_way p).locate_eq p] at free ⊢
  split
  next same =>
    have ne : t.locate p ≠ [] := by
      intro outermost
      simp [look, outermost] at free
    rw [same, look_put_self ne]
  next apart => rw [look_put_of_ne apart, look_makeDirectories made]

/-- After a file was saved, there is room for one at another place exactly if there was room before,
and neither place is on the way to the other. -/
theorem room_saved_iff {t' : FileTree} (h : t.save p content = (t', .ok ()))
    (apart : t.locate q ≠ t.locate p) :
    t'.Room q ↔ t.Room q ∧ t.locate p ∉ t.way q ∧ t.locate q ∉ t.way p := by
  have same_way : t'.way q = t.way q := (saved h).1.way_eq q
  have same_place : t'.locate q = t.locate q := (saved h).1.locate_eq q
  have room := ((exists_save_iff content).mp ⟨t', h⟩).2
  have look_place : t'.look (t.locate p) = some (.file content) := by
    rw [look_saved h, if_pos rfl]
  have look_target : t.locate q ∉ t.way p → t'.look (t.locate q) = t.look (t.locate q) := by
    intro passes
    rw [look_saved h, if_neg apart, if_neg passes]
  constructor
  · rintro ⟨clear, free, beside⟩
    rw [same_way] at clear beside
    rw [same_place] at free beside
    -- The new file would be in the way to the other, or the other would replace a new directory.
    have passed : t.locate p ∉ t.way q := by
      intro inside
      simpa [look_place] using clear _ inside
    have passes : t.locate q ∉ t.way p := by
      intro inside
      rw [look_saved h, if_neg apart, if_pos inside] at free
      exact free rfl
    refine ⟨⟨?_, look_target passes ▸ free, beside⟩, passed, passes⟩
    intro spot inside
    by_cases shared : spot ∈ t.way p
    · exact room.clear spot shared
    · have kept := clear spot inside
      rwa [look_saved h, if_neg (ne_of_mem_of_not_mem inside passed), if_neg shared] at kept
  · rintro ⟨⟨clear, free, beside⟩, passed, passes⟩
    refine ⟨?_, ?_, ?_⟩
    · rw [same_way]
      intro spot inside
      rw [look_saved h, if_neg (ne_of_mem_of_not_mem inside passed)]
      split
      · exact Or.inr rfl
      · exact clear spot inside
    · rwa [same_place, look_target passes]
    · rwa [same_way, same_place]

/-- Trees with the same at every location. -/
structure Alike (t t' : FileTree) : Prop where
  here : t.here = t'.here
  look : ∀ spot, t.look spot = t'.look spot

/-- Two files at different places can be saved in either order. -/
theorem saves_commute {first both : FileTree} (apart : t.locate q ≠ t.locate p)
    (save_p : t.save p content = (first, .ok ())) (save_q : first.save q other = (both, .ok ())) :
    ∃ second both', t.save q other = (second, .ok ()) ∧
      second.save p content = (both', .ok ()) ∧ both'.Alike both := by
  obtain ⟨fit_p, room_p⟩ := (exists_save_iff content).mp ⟨first, save_p⟩
  obtain ⟨fit_q, room_first⟩ := (exists_save_iff other).mp ⟨both, save_q⟩
  obtain ⟨room_q, passed, passes⟩ := (room_saved_iff save_p apart).mp room_first
  obtain ⟨second, save_q'⟩ := (exists_save_iff other).mpr ⟨fit_q, room_q⟩
  have room_second := (room_saved_iff save_q' apart.symm).mpr ⟨room_p, passes, passed⟩
  obtain ⟨both', save_p'⟩ := (exists_save_iff content).mpr ⟨fit_p, room_second⟩
  refine ⟨second, both', save_q', save_p', ?_, ?_⟩
  · calc both'.here = second.here := (saved save_p').1.here
      _ = t.here := (saved save_q').1.here
      _ = first.here := (saved save_p).1.here.symm
      _ = both.here := (saved save_q).1.here.symm
  · intro spot
    rw [look_saved save_p', look_saved save_q', look_saved save_q, look_saved save_p,
      (saved save_q').1.locate_eq, (saved save_q').1.way_eq, (saved save_p).1.locate_eq,
      (saved save_p).1.way_eq]
    -- Each place gets its file in both orders, and the rest of the two ways are directories.
    by_cases at_p : spot = t.locate p
    · subst at_p
      rw [if_pos rfl, if_neg apart.symm, if_neg passed, if_pos rfl]
    by_cases at_q : spot = t.locate q
    · subst at_q
      rw [if_neg apart, if_neg passes, if_pos rfl, if_pos rfl]
    rw [if_neg at_p, if_neg at_q, if_neg at_q, if_neg at_p]
    split_ifs <;> rfl

end FileTree

namespace Storage

open Session

variable {st : Storage} {p : Path} {content : ByteArray} {s after : Session}

theorem save_of_write {answer : Except Problem Unit}
    (ran : s.run (st.write p content) = (answer, after)) :
    ∃ result, s.files.save (st.resolve p) content = (after.files, result) ∧
      result.mapError .file = answer := by
  have effect := (st.comesTo_write p content).effect_eq ran
  rcases saved : s.files.save (st.resolve p) content with ⟨t', result⟩
  simp only [saved, Prod.mk.injEq] at effect
  obtain ⟨answers, files⟩ := effect
  exact ⟨result, by rw [files], answers⟩

theorem saved_of_write (ran : s.run (st.write p content) = (.ok (), after)) :
    s.files.save (st.resolve p) content = (after.files, .ok ()) := by
  obtain ⟨result, saved, same⟩ := save_of_write ran
  cases result with
  | ok => exact saved
  | error fault => cases same

theorem unsaved_of_write {problem : Problem}
    (ran : s.run (st.write p content) = (.error problem, after)) :
    ∃ fault, s.files.save (st.resolve p) content = (after.files, .error fault) := by
  obtain ⟨result, saved, same⟩ := save_of_write ran
  cases result with
  | ok => cases same
  | error fault => exact ⟨fault, saved⟩

theorem exists_write_of_saved (saved : (s.files.save (st.resolve p) content).2 = .ok ()) :
    ∃ after, s.run (st.write p content) = (.ok (), after) ∧
      after.files = (s.files.save (st.resolve p) content).1 := by
  obtain ⟨after, ran, files⟩ := (st.comesTo_write p content).exists_run s
  simp only [saved, Except.mapError] at ran files
  exact ⟨after, ran, files⟩

end Storage

open FileTree Storage

/-- Writing a file stores it. It succeeds just where the path fits and there is room for a file.
Then the content can be read by the same path, all that was elsewhere is as it was, and besides
the file only directories on the way to it are new. A write that fails leaves nothing but such
directories behind. Two files at different places can be written in either order. -/
theorem write_stores_file (st : Storage) (p : Path) (content : ByteArray) (s : Session) :
    ((∃ after, s.run (st.write p content) = (.ok (), after)) ↔
      (st.resolve p).Fit ∧ s.files.Room (st.resolve p)) ∧
    (∀ after, s.run (st.write p content) = (.ok (), after) →
      (after.run (st.read p)).1 = .ok content ∧
      (∀ spot, s.files.look spot ≠ none → spot ≠ s.files.locate (st.resolve p) →
        after.files.look spot = s.files.look spot) ∧
      Change (· ∈ s.files.way (st.resolve p)) (· = s.files.locate (st.resolve p))
        s.files after.files) ∧
    (∀ problem after, s.run (st.write p content) = (.error problem, after) →
      (∀ spot, s.files.look spot ≠ none → after.files.look spot = s.files.look spot) ∧
      Change (· ∈ s.files.way (st.resolve p)) (fun _ => False) s.files after.files) ∧
    ∀ q other first both, s.files.locate (st.resolve q) ≠ s.files.locate (st.resolve p) →
      s.run (st.write p content) = (.ok (), first) →
      first.run (st.write q other) = (.ok (), both) →
      ∃ second both', s.run (st.write q other) = (.ok (), second) ∧
        second.run (st.write p content) = (.ok (), both') ∧ both'.files.Alike both.files := by
  refine ⟨?_, ?_, ?_, ?_⟩
  · rw [← exists_save_iff content]
    constructor
    · rintro ⟨after, ran⟩
      exact ⟨after.files, saved_of_write ran⟩
    · rintro ⟨t', saved⟩
      obtain ⟨after, ran, _⟩ := exists_write_of_saved (congrArg Prod.snd saved)
      exact ⟨after, ran⟩
  · intro after ran
    obtain ⟨change, reached, there⟩ := FileTree.saved (saved_of_write ran)
    rw [← change.locate_eq] at there
    exact ⟨answer_of_read reached there, fun spot => change.kept, change⟩
  · intro problem after ran
    obtain ⟨fault, failed⟩ := unsaved_of_write ran
    have change := change_of_save_error failed
    exact ⟨fun spot there => change.kept there id, change⟩
  · intro q other first both apart ran_first ran_both
    obtain ⟨t, t', saved, finished, alike⟩ :=
      saves_commute apart (saved_of_write ran_first) (saved_of_write ran_both)
    obtain ⟨second, ran_second, files⟩ := exists_write_of_saved (congrArg Prod.snd saved)
    rw [saved] at files
    subst files
    obtain ⟨both', ran_both', files⟩ := exists_write_of_saved (congrArg Prod.snd finished)
    rw [finished] at files
    exact ⟨second, both', ran_second, ran_both', by rwa [files]⟩

/-- A write with a new directory on its way, one that finds a file in its way, and two writes in
either order. -/
theorem sample_writes_store :
    (∃ after, sampleSession.run (Storage.current.write ⟨"out/a.h"⟩ .empty) = (.ok (), after) ∧
      (after.run (Storage.current.read ⟨"out/a.h"⟩)).1 = .ok .empty) ∧
    (∃ problem after,
      sampleSession.run (Storage.current.write ⟨"new/../taken/a.h"⟩ .empty) =
        (.error problem, after) ∧
      after.files.look ["taken", "work"] = sampleSession.files.look ["taken", "work"]) ∧
    ∃ first both second both',
      sampleSession.run (Storage.current.write ⟨"out/a.h"⟩ .empty) = (.ok (), first) ∧
      first.run (Storage.current.write ⟨"out/../b.h"⟩ .empty) = (.ok (), both) ∧
      sampleSession.run (Storage.current.write ⟨"out/../b.h"⟩ .empty) = (.ok (), second) ∧
      second.run (Storage.current.write ⟨"out/a.h"⟩ .empty) = (.ok (), both') ∧
      both'.files.Alike both.files := by
  have saved : (sampleSession.files.save (Storage.current.resolve ⟨"out/a.h"⟩) .empty).2 =
      .ok () := by decide +kernel
  obtain ⟨first, ran_first, files⟩ := exists_write_of_saved saved
  have finished : (first.files.save (Storage.current.resolve ⟨"out/../b.h"⟩) .empty).2 =
      .ok () := by
    rw [files]
    decide +kernel
  obtain ⟨both, ran_both, _⟩ := exists_write_of_saved finished
  obtain ⟨_, stores, _, commute⟩ :=
    write_stores_file Storage.current ⟨"out/a.h"⟩ .empty sampleSession
  refine ⟨⟨first, ran_first, (stores first ran_first).1⟩, ?_, ?_⟩
  · obtain ⟨after, ran, _⟩ :=
      (Storage.current.comesTo_write ⟨"new/../taken/a.h"⟩ .empty).exists_run sampleSession
    have failed : (sampleSession.files.save (Storage.current.resolve ⟨"new/../taken/a.h"⟩)
        .empty).2 = .error .alreadyExists := by decide +kernel
    rw [failed] at ran
    obtain ⟨_, _, fails, _⟩ :=
      write_stores_file Storage.current ⟨"new/../taken/a.h"⟩ .empty sampleSession
    exact ⟨_, after, ran, (fails _ after ran).1 _ (by decide +kernel)⟩
  · obtain ⟨second, both', ran_second, ran_both', alike⟩ :=
      commute ⟨"out/../b.h"⟩ .empty first both (by decide +kernel) ran_first ran_both
    exact ⟨first, both, second, both', ran_first, ran_both, ran_second, ran_both', alike⟩

end TemplateExport
