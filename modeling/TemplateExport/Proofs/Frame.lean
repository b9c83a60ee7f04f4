import TemplateExport.Proofs.Courses

namespace TemplateExport

namespace Generation

open Session FileTree

variable (g : Generation)

def headerPlace (t : FileTree) : Location :=
  t.locate (g.storage.resolve g.outputs.header)

def implementationPlace (t : FileTree) : Location :=
  t.locate (g.storage.resolve g.outputs.implementation)

/-- The locations on the way to the two generated files. -/
def OnWayOut (t : FileTree) (spot : Location) : Prop :=
  t.OnWay (g.storage.resolve g.outputs.header) spot ∨
    t.OnWay (g.storage.resolve g.outputs.implementation) spot

/-- A run reads the input and renders it to the sources. -/
def Generates (s : Session) (sources : Sources) : Prop :=
  ∃ config read made, s.run g.extract = (.ok config, read) ∧
    read.run (transform config) = (.ok sources, made)

/-- The header of the sources cannot be written. -/
def HeaderFails (sources : Sources) (s : Session) (problem : Problem) : Prop :=
  (s.run (g.storage.write g.outputs.header sources.header.toUTF8)).1 = .error problem

/-- The header of the sources can be written, and the implementation cannot be written after it. -/
def ImplementationFails (sources : Sources) (s : Session) (problem : Problem) : Prop :=
  ∃ half, s.run (g.storage.write g.outputs.header sources.header.toUTF8) = (.ok (), half) ∧
    (half.run (g.storage.write g.outputs.implementation
      sources.implementation.toUTF8)).1 = .error problem

variable {g} {s : Session}

theorem generates_of_configIn {config : Config} {sources : Sources}
    (valid : g.configIn s.files = .ok config) (rendered : config.render = .ok sources) :
    g.Generates s sources := by
  obtain ⟨read, extracted, same⟩ := g.comesTo_extract.exists_run s
  obtain ⟨made, transformed, _⟩ := (comesTo_transform config).exists_run read
  rw [valid] at extracted
  rw [rendered] at transformed
  exact ⟨config, read, made, extracted, transformed⟩

theorem headerFails_of_save {sources : Sources} {half : FileTree} {fault : FileFault}
    (failed : s.files.save (g.storage.resolve g.outputs.header) sources.header.toUTF8 =
      (half, .error fault)) : g.HeaderFails sources s (.file fault) := by
  rw [HeaderFails, (g.storage.comesTo_write _ _).answer_eq, failed]
  rfl

theorem implementationFails_of_save {sources : Sources} {half all : FileTree} {fault : FileFault}
    (saved : s.files.save (g.storage.resolve g.outputs.header) sources.header.toUTF8 =
      (half, .ok ()))
    (failed : half.save (g.storage.resolve g.outputs.implementation)
      sources.implementation.toUTF8 = (all, .error fault)) :
    g.ImplementationFails sources s (.file fault) := by
  obtain ⟨after, wrote, same⟩ :=
    (g.storage.comesTo_write g.outputs.header sources.header.toUTF8).exists_run s
  rw [saved] at wrote same
  refine ⟨after, wrote, ?_⟩
  rw [(g.storage.comesTo_write _ _).answer_eq, same, failed]
  rfl

/-- Behind a valid input nothing fails but the two writes. -/
theorem write_fails_of_course {config : Config} {sources : Sources} {problem : Problem}
    {t : FileTree} (valid : g.configIn s.files = .ok config)
    (rendered : config.render = .ok sources) (course : g.Course s.files (.error problem) t) :
    g.dryRun = false ∧ ∃ fault, problem = .file fault ∧
      (g.HeaderFails sources s problem ∨ g.ImplementationFails sources s problem) := by
  cases course with
  | refused invalid => cases valid.symm.trans invalid
  | @noHeader _ _ _ fault valid' rendered' real failed =>
    cases valid.symm.trans valid'
    cases rendered.symm.trans rendered'
    exact ⟨real, fault, rfl, Or.inl (headerFails_of_save failed)⟩
  | @headerOnly _ _ _ _ fault valid' rendered' real saved failed =>
    cases valid.symm.trans valid'
    cases rendered.symm.trans rendered'
    exact ⟨real, fault, rfl, Or.inr (implementationFails_of_save saved failed)⟩

theorem change_of_headerFails {t half : FileTree} {content : ByteArray} {fault : FileFault}
    (failed : t.save (g.storage.resolve g.outputs.header) content = (half, .error fault)) :
    Change (g.OnWayOut t) (fun _ => False) t half :=
  (change_of_save_error failed).mono (fun _ inside => Or.inl (onWay_of_mem_way inside)) fun _ => id

theorem change_of_header {t half : FileTree} {content : ByteArray}
    (saved : t.save (g.storage.resolve g.outputs.header) content = (half, .ok ())) :
    Change (g.OnWayOut t) (· = g.headerPlace t) t half :=
  (FileTree.saved saved).1.mono (fun _ inside => Or.inl (onWay_of_mem_way inside)) fun _ => id

/-- The ways to the two files are the same after the header is written. -/
theorem onWayOut_of_header {t half : FileTree} {content : ByteArray}
    (saved : t.save (g.storage.resolve g.outputs.header) content = (half, .ok ()))
    {spot : Location} (h : spot ∈ half.way (g.storage.resolve g.outputs.implementation)) :
    g.OnWayOut t spot :=
  Or.inr (((FileTree.saved saved).1.onWay_iff _ _).mp (onWay_of_mem_way h))

theorem change_of_headerOnly {t half all : FileTree} {header implementation : ByteArray}
    {fault : FileFault}
    (saved : t.save (g.storage.resolve g.outputs.header) header = (half, .ok ()))
    (failed : half.save (g.storage.resolve g.outputs.implementation) implementation =
      (all, .error fault)) : Change (g.OnWayOut t) (· = g.headerPlace t) t all :=
  (change_of_header saved).trans <|
    (change_of_save_error failed).mono (fun _ => onWayOut_of_header saved) fun _ => False.elim

theorem change_of_both {t half all : FileTree} {header implementation : ByteArray}
    (saved : t.save (g.storage.resolve g.outputs.header) header = (half, .ok ()))
    (finished : half.save (g.storage.resolve g.outputs.implementation) implementation =
      (all, .ok ())) :
    Change (g.OnWayOut t) (fun spot => spot = g.headerPlace t ∨ spot = g.implementationPlace t)
      t all := by
  have second := (FileTree.saved finished).1
  rw [(change_of_header saved).locate_eq] at second
  exact ((change_of_header saved).mono (fun _ => id) fun _ => Or.inl).trans <|
    second.mono (fun _ => onWayOut_of_header saved) fun _ => Or.inr

end Generation

open Generation FileTree

/-- What a run does to the files. A refused input leaves them as they are. Behind an accepted
input nothing can fail but the two writes. A failed write leaves new directories on the ways to
the outputs, and the header if it was the implementation that failed. A successful run changes
the two outputs, and nothing is gone. -/
theorem run_touches_only_outputs (g : Generation) (s : Session) :
    (∀ problem after, s.run g.run = (.error problem, after) → problem.category ≠ .files →
      after.files = s.files) ∧
    (∀ config read, s.run g.extract = (.ok config, read) → ∃ sources made,
      read.run (transform config) = (.ok sources, made) ∧ made.files = s.files ∧
      ∀ problem after, s.run g.run = (.error problem, after) → g.dryRun = false ∧
        (g.HeaderFails sources s problem ∨ g.ImplementationFails sources s problem)) ∧
    (∀ problem after, s.run g.run = (.error problem, after) → problem.category = .files →
      Change (g.OnWayOut s.files) (fun spot => spot = g.headerPlace s.files ∧
        ∃ sources, g.Generates s sources ∧ g.ImplementationFails sources s problem)
        s.files after.files) ∧
    ∀ report after, s.run g.run = (.ok report, after) →
      Change (g.OnWayOut s.files)
        (fun spot => spot = g.headerPlace s.files ∨ spot = g.implementationPlace s.files)
        s.files after.files ∧
      ∀ spot, s.files.look spot ≠ none → after.files.look spot ≠ none := by
  refine ⟨?_, ?_, ?_, ?_⟩
  · intro problem after ran category
    have course := course_run ran
    generalize after.files = t at course ⊢
    cases course with
    | refused => rfl
    | noHeader | headerOnly => exact absurd rfl category
  · intro config read extracted
    obtain ⟨valid, same⟩ := Prod.mk.inj (g.comesTo_extract.effect_eq extracted)
    obtain ⟨sources, rendered⟩ := render_of_configIn valid
    obtain ⟨made, transformed, kept⟩ := (comesTo_transform config).exists_run read
    rw [rendered] at transformed
    refine ⟨sources, made, transformed, kept.trans same.symm, ?_⟩
    intro problem after ran
    obtain ⟨real, _, _, fails⟩ := write_fails_of_course valid rendered (course_run ran)
    exact ⟨real, fails⟩
  · intro problem after ran category
    have course := course_run ran
    generalize after.files = t at course ⊢
    cases course with
    | refused => exact Change.refl _
    | noHeader valid rendered real failed =>
      exact (change_of_headerFails failed).mono (fun _ => id) fun _ => False.elim
    | headerOnly valid rendered real saved failed =>
      refine (change_of_headerOnly saved failed).mono (fun _ => id) ?_
      intro spot place
      exact ⟨place, _, generates_of_configIn valid rendered,
        implementationFails_of_save saved failed⟩
  · intro report after ran
    have course := course_run ran
    have change : Change (g.OnWayOut s.files)
        (fun spot => spot = g.headerPlace s.files ∨ spot = g.implementationPlace s.files)
        s.files after.files := by
      generalize after.files = t at course ⊢
      cases course with
      | foretold => exact Change.refl _
      | delivered valid rendered real saved finished => exact change_of_both saved finished
    exact ⟨change, fun _ => change.remains⟩

/-- A run on an input that says nothing, one whose implementation has a file in its way, and one
that succeeds. -/
theorem sample_runs_touch_only_outputs :
    (∃ problem after,
      sampleSession.run (sampleRun "empty.json" "a.h" "a.cpp" false).run =
        (.error problem, after) ∧ after.files = sampleSession.files) ∧
    (∃ sources problem after,
      sampleSession.run (sampleRun "library.json" "out/a.h" "taken/a.cpp" false).run =
        (.error problem, after) ∧ problem.category = .files ∧
      ((sampleRun "library.json" "out/a.h" "taken/a.cpp" false).HeaderFails sources sampleSession
          problem ∨
        (sampleRun "library.json" "out/a.h" "taken/a.cpp" false).ImplementationFails sources
          sampleSession problem) ∧
      ∀ spot content, spot ≠ ["a.h", "out", "work"] →
        sampleSession.files.look spot = some (.file content) →
        after.files.look spot = some (.file content)) ∧
    ∃ report after,
      sampleSession.run (sampleRun "library.json" "a.h" "a.cpp" false).run = (.ok report, after) ∧
      ∀ spot, sampleSession.files.look spot ≠ none → after.files.look spot ≠ none := by
  have valid := configIn_library
  obtain ⟨sources, rendered⟩ := render_of_configIn (valid "a.h" "a.cpp" false)
  refine ⟨?_, ?_, ?_⟩
  · obtain ⟨after, ran⟩ := run_of_refused (configIn_empty "a.h" "a.cpp" false)
    exact ⟨_, after, ran, (run_touches_only_outputs _ _).1 _ _ ran (by decide)⟩
  · obtain ⟨after, ran⟩ := run_of_rendered (valid "out/a.h" "taken/a.cpp" false) rendered
    obtain ⟨read, extracted, _⟩ :=
      (sampleRun "library.json" "out/a.h" "taken/a.cpp" false).comesTo_extract.exists_run
        sampleSession
    rw [valid] at extracted
    obtain ⟨_, behind, blocked, _⟩ := run_touches_only_outputs
      (sampleRun "library.json" "out/a.h" "taken/a.cpp" false) sampleSession
    obtain ⟨made, _, _, _, writes⟩ := behind _ _ extracted
    refine ⟨made, _, after, ran, rfl, (writes _ _ ran).2, ?_⟩
    intro spot content elsewhere there
    exact (blocked _ _ ran rfl).file_stays there fun h => elsewhere h.1
  · obtain ⟨after, ran⟩ := run_of_rendered (valid "a.h" "a.cpp" false) rendered
    exact ⟨_, after, ran, ((run_touches_only_outputs _ _).2.2.2 _ _ ran).2⟩

end TemplateExport
