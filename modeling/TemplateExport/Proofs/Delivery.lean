import TemplateExport.Proofs.Frame

namespace TemplateExport

open Generation FileTree

/-- A dry run changes no file. Its problem is the problem of the real run, and its symbols are the
symbols of the real run unless one of the two writes fails. -/
theorem dry_run_foretells {g : Generation} {s foreseen done : Session}
    {dry real : Except Problem Report}
    (tried : s.run { g with dryRun := true }.run = (dry, foreseen))
    (performed : s.run { g with dryRun := false }.run = (real, done)) :
    foreseen.files = s.files ∧
    (∀ problem, dry = .error problem → real = .error problem ∧ done.files = s.files) ∧
    (∀ report, dry = .ok report → report.written = none ∧
      (real = .ok ⟨some g.outputs, report.symbols⟩ ∨
        ∃ fault sources, real = .error (.file fault) ∧ g.Generates s sources ∧
          (g.HeaderFails sources s (.file fault) ∨
            g.ImplementationFails sources s (.file fault)))) ∧
    ∀ report, real = .ok report → ∃ foretold, dry = .ok foretold := by
  have guess := course_run tried
  have course := course_run performed
  generalize foreseen.files = t at guess ⊢
  generalize done.files = t' at course ⊢
  cases guess with
  | refused invalid =>
    cases course with
    | refused invalid' =>
      cases invalid.symm.trans invalid'
      simp
    | noHeader valid | headerOnly valid | delivered valid => cases invalid.symm.trans valid
    | foretold _ _ dry => cases dry
  | foretold valid rendered =>
    refine ⟨rfl, by simp, ?_, fun _ _ => ⟨_, rfl⟩⟩
    intro report foretold
    cases foretold
    refine ⟨rfl, ?_⟩
    cases real with
    | error problem =>
      obtain ⟨_, fault, rfl, fails⟩ :=
        write_fails_of_course (g := { g with dryRun := false }) valid rendered course
      exact Or.inr ⟨fault, _, rfl, generates_of_configIn valid rendered, fails⟩
    | ok =>
      cases course with
      | foretold _ _ dry => cases dry
      | delivered valid' rendered' =>
        cases valid.symm.trans valid'
        cases rendered.symm.trans rendered'
        exact Or.inl rfl
  | noHeader _ _ real | headerOnly _ _ real | delivered _ _ real => cases real

/-- The dry run of a run that is refused, of one that fails when it writes, and of one that
succeeds. -/
theorem sample_dry_runs_foretell :
    (∃ problem foreseen done,
      sampleSession.run (sampleRun "empty.json" "a.h" "a.cpp" true).run =
        (.error problem, foreseen) ∧
      sampleSession.run (sampleRun "empty.json" "a.h" "a.cpp" false).run =
        (.error problem, done) ∧
      foreseen.files = sampleSession.files ∧ done.files = sampleSession.files) ∧
    (∃ symbols foreseen fault done,
      sampleSession.run (sampleRun "library.json" "out/a.h" "taken/a.cpp" true).run =
        (.ok ⟨none, symbols⟩, foreseen) ∧
      sampleSession.run (sampleRun "library.json" "out/a.h" "taken/a.cpp" false).run =
        (.error (.file fault), done) ∧ foreseen.files = sampleSession.files) ∧
    ∃ symbols foreseen done,
      sampleSession.run (sampleRun "library.json" "a.h" "a.cpp" true).run =
        (.ok ⟨none, symbols⟩, foreseen) ∧
      sampleSession.run (sampleRun "library.json" "a.h" "a.cpp" false).run =
        (.ok ⟨some ⟨⟨"a.h"⟩, ⟨"a.cpp"⟩⟩, symbols⟩, done) ∧
      foreseen.files = sampleSession.files := by
  have valid := configIn_library
  obtain ⟨sources, rendered⟩ := render_of_configIn (valid "a.h" "a.cpp" false)
  refine ⟨?_, ?_, ?_⟩
  · obtain ⟨foreseen, tried⟩ := run_of_refused (configIn_empty "a.h" "a.cpp" true)
    obtain ⟨done, performed⟩ := run_of_refused (configIn_empty "a.h" "a.cpp" false)
    obtain ⟨unchanged, refused, _⟩ := dry_run_foretells
      (g := sampleRun "empty.json" "a.h" "a.cpp" false) tried performed
    exact ⟨_, foreseen, done, tried, performed, unchanged, (refused _ rfl).2⟩
  · obtain ⟨foreseen, tried⟩ := run_of_rendered (valid "out/a.h" "taken/a.cpp" true) rendered
    obtain ⟨done, performed⟩ := run_of_rendered (valid "out/a.h" "taken/a.cpp" false) rendered
    obtain ⟨unchanged, _⟩ := dry_run_foretells
      (g := sampleRun "library.json" "out/a.h" "taken/a.cpp" false) tried performed
    exact ⟨_, foreseen, .alreadyExists, done, tried, performed, unchanged⟩
  · obtain ⟨foreseen, tried⟩ := run_of_rendered (valid "a.h" "a.cpp" true) rendered
    obtain ⟨done, performed⟩ := run_of_rendered (valid "a.h" "a.cpp" false) rendered
    obtain ⟨unchanged, _⟩ := dry_run_foretells
      (g := sampleRun "library.json" "a.h" "a.cpp" false) tried performed
    exact ⟨_, foreseen, done, tried, performed, unchanged⟩

theorem Config.texts_of_render {c : Config} {sources : Sources} (h : c.render = .ok sources) :
    c.header = .ok sources.header ∧ c.implementation = .ok sources.implementation := by
  unfold render at h
  cases symbols : c.exportedSymbols <;> cases header : c.header <;>
    cases implementation : c.implementation <;>
    simp_all [bind, Except.bind, pure, Except.pure]
  cases h
  exact ⟨rfl, rfl⟩

theorem Storage.answer_of_read {st : Storage} {s : Session} {p : Path} {content : ByteArray}
    (reached : s.files.Reaches (st.resolve p))
    (there : s.files.look (s.files.locate (st.resolve p)) = some (.file content)) :
    (s.run (st.read p)).1 = .ok content := by
  rw [(st.comesTo_read p).answer_eq, read_eq_ok_iff.mpr ⟨reached, there⟩]
  rfl

/-- A run that answers without a problem has written both files, if it is no dry run. -/
theorem Generation.delivered_of_run {g : Generation} {s after : Session} {report : Report}
    (real : g.dryRun = false) (ran : s.run g.run = (.ok report, after)) :
    ∃ config sources half, g.configIn s.files = .ok config ∧ config.render = .ok sources ∧
      report = ⟨some g.outputs, sources.symbols⟩ ∧
      s.files.save (g.storage.resolve g.outputs.header) sources.header.toUTF8 = (half, .ok ()) ∧
      half.save (g.storage.resolve g.outputs.implementation) sources.implementation.toUTF8 =
        (after.files, .ok ()) := by
  have course := course_run ran
  generalize after.files = t at course ⊢
  cases course with
  | foretold _ _ dry => cases real.symm.trans dry
  | delivered valid rendered _ saved finished =>
    exact ⟨_, _, _, valid, rendered, rfl, saved, finished⟩

/-- After both writes, the implementation is where its path leads, and so is the header unless
its path leads there too. -/
theorem Generation.reads_after_both {g : Generation} {s after : Session} {half : FileTree}
    {header implementation : ByteArray}
    (saved : s.files.save (g.storage.resolve g.outputs.header) header = (half, .ok ()))
    (finished : half.save (g.storage.resolve g.outputs.implementation) implementation =
      (after.files, .ok ())) :
    (after.run (g.storage.read g.outputs.implementation)).1 = .ok implementation ∧
    (after.run (g.storage.read g.outputs.header)).1 =
      .ok (if g.headerPlace s.files = g.implementationPlace s.files then implementation
        else header) := by
  obtain ⟨first, header_reached, header_there⟩ := FileTree.saved saved
  obtain ⟨second, reached, there⟩ := FileTree.saved finished
  have place : half.locate (g.storage.resolve g.outputs.implementation) =
      g.implementationPlace s.files := first.locate_eq _
  have same_header : after.files.locate (g.storage.resolve g.outputs.header) =
      g.headerPlace s.files := (second.locate_eq _).trans (first.locate_eq _)
  have same_implementation :
      after.files.locate (g.storage.resolve g.outputs.implementation) =
        g.implementationPlace s.files := (second.locate_eq _).trans place
  rw [place] at second there
  constructor
  · refine Storage.answer_of_read reached ?_
    rw [same_implementation]
    exact there
  · refine Storage.answer_of_read (header_reached.of_change second) ?_
    rw [same_header]
    split
    next same =>
      rw [same]
      exact there
    next apart => exact second.file_stays header_there apart

/-- A successful run delivers both files, made from the configuration that it has read at its
start. If the two paths lead to one place, it is the implementation that stays there. -/
theorem successful_run_delivers {g : Generation} {s after : Session} {report : Report}
    (real : g.dryRun = false) (ran : s.run g.run = (.ok report, after)) :
    ∃ config read header implementation, s.run g.extract = (.ok config, read) ∧
      config.header = .ok header ∧ config.implementation = .ok implementation ∧
      report.written = some g.outputs ∧
      (after.run (g.storage.read g.outputs.implementation)).1 = .ok implementation.toUTF8 ∧
      (after.run (g.storage.read g.outputs.header)).1 =
        .ok (if g.headerPlace s.files = g.implementationPlace s.files then implementation.toUTF8
          else header.toUTF8) := by
  obtain ⟨config, sources, half, valid, rendered, same, saved, finished⟩ :=
    delivered_of_run real ran
  obtain ⟨header, implementation⟩ := Config.texts_of_render rendered
  obtain ⟨read, extracted, _⟩ := g.comesTo_extract.exists_run s
  rw [valid] at extracted
  obtain ⟨implementation_read, header_read⟩ := reads_after_both saved finished
  exact ⟨config, read, _, _, extracted, header, implementation, by rw [same],
    implementation_read, header_read⟩

theorem sample_run_delivers : ∃ report after header implementation,
    sampleSession.run (sampleRun "library.json" "out/a.h" "a.cpp" false).run =
      (.ok report, after) ∧
    sampleLibrary.header = .ok header ∧ sampleLibrary.implementation = .ok implementation ∧
    (after.run (Storage.current.read ⟨"out/a.h"⟩)).1 = .ok header.toUTF8 ∧
    (after.run (Storage.current.read ⟨"a.cpp"⟩)).1 = .ok implementation.toUTF8 := by
  have valid := configIn_library "out/a.h" "a.cpp" false
  obtain ⟨sources, rendered⟩ := render_of_configIn valid
  obtain ⟨after, ran⟩ := run_of_rendered valid rendered
  obtain ⟨config, read, header, implementation, extracted, hh, hi, _, implementation_read,
    header_read⟩ := successful_run_delivers rfl ran
  obtain ⟨found, _⟩ := Prod.mk.inj ((comesTo_extract _).effect_eq extracted)
  cases valid.symm.trans found
  have apart : (sampleRun "library.json" "out/a.h" "a.cpp" false).headerPlace
        sampleSession.files ≠
      (sampleRun "library.json" "out/a.h" "a.cpp" false).implementationPlace
        sampleSession.files := by
    decide +kernel
  rw [if_neg apart] at header_read
  exact ⟨_, after, header, implementation, ran, hh, hi, header_read, implementation_read⟩

/-- Where both paths mean one file, the run succeeds and the header is lost. -/
theorem outputs_at_one_place_lose_header : ∃ report after header,
    sampleSession.run (sampleRun "library.json" "a.h" "./a.h" false).run = (.ok report, after) ∧
    report.written = some ⟨⟨"a.h"⟩, ⟨"./a.h"⟩⟩ ∧
    (sampleSession.run (sampleRun "library.json" "a.h" "./a.h" false).extract).1 =
      .ok sampleLibrary ∧
    sampleLibrary.header = .ok header ∧
    (after.run (Storage.current.read ⟨"a.h"⟩)).1 ≠ .ok header.toUTF8 := by
  have valid := configIn_library "a.h" "./a.h" false
  obtain ⟨sources, rendered⟩ := render_of_configIn valid
  obtain ⟨after, ran⟩ := run_of_rendered valid rendered
  obtain ⟨config, sources', half, valid', rendered', _, saved, finished⟩ := delivered_of_run rfl ran
  cases valid.symm.trans valid'
  cases rendered.symm.trans rendered'
  have extracted := (comesTo_extract (sampleRun "library.json" "a.h" "./a.h" false)).answer_eq
    sampleSession
  rw [valid] at extracted
  refine ⟨_, after, sources.header, ran, rfl, extracted, (Config.texts_of_render rendered).1, ?_⟩
  have one_place : (sampleRun "library.json" "a.h" "./a.h" false).headerPlace sampleSession.files =
      (sampleRun "library.json" "a.h" "./a.h" false).implementationPlace sampleSession.files := rfl
  obtain ⟨_, header_read⟩ := reads_after_both saved finished
  rw [if_pos one_place] at header_read
  intro kept
  have bytes := Except.ok.inj (header_read.symm.trans kept)
  have texts : sources.implementation = sources.header := by
    have decoded := congrArg Utf8.decode bytes
    rw [Utf8.decode_toUTF8, Utf8.decode_toUTF8] at decoded
    exact Except.ok.inj decoded
  obtain ⟨_, header, implementation⟩ := Config.render_eq_ok_iff.mp rendered
  have apart : Line.join (Config.dropFinalBlanks sampleLibrary.definitionLines) ≠
      sampleLibrary.headerText := by decide +kernel
  exact apart (implementation.symm.trans (texts.trans header))

end TemplateExport
