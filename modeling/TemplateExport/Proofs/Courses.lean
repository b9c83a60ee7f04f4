import TemplateExport.Proofs.Runs
import TemplateExport.Proofs.WrittenConfigs

namespace TemplateExport

namespace Session.ComesTo

variable {α : Type} {act : SessionM α} {effect : FileTree → Except Problem α × FileTree}

theorem effect_eq (h : ComesTo act effect) {s after : Session} {answer : Except Problem α}
    (ran : s.run act = (answer, after)) : effect s.files = (answer, after.files) := by
  obtain ⟨messages, same⟩ := h s
  rw [ran] at same
  cases same
  rfl

theorem exists_run (h : ComesTo act effect) (s : Session) :
    ∃ after, s.run act = ((effect s.files).1, after) ∧ after.files = (effect s.files).2 := by
  obtain ⟨messages, same⟩ := h s
  exact ⟨_, same, rfl⟩

theorem answer_eq (h : ComesTo act effect) (s : Session) : (s.run act).1 = (effect s.files).1 := by
  obtain ⟨messages, same⟩ := h s
  rw [same]

end Session.ComesTo

namespace Generation

open Session FileTree

/-- The ways that a run can take, from the files before it to its answer and the files after it. -/
inductive Course (g : Generation) (t : FileTree) : Except Problem Report → FileTree → Prop where
  | refused {problem : Problem} (invalid : g.configIn t = .error problem) :
      Course g t (.error problem) t
  | foretold {config : Config} {sources : Sources} (valid : g.configIn t = .ok config)
      (rendered : config.render = .ok sources) (dry : g.dryRun = true) :
      Course g t (.ok ⟨none, sources.symbols⟩) t
  | noHeader {config : Config} {sources : Sources} {half : FileTree} {fault : FileFault}
      (valid : g.configIn t = .ok config) (rendered : config.render = .ok sources)
      (real : g.dryRun = false)
      (failed : t.save (g.storage.resolve g.outputs.header) sources.header.toUTF8 =
        (half, .error fault)) : Course g t (.error (.file fault)) half
  | headerOnly {config : Config} {sources : Sources} {half all : FileTree} {fault : FileFault}
      (valid : g.configIn t = .ok config) (rendered : config.render = .ok sources)
      (real : g.dryRun = false)
      (saved : t.save (g.storage.resolve g.outputs.header) sources.header.toUTF8 =
        (half, .ok ()))
      (failed : half.save (g.storage.resolve g.outputs.implementation)
        sources.implementation.toUTF8 = (all, .error fault)) : Course g t (.error (.file fault)) all
  | delivered {config : Config} {sources : Sources} {half all : FileTree}
      (valid : g.configIn t = .ok config) (rendered : config.render = .ok sources)
      (real : g.dryRun = false)
      (saved : t.save (g.storage.resolve g.outputs.header) sources.header.toUTF8 =
        (half, .ok ()))
      (finished : half.save (g.storage.resolve g.outputs.implementation)
        sources.implementation.toUTF8 = (all, .ok ())) :
      Course g t (.ok ⟨some g.outputs, sources.symbols⟩) all

variable {g : Generation} {t : FileTree}

theorem effect_of_refused {problem : Problem} (invalid : g.configIn t = .error problem) :
    g.effect t = (.error problem, t) := by
  rw [effect, followed_of_look, invalid]
  rfl

theorem effect_of_rendered {config : Config} {sources : Sources}
    (valid : g.configIn t = .ok config) (rendered : config.render = .ok sources) :
    g.effect t = g.delivery sources t := by
  have sourced : g.configIn t >>= Config.render = .ok sources := by
    rw [valid]
    exact rendered
  rw [effect, followed_of_look, sourced]

variable (g t) in
theorem course_effect : g.Course t (g.effect t).1 (g.effect t).2 := by
  cases valid : g.configIn t with
  | error problem =>
    rw [effect_of_refused valid]
    exact .refused valid
  | ok config =>
    obtain ⟨sources, rendered⟩ := render_of_configIn valid
    rw [effect_of_rendered valid rendered]
    cases dry : g.dryRun with
    | true =>
      simp only [delivery, dry, ↓reduceIte]
      exact .foretold valid rendered dry
    | false =>
      simp only [delivery, dry, Bool.false_eq_true, ↓reduceIte]
      rcases saved : t.save (g.storage.resolve g.outputs.header) sources.header.toUTF8 with
        ⟨half, fault | _⟩
      · exact .noHeader valid rendered dry saved
      · rcases finished : half.save (g.storage.resolve g.outputs.implementation)
          sources.implementation.toUTF8 with ⟨all, fault | _⟩
        · simp only [finished]
          exact .headerOnly valid rendered dry saved finished
        · simp only [finished]
          exact .delivered valid rendered dry saved finished

theorem run_of_refused {s : Session} {problem : Problem}
    (invalid : g.configIn s.files = .error problem) :
    ∃ after, s.run g.run = (.error problem, after) := by
  obtain ⟨after, ran, _⟩ := g.comesTo_run.exists_run s
  rw [effect_of_refused invalid] at ran
  exact ⟨after, ran⟩

theorem run_of_rendered {s : Session} {config : Config} {sources : Sources}
    (valid : g.configIn s.files = .ok config) (rendered : config.render = .ok sources) :
    ∃ after, s.run g.run = ((g.delivery sources s.files).1, after) := by
  obtain ⟨after, ran, _⟩ := g.comesTo_run.exists_run s
  rw [effect_of_rendered valid rendered] at ran
  exact ⟨after, ran⟩

theorem course_run {s after : Session} {answer : Except Problem Report}
    (ran : s.run g.run = (answer, after)) : g.Course s.files answer after.files := by
  have course := g.course_effect s.files
  rwa [g.comesTo_run.effect_eq ran] at course

end Generation

theorem Utf8.decode_toUTF8 (s : String) : decode s.toUTF8 = .ok s := by
  have h : String.fromUTF8? s.toUTF8 = some s := by
    simp [String.fromUTF8?, s.isValidUTF8, String.fromUTF8]
  rw [decode, h]

/-- The bytes of a configuration as it is written in full. -/
def Config.bytes (c : Config) : ByteArray :=
  (String.ofList (Json.print c.toTree)).toUTF8

theorem Generation.configIn_of_bytes {g : Generation} {t : FileTree} {c : Config}
    (there : t.read (g.storage.resolve g.input) = .ok c.bytes)
    (json : Format.ofPath g.input = .json) : g.configIn t = c.validate >>= fun _ => .ok c := by
  rw [g.configIn_eq_text, FileTree.text_of_decoded there (Utf8.decode_toUTF8 _), json]
  simp only [bind, Except.bind, Config.ofValidText, Config.ofText_of_written c.written_toTree]
  rfl

/-- A directory with a valid configuration, one that says nothing, and a file in the way. -/
def sampleSession : Session :=
  .start
    { entries :=
        [(["work"], .directory), (["library.json", "work"], .file sampleLibrary.bytes),
          (["empty.json", "work"], .file (default : Config).bytes),
          (["taken", "work"], .file .empty)]
      here := ["work"] }

def sampleRun (input header implementation : String) (dryRun : Bool) : Generation where
  storage := .current
  input := ⟨input⟩
  outputs := ⟨⟨header⟩, ⟨implementation⟩⟩
  dryRun := dryRun

theorem configIn_library (header implementation : String) (dryRun : Bool) :
    (sampleRun "library.json" header implementation dryRun).configIn sampleSession.files =
      .ok sampleLibrary := by
  let g := sampleRun "library.json" header implementation dryRun
  have there : sampleSession.files.read (Storage.current.resolve ⟨"library.json"⟩) =
      .ok sampleLibrary.bytes := rfl
  have json : Format.ofPath ⟨"library.json"⟩ = .json := by decide +kernel
  rw [Generation.configIn_of_bytes (g := g) there json, sampleLibrary_validate]
  rfl

theorem configIn_empty (header implementation : String) (dryRun : Bool) :
    (sampleRun "empty.json" header implementation dryRun).configIn sampleSession.files =
      .error (.missingField "linkage-macro") := by
  let g := sampleRun "empty.json" header implementation dryRun
  have there : sampleSession.files.read (Storage.current.resolve ⟨"empty.json"⟩) =
      .ok (default : Config).bytes := rfl
  have json : Format.ofPath ⟨"empty.json"⟩ = .json := by decide +kernel
  rw [Generation.configIn_of_bytes (g := g) there json]
  rfl

end TemplateExport
