import TemplateExport.CommandLine.Run
import TemplateExport.Proofs.Courses

namespace TemplateExport

namespace Session

variable {α β : Type} {s : Session}

theorem run_observing (s : Session) (act : SessionM α) :
    s.run (observing act) = (.ok (s.run act).1, (s.run act).2) := by
  unfold Session.run ExceptT.run StateT.run
  simp only [observing, tryCatch, tryCatchThe, MonadExceptOf.tryCatch, ExceptT.tryCatch,
    ExceptT.mk, bind, ExceptT.bind, StateT.bind, ExceptT.bindCont]
  cases act s with
  | mk answer after => cases answer <;> rfl

/-- An act ends with an answer, leaves files behind and has printed lines. Of the rest it only adds
to the messages. -/
def Ends (s : Session) (act : SessionM α) (answer : Except Problem α) (files : FileTree)
    (lines : List String) : Prop :=
  ∃ messages, s.run act = (answer, ⟨files, s.printed ++ lines.toArray, messages⟩)

theorem ends_of_comesTo {act : SessionM α} {effect : FileTree → Except Problem α × FileTree}
    (h : ComesTo act effect) : s.Ends act (effect s.files).1 (effect s.files).2 [] := by
  obtain ⟨messages, ran⟩ := h s
  exact ⟨messages, by simpa using ran⟩

theorem comesTo_tell_bind (text : String) {act : SessionM α}
    {effect : FileTree → Except Problem α × FileTree} (h : ComesTo act effect) :
    ComesTo (Host.tell text >>= fun _ => act) effect := by
  have told : ComesTo (Host.tell text : SessionM Unit) fun t => (.ok (), t) :=
    fun s => ⟨s.messages.push (.told text), rfl⟩
  exact comesTo_bind told fun _ => h

theorem ends_print (line : String) :
    s.Ends (Host.print line : SessionM Unit) (.ok ()) s.files [line] := by
  refine ⟨s.messages, ?_⟩
  change (Except.ok (), { s with printed := s.printed.push line }) = _
  rw [Array.push_eq_append]

namespace Ends

variable {act : SessionM α} {rest : α → SessionM β} {files after : FileTree}
  {lines more : List String}

theorem bind {a : α} {answer : Except Problem β} (h : s.Ends act (.ok a) files lines)
    (hrest : ∀ messages, Ends ⟨files, s.printed ++ lines.toArray, messages⟩ (rest a) answer after
      more) : s.Ends (act >>= rest) answer after (lines ++ more) := by
  obtain ⟨messages, ran⟩ := h
  obtain ⟨all, ended⟩ := hrest messages
  refine ⟨all, ?_⟩
  rw [run_bind, ran]
  simpa using ended

theorem bind_pure {a : α} (h : s.Ends act (.ok a) files lines) (b : β) :
    s.Ends (act >>= fun _ => pure b) (.ok b) files lines := by
  obtain ⟨messages, ran⟩ := h
  exact ⟨messages, by rw [run_bind, ran]; rfl⟩

theorem log_bind {answer : Except Problem α} (event : Event)
    (h : ∀ messages, Ends { s with messages } act answer files lines) :
    s.Ends (Host.log event >>= fun _ => act) answer files lines := by
  obtain ⟨messages, ran⟩ := h (s.messages.push (.logged event))
  exact ⟨messages, by rw [run_bind]; exact ran⟩

theorem observing {answer : Except Problem α} (h : s.Ends act answer files lines) :
    s.Ends (observing act) (.ok answer) files lines := by
  obtain ⟨messages, ran⟩ := h
  exact ⟨messages, by rw [run_observing, ran]⟩

end Ends

theorem ends_forM_print (texts : List String) :
    s.Ends (texts.forM fun text => (Host.print text : SessionM Unit)) (.ok ()) s.files texts := by
  induction texts generalizing s with
  | nil => exact ends_of_comesTo (comesTo_pure ())
  | cons text rest ih => exact (ends_print text).bind fun _ => ih

end Session

/-- The lines of result that announce a report. -/
def Report.lines (report : Report) : List String :=
  match report.written with
  | some outputs =>
    ["Header: " ++ outputs.header.text, "Implementation: " ++ outputs.implementation.text]
  | none => report.symbols

/-- What a run of the command line comes to. -/
structure Outcome where
  status : Nat
  files : FileTree
  lines : List String

namespace Arguments

open Session Generation

def outcome (a : Arguments) (t : FileTree) : Outcome :=
  match a.check with
  | .error problem => ⟨problem.exitCode, t, []⟩
  | .ok () =>
    match a.generation.effect t with
    | (.ok report, after) => ⟨0, after, report.lines⟩
    | (.error problem, after) => ⟨problem.exitCode, after, []⟩

theorem ends_announce {s : Session} (report : Report) :
    s.Ends (announce report) (.ok ()) s.files report.lines := by
  unfold announce Report.lines
  cases report.written with
  | none => exact ends_forM_print report.symbols
  | some outputs => exact (ends_print _).bind fun _ => ends_print _

/-- The part of a run behind the check of the arguments. -/
theorem ends_generation {s : Session} (a : Arguments)
    {finish : Except Problem Report → SessionM Nat}
    {outcome : Outcome}
    (h : ∀ messages, Ends ⟨(a.generation.effect s.files).2, s.printed, messages⟩
      (finish (a.generation.effect s.files).1) (.ok outcome.status) outcome.files outcome.lines) :
    s.Ends (do
      if a.dryRun then
        Host.log .dryRun
      finish (← observing a.generation.run)) (.ok outcome.status) outcome.files outcome.lines := by
  have ran (messages : Array Message) : Ends { s with messages } (observing a.generation.run)
      (.ok (a.generation.effect s.files).1) (a.generation.effect s.files).2 [] :=
    (ends_of_comesTo a.generation.comesTo_run).observing
  have finished (messages : Array Message) :
      Ends { s with messages } (observing a.generation.run >>= finish) (.ok outcome.status)
        outcome.files outcome.lines :=
    (ran messages).bind fun more => by simpa using h more
  cases a.dryRun with
  | true => exact Ends.log_bind _ finished
  | false => exact finished s.messages

theorem ends_run {s : Session} (a : Arguments) :
    s.Ends a.run (.ok (a.outcome s.files).status) (a.outcome s.files).files
      (a.outcome s.files).lines := by
  unfold run outcome
  refine Ends.log_bind _ fun _ => Ends.log_bind _ fun _ => ?_
  cases checked : a.check with
  | error problem =>
    exact ends_of_comesTo <| comesTo_log_bind _ <| comesTo_log_bind _ <| comesTo_tell_bind _ <|
      comesTo_pure problem.exitCode
  | ok =>
    refine ends_generation a fun _ => ?_
    rcases a.generation.effect s.files with ⟨problem | report, after⟩
    · exact ends_of_comesTo <| comesTo_log_bind _ <| comesTo_log_bind _ <| comesTo_tell_bind _ <|
        comesTo_tell_bind _ <| comesTo_pure problem.exitCode
    · refine Ends.log_bind _ fun _ => ?_
      exact (ends_announce report).bind_pure 0

/-- What the exit status and the output of a command line tell about its run: 0 is for success, 3
for a fault of the files and 1 for any other fault, behind which the files are as they were. Only
a success prints something: where the two files are, or without files what they would export. -/
structure Tells (a : Arguments) (before : FileTree) (status : Nat) (after : Session) : Prop where
  success : status = 0 ↔ a.check = .ok () ∧
    ∃ report, ((Session.start before).run a.generation.run).1 = .ok report
  fileFault : status = 3 ↔ a.check = .ok () ∧
    ∃ problem, ((Session.start before).run a.generation.run).1 = .error problem ∧
      problem.category = .files
  otherFault : status = 1 ↔ (∃ problem, a.check = .error problem) ∨ a.check = .ok () ∧
    ∃ problem, ((Session.start before).run a.generation.run).1 = .error problem ∧
      problem.category ≠ .files
  untouched : status = 1 ∨ a.dryRun = true → after.files = before
  silent : status ≠ 0 → after.output = ""
  places : status = 0 → a.dryRun = false →
    after.output =
      "Header: " ++ a.outputHeader ++ "\n" ++ ("Implementation: " ++ a.outputImpl ++ "\n")
  symbols : status = 0 → a.dryRun = true → ∃ config symbols,
    ((Session.start before).run a.generation.extract).1 = .ok config ∧
    config.exportedSymbols = .ok symbols ∧ after.output = String.join (symbols.map (· ++ "\n"))

end Arguments

namespace Problem

theorem exitCode_eq_three_iff {problem : Problem} :
    problem.exitCode = 3 ↔ problem.category = .files := by
  unfold exitCode
  cases problem.category <;> simp

theorem exitCode_eq_one_iff {problem : Problem} :
    problem.exitCode = 1 ↔ problem.category ≠ .files := by
  unfold exitCode
  cases problem.category <;> simp

theorem exitCode_ne_zero (problem : Problem) : problem.exitCode ≠ 0 := by
  unfold exitCode
  cases problem.category <;> simp

end Problem

theorem Check.error_of_bind {first second : Check} {problem : Problem}
    (h : (first >>= fun _ => second) = .error problem) :
    first = .error problem ∨ second = .error problem := by
  cases first with
  | error => exact Or.inl h
  | ok => exact Or.inr h

theorem category_of_checkPath {field path : String} {problem : Problem}
    (h : checkPath field path = .error problem) : problem.category ≠ .files := by
  unfold checkPath at h
  split at h
  · cases h
    simp [Problem.category]
  · split at h <;> cases h
    simp [Problem.category]

namespace Arguments

open Session Generation

variable {a : Arguments} {before : FileTree} {after : Session}

theorem category_of_check {problem : Problem} (h : a.check = .error problem) :
    problem.category ≠ .files := by
  rcases Check.error_of_bind h with h | h
  · exact category_of_checkPath h
  · rcases Check.error_of_bind h with h | h <;> exact category_of_checkPath h

theorem tells_of_refusal {problem : Problem} (refused : a.check = .error problem)
    (same : after.files = before) (silent : after.output = "") :
    a.Tells before problem.exitCode after := by
  have status : problem.exitCode = 1 := Problem.exitCode_eq_one_iff.mpr (category_of_check refused)
  rw [status]
  constructor <;> simp [refused, same, silent]

theorem tells_of_failure {problem : Problem} (checked : a.check = .ok ())
    (failed : ((Session.start before).run a.generation.run).1 = .error problem)
    (kept : problem.category ≠ .files ∨ a.dryRun = true → after.files = before)
    (silent : after.output = "") : a.Tells before problem.exitCode after where
  success := by simp [problem.exitCode_ne_zero, failed]
  fileFault := by simp [Problem.exitCode_eq_three_iff, checked, failed]
  otherFault := by simp [Problem.exitCode_eq_one_iff, checked, failed]
  untouched := by rwa [Problem.exitCode_eq_one_iff]
  silent _ := silent
  places zero := absurd zero problem.exitCode_ne_zero
  symbols zero := absurd zero problem.exitCode_ne_zero

theorem tells_of_success {report : Report} (checked : a.check = .ok ())
    (succeeded : ((Session.start before).run a.generation.run).1 = .ok report)
    (kept : a.dryRun = true → after.files = before)
    (places : a.dryRun = false → after.output =
      "Header: " ++ a.outputHeader ++ "\n" ++ ("Implementation: " ++ a.outputImpl ++ "\n"))
    (symbols : a.dryRun = true → ∃ config symbols,
      ((Session.start before).run a.generation.extract).1 = .ok config ∧
      config.exportedSymbols = .ok symbols ∧
      after.output = String.join (symbols.map (· ++ "\n"))) : a.Tells before 0 after where
  success := by simp [checked, succeeded]
  fileFault := by simp [succeeded]
  otherFault := by simp [checked, succeeded]
  untouched := by simpa using kept
  silent zero := absurd rfl zero
  places _ := places
  symbols _ := symbols

/-- A session with the files and the output of the outcome tells of the run. -/
theorem tells_of_outcome (same : after.files = (a.outcome before).files)
    (output : after.output = String.join ((a.outcome before).lines.map (· ++ "\n"))) :
    a.Tells before (a.outcome before).status after := by
  unfold outcome at same output ⊢
  cases checked : a.check with
  | error problem =>
    rw [checked] at same output
    exact tells_of_refusal checked same output
  | ok =>
    have course := a.generation.course_effect before
    have ran := a.generation.comesTo_run.answer_eq (Session.start before)
    change _ = (a.generation.effect before).1 at ran
    simp only [checked] at same output ⊢
    generalize a.generation.effect before = effect at course ran same output ⊢
    obtain ⟨answer, files⟩ := effect
    cases course with
    | refused => exact tells_of_failure checked ran (fun _ => same) output
    | foretold valid rendered dry =>
      refine tells_of_success checked ran (fun _ => same) (fun real => ?_) fun _ => ?_
      · exact absurd (dry.symm.trans real) (by decide)
      · obtain ⟨claimed, _⟩ := Config.render_eq_ok_iff.mp rendered
        exact ⟨_, _, (a.generation.comesTo_extract.answer_eq _).trans valid, claimed, output⟩
    | noHeader _ _ real | headerOnly _ _ real =>
      refine tells_of_failure checked ran ?_ output
      intro kept
      rcases kept with other | dry
      · exact absurd rfl other
      · exact absurd (dry.symm.trans real) (by decide)
    | delivered _ _ real =>
      refine tells_of_success checked ran (fun dry => ?_) (fun _ => ?_) fun dry => ?_
      · exact absurd (dry.symm.trans real) (by decide)
      · simpa [Report.lines, generation] using output
      · exact absurd (dry.symm.trans real) (by decide)

end Arguments

/-- The exit status of a command line and what it prints tell about its run, and neither they nor
the files depend on how the log is shown. -/
theorem exit_status_tells_of_run {words : List String} {a : Arguments}
    (parsed : Arguments.ofWords words = .ok a) (files : FileTree) :
    ∃ status after,
      (Session.start files).run (runCommandLine words) = (.ok status, after) ∧
      a.Tells files status after ∧
      ∀ others b, Arguments.ofWords others = .ok b →
        { b with verbose := a.verbose, jsonLogs := a.jsonLogs } = a →
        ∃ again, (Session.start files).run (runCommandLine others) = (.ok status, again) ∧
          again.output = after.output ∧ again.files = after.files := by
  have ran (others : List String) (b : Arguments) (h : Arguments.ofWords others = .ok b) :
      ∃ after, (Session.start files).run (runCommandLine others) =
          (.ok (b.outcome files).status, after) ∧ after.files = (b.outcome files).files ∧
        after.output = String.join ((b.outcome files).lines.map (· ++ "\n")) := by
    obtain ⟨messages, ended⟩ := b.ends_run (s := Session.start files)
    refine ⟨⟨(b.outcome files).files, (b.outcome files).lines.toArray, messages⟩, ?_, rfl, rfl⟩
    simpa [runCommandLine, h, Session.start] using ended
  obtain ⟨after, ended, same, output⟩ := ran words a parsed
  refine ⟨_, after, ended, Arguments.tells_of_outcome same output, ?_⟩
  intro others b reads alike
  obtain ⟨again, ended', same', output'⟩ := ran others b reads
  have outcome : b.outcome files = a.outcome files := by
    rw [← alike]
    rfl
  rw [outcome] at ended' same' output'
  exact ⟨again, ended', output'.trans output.symm, same'.trans same.symm⟩

/-- A dry run prints the symbols; a run with a file in its way prints nothing. -/
theorem sample_commands_tell :
    (∃ a after,
      Arguments.ofWords ["library.json", "-H", "a.h", "--output-impl=a.cpp", "--dry-run", "-v"] =
        .ok a ∧
      sampleSession.run (runCommandLine
        ["library.json", "-H", "a.h", "--output-impl=a.cpp", "--dry-run", "-v"]) = (.ok 0, after) ∧
      after.files = sampleSession.files ∧
      after.output = String.join (["add_ui32_f32", "add_ui32_f64", "add_i8_f32", "add_i8_f64",
        "scale_h_f32", "scale_f32_f64"].map (· ++ "\n"))) ∧
    ∃ a after,
      Arguments.ofWords ["library.json", "-Hout/a.h", "-Itaken/a.cpp"] = .ok a ∧
      sampleSession.run (runCommandLine ["library.json", "-Hout/a.h", "-Itaken/a.cpp"]) =
        (.ok 3, after) ∧ after.output = "" := by
  have valid := configIn_library
  obtain ⟨sources, rendered⟩ := Generation.render_of_configIn (valid "a.h" "a.cpp" false)
  constructor
  · have parsed : Arguments.ofWords
        ["library.json", "-H", "a.h", "--output-impl=a.cpp", "--dry-run", "-v"] =
          .ok ⟨"library.json", "a.h", "a.cpp", true, false, true⟩ := by decide +kernel
    obtain ⟨status, after, ran, tells, _⟩ := exit_status_tells_of_run parsed sampleSession.files
    obtain ⟨done, dry⟩ := Generation.run_of_rendered (valid "a.h" "a.cpp" true) rendered
    have zero : status = 0 := tells.success.mpr ⟨rfl, _, congrArg Prod.fst dry⟩
    subst zero
    obtain ⟨config, symbols, extracted, claimed, output⟩ := tells.symbols rfl rfl
    have found :=
      (Generation.comesTo_extract (sampleRun "library.json" "a.h" "a.cpp" true)).answer_eq
      sampleSession
    rw [valid] at found
    cases extracted.symm.trans found
    cases claimed.symm.trans sampleLibrary_symbols
    exact ⟨_, after, parsed, ran, tells.untouched (Or.inr rfl), output⟩
  · have parsed : Arguments.ofWords ["library.json", "-Hout/a.h", "-Itaken/a.cpp"] =
        .ok ⟨"library.json", "out/a.h", "taken/a.cpp", false, false, false⟩ := by decide +kernel
    obtain ⟨status, after, ran, tells, _⟩ := exit_status_tells_of_run parsed sampleSession.files
    obtain ⟨done, failed⟩ :=
      Generation.run_of_rendered (valid "out/a.h" "taken/a.cpp" false) rendered
    have three : status = 3 :=
      tells.fileFault.mpr ⟨rfl, _, congrArg Prod.fst failed, rfl⟩
    subst three
    exact ⟨_, after, parsed, ran, tells.silent (by decide)⟩

end TemplateExport
