import TemplateExport.Generation
import TemplateExport.Session
import TemplateExport.Proofs.Rendering
import TemplateExport.Proofs.Ways

namespace TemplateExport

namespace Session

variable {α β : Type}

/-- An act comes to an effect on files: its answer and the files after it depend on the files
before it alone. Of the rest it only adds to the messages. -/
def ComesTo (act : SessionM α) (effect : FileTree → Except Problem α × FileTree) : Prop :=
  ∀ s : Session, ∃ messages,
    s.run act = ((effect s.files).1, ⟨(effect s.files).2, s.printed, messages⟩)

theorem comesTo_pure (a : α) : ComesTo (pure a) fun t => (.ok a, t) :=
  fun s => ⟨s.messages, rfl⟩

theorem comesTo_throw (problem : Problem) :
    ComesTo (throw problem : SessionM α) fun t => (.error problem, t) :=
  fun s => ⟨s.messages, rfl⟩

theorem comesTo_ofExcept (e : Except Problem α) :
    ComesTo (MonadExcept.ofExcept e : SessionM α) fun t => (e, t) := by
  cases e with
  | error problem => exact comesTo_throw problem
  | ok a => exact comesTo_pure a

theorem comesTo_log (event : Event) :
    ComesTo (Host.log event : SessionM Unit) fun t => (.ok (), t) :=
  fun s => ⟨s.messages.push (.logged event), rfl⟩

theorem run_pure (s : Session) (a : α) : s.run (pure a) = (.ok a, s) :=
  rfl

theorem run_throw (s : Session) (problem : Problem) :
    s.run (throw problem : SessionM α) = (.error problem, s) :=
  rfl

theorem run_get_bind (s : Session) (next : Session → SessionM α) :
    s.run (get >>= next) = s.run (next s) :=
  rfl

theorem run_set (s after : Session) : s.run (set after : SessionM PUnit) = (.ok (), after) :=
  rfl

theorem run_set_bind (s after : Session) (next : PUnit → SessionM α) :
    s.run (set after >>= next) = after.run (next ()) :=
  rfl

theorem comesTo_readFile (p : Path) :
    ComesTo (Host.readFile p : SessionM ByteArray) fun t => ((t.read p).mapError .file, t) := by
  intro s
  refine ⟨s.messages, ?_⟩
  change s.run (readFile p) = _
  cases found : s.files.read p <;>
    simp [readFile, run_get_bind, found, run_pure, run_throw, Except.mapError]

theorem comesTo_makeDirectories (p : Path) :
    ComesTo (Host.makeDirectories p : SessionM Unit) fun t =>
      ((t.makeDirectories p).2.mapError .file, (t.makeDirectories p).1) := by
  intro s
  refine ⟨s.messages, ?_⟩
  change s.run (makeDirectories p) = _
  cases made : (s.files.makeDirectories p).2 <;>
    simp [makeDirectories, run_get_bind, run_set_bind, run_set, made, run_throw, Except.mapError]

theorem comesTo_writeFile (p : Path) (content : ByteArray) :
    ComesTo (Host.writeFile p content : SessionM Unit) fun t =>
      match t.write p content with
      | .ok written => (.ok (), written)
      | .error fault => (.error (.file fault), t) := by
  intro s
  refine ⟨s.messages, ?_⟩
  change s.run (writeFile p content) = _
  cases wrote : s.files.write p content <;>
    simp [writeFile, run_get_bind, run_set, wrote, run_throw]

/-- What follows an act sees the files that the act has left. -/
def followed (effect : FileTree → Except Problem α × FileTree)
    (next : α → FileTree → Except Problem β × FileTree) (t : FileTree) :
    Except Problem β × FileTree :=
  match effect t with
  | (.ok a, after) => next a after
  | (.error problem, after) => (.error problem, after)

theorem followed_of_look (answer : FileTree → Except Problem α)
    (next : α → FileTree → Except Problem β × FileTree) (t : FileTree) :
    followed (fun t => (answer t, t)) next t = match answer t with
      | .ok a => next a t
      | .error problem => (.error problem, t) := by
  simp only [followed]
  cases answer t <;> rfl

theorem followed_of_looks {γ : Type} (answer : FileTree → Except Problem α)
    (next : α → FileTree → Except Problem β) (last : β → FileTree → Except Problem γ × FileTree) :
    followed (fun t => (answer t, t)) (fun a => followed (fun t => (next a t, t)) last) =
      followed (fun t => (answer t >>= (next · t), t)) last := by
  funext t
  simp only [followed]
  cases answer t <;> rfl

theorem followed_ok (effect : FileTree → Except Problem α × FileTree) (t : FileTree) :
    followed effect (fun a after => (.ok a, after)) t = effect t := by
  unfold followed
  rcases effect t with ⟨_ | _, after⟩ <;> rfl

theorem run_bind (s : Session) (act : SessionM α) (rest : α → SessionM β) :
    s.run (act >>= rest) = match s.run act with
      | (.ok a, after) => after.run (rest a)
      | (.error problem, after) => (.error problem, after) := by
  change (match s.run act with
    | (answer, after) => StateT.run (ExceptT.bindCont rest answer) after) = _
  rcases s.run act with ⟨_ | _, after⟩ <;> rfl

theorem comesTo_bind {act : SessionM α} {effect : FileTree → Except Problem α × FileTree}
    {rest : α → SessionM β} {next : α → FileTree → Except Problem β × FileTree}
    (h : ComesTo act effect) (hrest : ∀ a, ComesTo (rest a) (next a)) :
    ComesTo (act >>= rest) (followed effect next) := by
  intro s
  obtain ⟨messages, ran⟩ := h s
  rcases effects : effect s.files with ⟨_ | _, after⟩
  · exact ⟨messages, by simp [run_bind, ran, effects, followed]⟩
  next a =>
    obtain ⟨all, done⟩ := hrest a ⟨after, s.printed, messages⟩
    refine ⟨all, ?_⟩
    rw [run_bind, ran, effects]
    simpa [followed, effects] using done

theorem ComesTo.congr {act : SessionM α} {effect effect' : FileTree → Except Problem α × FileTree}
    (h : ComesTo act effect) (same : ∀ t, effect t = effect' t) : ComesTo act effect' := by
  rwa [← funext same]

/-- An act that only looks at the files leaves them as they are to what follows. -/
theorem comesTo_bind_of_look {act : SessionM α} {answer : FileTree → Except Problem α}
    {rest : α → SessionM β} {next : α → FileTree → Except Problem β}
    (h : ComesTo act fun t => (answer t, t))
    (hrest : ∀ a, ComesTo (rest a) fun t => (next a t, t)) :
    ComesTo (act >>= rest) fun t => (answer t >>= (next · t), t) := by
  refine (comesTo_bind h hrest).congr ?_
  intro t
  simp only [followed]
  cases answer t <;> rfl

theorem comesTo_log_bind (event : Event) {act : SessionM α}
    {effect : FileTree → Except Problem α × FileTree} (h : ComesTo act effect) :
    ComesTo (Host.log event >>= fun _ => act) effect :=
  comesTo_bind (comesTo_log event) fun _ => h

theorem comesTo_forM_log (event : α → Event) (values : List α) :
    ComesTo (values.forM fun a => (Host.log (event a) : SessionM Unit)) fun t => (.ok (), t) := by
  induction values with
  | nil => exact comesTo_pure ()
  | cons a rest ih => exact comesTo_log_bind (event a) ih

end Session

namespace Storage

open Session

theorem comesTo_read (st : Storage) (p : Path) :
    ComesTo (st.read p) fun t => ((t.read (st.resolve p)).mapError .file, t) :=
  comesTo_log_bind _ (comesTo_readFile _)

theorem comesTo_write (st : Storage) (p : Path) (content : ByteArray) :
    ComesTo (st.write p content) fun t =>
      ((t.save (st.resolve p) content).2.mapError .file, (t.save (st.resolve p) content).1) := by
  refine (comesTo_bind (comesTo_makeDirectories _) fun _ =>
    comesTo_log_bind _ (comesTo_writeFile _ _)).congr ?_
  intro t
  simp only [followed, FileTree.save]
  rcases t.makeDirectories (st.resolve p).parent with ⟨made, _ | _⟩
  · rfl
  · simp only [Except.mapError]
    cases made.write (st.resolve p) content <;> rfl

end Storage

namespace FileTree

/-- The text in a file. What to say of a file that holds none is left open. -/
def text (t : FileTree) (unclear : Utf8.Fault → Problem) (p : Path) : Except Problem String := do
  let bytes ← (t.read p).mapError .file
  (Utf8.decode bytes).mapError unclear

variable {t : FileTree} {unclear : Utf8.Fault → Problem} {p : Path}

theorem text_of_unread {fault : FileFault} (unread : t.read p = .error fault) :
    t.text unclear p = .error (.file fault) := by
  rw [text, unread]
  rfl

theorem text_of_undecoded {bytes : ByteArray} {fault : Utf8.Fault} (read : t.read p = .ok bytes)
    (undecoded : Utf8.decode bytes = .error fault) :
    t.text unclear p = .error (unclear fault) := by
  simp only [text, read, undecoded, Except.mapError, bind, Except.bind]

theorem text_of_decoded {bytes : ByteArray} {content : String} (read : t.read p = .ok bytes)
    (decoded : Utf8.decode bytes = .ok content) : t.text unclear p = .ok content := by
  simp only [text, read, decoded, Except.mapError, bind, Except.bind]

end FileTree

/-- The configuration that a text says, if it is valid. -/
def Config.ofValidText (format : Format) (text : String) : Except Problem Config := do
  let config ← Config.ofText format text
  config.validate
  return config

namespace Generation

open Session

variable (g : Generation)

/-- The valid configuration that the input of a run holds. -/
def configIn (t : FileTree) : Except Problem Config := do
  let bytes ← (t.read (g.storage.resolve g.input)).mapError .file
  let text ← (Utf8.decode bytes).mapError fun fault => .config (.notText g.input.text fault)
  let config ← Config.ofText (Format.ofPath g.input) text
  config.validate
  return config

theorem configIn_eq_text (t : FileTree) :
    g.configIn t =
      t.text (fun fault => .config (.notText g.input.text fault)) (g.storage.resolve g.input) >>=
        Config.ofValidText (Format.ofPath g.input) := by
  simp only [configIn, FileTree.text, bind_assoc]
  rfl

theorem comesTo_extract : ComesTo g.extract fun t => (g.configIn t, t) := by
  refine comesTo_log_bind _ ?_
  refine (comesTo_bind_of_look (g.storage.comesTo_read g.input) ?_)
  intro bytes
  cases decoded : Utf8.decode bytes with
  | error fault => exact comesTo_throw _
  | ok text =>
    refine comesTo_bind_of_look (comesTo_ofExcept _) fun config => ?_
    refine comesTo_bind_of_look (comesTo_ofExcept _) fun _ => ?_
    exact comesTo_log_bind _ (comesTo_pure config)

theorem render_of_configIn {g : Generation} {t : FileTree} {config : Config}
    (h : g.configIn t = .ok config) : ∃ sources, config.render = .ok sources := by
  have valid : config.validate = .ok () := by
    simp only [configIn, bind, Except.bind] at h
    repeat' split at h
    all_goals simp_all [pure, Except.pure]
  exact ⟨_, (Config.validate_eq_ok_iff.mp valid).render_eq⟩

theorem comesTo_transform (config : Config) :
    ComesTo (transform config) fun t => (config.render, t) := by
  refine (comesTo_bind_of_look (comesTo_ofExcept config.render) fun sources =>
    comesTo_log_bind _ (comesTo_pure sources)).congr ?_
  intro t
  cases config.render <;> rfl

/-- The delivery of generated files: the header is written first, and the implementation only
after it. A dry run writes neither. -/
def delivery (sources : Sources) (t : FileTree) : Except Problem Report × FileTree :=
  if g.dryRun then (.ok ⟨none, sources.symbols⟩, t)
  else
    match t.save (g.storage.resolve g.outputs.header) sources.header.toUTF8 with
    | (half, .error fault) => (.error (.file fault), half)
    | (half, .ok ()) =>
      match half.save (g.storage.resolve g.outputs.implementation)
        sources.implementation.toUTF8 with
      | (all, .error fault) => (.error (.file fault), all)
      | (all, .ok ()) => (.ok ⟨some g.outputs, sources.symbols⟩, all)

theorem comesTo_deliver (sources : Sources) : ComesTo (g.deliver sources) (g.delivery sources) := by
  unfold deliver
  split
  next dry =>
    refine (comesTo_bind_of_look (comesTo_forM_log _ _) fun _ => comesTo_pure _).congr ?_
    intro t
    simp [delivery, dry]
    rfl
  next real =>
    refine (comesTo_bind (g.storage.comesTo_write _ _) fun _ => comesTo_log_bind _ <|
      comesTo_bind (g.storage.comesTo_write _ _) fun _ => comesTo_log_bind _ <|
        comesTo_pure _).congr ?_
    intro t
    simp only [followed, delivery, if_neg real]
    rcases t.save (g.storage.resolve g.outputs.header) sources.header.toUTF8 with
      ⟨half, _ | _⟩
    · rfl
    · simp only [Except.mapError]
      rcases half.save (g.storage.resolve g.outputs.implementation)
        sources.implementation.toUTF8 with ⟨all, _ | _⟩ <;> rfl

theorem comesTo_saved_log (report : Report) :
    ComesTo (do
      if let some outputs := report.written then
        Host.log (.headerSaved outputs.header)
        Host.log (.implementationSaved outputs.implementation)
      return report) fun t => (.ok report, t) := by
  obtain ⟨_ | outputs, symbols⟩ := report
  · exact comesTo_pure _
  · exact comesTo_log_bind _ <| comesTo_log_bind _ <| comesTo_pure _

/-- What a run comes to: the delivery of what its input is rendered to. -/
def effect : FileTree → Except Problem Report × FileTree :=
  followed (fun t => (g.configIn t >>= Config.render, t)) g.delivery

theorem comesTo_run : ComesTo g.run g.effect := by
  have course : ComesTo g.run (followed (fun t => (g.configIn t, t)) fun config =>
      followed (fun t => (config.render, t)) g.delivery) := by
    unfold run
    refine comesTo_log_bind _ <| comesTo_log_bind _ ?_
    refine comesTo_bind g.comesTo_extract fun config => ?_
    refine comesTo_log_bind _ <| comesTo_log_bind _ ?_
    refine comesTo_bind (comesTo_transform config) fun sources => ?_
    refine comesTo_log_bind _ <| comesTo_log_bind _ ?_
    exact (comesTo_bind (g.comesTo_deliver sources) comesTo_saved_log).congr (followed_ok _)
  rwa [followed_of_looks] at course

end Generation

end TemplateExport
