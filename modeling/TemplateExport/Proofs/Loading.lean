import TemplateExport.Config.File
import TemplateExport.Proofs.Courses

namespace TemplateExport

namespace Path

/-- Joining puts pieces before those of the joined path and changes none of these. -/
theorem pieces_join (base p : Path) : ∃ front, (base.join p).pieces = front ++ p.pieces := by
  unfold join
  split
  next => exact ⟨[], rfl⟩
  next =>
    split
    next ends =>
      obtain ⟨cs, split⟩ := List.getLast?_eq_some_iff.mp ends
      refine ⟨(piecesOf cs).map String.ofList, ?_⟩
      rw [pieces, String.toList_append, split, List.append_assoc, List.singleton_append,
        piecesOf_append_slash, List.map_append]
      rfl
    next =>
      refine ⟨base.pieces, ?_⟩
      rw [pieces, String.toList_append, String.toList_append, List.append_assoc,
        show "/".toList = ['/'] from rfl, List.singleton_append, piecesOf_append_slash,
        List.map_append]
      rfl

/-- A path that names an entry from elsewhere has its extension by itself: what is put before it
does not reach the last piece. Idle pieces at the end would let it, as in "." from "base.toml". -/
theorem extension?_join {base p : Path} {way : List String} {name : String}
    (h : (base.join p).target = .entry way name) : (base.join p).extension? = p.extension? := by
  obtain ⟨front, joined⟩ := pieces_join base p
  obtain ⟨before, split, busy, _⟩ := pieces_of_target_entry h
  have last_step {q : Path} (last : q.pieces.getLast? = some name) :
      q.steps.getLast? = some name := by
    obtain ⟨others, parted⟩ := List.getLast?_eq_some_iff.mp last
    simp [steps, parted, busy]
  have pieced : p.pieces ≠ [] := by simp [pieces, piecesOf_ne_nil]
  have last : (base.join p).pieces.getLast? = some name := by simp [split]
  have own : p.pieces.getLast? = some name := by
    rw [← last, joined, List.getLast?_append_of_ne_nil _ pieced]
  simp only [extension?, last_step last, last_step own]

end Path

theorem Format.ofPath_resolve_of_read {t : FileTree} {storage : Storage} {p : Path}
    {bytes : ByteArray} (h : t.read (storage.resolve p) = .ok bytes) :
    Format.ofPath (storage.resolve p) = Format.ofPath p := by
  obtain ⟨_, way, name, target, _⟩ := FileTree.reaches_of_read h
  rw [ofPath, ofPath, Storage.resolve, Path.extension?_join target]

namespace Config

open Session

/-- Reads the configuration in a file and checks it. -/
def loadValid {m : Type → Type} [Host m] (p : Path) : m Config := do
  let config ← load p
  MonadExcept.ofExcept config.validate
  return config

theorem comesTo_load (p : Path) :
    ComesTo (load p) fun t =>
      (t.text (fun _ => .file .notText) p >>= ofText (Format.ofPath p), t) := by
  have stepwise : ComesTo (load p) fun t => (do
      let bytes ← (t.read p).mapError .file
      let text ← (Utf8.decode bytes).mapError fun _ => .file .notText
      ofText (Format.ofPath p) text, t) := by
    refine comesTo_bind_of_look (comesTo_readFile p) ?_
    intro bytes
    cases decoded : Utf8.decode bytes with
    | error fault => exact comesTo_throw _
    | ok text => exact comesTo_ofExcept _
  simpa only [FileTree.text, bind_assoc] using stepwise

theorem comesTo_loadValid (p : Path) :
    ComesTo (loadValid p) fun t =>
      (t.text (fun _ => .file .notText) p >>= ofValidText (Format.ofPath p), t) := by
  refine (comesTo_bind_of_look (comesTo_load p) fun config =>
    comesTo_bind_of_look (comesTo_ofExcept config.validate) fun _ => comesTo_pure config).congr ?_
  intro t
  rw [bind_assoc]
  rfl

end Config

/-- A run and the reader of a single file give the same answer for the same place, whatever the
files are and however the place is written. They differ in the problem that they see in a file
that is no text. The run tells the format from the input as it is given and the reader from the
place; where these formats differ, there is no file to read. -/
theorem extract_agrees_with_load {g : Generation} {s after after' : Session}
    {extracted loaded : Except Problem Config}
    (piped : s.run g.extract = (extracted, after))
    (direct : s.run (Config.loadValid (g.storage.resolve g.input)) = (loaded, after')) :
    after.files = s.files ∧ after'.files = s.files ∧
    (∀ bytes fault, s.files.read (g.storage.resolve g.input) = .ok bytes →
      Utf8.decode bytes = .error fault →
        extracted = .error (.config (.notText g.input.text fault)) ∧
        loaded = .error (.file .notText)) ∧
    ((∀ bytes fault, s.files.read (g.storage.resolve g.input) = .ok bytes →
      Utf8.decode bytes ≠ .error fault) → extracted = loaded) ∧
    (Format.ofPath (g.storage.resolve g.input) ≠ Format.ofPath g.input →
      ∃ fault, s.files.read (g.storage.resolve g.input) = .error fault ∧
        extracted = .error (.file fault) ∧ loaded = .error (.file fault)) := by
  obtain ⟨rfl, same⟩ := Prod.mk.inj (g.comesTo_extract.effect_eq piped)
  obtain ⟨rfl, same'⟩ := Prod.mk.inj ((Config.comesTo_loadValid _).effect_eq direct)
  rw [g.configIn_eq_text]
  refine ⟨same.symm, same'.symm, ?_, ?_, ?_⟩
  · intro bytes fault read undecoded
    rw [FileTree.text_of_undecoded read undecoded, FileTree.text_of_undecoded read undecoded]
    exact ⟨rfl, rfl⟩
  · intro clear
    cases read : s.files.read (g.storage.resolve g.input) with
    | error fault => simp only [FileTree.text_of_unread read, bind, Except.bind]
    | ok bytes =>
      cases decoded : Utf8.decode bytes with
      | error fault => exact absurd decoded (clear bytes fault read)
      | ok text =>
        rw [FileTree.text_of_decoded read decoded, FileTree.text_of_decoded read decoded,
          Format.ofPath_resolve_of_read read]
  · intro differ
    cases read : s.files.read (g.storage.resolve g.input) with
    | error fault =>
      rw [FileTree.text_of_unread read, FileTree.text_of_unread read]
      exact ⟨fault, rfl, rfl, rfl⟩
    | ok bytes => exact absurd (Format.ofPath_resolve_of_read read) differ

/-- A directory that is named like a file, with a valid configuration and a file in another
encoding. -/
def shelfSession : Session :=
  .start
    { entries :=
        [(["base.toml"], .directory),
          (["library.json", "base.toml"], .file sampleLibrary.bytes),
          (["latin.json", "base.toml"], .file ⟨#[0xE9]⟩)]
      here := [] }

def shelfRun (input : String) : Generation :=
  { sampleRun input "library.h" "library.cpp" true with storage := ⟨⟨"base.toml"⟩⟩ }

theorem shelfRun_agrees :
    (shelfSession.run (shelfRun "library.json").extract).1 = .ok sampleLibrary ∧
    (shelfSession.run (Config.loadValid ⟨"base.toml/library.json"⟩)).1 = .ok sampleLibrary ∧
    (shelfSession.run (shelfRun "latin.json").extract).1 =
      .error (.config (.notText "latin.json" ⟨0, none⟩)) ∧
    (shelfSession.run (Config.loadValid ⟨"base.toml/latin.json"⟩)).1 = .error (.file .notText) ∧
    Format.ofPath ⟨"base.toml/."⟩ ≠ Format.ofPath ⟨"."⟩ ∧
    (shelfSession.run (shelfRun ".").extract).1 = .error (.file .isADirectory) ∧
    (shelfSession.run (Config.loadValid ⟨"base.toml/."⟩)).1 = .error (.file .isADirectory) := by
  have alike (input : String) :=
    extract_agrees_with_load (g := shelfRun input) (s := shelfSession)
      (Prod.eta _).symm (Prod.eta _).symm
  have library : shelfSession.files.read ⟨"base.toml/library.json"⟩ = .ok sampleLibrary.bytes := rfl
  have latin : shelfSession.files.read ⟨"base.toml/latin.json"⟩ = .ok ⟨#[0xE9]⟩ := rfl
  have folder : shelfSession.files.read ⟨"base.toml/."⟩ = .error .isADirectory := rfl
  have undecoded : Utf8.decode ⟨#[0xE9]⟩ = .error ⟨0, none⟩ := by cbv
  have json : Format.ofPath ⟨"library.json"⟩ = .json := by decide +kernel
  have differ : Format.ofPath ⟨"base.toml/."⟩ ≠ Format.ofPath ⟨"."⟩ := by decide +kernel
  have found : (shelfSession.run (shelfRun "library.json").extract).1 = .ok sampleLibrary := by
    rw [(shelfRun "library.json").comesTo_extract.answer_eq,
      Generation.configIn_of_bytes (g := shelfRun "library.json") library json,
      sampleLibrary_validate]
    rfl
  obtain ⟨_, _, _, agree, _⟩ := alike "library.json"
  obtain ⟨_, _, apart, _, _⟩ := alike "latin.json"
  obtain ⟨_, _, _, _, unread⟩ := alike "."
  obtain ⟨extracted, loaded⟩ := apart _ _ latin undecoded
  obtain ⟨fault, read, first, second⟩ := unread differ
  obtain rfl := Except.error.inj (read.symm.trans folder)
  refine ⟨found, ?_, extracted, loaded, differ, first, second⟩
  rw [← found]
  refine (agree ?_).symm
  intro bytes fault read
  obtain rfl := Except.ok.inj (library.symm.trans read)
  rw [Config.bytes, Utf8.decode_toUTF8]
  intro wrong
  cases wrong

end TemplateExport
