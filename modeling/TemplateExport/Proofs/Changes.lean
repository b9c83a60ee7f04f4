import TemplateExport.Proofs.Locations

namespace TemplateExport.FileTree

/-- The second tree is the first one with new directories, where `made` allows it, and with files
written, where `written` allows it. Nothing else differs and nothing is gone. -/
structure Change (made written : Location → Prop) (t t' : FileTree) : Prop where
  here : t'.here = t.here
  entries : ∀ spot, t'.look spot = t.look spot ∨
    (made spot ∧ t.look spot = none ∧ t'.look spot = some .directory) ∨
    (written spot ∧ t.look spot ≠ some .directory ∧
      ∃ content, t'.look spot = some (.file content))

namespace Change

variable {made made' written written' : Location → Prop} {t t' t'' : FileTree} {p : Path}

theorem refl (t : FileTree) : Change made written t t :=
  ⟨rfl, fun _ => Or.inl rfl⟩

theorem mono (h : Change made written t t') (hm : ∀ spot, made spot → made' spot)
    (hw : ∀ spot, written spot → written' spot) : Change made' written' t t' := by
  refine ⟨h.here, ?_⟩
  intro spot
  rcases h.entries spot with same | ⟨allowed, new⟩ | ⟨allowed, new⟩
  · exact Or.inl same
  · exact Or.inr (Or.inl ⟨hm spot allowed, new⟩)
  · exact Or.inr (Or.inr ⟨hw spot allowed, new⟩)

theorem directory_stays (h : Change made written t t') {spot : Location}
    (there : t.look spot = some .directory) : t'.look spot = some .directory := by
  rcases h.entries spot with same | ⟨_, gone, _⟩ | ⟨_, other, _⟩
  · exact same.trans there
  · rw [there] at gone
    cases gone
  · exact absurd there other

/-- What was there is as it was where nothing may be written. -/
theorem kept (h : Change made written t t') {spot : Location} (there : t.look spot ≠ none)
    (unwritten : ¬written spot) : t'.look spot = t.look spot := by
  rcases h.entries spot with same | ⟨_, gone, _⟩ | ⟨allowed, _⟩
  · exact same
  · exact absurd gone there
  · exact absurd allowed unwritten

theorem file_stays (h : Change made written t t') {spot : Location} {content : ByteArray}
    (there : t.look spot = some (.file content)) (unwritten : ¬written spot) :
    t'.look spot = some (.file content) :=
  (h.kept (by simp [there]) unwritten).trans there

theorem trans (h : Change made written t t') (h' : Change made written t' t'') :
    Change made written t t'' := by
  refine ⟨h'.here.trans h.here, ?_⟩
  intro spot
  rcases h.entries spot with same | ⟨allowed, absent, new⟩ | ⟨allowed, free, content, new⟩
  · have later := h'.entries spot
    rwa [same] at later
  · exact Or.inr (Or.inl ⟨allowed, absent, h'.directory_stays new⟩)
  · rcases h'.entries spot with same | ⟨_, gone, _⟩ | ⟨_, _, latest⟩
    · exact Or.inr (Or.inr ⟨allowed, free, content, same.trans new⟩)
    · rw [new] at gone
      cases gone
    · exact Or.inr (Or.inr ⟨allowed, free, latest⟩)

/-- Whatever was there is there still. -/
theorem remains (h : Change made written t t') {spot : Location} (there : t.look spot ≠ none) :
    t'.look spot ≠ none := by
  rcases h.entries spot with same | ⟨_, gone, _⟩ | ⟨_, _, content, new⟩
  · rwa [same]
  · exact absurd gone there
  · simp [new]

theorem start_eq (h : Change made written t t') (p : Path) : t'.start p = t.start p := by
  simp only [start, h.here]

theorem locate_eq (h : Change made written t t') (p : Path) : t'.locate p = t.locate p := by
  rw [locate, locate, h.start_eq]

theorem onWay_iff (h : Change made written t t') (p : Path) (spot : Location) :
    t'.OnWay p spot ↔ t.OnWay p spot := by
  rw [OnWay, OnWay, h.start_eq]

end Change

theorem change_put_directory {made written : Location → Prop} {t : FileTree} {spot : Location}
    (allowed : made spot) (absent : t.look spot = none) :
    Change made written t (t.put spot .directory) := by
  have ne : spot ≠ [] := by
    intro outermost
    simp [look, outermost] at absent
  refine ⟨rfl, ?_⟩
  intro other
  by_cases same : other = spot
  · exact Or.inr (Or.inl (by simp [same, allowed, absent, look_put_self ne]))
  · exact Or.inl (look_put_of_ne same)

theorem change_put_file {made written : Location → Prop} {t : FileTree} {spot : Location}
    (allowed : written spot) (free : t.look spot ≠ some .directory) (content : ByteArray) :
    Change made written t (t.put spot (.file content)) := by
  have ne : spot ≠ [] := by
    intro outermost
    simp [look, outermost] at free
  refine ⟨rfl, ?_⟩
  intro other
  by_cases same : other = spot
  · exact Or.inr (Or.inr (by simp [same, allowed, free, look_put_self ne]))
  · exact Or.inl (look_put_of_ne same)

/-- The way to the location that a path means is open, and a file can be there. -/
structure Reaches (t : FileTree) (p : Path) : Prop where
  sound : p.fault? = none
  open_way : ∃ way name, p.target = .entry way name ∧ name.utf8ByteSize ≤ Path.nameLimit ∧
    ∃ spot, t.walk (t.start p) way = .ok spot

theorem locate_of_target_entry {t : FileTree} {p : Path} {way : List String} {name : String}
    {spot : Location} (h : p.target = .entry way name)
    (walked : t.walk (t.start p) way = .ok spot) : t.locate p = name :: spot := by
  obtain ⟨steps, up⟩ := Path.steps_of_target_entry h
  rw [locate, steps, Location.follow_concat, ← follow_of_walk walked, Location.toward, if_neg up]

theorem Reaches.read_eq {t : FileTree} {p : Path} (h : t.Reaches p) :
    t.read p = match t.look (t.locate p) with
      | some (.file content) => .ok content
      | some .directory => .error .isADirectory
      | none => .error .notFound := by
  obtain ⟨sound, way, name, target, short, spot, walked⟩ := h
  have found : t.find? spot name = .ok (t.look (t.locate p)) :=
    find?_eq_ok_iff.mpr ⟨short, by rw [locate_of_target_entry target walked]⟩
  simp only [read, sound, target, walked, found, bind, Except.bind]
  rcases t.look (t.locate p) with _ | _ | _ <;> rfl

theorem Reaches.write_eq {t : FileTree} {p : Path} (h : t.Reaches p) (content : ByteArray) :
    t.write p content = match t.look (t.locate p) with
      | some .directory => .error .isADirectory
      | some (.file _) | none => .ok (t.put (t.locate p) (.file content)) := by
  obtain ⟨sound, way, name, target, short, spot, walked⟩ := h
  have place := locate_of_target_entry target walked
  have found : t.find? spot name = .ok (t.look (t.locate p)) :=
    find?_eq_ok_iff.mpr ⟨short, by rw [place]⟩
  simp only [write, sound, target, walked, found, bind, Except.bind, place]
  rcases t.look (name :: spot) with _ | _ | _ <;> rfl

theorem reaches_of_bind_eq_ok {α : Type} {t : FileTree} {p : Path} {way : List String}
    {name : String} {act : Location → Option FileEntry → Except FileFault α} {a : α}
    (sound : p.fault? = none) (target : p.target = .entry way name)
    (h : (t.walk (t.start p) way >>= fun spot => t.find? spot name >>= act spot) = .ok a) :
    t.Reaches p := by
  cases walked : t.walk (t.start p) way with
  | error fault => simp [walked, bind, Except.bind] at h
  | ok spot =>
    cases found : t.find? spot name with
    | error fault => simp [walked, found, bind, Except.bind] at h
    | ok entry =>
      exact ⟨sound, way, name, target, (find?_eq_ok_iff.mp found).1, spot, walked⟩

theorem reaches_of_read {t : FileTree} {p : Path} {content : ByteArray}
    (h : t.read p = .ok content) : t.Reaches p := by
  unfold read at h
  split at h
  · cases h
  next sound =>
    split at h
    next way name target => exact reaches_of_bind_eq_ok sound target h
    all_goals
      revert h
      generalize t.walk _ _ = walked
      cases walked <;> simp [bind, Except.bind, throw, throwThe, MonadExceptOf.throw]

theorem reaches_of_write {t t' : FileTree} {p : Path} {content : ByteArray}
    (h : t.write p content = .ok t') : t.Reaches p := by
  unfold write at h
  split at h
  · cases h
  next sound =>
    split at h
    next way name target => exact reaches_of_bind_eq_ok sound target h
    all_goals
      revert h
      generalize t.walk _ _ = walked
      cases walked <;> simp [bind, Except.bind, throw, throwThe, MonadExceptOf.throw]

theorem read_eq_ok_iff {t : FileTree} {p : Path} {content : ByteArray} :
    t.read p = .ok content ↔ t.Reaches p ∧ t.look (t.locate p) = some (.file content) := by
  constructor
  · intro h
    have reached := reaches_of_read h
    rw [reached.read_eq] at h
    refine ⟨reached, ?_⟩
    split at h <;> simp_all
  · intro h
    obtain ⟨reached, there⟩ := h
    rw [reached.read_eq, there]

theorem write_eq_ok_iff {t t' : FileTree} {p : Path} {content : ByteArray} :
    t.write p content = .ok t' ↔ t.Reaches p ∧ t.look (t.locate p) ≠ some .directory ∧
      t' = t.put (t.locate p) (.file content) := by
  constructor
  · intro h
    have reached := reaches_of_write h
    rw [reached.write_eq] at h
    refine ⟨reached, ?_⟩
    split at h <;> simp_all
  · intro h
    obtain ⟨reached, free, rfl⟩ := h
    rw [reached.write_eq]
    split
    next taken => exact absurd taken free
    next => rfl
    next => rfl

theorem Reaches.of_change {made written : Location → Prop} {t t' : FileTree} {p : Path}
    (h : t.Reaches p) (change : Change made written t t') : t'.Reaches p := by
  obtain ⟨sound, way, name, target, short, spot, walked⟩ := h
  refine ⟨sound, way, name, target, short, spot, ?_⟩
  rw [change.start_eq]
  exact walk_of_directories_stay (fun _ => change.directory_stays) walked

end TemplateExport.FileTree
