import TemplateExport.Proofs.Changes

namespace TemplateExport.FileTree

variable {t made : FileTree} {start : Location} {steps : List String}

/-- There is nothing at any of the locations but directories. -/
def Clear (t : FileTree) (spots : List Location) : Prop :=
  ∀ spot ∈ spots, t.look spot = none ∨ t.look spot = some .directory

theorem Change.clear {made written : Location → Prop} {t t' : FileTree} {spots : List Location}
    (change : Change made written t t') (unwritten : ∀ spot ∈ spots, ¬written spot)
    (clear : t.Clear spots) : t'.Clear spots := by
  intro spot mem
  rcases change.entries spot with same | ⟨_, _, new⟩ | ⟨allowed, _⟩
  · rw [same]
    exact clear spot mem
  · exact Or.inr new
  · exact absurd allowed (unwritten spot mem)

theorem makeDirectory_of_walked {way : List String} {name : String} {spot : Location}
    (walked : t.walk start way = .ok spot) :
    t.makeDirectory start way name =
      if name = ".." then .error .alreadyExists
      else match t.find? spot name with
        | .error fault => .error fault
        | .ok (some _) => .error .alreadyExists
        | .ok none => .ok (t.put (name :: spot) .directory) := by
  simp only [makeDirectory, walked, bind, Except.bind]
  split
  · rfl
  · rcases t.find? spot name with _ | _ | _ <;> rfl

theorem makeDirectory_of_closed {way : List String} {name : String} {fault : FileFault}
    (closed : t.walk start way = .error fault) :
    t.makeDirectory start way name = .error fault := by
  simp only [makeDirectory, closed, bind, Except.bind]

theorem makeDirectory_eq_ok_iff {way : List String} {name : String} :
    t.makeDirectory start way name = .ok made ↔
      ∃ spot, t.walk start way = .ok spot ∧ name ≠ ".." ∧ t.find? spot name = .ok none ∧
        made = t.put (name :: spot) .directory := by
  cases walked : t.walk start way with
  | error fault => simp [makeDirectory_of_closed walked]
  | ok spot =>
    rw [makeDirectory_of_walked walked]
    split
    next up => simp [up]
    next down => rcases found : t.find? spot name with _ | _ | _ <;> simp [found, down, eq_comm]

/-- A step to where there is no file either can be taken or leads into what is not there. -/
theorem enter_of_clear {spot : Location} {name : String}
    (short : name ≠ ".." → name.utf8ByteSize ≤ Path.nameLimit)
    (clear : name ≠ ".." → t.look (name :: spot) = none ∨
      t.look (name :: spot) = some .directory) :
    (∃ last, t.enter spot name = .ok last) ∨
      t.enter spot name = .error .notFound ∧ name ≠ ".." ∧ t.find? spot name = .ok none := by
  by_cases up : name = ".."
  · exact Or.inl ⟨_, if_pos up⟩
  rcases clear up with absent | there
  · have found := find?_eq_ok_iff.mpr ⟨short up, absent⟩
    exact Or.inr ⟨by simp only [enter, if_neg up, found, bind, Except.bind]; rfl, up, found⟩
  · exact Or.inl ⟨_, enter_eq_ok_iff.mpr ⟨rfl, fun _ => ⟨short up, there⟩⟩⟩

/-- A way without files in it is either open or leads into what is not there. -/
theorem walk_of_clear (short : Path.Short steps) (clear : t.Clear (start.entered steps)) :
    (∃ last, t.walk start steps.reverse = .ok last) ∨
      t.walk start steps.reverse = .error .notFound := by
  induction steps with
  | nil => exact Or.inl ⟨start, rfl⟩
  | cons name before ih =>
    obtain ⟨short_name, short⟩ := Path.short_cons.mp short
    obtain ⟨clear_name, clear⟩ := Location.forall_mem_entered_cons.mp clear
    rw [List.reverse_cons, walk_concat]
    rcases ih short clear with ⟨last, walked⟩ | missing
    · obtain rfl := follow_of_walk walked
      rw [walked]
      exact (enter_of_clear short_name clear_name).imp_right And.left
    · rw [missing]
      exact Or.inr rfl

/-- Makes the last directory of a way. If that is refused, the way may be open already. -/
def makeLast (t : FileTree) (start : Location) (name : String) (before : List String) :
    FileTree × Except FileFault Unit :=
  match t.makeDirectory start before.reverse name with
  | .ok made => (made, .ok ())
  | .error fault =>
    match t.walk start (name :: before).reverse with
    | .ok _ => (t, .ok ())
    | .error _ => (t, .error fault)

/-- The last directory of a way is made at once or after the directories before it. -/
theorem makeWay_cases (t : FileTree) (start : Location) (name : String) (before : List String) :
    (t.makeDirectory start before.reverse name ≠ .error .notFound ∧
      t.makeWay start (name :: before) = t.makeLast start name before) ∨
    ((t.makeWay start before).2 ≠ .ok () ∧
      t.makeWay start (name :: before) = t.makeWay start before) ∨
    ((t.makeWay start before).2 = .ok () ∧
      t.makeWay start (name :: before) = (t.makeWay start before).1.makeLast start name before) := by
  cases first : t.makeDirectory start before.reverse name with
  | ok made => exact Or.inl ⟨by simp, by simp only [makeWay, makeLast, first]⟩
  | error fault =>
    cases fault with
    | notFound =>
      right
      rcases rest : t.makeWay start before with ⟨made, fault | _⟩
      · exact Or.inl ⟨by simp, by simp only [makeWay, first, rest]⟩
      · refine Or.inr ⟨rfl, ?_⟩
        cases second : made.makeDirectory start before.reverse name with
        | ok all => simp only [makeWay, first, rest, makeLast, second]
        | error fault =>
          cases walked : made.walk start (name :: before).reverse <;>
            simp only [makeWay, first, rest, makeLast, second, walked]
    | _ =>
      refine Or.inl ⟨by simp, ?_⟩
      cases walked : t.walk start (name :: before).reverse <;>
        simp only [makeWay, makeLast, first, walked]

theorem walk_of_makeDirectory {name : String} {before : List String}
    (h : t.makeDirectory start before.reverse name = .ok made) :
    ∃ last, made.walk start (name :: before).reverse = .ok last := by
  obtain ⟨spot, walked, down, found, rfl⟩ := makeDirectory_eq_ok_iff.mp h
  obtain ⟨short, absent⟩ := find?_eq_ok_iff.mp found
  have stay (other : Location) (there : t.look other = some .directory) :
      (t.put (name :: spot) .directory).look other = some .directory := by
    by_cases same : other = name :: spot
    · rw [same, look_put_self (by simp)]
    · rwa [look_put_of_ne same]
  refine ⟨name :: spot, ?_⟩
  rw [List.reverse_cons, walk_concat, walk_of_directories_stay stay walked]
  exact enter_eq_ok_iff.mpr ⟨(if_neg down).symm, fun _ => ⟨short, look_put_self (by simp)⟩⟩

theorem walk_of_makeLast {name : String} {before : List String}
    (h : (t.makeLast start name before).2 = .ok ()) :
    ∃ last, (t.makeLast start name before).1.walk start (name :: before).reverse = .ok last := by
  unfold makeLast at h ⊢
  split at h
  next made first => exact walk_of_makeDirectory first
  next fault first =>
    split at h
    next last walked => exact ⟨last, walked⟩
    next => cases h

/-- A way that was made is open. -/
theorem walk_of_makeWay (h : (t.makeWay start steps).2 = .ok ()) :
    ∃ last, (t.makeWay start steps).1.walk start steps.reverse = .ok last := by
  cases steps with
  | nil => exact ⟨start, rfl⟩
  | cons name before =>
    rcases makeWay_cases t start name before with ⟨_, same⟩ | ⟨failed, same⟩ | ⟨_, same⟩
    · rw [same] at h ⊢
      exact walk_of_makeLast h
    · rw [same] at h
      exact absurd h failed
    · rw [same] at h ⊢
      exact walk_of_makeLast h

theorem change_makeLast (t : FileTree) (start : Location) (name : String) (before : List String) :
    Change (· ∈ start.entered (name :: before)) (fun _ => False) t
      (t.makeLast start name before).1 := by
  unfold makeLast
  split
  next made first =>
    obtain ⟨spot, walked, down, found, rfl⟩ := makeDirectory_eq_ok_iff.mp first
    refine change_put_directory ?_ (find?_eq_ok_iff.mp found).2
    rw [Location.entered, if_neg down, follow_of_walk walked]
    exact List.mem_cons_self
  next => split <;> exact Change.refl t

/-- Directories are made on the way only, also where the last of them cannot be made. -/
theorem change_makeWay (t : FileTree) (start : Location) (steps : List String) :
    Change (· ∈ start.entered steps) (fun _ => False) t (t.makeWay start steps).1 := by
  induction steps generalizing t with
  | nil => exact Change.refl t
  | cons name before ih =>
    have made_before :
        Change (· ∈ start.entered (name :: before)) (fun _ => False) t
          (t.makeWay start before).1 := by
      refine (ih t).mono ?_ fun _ none => none
      exact (Location.forall_mem_entered_cons.mp fun _ mem => mem).2
    rcases makeWay_cases t start name before with ⟨_, same⟩ | ⟨_, same⟩ | ⟨_, same⟩
    · rw [same]
      exact change_makeLast t start name before
    · rw [same]
      exact made_before
    · rw [same]
      exact made_before.trans (change_makeLast _ start name before)

/-- The last directory of a way without files in it is there or can be made if the way to it is
open. -/
theorem makeLast_of_clear {name : String} {before : List String}
    (short : Path.Short (name :: before)) (clear : t.Clear (start.entered (name :: before)))
    (opened : ∃ last, t.walk start before.reverse = .ok last) :
    (t.makeLast start name before).2 = .ok () := by
  obtain ⟨last, walked⟩ := opened
  obtain rfl := follow_of_walk walked
  have step := enter_of_clear (Path.short_cons.mp short).1
    (Location.forall_mem_entered_cons.mp clear).1
  unfold makeLast
  split
  next => rfl
  next fault refused =>
    rcases step with ⟨last, entered⟩ | ⟨_, down, found⟩
    · rw [List.reverse_cons, walk_concat, walked]
      simp [bind, Except.bind, entered]
    · rw [makeDirectory_eq_ok_iff.mpr ⟨_, walked, down, found, rfl⟩] at refused
      cases refused

/-- A way can be made if its names are short enough and there are no files in it. -/
theorem makeWay_of_clear (short : Path.Short steps) (clear : t.Clear (start.entered steps)) :
    (t.makeWay start steps).2 = .ok () := by
  induction steps with
  | nil => rfl
  | cons name before ih =>
    have short_before := (Path.short_cons.mp short).2
    have clear_before := (Location.forall_mem_entered_cons.mp clear).2
    rcases makeWay_cases t start name before with ⟨known, same⟩ | ⟨failed, _⟩ | ⟨made, same⟩
    · rw [same]
      refine makeLast_of_clear short clear ?_
      refine (walk_of_clear short_before clear_before).resolve_right fun closed => known ?_
      exact makeDirectory_of_closed closed
    · exact absurd (ih short_before clear_before) failed
    · rw [same]
      exact makeLast_of_clear short ((change_makeWay t start before).clear (by simp) clear)
        (walk_of_makeWay made)

/-- The locations of the directories on the way to what a path means. -/
def way (t : FileTree) (p : Path) : List Location :=
  (t.start p).entered p.steps.dropLast.reverse

theorem Change.way_eq {made written : Location → Prop} {t t' : FileTree}
    (change : Change made written t t') (p : Path) : t'.way p = t.way p := by
  rw [way, way, change.start_eq]

theorem onWay_of_mem_way {p : Path} {spot : Location} (h : spot ∈ t.way p) : t.OnWay p spot := by
  obtain ⟨before, inside, rfl⟩ := Location.exists_of_mem_entered h
  exact ⟨before, by rwa [List.reverse_reverse] at inside, rfl⟩

theorem makeDirectories_parent_eq (t : FileTree) (p : Path) :
    t.makeDirectories p.parent =
      if p.steps.dropLast = [] then (t, .ok ())
      else match p.parent.fault? with
        | some fault => (t, .error fault)
        | none => t.makeWay (t.start p) p.steps.dropLast.reverse := by
  unfold makeDirectories
  rw [Path.steps_parent]
  by_cases empty : p.steps.dropLast = []
  · simp [empty]
  · have same : t.start p.parent = t.start p := by
      rw [start, start, Path.isAbsolute_parent (by rwa [Path.steps_parent])]
    cases p.parent.fault? <;> simp only [List.isEmpty_iff, empty, ↓reduceIte, same]

theorem change_way (t : FileTree) (p : Path) :
    Change (· ∈ t.way p) (fun _ => False) t (t.makeDirectories p.parent).1 := by
  rw [makeDirectories_parent_eq]
  split
  · exact Change.refl t
  · split
    · exact Change.refl t
    · exact change_makeWay t (t.start p) p.steps.dropLast.reverse

theorem walk_of_makeDirectories {p : Path} (h : (t.makeDirectories p.parent).2 = .ok ()) :
    ∃ last, (t.makeDirectories p.parent).1.walk (t.start p) p.steps.dropLast = .ok last := by
  rw [makeDirectories_parent_eq] at h ⊢
  split
  next none => exact ⟨t.start p, by rw [none]; rfl⟩
  next some =>
    rw [if_neg some] at h
    split at h
    · cases h
    · simpa using walk_of_makeWay h

/-- The directories on a way can be made if its names are short enough and no file is in it. -/
theorem makeDirectories_eq_ok_iff {p : Path} (sound : p.fault? = none) :
    (t.makeDirectories p.parent).2 = .ok () ↔
      Path.Short p.steps.dropLast ∧ t.Clear (t.way p) := by
  have short_reverse : Path.Short p.steps.dropLast.reverse ↔ Path.Short p.steps.dropLast := by
    simp [Path.Short]
  constructor
  · intro h
    obtain ⟨last, walked⟩ := walk_of_makeDirectories h
    rw [← List.reverse_reverse p.steps.dropLast] at walked
    obtain ⟨_, short, there⟩ := walk_eq_ok_iff.mp walked
    refine ⟨short_reverse.mp short, ?_⟩
    intro spot inside
    rcases (t.change_way p).entries spot with same | ⟨_, absent, _⟩ | ⟨none, _⟩
    · exact Or.inr (same.symm.trans (there spot inside))
    · exact Or.inl absent
    · exact none.elim
  · rintro ⟨short, clear⟩
    rw [makeDirectories_parent_eq]
    split
    next => rfl
    next some =>
      rw [Path.fault?_parent (by rwa [Path.steps_parent]) sound]
      exact makeWay_of_clear (short_reverse.mpr short) clear

/-- Along a way that was made there are directories, and all else is as it was. -/
theorem look_makeDirectories {p : Path} (h : (t.makeDirectories p.parent).2 = .ok ())
    (spot : Location) : (t.makeDirectories p.parent).1.look spot =
      if spot ∈ t.way p then some .directory else t.look spot := by
  obtain ⟨last, walked⟩ := walk_of_makeDirectories h
  rw [← List.reverse_reverse p.steps.dropLast] at walked
  obtain ⟨_, _, there⟩ := walk_eq_ok_iff.mp walked
  split
  next inside => exact there spot inside
  next outside =>
    rcases (t.change_way p).entries spot with same | ⟨inside, _⟩ | ⟨none, _⟩
    · exact same
    · exact absurd inside outside
    · exact none.elim

/-- Makes the directories on the way to a file and gives it its content. What was made stays when
a later step fails. -/
def save (t : FileTree) (p : Path) (content : ByteArray) : FileTree × Except FileFault Unit :=
  match t.makeDirectories p.parent with
  | (made, .error fault) => (made, .error fault)
  | (made, .ok ()) =>
    match made.write p content with
    | .ok written => (written, .ok ())
    | .error fault => (made, .error fault)

theorem save_eq_ok_iff {t' : FileTree} {p : Path} {content : ByteArray} :
    t.save p content = (t', .ok ()) ↔ (t.makeDirectories p.parent).2 = .ok () ∧
      (t.makeDirectories p.parent).1.write p content = .ok t' := by
  unfold save
  rcases t.makeDirectories p.parent with ⟨made, _ | _⟩
  · simp
  · cases wrote : made.write p content <;> simp [wrote]

theorem change_of_save_error {t t' : FileTree} {p : Path} {content : ByteArray}
    {fault : FileFault} (h : t.save p content = (t', .error fault)) :
    Change (· ∈ t.way p) (fun _ => False) t t' := by
  have made_way := t.change_way p
  unfold save at h
  split at h
  next made _ result =>
    rw [result] at made_way
    cases h
    exact made_way
  next made result =>
    rw [result] at made_way
    split at h
    · cases h
    · cases h
      exact made_way

/-- A file that was saved is where its path leads and can be read there. -/
theorem saved {t t' : FileTree} {p : Path} {content : ByteArray}
    (h : t.save p content = (t', .ok ())) :
    Change (· ∈ t.way p) (· = t.locate p) t t' ∧ t'.Reaches p ∧
      t'.look (t.locate p) = some (.file content) := by
  have made_way := t.change_way p
  obtain ⟨_, wrote⟩ := save_eq_ok_iff.mp h
  obtain ⟨reached, free, rfl⟩ := write_eq_ok_iff.mp wrote
  rw [made_way.locate_eq] at free ⊢
  have ne : t.locate p ≠ [] := by
    intro outermost
    simp [look, outermost] at free
  have put : Change (· ∈ t.way p) (· = t.locate p) (t.makeDirectories p.parent).1
      ((t.makeDirectories p.parent).1.put (t.locate p) (.file content)) := by
    refine change_put_file ?_ free content
    rfl
  exact ⟨(made_way.mono (fun _ way => way) (fun _ none => none.elim)).trans put,
    reached.of_change put, look_put_self ne⟩

end TemplateExport.FileTree
