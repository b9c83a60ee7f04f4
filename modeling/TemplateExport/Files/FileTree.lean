import TemplateExport.Files.Path

namespace TemplateExport

/-- Where a file or directory is: its name and those of the directories around it, innermost
first. -/
abbrev Location := List String

inductive FileEntry where
  | directory
  | file (content : ByteArray)

/-- Files and directories by location. The outermost directory is always there. -/
structure FileTree where
  entries : List (Location × FileEntry)
  /-- The directory from which relative paths start. -/
  here : Location

namespace FileTree

def look (t : FileTree) (spot : Location) : Option FileEntry :=
  if spot = [] then some .directory else t.entries.lookup spot

def put (t : FileTree) (spot : Location) (e : FileEntry) : FileTree :=
  { t with entries := (spot, e) :: t.entries.filter (·.1 ≠ spot) }

theorem look_put_self {t : FileTree} {spot : Location} {e : FileEntry} (h : spot ≠ []) :
    (t.put spot e).look spot = some e := by
  simp [look, put, h]

theorem look_put_of_ne {t : FileTree} {spot other : Location} {e : FileEntry} (h : other ≠ spot) :
    (t.put spot e).look other = t.look other := by
  have hb : (other == spot) = false := by simpa using h
  have hlookup (es : List (Location × FileEntry)) :
      (es.filter (·.1 ≠ spot)).lookup other = es.lookup other := by
    induction es with
    | nil => rfl
    | cons p ps ih =>
      by_cases hk : p.1 = spot
      · rw [List.filter_cons_of_neg (by simpa using hk), ih, List.lookup_cons, hk, hb]
      · rw [List.filter_cons_of_pos (by simpa using hk), List.lookup_cons, List.lookup_cons, ih]
  simp only [look, put, List.lookup_cons, hb, hlookup]

def start (t : FileTree) (p : Path) : Location :=
  if p.isAbsolute then [] else t.here

def find? (t : FileTree) (spot : Location) (name : String) : Except FileFault (Option FileEntry) :=
  if Path.nameLimit < name.utf8ByteSize then .error .nameTooLong
  else .ok (t.look (name :: spot))

def enter (t : FileTree) (spot : Location) (step : String) : Except FileFault Location :=
  if step = ".." then .ok spot.tail
  else do
    match ← t.find? spot step with
    | some .directory => return step :: spot
    | some (.file _) => throw .notADirectory
    | none => throw .notFound

def walk (t : FileTree) (spot : Location) (steps : List String) : Except FileFault Location :=
  steps.foldlM t.enter spot

def read (t : FileTree) (p : Path) : Except FileFault ByteArray :=
  match p.fault? with
  | some fault => .error fault
  | none =>
    match p.target with
    | .entry way name => do
      let spot ← t.walk (t.start p) way
      match ← t.find? spot name with
      | some (.file content) => return content
      | some .directory => throw .isADirectory
      | none => throw .notFound
    | .folder way name => do
      let _ ← t.walk (t.start p) (way ++ [name])
      throw .isADirectory
    | .directory way => do
      let _ ← t.walk (t.start p) way
      throw .isADirectory

/-- Gives the file that a path names a new content. The file need not be there, but its directory
must. -/
def write (t : FileTree) (p : Path) (content : ByteArray) : Except FileFault FileTree :=
  match p.fault? with
  | some fault => .error fault
  | none =>
    match p.target with
    | .entry way name => do
      let spot ← t.walk (t.start p) way
      match ← t.find? spot name with
      | some .directory => throw .isADirectory
      | some (.file _) | none => return t.put (name :: spot) (.file content)
    | .folder way _ => do
      let _ ← t.walk (t.start p) way
      throw .isADirectory
    | .directory way => do
      let _ ← t.walk (t.start p) way
      throw .isADirectory

/-- Makes the directory at the end of a way, where nothing may be. -/
def makeDirectory (t : FileTree) (start : Location) (way : List String) (name : String) :
    Except FileFault FileTree := do
  let spot ← t.walk start way
  if name = ".." then throw .alreadyExists
  match ← t.find? spot name with
  | some _ => throw .alreadyExists
  | none => return t.put (name :: spot) .directory

/-- Makes the directory at the end of a way and those that are missing before it. The steps are
given last first. What was made stays when a later step fails. -/
def makeWay (t : FileTree) (start : Location) : List String → FileTree × Except FileFault Unit
  | [] => (t, .ok ())
  | name :: before =>
    let settle (t : FileTree) (fault : FileFault) : FileTree × Except FileFault Unit :=
      match t.walk start (name :: before).reverse with
      | .ok _ => (t, .ok ())
      | .error _ => (t, .error fault)
    match t.makeDirectory start before.reverse name with
    | .ok made => (made, .ok ())
    | .error .notFound =>
      match t.makeWay start before with
      | (made, .error fault) => (made, .error fault)
      | (made, .ok ()) =>
        match made.makeDirectory start before.reverse name with
        | .ok all => (all, .ok ())
        | .error fault => settle made fault
    | .error fault => settle t fault

def makeDirectories (t : FileTree) (p : Path) : FileTree × Except FileFault Unit :=
  if p.steps.isEmpty then (t, .ok ())
  else match p.fault? with
    | some fault => (t, .error fault)
    | none => t.makeWay (t.start p) p.steps.reverse

end FileTree

end TemplateExport
