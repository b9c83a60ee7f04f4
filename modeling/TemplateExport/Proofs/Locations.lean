import Mathlib.Data.List.Basic
import Mathlib.Data.List.Induction
import TemplateExport.Files.FileTree

namespace TemplateExport

theorem bind_eq_ok_iff {ε α β : Type} {act : Except ε α} {next : α → Except ε β} {b : β} :
    act >>= next = .ok b ↔ ∃ a, act = .ok a ∧ next a = .ok b := by
  cases act <;> simp [bind, Except.bind]

namespace Path

theorem piecesOf_of_no_slash {cs : List Char} (h : '/' ∉ cs) : piecesOf cs = [cs] := by
  induction cs with
  | nil => rfl
  | cons c rest ih =>
    have hc : c ≠ '/' := fun same => h (by simp [same])
    have hrest : '/' ∉ rest := fun mem => h (List.mem_cons_of_mem c mem)
    simp [piecesOf, hc, ih hrest]

theorem piecesOf_ne_nil (cs : List Char) : piecesOf cs ≠ [] := by
  cases cs with
  | nil => simp [piecesOf]
  | cons c rest =>
    unfold piecesOf
    split
    · simp
    · split <;> simp

theorem piecesOf_append_slash (cs ds : List Char) :
    piecesOf (cs ++ '/' :: ds) = piecesOf cs ++ piecesOf ds := by
  induction cs with
  | nil => simp [piecesOf]
  | cons c rest ih =>
    by_cases hc : c = '/'
    · simp [piecesOf, hc, ih]
    · obtain ⟨first, others, hp⟩ := List.exists_cons_of_ne_nil (piecesOf_ne_nil rest)
      simp [piecesOf, hc, ih, hp]

theorem piecesOf_intercalate {pieces : List (List Char)} (some : pieces ≠ [])
    (h : ∀ piece ∈ pieces, '/' ∉ piece) : piecesOf (['/'].intercalate pieces) = pieces := by
  induction pieces with
  | nil => exact absurd rfl some
  | cons piece rest ih =>
    have hpiece := h piece List.mem_cons_self
    cases rest with
    | nil => simpa using piecesOf_of_no_slash hpiece
    | cons next rest =>
      have hrest := ih (by simp) fun other hother => h other (List.mem_cons_of_mem _ hother)
      rw [List.intercalate_cons_cons, List.append_assoc, List.singleton_append,
        piecesOf_append_slash, piecesOf_of_no_slash hpiece, hrest, List.singleton_append]

theorem no_slash_of_mem_piecesOf {cs piece : List Char} (h : piece ∈ piecesOf cs) :
    '/' ∉ piece := by
  induction cs generalizing piece with
  | nil => simp_all [piecesOf]
  | cons c rest ih =>
    by_cases hc : c = '/'
    · simp only [piecesOf, hc, ↓reduceIte, List.mem_cons] at h
      rcases h with rfl | h
      · simp
      · exact ih h
    · obtain ⟨first, others, hp⟩ := List.exists_cons_of_ne_nil (piecesOf_ne_nil rest)
      simp only [piecesOf, hc, ↓reduceIte, hp, List.mem_cons] at h ih
      rcases h with rfl | h
      · intro slash
        rcases List.mem_cons.mp slash with same | slash
        · exact hc same.symm
        · exact ih (Or.inl rfl) slash
      · exact ih (Or.inr h)

theorem pieces_ofPieces {ps : List String} (some : ps ≠ [])
    (h : ∀ piece ∈ ps, '/' ∉ piece.toList) : (ofPieces ps).pieces = ps := by
  have parts : ∀ piece ∈ ps.map String.toList, '/' ∉ piece := by simpa using h
  rw [pieces, ofPieces, String.toList_intercalate,
    show "/".toList = ['/'] from rfl, piecesOf_intercalate (by simpa using some) parts]
  simp [Function.comp_def]

theorem no_slash_of_mem_pieces {p : Path} {piece : String} (h : piece ∈ p.pieces) :
    '/' ∉ piece.toList := by
  obtain ⟨cs, hcs, rfl⟩ := List.mem_map.mp h
  simpa using no_slash_of_mem_piecesOf hcs

theorem dropEnd_concat (test : String → Bool) (front : List String) (last : String) :
    dropEnd test (front ++ [last]) =
      if test last then dropEnd test front else front ++ [last] := by
  by_cases h : test last = true <;> simp [dropEnd, h]

theorem dropEnd_isPrefix (test : String → Bool) (ps : List String) : dropEnd test ps <+: ps := by
  rw [← List.reverse_suffix, dropEnd, List.reverse_reverse]
  exact List.dropWhile_suffix test

theorem test_of_dropEnd_eq {test : String → Bool} {ps front : List String} {last : String}
    (h : dropEnd test ps = front ++ [last]) : test last = false := by
  induction ps using List.reverseRecOn with
  | nil => simp [dropEnd] at h
  | append_singleton before piece ih =>
    rw [dropEnd_concat] at h
    split at h
    · exact ih h
    next kept =>
      obtain ⟨_, same⟩ := List.append_inj' h rfl
      cases same
      simpa using kept

/-- Pieces that lead nowhere can be left out before the steps are taken. -/
theorem filter_dropEnd (ps : List String) :
    (dropEnd isIdle ps).filter (!isIdle ·) = ps.filter (!isIdle ·) := by
  induction ps using List.reverseRecOn with
  | nil => rfl
  | append_singleton front last ih =>
    rw [dropEnd_concat]
    split
    next dropped => simp [ih, dropped]
    next => rfl

/-- The pieces of the surrounding path, before they are put together. -/
def parentPieces (p : Path) : List String :=
  dropEnd isIdle (dropEnd isIdle p.pieces).dropLast

theorem parent_eq (p : Path) : p.parent = ofPieces p.parentPieces :=
  rfl

theorem parentPieces_isPrefix (p : Path) : p.parentPieces <+: p.pieces :=
  (dropEnd_isPrefix isIdle _).trans ((List.dropLast_prefix _).trans (dropEnd_isPrefix isIdle _))

theorem pieces_parent {p : Path} (some : p.parentPieces ≠ []) :
    p.parent.pieces = p.parentPieces :=
  pieces_ofPieces some fun _ h =>
    no_slash_of_mem_pieces (p.parentPieces_isPrefix.subset h)

theorem filter_parentPieces (p : Path) :
    p.parentPieces.filter (!isIdle ·) = p.steps.dropLast := by
  rw [parentPieces, filter_dropEnd, steps, ← filter_dropEnd p.pieces]
  rcases List.eq_nil_or_concat' (dropEnd isIdle p.pieces) with none | ⟨front, last, split⟩
  · simp [none]
  · simp [split, test_of_dropEnd_eq split]

theorem steps_parent (p : Path) : p.parent.steps = p.steps.dropLast := by
  rw [← filter_parentPieces]
  by_cases none : p.parentPieces = []
  · rw [parent_eq, none]
    rfl
  · rw [steps, pieces_parent none]

theorem isAbsolute_iff_pieces {p : Path} :
    p.isAbsolute = true ↔ ∃ rest, rest ≠ [] ∧ p.pieces = "" :: rest := by
  obtain ⟨text⟩ := p
  simp only [isAbsolute, pieces, decide_eq_true_eq]
  cases hcs : text.toList with
  | nil => simp [piecesOf]
  | cons c cs =>
    by_cases hc : c = '/'
    · simp [piecesOf, hc, piecesOf_ne_nil]
    · obtain ⟨first, others, hp⟩ := List.exists_cons_of_ne_nil (piecesOf_ne_nil cs)
      simp [piecesOf, hc, hp]

theorem parentPieces_ne_nil {p : Path} (some : p.parent.steps ≠ []) : p.parentPieces ≠ [] := by
  intro none
  rw [steps_parent, ← filter_parentPieces, none] at some
  exact some rfl

/-- A surrounding path that leads anywhere starts where the path itself does. -/
theorem isAbsolute_parent {p : Path} (some : p.parent.steps ≠ []) :
    p.parent.isAbsolute = p.isAbsolute := by
  have busy : p.parentPieces.filter (!isIdle ·) ≠ [] := by
    rwa [filter_parentPieces, ← steps_parent]
  have ne := parentPieces_ne_nil some
  obtain ⟨first, others, split⟩ := List.exists_cons_of_ne_nil ne
  obtain ⟨after, whole⟩ := p.parentPieces_isPrefix
  rw [split, List.cons_append] at whole
  rw [Bool.eq_iff_iff, isAbsolute_iff_pieces, isAbsolute_iff_pieces, pieces_parent ne, split,
    ← whole]
  constructor
  · intro h
    obtain ⟨rest, hrest, same⟩ := h
    obtain ⟨rfl, rfl⟩ := List.cons.inj same
    exact ⟨others ++ after, by simp [hrest], rfl⟩
  · intro h
    obtain ⟨rest, _, same⟩ := h
    obtain ⟨rfl, _⟩ := List.cons.inj same
    refine ⟨others, ?_, rfl⟩
    intro none
    simp [split, none, isIdle] at busy

/-- The pieces of a path make up its text. -/
theorem text_eq_intercalate (p : Path) : p.text = "/".intercalate p.pieces := by
  have joined (cs : List Char) : ['/'].intercalate (piecesOf cs) = cs := by
    induction cs with
    | nil => rfl
    | cons c rest ih =>
      obtain ⟨first, others, hp⟩ := List.exists_cons_of_ne_nil (piecesOf_ne_nil rest)
      rw [hp] at ih
      by_cases hc : c = '/'
      · simp [piecesOf, hc, hp, List.intercalate_cons_cons, ih]
      · cases others with
        | nil => simp_all [piecesOf]
        | cons second others => simp_all [piecesOf, List.intercalate_cons_cons]
  refine String.toList_inj.mp ?_
  rw [String.toList_intercalate, show "/".toList = ['/'] from rfl, pieces, List.map_map,
    List.map_congr_left (g := id) (by simp), List.map_id, joined]

theorem fault?_eq_none_iff {p : Path} :
    p.fault? = none ↔
      '\x00' ∉ p.text.toList ∧ p.text ≠ "" ∧ p.text.utf8ByteSize < sizeLimit := by
  unfold fault?
  split
  next nul => simp_all
  next =>
    split
    next empty => simp_all
    next =>
      split <;> simp_all

/-- The surrounding path is the beginning of the path, so nothing is wrong with it alone. -/
theorem fault?_parent {p : Path} (some : p.parent.steps ≠ []) (sound : p.fault? = none) :
    p.parent.fault? = none := by
  obtain ⟨after, whole⟩ := p.parentPieces_isPrefix
  obtain ⟨rest, text⟩ : ∃ rest, p.text = p.parent.text ++ rest := by
    rw [p.text_eq_intercalate, ← whole, parent_eq, ofPieces]
    by_cases last : after = []
    · exact ⟨"", by rw [last, List.append_nil, String.append_empty]⟩
    · refine ⟨"/" ++ "/".intercalate after, ?_⟩
      rw [String.intercalate_append_of_ne_nil (parentPieces_ne_nil some) last,
        String.append_assoc]
  obtain ⟨clean, _, short⟩ := fault?_eq_none_iff.mp sound
  rw [text] at clean short
  rw [String.toList_append] at clean
  rw [String.utf8ByteSize_append] at short
  refine fault?_eq_none_iff.mpr ⟨fun nul => clean (List.mem_append_left _ nul), ?_, by omega⟩
  intro empty
  simp [steps, pieces, empty, piecesOf, isIdle] at some

/-- An entry is named by the last piece. -/
theorem pieces_of_target_entry {p : Path} {way : List String} {name : String}
    (h : p.target = .entry way name) :
    ∃ front, p.pieces = front ++ [name] ∧ isIdle name = false ∧ name ≠ ".." ∧
      way = p.steps.dropLast := by
  unfold target at h
  rcases List.eq_nil_or_concat' p.pieces with none | ⟨front, last, split⟩
  · simp [none] at h
  · by_cases slash : last = ""
    · have ends : p.pieces.getLast? = some "" := by simp [split, slash]
      split at h
      · cases h
      · simp only [ends, ↓reduceIte] at h
        split at h <;> cases h
    · have ends : p.pieces.getLast? ≠ some "" := by simp [split, slash]
      have kept : p.pieces.reverse.dropWhile (· = "") = last :: front.reverse := by
        simp [split, slash]
      simp only [kept, ends, ↓reduceIte] at h
      split at h
      · cases h
      next proper =>
        obtain ⟨rfl, rfl⟩ := Target.entry.inj h
        simp only [Bool.or_eq_true, decide_eq_true_eq, not_or] at proper
        exact ⟨front, split, by simp [isIdle, slash, proper.1], proper.2, rfl⟩

/-- An entry is named by the last step. -/
theorem steps_of_target_entry {p : Path} {way : List String} {name : String}
    (h : p.target = .entry way name) : p.steps = way ++ [name] ∧ name ≠ ".." := by
  obtain ⟨front, split, busy, up, rfl⟩ := pieces_of_target_entry h
  have steps : p.steps = front.filter (!isIdle ·) ++ [name] := by
    rw [Path.steps, split, List.filter_append, List.filter_singleton, busy]
    rfl
  exact ⟨by simp [steps], up⟩

end Path

/-- Where a step leads from a location. -/
def Location.toward (spot : Location) (step : String) : Location :=
  if step = ".." then spot.tail else step :: spot

/-- Where steps lead from a location, whatever is there. -/
def Location.follow (spot : Location) (steps : List String) : Location :=
  steps.foldl Location.toward spot

theorem Location.follow_concat (spot : Location) (steps : List String) (step : String) :
    spot.follow (steps ++ [step]) = (spot.follow steps).toward step := by
  simp [follow]

/-- The locations that a way enters by name, the last one first. The steps are given last first,
too. -/
def Location.entered (start : Location) : List String → List Location
  | [] => []
  | name :: before =>
    if name = ".." then start.entered before
    else (name :: start.follow before.reverse) :: start.entered before

theorem Location.exists_of_mem_entered {start spot : Location} {steps : List String}
    (h : spot ∈ start.entered steps) :
    ∃ before, before <+: steps.reverse ∧ spot = start.follow before := by
  induction steps with
  | nil => simp [entered] at h
  | cons name before ih =>
    have earlier (h : spot ∈ start.entered before) :
        ∃ way, way <+: (name :: before).reverse ∧ spot = start.follow way := by
      obtain ⟨way, inside, rfl⟩ := ih h
      exact ⟨way, inside.trans (by simp), rfl⟩
    unfold entered at h
    split at h
    next => exact earlier h
    next down =>
      rcases List.mem_cons.mp h with rfl | h
      · refine ⟨(name :: before).reverse, List.prefix_rfl, ?_⟩
        rw [List.reverse_cons, follow_concat, toward, if_neg down]
      · exact earlier h

theorem Location.forall_mem_entered_cons {start : Location} {name : String}
    {before : List String} {holds : Location → Prop} :
    (∀ spot ∈ start.entered (name :: before), holds spot) ↔
      (name ≠ ".." → holds (name :: start.follow before.reverse)) ∧
        ∀ spot ∈ start.entered before, holds spot := by
  by_cases up : name = ".." <;> simp [entered, up]

/-- Steps that can be taken wherever there are directories. -/
def Path.Short (steps : List String) : Prop :=
  ∀ name ∈ steps, name ≠ ".." → name.utf8ByteSize ≤ Path.nameLimit

theorem Path.short_cons {name : String} {before : List String} :
    Path.Short (name :: before) ↔
      (name ≠ ".." → name.utf8ByteSize ≤ Path.nameLimit) ∧ Path.Short before :=
  List.forall_mem_cons

theorem Path.short_concat {name : String} {before : List String} :
    Path.Short (before ++ [name]) ↔
      Path.Short before ∧ (name ≠ ".." → name.utf8ByteSize ≤ Path.nameLimit) := by
  rw [Short, List.forall_mem_append, List.forall_mem_singleton, Short]

namespace FileTree

/-- The location that a path means, whatever is there. -/
def locate (t : FileTree) (p : Path) : Location :=
  (t.start p).follow p.steps

/-- The locations that a path passes before the one that it means. -/
def OnWay (t : FileTree) (p : Path) (spot : Location) : Prop :=
  ∃ before, before <+: p.steps.dropLast ∧ spot = (t.start p).follow before

theorem find?_eq_ok_iff {t : FileTree} {spot : Location} {name : String}
    {found : Option FileEntry} :
    t.find? spot name = .ok found ↔
      name.utf8ByteSize ≤ Path.nameLimit ∧ t.look (name :: spot) = found := by
  unfold find?
  split
  next long => simp [Nat.not_le.mpr long]
  next short => simp [Nat.not_lt.mp short]

theorem enter_eq_ok_iff {t : FileTree} {spot next : Location} {step : String} :
    t.enter spot step = .ok next ↔ next = spot.toward step ∧
      (step ≠ ".." → step.utf8ByteSize ≤ Path.nameLimit ∧
        t.look (step :: spot) = some .directory) := by
  by_cases up : step = ".."
  · simp [enter, Location.toward, up, eq_comm]
  · cases found : t.find? spot step with
    | error fault =>
      have unfound : ∀ e, ¬t.find? spot step = .ok e := by simp [found]
      simp only [find?_eq_ok_iff] at unfound
      simp only [enter, up, ↓reduceIte, found, bind, Except.bind, reduceCtorEq, false_iff]
      intro h
      exact unfound _ (h.2 up)
    | ok entry =>
      obtain ⟨short, look⟩ := find?_eq_ok_iff.mp found
      simp only [enter, up, ↓reduceIte, found, bind, Except.bind, Location.toward]
      rcases entry with _ | _ | content <;>
        simp [short, look, pure, Except.pure, throw, throwThe, MonadExceptOf.throw, up, eq_comm]

theorem walk_concat (t : FileTree) (spot : Location) (steps : List String) (step : String) :
    t.walk spot (steps ++ [step]) = t.walk spot steps >>= (t.enter · step) := by
  simp [walk]

/-- A walk ends where its steps lead. -/
theorem follow_of_walk {t : FileTree} {spot last : Location} {steps : List String}
    (h : t.walk spot steps = .ok last) : last = spot.follow steps := by
  induction steps using List.reverseRecOn generalizing last with
  | nil => exact (Except.ok.inj h).symm
  | append_singleton front step ih =>
    rw [walk_concat] at h
    cases walked : t.walk spot front with
    | error fault => simp [walked, bind, Except.bind] at h
    | ok middle =>
      rw [walked] at h
      rw [Location.follow_concat, ← ih walked]
      exact (enter_eq_ok_iff.mp h).1

/-- A way is open if its names are short enough and there are directories all along it. -/
theorem walk_eq_ok_iff {t : FileTree} {start last : Location} {steps : List String} :
    t.walk start steps.reverse = .ok last ↔ last = start.follow steps.reverse ∧
      Path.Short steps ∧ ∀ spot ∈ start.entered steps, t.look spot = some .directory := by
  induction steps generalizing last with
  | nil => simp [walk, Location.follow, Location.entered, Path.Short, pure, Except.pure, eq_comm]
  | cons name before ih =>
    rw [List.reverse_cons, walk_concat, bind_eq_ok_iff, Location.follow_concat, Path.short_cons,
      Location.forall_mem_entered_cons]
    simp only [ih, enter_eq_ok_iff]
    constructor
    · rintro ⟨_, ⟨rfl, short, there⟩, rfl, step⟩
      exact ⟨rfl, ⟨fun down => (step down).1, short⟩, fun down => (step down).2, there⟩
    · rintro ⟨rfl, ⟨short_name, short⟩, step, there⟩
      exact ⟨_, ⟨rfl, short, there⟩, rfl, fun down => ⟨short_name down, step down⟩⟩

/-- A walk is open as long as all directories stay. -/
theorem walk_of_directories_stay {t t' : FileTree} {spot last : Location} {steps : List String}
    (stay : ∀ other, t.look other = some .directory → t'.look other = some .directory)
    (h : t.walk spot steps = .ok last) : t'.walk spot steps = .ok last := by
  induction steps using List.reverseRecOn generalizing last with
  | nil => exact h
  | append_singleton front step ih =>
    rw [walk_concat] at h ⊢
    cases walked : t.walk spot front with
    | error fault => simp [walked, bind, Except.bind] at h
    | ok middle =>
      rw [walked] at h
      rw [ih walked]
      obtain ⟨hlast, there⟩ := enter_eq_ok_iff.mp h
      exact enter_eq_ok_iff.mpr ⟨hlast, fun up => ⟨(there up).1, stay _ (there up).2⟩⟩

end FileTree

end TemplateExport
