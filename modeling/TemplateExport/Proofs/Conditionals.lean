import TemplateExport.Identifier
import TemplateExport.Line

namespace TemplateExport

/-- What the preprocessor takes a line for. -/
inductive Directive where
  /-- The lines from here on are for a name being defined, or for its not being defined. -/
  | opens (name : String) (defined : Bool)
  | otherwise
  | closes
  | defines (name : String)
  /-- No matter of conditions and definitions. -/
  | other
deriving DecidableEq

/-- Between the words of a directive there are spaces and tabs. -/
def isGap (c : Char) : Bool :=
  c == ' ' || c == '\t'

/-- Reads a line: behind a number sign a keyword, and the name that may follow it. -/
def Directive.ofText (text : String) : Directive :=
  match text.toList.dropWhile isGap with
  | '#' :: rest =>
    let line := rest.dropWhile isGap
    let keyword := line.takeWhile isNamePart
    let behind := (line.drop keyword.length).dropWhile isGap
    let name := String.ofList (behind.takeWhile isNamePart)
    match String.ofList keyword with
    | "ifdef" => opens name true
    | "ifndef" => opens name false
    | "else" => otherwise
    | "endif" => closes
    | "define" => defines name
    | _ => other
  | _ => other

namespace Line

def directive (line : Line) : Directive :=
  .ofText line.text

theorem directive_otherwise : otherwise.directive = .otherwise := by
  decide +kernel

theorem directive_pragmaOnce : pragmaOnce.directive = .other := by
  decide +kernel

theorem directive_blank : blank.directive = .other := by
  decide +kernel

theorem directive_includes (operand : String) : (includes operand).directive = .other := by
  simp [directive, text, Directive.ofText, isGap, isNamePart, String.toList_append]

theorem directive_comment (remark : String) : (comment remark).directive = .other := by
  simp [directive, text, Directive.ofText, isGap, String.toList_append]

theorem directive_endIf (remark : Option String) : (endIf remark).directive = .closes := by
  cases remark <;>
    simp [directive, text, Directive.ofText, isGap, isNamePart, String.toList_append]

end Line

theorem not_isGap_of_isNamePart {c : Char} (h : isNamePart c = true) : isGap c = false := by
  have space : c ≠ ' ' := by
    rintro rfl
    cases h
  have tab : c ≠ '\t' := by
    rintro rfl
    cases h
  simp [isGap, space, tab]

section

variable {name : String} (named : isIdentifier name = true)

include named

theorem name_read (rest : List Char) (stop : rest.takeWhile isNamePart = []) :
    ((name.toList ++ rest).dropWhile isGap).takeWhile isNamePart = name.toList := by
  have parts := isNamePart_of_isIdentifier named
  have start : (name.toList ++ rest).dropWhile isGap = name.toList ++ rest := by
    cases chars : name.toList with
    | nil =>
      rw [isIdentifier, chars] at named
      cases named
    | cons c more =>
      have visible := not_isGap_of_isNamePart (parts c (by simp [chars]))
      rw [List.cons_append, List.dropWhile_cons_of_neg (by simp [visible])]
  rw [start, List.takeWhile_append_of_pos parts, stop, List.append_nil]

theorem name_read_at_end : (name.toList.dropWhile isGap).takeWhile isNamePart = name.toList := by
  simpa using name_read named [] rfl

namespace Line

theorem directive_ifDefined : (ifDefined name).directive = .opens name true := by
  simp [directive, text, Directive.ofText, isGap, isNamePart, String.toList_append,
    name_read_at_end named]

theorem directive_ifNotDefined : (ifNotDefined name).directive = .opens name false := by
  simp [directive, text, Directive.ofText, isGap, isNamePart, String.toList_append,
    name_read_at_end named]

theorem directive_define (body : Option String) : (define name body).directive = .defines name := by
  cases body with
  | none =>
    simp [directive, text, Directive.ofText, isGap, isNamePart, String.toList_append,
      name_read_at_end named]
  | some body =>
    simp [directive, text, Directive.ofText, isGap, isNamePart, String.toList_append,
      name_read named (' ' :: body.toList) rfl]

end Line

end

/-- A line whose first visible character is no number sign is no directive. -/
theorem Line.directive_of_visible {line : Line} {gap rest : List Char} {c : Char}
    (parts : line.text.toList = gap ++ c :: rest) (blank : ∀ b ∈ gap, isGap b = true)
    (visible : isGap c = false) (sign : c ≠ '#') : line.directive = .other := by
  have first : line.text.toList.dropWhile isGap = c :: rest := by
    rw [parts, List.dropWhile_append_of_pos blank,
      List.dropWhile_cons_of_neg (by simp [visible])]
  rw [directive, Directive.ofText, first]
  split
  next same => exact absurd (List.cons.inj same).1 sign
  next => rfl

/-- An open condition, as it is for the lines of its present branch. -/
structure Condition where
  name : String
  /-- Whether the branch is for the name being defined. -/
  defined : Bool
  /-- Whether the branch is the one that is taken. -/
  taken : Bool
deriving DecidableEq

/-- The condition for the other branch. -/
def Condition.flip (c : Condition) : Condition :=
  ⟨c.name, !c.defined, !c.taken⟩

/-- The state between two lines. -/
structure Preprocessor where
  /-- The names that are defined. -/
  knows : String → Bool
  /-- The conditions that are open, innermost first. -/
  conditions : List Condition
  /-- The lines above that all their conditions let through. -/
  kept : List Line

namespace Preprocessor

def start (setting : String → Bool) : Preprocessor :=
  ⟨setting, [], []⟩

/-- Whether lines are let through here. -/
def takes (s : Preprocessor) : Bool :=
  s.conditions.all (·.taken)

def under (s : Preprocessor) (c : Condition) : Preprocessor :=
  { s with conditions := c :: s.conditions }

/-- Lines that open and end no branch: where they are let through, their definitions hold. -/
def accept (s : Preprocessor) (lines : List Line) : Preprocessor :=
  if s.takes then
    { s with
      knows := fun name => s.knows name || lines.any (·.directive = .defines name)
      kept := s.kept ++ lines }
  else s

/-- One line. A branch can end only where one is open. -/
def step (s : Preprocessor) (line : Line) : Option Preprocessor :=
  match line.directive with
  | .opens name defined => some (s.under ⟨name, defined, s.knows name == defined⟩)
  | .otherwise =>
    match s.conditions with
    | [] => none
    | c :: around => some { s with conditions := c.flip :: around }
  | .closes =>
    match s.conditions with
    | [] => none
    | _ :: around => some { s with conditions := around }
  | .defines _ | .other => some (s.accept [line])

def run (s : Preprocessor) (lines : List Line) : Option Preprocessor :=
  lines.foldlM step s

/-- The definitions of a name that were let through. -/
def definitionsOf (s : Preprocessor) (name : String) : List Line :=
  s.kept.filter (·.directive = .defines name)

/-- The lines for the compiler itself. -/
def compiled (s : Preprocessor) : List Line :=
  s.kept.filter fun line => line.directive = .other ∧ line.text ≠ ""

variable {s t u : Preprocessor} {part more : List Line}

theorem run_nil (s : Preprocessor) : s.run [] = some s :=
  rfl

theorem run_cons (s : Preprocessor) (line : Line) (rest : List Line) :
    s.run (line :: rest) = s.step line >>= (run · rest) :=
  List.foldlM_cons ..

theorem run_append (h : s.run part = some t) : s.run (part ++ more) = t.run more := by
  rw [run, List.foldlM_append]
  change s.run part >>= _ = _
  rw [h]
  rfl

theorem run_cons_of_step {line : Line} (h : s.step line = some t) :
    s.run (line :: part) = t.run part := by
  rw [run_cons, h]
  rfl

theorem step_opens {line : Line} {name : String} {defined : Bool}
    (h : line.directive = .opens name defined) :
    s.step line = some (s.under ⟨name, defined, s.knows name == defined⟩) := by
  rw [step, h]

theorem step_otherwise (c : Condition) :
    (s.under c).step .otherwise = some (s.under c.flip) := by
  rw [step, Line.directive_otherwise]
  rfl

theorem step_closes {line : Line} (h : line.directive = .closes) (c : Condition) :
    (s.under c).step line = some s := by
  rw [step, h]
  rfl

theorem accept_of_takes (h : s.takes = true) (part : List Line) :
    s.accept part = ⟨fun name => s.knows name || part.any (·.directive = .defines name),
      s.conditions, s.kept ++ part⟩ :=
  if_pos h

theorem accept_of_not_takes (h : ¬s.takes = true) (part : List Line) : s.accept part = s :=
  if_neg h

theorem accept_kept (h : s.takes = true) (part : List Line) :
    (s.accept part).kept = s.kept ++ part := by
  rw [accept_of_takes h]

theorem accept_conditions (s : Preprocessor) (part : List Line) :
    (s.accept part).conditions = s.conditions := by
  unfold accept
  split <;> rfl

theorem accept_takes (s : Preprocessor) (part : List Line) : (s.accept part).takes = s.takes := by
  rw [takes, accept_conditions, takes]

theorem accept_nil (s : Preprocessor) : s.accept [] = s := by
  by_cases h : s.takes = true
  · simp [accept_of_takes h]
  · exact accept_of_not_takes h []

theorem accept_append (s : Preprocessor) (part more : List Line) :
    s.accept (part ++ more) = (s.accept part).accept more := by
  by_cases h : s.takes = true
  · have still : (s.accept part).takes = true := (accept_takes s part).trans h
    rw [accept_of_takes still, accept_of_takes h, accept_of_takes h]
    simp [Bool.or_assoc]
  · rw [accept_of_not_takes h, accept_of_not_takes h, accept_of_not_takes h]

theorem accept_under (s : Preprocessor) (c : Condition) (part : List Line) :
    (s.under c).accept part = (s.accept (if c.taken then part else [])).under c := by
  have around : (s.under c).takes = (c.taken && s.takes) := rfl
  by_cases taken : c.taken = true
  · rw [if_pos taken]
    by_cases h : s.takes = true
    · rw [accept_of_takes (around.trans (by simp [taken, h])), accept_of_takes h]
      rfl
    · rw [accept_of_not_takes (by simp [around, h]), accept_of_not_takes h]
  · rw [if_neg taken, accept_nil, accept_of_not_takes (by simp [around, taken])]

/-- No line opens or ends a branch, and only the given names are defined. -/
def Flat (names : List String) (lines : List Line) : Prop :=
  ∀ line ∈ lines, line.directive = .other ∨ ∃ name ∈ names, line.directive = .defines name

variable {names : List String}

theorem Flat.append (h : Flat names part) (h' : Flat names more) : Flat names (part ++ more) := by
  intro line mem
  exact (List.mem_append.mp mem).elim (h line) (h' line)

theorem Flat.of_prefix (h : Flat names part) (start : more <+: part) : Flat names more :=
  fun line mem => h line (start.subset mem)

theorem flat_define {name : String} (named : isIdentifier name = true) (mem : name ∈ names)
    (body : Option String) : Flat names [.define name body] := by
  intro line here
  rw [List.mem_singleton.mp here]
  exact Or.inr ⟨name, mem, Line.directive_define named body⟩

/-- No line opens or ends a branch or defines a name. -/
def Silent (lines : List Line) : Prop :=
  ∀ line ∈ lines, line.directive = .other

theorem Silent.flat (h : Silent part) : Flat names part :=
  fun line mem => Or.inl (h line mem)

theorem Silent.append (h : Silent part) (h' : Silent more) : Silent (part ++ more) := by
  intro line mem
  exact (List.mem_append.mp mem).elim (h line) (h' line)

theorem knows_accept (h : Flat names part) {name : String} (apart : name ∉ names) :
    (s.accept part).knows name = s.knows name := by
  have undefined : part.any (·.directive = .defines name) = false := by
    rw [List.any_eq_false]
    intro line mem
    rcases h line mem with other | ⟨defined, there, defining⟩
    · simp [other]
    · have ne : defined ≠ name := fun same => apart (same ▸ there)
      simp [defining, ne]
  by_cases takes : s.takes = true
  · simp [accept_of_takes takes, undefined]
  · rw [accept_of_not_takes takes]

theorem run_of_flat (h : Flat names part) : s.run part = some (s.accept part) := by
  induction part generalizing s with
  | nil => rw [accept_nil, run_nil]
  | cons line rest ih =>
    have first : s.step line = some (s.accept [line]) := by
      rcases h line (by simp) with other | ⟨name, -, defining⟩
      · rw [step, other]
      · rw [step, defining]
    rw [run_cons_of_step first, ih fun other mem => h other (by simp [mem]), ← accept_append,
      List.singleton_append]

/-- A part leads from one state to another, and no branch ends in it that is open around it. -/
structure Passes (around : List Condition) (s : Preprocessor) (part : List Line)
    (t : Preprocessor) : Prop where
  run : s.run part = some t
  sheltered : ∀ before, before <+: part → ∃ u, s.run before = some u ∧ around <:+ u.conditions

variable {around : List Condition}

theorem passes_step {line : Line} (held : around <:+ s.conditions) (stepped : s.step line = some t)
    (still : around <:+ t.conditions) : Passes around s [line] t := by
  have ran : s.run [line] = some t := run_cons_of_step stepped
  refine ⟨ran, ?_⟩
  intro before start
  rcases List.prefix_cons_iff.mp start with rfl | ⟨inner, rfl, within⟩
  · exact ⟨s, run_nil s, held⟩
  · rw [List.prefix_nil.mp within]
    exact ⟨t, ran, still⟩

theorem Passes.append (h : Passes around s part t) (h' : Passes around t more u) :
    Passes around s (part ++ more) u := by
  refine ⟨(run_append h.run).trans h'.run, ?_⟩
  intro before start
  obtain ⟨after, parts⟩ := start
  rcases List.append_eq_append_iff.mp parts with ⟨rest, whole, -⟩ | ⟨rest, rfl, behind⟩
  · exact h.sheltered before ⟨rest, whole.symm⟩
  · obtain ⟨v, ran, held⟩ := h'.sheltered rest ⟨after, behind.symm⟩
    exact ⟨v, (run_append h.run).trans ran, held⟩

theorem passes_flat (held : around <:+ s.conditions) (h : Flat names part) :
    Passes around s part (s.accept part) := by
  refine ⟨run_of_flat h, ?_⟩
  intro before start
  exact ⟨_, run_of_flat (h.of_prefix start), accept_conditions s before ▸ held⟩

theorem suffix_under (held : around <:+ s.conditions) (c : Condition) :
    around <:+ (s.under c).conditions :=
  held.trans (List.suffix_cons _ _)

theorem suffix_accept (held : around <:+ s.conditions) (part : List Line) :
    around <:+ (s.accept part).conditions :=
  accept_conditions s part ▸ held

/-- What a branch lets through holds behind it as well. -/
theorem passes_branch (held : around <:+ s.conditions) (c : Condition) (h : Flat names part) :
    Passes around (s.under c) part ((s.accept (if c.taken then part else [])).under c) :=
  accept_under s c part ▸ passes_flat (suffix_under held c) h

section

variable {first last : Line} {name : String} {defined : Bool}
  (held : around <:+ s.conditions) (opening : first.directive = .opens name defined)
  (closing : last.directive = .closes)

include held opening closing

/-- Lines for a name that is defined, or for one that is not. -/
theorem passes_conditional (h : Flat names part) :
    Passes around s ([first] ++ part ++ [last])
      (s.accept (if s.knows name == defined then part else [])) := by
  have after := suffix_accept held (if s.knows name == defined then part else [])
  have inside := (passes_step held (step_opens opening) (suffix_under held _)).append
    (passes_branch held _ h)
  exact inside.append (passes_step (suffix_under after _) (step_closes closing _) after)

/-- Lines for a name that is defined, and other lines for one that is not. -/
theorem passes_alternative {yes no : List Line} (h : Flat names yes) (h' : Flat names no) :
    Passes around s ([first] ++ yes ++ [.otherwise] ++ no ++ [last])
      (s.accept (if s.knows name == defined then yes else no)) := by
  let c : Condition := ⟨name, defined, s.knows name == defined⟩
  have chosen : (s.accept (if c.taken then yes else [])).accept (if c.flip.taken then no else []) =
      s.accept (if s.knows name == defined then yes else no) := by
    rw [← accept_append]
    change s.accept (_ ++ if !c.taken then no else []) = s.accept (if c.taken then yes else no)
    cases c.taken <;> simp
  have between := suffix_accept held (if c.taken then yes else [])
  have after := suffix_accept held (if s.knows name == defined then yes else no)
  have before := (passes_step held (step_opens opening) (suffix_under held _)).append
    (passes_branch held c h)
  have turn := passes_step (suffix_under between c) (step_otherwise c) (suffix_under between c.flip)
  have behind := passes_branch between c.flip h'
  rw [chosen] at behind
  exact ((before.append turn).append behind).append
    (passes_step (suffix_under after _) (step_closes closing _) after)

end

/-- Lines that start and end under the same conditions let other lines through, which define
nothing but the given names. -/
structure LetsThrough (names : List String) (s : Preprocessor) (lines kept : List Line) :
    Prop where
  passes : Passes s.conditions s lines (s.accept kept)
  flat : Flat names kept

namespace LetsThrough

variable {lines kept : List Line}

theorem nil (names : List String) (s : Preprocessor) : LetsThrough names s [] [] := by
  have empty : Flat names [] := fun _ mem => nomatch mem
  exact ⟨passes_flat List.suffix_rfl empty, empty⟩

theorem flat_append (h : LetsThrough names s lines kept) (flat : Flat names part) :
    LetsThrough names s (lines ++ part) (kept ++ part) := by
  have held : s.conditions <:+ (s.accept kept).conditions := suffix_accept List.suffix_rfl kept
  exact ⟨accept_append s kept part ▸ h.passes.append (passes_flat held flat), h.flat.append flat⟩

variable {first last : Line} {name : String} {defined : Bool}

theorem conditional_append (h : LetsThrough names s lines kept) (apart : name ∉ names)
    (opening : first.directive = .opens name defined) (closing : last.directive = .closes)
    (flat : Flat names part) :
    LetsThrough names s (lines ++ ([first] ++ part ++ [last]))
      (kept ++ if s.knows name == defined then part else []) := by
  have held : s.conditions <:+ (s.accept kept).conditions := suffix_accept List.suffix_rfl kept
  have passes := passes_conditional held opening closing flat
  rw [knows_accept h.flat apart, ← accept_append] at passes
  refine ⟨h.passes.append passes, h.flat.append ?_⟩
  split
  next => exact flat
  next => exact fun _ mem => nomatch mem

theorem alternative_append (h : LetsThrough names s lines kept) (apart : name ∉ names)
    (opening : first.directive = .opens name defined) (closing : last.directive = .closes)
    {yes no : List Line} (hyes : Flat names yes) (hno : Flat names no) :
    LetsThrough names s (lines ++ ([first] ++ yes ++ [.otherwise] ++ no ++ [last]))
      (kept ++ if s.knows name == defined then yes else no) := by
  have held : s.conditions <:+ (s.accept kept).conditions := suffix_accept List.suffix_rfl kept
  have passes := passes_alternative held opening closing hyes hno
  rw [knows_accept h.flat apart, ← accept_append] at passes
  refine ⟨h.passes.append passes, h.flat.append ?_⟩
  split
  next => exact hyes
  next => exact hno

end LetsThrough

/-- A name defined in one way where another one is defined, and in another way elsewhere. -/
def choice (tested name : String) (yes no : Option String) : List Line :=
  [.ifDefined tested] ++ [.define name yes] ++ [.otherwise] ++ [.define name no] ++ [.endIf none]

theorem LetsThrough.choice_append {lines kept : List Line} (h : LetsThrough names s lines kept)
    {tested name : String} (testable : isIdentifier tested = true) (apart : tested ∉ names)
    (named : isIdentifier name = true) (mem : name ∈ names) (yes no : Option String) :
    LetsThrough names s (lines ++ choice tested name yes no)
      (kept ++ [.define name (if s.knows tested then yes else no)]) := by
  have chosen := h.alternative_append apart (Line.directive_ifDefined testable)
    (Line.directive_endIf none) (flat_define named mem yes) (flat_define named mem no)
  have defined : [Line.define name (if s.knows tested then yes else no)] =
      if s.knows tested == true then [.define name yes] else [.define name no] := by
    cases s.knows tested <;> rfl
  rw [defined]
  exact chosen

/-- Every line of a part, which stands behind the lines above it, stands under the conditions. -/
def Stands (s : Preprocessor) (lines above part : List Line) (conditions : List Condition) :
    Prop :=
  above ++ part <+: lines ∧ ∀ before line after, part = before ++ line :: after →
    ∃ t, s.run (above ++ before) = some t ∧ t.conditions = conditions

theorem stands_of_flat {lines above : List Line} (inside : above ++ part <+: lines)
    (ran : s.run above = some t) (h : Flat names part) :
    Stands s lines above part t.conditions := by
  refine ⟨inside, ?_⟩
  intro before line after parts
  have start : before <+: part := ⟨line :: after, parts.symm⟩
  refine ⟨t.accept before, ?_, accept_conditions t before⟩
  rw [run_append ran, run_of_flat (h.of_prefix start)]

namespace LetsThrough

variable {lines front above kept : List Line} (h : LetsThrough names t above kept)
  (entered : s.run front = some t)

include h entered

theorem stands (inside : front ++ above ++ part <+: lines) (flat : Flat names part) :
    Stands s lines (front ++ above) part t.conditions :=
  accept_conditions t kept ▸
    stands_of_flat inside ((run_append entered).trans h.passes.run) flat

theorem stands_conditional {first : Line} {name : String} {defined : Bool}
    (apart : name ∉ names) (opening : first.directive = .opens name defined)
    (inside : front ++ above ++ [first] ++ part <+: lines) (flat : Flat names part) :
    Stands s lines (front ++ above ++ [first]) part
      (⟨name, defined, t.knows name == defined⟩ :: t.conditions) := by
  have ran : s.run (front ++ above ++ [first]) =
      some ((t.accept kept).under ⟨name, defined, t.knows name == defined⟩) := by
    rw [run_append ((run_append entered).trans h.passes.run), ← knows_accept h.flat apart]
    exact run_cons_of_step (step_opens opening)
  have stood := stands_of_flat inside ran flat
  rwa [under, accept_conditions] at stood

end LetsThrough

/-- Lines between the first and the last one of a file stand under the condition that the first
one opens. -/
theorem enclosed {setting : String → Bool} {first last : Line} {name : String} {defined : Bool}
    {lines kept : List Line} (opening : first.directive = .opens name defined)
    (closing : last.directive = .closes)
    (h : LetsThrough names ((start setting).under ⟨name, defined, setting name == defined⟩) lines
      kept) :
    (start setting).run ([first] ++ lines ++ [last]) =
        some ((start setting).accept (if setting name == defined then kept else [])) ∧
      ∀ above below, [first] ++ lines ++ [last] = above ++ below →
        ∃ t, (start setting).run above = some t ∧
          (t.conditions = [] ↔ above = [] ∨ below = []) := by
  have entered : (start setting).run [first] =
      some ((start setting).under ⟨name, defined, setting name == defined⟩) :=
    run_cons_of_step (step_opens opening)
  have whole : (start setting).run ([first] ++ lines ++ [last]) =
      some ((start setting).accept (if setting name == defined then kept else [])) := by
    rw [run_append ((run_append entered).trans h.passes.run), accept_under]
    exact run_cons_of_step (step_closes closing _)
  refine ⟨whole, ?_⟩
  intro above below parts
  rcases List.eq_nil_or_concat below with rfl | ⟨inner, final, rfl⟩
  · rw [List.append_nil] at parts
    exact ⟨_, parts ▸ whole, by simp [accept_conditions, start]⟩
  · rw [List.concat_eq_append, ← List.append_assoc] at parts
    have upper : [first] ++ lines = above ++ inner := (List.append_inj' parts rfl).1
    cases above with
    | nil => exact ⟨_, run_nil _, by simp [start]⟩
    | cons top rest =>
      obtain ⟨rfl, within⟩ := List.cons.inj upper
      obtain ⟨t, ran, held⟩ := h.passes.sheltered rest ⟨inner, within.symm⟩
      refine ⟨t, (run_append entered).trans ran, ?_⟩
      have open' : t.conditions ≠ [] := by
        intro none
        rw [none] at held
        cases List.suffix_nil.mp held
      simp [open']

end Preprocessor

end TemplateExport
