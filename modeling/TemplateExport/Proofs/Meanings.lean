import TemplateExport.Config.Reader
import TemplateExport.Proofs.RecordReadings

namespace TemplateExport

open TemplateExport.Tree

def Combination.ofTree? : Tree → Option Combination
  | .text name => if name = "all" then some .all else if name = "fixed" then some .fixed else none
  | _ => none

/-- The type parameter that a table stands for. Entries under other keys do not count. -/
def TypeParameter.ofTree? (t : Tree) : Option TypeParameter := do
  let entries ← t.entries?
  let name ← under? entries "name" text?
  let types ← under? entries "types" (list? text?)
  return { name := ← name, types := ← types }

def Argument.ofTree? (t : Tree) : Option Argument := do
  let entries ← t.entries?
  let name ← under? entries "name" optionalText?
  let type ← under? entries "type" text?
  let isConst ← under? entries "const" boolean?
  let isPointer ← under? entries "pointer" boolean?
  return { name := name.getD none, type := ← type, isConst := isConst.getD false,
           isPointer := isPointer.getD false }

def FunctionTemplate.ofTree? (t : Tree) : Option FunctionTemplate := do
  let entries ← t.entries?
  let name ← under? entries "name" text?
  let typeParameters ← under? entries "templates" (list? TypeParameter.ofTree?)
  let combination ← under? entries "combination" Combination.ofTree?
  let returns ← under? entries "return" Argument.ofTree?
  let parameters ← under? entries "parameters" (list? Argument.ofTree?)
  return { name := ← name, typeParameters := ← typeParameters,
           combination := combination.getD .all, returns := ← returns,
           parameters := parameters.getD [] }

def Config.ofTree? (t : Tree) : Option Config := do
  let entries ← t.entries?
  let linkageName ← under? entries "linkage-macro" optionalText?
  let includes ← under? entries "includes" (list? text?)
  let suffixes ← under? entries "suffix-mapping" texts?
  let functions ← under? entries "functions" (list? FunctionTemplate.ofTree?)
  return { linkageName := linkageName.getD none, includes := includes.getD [],
           suffixes := ⟨suffixes.getD .empty⟩, functions := functions.getD [] }

/-- No array stands where the tree of a function template has a record, and no table where it has
a combination. -/
structure FunctionTemplate.Placed (t : Tree) : Prop where
  itself : ¬ t.IsArray
  typeParameters : t.Under "templates" (Tree.Each fun item => ¬ item.IsArray)
  combination : t.Under "combination" fun value => ¬ value.IsTable
  returns : t.Under "return" fun value => ¬ value.IsArray
  parameters : t.Under "parameters" (Tree.Each fun item => ¬ item.IsArray)

structure Config.Placed (t : Tree) : Prop where
  itself : ¬ t.IsArray
  functions : t.Under "functions" (Tree.Each FunctionTemplate.Placed)

open Document

theorem Combination.read_gives (format : Format) {t : Tree} (placed : ¬ t.IsTable) :
    Gives (read format) ofTree? t := by
  rintro _ (_ | _ | ⟨name, stop⟩ | _ | _)
  case text =>
    have named_gives : (named name stop).toOption = ofTree? (.text name) := by
      rw [named, ofTree?]
      split
      · rfl
      · split <;> rfl
    cases format <;> exact named_gives
  case table => exact absurd ⟨_, rfl⟩ placed
  all_goals cases format <;> rfl

namespace TypeParameter

def slots : List (Slot Draft) :=
  [.of "name" (·.name) (fun v d => { d with name := some v }) readText text?,
    .of "types" (·.types) (fun v d => { d with types := some v }) (readList readText)
      (list? text?)]

theorem slots_apart : slots.Pairwise Slot.Apart := by
  simp only [slots, List.pairwise_cons, List.forall_mem_cons, List.not_mem_nil]
  and_intros
  · exact Slot.of_apart (by decide) (fun _ _ _ => rfl) (fun _ _ => rfl) (fun _ _ => rfl)
  all_goals simp

theorem finish_filled (stop : Position) (entries : List (String × Tree)) :
    ((Slot.fillAll entries slots {}).bind fun draft => (draft.finish (.table stop)).toOption) =
      ofTree? (.table entries) := by
  simp only [slots, Slot.fillAll, Slot.of_fill, ofTree?, Tree.entries?, Option.bind_eq_bind,
    Option.bind_some]
  rcases under? entries "name" text? with _ | name
  · rfl
  rcases under? entries "types" (list? text?) with _ | types
  · rfl
  cases name <;> cases types <;> rfl

theorem read_gives (format : Format) {t : Tree} (plain : t.Plain) (placed : ¬ t.IsArray) :
    Gives (read format) ofTree? t := by
  refine readRecord_gives slots_apart (by simp [slots, Slot.of, Field.of])
    (fun t none => by simp [ofTree?, none]) finish_filled plain placed ?_
  simp only [slots, List.forall_mem_cons]
  refine ⟨?_, ?_, by simp⟩
  · exact fun _ _ value _ => Slot.of_reads (readText_gives value)
  · exact fun _ _ value _ => Slot.of_reads (readList_gives fun _ _ item _ => readText_gives item)

end TypeParameter

namespace Argument

def slots : List (Slot Draft) :=
  [.of "name" (·.name) (fun v d => { d with name := some v }) readOptionalText optionalText?,
    .of "type" (·.type) (fun v d => { d with type := some v }) readText text?,
    .of "const" (·.isConst) (fun v d => { d with isConst := some v }) readBoolean boolean?,
    .of "pointer" (·.isPointer) (fun v d => { d with isPointer := some v }) readBoolean boolean?]

theorem slots_apart : slots.Pairwise Slot.Apart := by
  simp only [slots, List.pairwise_cons, List.forall_mem_cons, List.not_mem_nil, IsEmpty.forall_iff,
    implies_true, and_true, List.Pairwise.nil]
  and_intros
  all_goals exact Slot.of_apart (by decide) (fun _ _ _ => rfl) (fun _ _ => rfl) (fun _ _ => rfl)

theorem finish_filled (stop : Position) (entries : List (String × Tree)) :
    ((Slot.fillAll entries slots {}).bind fun draft => (draft.finish (.table stop)).toOption) =
      ofTree? (.table entries) := by
  simp only [slots, Slot.fillAll, Slot.of_fill, ofTree?, Tree.entries?, Option.bind_eq_bind,
    Option.bind_some]
  rcases under? entries "name" optionalText? with _ | name
  · rfl
  rcases under? entries "type" text? with _ | type
  · rfl
  rcases under? entries "const" boolean? with _ | isConst
  · rfl
  rcases under? entries "pointer" boolean? with _ | isPointer
  · rfl
  cases name <;> cases type <;> cases isConst <;> cases isPointer <;> rfl

theorem read_gives (format : Format) {t : Tree} (plain : t.Plain) (placed : ¬ t.IsArray) :
    Gives (read format) ofTree? t := by
  refine readRecord_gives slots_apart (by simp [slots, Slot.of, Field.of])
    (fun t none => by simp [ofTree?, none]) finish_filled plain placed ?_
  simp only [slots, List.forall_mem_cons]
  refine ⟨?_, ?_, ?_, ?_, by simp⟩
  · exact fun _ _ value _ => Slot.of_reads (readOptionalText_gives value)
  · exact fun _ _ value _ => Slot.of_reads (readText_gives value)
  · exact fun _ _ value _ => Slot.of_reads (readBoolean_gives value)
  · exact fun _ _ value _ => Slot.of_reads (readBoolean_gives value)

end Argument

namespace FunctionTemplate

def slots (format : Format) : List (Slot Draft) :=
  [.of "name" (·.name) (fun v d => { d with name := some v }) readText text?,
    .of "templates" (·.typeParameters) (fun v d => { d with typeParameters := some v })
      (readList (TypeParameter.read format)) (list? TypeParameter.ofTree?),
    .of "combination" (·.combination) (fun v d => { d with combination := some v })
      (Combination.read format) Combination.ofTree?,
    .of "return" (·.returns) (fun v d => { d with returns := some v }) (Argument.read format)
      Argument.ofTree?,
    .of "parameters" (·.parameters) (fun v d => { d with parameters := some v })
      (readList (Argument.read format)) (list? Argument.ofTree?)]

theorem slots_apart (format : Format) : (slots format).Pairwise Slot.Apart := by
  simp only [slots, List.pairwise_cons, List.forall_mem_cons, List.not_mem_nil, IsEmpty.forall_iff,
    implies_true, and_true, List.Pairwise.nil]
  and_intros
  all_goals exact Slot.of_apart (by decide) (fun _ _ _ => rfl) (fun _ _ => rfl) (fun _ _ => rfl)

theorem finish_filled (format : Format) (stop : Position) (entries : List (String × Tree)) :
    ((Slot.fillAll entries (slots format) {}).bind fun draft =>
      (draft.finish (.table stop)).toOption) = ofTree? (.table entries) := by
  simp only [slots, Slot.fillAll, Slot.of_fill, ofTree?, Tree.entries?, Option.bind_eq_bind,
    Option.bind_some]
  rcases under? entries "name" text? with _ | name
  · rfl
  rcases under? entries "templates" (list? TypeParameter.ofTree?) with _ | typeParameters
  · rfl
  rcases under? entries "combination" Combination.ofTree? with _ | combination
  · rfl
  rcases under? entries "return" Argument.ofTree? with _ | returns
  · rfl
  rcases under? entries "parameters" (list? Argument.ofTree?) with _ | parameters
  · rfl
  cases name <;> cases typeParameters <;> cases combination <;> cases returns <;>
    cases parameters <;> rfl

theorem read_gives (format : Format) {t : Tree} (plain : t.Plain) (placed : Placed t) :
    Gives (read format) ofTree? t := by
  refine readRecord_gives (slots_apart format) (by simp [slots, Slot.of, Field.of])
    (fun t none => by simp [ofTree?, none]) (finish_filled format) plain placed.itself ?_
  simp only [slots, List.forall_mem_cons]
  refine ⟨?_, ?_, ?_, ?_, ?_, by simp⟩
  · exact fun _ _ value _ => Slot.of_reads (readText_gives value)
  · intro entries same value there
    have plain := plain.under _ entries same value there
    have placed := placed.typeParameters entries same value there
    refine Slot.of_reads (readList_gives fun items same item there => ?_)
    exact TypeParameter.read_gives format (plain.each items same item there)
      (placed items same item there)
  · intro entries same value there
    have placed := placed.combination entries same value there
    exact Slot.of_reads (Combination.read_gives format placed)
  · intro entries same value there
    have plain := plain.under _ entries same value there
    exact Slot.of_reads (Argument.read_gives format plain (placed.returns entries same value there))
  · intro entries same value there
    have plain := plain.under _ entries same value there
    have placed := placed.parameters entries same value there
    refine Slot.of_reads (readList_gives fun items same item there => ?_)
    exact Argument.read_gives format (plain.each items same item there)
      (placed items same item there)

end FunctionTemplate

namespace Config

def slots (format : Format) : List (Slot Draft) :=
  [.of "linkage-macro" (·.linkageName) (fun v d => { d with linkageName := some v })
      readOptionalText optionalText?,
    .of "includes" (·.includes) (fun v d => { d with includes := some v }) (readList readText)
      (list? text?),
    .of "suffix-mapping" (·.suffixes) (fun v d => { d with suffixes := some v })
      (fun document => TextTable.ofList <$> document.readTexts) texts?,
    .of "functions" (·.functions) (fun v d => { d with functions := some v })
      (readList (FunctionTemplate.read format)) (list? FunctionTemplate.ofTree?)]

theorem slots_apart (format : Format) : (slots format).Pairwise Slot.Apart := by
  simp only [slots, List.pairwise_cons, List.forall_mem_cons, List.not_mem_nil, IsEmpty.forall_iff,
    implies_true, and_true, List.Pairwise.nil]
  and_intros
  all_goals exact Slot.of_apart (by decide) (fun _ _ _ => rfl) (fun _ _ => rfl) (fun _ _ => rfl)

theorem finish_filled (format : Format) (stop : Position) (entries : List (String × Tree)) :
    ((Slot.fillAll entries (slots format) {}).bind fun draft =>
      (draft.finish (.table stop)).toOption) = ofTree? (.table entries) := by
  simp only [slots, Slot.fillAll, Slot.of_fill, ofTree?, Tree.entries?, Option.bind_eq_bind,
    Option.bind_some]
  rcases under? entries "linkage-macro" optionalText? with _ | linkageName
  · rfl
  rcases under? entries "includes" (list? text?) with _ | includes
  · rfl
  rcases under? entries "suffix-mapping" texts? with _ | suffixes
  · rfl
  rcases under? entries "functions" (list? FunctionTemplate.ofTree?) with _ | functions
  · rfl
  cases linkageName <;> cases includes <;> cases suffixes <;> cases functions <;> rfl

/-- Both readers give what the tree of a configuration stands for. -/
theorem read_gives (format : Format) {t : Tree} (plain : t.Plain) (placed : Placed t) :
    Gives (read format) ofTree? t := by
  refine readRecord_gives (slots_apart format) (by simp [slots, Slot.of, Field.of])
    (fun t none => by simp [ofTree?, none]) (finish_filled format) plain placed.itself ?_
  simp only [slots, List.forall_mem_cons]
  refine ⟨?_, ?_, ?_, ?_, by simp⟩
  · exact fun _ _ value _ => Slot.of_reads (readOptionalText_gives value)
  · exact fun _ _ value _ => Slot.of_reads (readList_gives fun _ _ item _ => readText_gives item)
  · intro entries same value there
    exact Slot.of_reads (readTexts_gives (plain.under _ entries same value there))
  · intro entries same value there
    have plain := plain.under _ entries same value there
    have placed := placed.functions entries same value there
    refine Slot.of_reads (readList_gives fun items same item there => ?_)
    exact FunctionTemplate.read_gives format (plain.each items same item there)
      (placed items same item there)

end Config

end TemplateExport
