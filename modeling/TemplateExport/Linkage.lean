import TemplateExport.Config.Basic
import TemplateExport.Line
import TemplateExport.Text.Characters

namespace TemplateExport

/-- The mark of a declaration that is taken from the library. -/
def importMark (linkage : String) : String := linkage ++ "_IMPORT"

/-- The mark of a definition that the library offers. -/
def exportMark (linkage : String) : String := linkage ++ "_EXPORT"

def externMark (linkage : String) : String := linkage ++ "_EXTERN_C"

def includeGuard (linkage : String) : String := linkage ++ "_EXPORTED_INTERFACE_H"

/-- What an include line names: a bare name is put between quotes. -/
def includeOperand (included : String) : String :=
  let name := trimBlank included
  match name.toList.head? with
  | some '<' | some '"' => name
  | _ => "\"" ++ name ++ "\""

def Config.includeLines (c : Config) : List Line :=
  c.includes.map fun included => .includes (includeOperand included)

/-- The include lines and a blank one; nothing if there are none. -/
def Config.includeBlock (c : Config) : List Line :=
  if c.includes.isEmpty then [] else c.includeLines ++ [.blank]

theorem Config.includeLines_prefix (c : Config) : c.includeLines <+: c.includeBlock := by
  unfold includeBlock
  split
  next none => simp [includeLines, List.isEmpty_iff.mp none]
  next => exact List.prefix_append _ _

theorem Config.line_of_mem_includeBlock {c : Config} {line : Line} (h : line ∈ c.includeBlock) :
    line ∈ c.includeLines ∨ line = .blank := by
  unfold includeBlock at h
  split at h
  next => cases h
  next => exact (List.mem_append.mp h).imp_right List.mem_singleton.mp

end TemplateExport
