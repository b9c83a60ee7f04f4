import TemplateExport.Arithmetic.Number
import TemplateExport.Config.Basic
import TemplateExport.Config.File
import TemplateExport.Config.Writer
import TemplateExport.Main
import TemplateExport.Proofs.ModularSums
import TemplateExport.Proofs.Rows
import TemplateExport.Proofs.RowOrder
import TemplateExport.Proofs.Diagonal
import TemplateExport.Proofs.Wrappers
import TemplateExport.Proofs.FileTexts
import TemplateExport.Proofs.Emission
import TemplateExport.Proofs.Breaches
import TemplateExport.Proofs.Acceptance
import TemplateExport.Proofs.SymbolPlaces
import TemplateExport.Proofs.FunctionOrder
import TemplateExport.Proofs.Specialization
import TemplateExport.Proofs.Dispatch
import TemplateExport.Proofs.Rendering
import TemplateExport.Proofs.Locations
import TemplateExport.Proofs.Changes
import TemplateExport.Proofs.Runs
import TemplateExport.Proofs.JsonTokens
import TemplateExport.Proofs.JsonDocuments
import TemplateExport.Proofs.Records
import TemplateExport.Proofs.WrittenConfigs
import TemplateExport.Proofs.Courses
import TemplateExport.Proofs.Frame
import TemplateExport.Proofs.Delivery
import TemplateExport.Proofs.Storing
import TemplateExport.Proofs.Loading
import TemplateExport.Proofs.ExportedNames
import TemplateExport.Proofs.FlatNames
import TemplateExport.Proofs.FittingTypes
import TemplateExport.Proofs.ListedSuffixes
import TemplateExport.Proofs.HiddenCallees
import TemplateExport.Proofs.TypeWords
import TemplateExport.Proofs.Formats
import TemplateExport.Proofs.ExitStatus
import TemplateExport.Proofs.Conditionals
import TemplateExport.Proofs.LanguageParts
import TemplateExport.Proofs.LineBreaks
import TemplateExport.Proofs.TemplateDefinitions
