import VtableHeader.Build
import VtableHeader.Class
import VtableHeader.Class.Check
import VtableHeader.Class.Json
import VtableHeader.ClassTable
import VtableHeader.ClassUnit
import VtableHeader.Command.Arguments
import VtableHeader.Command.Run
import VtableHeader.Config
import VtableHeader.DiskPath
import VtableHeader.Draft
import VtableHeader.Draft.Class
import VtableHeader.FileTree
import VtableHeader.GenError
import VtableHeader.Generator
import VtableHeader.Generator.Action
import VtableHeader.Json.Reader
import VtableHeader.Json.Value
import VtableHeader.Json.Writer
import VtableHeader.Layout
import VtableHeader.Main
import VtableHeader.NamespacePath
import VtableHeader.Numeral.Binary64
import VtableHeader.Numeral.Digits
import VtableHeader.Options
import VtableHeader.Sections
import VtableHeader.Slot
import VtableHeader.Storage
import VtableHeader.Text.Blank
import VtableHeader.Text.CharTable
import VtableHeader.Text.DefaultIgnorable
import VtableHeader.Text.GraphemeExtend
import VtableHeader.Text.Outline
import VtableHeader.Text.Quoted
import VtableHeader.Text.Unprintable
import VtableHeader.Toml.Document
import VtableHeader.Toml.Lexeme
import VtableHeader.Toml.Scalar
import VtableHeader.Toml.Table
import VtableHeader.Toml.Value
import VtableHeader.Vtable
import VtableHeader.Proofs.CheckedClass
import VtableHeader.Proofs.Inheritance
import VtableHeader.Proofs.Passes
import VtableHeader.Proofs.SlotBinding
import VtableHeader.Proofs.ClassListing
import VtableHeader.Proofs.Declaring
import VtableHeader.Proofs.Linking
import VtableHeader.Proofs.Effects
import VtableHeader.Proofs.Emission
import VtableHeader.Proofs.Pieces
import VtableHeader.Proofs.BlockText
import VtableHeader.Proofs.WrittenText
import VtableHeader.Proofs.Placement
import VtableHeader.Proofs.Dispatch
import VtableHeader.Proofs.Acceptance
import VtableHeader.Proofs.RelatedUnits
import VtableHeader.Proofs.TypeNames
import VtableHeader.Proofs.Journal
import VtableHeader.Proofs.NamespaceBalance
import VtableHeader.Proofs.FailedSteps
import VtableHeader.Proofs.ForwardOrigin
import VtableHeader.Proofs.Settling
import VtableHeader.Proofs.OrderlyEmission
import VtableHeader.Proofs.StepwisePlacement
import VtableHeader.Proofs.TableGrowth
import VtableHeader.Proofs.UnitErrors
import VtableHeader.Proofs.CompletedRuns
import VtableHeader.Proofs.SingleNamespace
import VtableHeader.Proofs.UnitJson
import VtableHeader.Proofs.Places
import VtableHeader.Proofs.FileChanges
import VtableHeader.Proofs.BuildEffects
import VtableHeader.Proofs.CommandAgreement
import VtableHeader.Proofs.CheckedMembers
import VtableHeader.Proofs.ParameterNames
import VtableHeader.Proofs.FirstFailure
import VtableHeader.Proofs.MemberNames
import VtableHeader.Proofs.ReportedErrors
import VtableHeader.Proofs.BlamedClass
import VtableHeader.Proofs.SlotLayout
import VtableHeader.Proofs.WellFormedClass
import VtableHeader.Proofs.Preamble
import VtableHeader.Proofs.OptionEffects
import VtableHeader.Proofs.Stretches
import VtableHeader.Proofs.NamespaceSwitch
import VtableHeader.Proofs.ConfiguredOutput
import VtableHeader.Proofs.UnitSpellings
import VtableHeader.Proofs.PrintedNames
import VtableHeader.Proofs.VtableText
