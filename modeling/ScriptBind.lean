import ScriptBind.Binding.ArrayType
import ScriptBind.Binding.Callback
import ScriptBind.Binding.Computation
import ScriptBind.Binding.Conversion
import ScriptBind.Binding.FunctionWrapper
import ScriptBind.Binding.Marshal
import ScriptBind.Binding.Members
import ScriptBind.Binding.PointerCell
import ScriptBind.Binding.Registration
import ScriptBind.Binding.Resolve
import ScriptBind.Binding.Session
import ScriptBind.Binding.Struct
import ScriptBind.CType.Basic
import ScriptBind.CType.Size
import ScriptBind.CType.Spelling
import ScriptBind.Classes.Basic
import ScriptBind.Classes.Constructor
import ScriptBind.Classes.Order
import ScriptBind.Classes.Synthesis
import ScriptBind.Code.Accessor
import ScriptBind.Code.ArrayConverter
import ScriptBind.Code.Converted
import ScriptBind.Code.Section
import ScriptBind.Code.Support
import ScriptBind.Code.Tables
import ScriptBind.Code.Trampoline
import ScriptBind.Code.Wrapper
import ScriptBind.Command.Argument
import ScriptBind.Command.Delivery
import ScriptBind.Command.Help
import ScriptBind.Command.Line
import ScriptBind.Command.LogDirective
import ScriptBind.Command.LogFilter
import ScriptBind.Command.Report
import ScriptBind.Command.Run
import ScriptBind.Config.Basic
import ScriptBind.Config.Headers
import ScriptBind.Config.Loading
import ScriptBind.Declarations
import ScriptBind.Diagnostic
import ScriptBind.Enums.Group
import ScriptBind.Enums.GroupName
import ScriptBind.Enums.PackedText
import ScriptBind.Exports.Basic
import ScriptBind.Exports.Description
import ScriptBind.Files.Path
import ScriptBind.Files.Tree
import ScriptBind.Main
import ScriptBind.Module.Assembly
import ScriptBind.Module.Basic
import ScriptBind.Module.Globals
import ScriptBind.Module.Options
import ScriptBind.Naming
import ScriptBind.Proofs.AccountableSessions
import ScriptBind.Proofs.AnyOrder
import ScriptBind.Proofs.ArrayWriting
import ScriptBind.Proofs.AssemblyInvariants
import ScriptBind.Proofs.AttributeCases
import ScriptBind.Proofs.BalancedSpellings
import ScriptBind.Proofs.BaseConverters
import ScriptBind.Proofs.BindingChanges
import ScriptBind.Proofs.BindingComparisons
import ScriptBind.Proofs.BindingGrowth
import ScriptBind.Proofs.CNames
import ScriptBind.Proofs.CallbackArguments
import ScriptBind.Proofs.CallbackInvariants
import ScriptBind.Proofs.CallbackKeys
import ScriptBind.Proofs.Calls
import ScriptBind.Proofs.ClassTables
import ScriptBind.Proofs.ClosedComments
import ScriptBind.Proofs.CoherentSessions
import ScriptBind.Proofs.ConversionOrigins
import ScriptBind.Proofs.Convertible
import ScriptBind.Proofs.DeclarationTexts
import ScriptBind.Proofs.DeferredRecords
import ScriptBind.Proofs.DefinedBeforeUse
import ScriptBind.Proofs.Demands
import ScriptBind.Proofs.Descriptions
import ScriptBind.Proofs.Division
import ScriptBind.Proofs.Ensures
import ScriptBind.Proofs.EnumeratorPlaces
import ScriptBind.Proofs.Exposure
import ScriptBind.Proofs.Extents
import ScriptBind.Proofs.FinishedOperations
import ScriptBind.Proofs.FoundedLibraries
import ScriptBind.Proofs.FunctionAccounts
import ScriptBind.Proofs.FunctionNotes
import ScriptBind.Proofs.FunctionPlaces
import ScriptBind.Proofs.GroupGrowth
import ScriptBind.Proofs.GroupMembers
import ScriptBind.Proofs.GroupNames
import ScriptBind.Proofs.HeaderPlaces
import ScriptBind.Proofs.Inheritance
import ScriptBind.Proofs.Levels
import ScriptBind.Proofs.Lineage
import ScriptBind.Proofs.LiteralReading
import ScriptBind.Proofs.MemberCallbacks
import ScriptBind.Proofs.MemberTypedefs
import ScriptBind.Proofs.MemberWays
import ScriptBind.Proofs.NamelessTypes
import ScriptBind.Proofs.Operations
import ScriptBind.Proofs.OutcomeConversions
import ScriptBind.Proofs.Outcomes
import ScriptBind.Proofs.PackedTexts
import ScriptBind.Proofs.Passes
import ScriptBind.Proofs.PendingTrampolines
import ScriptBind.Proofs.PointerOrigins
import ScriptBind.Proofs.ReadableTypes
import ScriptBind.Proofs.RecordNames
import ScriptBind.Proofs.Refutations
import ScriptBind.Proofs.RegistrationSlots
import ScriptBind.Proofs.Resolution
import ScriptBind.Proofs.ResolvingComparisons
import ScriptBind.Proofs.RightBinding
import ScriptBind.Proofs.Scope
import ScriptBind.Proofs.ScriptNames
import ScriptBind.Proofs.SectionNames
import ScriptBind.Proofs.SessionChanges
import ScriptBind.Proofs.SessionGrowth
import ScriptBind.Proofs.SharedNames
import ScriptBind.Proofs.SoundSessions
import ScriptBind.Proofs.SourcedModules
import ScriptBind.Proofs.SourcedResolving
import ScriptBind.Proofs.SourcedSessions
import ScriptBind.Proofs.SpellingShape
import ScriptBind.Proofs.SplitMarks
import ScriptBind.Proofs.Stability
import ScriptBind.Proofs.SufficientLevels
import ScriptBind.Proofs.TablesByNotes
import ScriptBind.Proofs.Termination
import ScriptBind.Proofs.ThoroughBinding
import ScriptBind.Proofs.ThoroughMembers
import ScriptBind.Proofs.ThoroughSessions
import ScriptBind.Proofs.TidySessions
import ScriptBind.Proofs.TrampolineInvariants
import ScriptBind.Proofs.Transparency
import ScriptBind.Proofs.TriedFunctions
import ScriptBind.Proofs.TypeReading
import ScriptBind.Proofs.TypedefVariables
import ScriptBind.Proofs.Variables
import ScriptBind.Proofs.VisitedRecords
import ScriptBind.Proofs.Weights
import ScriptBind.Proofs.Wiring
import ScriptBind.Proofs.WrapperInvariants
import ScriptBind.Proofs.WrapperVariables
import ScriptBind.Proofs.WritingOrder
import ScriptBind.Settings.Document
import ScriptBind.Settings.QuotedText
import ScriptBind.Settings.Token
import ScriptBind.Table
import ScriptBind.Text.Affix
import ScriptBind.Text.CommentSafe
import ScriptBind.Text.Identifier
import ScriptBind.Text.Json
import ScriptBind.Text.Layout
import ScriptBind.Text.Quoted
import ScriptBind.Text.StringLiteral
import ScriptBind.Text.UpperCase
