import MbedBlocks.Block
import MbedBlocks.Board.Document
import MbedBlocks.Board.Nucleo
import MbedBlocks.Board.Profile
import MbedBlocks.Board.Resource
import MbedBlocks.Check
import MbedBlocks.Check.Consistency
import MbedBlocks.Check.Options
import MbedBlocks.Code.Level
import MbedBlocks.Code.Literal
import MbedBlocks.Code.Name
import MbedBlocks.Compile
import MbedBlocks.Decimal.Binary
import MbedBlocks.Decimal.Layout
import MbedBlocks.Decimal.Numeral
import MbedBlocks.Decimal.Shortest
import MbedBlocks.Diagnostics
import MbedBlocks.Dict
import MbedBlocks.Emit.Device
import MbedBlocks.Emit.Effect
import MbedBlocks.Emit.Language
import MbedBlocks.Emit.Module
import MbedBlocks.Emit.Print
import MbedBlocks.Emit.Script
import MbedBlocks.Emit.Site
import MbedBlocks.Emit.Variable
import MbedBlocks.Emit.Walk
import MbedBlocks.Graph
import MbedBlocks.Graph.Document
import MbedBlocks.Json.Basic
import MbedBlocks.Json.Number
import MbedBlocks.Json.Reader
import MbedBlocks.Json.Writer
import MbedBlocks.Kind.Basic
import MbedBlocks.Kind.Catalogue
import MbedBlocks.Kind.Families
import MbedBlocks.Kind.Info
import MbedBlocks.Options
import MbedBlocks.Pin.Reservation
import MbedBlocks.Program.Basic
import MbedBlocks.Program.Document
import MbedBlocks.Program.Sections
import MbedBlocks.Proofs.AdvisoryInputs
import MbedBlocks.Proofs.Annotations
import MbedBlocks.Proofs.ContextIndependence
import MbedBlocks.Proofs.ExpressionGrammar
import MbedBlocks.Proofs.ExpressionText
import MbedBlocks.Proofs.NumberText
import MbedBlocks.Proofs.Precedence
import MbedBlocks.Proofs.Simulation
import MbedBlocks.Proofs.StatefulWalk
import MbedBlocks.Proofs.Termination
import MbedBlocks.Text.Blank
import MbedBlocks.Text.Lines
import MbedBlocks.Text.Word
import MbedBlocks.Text.WordRanges
import MbedBlocks.ValueType
import MbedBlocks.Workspace
import MbedBlocks.Proofs.KindEntries
import MbedBlocks.Proofs.EmissionLog
import MbedBlocks.Proofs.ScriptSpec
import MbedBlocks.Proofs.Declarations
import MbedBlocks.Proofs.DeclarationClosure
import MbedBlocks.Proofs.CheckWrites
import MbedBlocks.Proofs.CheckedUses
import MbedBlocks.Proofs.SourceOrder
import MbedBlocks.Proofs.CheckReports
import MbedBlocks.Proofs.RepeatedChecks
import MbedBlocks.Proofs.WalkInvariants
import MbedBlocks.Proofs.RecordedWarnings
import MbedBlocks.Proofs.WarningOwnership
import MbedBlocks.Proofs.LexicalScan
import MbedBlocks.Proofs.LexicalTexts
import MbedBlocks.Proofs.ScriptContracts
import MbedBlocks.Proofs.LexicalRules
import MbedBlocks.Proofs.LexicalForm
import MbedBlocks.Proofs.AppliedWarnings
import MbedBlocks.Proofs.StoredWarnings
import MbedBlocks.Proofs.ScriptProfiles
import MbedBlocks.Proofs.CatalogueAgreement
import MbedBlocks.Proofs.Upserts
import MbedBlocks.Proofs.Reemission
import MbedBlocks.Proofs.SharedDeclarations
import MbedBlocks.Proofs.Embeddings
import MbedBlocks.Proofs.IndependentGraphs
import MbedBlocks.Proofs.DocumentRoundTrip
import MbedBlocks.Proofs.JsonText
import MbedBlocks.Proofs.LoadedAndBuilt
import MbedBlocks.Proofs.NestedBlocks
import MbedBlocks.Proofs.AcyclicGraphs
import MbedBlocks.Proofs.CompletedRuns
import MbedBlocks.Proofs.LastRegistrations
import MbedBlocks.Proofs.FunctionNames
import MbedBlocks.Proofs.TransferHelpers
import MbedBlocks.Proofs.TickerCallbacks
import MbedBlocks.Proofs.VariableTypes
import MbedBlocks.Proofs.ToneFrequencies
import MbedBlocks.Proofs.RefreshInTurn
import MbedBlocks.Proofs.FinalSections
import MbedBlocks.Proofs.BoardRefresh
import MbedBlocks.Proofs.CheckOutcome
import MbedBlocks.Proofs.BlockOrder
import MbedBlocks.Proofs.PinClaims
import MbedBlocks.Proofs.FullChains
import MbedBlocks.Proofs.JoinedArguments
import MbedBlocks.Proofs.ProgramNames
import MbedBlocks.Proofs.StringLiterals
import MbedBlocks.Proofs.Indentation
import MbedBlocks.Proofs.StatementInputs
import MbedBlocks.Proofs.NestedIndentation
import MbedBlocks.Proofs.CommandHandler
