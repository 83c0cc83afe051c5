import CodeSnapshot.Analysis.Answer
import CodeSnapshot.Analysis.Briefing
import CodeSnapshot.Analysis.Completion
import CodeSnapshot.Analysis.Session
import CodeSnapshot.Analysis.Template
import CodeSnapshot.Cache.Documents
import CodeSnapshot.Cache.Projects
import CodeSnapshot.Cache.Recent
import CodeSnapshot.Cache.Watch
import CodeSnapshot.Chat.Client
import CodeSnapshot.Chat.Response
import CodeSnapshot.CommandLine.Arguments
import CodeSnapshot.CommandLine.Encoding
import CodeSnapshot.CommandLine.Request
import CodeSnapshot.CommandLine.Run
import CodeSnapshot.Config.Basic
import CodeSnapshot.Config.File
import CodeSnapshot.Config.Load
import CodeSnapshot.Decimal.Binary
import CodeSnapshot.Decimal.Double
import CodeSnapshot.Decimal.Power
import CodeSnapshot.Decimal.Shortest
import CodeSnapshot.Decimal.Text
import CodeSnapshot.Disk.Basic
import CodeSnapshot.Disk.Location
import CodeSnapshot.Document.Basic
import CodeSnapshot.Document.Error
import CodeSnapshot.Document.Lines
import CodeSnapshot.Document.Metadata
import CodeSnapshot.Document.Search
import CodeSnapshot.Document.Section
import CodeSnapshot.Engine
import CodeSnapshot.Envelope
import CodeSnapshot.Instances
import CodeSnapshot.Json.Basic
import CodeSnapshot.Json.Error
import CodeSnapshot.Json.Number
import CodeSnapshot.Json.Reader
import CodeSnapshot.Json.Sorted
import CodeSnapshot.Main
import CodeSnapshot.Path
import CodeSnapshot.Pattern.Basic
import CodeSnapshot.Pattern.Bracket
import CodeSnapshot.Pattern.CharClass
import CodeSnapshot.Pattern.Escape
import CodeSnapshot.Pattern.Matching
import CodeSnapshot.Pattern.Named
import CodeSnapshot.Pattern.Reader
import CodeSnapshot.Project.Basic
import CodeSnapshot.Project.Components
import CodeSnapshot.Project.Export
import CodeSnapshot.Project.Graph
import CodeSnapshot.Project.Import
import CodeSnapshot.Project.Signature
import CodeSnapshot.Project.SourceFile
import CodeSnapshot.Project.Statement
import CodeSnapshot.Proofs.Analysis.Accounting
import CodeSnapshot.Proofs.Analysis.CommandOutcomes
import CodeSnapshot.Proofs.Analysis.DelimitedAnswers
import CodeSnapshot.Proofs.Analysis.SessionBindings
import CodeSnapshot.Proofs.Analysis.SessionHits
import CodeSnapshot.Proofs.Analysis.TokenSums
import CodeSnapshot.Proofs.Analysis.Transcript
import CodeSnapshot.Proofs.Analysis.Turns
import CodeSnapshot.Proofs.Cache.Freshness
import CodeSnapshot.Proofs.Cache.Invalidation
import CodeSnapshot.Proofs.Cache.LeastRecent
import CodeSnapshot.Proofs.Cache.LoadOutcomes
import CodeSnapshot.Proofs.Cache.RecentEntries
import CodeSnapshot.Proofs.Cache.RecentOrder
import CodeSnapshot.Proofs.Cache.WatchedFiles
import CodeSnapshot.Proofs.CommandLine.Envelopes
import CodeSnapshot.Proofs.Decimal.Rounding
import CodeSnapshot.Proofs.Decimal.ShortestDigits
import CodeSnapshot.Proofs.Decimal.WholeNumbers
import CodeSnapshot.Proofs.Decimal.WrittenNumbers
import CodeSnapshot.Proofs.Disk.CanonicalPaths
import CodeSnapshot.Proofs.Disk.Removal
import CodeSnapshot.Proofs.Disk.StraightPaths
import CodeSnapshot.Proofs.Document.Blocks
import CodeSnapshot.Proofs.Document.CharacterCounts
import CodeSnapshot.Proofs.Document.ContextWindows
import CodeSnapshot.Proofs.Document.Frames
import CodeSnapshot.Proofs.Document.HitPlaces
import CodeSnapshot.Proofs.Document.HitScans
import CodeSnapshot.Proofs.Document.LineCuts
import CodeSnapshot.Proofs.Document.Listing
import CodeSnapshot.Proofs.Document.Ranges
import CodeSnapshot.Proofs.Document.RoundTrip
import CodeSnapshot.Proofs.Document.Sections
import CodeSnapshot.Proofs.Document.TableEntries
import CodeSnapshot.Proofs.Document.TableRoundTrip
import CodeSnapshot.Proofs.Engine.RememberedProjects
import CodeSnapshot.Proofs.Path.JoinedPaths
import CodeSnapshot.Proofs.Path.NormalForm
import CodeSnapshot.Proofs.Path.Settled
import CodeSnapshot.Proofs.Pattern.GroupTexts
import CodeSnapshot.Proofs.Pattern.MatchPlaces
import CodeSnapshot.Proofs.Pattern.PreferredEnds
import CodeSnapshot.Proofs.Pattern.SettledPlaces
import CodeSnapshot.Proofs.Pattern.TakenTexts
import CodeSnapshot.Proofs.Project.CommentedWords
import CodeSnapshot.Proofs.Project.DeclarationHeads
import CodeSnapshot.Proofs.Project.DefaultExports
import CodeSnapshot.Proofs.Project.DefaultLines
import CodeSnapshot.Proofs.Project.ExportedSymbols
import CodeSnapshot.Proofs.Project.FunctionHeads
import CodeSnapshot.Proofs.Project.ImpactDistances
import CodeSnapshot.Proofs.Project.ImportCycles
import CodeSnapshot.Proofs.Project.KnownFiles
import CodeSnapshot.Proofs.Project.LineNumbers
import CodeSnapshot.Proofs.Project.ListedNames
import CodeSnapshot.Proofs.Project.MirroredGraphs
import CodeSnapshot.Proofs.Project.NumberedFiles
import CodeSnapshot.Proofs.Project.ReachedFiles
import CodeSnapshot.Proofs.Project.RelativeSpecifiers
import CodeSnapshot.Proofs.Project.RenderedTables
import CodeSnapshot.Proofs.Project.ReturnTypes
import CodeSnapshot.Proofs.Project.Signatures
import CodeSnapshot.Proofs.Project.SourceOrder
import CodeSnapshot.Proofs.Project.StatementLines
import CodeSnapshot.Proofs.Project.WrittenSources
import CodeSnapshot.Proofs.Query.AppliedOperators
import CodeSnapshot.Proofs.Query.CommandExtraction
import CodeSnapshot.Proofs.Query.HeldHits
import CodeSnapshot.Proofs.Query.NamedFailures
import CodeSnapshot.Proofs.Query.OpenLists
import CodeSnapshot.Proofs.Query.OperatorOutcomes
import CodeSnapshot.Proofs.Query.PrintedExpressions
import CodeSnapshot.Proofs.Query.PrintedTokens
import CodeSnapshot.Proofs.Query.RenamedParameters
import CodeSnapshot.Proofs.Query.SearchPages
import CodeSnapshot.Proofs.Query.SessionNames
import CodeSnapshot.Proofs.Query.SortedSearches
import CodeSnapshot.Proofs.Query.TokenBalance
import CodeSnapshot.Proofs.Query.ValueOrder
import CodeSnapshot.Proofs.Query.WrittenForms
import CodeSnapshot.Proofs.Query.WrittenTokens
import CodeSnapshot.Proofs.Sorted.LinkedSets
import CodeSnapshot.Proofs.Sorted.MapLookup
import CodeSnapshot.Proofs.Sorted.SetMembers
import CodeSnapshot.Proofs.Sorted.SortedLists
import CodeSnapshot.Proofs.Text.Splits
import CodeSnapshot.Proofs.Unicode.WordBlanks
import CodeSnapshot.Query.Command
import CodeSnapshot.Query.Error
import CodeSnapshot.Query.Eval
import CodeSnapshot.Query.Expr
import CodeSnapshot.Query.Operator
import CodeSnapshot.Query.Parser
import CodeSnapshot.Query.Scope
import CodeSnapshot.Query.Sorting
import CodeSnapshot.Query.Token
import CodeSnapshot.Query.Value
import CodeSnapshot.Regex.Basic
import CodeSnapshot.Regex.Engine
import CodeSnapshot.Sorted.List
import CodeSnapshot.Sorted.Map
import CodeSnapshot.Sorted.Set
import CodeSnapshot.Text.Blank
import CodeSnapshot.Text.Bytes
import CodeSnapshot.Text.Hex
import CodeSnapshot.Text.Piece
import CodeSnapshot.Text.Quoted
import CodeSnapshot.Text.Truncated
import CodeSnapshot.Toml.Basic
import CodeSnapshot.Toml.Document
import CodeSnapshot.Toml.Scalar
import CodeSnapshot.Unicode.Age
import CodeSnapshot.Unicode.Break
import CodeSnapshot.Unicode.Category
import CodeSnapshot.Unicode.Fold
import CodeSnapshot.Unicode.Property
import CodeSnapshot.Unicode.Runs
import CodeSnapshot.Unicode.Script
