import AsmAtlas.CommandLine.Arguments
import AsmAtlas.CommandLine.Report
import AsmAtlas.Comment
import AsmAtlas.Document
import AsmAtlas.Glob.Basic
import AsmAtlas.Glob.CharSet
import AsmAtlas.Glob.Expression
import AsmAtlas.Glob.Piece
import AsmAtlas.Grammar.Directive
import AsmAtlas.Grammar.Keyword
import AsmAtlas.Grammar.Label
import AsmAtlas.Grammar.WordSearch
import AsmAtlas.Limits
import AsmAtlas.Main
import AsmAtlas.Outline.Basic
import AsmAtlas.Outline.Reading
import AsmAtlas.Outline.Scan
import AsmAtlas.Path.Basic
import AsmAtlas.Path.FileTree
import AsmAtlas.Pattern.Basic
import AsmAtlas.Pattern.Escape
import AsmAtlas.Pattern.Match
import AsmAtlas.Ranking
import AsmAtlas.Reference.Occurrence
import AsmAtlas.Reference.Reduction
import AsmAtlas.Reference.Scope
import AsmAtlas.Request.Basic
import AsmAtlas.Request.Names
import AsmAtlas.Request.Navigation
import AsmAtlas.Request.Rename
import AsmAtlas.Request.Structure
import AsmAtlas.Request.Usage
import AsmAtlas.Text.Basic
import AsmAtlas.Text.Blank
import AsmAtlas.Text.Case
import AsmAtlas.Text.CharacterName.Alias
import AsmAtlas.Text.CharacterName.Basic
import AsmAtlas.Text.CharacterName.Historic
import AsmAtlas.Text.CharacterName.Lookup
import AsmAtlas.Text.CharacterName.Pictures
import AsmAtlas.Text.CharacterName.Scripts
import AsmAtlas.Text.CharacterName.Signs
import AsmAtlas.Text.CodePoint
import AsmAtlas.Text.CodeRange
import AsmAtlas.Text.Digit
import AsmAtlas.Text.Encoding
import AsmAtlas.Text.Letter
import AsmAtlas.Text.Printable
import AsmAtlas.Text.Quoted
import AsmAtlas.Text.Terminal
import AsmAtlas.Workspace.Collection
import AsmAtlas.Workspace.Config
import AsmAtlas.Workspace.Json
import AsmAtlas.Workspace.Search
import AsmAtlas.Workspace.Task
import AsmAtlas.Workspace.Tool
import AsmAtlas.Proofs.CommentStripping
import AsmAtlas.Proofs.Matching
import AsmAtlas.Proofs.OutlineHistory
import AsmAtlas.Proofs.OutlinePlacement
import AsmAtlas.Proofs.TaskResults
import AsmAtlas.Proofs.WordMatching
import AsmAtlas.Proofs.ScopeCaching
import AsmAtlas.Proofs.SegmentStart
import AsmAtlas.Proofs.WordPlaces
import AsmAtlas.Proofs.ReferenceCounts
import AsmAtlas.Proofs.Cancellation
import AsmAtlas.Proofs.CaseForms
import AsmAtlas.Proofs.MatchSpans
import AsmAtlas.Proofs.ScopeAgreement
import AsmAtlas.Proofs.WordUses
import AsmAtlas.Proofs.RenamePlaces
import AsmAtlas.Proofs.CommentColumns
import AsmAtlas.Proofs.RenameEdits
import AsmAtlas.Proofs.Findings
import AsmAtlas.Proofs.SymbolReports
import AsmAtlas.Proofs.DeclarationsLeftOut
import AsmAtlas.Proofs.UnreferencedLabels
import AsmAtlas.Proofs.FuzzyWords
import AsmAtlas.Proofs.LabelShape
import AsmAtlas.Proofs.LabelSearch
import AsmAtlas.Proofs.DeclaredWords
import AsmAtlas.Proofs.SymbolCompleteness
import AsmAtlas.Proofs.DefinitionChoice
import AsmAtlas.Proofs.HoverAgreement
import AsmAtlas.Proofs.CursorLabels
import AsmAtlas.Proofs.DefinitionAtLabel
import AsmAtlas.Proofs.ExcludedLabels
import AsmAtlas.Proofs.PlainGlobs
import AsmAtlas.Proofs.RequestFailures
import AsmAtlas.Proofs.ScopeStack
import AsmAtlas.Proofs.LabelHistory
import AsmAtlas.Proofs.LabelKinds
import AsmAtlas.Proofs.NameCharacters
import AsmAtlas.Proofs.OutlineColumns
import AsmAtlas.Proofs.TerminalText
import AsmAtlas.Proofs.AnswerOrigins
import AsmAtlas.Proofs.OutlineDepth
import AsmAtlas.Proofs.TerminalOutput
import AsmAtlas.Proofs.SurvivingCandidates
import AsmAtlas.Proofs.RelativeLabels
import AsmAtlas.Proofs.LineParts
import AsmAtlas.Proofs.StrippedColumns
import AsmAtlas.Proofs.SearchResults
import AsmAtlas.Proofs.LabelTokens
import AsmAtlas.Proofs.LabelGrammar
import AsmAtlas.Proofs.NewNames
import AsmAtlas.Proofs.Subsequences
import AsmAtlas.Proofs.Scores
import AsmAtlas.Proofs.RankedNames
import AsmAtlas.Proofs.Proposals
import AsmAtlas.Proofs.GlobReading
import AsmAtlas.Proofs.GlobLanguage
import AsmAtlas.Proofs.FileTrees
import AsmAtlas.Proofs.FileCollection
import AsmAtlas.Proofs.FoldingRanges
import AsmAtlas.Proofs.SourceDecoding
import AsmAtlas.Proofs.InnermostRoots
import AsmAtlas.Proofs.SettingsLayers
import AsmAtlas.Proofs.SkippedUses
import AsmAtlas.Proofs.OutlineOrder
