import IssueQuery.Main
import IssueQuery.Proofs.Grammar
import IssueQuery.Proofs.Parsing
import IssueQuery.Proofs.Negation
import IssueQuery.Proofs.Pieces
import IssueQuery.Proofs.Placement
import IssueQuery.Proofs.QueryText
import IssueQuery.Proofs.Embedding
import IssueQuery.Proofs.Addressing
import IssueQuery.Proofs.ClauseShape
import IssueQuery.Proofs.ClauseText
import IssueQuery.Proofs.Conjunctions
import IssueQuery.Proofs.Marker
import IssueQuery.Proofs.RoundTrip
import IssueQuery.Proofs.Request
import IssueQuery.Proofs.RequestText
import IssueQuery.Proofs.Agreement
import IssueQuery.Proofs.Meaning
import IssueQuery.Proofs.SendingBack
import IssueQuery.Proofs.Gaps
import IssueQuery.Proofs.Unmarked
import IssueQuery.Proofs.SearchText
import IssueQuery.Proofs.Permission
import IssueQuery.Proofs.Shadowing
import IssueQuery.Proofs.ClauseGrammar
import IssueQuery.Proofs.Rendering
import IssueQuery.Proofs.Succession
import IssueQuery.Proofs.Refusals
import IssueQuery.Proofs.Erasure
import IssueQuery.Proofs.Requoting
import IssueQuery.Proofs.DefaultSort
import IssueQuery.Proofs.UnusedFields
import IssueQuery.Proofs.PatternMatching
import IssueQuery.Proofs.Height
import IssueQuery.Proofs.EmptyQueries
import IssueQuery.Proofs.SourceOrder
import IssueQuery.Proofs.NestingLimit
import IssueQuery.Proofs.ErrorPositions
import IssueQuery.Proofs.SortPositions
import IssueQuery.Proofs.Coverage
import IssueQuery.Proofs.Connectives
import IssueQuery.Proofs.Typing
import IssueQuery.Proofs.Expansion
import IssueQuery.Proofs.Traversal
import IssueQuery.Proofs.Rounding
import IssueQuery.Proofs.SortComposition
import IssueQuery.Proofs.IntegerOrder
import IssueQuery.Proofs.InstantText
import IssueQuery.Proofs.Exchange
import IssueQuery.Proofs.Neighbours
import IssueQuery.Proofs.References
import IssueQuery.Proofs.FirstMarker
