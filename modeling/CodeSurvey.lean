import CodeSurvey.Main
import CodeSurvey.Proofs.Survey.Verbatim
import CodeSurvey.Proofs.FileSystem.Sound
import CodeSurvey.Proofs.Glob.Cut
import CodeSurvey.Proofs.Tree.Nodes
import CodeSurvey.Proofs.Tree.Listing
import CodeSurvey.Proofs.Tree.Agreement
import CodeSurvey.Proofs.Survey.Isolation
import CodeSurvey.Proofs.Tree.OwnName
import CodeSurvey.Proofs.FileSystem.Sources
import CodeSurvey.Proofs.Survey.Unreadable
import CodeSurvey.Proofs.FileSystem.Growth
import CodeSurvey.Proofs.Technology.Growth
import CodeSurvey.Proofs.Manifest.Outcome
import CodeSurvey.Proofs.Survey.Outcome
import CodeSurvey.Proofs.Ranking
import CodeSurvey.Proofs.Technology.Ranking
import CodeSurvey.Proofs.Excerpt.Ranking
import CodeSurvey.Proofs.Idiom.Ranking
import CodeSurvey.Proofs.FileSystem.Reordering
import CodeSurvey.Proofs.Tree.Shape
import CodeSurvey.Proofs.Regex.Groups
import CodeSurvey.Proofs.Path.Stem
import CodeSurvey.Proofs.Excerpt.Identifiers
import CodeSurvey.Proofs.Quality.Counts
import CodeSurvey.Proofs.Quality.Duplicates
import CodeSurvey.Proofs.Quality.Copies
import CodeSurvey.Proofs.Quality.Bounds
import CodeSurvey.Proofs.Quality.Rearrangement
import CodeSurvey.Proofs.Settings.Precedence
import CodeSurvey.Proofs.FileSystem.Writing
import CodeSurvey.Proofs.FileSystem.Visits
import CodeSurvey.Proofs.Tree.Depth
import CodeSurvey.Proofs.Layout.Markers
import CodeSurvey.Proofs.Survey.Looks
import CodeSurvey.Proofs.Survey.Enclosure
import CodeSurvey.Proofs.Log.Delivery
import CodeSurvey.Proofs.Command.Outcome
import CodeSurvey.Proofs.Command.Sequence
import CodeSurvey.Proofs.Text.Words
import CodeSurvey.Proofs.Source.Nesting
import CodeSurvey.Survey.Request
import CodeSurvey.Proofs.Survey.Milestones
import CodeSurvey.Proofs.Survey.Sources
import CodeSurvey.Proofs.Regex.Replace
import CodeSurvey.Proofs.Quality.Shape
import CodeSurvey.Proofs.Survey.Document
import CodeSurvey.Proofs.Source.Decisions
import CodeSurvey.Proofs.Source.Joining
import CodeSurvey.Proofs.Excerpt.Functions
import CodeSurvey.Proofs.Excerpt.Growth
import CodeSurvey.Proofs.Excerpt.Search
import CodeSurvey.Proofs.Quality.LineEndings
import CodeSurvey.Proofs.Technology.Reordering
import CodeSurvey.Proofs.Idiom.Joining
import CodeSurvey.Proofs.Idiom.Decorators
import CodeSurvey.Proofs.Technology.Languages
import CodeSurvey.Proofs.Settings.Reloading
import CodeSurvey.Proofs.Manifest.Failures
import CodeSurvey.Proofs.Settings.Escapes
import CodeSurvey.Proofs.Excerpt.Candidates
import CodeSurvey.Proofs.Manifest.Isolation
import CodeSurvey.Proofs.Manifest.Requirements
import CodeSurvey.Proofs.Tree.Pruning
import CodeSurvey.Proofs.Insight.Buckets
import CodeSurvey.Proofs.FileSystem.Additions
import CodeSurvey.Proofs.Layout.Growth
import CodeSurvey.Proofs.Layout.Tools
import CodeSurvey.Proofs.Layout.Documentation
import CodeSurvey.Proofs.Source.Braces
import CodeSurvey.Proofs.Source.Indentation
