import NumberedProse.Analysis
import NumberedProse.Assembly
import NumberedProse.Assembly.Artifact
import NumberedProse.Assembly.Codec
import NumberedProse.Assembly.Listing
import NumberedProse.CommandLine.Arguments
import NumberedProse.CommandLine.FileTree
import NumberedProse.CommandLine.Path
import NumberedProse.CommandLine.Session
import NumberedProse.Compilation
import NumberedProse.Control
import NumberedProse.Control.Cue
import NumberedProse.Control.Error
import NumberedProse.Control.Reading
import NumberedProse.Flow
import NumberedProse.Flow.Reach
import NumberedProse.InsertionMap
import NumberedProse.Json.Reader
import NumberedProse.Json.Strings
import NumberedProse.Json.Value
import NumberedProse.Line
import NumberedProse.Machine.ByControl
import NumberedProse.Machine.Error
import NumberedProse.Machine.Executor
import NumberedProse.Machine.Registers
import NumberedProse.Machine.Run
import NumberedProse.Machine.Script
import NumberedProse.Machine.Step
import NumberedProse.Main
import NumberedProse.Numbered
import NumberedProse.Program
import NumberedProse.Program.Overview
import NumberedProse.Program.Source
import NumberedProse.Proofs.Acquisition
import NumberedProse.Proofs.BlankBoundaries
import NumberedProse.Proofs.CalledLines
import NumberedProse.Proofs.CaseInsensitivity
import NumberedProse.Proofs.Compiled
import NumberedProse.Proofs.Conditions
import NumberedProse.Proofs.ControlSteps
import NumberedProse.Proofs.DecodedSize
import NumberedProse.Proofs.EitherMode
import NumberedProse.Proofs.FlowCoverage
import NumberedProse.Proofs.GraphEdges
import NumberedProse.Proofs.LandingMarks
import NumberedProse.Proofs.LeastCalledSet
import NumberedProse.Proofs.LetterCase
import NumberedProse.Proofs.Lexing
import NumberedProse.Proofs.LineByLine
import NumberedProse.Proofs.LinearRuns
import NumberedProse.Proofs.ListingRows
import NumberedProse.Proofs.LocalCues
import NumberedProse.Proofs.LoopHeads
import NumberedProse.Proofs.MatchedReturns
import NumberedProse.Proofs.Neighbours
import NumberedProse.Proofs.NumeralTargets
import NumberedProse.Proofs.OpaqueQuotes
import NumberedProse.Proofs.OpenCalls
import NumberedProse.Proofs.Phrases
import NumberedProse.Proofs.PublishedFaults
import NumberedProse.Proofs.Rendering
import NumberedProse.Proofs.RoundTrip
import NumberedProse.Proofs.RunLimits
import NumberedProse.Proofs.Safety
import NumberedProse.Proofs.Schedules
import NumberedProse.Proofs.Search
import NumberedProse.Proofs.SourceGrammar
import NumberedProse.Proofs.TableHistory
import NumberedProse.Proofs.TextOrder
import NumberedProse.Proofs.Tiling
import NumberedProse.Proofs.TokenCuts
import NumberedProse.Proofs.Truncation
import NumberedProse.Proofs.Turns
import NumberedProse.Proofs.VerbatimConditions
import NumberedProse.Proofs.Verdicts
import NumberedProse.Proofs.WarnedReturns
import NumberedProse.Proofs.WiderLimits
import NumberedProse.Resource.Table
import NumberedProse.Resource.TableText
import NumberedProse.Resource.Usage
import NumberedProse.Text.Alphabetic
import NumberedProse.Text.Blank
import NumberedProse.Text.Cased
import NumberedProse.Text.CodePoints
import NumberedProse.Text.Column
import NumberedProse.Text.Decimal
import NumberedProse.Text.Lowercase
import NumberedProse.Text.Numeric
import NumberedProse.Text.Split
import NumberedProse.Text.Trim
import NumberedProse.Token
import NumberedProse.Token.Scan
import NumberedProse.Translator
import NumberedProse.Translator.Echo
import NumberedProse.Translator.Script
