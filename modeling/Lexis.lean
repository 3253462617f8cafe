import Lexis.Command
import Lexis.Diagnostic
import Lexis.Grammar
import Lexis.Log
import Lexis.Main
import Lexis.Proofs.Cuts
import Lexis.Session
import Lexis.Proofs.Excerpts
import Lexis.Proofs.Rounds
import Lexis.Proofs.Tiling
import Lexis.Proofs.Languages
import Lexis.Proofs.Words
import Lexis.Proofs.Delimited
import Lexis.Proofs.Exactness
import Lexis.Proofs.Openings
import Lexis.Proofs.MaximalMunch
import Lexis.Proofs.Failures
import Lexis.Proofs.Readings
import Lexis.Proofs.Endings
import Lexis.Proofs.Truncation
import Lexis.Proofs.Limits
import Lexis.Proofs.Lines
import Lexis.Proofs.Resumption
import Lexis.Proofs.Gaps
import Lexis.Proofs.Printing
import Lexis.Proofs.Lookback
import Lexis.Proofs.Lookahead
import Lexis.Proofs.Respacing
import Lexis.Proofs.Blanks
import Lexis.Proofs.Insertions
import Lexis.Proofs.Shifts
import Lexis.Proofs.Concatenations
import Lexis.Proofs.Bookkeeping
import Lexis.Proofs.CarriageReturns
import Lexis.Proofs.LineEndings
import Lexis.Proofs.WordEdges
import Lexis.Proofs.NumberForms
import Lexis.Proofs.Enclosures
import Lexis.Proofs.Extents
import Lexis.Proofs.WordKinds
import Lexis.Proofs.Carets
import Lexis.Proofs.WalkRounds
import Lexis.Proofs.Locality
import Lexis.Proofs.MissingQuotes
import Lexis.Proofs.FailureExcerpts
import Lexis.Proofs.LineLookup
import Lexis.Proofs.LoneLexemes
import Lexis.Proofs.Breakdowns
import Lexis.Proofs.Mirrors
