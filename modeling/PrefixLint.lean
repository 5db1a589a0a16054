import PrefixLint.Main
import PrefixLint.Proofs.Timeline
import PrefixLint.Proofs.WalkCalls
import PrefixLint.Proofs.Operations
import PrefixLint.Proofs.UnitIsolation
import PrefixLint.Proofs.VisitorRuns
import PrefixLint.Proofs.UnitMeaning
import PrefixLint.Proofs.Verdict
import PrefixLint.Proofs.UnitDiscovery
import PrefixLint.Proofs.UnitAccount
import PrefixLint.Proofs.LateMarkup
import PrefixLint.Proofs.CommandReport
import PrefixLint.Proofs.Likeness
import PrefixLint.Proofs.Metadata
import PrefixLint.Proofs.ChildOrder
import PrefixLint.Proofs.DocumentReading
import PrefixLint.Proofs.Reordering
import PrefixLint.Proofs.DocumentOrder
import PrefixLint.Proofs.Loading
import PrefixLint.Proofs.PolicyReading
import PrefixLint.Proofs.UnitFaults
import PrefixLint.Proofs.BodyEdits
import PrefixLint.Proofs.ExportPlace
import PrefixLint.Proofs.InertStatements
import PrefixLint.Proofs.LetterCase
import PrefixLint.Proofs.NameSplitting
import PrefixLint.Proofs.NameDistinction
import PrefixLint.Proofs.NameJoining
import PrefixLint.Proofs.PatternSearch
import PrefixLint.Proofs.UnitOrder
import PrefixLint.Proofs.OptionResolution
import PrefixLint.Proofs.PlaceText
import PrefixLint.Proofs.JournalUnits
import PrefixLint.Proofs.WarningRuns
import PrefixLint.Proofs.ExportNaming
import PrefixLint.Proofs.TokenSpacing
