import Pushdown.Automaton.Basic
import Pushdown.Automaton.BuildError
import Pushdown.Automaton.Insertion
import Pushdown.Automaton.Selection
import Pushdown.CommandLine
import Pushdown.Definition.Basic
import Pushdown.Definition.Fault
import Pushdown.Definition.Outline
import Pushdown.Definition.TransitionLine
import Pushdown.Derivation
import Pushdown.Grammar.Basic
import Pushdown.Grammar.Reader
import Pushdown.Grammar.Rule
import Pushdown.Log
import Pushdown.Main
import Pushdown.Proofs.Agreement
import Pushdown.Proofs.Candidates
import Pushdown.Proofs.ConflictFree
import Pushdown.Proofs.Construction
import Pushdown.Proofs.Data.Except
import Pushdown.Proofs.Data.List
import Pushdown.Proofs.Declared
import Pushdown.Proofs.Determinism
import Pushdown.Proofs.Extension
import Pushdown.Proofs.FirstFaultyLine
import Pushdown.Proofs.InsertionOrder
import Pushdown.Proofs.LabelOrder
import Pushdown.Proofs.LineByLine
import Pushdown.Proofs.LineGrammar
import Pushdown.Proofs.LineOrder
import Pushdown.Proofs.LiteralTerminals
import Pushdown.Proofs.Outlining
import Pushdown.Proofs.Path
import Pushdown.Proofs.Precedence
import Pushdown.Proofs.PrioritisedRun
import Pushdown.Proofs.ProductionLines
import Pushdown.Proofs.ProductionReading
import Pushdown.Proofs.Rank
import Pushdown.Proofs.Reading
import Pushdown.Proofs.Reassembly
import Pushdown.Proofs.Reconstruction
import Pushdown.Proofs.Replay
import Pushdown.Proofs.Reprinting
import Pushdown.Proofs.Requirements
import Pushdown.Proofs.Rightmost
import Pushdown.Proofs.RoundTrip
import Pushdown.Proofs.RuleNumbers
import Pushdown.Proofs.ShallowRuns
import Pushdown.Proofs.StackBottom
import Pushdown.Proofs.StepLimit
import Pushdown.Proofs.Termination
import Pushdown.Proofs.TextParts
import Pushdown.Proofs.TopFirst
import Pushdown.Proofs.TraceLength
import Pushdown.Proofs.UnreadInput
import Pushdown.Proofs.Writing
import Pushdown.Proofs.WrittenText
import Pushdown.Run
import Pushdown.Session
import Pushdown.SortedSet
import Pushdown.Stack
import Pushdown.StackToken
import Pushdown.Symbol
import Pushdown.Table.Basic
import Pushdown.Table.Markdown
import Pushdown.Text.Blank
import Pushdown.Text.CodeRange
import Pushdown.Text.Layout
import Pushdown.Text.Listing
import Pushdown.Text.Numbered
import Pushdown.Text.Numeral
import Pushdown.Text.Quoted
import Pushdown.Text.Split
import Pushdown.Text.Unprintable.Basic
import Pushdown.Text.Unprintable.Extending
import Pushdown.Text.Unprintable.Unassigned
import Pushdown.Text.Visible
import Pushdown.Trace
import Pushdown.Transition
