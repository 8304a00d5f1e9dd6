import KeyChords.Text.CharClass
import KeyChords.Text.CodePoint
import KeyChords.Text.Letter
import KeyChords.Text.Printable
import KeyChords.Text.Blank
import KeyChords.Text.Digit
import KeyChords.Text.Identifier
import KeyChords.Text.Pieces
import KeyChords.Text.Quoted
import KeyChords.Text.Utf8
import KeyChords.Text.Newline
import KeyChords.Decimal.Binary64
import KeyChords.Decimal.Shortest
import KeyChords.Decimal.FloatText
import KeyChords.Decimal.Numeral
import KeyChords.Dict
import KeyChords.Json.Value
import KeyChords.Json.Printer
import KeyChords.Json.Display
import KeyChords.Json.Token
import KeyChords.Json.Reader
import KeyChords.Order.FirstOccurrence
import KeyChords.Debug.Category
import KeyChords.Violation
import KeyChords.Fault
import KeyChords.Debug.Event
import KeyChords.Progress
import KeyChords.Debug.Settings
import KeyChords.Chord
import KeyChords.Chord.Leaders
import KeyChords.Condition
import KeyChords.Command
import KeyChords.Action
import KeyChords.Draft
import KeyChords.Draft.Equality
import KeyChords.Draft.Literal
import KeyChords.Draft.Term
import KeyChords.Table
import KeyChords.Table.Split
import KeyChords.Expansion
import KeyChords.Removals
import KeyChords.Record
import KeyChords.Keymap
import KeyChords.Drift.Alignment
import KeyChords.Drift
import KeyChords.Keymap.Stock
import KeyChords.Cli.Options
import KeyChords.Keymap.Catalog
import KeyChords.Files.Path
import KeyChords.Files.FileSystem
import KeyChords.Files.Disk
import KeyChords.Cli.Usage
import KeyChords.Cli.Job
import KeyChords.Cli.Program
import KeyChords.Main
import KeyChords.Proofs.Chord.Building
import KeyChords.Proofs.Chord.Press
import KeyChords.Proofs.Chord.Spelling
import KeyChords.Proofs.Cli.Effects
import KeyChords.Proofs.Cli.Endings
import KeyChords.Proofs.Cli.Stages
import KeyChords.Proofs.Condition.Reading
import KeyChords.Proofs.Debug.Configuration
import KeyChords.Proofs.Debug.Values
import KeyChords.Proofs.Decimal.NumeralText
import KeyChords.Proofs.Decimal.ReadBack
import KeyChords.Proofs.Decimal.Rounding
import KeyChords.Proofs.Dict
import KeyChords.Proofs.Drift.Blocks
import KeyChords.Proofs.Drift.EditScript
import KeyChords.Proofs.Drift.OneSided
import KeyChords.Proofs.Drift.Places
import KeyChords.Proofs.Drift.Report
import KeyChords.Proofs.Drift.RoundTrip
import KeyChords.Proofs.Drift.Silence
import KeyChords.Proofs.Expansion.Generated
import KeyChords.Proofs.Expansion.Outcome
import KeyChords.Proofs.Json.Alike
import KeyChords.Proofs.Json.Capitals
import KeyChords.Proofs.Json.Conformance
import KeyChords.Proofs.Json.DistinctKeys
import KeyChords.Proofs.Json.Grammar
import KeyChords.Proofs.Json.Mapped
import KeyChords.Proofs.Json.RoundTrip
import KeyChords.Proofs.Json.Texts
import KeyChords.Proofs.Json.Tokens
import KeyChords.Proofs.Json.Unambiguity
import KeyChords.Proofs.Json.Words
import KeyChords.Proofs.Linear.Ambiguity
import KeyChords.Proofs.Linear.Claims
import KeyChords.Proofs.Linear.Completeness
import KeyChords.Proofs.Linear.Extension
import KeyChords.Proofs.Linear.Independence
import KeyChords.Proofs.Linear.LeaderSets
import KeyChords.Proofs.Linear.Reference
import KeyChords.Proofs.Linear.Reordering
import KeyChords.Proofs.Linear.Run
import KeyChords.Proofs.Linear.Suppression
import KeyChords.Proofs.Linear.Typing
import KeyChords.Proofs.Linear.Uniqueness
import KeyChords.Proofs.Order.Ascending
import KeyChords.Proofs.Order.Firsts
import KeyChords.Proofs.Progress
import KeyChords.Proofs.Record.FileText
import KeyChords.Proofs.Record.Identity
import KeyChords.Proofs.Record.StrictFile
import KeyChords.Proofs.Removals.Registration
import KeyChords.Proofs.Sequence.Elements
import KeyChords.Proofs.Sequence.Flattening
import KeyChords.Proofs.Table.Agreement
import KeyChords.Proofs.Table.History
import KeyChords.Proofs.Table.Layering
import KeyChords.Proofs.Table.Merging
import KeyChords.Proofs.Table.Registration
import KeyChords.Proofs.Table.Soundness
import KeyChords.Proofs.Table.Splitting
