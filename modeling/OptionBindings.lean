import OptionBindings.Binding.Check
import OptionBindings.Binding.Declaration
import OptionBindings.Binding.Layout
import OptionBindings.Binding.Render
import OptionBindings.Catalog.Basic
import OptionBindings.Catalog.Load
import OptionBindings.Catalog.Recorder
import OptionBindings.CommandLine.Arguments
import OptionBindings.CommandLine.Flag
import OptionBindings.CommandLine.Help
import OptionBindings.Emission
import OptionBindings.FileStore
import OptionBindings.Identifier
import OptionBindings.Main
import OptionBindings.Notice
import OptionBindings.OptionsDocument.Event
import OptionBindings.OptionsDocument.Reader
import OptionBindings.Path
import OptionBindings.Proofs.Binding.Blocks
import OptionBindings.Proofs.Binding.Brackets
import OptionBindings.Proofs.Binding.CheckedFile
import OptionBindings.Proofs.Binding.CheckedLine
import OptionBindings.Proofs.Binding.CodeLines
import OptionBindings.Proofs.Binding.Completion
import OptionBindings.Proofs.Binding.DocLines
import OptionBindings.Proofs.Binding.Documentation
import OptionBindings.Proofs.Binding.Edits
import OptionBindings.Proofs.Binding.EventOrder
import OptionBindings.Proofs.Binding.Forms
import OptionBindings.Proofs.Binding.Legibility
import OptionBindings.Proofs.Binding.Places
import OptionBindings.Proofs.Binding.PlainNames
import OptionBindings.Proofs.Binding.Recovery
import OptionBindings.Proofs.Binding.Uuid
import OptionBindings.Proofs.Binding.Verdict
import OptionBindings.Proofs.Catalog.Nesting
import OptionBindings.Proofs.Catalog.Order
import OptionBindings.Proofs.Catalog.Overlay
import OptionBindings.Proofs.Catalog.Recording
import OptionBindings.Proofs.CommandLine.Grammar
import OptionBindings.Proofs.CommandLine.Precedence
import OptionBindings.Proofs.CommandLine.Reading
import OptionBindings.Proofs.CommandLine.Words
import OptionBindings.Proofs.Emission
import OptionBindings.Proofs.Emission.Atomicity
import OptionBindings.Proofs.Except
import OptionBindings.Proofs.FileStore
import OptionBindings.Proofs.Identifier.Acceptance
import OptionBindings.Proofs.Identifier.CamelCase
import OptionBindings.Proofs.Identifier.Collisions
import OptionBindings.Proofs.Identifier.Grammar
import OptionBindings.Proofs.Identifier.Repetition
import OptionBindings.Proofs.OptionsDocument.Outcome
import OptionBindings.Proofs.OptionsDocument.PairedEvents
import OptionBindings.Proofs.OptionsDocument.RoundTrip
import OptionBindings.Proofs.OptionsDocument.Sessions
import OptionBindings.Proofs.OptionsDocument.Summaries
import OptionBindings.Proofs.Run.Isolation
import OptionBindings.Proofs.Run.Reports
import OptionBindings.Proofs.Run.Turns
import OptionBindings.Proofs.Scope
import OptionBindings.Proofs.Text.CaseForms
import OptionBindings.Proofs.Text.Lines
import OptionBindings.Proofs.Text.LowerForms
import OptionBindings.Proofs.Text.Spans
import OptionBindings.Proofs.Text.Words
import OptionBindings.Proofs.WellNested
import OptionBindings.Proofs.Xml.Bounds
import OptionBindings.Proofs.Xml.Consumption
import OptionBindings.Proofs.Xml.EncodingName
import OptionBindings.Proofs.Xml.NestedTags
import OptionBindings.Proofs.Xml.Progress
import OptionBindings.Proofs.Xml.ReadBack
import OptionBindings.Proofs.Xml.Utf8
import OptionBindings.Proofs.Xml.Writing
import OptionBindings.Proofs.Xml.WrittenTags
import OptionBindings.Run
import OptionBindings.Scope
import OptionBindings.Settings
import OptionBindings.Text.Basic
import OptionBindings.Text.Case
import OptionBindings.Text.CaseTable
import OptionBindings.Text.PrintableTable
import OptionBindings.Text.Quoted
import OptionBindings.Xml.Charset
import OptionBindings.Xml.CharsetTable
import OptionBindings.Xml.Document
import OptionBindings.Xml.Encoding
import OptionBindings.Xml.Entity
import OptionBindings.Xml.Fault
import OptionBindings.Xml.Header
import OptionBindings.Xml.Lexer
import OptionBindings.Xml.Markup
import OptionBindings.Xml.NameTable
import OptionBindings.Xml.Prolog.Grammar
import OptionBindings.Xml.Prolog.Token
import OptionBindings.Xml.Reader
