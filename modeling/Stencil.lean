import Stencil.CommandLine
import Stencil.Data.Json
import Stencil.Data.Tree
import Stencil.Data.Yaml
import Stencil.Decimal.Binary
import Stencil.Decimal.Fixed
import Stencil.Decimal.Layout
import Stencil.Decimal.Read
import Stencil.Decimal.Shortest
import Stencil.Encoding.Base64
import Stencil.Encoding.Sha256
import Stencil.Error
import Stencil.Expansion.Name
import Stencil.Expansion.Scanner
import Stencil.Function.Choice
import Stencil.Function.Requirement
import Stencil.Function.Text
import Stencil.Machine
import Stencil.Main
import Stencil.Mode
import Stencil.Pattern.CharSet
import Stencil.Pattern.Flaw
import Stencil.Pattern.Node
import Stencil.Pattern.Reader
import Stencil.Pattern.Search
import Stencil.Problem
import Stencil.Processor
import Stencil.Program
import Stencil.Shell.Arithmetic
import Stencil.Shell.Command
import Stencil.Shell.Files
import Stencil.Shell.Mold
import Stencil.Shell.Reader
import Stencil.Shell.Run
import Stencil.Shell.Session
import Stencil.Shell.Tree
import Stencil.Shell.Utility
import Stencil.Sink
import Stencil.Snapshot
import Stencil.Source
import Stencil.Surroundings
import Stencil.Template.Args
import Stencil.Template.Cause
import Stencil.Template.Document
import Stencil.Template.Escaping
import Stencil.Template.Evaluation
import Stencil.Template.Filter.List
import Stencil.Template.Filter.Number
import Stencil.Template.Filter.Table
import Stencil.Template.Filter.Test
import Stencil.Template.Filter.Text
import Stencil.Template.Free
import Stencil.Template.Functions
import Stencil.Template.Lexemes
import Stencil.Template.Parsing
import Stencil.Template.Run
import Stencil.Template.Store
import Stencil.Template.Token
import Stencil.Template.Tree
import Stencil.Text.CaseMap
import Stencil.Text.Casing
import Stencil.Text.Category
import Stencil.Text.Lines
import Stencil.Text.Pieces
import Stencil.Text.Property
import Stencil.Text.Quoted
import Stencil.Text.Runs
import Stencil.Text.Script
import Stencil.Text.Utf8
import Stencil.Value.Arithmetic
import Stencil.Value.Basic
import Stencil.Value.Compare
import Stencil.Value.Display
import Stencil.Value.Format
import Stencil.Value.Item
import Stencil.Value.Shape
import Stencil.Proofs.CommandLine
import Stencil.Proofs.Encoding.Base64
import Stencil.Proofs.Except
import Stencil.Proofs.Expansion.Name
import Stencil.Proofs.Expansion.Walk
import Stencil.Proofs.Expansion.Reading
import Stencil.Proofs.Expansion.Text
import Stencil.Proofs.Processor.Entry
import Stencil.Proofs.Source
import Stencil.Proofs.Template.Plain
import Stencil.Proofs.Processor.Limit
import Stencil.Proofs.Processor.Lines
import Stencil.Proofs.Expansion.Cut
import Stencil.Proofs.Processor.Whole
import Stencil.Proofs.Expansion.Escape
import Stencil.Proofs.Processor.AtOnce
import Stencil.Proofs.Processor.Influence
import Stencil.Proofs.Program
import Stencil.Proofs.Expansion.Append
import Stencil.Proofs.Expansion.Openings
import Stencil.Proofs.Expansion.Untouched
import Stencil.Proofs.Expansion.Turns
import Stencil.Proofs.Environment
import Stencil.Proofs.Decimal.Layout
import Stencil.Proofs.Data.Yaml
import Stencil.Proofs.Function.Yaml
import Stencil.Proofs.Text.Start
import Stencil.Proofs.Processor.Raw
import Stencil.Proofs.Text.Replace
import Stencil.Proofs.Text.Order
import Stencil.Proofs.Function.Quote
import Stencil.Proofs.Data.Sorted
import Stencil.Proofs.Data.Rearranged
import Stencil.Proofs.Data.Path
import Stencil.Proofs.Function.YamlOrder
import Stencil.Proofs.Function.Dict
import Stencil.Proofs.Function.Choice
import Stencil.Proofs.Text.Indent
import Stencil.Proofs.Template.Words
import Stencil.Proofs.Template.Reading
import Stencil.Proofs.Template.Path
import Stencil.Proofs.Template.Missing
