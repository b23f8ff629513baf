import SqlTemplate.Bundle
import SqlTemplate.Command
import SqlTemplate.Command.Grammar
import SqlTemplate.Command.Request
import SqlTemplate.Dialect
import SqlTemplate.Dialect.Document
import SqlTemplate.Entries
import SqlTemplate.Files.Discovery
import SqlTemplate.Files.Disk
import SqlTemplate.ErrorKind
import SqlTemplate.Files.Load
import SqlTemplate.Files.Path
import SqlTemplate.Library
import SqlTemplate.Fragment
import SqlTemplate.Fragment.Describe
import SqlTemplate.Journal
import SqlTemplate.Line
import SqlTemplate.Main
import SqlTemplate.Number.Binary64
import SqlTemplate.Number.Notation
import SqlTemplate.Number.Numeral
import SqlTemplate.Number.Shortest
import SqlTemplate.Order
import SqlTemplate.Parameters
import SqlTemplate.Parameters.Document
import SqlTemplate.Proofs.BlockStructure
import SqlTemplate.Proofs.ContentLine
import SqlTemplate.Proofs.DefinedTable
import SqlTemplate.Proofs.Enclosure
import SqlTemplate.Proofs.FaultOrigin
import SqlTemplate.Proofs.Likeness
import SqlTemplate.Proofs.Moments
import SqlTemplate.Proofs.Observation
import SqlTemplate.Proofs.Outcome
import SqlTemplate.Proofs.Progress
import SqlTemplate.Proofs.Recursion
import SqlTemplate.Proofs.References
import SqlTemplate.Registry
import SqlTemplate.Render
import SqlTemplate.Render.Error
import SqlTemplate.Tag
import SqlTemplate.Tag.Form
import SqlTemplate.Template.Content
import SqlTemplate.Template.Header
import SqlTemplate.Template.Layout
import SqlTemplate.Template.Table
import SqlTemplate.Text.Blank
import SqlTemplate.Text.CharSet
import SqlTemplate.Text.DecimalDigit
import SqlTemplate.Text.Fields
import SqlTemplate.Text.Json
import SqlTemplate.Text.LineBreak
import SqlTemplate.Text.Lowercase
import SqlTemplate.Text.Printable
import SqlTemplate.Text.Quoted
import SqlTemplate.Text.Search
import SqlTemplate.Value
import SqlTemplate.Library.Plain
import SqlTemplate.Value.Order
import SqlTemplate.Proofs.Numbering
import SqlTemplate.Proofs.Concatenation
import SqlTemplate.Proofs.Agreement
import SqlTemplate.Proofs.Override
import SqlTemplate.Proofs.Inlining
import SqlTemplate.Proofs.Blame
import SqlTemplate.Proofs.FirstFault
import SqlTemplate.Proofs.Spacing
import SqlTemplate.Proofs.LineEnds
import SqlTemplate.Proofs.Trimming
import SqlTemplate.Proofs.Relayout
import SqlTemplate.Proofs.Locality
import SqlTemplate.Proofs.ReadTrees
import SqlTemplate.Proofs.Captures
import SqlTemplate.Proofs.WellFormed
import SqlTemplate.Proofs.LowerCase
import SqlTemplate.Proofs.RegistryRuns
import SqlTemplate.Proofs.Elision
import SqlTemplate.Proofs.VisibleText
import SqlTemplate.Proofs.Numerals
import SqlTemplate.Proofs.PageNumbers
import SqlTemplate.Proofs.FirstOccurrence
import SqlTemplate.Proofs.WrittenTags
import SqlTemplate.Proofs.Splitting
import SqlTemplate.Proofs.UniqueNames
import SqlTemplate.Proofs.PageClauses
import SqlTemplate.Proofs.QueryCuts
import SqlTemplate.Proofs.PageRows
import SqlTemplate.Proofs.LoadedEntries
import SqlTemplate.Proofs.Wildcards
import SqlTemplate.Proofs.PartialLoading
import SqlTemplate.Proofs.DocumentFaults
import SqlTemplate.Proofs.DerivedDialects
import SqlTemplate.Proofs.LineBreaks
import SqlTemplate.Proofs.DirectoryTrees
import SqlTemplate.Proofs.FoundFiles
import SqlTemplate.Proofs.WrittenHeaders
