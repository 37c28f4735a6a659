import Glossary.Text.Ranges
import Glossary.Text.Blank
import Glossary.Text.Pieces
import Glossary.Text.Occurrence
import Glossary.Text.LowerTable
import Glossary.Text.CaseTable
import Glossary.Text.Lower
import Glossary.Text.Printable
import Glossary.Text.Escaped
import Glossary.Text.Quoted
import Glossary.Text.Numeral
import Glossary.Text.Utf8
import Glossary.Sorted
import Glossary.Distinct
import Glossary.EditDistance
import Glossary.Entry
import Glossary.Filter
import Glossary.Query
import Glossary.Item
import Glossary.Store.Basic
import Glossary.Store.Disrupted
import Glossary.Store.Index
import Glossary.Store.Memory
import Glossary.Search.Matching
import Glossary.Search.Outcome
import Glossary.Notice
import Glossary.Search.Retrieval
import Glossary.Search
import Glossary.Hindrance
import Glossary.Database.Basic
import Glossary.Database.Lookup
import Glossary.Database.Stored
import Glossary.Sheet
import Glossary.Csv
import Glossary.Load.Columns
import Glossary.Load
import Glossary.Location
import Glossary.FileTree.Basic
import Glossary.FileTree.Path
import Glossary.Text.Likeness
import Glossary.Database.Opening
import Glossary.Packed
import Glossary.Load.Source
import Glossary.Settings
import Glossary.Service.Address
import Glossary.Service
import Glossary.CommandLine.Arguments
import Glossary.CommandLine.Run
import Glossary.Main
import Glossary.Proofs.Query.Delimited
import Glossary.Proofs.Query.Grammar
import Glossary.Proofs.Card
import Glossary.Proofs.EditDistance
import Glossary.Proofs.Search.Stages
import Glossary.Proofs.Search.Shown
import Glossary.Proofs.Memory.Cards
import Glossary.Proofs.Memory.Lookup
import Glossary.Proofs.Memory.Search
import Glossary.Proofs.Search.Outages
import Glossary.Proofs.Database.Search
import Glossary.Proofs.Load.Tables
import Glossary.Proofs.Text.Ascii
import Glossary.Proofs.Text.Utf8
import Glossary.Proofs.Text.Pieces
import Glossary.Proofs.Load.Columns
import Glossary.Proofs.Load.Replacement
import Glossary.Proofs.Load.Failure
import Glossary.Proofs.CommandLine
import Glossary.Proofs.Database.Agreement
import Glossary.Proofs.Memory.Scan
import Glossary.Proofs.Memory.CloseEntries
import Glossary.Proofs.Database.CloseTerms
import Glossary.Proofs.Memory.Indexes
import Glossary.Proofs.Search.Faults
import Glossary.Proofs.Database.Faults
import Glossary.Proofs.Database.Retrieval
import Glossary.Proofs.Csv
import Glossary.Proofs.Text.Trimmed
import Glossary.Proofs.Load.Integrity
import Glossary.Proofs.Database.Loaded
import Glossary.Proofs.Settings
import Glossary.Proofs.EditScript
import Glossary.Proofs.Search.Order
import Glossary.Proofs.Database.Verified
import Glossary.Proofs.Load.Missing
import Glossary.Proofs.Filter
import Glossary.Proofs.Item
import Glossary.Proofs.Query.Seams
import Glossary.Proofs.Query.Written
import Glossary.Proofs.Query.Removal
import Glossary.Proofs.Search.Course
import Glossary.Proofs.Search.Accounting
