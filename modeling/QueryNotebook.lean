import QueryNotebook.Catalog
import QueryNotebook.Catalog.Argument
import QueryNotebook.Command
import QueryNotebook.Command.Source
import QueryNotebook.CommandLine.Arguments
import QueryNotebook.CommandLine.Program
import QueryNotebook.Completion.Completer
import QueryNotebook.Completion.Context
import QueryNotebook.Completion.Session
import QueryNotebook.Completion.Source
import QueryNotebook.ConfigFiles
import QueryNotebook.Datum
import QueryNotebook.Datum.Fault
import QueryNotebook.Dictionary
import QueryNotebook.Disk
import QueryNotebook.Disk.Fault
import QueryNotebook.Disk.FileTree
import QueryNotebook.Document
import QueryNotebook.Icon
import QueryNotebook.JobQueue
import QueryNotebook.Json.Printer
import QueryNotebook.Json.Reader
import QueryNotebook.Json.Scanner
import QueryNotebook.Json.Tree
import QueryNotebook.Keystroke
import QueryNotebook.Main
import QueryNotebook.Messages
import QueryNotebook.Number.Binary64
import QueryNotebook.Number.Shortest
import QueryNotebook.Number.Word
import QueryNotebook.Palette
import QueryNotebook.Path
import QueryNotebook.Platform
import QueryNotebook.Poll
import QueryNotebook.Proofs.Command.Matching
import QueryNotebook.Proofs.Completion.Acceptance
import QueryNotebook.Proofs.Completion.FromWord
import QueryNotebook.Proofs.Completion.Grammar
import QueryNotebook.Proofs.Completion.Overlap
import QueryNotebook.Proofs.Document
import QueryNotebook.Proofs.Palette.Host
import QueryNotebook.Proofs.Palette.View
import QueryNotebook.Proofs.Path
import QueryNotebook.Proofs.RecencyList.Distinct
import QueryNotebook.Proofs.RecencyList.History
import QueryNotebook.Proofs.RecencyList.Loading
import QueryNotebook.Proofs.RecentDocuments.Encoding
import QueryNotebook.Proofs.RecentDocuments.Restart
import QueryNotebook.Proofs.Selection.Highlight
import QueryNotebook.Proofs.Store
import QueryNotebook.Proofs.Text.Bytes
import QueryNotebook.Proofs.Text.Joined
import QueryNotebook.Proofs.Text.Names
import QueryNotebook.Proofs.Text.Piece
import QueryNotebook.Proofs.Text.UpperCase
import QueryNotebook.RecencyList
import QueryNotebook.RecentDocuments
import QueryNotebook.Selection
import QueryNotebook.Settings
import QueryNotebook.Snippet
import QueryNotebook.Store
import QueryNotebook.Store.File
import QueryNotebook.Text.Blank
import QueryNotebook.Text.Case
import QueryNotebook.Text.CaseTable
import QueryNotebook.Text.Quoted
import QueryNotebook.Text.Split
import QueryNotebook.Text.Utf8
import QueryNotebook.Text.VisibleTable
import QueryNotebook.Toml.Reader
import QueryNotebook.Toml.Scalar
import QueryNotebook.Toml.Tree
import QueryNotebook.Warning
import QueryNotebook.Proofs.JobQueue.Rules
import QueryNotebook.Proofs.JobQueue.Conservation
import QueryNotebook.Proofs.JobQueue.Kinds
import QueryNotebook.Proofs.Completion.Deferral
import QueryNotebook.Proofs.Completion.Protocol
import QueryNotebook.Proofs.Palette.Execution
import QueryNotebook.Proofs.CommandLine.Arguments
import QueryNotebook.Proofs.CommandLine.Entries
import QueryNotebook.Proofs.CommandLine.Reports
import QueryNotebook.Proofs.CommandLine.Running
import QueryNotebook.Proofs.Dictionary
import QueryNotebook.Proofs.Disk.FileTree
import QueryNotebook.Proofs.Disk.OneFile
import QueryNotebook.Proofs.Json.Lines
import QueryNotebook.Proofs.Json.Scalars
import QueryNotebook.Proofs.Json.Objects
import QueryNotebook.Proofs.Json.Arrays
import QueryNotebook.Proofs.Json.Trees
import QueryNotebook.Proofs.RecentDocuments.Reload
import QueryNotebook.Proofs.Selection.Listener
import QueryNotebook.Proofs.Selection.Steps
import QueryNotebook.Proofs.Settings.Comments
import QueryNotebook.Proofs.Settings.Saved
import QueryNotebook.Proofs.Store.Durability
import QueryNotebook.Proofs.Store.Encoding
import QueryNotebook.Proofs.Text.Lines
import QueryNotebook.Proofs.Text.LowerCase
import QueryNotebook.Proofs.Command.Pieces
import QueryNotebook.Proofs.Keystroke
import QueryNotebook.Proofs.Completion.Attributes
import QueryNotebook.Proofs.CommandLine.Recent
import QueryNotebook.Proofs.RecentDocuments.UsedFolder
import QueryNotebook.Proofs.RecentDocuments.Refusals
import QueryNotebook.Proofs.Json.Relining
import QueryNotebook.Proofs.Json.Relining.Data
import QueryNotebook.Proofs.Settings.Commented
import QueryNotebook.Proofs.Document.Editing
import QueryNotebook.Proofs.Keystroke.Grammar
import QueryNotebook.Proofs.Selection.Lifecycle
import QueryNotebook.Proofs.Settings.Fields
import QueryNotebook.Proofs.Settings.Partial
import QueryNotebook.Proofs.Json.Grammar
import QueryNotebook.Proofs.Json.Members
import QueryNotebook.Proofs.Json.Wanted
import QueryNotebook.Proofs.Catalog.Argument
