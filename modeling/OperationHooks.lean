import OperationHooks.CommandLine.Fetching
import OperationHooks.CommandLine.Options
import OperationHooks.CommandLine.Request
import OperationHooks.CommandLine.Run
import OperationHooks.CommandLine.Usage
import OperationHooks.Compilation
import OperationHooks.Decimal.Binary64
import OperationHooks.Decimal.Shortest
import OperationHooks.Files.Collection
import OperationHooks.Files.Path
import OperationHooks.Files.System
import OperationHooks.Files.Tree
import OperationHooks.Fragments.Library
import OperationHooks.GeneratedModule
import OperationHooks.GraphQL.BlockString
import OperationHooks.GraphQL.Document
import OperationHooks.GraphQL.Fault
import OperationHooks.GraphQL.Location
import OperationHooks.GraphQL.Name
import OperationHooks.GraphQL.Place
import OperationHooks.GraphQL.Printer
import OperationHooks.GraphQL.Reader
import OperationHooks.GraphQL.Spreads
import OperationHooks.GraphQL.Stream
import OperationHooks.GraphQL.Token
import OperationHooks.Hooks.Hook
import OperationHooks.Hooks.Strategy
import OperationHooks.Hooks.Summary
import OperationHooks.Json.Display
import OperationHooks.Json.Printer
import OperationHooks.Json.Reader
import OperationHooks.Json.Value
import OperationHooks.Loading
import OperationHooks.Main
import OperationHooks.Mapper
import OperationHooks.Naming
import OperationHooks.OutputFile
import OperationHooks.Proofs.CommandLine.ErrorReports
import OperationHooks.Proofs.CommandLine.Fetching
import OperationHooks.Proofs.CommandLine.HookCount
import OperationHooks.Proofs.CommandLine.Occurrences
import OperationHooks.Proofs.CommandLine.Report
import OperationHooks.Proofs.CommandLine.RequestOptions
import OperationHooks.Proofs.CommandLine.Run
import OperationHooks.Proofs.Compilation.BoundNames
import OperationHooks.Proofs.Compilation.ClientImport
import OperationHooks.Proofs.Compilation.Failure
import OperationHooks.Proofs.Compilation.Helper
import OperationHooks.Proofs.Compilation.Imports
import OperationHooks.Proofs.Compilation.Locality
import OperationHooks.Proofs.Compilation.Run
import OperationHooks.Proofs.Compilation.Session
import OperationHooks.Proofs.ConstantValues
import OperationHooks.Proofs.ExportedNames
import OperationHooks.Proofs.Files.Collection
import OperationHooks.Proofs.Files.Writing
import OperationHooks.Proofs.FirstOccurrences
import OperationHooks.Proofs.Fragments.Dependencies
import OperationHooks.Proofs.Fragments.Known
import OperationHooks.Proofs.Fragments.Levels
import OperationHooks.Proofs.Fragments.Order
import OperationHooks.Proofs.Fragments.Reach
import OperationHooks.Proofs.Fragments.Stability
import OperationHooks.Proofs.GeneratedNames
import OperationHooks.Proofs.GraphQL.Indentation
import OperationHooks.Proofs.GraphQL.Numbers
import OperationHooks.Proofs.GraphQL.PrintedStrings
import OperationHooks.Proofs.GraphQL.Printing
import OperationHooks.Proofs.GraphQL.Readers
import OperationHooks.Proofs.GraphQL.Spelling
import OperationHooks.Proofs.GraphQL.SpreadOrder
import OperationHooks.Proofs.GraphQL.Strings
import OperationHooks.Proofs.GraphQL.Tokens
import OperationHooks.Proofs.HardcodedRequest
import OperationHooks.Proofs.HookShadowing
import OperationHooks.Proofs.Interchange
import OperationHooks.Proofs.Json.Limits
import OperationHooks.Proofs.Json.Members
import OperationHooks.Proofs.Json.Reading
import OperationHooks.Proofs.Loading
import OperationHooks.Proofs.MapperForms
import OperationHooks.Proofs.Naming.Ascii
import OperationHooks.Proofs.Naming.Letters
import OperationHooks.Proofs.Naming.Styles
import OperationHooks.Proofs.Naming.Words
import OperationHooks.Proofs.QueryKeys
import OperationHooks.Proofs.SentDocument
import OperationHooks.Proofs.Settings.FetcherForms
import OperationHooks.Proofs.Settings.Options
import OperationHooks.Proofs.Settings.Rewriting
import OperationHooks.Proofs.Statements
import OperationHooks.Proofs.Text.Ascii
import OperationHooks.Proofs.Text.Blanks
import OperationHooks.Proofs.Text.Joining
import OperationHooks.Proofs.Text.Lines
import OperationHooks.Proofs.Text.Parts
import OperationHooks.Proofs.Text.Stops
import OperationHooks.Proofs.TypeScript.Escaping
import OperationHooks.Proofs.TypeScript.ImportDeclaration
import OperationHooks.Proofs.TypeScript.ObjectLiteral
import OperationHooks.Proofs.TypeScript.Quoted
import OperationHooks.Proofs.TypeScript.Script
import OperationHooks.Proofs.TypeScript.Template
import OperationHooks.Schema.Basic
import OperationHooks.Schema.Check
import OperationHooks.Schema.Declarations
import OperationHooks.Schema.Fault
import OperationHooks.Schema.Remark
import OperationHooks.Settings.Basic
import OperationHooks.Settings.Decode
import OperationHooks.Settings.Refusal
import OperationHooks.Text.Blank
import OperationHooks.Text.Canonical
import OperationHooks.Text.CanonicalTable
import OperationHooks.Text.Case
import OperationHooks.Text.CaseTable
import OperationHooks.Text.Escape
import OperationHooks.Text.Printable
import OperationHooks.Text.Quoted
import OperationHooks.Text.Ranges
import OperationHooks.Text.Resemblance
import OperationHooks.Text.Shorter
import OperationHooks.Text.Split
import OperationHooks.Text.Suggestion
import OperationHooks.Text.Utf8
import OperationHooks.TypeScript
import OperationHooks.Url.Absolute
import OperationHooks.Url.Domain
import OperationHooks.Url.DomainTable
import OperationHooks.Url.Host
import OperationHooks.Url.Ipv4
import OperationHooks.Url.Ipv6
import OperationHooks.Url.LabelTable
import OperationHooks.Url.Punycode
