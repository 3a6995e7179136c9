import SchemaSet.Catalog
import SchemaSet.CommandLine
import SchemaSet.Error
import SchemaSet.FileSystem
import SchemaSet.FileSystem.Edit
import SchemaSet.Index.Basic
import SchemaSet.Index.Builder
import SchemaSet.Index.Policy
import SchemaSet.Journal
import SchemaSet.Json
import SchemaSet.Limits
import SchemaSet.Loading
import SchemaSet.Location
import SchemaSet.Main
import SchemaSet.Markup.Attribute
import SchemaSet.Markup.Document
import SchemaSet.Markup.Entity
import SchemaSet.Markup.Event
import SchemaSet.Markup.Fault
import SchemaSet.Markup.RootScan
import SchemaSet.Markup.Tag
import SchemaSet.Name.Lexical
import SchemaSet.Name.Qualified
import SchemaSet.Name.Scope
import SchemaSet.Notice
import SchemaSet.OrderedMap
import SchemaSet.Path
import SchemaSet.Proofs.Agenda
import SchemaSet.Proofs.CanonicalPath
import SchemaSet.Proofs.CatalogClaims
import SchemaSet.Proofs.CatalogReading
import SchemaSet.Proofs.Compiled
import SchemaSet.Proofs.Completion
import SchemaSet.Proofs.DepthFirst
import SchemaSet.Proofs.Descent
import SchemaSet.Proofs.Directory
import SchemaSet.Proofs.Imports
import SchemaSet.Proofs.Listing
import SchemaSet.Proofs.Overwriting
import SchemaSet.Proofs.Reachability
import SchemaSet.Proofs.Rearrangement
import SchemaSet.Proofs.References
import SchemaSet.Proofs.Renaming
import SchemaSet.Proofs.Revision
import SchemaSet.Proofs.Run
import SchemaSet.Proofs.SymbolTable
import SchemaSet.Report
import SchemaSet.Resolution
import SchemaSet.Rule
import SchemaSet.Schema.Compiler
import SchemaSet.Schema.Component
import SchemaSet.Schema.Item
import SchemaSet.Schema.Reference
import SchemaSet.Schema.Table
import SchemaSet.Schema.Traversal
import SchemaSet.Text.Blank
import SchemaSet.Text.Decomposition
import SchemaSet.Text.Mark
import SchemaSet.Text.Normal
import SchemaSet.Text.Pieces
import SchemaSet.Text.Quoted
import SchemaSet.Text.Table
import SchemaSet.Text.Unprintable
import SchemaSet.Text.Utf8
import SchemaSet.Url.Basic
import SchemaSet.Url.Domain
import SchemaSet.Url.Domain.Direction
import SchemaSet.Url.Domain.Folding
import SchemaSet.Url.Domain.Joining
import SchemaSet.Url.Domain.Punycode
import SchemaSet.Url.FilePath
import SchemaSet.Url.Host
import SchemaSet.Url.Parser
import SchemaSet.Url.Percent
import SchemaSet.Proofs.Termination
import SchemaSet.Proofs.Redefinition
import SchemaSet.Proofs.RootTag
import SchemaSet.Proofs.Blocks
import SchemaSet.Proofs.Indexed
import SchemaSet.Proofs.IndexedImports
import SchemaSet.Proofs.Faults
import SchemaSet.Proofs.Curtailment
import SchemaSet.Proofs.Strictness
import SchemaSet.Proofs.Tightening
import SchemaSet.Proofs.Unlocated
import SchemaSet.Proofs.Excess
import SchemaSet.Proofs.Bounds
import SchemaSet.Proofs.Obstruction
import SchemaSet.Proofs.Mismatch
import SchemaSet.Proofs.Nesting
import SchemaSet.Proofs.Inconsistency
import SchemaSet.Proofs.Records
import SchemaSet.Proofs.Inheritance
import SchemaSet.Proofs.Requests
import SchemaSet.Proofs.Contention
import SchemaSet.Proofs.Walks
import SchemaSet.Proofs.Construction
import SchemaSet.Proofs.Causes
import SchemaSet.Proofs.Addition
import SchemaSet.Proofs.Retention
import SchemaSet.Proofs.Dependence
import SchemaSet.Proofs.Enlargement
import SchemaSet.Proofs.CatalogTermination
import SchemaSet.Proofs.Decoding
import SchemaSet.Proofs.CatalogContents
import SchemaSet.Proofs.Written
import SchemaSet.Proofs.Scoping
import SchemaSet.Proofs.AttributeCollision
import SchemaSet.Proofs.Spacing
import SchemaSet.Proofs.SingleRoot
import SchemaSet.Proofs.FileUrl
import SchemaSet.Proofs.SystemIdentifier
