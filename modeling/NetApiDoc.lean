import NetApiDoc.Text.Ranges
import NetApiDoc.Text.Word
import NetApiDoc.Text.Digit
import NetApiDoc.Text.Blank
import NetApiDoc.Text.Cased
import NetApiDoc.Text.Lower
import NetApiDoc.Error
import NetApiDoc.Signature.Grammar
import NetApiDoc.Signature.Basic
import NetApiDoc.Signature.Parse
import NetApiDoc.Kind
import NetApiDoc.Text.Dotted
import NetApiDoc.Doc.Node
import NetApiDoc.Reference.Split
import NetApiDoc.Reference.Field
import NetApiDoc.Reference.Link
import NetApiDoc.Domain.Tables
import NetApiDoc.Inventory.Basic
import NetApiDoc.Inventory.Lookup
import NetApiDoc.Inventory.Resolve
import NetApiDoc.Inventory.ModuleIndex
import NetApiDoc.Inventory.Session
import NetApiDoc.Build.DocName
import NetApiDoc.Build.Draft
import NetApiDoc.Build.Fields
import NetApiDoc.Build.Nesting
import NetApiDoc.Build.Project
import NetApiDoc.Build.Read
import NetApiDoc.Build.Registry
import NetApiDoc.Build.Resolve
import NetApiDoc.Describe.Parameters
import NetApiDoc.Describe.Signature
import NetApiDoc.Markup.Block
import NetApiDoc.Markup.Directive
import NetApiDoc.Markup.Inline
import NetApiDoc.Markup.Source
import NetApiDoc.Package.Help
import NetApiDoc.Package.Metadata
import NetApiDoc.Package.Options
import NetApiDoc.Package.Setup
import NetApiDoc.Workload.Catalog
import NetApiDoc.Workload.Datum
import NetApiDoc.Workload.Samples
import NetApiDoc.Workload.Suite
import NetApiDoc.Workload.Routine
import NetApiDoc.Workload.PathPattern
import NetApiDoc.Workload.Coverage
import NetApiDoc.Workload.Report
import NetApiDoc.Workload.SelfCheck
import NetApiDoc.Workload.Fingerprint
import NetApiDoc.Text.Sha256
import NetApiDoc.Text.Binary64
import NetApiDoc.Main
import NetApiDoc.Proofs.Signature.Language
import NetApiDoc.Proofs.Signature.Recognise
import NetApiDoc.Proofs.Signature.Arguments
import NetApiDoc.Proofs.Signature.Reading
import NetApiDoc.Proofs.Build.Nesting
import NetApiDoc.Proofs.Inventory.Lookup
import NetApiDoc.Proofs.Inventory.KindNames
import NetApiDoc.Proofs.Build.Anchors
import NetApiDoc.Proofs.Reference.Parts
import NetApiDoc.Proofs.Reference.Tree
import NetApiDoc.Proofs.Reference.Operators
import NetApiDoc.Proofs.Inventory.Order
import NetApiDoc.Proofs.Signature.Brackets
import NetApiDoc.Proofs.Describe.IndexText
import NetApiDoc.Proofs.Reference.ExplicitTitle
import NetApiDoc.Proofs.Inventory.Typed
import NetApiDoc.Proofs.Inventory.AnyRole
import NetApiDoc.Proofs.Build.Hidden
import NetApiDoc.Proofs.Signature.Shapes
import NetApiDoc.Proofs.Inventory.ModuleIndex
import NetApiDoc.Proofs.Inventory.Clearing
import NetApiDoc.Proofs.Build.Naming
