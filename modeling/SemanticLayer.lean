import SemanticLayer.Anchor
import SemanticLayer.Connectivity
import SemanticLayer.Generation
import SemanticLayer.JoinGraph
import SemanticLayer.Json
import SemanticLayer.LookML.Composition
import SemanticLayer.LookML.Document
import SemanticLayer.LookML.Explore
import SemanticLayer.LookML.Layout
import SemanticLayer.LookML.Literal
import SemanticLayer.LookML.Record
import SemanticLayer.LookML.View
import SemanticLayer.Metric
import SemanticLayer.MetricCatalog
import SemanticLayer.MetricCatalog.Measures
import SemanticLayer.MetricError
import SemanticLayer.Model
import SemanticLayer.ModelSet
import SemanticLayer.ModelSet.Link
import SemanticLayer.Number.Binary64
import SemanticLayer.Order.SortedSet
import SemanticLayer.Order.Sorting
import SemanticLayer.Project
import SemanticLayer.Report
import SemanticLayer.Requirement
import SemanticLayer.Sha256
import SemanticLayer.Text.Blank
import SemanticLayer.Text.Category
import SemanticLayer.Text.Identifier
import SemanticLayer.Text.TitleCase
import SemanticLayer.Yaml.Block
import SemanticLayer.Yaml.Plain
import SemanticLayer.Yaml.Quoted
import SemanticLayer.Yaml.Tag
import SemanticLayer.Yaml.Token
import SemanticLayer.Yaml.Document
import SemanticLayer.Yaml.Value
import SemanticLayer.Source.Conversion
import SemanticLayer.Yaml.Decode
import SemanticLayer.Source.Decoding
import SemanticLayer.Source.Reading
import SemanticLayer.Toml.Document
import SemanticLayer.Settings
import SemanticLayer.Settings.Decoding
import SemanticLayer.FileTree
import SemanticLayer.FileTree.Path
import SemanticLayer.FileTree.Place
import SemanticLayer.Settings.Loading
import SemanticLayer.Source.Loading
import SemanticLayer.CommandLine.Arguments
import SemanticLayer.CommandLine.Listing
import SemanticLayer.CommandLine.Plan
import SemanticLayer.Main
import SemanticLayer.Proofs.Order.Lookup
import SemanticLayer.Proofs.ModelSet.Ownership
import SemanticLayer.Proofs.ModelSet.Chain
import SemanticLayer.Proofs.JoinGraph.Distance
import SemanticLayer.Proofs.JoinGraph.Neighbourhood
import SemanticLayer.Proofs.Attempt
import SemanticLayer.Proofs.MetricCatalog.Definition
import SemanticLayer.Proofs.MetricCatalog.Walk
import SemanticLayer.Proofs.Order.Union
import SemanticLayer.Proofs.Requirement
import SemanticLayer.Proofs.MetricCatalog.Measures
import SemanticLayer.Proofs.LookML.Reference
import SemanticLayer.Proofs.LookML.Composition
import SemanticLayer.Proofs.LookML.ValidName
import SemanticLayer.Proofs.LookML.ComposedText
import SemanticLayer.Proofs.Generation.Outcome
import SemanticLayer.Proofs.Generation.Exposure
import SemanticLayer.Proofs.Generation.CrossReference
import SemanticLayer.Proofs.Anchor
import SemanticLayer.Proofs.Generation.Validity
import SemanticLayer.Proofs.Generation.Failure
import SemanticLayer.Proofs.MetricError
import SemanticLayer.Proofs.Order.Sorting
import SemanticLayer.Proofs.Generation.DeclarationOrder
import SemanticLayer.Proofs.Generation.TimeOffset
import SemanticLayer.Proofs.Generation.Accounting
import SemanticLayer.Proofs.Sql.Expression
import SemanticLayer.Proofs.Sql.Token
import SemanticLayer.Proofs.Sql.Substitution
import SemanticLayer.Proofs.Sql.Grammar
import SemanticLayer.Proofs.Sql.Parse
import SemanticLayer.Proofs.Sql.Insertion
import SemanticLayer.Proofs.MetricCatalog.Value
import SemanticLayer.Proofs.LookML.ComposedValue
import SemanticLayer.Proofs.JoinGraph.EmissionOrder
import SemanticLayer.Proofs.ModelSet.LinkEnd
import SemanticLayer.Proofs.Generation.FieldName
import SemanticLayer.Proofs.Generation.JoinOrder
import SemanticLayer.Proofs.Generation.JoinCondition
import SemanticLayer.Proofs.Generation.Closure
import SemanticLayer.Proofs.Generation.Lookup
import SemanticLayer.Proofs.JoinGraph.HopBound
import SemanticLayer.Proofs.MetricCatalog.Extension
import SemanticLayer.Proofs.Generation.Growth
import SemanticLayer.Proofs.Generation.AddedMetrics
import SemanticLayer.Proofs.Generation.Frame
import SemanticLayer.Proofs.Generation.HopBound
import SemanticLayer.Proofs.LookML.Layout
import SemanticLayer.Proofs.LookML.Property
import SemanticLayer.Proofs.LookML.Explore
import SemanticLayer.Proofs.LookML.Document
import SemanticLayer.Proofs.Order.Stability
import SemanticLayer.Proofs.ModelSet.LinkOrder
import SemanticLayer.Proofs.ModelSet.ForeignKey
import SemanticLayer.Proofs.JoinGraph.LeastPath
import SemanticLayer.Proofs.Text.ByteOrder
import SemanticLayer.Proofs.JoinGraph.Mirror
import SemanticLayer.Proofs.FileTree.Node
import SemanticLayer.Proofs.FileTree.Writing
import SemanticLayer.Proofs.FileTree.FileList
import SemanticLayer.Proofs.CommandLine.Preparation
import SemanticLayer.Proofs.CommandLine.Delivery
import SemanticLayer.Proofs.CommandLine.Validation
import SemanticLayer.Proofs.ModelSet.Conflict
import SemanticLayer.Proofs.MetricCatalog.Failure
import SemanticLayer.Proofs.LookML.Agreement
import SemanticLayer.Proofs.LookML.AnchoredRatio
import SemanticLayer.Proofs.LookML.DerivedComposition
import SemanticLayer.Proofs.LookML.RequiredField
import SemanticLayer.Proofs.Requirement.History
import SemanticLayer.Proofs.Text.Substitution
import SemanticLayer.Proofs.Generation.FirstDefinition
import SemanticLayer.Proofs.Source.Conversion
import SemanticLayer.Proofs.Source.Loading
import SemanticLayer.Proofs.LookML.OneLineSql
import SemanticLayer.Proofs.LookML.QuotedText
import SemanticLayer.Proofs.Settings.Template
import SemanticLayer.Proofs.Settings.OutputDirectory
import SemanticLayer.Proofs.Json.Compact
import SemanticLayer.Proofs.LookML.Record
import SemanticLayer.Proofs.Sha256
import SemanticLayer.Proofs.Generation.Fingerprint
import SemanticLayer.Proofs.Text.Trim
import SemanticLayer.Proofs.Source.Relation
import SemanticLayer.Proofs.LookML.FieldList
import SemanticLayer.Proofs.MetricCatalog.CallStack
