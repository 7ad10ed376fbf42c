import MapperGen.Annotation.Directive
import MapperGen.Annotation.Tag
import MapperGen.Command.Arguments
import MapperGen.Command.Fault
import MapperGen.Command.Generate
import MapperGen.Command.Help
import MapperGen.Command.Run
import MapperGen.Config.Basic
import MapperGen.Config.LogLevel
import MapperGen.Config.Read
import MapperGen.Declaration.Basic
import MapperGen.Declaration.Extract
import MapperGen.Failure
import MapperGen.Files.Access
import MapperGen.Files.Path
import MapperGen.Files.Store
import MapperGen.Json.Basic
import MapperGen.Json.Print
import MapperGen.Json.Read
import MapperGen.Main
import MapperGen.Output.External
import MapperGen.Output.Generated
import MapperGen.Output.Layout
import MapperGen.Output.LiteralHead
import MapperGen.Output.OwnedType
import MapperGen.Output.Render
import MapperGen.Spec.Assembly
import MapperGen.Spec.Basic
import MapperGen.Spec.Json
import MapperGen.Syntax.Ahead
import MapperGen.Syntax.Ast
import MapperGen.Syntax.Grammar.Attribute
import MapperGen.Syntax.Grammar.Expression
import MapperGen.Syntax.Grammar.File
import MapperGen.Syntax.Grammar.Generics
import MapperGen.Syntax.Grammar.Item
import MapperGen.Syntax.Grammar.Path
import MapperGen.Syntax.Grammar.Pattern
import MapperGen.Syntax.Grammar.Rules
import MapperGen.Syntax.Grammar.Signature
import MapperGen.Syntax.Grammar.Statement
import MapperGen.Syntax.Grammar.Type
import MapperGen.Syntax.Literal
import MapperGen.Syntax.Location
import MapperGen.Syntax.Parser
import MapperGen.Syntax.Print
import MapperGen.Syntax.Scan
import MapperGen.Syntax.Token
import MapperGen.Syntax.Tree
import MapperGen.Text.Basic
import MapperGen.Text.CharClass
import MapperGen.Text.Escape
import MapperGen.Text.Table
import MapperGen.Text.Utf8
import MapperGen.Toml.Document
import MapperGen.Toml.Quoted
import MapperGen.Toml.Scalar
import MapperGen.Toml.Value
import MapperGen.Proofs.Annotation.DirectiveGrammar
import MapperGen.Proofs.Spec.Assembled
import MapperGen.Proofs.Spec.Correspondence
import MapperGen.Proofs.Syntax.Advance
import MapperGen.Proofs.Syntax.GrammarAdvance
import MapperGen.Proofs.Syntax.TraitNames
import MapperGen.Proofs.Declaration.Shape
import MapperGen.Proofs.Spec.Rejection
import MapperGen.Proofs.Command.GenerateRun
import MapperGen.Proofs.Syntax.Nesting
import MapperGen.Proofs.Syntax.ScanLocality
import MapperGen.Proofs.Annotation.DirectiveRoundTrip
import MapperGen.Proofs.Text.Fields
import MapperGen.Proofs.Text.Reflow
import MapperGen.Proofs.Output.Tidy
import MapperGen.Proofs.Syntax.RespacedLiteral
import MapperGen.Proofs.Syntax.RespacedScan
import MapperGen.Proofs.Syntax.Reading
import MapperGen.Proofs.Syntax.FileStart
import MapperGen.Proofs.Output.Formatter
import MapperGen.Proofs.Syntax.TraitItems
import MapperGen.Proofs.Syntax.NestingParts
import MapperGen.Proofs.Syntax.NodeEdge
import MapperGen.Proofs.Syntax.Settling
import MapperGen.Proofs.Syntax.TypeNode
import MapperGen.Proofs.Syntax.ClauseNode
import MapperGen.Proofs.Syntax.TraitNode
import MapperGen.Proofs.Syntax.StandAlone
import MapperGen.Proofs.Syntax.NodeText
import MapperGen.Proofs.Syntax.TraitPlace
import MapperGen.Proofs.Declaration.FirstViolation
import MapperGen.Proofs.Declaration.Verbatim
import MapperGen.Proofs.Json.RoundTrip
import MapperGen.Proofs.Spec.Encoding
import MapperGen.Proofs.Files.FileMap
import MapperGen.Proofs.Command.Regeneration
import MapperGen.Proofs.Output.EntryLines
import MapperGen.Proofs.Output.Placeholder
import MapperGen.Proofs.Syntax.TokenEnd
import MapperGen.Proofs.Syntax.Lexes
import MapperGen.Proofs.Output.Pieces
import MapperGen.Proofs.Output.Exchange
import MapperGen.Proofs.Output.IgnoredFields
import MapperGen.Proofs.Output.OwnedType
import MapperGen.Proofs.Output.LiteralHead
import MapperGen.Proofs.Output.Composition
import MapperGen.Proofs.Output.CanonicalLayout
import MapperGen.Proofs.Output.NormalForm
import MapperGen.Proofs.Annotation.Redistribution
import MapperGen.Proofs.Annotation.DocSpelling
import MapperGen.Proofs.Annotation.Respelling
import MapperGen.Proofs.Spec.Redocumented
import MapperGen.Proofs.Config.Verbosity
