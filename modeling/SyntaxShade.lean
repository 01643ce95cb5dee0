import SyntaxShade.Text.Utf8
import SyntaxShade.Text.Quoted
import SyntaxShade.Text.Fields
import SyntaxShade.Text.Case
import SyntaxShade.Unicode.Table
import SyntaxShade.Unicode.Category
import SyntaxShade.Unicode.Script
import SyntaxShade.Unicode.CaseFold
import SyntaxShade.Unicode.Lowercase
import SyntaxShade.Lexeme
import SyntaxShade.Token
import SyntaxShade.Chain
import SyntaxShade.Region
import SyntaxShade.Pattern.Ranges
import SyntaxShade.Pattern.Syntax
import SyntaxShade.Pattern.Class
import SyntaxShade.Pattern.ClassName
import SyntaxShade.Pattern.Tree
import SyntaxShade.Pattern.Reader
import SyntaxShade.Pattern.Error
import SyntaxShade.Pattern.Parse
import SyntaxShade.Pattern.Match
import SyntaxShade.Rule
import SyntaxShade.Grammar
import SyntaxShade.Markup
import SyntaxShade.Terminal
import SyntaxShade.Language
import SyntaxShade.Builtin
import SyntaxShade.Error
import SyntaxShade.Registry
import SyntaxShade.Batch
import SyntaxShade.Document
import SyntaxShade.GrammarFile
import SyntaxShade.Files
import SyntaxShade.Yaml.Text
import SyntaxShade.Yaml.Scan
import SyntaxShade.Yaml.Parse
import SyntaxShade.Yaml.Resolve
import SyntaxShade.Yaml.Node
import SyntaxShade.Yaml.Decode
import SyntaxShade.Yaml.Emit
import SyntaxShade.GrammarFile.Load
import SyntaxShade.Text.JsonString
import SyntaxShade.Command.Options
import SyntaxShade.Command.Log
import SyntaxShade.Command.Run
import SyntaxShade.Main
import SyntaxShade.Proofs.Chain.Path
import SyntaxShade.Proofs.Chain.Merge
import SyntaxShade.Proofs.Chain.Retag
import SyntaxShade.Proofs.Grammar.Build
import SyntaxShade.Proofs.Grammar.Stages
import SyntaxShade.Proofs.Grammar.Partition
import SyntaxShade.Proofs.Grammar.Separation
import SyntaxShade.Proofs.Markup.Recovery
import SyntaxShade.Proofs.Chain.WellFormed
import SyntaxShade.Proofs.Chain.Runs
import SyntaxShade.Proofs.Chain.RulePass
import SyntaxShade.Proofs.Region.CloserSearch
import SyntaxShade.Proofs.Grammar.Lexer
import SyntaxShade.Proofs.Document.Lines
import SyntaxShade.Proofs.Grammar.DeclaredTypes
import SyntaxShade.Proofs.Text.Fields
import SyntaxShade.Proofs.Grammar.RuleText
import SyntaxShade.Proofs.Pattern.Stack
import SyntaxShade.Proofs.Pattern.Mirror
import SyntaxShade.Proofs.Pattern.Suffix
import SyntaxShade.Proofs.Pattern.Wrapping
import SyntaxShade.Proofs.Grammar.Conditions
import SyntaxShade.Proofs.Grammar.Regions
import SyntaxShade.Proofs.GrammarFile.Refusal
import SyntaxShade.Proofs.GrammarFile.Markup
import SyntaxShade.Proofs.Registry.Lookup
import SyntaxShade.Proofs.Batch.Schedule
import SyntaxShade.Proofs.Unicode.Lowercase
import SyntaxShade.Proofs.Text.Lower
import SyntaxShade.Proofs.Registry.Registrations
