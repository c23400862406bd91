import SchemaCheck.Matcher
import SchemaCheck.Decode.OptionsText
import SchemaCheck.Files.Directory
import SchemaCheck.Main
import SchemaCheck.Proofs.Repair
import SchemaCheck.Proofs.EqualValues
import SchemaCheck.Proofs.Equality
import SchemaCheck.Proofs.AlikeNodes
import SchemaCheck.Proofs.Compilation
import SchemaCheck.Proofs.Spelling
import SchemaCheck.Proofs.Loosening
import SchemaCheck.Proofs.Indifference
import SchemaCheck.Proofs.CheckRuns
import SchemaCheck.Proofs.WrittenForm
import SchemaCheck.Proofs.LineByLine
import SchemaCheck.Proofs.Loading
import SchemaCheck.Proofs.Reports
import SchemaCheck.Proofs.Grammar
import SchemaCheck.Proofs.Lexemes
import SchemaCheck.Proofs.FirstValue
import SchemaCheck.Proofs.Shapes
import SchemaCheck.Proofs.DepthFirst
import SchemaCheck.Proofs.ObjectSchemas
import SchemaCheck.Proofs.OwnText
import SchemaCheck.Proofs.Evidence
import SchemaCheck.Proofs.IntegerRanges
import SchemaCheck.Proofs.DecimalText
import SchemaCheck.Proofs.NumberText
import SchemaCheck.Proofs.KeyText
import SchemaCheck.Proofs.WrongKeys
import SchemaCheck.Proofs.ValueText
import SchemaCheck.Proofs.Convexity
import SchemaCheck.Proofs.MatcherRuns
import SchemaCheck.Proofs.CompiledForms
import SchemaCheck.Proofs.Selection
import SchemaCheck.Proofs.PointerBack
import SchemaCheck.Proofs.Presence
import SchemaCheck.Proofs.Rendering
