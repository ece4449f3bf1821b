import Verdict.Text.Blank
import Verdict.Text.Alphanumeric
import Verdict.Text.Case
import Verdict.Text.Quoted
import Verdict.Text.Lines
import Verdict.Decimal.Style
import Verdict.Decimal.Numeral
import Verdict.Decimal.Scaled
import Verdict.Parser.Message
import Verdict.Json.Equality
import Verdict.Json.Writer
import Verdict.Json.Reader
import Verdict.Json.Pointer
import Verdict.Path.Parser
import Verdict.Path.Selection
import Verdict.Path.Memo
import Verdict.Resolver
import Verdict.Literal
import Verdict.Settings
import Verdict.Documents
import Verdict.Function.Registry
import Verdict.Rule.Binding
import Verdict.Evaluation.Batch
import Verdict.Main
import Verdict.Proofs.Path.Reading
import Verdict.Proofs.Path.Longest
import Verdict.Proofs.Path.Meaning
import Verdict.Proofs.Path.Memo
import Verdict.Proofs.Resolver.Memo
import Verdict.Proofs.Evaluation.Cache
import Verdict.Proofs.Evaluation.Builtin
import Verdict.Proofs.Evaluation.Agreement
import Verdict.Proofs.Evaluation.Journal
import Verdict.Proofs.Evaluation.Callback
import Verdict.Proofs.Parser.Shortening
import Verdict.Proofs.Rule.Recursion
import Verdict.Proofs.Rule.Layout
import Verdict.Proofs.Rule.Number
import Verdict.Proofs.Rule.Token
import Verdict.Proofs.Rule.Follow
import Verdict.Proofs.Rule.Complete
import Verdict.Proofs.Rule.Parse
import Verdict.Proofs.Parser.Alike
import Verdict.Proofs.Rule.CalledNot
import Verdict.Proofs.Rule.Sound
import Verdict.Proofs.Decimal.Bits
import Verdict.Proofs.Rule.Printing
import Verdict.Proofs.Decimal.Exact
import Verdict.Proofs.Decimal.Written
import Verdict.Proofs.Evaluation.Paths
import Verdict.Proofs.Evaluation.Lookups
import Verdict.Proofs.Evaluation.Lazy
import Verdict.Proofs.Rule.Normal
import Verdict.Proofs.Rule.Rendering
import Verdict.Proofs.Decimal.Same
import Verdict.Proofs.Evaluation.Equality
import Verdict.Proofs.Function.Registration
import Verdict.Proofs.Rule.Extension
import Verdict.Proofs.Evaluation.Interchange
import Verdict.Proofs.Evaluation.Batch
import Verdict.Proofs.Evaluation.Laws
import Verdict.Proofs.Path.Definite
import Verdict.Proofs.Parser.Ends
import Verdict.Proofs.Rule.Contents
import Verdict.Proofs.Evaluation.Mentions
import Verdict.Proofs.Rule.Resolvable
import Verdict.Proofs.Rule.Calling
import Verdict.Proofs.Path.Places
import Verdict.Proofs.Path.Order
import Verdict.Proofs.Decimal.Finite
import Verdict.Proofs.Rule.Finite
import Verdict.Proofs.Json.Equivalence
import Verdict.Proofs.Rule.Remainder
import Verdict.Proofs.Resolver.Addresses
import Verdict.Proofs.Rule.Binding
import Verdict.Proofs.Evaluation.Arrays
import Verdict.Proofs.Documents
import Verdict.Proofs.Command
