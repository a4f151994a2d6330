import FilterChain.Main
import FilterChain.Proofs.Command.Check
import FilterChain.Proofs.Evaluation.Calls
import FilterChain.Proofs.Evaluation.Noninterference
import FilterChain.Proofs.Evaluation.Sequence
import FilterChain.Proofs.Evaluation.Threading
import FilterChain.Proofs.Evaluation.Trace
import FilterChain.Proofs.Evaluation.Transparency
import FilterChain.Proofs.Evaluation.Writes
import FilterChain.Proofs.Function.Split
import FilterChain.Proofs.Pattern.References
import FilterChain.Proofs.Pattern.Slashes
import FilterChain.Proofs.Registry.History
import FilterChain.Proofs.Text.Url
import FilterChain.Proofs.Token.Quotation
import FilterChain.Proofs.Token.Section
import FilterChain.Proofs.Token.Tiling
import FilterChain.Proofs.Tree.Concatenation
import FilterChain.Proofs.Tree.Demand
import FilterChain.Proofs.Tree.Hops
import FilterChain.Proofs.Tree.Numeral
import FilterChain.Proofs.Tree.Pipe
import FilterChain.Proofs.Tree.RoundTrip
import FilterChain.Proofs.Tree.Spacing
import FilterChain.Proofs.Tree.Viability
import FilterChain.Proofs.Value.Flags
import FilterChain.Proofs.Value.Json
import FilterChain.Proofs.Value.Matching
import FilterChain.Proofs.Value.Position
import FilterChain.Proofs.Value.Precision
import FilterChain.Proofs.Value.Substitution
