import FilterChain.Proofs.Evaluation.Faults
import FilterChain.Proofs.Value.Matching

/-!
# Substitutions in arrays

The pattern is compiled once for the whole array, and then each item is replaced as it would be
alone.  One item that is not a string refuses all of them, and a pattern that does not compile is
refused before any item is looked at.
-/

namespace FilterChain

namespace Value

section

variable [Regex.Engine] {pattern flags : String} {compiled : Pattern} {fault : NodeFault}

end

end Value

end FilterChain
