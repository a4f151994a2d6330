import FilterChain.Registry
import FilterChain.Value.Behaviour

/-!
# Evaluation

A chain starts from null and hands the value of each filter to the next.  A value that is
not useful is never handed on.  Chains run one after another on one context, and the first
error ends the evaluation; what was written to the context before it stays.
-/

namespace FilterChain

def Literal.toValue : Literal → Value
  | string text => .string text
  | integer n => .integer n
  | float x => .float x

/-- Stores a value under a name: `> name`. -/
def Context.assign (context : Context) (value : Value) (name : String) : Outcome Value :=
  if value.isTruthy then ⟨.ok value, context.insert name value⟩
  else ⟨.error (.type .assignOfNothing), context⟩

def Registry.call (registry : Registry) (name : String) (arguments : List Literal)
    (previous : Value) (context : Context) : Outcome Value :=
  match registry.find? name with
  | some function => function.call context previous (arguments.map Literal.toValue)
  | none => ⟨.error (.node (.unknownFunction name)), context⟩

variable [Regex.Engine]

namespace Filter

def apply (registry : Registry) (filter : Filter) (previous : Value) (context : Context) :
    Outcome Value :=
  match filter with
  | function name arguments => registry.call name arguments previous context
  | property path => ⟨previous.follow path, context⟩
  | access name => ⟨previous.access name, context⟩
  | assign name => context.assign previous name
  | subset entries => ⟨previous.subset entries, context⟩
  | matching pattern flags => ⟨previous.matching pattern flags, context⟩
  | substitution pattern replacement flags =>
    ⟨previous.substitute pattern replacement flags, context⟩

/-- Refuses a value that is not useful. -/
def requireTruthy (value : Value) (context : Context) : Outcome Value :=
  ⟨if value.isTruthy then .ok value else .error (.type .emptyResult), context⟩

def eval (registry : Registry) (filter : Filter) (previous : Value) (context : Context) :
    Outcome Value :=
  (filter.apply registry previous context).andThen requireTruthy

end Filter

/-- Evaluates the filters of a chain from a value on. -/
def Chain.evalFrom (registry : Registry) (previous : Value) (context : Context) :
    Chain → Outcome Value
  | [] => ⟨.ok previous, context⟩
  | filter :: filters =>
    (filter.eval registry previous context).andThen fun value context =>
      evalFrom registry value context filters

def Chain.eval (registry : Registry) (chain : Chain) (context : Context) : Outcome Value :=
  chain.evalFrom registry .null context

/-- Evaluates chains in order, and gives one value for each. -/
def Tree.eval (registry : Registry) (context : Context) : Tree → Outcome (List Value)
  | [] => ⟨.ok [], context⟩
  | chain :: chains =>
    (Chain.eval registry chain context).andThen fun value context =>
      (Tree.eval registry context chains).map (value :: ·)

/-- Parses and evaluates a text.  A text that does not parse leaves the context alone. -/
def execute (registry : Registry) (text : String) (context : Context) : Outcome (List Value) :=
  match Tree.parse text with
  | .ok tree => tree.eval registry context
  | .error e => ⟨.error (.ofSyntax e), context⟩

end FilterChain
