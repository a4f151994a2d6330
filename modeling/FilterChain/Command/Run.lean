import FilterChain.Error
import FilterChain.Evaluation
import FilterChain.Json.Reader
import FilterChain.Tree.Outline
import FilterChain.Value.Json

/-!
# Running and checking expressions

An expression is run with the built-in functions and, where there is an input, with the
function `stdin` that gives it.  The context may start from JSON and may hold a request,
which the final context does not show.  An expression that is checked is parsed and not run: the
answer is how many chains it has, or the tree.

The text of an expression may be at fault, or its evaluation, or what was given along with it.
-/

namespace FilterChain

/-! ## Errors -/

inductive CommandError
  | filter (e : FilterError)
  /-- A text that was given is no JSON document, for a reason. -/
  | json (reason : String)
  /-- The input is not UTF-8. -/
  | input
  /-- The initial context is a JSON value of another type than object. -/
  | context (typeName : String)
  /-- Evaluation took longer than so many microseconds. -/
  | timeout (limit : Nat)
deriving DecidableEq

def CommandError.message : CommandError → String
  | filter e => "Filter error: " ++ e.display
  | json reason => "Invalid JSON: " ++ reason
  | input => "IO error: stream did not contain valid UTF-8"
  | context typeName => "The initial context must be a JSON object, got " ++ typeName
  | timeout limit =>
    "Filter evaluation did not complete within " ++ toString (limit / 1000) ++ " ms"

/-! ## Checks -/

structure CheckOptions where
  expression : String
  /-- Asks for the tree. -/
  tree : Bool

inductive CheckResult
  | valid (chains : Nat)
  | tree (parsed : Tree)

/-- The chains of an expression, or the fault in its text. -/
def check (expression : String) : Except CommandError Tree :=
  (Tree.parse expression).mapError fun e => .filter (.ofSyntax e)

def CheckOptions.check (options : CheckOptions) : Except CommandError CheckResult :=
  (FilterChain.check options.expression).map fun tree =>
    if options.tree then .tree tree else .valid tree.length

def CheckResult.report : CheckResult → String
  | valid chains =>
    "Syntax is valid (" ++ toString chains ++ " chain" ++ (if chains = 1 then "" else "s") ++ ")"
  | tree parsed => (Outline.ofTree parsed).write

/-! ## Runs -/

structure RunOptions where
  expression : String
  input : Option String
  /-- JSON text of the request. -/
  request : Option String
  /-- JSON text of the initial context. -/
  context : Option String

/-- The values of the chains and the final context. -/
structure RunOutput where
  values : List Json
  context : Json

def Value.read (text : String) : Except CommandError Value :=
  match Json.read text with
  | .ok json => .ok (.ofJson json)
  | .error fault => .error (.json fault.message)

/-- The context that JSON text of an object describes. -/
def Context.read (text : String) : Except CommandError Context := do
  match ← Value.read text with
  | .object fields => return Dictionary.ofEntries fields
  | other => throw (.context other.typeName)

def Function.ofInput (input : String) : Function :=
  .sync fun context _ _ => ⟨.ok (.string input), context⟩

namespace RunOptions

/-- The functions of a run: the built-in ones, and one that gives the input. -/
def registry (options : RunOptions) : Except RegistryFault Registry :=
  match options.input with
  | some input => Registry.standard.register "stdin" (.ofInput input)
  | none => .ok Registry.standard

/-- The context that evaluation starts from. -/
def initial (options : RunOptions) : Except CommandError Context := do
  let context ← match options.context with
    | some text => Context.read text
    | none => .ok Dictionary.empty
  match options.request with
  | some text => return context.insert requestKey (← Value.read text)
  | none => return context

def run [Regex.Engine] (options : RunOptions) : Except CommandError RunOutput := do
  let registry ← options.registry.mapError fun fault => .filter (.generic fault)
  let context ← options.initial
  let outcome := execute registry options.expression context
  match outcome.result with
  | .ok values => return ⟨values.map Value.toJson, outcome.context.dropRequest.toValue.toJson⟩
  | .error e => throw (.filter e)

end RunOptions

/-- Both parts of an output as one document. -/
def RunOutput.toJson (output : RunOutput) : Json :=
  .object [("context", output.context), ("values", .array output.values)]

end FilterChain
