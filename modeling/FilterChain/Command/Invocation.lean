import FilterChain.Command.Arguments
import FilterChain.Command.Run
import FilterChain.Regex.Matches

/-!
# The program

The arguments name one of three commands: `run` evaluates an expression on the input and
writes values and context as JSON, `check` parses one, and `functions` lists the built-in
functions.  A failure is written to the error stream and has exit code 1; arguments that make
no command have exit code 2.
-/

namespace FilterChain

inductive Invocation
  | run (options : RunOptions) (pretty : Bool)
  | check (options : CheckOptions)
  | functions
  | version

/-- What the program leaves behind. -/
structure Response where
  code : Nat
  output : String
  errors : String

namespace Invocation

def runSpecs : List Arguments.Spec :=
  [⟨"input", some 'i', true⟩, ⟨"request", some 'r', true⟩, ⟨"context", some 'c', true⟩,
    ⟨"pretty", some 'p', false⟩, ⟨"timeout-ms", none, true⟩]

def checkSpecs : List Arguments.Spec := [⟨"tree", none, false⟩]

/-- A limit in milliseconds is a count of 64 bits. -/
def isLimit (text : String) : Bool := (Decimal.count? text.toList).isSome

def readRun (arguments : List String) : Option Invocation := do
  let given ← Arguments.read runSpecs .none arguments
  match given.positional with
  | [expression] =>
    if ((given.value? "timeout-ms").map isLimit).getD true then
      let options := ⟨expression, given.value? "input", given.value? "request",
        given.value? "context"⟩
      some (run options (given.has "pretty"))
    else none
  | _ => none

def readCheck (arguments : List String) : Option Invocation := do
  let given ← Arguments.read checkSpecs .none arguments
  match given.positional with
  | [expression] => some (check ⟨expression, given.has "tree"⟩)
  | _ => none

def readFunctions (arguments : List String) : Option Invocation := do
  let given ← Arguments.read [] .none arguments
  if given.positional.isEmpty then some functions else none

/-- The command that arguments name. -/
def read : List String → Option Invocation
  | [] => none
  | command :: arguments =>
    match command with
    | "run" => readRun arguments
    | "check" => readCheck arguments
    | "functions" => readFunctions arguments
    | "--version" => some version
    | command =>
      match command.toList with
      | '-' :: 'V' :: _ => some version
      | _ => none

/-- Whether the program reads its input: only where an expression is run without one. -/
def readsInput : Invocation → Bool
  | run options _ => options.input.isNone
  | _ => false

end Invocation

namespace Response

def ofOutput (output : String) : Response := ⟨0, output ++ "\n", ""⟩

def ofError (e : CommandError) : Response := ⟨1, "", e.message⟩

def ofResult (result : Except CommandError String) : Response :=
  match result with
  | .ok output => ofOutput output
  | .error e => ofError e

end Response

namespace Invocation

/-- Runs an expression; `input` is absent where the input is not UTF-8. -/
def runOn (options : RunOptions) (pretty : Bool) (input : Option String) :
    Except CommandError String := do
  let given ← match options.input, input with
    | some given, _ => .ok given
    | none, some text => .ok text
    | none, none => .error .input
  let output ← { options with input := some given }.run
  return if pretty then output.toJson.pretty else output.toJson.compact

/-- What the program does on an input. -/
def respond (invocation : Invocation) (input : Option String) : Response :=
  match invocation with
  | run options pretty => .ofResult (runOn options pretty input)
  | check options => .ofResult (options.check.map CheckResult.report)
  | functions => ⟨0, String.join (Registry.standard.keys.map (· ++ "\n")), ""⟩
  | version => .ofOutput "pipette 0.1.0"

end Invocation

end FilterChain
