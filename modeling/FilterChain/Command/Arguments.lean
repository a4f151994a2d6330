import FilterChain.Decimal.Reading

/-!
# Command-line arguments

An option starts with two hyphens and its name, or with one hyphen and its letter.  Letters
may stand together, and the last of them may be an option with a value.  A value follows
as the next argument, behind an equals sign, or right behind the letter; as an argument of
its own it does not start with a hyphen, unless it is a single one.  Behind `--` all arguments
are positional.  No option is given twice.
-/

namespace FilterChain.Arguments

/-- An option by name and letter. -/
structure Spec where
  name : String
  letter : Option Char
  takesValue : Bool
deriving DecidableEq, Repr

/-- The positional arguments and the options that were given, with their values. -/
structure Given where
  positional : List String
  options : List (String × Option String)
deriving DecidableEq, Repr

namespace Given

def none : Given := ⟨[], []⟩

def has (given : Given) (name : String) : Bool :=
  (given.options.lookup name).isSome

def value? (given : Given) (name : String) : Option String :=
  (given.options.lookup name).join

/-- Adds an option, unless it was given before. -/
def add? (given : Given) (spec : Spec) (value : Option String) : Option Given :=
  if given.has spec.name then Option.none
  else some { given with options := given.options ++ [(spec.name, value)] }

end Given

/-- Whether an argument is a value or positional, and not an option. -/
def isPlain (argument : String) : Bool :=
  match argument.toList with
  | '-' :: _ :: _ => false
  | _ => true

/-- Reads the letters of an argument.  An option that still waits for its value is given
along. -/
def readLetters (specs : List Spec) (given : Given) :
    List Char → Option (Given × Option Spec)
  | [] => some (given, none)
  | c :: letters =>
    match specs.find? fun spec => spec.letter = some c with
    | none => none
    | some spec =>
      if spec.takesValue then
        match letters with
        | [] => some (given, some spec)
        | '=' :: value =>
          (given.add? spec (some (String.ofList value))).map fun given => (given, none)
        | value =>
          (given.add? spec (some (String.ofList value))).map fun given => (given, none)
      else
        match given.add? spec none with
        | some given => readLetters specs given letters
        | none => none

/-- Reads a name, perhaps with a value behind an equals sign. -/
def readName (specs : List Spec) (given : Given) (text : List Char) :
    Option (Given × Option Spec) :=
  let name := String.ofList (text.takeWhile (· ≠ '='))
  let value? := match text.dropWhile (· ≠ '=') with
    | _ :: value => some (String.ofList value)
    | [] => none
  match specs.find? fun spec => spec.name = name with
  | none => none
  | some spec =>
    match spec.takesValue, value? with
    | true, none => some (given, some spec)
    | true, some value => (given.add? spec (some value)).map fun given => (given, none)
    | false, none => (given.add? spec none).map fun given => (given, none)
    | false, some _ => none

def read (specs : List Spec) (given : Given) : List String → Option Given
  | [] => some given
  | argument :: arguments =>
    match argument.toList with
    | ['-', '-'] => some { given with positional := given.positional ++ arguments }
    | '-' :: c :: rest =>
      let options := if c = '-' then readName specs given rest
        else readLetters specs given (c :: rest)
      match options with
      | none => none
      | some (given, none) => read specs given arguments
      | some (given, some spec) =>
        match arguments with
        | [] => none
        | value :: arguments =>
          if isPlain value then
            match given.add? spec (some value) with
            | some given => read specs given arguments
            | none => none
          else none
    | _ => read specs { given with positional := given.positional ++ [argument] } arguments

end FilterChain.Arguments
