import FilterChain.Tree.Parser

/-!
# Errors

An expression fails to parse, or a filter of it fails: because of the filter itself,
or because of the type of a value.  Registering a function can fail too.  A function
that an embedder registers may report an error of any of these kinds in its own words.
-/

namespace FilterChain

inductive ErrorKind
  | parse
  | node
  | type
  | generic
deriving DecidableEq, Repr

inductive ParseFault
  | source (fault : SyntaxFault)
  | custom (message : String)
deriving DecidableEq

inductive NodeFault
  | unknownFunction (name : String)
  | propertyOfNothing
  /-- The path up to the field that is missing or not useful. -/
  | missingProperty (path : List String)
  | unsupportedFlag (flag : Char)
  /-- The engine refuses a pattern for a reason. -/
  | invalidPattern (pattern reason : String)
  | custom (message : String)
deriving DecidableEq

inductive TypeFault
  | accessOfNothing
  | missingField
  | assignOfNothing
  | subsetOfOther
  | rangeOfOther
  | matchOfOther
  | substitutionOfOther
  | emptyResult
  | getOfNothing
  | getOfNoName
  | splitOfOther
  | joinOfOther
  | noRequest
  | custom (message : String)
deriving DecidableEq

inductive RegistryFault
  | emptyName
  | duplicateName (name : String)
  | custom (message : String)
deriving DecidableEq

inductive FilterError
  | parse (fault : ParseFault) (place : Position)
  | node (fault : NodeFault)
  | type (fault : TypeFault)
  | generic (fault : RegistryFault)
deriving DecidableEq

def ParseFault.message : ParseFault → String
  | source fault => fault.message
  | custom message => message

def NodeFault.message : NodeFault → String
  | unknownFunction name => "Function '" ++ name ++ "' does not exist in map."
  | propertyOfNothing => "Can't extract property from null value."
  | missingProperty path => "Property '" ++ String.intercalate "." path ++ "' is null."
  | unsupportedFlag flag =>
    "Unsupported regular expression flag '" ++ String.singleton flag ++ "'."
  | invalidPattern pattern reason =>
    "Invalid regular expression '" ++ pattern ++ "': " ++ reason
  | custom message => message

def TypeFault.message : TypeFault → String
  | accessOfNothing =>
    "The value from which to access the property must be useful. (not null, truthy.)"
  | missingField =>
    "The returned value from the property access must be useful. (not null, truthy.)"
  | assignOfNothing => "The value in the assignment must be useful. (not null, truthy.)"
  | subsetOfOther => "The value piped to a subset must be an array."
  | rangeOfOther => "A range can only be taken from an array."
  | matchOfOther => "Matching requires a string."
  | substitutionOfOther => "Substitution requires a string or array."
  | emptyResult => "Result of filter operation was null"
  | getOfNothing => "A previous value must be present in order to use \x60get\x60."
  | getOfNoName => "Property must be specified."
  | splitOfOther => "Can't split on non-string."
  | joinOfOther => "Can't join a non-array."
  | noRequest => "No request object is available in the context."
  | custom message => message

def RegistryFault.message : RegistryFault → String
  | emptyName => "You must specify a name for the function to register."
  | duplicateName name => "A function with the name " ++ name ++ " is already defined."
  | custom message => message

namespace FilterError

def ofSyntax (e : SyntaxError) : FilterError :=
  parse (.source e.fault) e.place

def kind : FilterError → ErrorKind
  | parse _ _ => .parse
  | node _ => .node
  | type _ => .type
  | generic _ => .generic

/-- The message without the kind of error and without a place. -/
def message : FilterError → String
  | parse fault _ => fault.message
  | node fault => fault.message
  | type fault => fault.message
  | generic fault => fault.message

/-- The message behind its kind or place. -/
def display : FilterError → String
  | parse fault place =>
    "Line " ++ toString place.line ++ ", col " ++ toString place.column ++ ": " ++ fault.message
  | node fault => "NodeError: " ++ fault.message
  | type fault => "TypeError: " ++ fault.message
  | generic fault => "FilterError: " ++ fault.message

end FilterError

end FilterChain
