import FilterChain.Token.Lexer

/-!
# Filter expressions

An expression is a list of chains, and a chain is a list of filters: the value that
one filter produces is handed to the next.  A text that is no expression has a fault,
which belongs to one of its places.
-/

namespace FilterChain

/-- A constant in a function's argument list. -/
inductive Literal
  | string (text : String)
  | integer (n : Int64)
  | float (x : Float)
deriving DecidableEq, Inhabited

/-- One entry of a subset: a position, or a range that includes its upper end when the
lower one does not count from the end. -/
inductive SubsetEntry
  | index (n : Int64)
  | range (lo hi : Int64)
deriving DecidableEq, Inhabited

/-- One step of a chain. -/
inductive Filter
  /-- Calls a registered function: `name` or `name('a', 1)`. -/
  | function (name : String) (arguments : List Literal)
  /-- Follows one or more fields: `.a.b`. -/
  | property (path : List String)
  /-- Reads one field: `< name`. -/
  | access (name : String)
  /-- Stores the value in the context and passes it on: `> name`. -/
  | assign (name : String)
  /-- Picks positions and ranges: `[0, 2-4]`. -/
  | subset (entries : List SubsetEntry)
  /-- Finds a pattern: `m/find/flags`. -/
  | matching (pattern flags : String)
  /-- Replaces a pattern: `s/find/replace/flags`. -/
  | substitution (pattern replacement flags : String)
deriving DecidableEq, Inhabited

/-- Filters in evaluation order. -/
abbrev Chain := List Filter

/-- Chains in source order. -/
abbrev Tree := List Chain

/-! ## Faults -/

/-- What the parser waits for. -/
inductive Expectation
  | filter
  | separator
  | accessName
  | assignName
  | functionName
  | propertyName
  | argument
  | signedNumber
  | argumentEnd
  | bound
  | entryEnd
  | treeEnd
deriving DecidableEq, Repr

def Expectation.describe : Expectation → String
  | filter => "a filter"
  | separator => "'|' between filters"
  | accessName => "a property name after '<'"
  | assignName => "a property name after '>'"
  | functionName => "a function name"
  | propertyName => "a property name after '.'"
  | argument => "a string or number argument"
  | signedNumber => "a number after the sign"
  | argumentEnd => "',' or ')' in argument list"
  | bound => "an integer in subset"
  | entryEnd => "',' or ']' in subset"
  | treeEnd => "',' or end of input"

/-- Why a text is not an expression. -/
inductive SyntaxFault
  | lexical (fault : LexFault)
  | unexpected (expected : Expectation) (found : Token)
  | emptyArguments
  | bareword (word : String)
  | integerOutOfRange (digits : String)
  | emptySubset
  | fractionalIndex
  | negativeIndex
deriving DecidableEq

structure SyntaxError where
  fault : SyntaxFault
  place : Position
deriving DecidableEq

def SyntaxFault.message : SyntaxFault → String
  | lexical fault => fault.message
  | unexpected expected found => "Expected " ++ expected.describe ++ ", found " ++ found.describe
  | emptyArguments =>
    "Empty argument list; leave out the parentheses to call a function without arguments"
  | bareword word =>
    "Unexpected bareword '" ++ word ++ "' in argument list; quote string arguments"
  | integerOutOfRange digits => "Integer '" ++ digits ++ "' is out of range"
  | emptySubset => "Empty subset; expected an index or a range"
  | fractionalIndex => "Subset indices must be whole numbers"
  | negativeIndex => "Subset indices must not be negative"

def SyntaxError.display (e : SyntaxError) : String :=
  e.fault.message ++ " (line " ++ toString e.place.line ++ ", column " ++
    toString e.place.column ++ ")"

end FilterChain
