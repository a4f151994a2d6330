/-!
# Patterns as trees

The tree keeps what is written in a pattern.  What flags do to it is decided when it
becomes an expression.
-/

namespace FilterChain.Regex

/-- A character of a pattern.  One that is written as two hexadecimal digits stands for a
byte where patterns are not read as Unicode. -/
structure Letter where
  char : Char
  isByte : Bool
deriving DecidableEq, Repr

inductive Flag
  | ignoreCase
  | multiLine
  | dotAll
  | swapGreed
  | unicode
  | crlf
  | ignoreBlanks
deriving DecidableEq, Repr

/-- Flags that are switched on or off, in the order in which they are written. -/
abbrev FlagChange := List (Flag × Bool)

inductive Anchor
  | lineStart
  | lineEnd
  | textStart
  | textEnd
deriving DecidableEq, Repr

/-- Places at the edge of a word.  A half looks at one side only. -/
inductive WordEdge
  | either
  | neither
  | start
  | stop
  | startHalf
  | stopHalf
deriving DecidableEq, Repr

inductive PerlClass
  | digit
  | space
  | word
deriving DecidableEq, Repr

inductive PosixClass
  | alnum | alpha | ascii | blank | cntrl | digit | graph | lower | print | punct | space
  | upper | word | xdigit
deriving DecidableEq, Repr

/-- A class of Unicode characters by name, or by the value of a property. -/
inductive UnicodeQuery
  | letter (c : Char)
  | named (name : List Char)
  | valued (property value : List Char)
deriving DecidableEq, Repr

/-- A class that a single escape denotes. -/
inductive EscapeClass
  | perl (kind : PerlClass) (negated : Bool)
  | unicode (query : UnicodeQuery) (negated : Bool)
deriving DecidableEq, Repr

inductive SetOp
  | intersection
  | difference
  | symmetricDifference
deriving DecidableEq, Repr

/-- What stands between the brackets of a class. -/
inductive ClassSet
  | empty
  | literal (letter : Letter)
  | range (first last : Letter)
  | posix (kind : PosixClass) (negated : Bool)
  | escape (kind : EscapeClass)
  | bracketed (negated : Bool) (set : ClassSet)
  | union (items : List ClassSet)
  | combine (op : SetOp) (left right : ClassSet)
deriving Inhabited

inductive Ast
  | empty
  | flags (change : FlagChange)
  | literal (letter : Letter)
  | dot
  | anchor (kind : Anchor)
  | edge (kind : WordEdge)
  | escape (kind : EscapeClass)
  | bracketed (negated : Bool) (set : ClassSet)
  /-- From `low` to `high` times, or any number of times from `low` on. -/
  | repetition (body : Ast) (low : Nat) (high : Option Nat) (greedy : Bool)
  | capture (index : Nat) (name : Option String) (body : Ast)
  | group (change : FlagChange) (body : Ast)
  | alternation (branches : List Ast)
  | concat (items : List Ast)
deriving Inhabited

namespace ClassSet

/-- The set of some items; a single item stands for itself. -/
def ofItems : List ClassSet → ClassSet
  | [] => empty
  | [item] => item
  | items => union items

mutual

/-- How deep brackets, item lists and set operations are nested. -/
def depth : ClassSet → Nat
  | bracketed _ set => set.depth + 1
  | union items => depthAll items + 1
  | combine _ left right => max left.depth right.depth + 1
  | _ => 0

def depthAll : List ClassSet → Nat
  | [] => 0
  | item :: items => max item.depth (depthAll items)

end

end ClassSet

namespace Ast

def ofItems : List Ast → Ast
  | [] => empty
  | [item] => item
  | items => concat items

def ofBranches : List Ast → Ast
  | [branch] => branch
  | branches => alternation branches

mutual

/-- How deep the parts of a pattern are nested. -/
def depth : Ast → Nat
  | bracketed _ set => set.depth + 1
  | repetition body _ _ _ => body.depth + 1
  | capture _ _ body => body.depth + 1
  | group _ body => body.depth + 1
  | alternation branches => depthAll branches + 1
  | concat items => depthAll items + 1
  | _ => 0

def depthAll : List Ast → Nat
  | [] => 0
  | item :: items => max item.depth (depthAll items)

end

end Ast

end FilterChain.Regex
