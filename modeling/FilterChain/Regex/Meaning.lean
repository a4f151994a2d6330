import FilterChain.Regex.Engine
import FilterChain.Regex.Expr
import FilterChain.Regex.Reader
import FilterChain.Unicode.Query
import FilterChain.Unicode.Folding

/-!
# Meaning of patterns

A pattern becomes an expression when its flags are applied.  Flags count up to the end of the
group that they stand in, also for its later branches.  Where a pattern is not read as Unicode
it may match ASCII characters only, so that every class with other members is refused.
-/

namespace FilterChain.Regex

namespace Flags

def set (flags : Flags) (flag : Flag) (on : Bool) : Flags :=
  match flag with
  | .ignoreCase => { flags with ignoreCase := on }
  | .multiLine => { flags with multiLine := on }
  | .dotAll => { flags with dotAll := on }
  | .swapGreed => { flags with swapGreed := on }
  | .unicode => { flags with unicode := on }
  | .crlf => { flags with crlf := on }
  | .ignoreBlanks => flags

def change (flags : Flags) (change : FlagChange) : Flags :=
  change.foldl (fun flags entry => flags.set entry.1 entry.2) flags

end Flags

/-! ## Classes -/

namespace Flags

/-- A set with the characters that are equal up to case, where case is ignored. -/
def fold (flags : Flags) (set : CharSet) : CharSet :=
  if !flags.ignoreCase then set
  else if flags.unicode then Unicode.foldClosure set
  else
    let upper := set.inter [⟨0x41, 0x5A⟩]
    let lower := set.inter [⟨0x61, 0x7A⟩]
    CharSet.ofRanges (set ++ (upper.map fun r => ⟨r.lo + 32, r.hi + 32⟩) ++
      lower.map fun r => ⟨r.lo - 32, r.hi - 32⟩)

/-- The complement of a set, which has members outside ASCII. -/
def negate? (flags : Flags) (negated : Bool) (set : CharSet) : Option CharSet :=
  if !negated then some set
  else if flags.unicode then some set.complement
  else none

/-- The character that a letter of a pattern stands for. -/
def char? (flags : Flags) (letter : Letter) : Option Char :=
  if !flags.unicode && letter.isByte && 0x80 ≤ letter.char.toNat then none else some letter.char

/-- A letter inside a class. -/
def classChar? (flags : Flags) (letter : Letter) : Option Char :=
  if !flags.unicode && 0x80 ≤ letter.char.toNat then none else some letter.char

end Flags

def asciiWordChars : CharSet := .ofText "30-39 41-5a 5f 61-7a"

def PerlClass.chars (unicode : Bool) : PerlClass → CharSet
  | digit => if unicode then Unicode.digitChars else .ofText "30-39"
  | space => if unicode then Unicode.Property.blanks else .ofText "9-d 20"
  | word => if unicode then Unicode.wordChars else asciiWordChars

def PosixClass.chars : PosixClass → CharSet
  | alnum => .ofText "30-39 41-5a 61-7a"
  | alpha => .ofText "41-5a 61-7a"
  | ascii => .ofText "0-7f"
  | blank => .ofText "9 20"
  | cntrl => .ofText "0-1f 7f"
  | digit => .ofText "30-39"
  | graph => .ofText "21-7e"
  | lower => .ofText "61-7a"
  | print => .ofText "20-7e"
  | punct => .ofText "21-2f 3a-40 5b-60 7b-7e"
  | space => .ofText "9-d 20"
  | upper => .ofText "41-5a"
  | word => asciiWordChars
  | xdigit => .ofText "30-39 41-46 61-66"

def UnicodeQuery.chars? : UnicodeQuery → Option CharSet
  | letter c => Unicode.charsNamed? [c]
  | named name => Unicode.charsNamed? name
  | valued property value => Unicode.charsValued? property value

def SetOp.apply : SetOp → CharSet → CharSet → CharSet
  | intersection => CharSet.inter
  | difference => CharSet.diff
  | symmetricDifference => CharSet.symmDiff

def EscapeClass.chars? (flags : Flags) : EscapeClass → Option CharSet
  | perl kind negated => flags.negate? negated (kind.chars flags.unicode)
  | unicode query negated =>
    if flags.unicode then query.chars?.bind fun set => flags.negate? negated (flags.fold set)
    else none

namespace ClassSet

mutual

/-- The members of a class, as ranges whose normal set counts. -/
def chars? (flags : Flags) : ClassSet → Option CharSet
  | empty => some []
  | literal letter => (flags.classChar? letter).map CharSet.single
  | range first last => do
    let first ← flags.classChar? first
    let last ← flags.classChar? last
    return [⟨first.toNat, last.toNat⟩]
  | posix kind negated => flags.negate? negated (flags.fold kind.chars)
  | escape kind => kind.chars? flags
  | bracketed negated set => do
    flags.negate? negated (flags.fold (CharSet.ofRanges (← set.chars? flags)))
  | union items => (charsAll? flags items).map CharSet.unionAll
  | combine op left right => do
    let left := CharSet.ofRanges (← left.chars? flags)
    let right := CharSet.ofRanges (← right.chars? flags)
    return op.apply (flags.fold left) (flags.fold right)

def charsAll? (flags : Flags) : List ClassSet → Option (List CharSet)
  | [] => some []
  | item :: items => do return (← item.chars? flags) :: (← charsAll? flags items)

end

end ClassSet

/-! ## From patterns to expressions -/

def Flags.dot (flags : Flags) : CharSet :=
  if flags.dotAll then CharSet.full
  else if flags.crlf then CharSet.complement (.ofText "a d")
  else CharSet.complement (.ofText "a")

def Flags.anchor (flags : Flags) : Anchor → Look
  | .lineStart => if flags.multiLine then .lineStart flags.crlf else .textStart
  | .lineEnd => if flags.multiLine then .lineEnd flags.crlf else .textEnd
  | .textStart => .textStart
  | .textEnd => .textEnd

/-- A single letter outside a class. -/
def Flags.letter? (flags : Flags) (letter : Letter) : Option Expr :=
  (flags.char? letter).map fun c =>
    if !flags.unicode && 0x80 ≤ c.toNat then .literal [c]
    else .ofSet flags.unicode (flags.fold (CharSet.single c))

namespace Ast

mutual

/-- The expression of a pattern, and the flags in force behind it. -/
def expr? (flags : Flags) : Ast → Option (Expr × Flags)
  | empty => some (.empty, flags)
  | .flags change => some (.empty, flags.change change)
  | literal letter => (flags.letter? letter).map fun expr => (expr, flags)
  | dot => if flags.unicode then some (.ofSet true flags.dot, flags) else none
  | anchor kind => some (.look (flags.anchor kind), flags)
  | edge kind => some (.look (.edge kind flags.unicode), flags)
  | escape kind => (kind.chars? flags).map fun set => (.ofSet flags.unicode set, flags)
  | bracketed negated set => do
    let set := CharSet.ofRanges (← set.chars? flags)
    let set ← flags.negate? negated (flags.fold set)
    return (.ofSet flags.unicode set, flags)
  | repetition body low high greedy => do
    let (body, flags) ← body.expr? flags
    return (body.repeated low high (greedy != flags.swapGreed), flags)
  | capture index name body => do
    return (.capture index name (← body.expr? flags).1, flags)
  | group change body => do
    return ((← body.expr? (flags.change change)).1, flags)
  | alternation branches => do
    let (branches, flags) ← exprsOf? flags branches
    return (.alternation branches, flags)
  | concat items => do
    let (items, flags) ← exprsOf? flags items
    return (.sequence items, flags)

def exprsOf? (flags : Flags) : List Ast → Option (List Expr × Flags)
  | [] => some ([], flags)
  | item :: items => do
    let (item, flags) ← item.expr? flags
    let (items, flags) ← exprsOf? flags items
    return (item :: items, flags)

end

end Ast

end FilterChain.Regex
