import FilterChain.Regex.Ast
import FilterChain.Text
import FilterChain.Decimal.Reading
import FilterChain.Unicode.Property

/-!
# Reading patterns

`read?` reads a pattern into a tree, or gives nothing where the pattern is not well
formed.  There is no look-around and there are no back references.  Where blanks are
ignored, so are comments from `#` to the end of a line; both are called filler here.

The readers of groups and of classes keep what is open on a stack of their own.
-/

namespace FilterChain.Regex

namespace Reader

/-! ## Filler -/

/-- The text behind blanks and comments. -/
def dropFiller (inComment : Bool) : List Char → List Char
  | [] => []
  | c :: text =>
    if inComment then dropFiller (c ≠ '\n') text
    else if isBlank c then dropFiller false text
    else if c = '#' then dropFiller true text
    else c :: text

theorem length_dropFiller_le (inComment : Bool) (text : List Char) :
    (dropFiller inComment text).length ≤ text.length := by
  induction text generalizing inComment with
  | nil => simp [dropFiller]
  | cons c text ih =>
    simp only [dropFiller, List.length_cons]
    split
    · exact Nat.le_succ_of_le (ih _)
    · split
      · exact Nat.le_succ_of_le (ih _)
      · split
        · exact Nat.le_succ_of_le (ih _)
        · simp

/-- The text without the filler at its front, where filler is ignored. -/
def skip (ignoreBlanks : Bool) (text : List Char) : List Char :=
  if ignoreBlanks then dropFiller false text else text

theorem length_skip_le (ignoreBlanks : Bool) (text : List Char) :
    (skip ignoreBlanks text).length ≤ text.length := by
  unfold skip
  split
  · exact length_dropFiller_le _ _
  · exact Nat.le_refl _

/-- The characters at the front of a text that have a property, with filler behind each of
them ignored, and the text behind them. -/
def takeSkipping (ignoreBlanks : Bool) (p : Char → Bool) : List Char → List Char × List Char
  | [] => ([], [])
  | c :: text =>
    if p c then
      let (taken, rest) := takeSkipping ignoreBlanks p (skip ignoreBlanks text)
      (c :: taken, rest)
    else ([], c :: text)
termination_by text => text.length
decreasing_by exact Nat.lt_succ_of_le (length_skip_le _ _)

/-! ## Escapes -/

/-- ASCII marks that stand for themselves behind a backslash: all but letters, digits and
angle brackets. -/
def isEscapable (c : Char) : Bool :=
  c.toNat < 0x80 && !c.isAlphanum && c ≠ '<' && c ≠ '>'

/-- A character by hexadecimal digits in braces. -/
def readBracedHex (ignoreBlanks : Bool) (text : List Char) : Option (Ast × List Char) :=
  let (digits, rest) := takeSkipping ignoreBlanks (· ≠ '}') (skip ignoreBlanks text)
  match digits, rest with
  | [], _ => none
  | _, [] => none
  | digits, _ :: rest => do
    let c ← charOfCode? (← natOfHex? digits)
    return (.literal ⟨c, false⟩, skip ignoreBlanks rest)

/-- A fixed count of hexadecimal digits, with filler between them ignored. -/
def takeHex? (ignoreBlanks : Bool) : Nat → List Char → Option (List Char × List Char)
  | 0, text => some ([], text)
  | _ + 1, [] => none
  | count + 1, c :: text =>
    if isHexDigit c then
      (takeHex? ignoreBlanks count (skip ignoreBlanks text)).map fun (digits, rest) =>
        (c :: digits, rest)
    else none

/-- A character by its code: so many digits, or any number of them in braces. -/
def readHex (ignoreBlanks : Bool) (count : Nat) (text : List Char) : Option (Ast × List Char) :=
  match text with
  | '{' :: text => readBracedHex ignoreBlanks text
  | text => do
    let (digits, rest) ← takeHex? ignoreBlanks count text
    let c ← charOfCode? (← natOfHex? digits)
    return (.literal ⟨c, count == 2⟩, rest)

/-- A query as written in braces, and whether it asks for the other characters: a name, or a
property with `:` or `=` and its value, or with `!=` and a value that it shall not have. -/
def queryOf (text : List Char) : UnicodeQuery × Bool :=
  match cutAt ['!', '='] text with
  | some (property, value) => (.valued property value, true)
  | none =>
    match cutAt [':'] text <|> cutAt ['='] text with
    | some (property, value) => (.valued property value, false)
    | none => (.named text, false)

/-- A class of Unicode characters: one letter, or a query in braces. -/
def readUnicodeClass (ignoreBlanks negated : Bool) (text : List Char) :
    Option (Ast × List Char) :=
  match text with
  | [] => none
  | '{' :: text =>
    match takeSkipping ignoreBlanks (· ≠ '}') (skip ignoreBlanks text) with
    | (_, []) => none
    | (query, _ :: rest) =>
      let (query, others) := queryOf query
      some (.escape (.unicode query (negated != others)), rest)
  | '\\' :: _ => none
  | c :: text => some (.escape (.unicode (.letter c) negated), skip ignoreBlanks text)

def isEdgeChar (c : Char) : Bool := c.isAlpha || c == '-'

def edgeNamed? (name : List Char) : Option WordEdge :=
  match String.ofList name with
  | "start" => some .start
  | "end" => some .stop
  | "start-half" => some .startHalf
  | "end-half" => some .stopHalf
  | _ => none

/-- The text behind `\b`: a kind of edge may follow in braces.  Braces that hold anything
else than letters are left to be read as a repetition. -/
def readEdge (ignoreBlanks : Bool) (text : List Char) : Option (Ast × List Char) :=
  match text with
  | '{' :: more =>
    let inner := skip ignoreBlanks more
    match inner with
    | [] => none
    | c :: _ =>
      if isEdgeChar c then
        match takeSkipping ignoreBlanks isEdgeChar inner with
        | (name, '}' :: rest) => (edgeNamed? name).map fun kind => (.edge kind, rest)
        | _ => none
      else some (.edge .either, text)
  | _ => some (.edge .either, text)

def literal (c : Char) : Ast := .literal ⟨c, false⟩

/-- The text behind a backslash. -/
def readEscape (ignoreBlanks : Bool) : List Char → Option (Ast × List Char)
  | [] => none
  | c :: text =>
    if isEscapable c then some (literal c, text)
    else match c with
      | 'x' => readHex ignoreBlanks 2 (skip ignoreBlanks text)
      | 'u' => readHex ignoreBlanks 4 (skip ignoreBlanks text)
      | 'U' => readHex ignoreBlanks 8 (skip ignoreBlanks text)
      | 'p' => readUnicodeClass ignoreBlanks false (skip ignoreBlanks text)
      | 'P' => readUnicodeClass ignoreBlanks true (skip ignoreBlanks text)
      | 'd' => some (.escape (.perl .digit false), text)
      | 's' => some (.escape (.perl .space false), text)
      | 'w' => some (.escape (.perl .word false), text)
      | 'D' => some (.escape (.perl .digit true), text)
      | 'S' => some (.escape (.perl .space true), text)
      | 'W' => some (.escape (.perl .word true), text)
      | 'a' => some (literal '\x07', text)
      | 'f' => some (literal '\x0c', text)
      | 't' => some (literal '\t', text)
      | 'n' => some (literal '\n', text)
      | 'r' => some (literal '\r', text)
      | 'v' => some (literal '\x0b', text)
      | 'A' => some (.anchor .textStart, text)
      | 'z' => some (.anchor .textEnd, text)
      | 'b' => readEdge ignoreBlanks text
      | 'B' => some (.edge .neither, text)
      | '<' => some (.edge .start, text)
      | '>' => some (.edge .stop, text)
      | _ => none

/-- A pattern that is neither a group, nor a class in brackets, nor a repetition. -/
def readPrimitive (ignoreBlanks : Bool) (c : Char) (text : List Char) :
    Option (Ast × List Char) :=
  match c with
  | '\\' => readEscape ignoreBlanks text
  | '.' => some (.dot, text)
  | '^' => some (.anchor .lineStart, text)
  | '$' => some (.anchor .lineEnd, text)
  | c => some (literal c, text)

/-! ## Classes in brackets -/

/-- What is open around the items that are being read: a bracket, with the items before it,
or the left side of a set operation. -/
inductive ClassFrame
  | bracket (negated : Bool) (outer : List ClassSet)
  | operation (op : SetOp) (left : ClassSet)

/-- The text behind an opening bracket: whether the class is negated, its first items, which
are hyphens or else one closing bracket, and the text behind them. -/
def openBracket (ignoreBlanks : Bool) (text : List Char) :
    Option (Bool × List ClassSet × List Char) :=
  let (negated, body) := match skip ignoreBlanks text with
    | '^' :: text => (true, skip ignoreBlanks text)
    | text => (false, text)
  let (hyphens, rest) := takeSkipping ignoreBlanks (· == '-') body
  let items := hyphens.map fun c => ClassSet.literal ⟨c, false⟩
  match rest with
  | [] => none
  | ']' :: more =>
    if items.isEmpty then
      match skip ignoreBlanks more with
      | [] => none
      | rest => some (negated, [.literal ⟨']', false⟩], rest)
    else some (negated, items, rest)
  | rest => some (negated, items, rest)

def posixNamed? (name : List Char) : Option PosixClass :=
  match String.ofList name with
  | "alnum" => some .alnum
  | "alpha" => some .alpha
  | "ascii" => some .ascii
  | "blank" => some .blank
  | "cntrl" => some .cntrl
  | "digit" => some .digit
  | "graph" => some .graph
  | "lower" => some .lower
  | "print" => some .print
  | "punct" => some .punct
  | "space" => some .space
  | "upper" => some .upper
  | "word" => some .word
  | "xdigit" => some .xdigit
  | _ => none

/-- The text behind a bracket inside a class, where it is `:name:]` or `:^name:]`. -/
def readPosix? (text : List Char) : Option (ClassSet × List Char) :=
  match text with
  | ':' :: text =>
    let (negated, body) := match text with
      | '^' :: text => (true, text)
      | text => (false, text)
    match body.dropWhile (· ≠ ':') with
    | ':' :: ']' :: rest =>
      (posixNamed? (body.takeWhile (· ≠ ':'))).map fun kind => (.posix kind negated, rest)
    | _ => none
  | _ => none

/-- A single item of a class: a character or an escape. -/
def readClassItem (ignoreBlanks : Bool) : List Char → Option (Ast × List Char)
  | [] => none
  | '\\' :: text => readEscape ignoreBlanks text
  | c :: text => some (literal c, text)

/-- The character behind the first one, where filler between them is ignored.  A comment
only counts up to the blanks behind its mark. -/
def peekPast (ignoreBlanks : Bool) : List Char → Option Char
  | [] => none
  | _ :: text =>
    if ignoreBlanks then
      match dropBlanks text with
      | [] => text.head?
      | '#' :: comment => (dropBlanks comment).head? <|> text.head?
      | c :: _ => some c
    else text.head?

def itemOf? : Ast → Option ClassSet
  | .literal letter => some (.literal letter)
  | .escape kind => some (.escape kind)
  | _ => none

/-- An item of a class, or a range of characters. -/
def readRange (ignoreBlanks : Bool) (text : List Char) : Option (ClassSet × List Char) := do
  let (first, afterFirst) ← readClassItem ignoreBlanks text
  let rest := skip ignoreBlanks afterFirst
  match rest with
  | [] => none
  | c :: more =>
    let past := peekPast ignoreBlanks rest
    if c ≠ '-' ∨ past = some ']' ∨ past = some '-' then
      return (← itemOf? first, rest)
    else
      let (last, rest) ← readClassItem ignoreBlanks (skip ignoreBlanks more)
      match first, last with
      | .literal first, .literal last =>
        if first.char ≤ last.char then return (.range first last, rest) else none
      | _, _ => none

/-- The open frames and the items of the innermost one. -/
structure ClassState where
  frames : List ClassFrame
  items : List ClassSet

namespace ClassState

def add (state : ClassState) (item : ClassSet) : ClassState :=
  { state with items := state.items ++ [item] }

/-- The items as the right side of the operation that is open, if one is. -/
def close (state : ClassState) : ClassSet × List ClassFrame :=
  let set := ClassSet.ofItems state.items
  match state.frames with
  | .operation op left :: frames => (.combine op left set, frames)
  | frames => (set, frames)

def operate (state : ClassState) (op : SetOp) : ClassState :=
  let (left, frames) := state.close
  ⟨.operation op left :: frames, []⟩

end ClassState

/-- A class that is complete, or a state in which to go on; and the text ahead. -/
inductive ClassStep
  | done (negated : Bool) (set : ClassSet) (rest : List Char)
  | more (state : ClassState) (rest : List Char)

/-- Reads one construct of a class. -/
def stepClass (ignoreBlanks : Bool) (state : ClassState) (text : List Char) : Option ClassStep :=
  match text with
  | [] => none
  | '[' :: more =>
    match readPosix? more with
    | some (item, rest) => some (.more (state.add item) rest)
    | none =>
      (openBracket ignoreBlanks more).map fun (negated, items, rest) =>
        .more ⟨.bracket negated state.items :: state.frames, items⟩ rest
  | ']' :: more =>
    match state.close with
    | (set, [.bracket negated _]) => some (.done negated set more)
    | (set, .bracket negated outer :: frames) =>
      some (.more ⟨frames, outer ++ [.bracketed negated set]⟩ more)
    | _ => none
  | '&' :: '&' :: more => some (.more (state.operate .intersection) more)
  | '-' :: '-' :: more => some (.more (state.operate .difference) more)
  | '~' :: '~' :: more => some (.more (state.operate .symmetricDifference) more)
  | text => (readRange ignoreBlanks text).map fun (item, rest) => .more (state.add item) rest

/-- Reads a class from inside its brackets to its end.  Every construct takes some text. -/
def readClassFrom (ignoreBlanks : Bool) (state : ClassState) (text : List Char) :
    Option (Ast × List Char) :=
  match stepClass ignoreBlanks state (skip ignoreBlanks text) with
  | none => none
  | some (.done negated set rest) => some (.bracketed negated set, rest)
  | some (.more next rest) =>
    if rest.length < text.length then readClassFrom ignoreBlanks next rest else none
termination_by text.length

/-- The text behind the opening bracket of a class. -/
def readClass (ignoreBlanks : Bool) (text : List Char) : Option (Ast × List Char) := do
  let (negated, items, rest) ← openBracket ignoreBlanks text
  readClassFrom ignoreBlanks ⟨[.bracket negated []], items⟩ rest

/-! ## Repetitions -/

/-- A mark behind a repetition that makes it prefer fewer rounds. -/
def readGreed (text : List Char) : Bool × List Char :=
  match text with
  | '?' :: rest => (false, rest)
  | rest => (true, rest)

/-- A count of rounds, which has 32 bits. -/
def readCount (ignoreBlanks : Bool) (text : List Char) : Option (Nat × List Char) :=
  let (digits, rest) := takeSkipping ignoreBlanks Char.isDigit (dropBlanks text)
  let count := Decimal.natOfDigits digits
  if digits.isEmpty || 0x100000000 ≤ count then none else some (count, dropBlanks rest)

/-- The text behind an opening brace: one count, a least count, or two of them.  The filler
behind the closing brace is dropped here, as a mark for fewer rounds may follow it. -/
def readBounds (ignoreBlanks : Bool) (text : List Char) :
    Option ((Nat × Option Nat) × List Char) := do
  let (low, afterLow) ← readCount ignoreBlanks (skip ignoreBlanks text)
  let (high, afterHigh) ← match afterLow with
    | ',' :: more =>
      match skip ignoreBlanks more with
      | '}' :: rest => some (none, '}' :: rest)
      | rest => (readCount ignoreBlanks rest).map fun (high, rest) => (some high, rest)
    | rest => some (some low, rest)
  match afterHigh with
  | '}' :: rest => if low ≤ high.getD low then some ((low, high), skip ignoreBlanks rest) else none
  | _ => none

/-- The bounds that a repetition mark stands for. -/
def readRounds (ignoreBlanks : Bool) (mark : Char) (text : List Char) :
    Option ((Nat × Option Nat) × List Char) :=
  match mark with
  | '?' => some ((0, some 1), text)
  | '*' => some ((0, none), text)
  | '+' => some ((1, none), text)
  | _ => readBounds ignoreBlanks text

/-! ## Groups -/

def isNameStart (c : Char) : Bool := c == '_' || Unicode.isAlphabetic c

def isNameChar (c : Char) : Bool :=
  c == '_' || c == '.' || c == '[' || c == ']' || Unicode.isAlphanumeric c

def isGroupName : List Char → Bool
  | [] => false
  | c :: name => isNameStart c && name.all isNameChar

def flagOf? : Char → Option Flag
  | 'i' => some .ignoreCase
  | 'm' => some .multiLine
  | 's' => some .dotAll
  | 'U' => some .swapGreed
  | 'u' => some .unicode
  | 'R' => some .crlf
  | 'x' => some .ignoreBlanks
  | _ => none

/-- Flags as written: each at most once, and at most one hyphen, with flags behind it. -/
def readFlags (on : Bool) (change : FlagChange) : List Char → Option FlagChange
  | [] => some change
  | '-' :: text => if on && !text.isEmpty then readFlags false change text else none
  | c :: text =>
    match flagOf? c with
    | none => none
    | some flag =>
      if change.any fun entry => entry.1 = flag then none
      else readFlags on (change ++ [(flag, on)]) text

/-- What a group is: numbered, perhaps with a name, or not captured. -/
inductive GroupKind
  | capture (index : Nat) (name : Option String)
  | plain (change : FlagChange)

/-- What the text behind an opening parenthesis starts with. -/
inductive GroupStart
  | capture (name : Option String)
  | plain (change : FlagChange)
  | flags (change : FlagChange)

/-- The name of a group, which ends at an angle bracket. -/
def readGroupName (text : List Char) : Option (GroupStart × List Char) :=
  let name := text.takeWhile (· ≠ '>')
  match text.dropWhile (· ≠ '>') with
  | [] => none
  | _ :: rest => if isGroupName name then some (.capture (String.ofList name), rest) else none

/-- Flags, and whether a group follows. -/
def readGroupFlags (text : List Char) : Option (GroupStart × List Char) := do
  let isEnd (c : Char) : Bool := c == ':' || c == ')'
  let change ← readFlags true [] (text.takeWhile fun c => !isEnd c)
  match text.dropWhile fun c => !isEnd c with
  | ':' :: rest => some (.plain change, rest)
  | _ :: rest => if change.isEmpty then none else some (.flags change, rest)
  | [] => none

/-- The text behind an opening parenthesis. -/
def readGroupStart (ignoreBlanks : Bool) (text : List Char) : Option (GroupStart × List Char) :=
  match skip ignoreBlanks text with
  | '?' :: '=' :: _ | '?' :: '!' :: _ | '?' :: '<' :: '=' :: _ | '?' :: '<' :: '!' :: _ => none
  | '?' :: 'P' :: '<' :: text => readGroupName text
  | '?' :: '<' :: text => readGroupName text
  | '?' :: text => readGroupFlags text
  | text => some (.capture none, text)

/-! ## Patterns -/

/-- The branches of an alternation that have ended and the items of the open one. -/
structure Level where
  branches : List Ast
  items : List Ast

namespace Level

def empty : Level := ⟨[], []⟩

def add (level : Level) (item : Ast) : Level :=
  { level with items := level.items ++ [item] }

def branch (level : Level) : Level :=
  ⟨level.branches ++ [.ofItems level.items], []⟩

def toAst (level : Level) : Ast :=
  .ofBranches (level.branches ++ [.ofItems level.items])

end Level

/-- A group that is open: what stands before it and how blanks were read there. -/
structure OpenGroup where
  kind : GroupKind
  outer : Level
  ignoreBlanks : Bool

/-- The open groups, the innermost level, how blanks are read, and the captures so far. -/
structure State where
  groups : List OpenGroup
  level : Level
  ignoreBlanks : Bool
  captures : Nat
  names : List String

namespace State

def start : State := ⟨[], .empty, false, 0, []⟩

def add (state : State) (item : Ast) : State :=
  { state with level := state.level.add item }

def openGroup (state : State) (kind : GroupKind) (ignoreBlanks : Bool) : State :=
  { state with
    groups := ⟨kind, state.level, state.ignoreBlanks⟩ :: state.groups
    level := .empty
    ignoreBlanks }

/-- How blanks are read after a change of flags. -/
def blanksAfter (state : State) (change : FlagChange) : Bool :=
  (change.lookup .ignoreBlanks).getD state.ignoreBlanks

/-- Goes on behind the start of a group.  No two groups share a name. -/
def enter (state : State) : GroupStart → Option State
  | .flags change =>
    some { state.add (.flags change) with ignoreBlanks := state.blanksAfter change }
  | .plain change => some (state.openGroup (.plain change) (state.blanksAfter change))
  | .capture name =>
    if name.any state.names.contains then none
    else
      let index := state.captures + 1
      let counted := { state with captures := index, names := state.names ++ name.toList }
      some (counted.openGroup (.capture index name) state.ignoreBlanks)

def leave (state : State) : Option State :=
  match state.groups with
  | [] => none
  | ⟨kind, outer, ignoreBlanks⟩ :: groups =>
    let body := state.level.toAst
    let group := match kind with
      | .capture index name => Ast.capture index name body
      | .plain change => Ast.group change body
    some { state with groups, level := outer.add group, ignoreBlanks }

/-- Repeats the last item, which must be more than flags. -/
def repeatLast (state : State) (bounds : Nat × Option Nat) (greedy : Bool) : Option State :=
  match state.level.items.getLast? with
  | none | some .empty | some (.flags _) => none
  | some body =>
    let repeated := Ast.repetition body bounds.1 bounds.2 greedy
    some { state with level.items := state.level.items.dropLast ++ [repeated] }

def step (state : State) (c : Char) (text : List Char) : Option (State × List Char) :=
  match c with
  | '(' => do
    let (start, rest) ← readGroupStart state.ignoreBlanks text
    return (← state.enter start, rest)
  | ')' => state.leave.map fun next => (next, text)
  | '|' => some ({ state with level := state.level.branch }, text)
  | '[' => (readClass state.ignoreBlanks text).map fun (item, rest) => (state.add item, rest)
  | '?' | '*' | '+' | '{' => do
    let (bounds, afterBounds) ← readRounds state.ignoreBlanks c text
    let (greedy, rest) := readGreed afterBounds
    return (← state.repeatLast bounds greedy, rest)
  | c =>
    (readPrimitive state.ignoreBlanks c text).map fun (item, rest) => (state.add item, rest)

end State

/-- Reads to the end of a pattern, where no group may be open.  Every construct takes some
text. -/
def readFrom (state : State) (text : List Char) : Option Ast :=
  match skip state.ignoreBlanks text with
  | [] => if state.groups.isEmpty then some state.level.toAst else none
  | c :: more =>
    match state.step c more with
    | none => none
    | some (next, rest) => if rest.length < text.length then readFrom next rest else none
termination_by text.length

end Reader

/-- The depth to which the parts of a pattern may be nested. -/
def nestLimit : Nat := 250

def Ast.read? (pattern : List Char) : Option Ast :=
  (Reader.readFrom .start pattern).filter fun ast => ast.depth ≤ nestLimit

end FilterChain.Regex
