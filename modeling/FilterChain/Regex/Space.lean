import FilterChain.Regex.Expr
import FilterChain.Regex.Extent
import FilterChain.Unicode.CharSet

/-!
# The space of a pattern

A pattern is refused if its code would be too large.  What counts is the code that reads the
bytes of UTF-8 text, once from the start of a text and once from its end.

A plan says in which order the parts of such code are laid out.  Repetitions have a copy of
their body for each round, so that a plan is measured only until the limit is passed.
-/

namespace FilterChain.Regex

/-- The space that code may take: ten mebibytes. -/
def spaceLimit : Nat := 10 * 0x100000

inductive Plan
  /-- So many instructions of known space. -/
  | insts (count space : Nat)
  /-- A class by the encodings of its members. -/
  | encodings (sequences : List ByteRanges)
  /-- A choice between words. -/
  | words (choices : List (List Nat))
  | all (parts : List Plan)
  | times (count : Nat) (part : Plan)

namespace Plan

def inst : Plan := insts 1 instSpace

def split (targets : Nat) : Plan := insts 1 (splitSpace targets)

/-- Adds a part again and again until the limit is passed. -/
def repeatWithin (part : Extent → Extent) : (count : Nat) → Extent → Extent
  | 0, extent => extent
  | count + 1, extent =>
    if spaceLimit < extent.space then extent else repeatWithin part count (part extent)

mutual

/-- The extent of code to which a plan is added. -/
def measure (backward : Bool) : Plan → Extent → Extent
  | insts count space, extent => extent.add count space
  | encodings sequences, extent =>
    if backward then extent.addBackward sequences else extent.addForward sequences
  | words choices, extent => extent.addWords choices
  | all parts, extent => measureAll backward parts extent
  | times count part, extent => repeatWithin (measure backward part) count extent

def measureAll (backward : Bool) : List Plan → Extent → Extent
  | [], extent => extent
  | part :: parts, extent => measureAll backward parts (measure backward part extent)

end

/-- So many copies of a part; no copy at all takes an instruction, too. -/
def copies (count : Nat) (part : Plan) : Plan := if count = 0 then inst else times count part

/-- The plan of a repetition.  A part that may be empty needs two splits to be repeated any
number of times. -/
def repetition (part : Plan) (takesText : Bool) (low : Nat) (high : Option Nat) : Plan :=
  match low, high with
  | 0, some 1 => all [split 2, part, inst]
  | 0, none => if takesText then all [split 2, part] else all [part, split 2, split 2, inst]
  | low, none => all [times low part, split 2]
  | low, some high =>
    if low = high then times low part
    else all [copies low part, inst, times (high - low) (all [split 2, part])]

/-- The plan of a choice, whose split is laid out behind the first two branches. -/
def choice : List Plan → Plan
  | first :: second :: parts =>
    all (first :: second :: split (parts.length + 2) :: inst :: parts)
  | parts => all parts

end Plan

namespace Expr

def literal? : Expr → Option (List Char)
  | literal text => some text
  | _ => none

/-- The bytes of a text in the order in which they are read. -/
def bytesOf (backward : Bool) (text : List Char) : List Nat :=
  let bytes := text.flatMap fun c => utf8Bytes c.toNat
  if backward then bytes.reverse else bytes

mutual

/-- The plan of the code of an expression.  Code that reads from the end of a text stores no
places. -/
def plan (backward : Bool) : Expr → Plan
  | empty | look _ => .inst
  | literal text =>
    let count := (bytesOf backward text).length
    .insts count (count * instSpace)
  | chars _ set =>
    if set.isAscii then .insts 2 (instSpace + rangesSpace set.length)
    else .encodings (set.flatMap CharRange.encodings)
  | repetition body low high _ => .repetition (body.plan backward) body.takesText low high
  | capture _ _ body =>
    if backward then body.plan backward else .all [.inst, body.plan backward, .inst]
  | concat items =>
    let plans := plans backward items
    .all (if backward then plans.reverse else plans)
  | choice branches =>
    match branches.mapM literal? with
    | some texts => .words (texts.map (bytesOf backward))
    | none => .choice (plans backward branches)

def plans (backward : Bool) : List Expr → List Plan
  | [] => []
  | item :: items => item.plan backward :: plans backward items

end

mutual

/-- Whether an expression matches only where a text starts, or only where it ends, as its
edge shows. -/
def isAnchored (backward : Bool) : Expr → Bool
  | look kind => kind == if backward then .textEnd else .textStart
  | repetition body low _ _ => 0 < low && body.isAnchored backward
  | capture _ _ body => body.isAnchored backward
  | concat items => if backward then (lastAnchored items).1 else firstAnchored items
  | choice branches => !branches.isEmpty && allAnchored backward branches
  | _ => false

/-- Whether one of the items is anchored that only items without width precede. -/
def firstAnchored : List Expr → Bool
  | [] => false
  | item :: items => item.isAnchored false || (item.isWidthless && firstAnchored items)

/-- Whether one of the items is anchored that only items without width follow, and whether all
items are without width. -/
def lastAnchored : List Expr → Bool × Bool
  | [] => (false, true)
  | item :: items =>
    let (anchored, widthless) := lastAnchored items
    (anchored || (widthless && item.isAnchored true), widthless && item.isWidthless)

def allAnchored (backward : Bool) : List Expr → Bool
  | [] => true
  | branch :: branches => branch.isAnchored backward && allAnchored backward branches

end

/-- The plan of a whole search.  One that may start anywhere begins with a loop that skips
bytes, and a match is stored with its places by code that reads from the start. -/
def searchPlan (backward : Bool) (expr : Expr) : Plan :=
  let skipping := if expr.isAnchored backward then .inst
    else .all [.split 2, .inst, .insts 1 (rangesSpace 1)]
  let body := expr.plan backward
  .all [skipping, if backward then body else .all [.inst, body, .inst], .inst]

/-- Whether the code of an expression keeps within the limit. -/
def fitsSpace (expr : Expr) : Bool :=
  [false, true].all fun backward =>
    ((expr.searchPlan backward).measure backward ⟨0, 0⟩).space ≤ spaceLimit

end Expr

end FilterChain.Regex
