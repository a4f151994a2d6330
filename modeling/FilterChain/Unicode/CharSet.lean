import FilterChain.Text

/-!
# Sets of characters

A set is a list of ranges of character codes.  A normal set is sorted and its ranges
neither overlap nor touch.  Codes are counted past the surrogates, which are no characters:
`0xE000` comes right behind `0xD7FF`.  Yet two ranges touch only where the one starts at the
number behind the other's end, so that a normal set may have ranges without a character
between them.

A range of characters is encoded in UTF-8 by as few sequences of byte ranges as there can be.  It
is cut where the encodings get longer, and then at the ends of blocks in which only the last bytes
differ.
-/

namespace FilterChain

/-- The codes from `lo` to `hi`. -/
structure CharRange where
  lo : Nat
  hi : Nat
deriving DecidableEq, Repr, Inhabited

abbrev CharSet := List CharRange

/-- The code of the next character. -/
def nextCode (code : Nat) : Nat := if code = 0xD7FF then 0xE000 else code + 1

/-- The code of the character before. -/
def previousCode (code : Nat) : Nat := if code = 0xE000 then 0xD7FF else code - 1

namespace CharRange

/-- The range between two codes in either order. -/
def between (a b : Nat) : CharRange := ⟨min a b, max a b⟩

/-- The codes that two ranges share. -/
def inter (a b : CharRange) : List CharRange :=
  let lo := max a.lo b.lo
  let hi := min a.hi b.hi
  if lo ≤ hi then [⟨lo, hi⟩] else []

/-- What is left of a range without the codes of another. -/
def diff (a b : CharRange) : List CharRange :=
  if b.hi < a.lo ∨ a.hi < b.lo then [a]
  else
    (if a.lo < b.lo then [⟨a.lo, previousCode b.lo⟩] else []) ++
      if b.hi < a.hi then [⟨nextCode b.hi, a.hi⟩] else []

end CharRange

namespace CharSet

def lastCode : Nat := 0x10FFFF

/-- Whether a code lies in a normal set. -/
def hasCode (code : Nat) : CharSet → Bool
  | [] => false
  | range :: ranges =>
    if code < range.lo then false
    else code ≤ range.hi || hasCode code ranges

def hasChar (set : CharSet) (c : Char) : Bool := hasCode c.toNat set

/-- Joins ranges that overlap or touch, when `range` and the list after it are sorted by
lower ends.  The range at hand grows until the next one leaves a gap. -/
def mergeFrom (range : CharRange) : CharSet → CharSet
  | [] => [range]
  | next :: ranges =>
    if next.lo ≤ range.hi + 1 then mergeFrom ⟨range.lo, max range.hi next.hi⟩ ranges
    else range :: mergeFrom next ranges

def merge : CharSet → CharSet
  | [] => []
  | range :: ranges => mergeFrom range ranges

def ofRanges (ranges : List CharRange) : CharSet :=
  merge (ranges.mergeSort fun a b => a.lo ≤ b.lo)

def single (c : Char) : CharSet := [⟨c.toNat, c.toNat⟩]

def full : CharSet := [⟨0, lastCode⟩]

/-- The gaps between ranges, and the one behind them, where a range ends at `hi` before them.
A gap runs from the code behind one range to the code before the next one; where there is no
character between the two, these are the codes of their ends. -/
def gapsBehind (hi : Nat) : CharSet → CharSet
  | [] => if hi < lastCode then [⟨nextCode hi, lastCode⟩] else []
  | range :: ranges =>
    .between (nextCode hi) (previousCode range.lo) :: gapsBehind range.hi ranges

/-- The gaps of a normal set. -/
def complement : CharSet → CharSet
  | [] => full
  | range :: ranges =>
    if 0 < range.lo then ⟨0, previousCode range.lo⟩ :: gapsBehind range.hi ranges
    else gapsBehind range.hi ranges

def union (a b : CharSet) : CharSet := ofRanges (a ++ b)

def unionAll (sets : List CharSet) : CharSet := ofRanges sets.flatten

def inter (a b : CharSet) : CharSet := a.flatMap fun range => b.flatMap range.inter

def diff (a b : CharSet) : CharSet :=
  b.foldl (fun left cut => left.flatMap fun range => range.diff cut) a

/-- The codes in exactly one of two sets. -/
def symmDiff (a b : CharSet) : CharSet := diff (union a b) (inter a b)

/-- Whether all codes of a normal set are below 128. -/
def isAscii (set : CharSet) : Bool := set.all fun range => range.hi < 0x80

/-- The only member of a set of one character. -/
def single? : CharSet → Option Char
  | [range] => if range.lo = range.hi then charOfCode? range.lo else none
  | _ => none

/-! ## Sets written as text

A text is a list of hexadecimal items with blanks between them: `61` is one code,
`61-7a` a range, and `100:12e` every second code from the first to the last.
-/

/-- The items of a text, which blanks and line ends separate. -/
def itemsOf (text : List Char) : List (List Char) :=
  let split := text.foldr
    (fun c items =>
      if c = ' ' ∨ c = '\n' then [] :: items
      else match items with
        | [] => [[c]]
        | item :: items => (c :: item) :: items)
    []
  split.filter fun item => !item.isEmpty

def rangesOfItem (item : List Char) : List CharRange :=
  let lo := leadingHex item
  match item.dropWhile isHexDigit with
  | '-' :: hi => [⟨lo, leadingHex hi⟩]
  | ':' :: hi =>
    (List.range ((leadingHex hi - lo) / 2 + 1)).map fun i => ⟨lo + 2 * i, lo + 2 * i⟩
  | _ => [⟨lo, lo⟩]

/-- The set that a text denotes. -/
def ofText (text : String) : CharSet :=
  ofRanges ((itemsOf text.toList).flatMap rangesOfItem)

end CharSet

/-! ## Encodings of ranges -/

def utf8Bytes (code : Nat) : List Nat :=
  if code < 0x80 then [code]
  else if code < 0x800 then [0xC0 + code / 64, 0x80 + code % 64]
  else if code < 0x10000 then
    [0xE0 + code / 0x1000, 0x80 + code / 64 % 64, 0x80 + code % 64]
  else
    [0xF0 + code / 0x40000, 0x80 + code / 0x1000 % 64, 0x80 + code / 64 % 64, 0x80 + code % 64]

/-- The codes with encodings of one length, without surrogates. -/
def encodedLengths : List CharRange :=
  [⟨0, 0x7F⟩, ⟨0x80, 0x7FF⟩, ⟨0x800, 0xD7FF⟩, ⟨0xE000, 0xFFFF⟩, ⟨0x10000, 0x10FFFF⟩]

namespace CharRange

/-- Cuts a range so that each part lies in one block of `size` codes or consists of whole
blocks. -/
def cutAtBlocks (size : Nat) (range : CharRange) : List CharRange :=
  if range.lo / size = range.hi / size then [range]
  else
    let start := (range.lo + size - 1) / size * size
    let stop := (range.hi + 1) / size * size
    let parts : List (Nat × Nat) := [(range.lo, start), (start, stop), (stop, range.hi + 1)]
    (parts.filter fun (lo, hi) => lo < hi).map fun (lo, hi) => ⟨lo, hi - 1⟩

/-- The ranges of bytes that encode a range, where no further cut is needed. -/
def bytes (range : CharRange) : List (Nat × Nat) :=
  (utf8Bytes range.lo).zip (utf8Bytes range.hi)

/-- The parts of a range that are each one sequence of byte ranges.  A single byte is never
cut. -/
def cuts (range : CharRange) : List CharRange :=
  if range.hi < 0x80 then [range]
  else ((range.cutAtBlocks 64).flatMap (cutAtBlocks 0x1000)).flatMap (cutAtBlocks 0x40000)

/-- The encodings of a range as sequences of byte ranges. -/
def encodings (range : CharRange) : List (List (Nat × Nat)) :=
  ((encodedLengths.flatMap range.inter).flatMap cuts).map bytes

end CharRange

end FilterChain
