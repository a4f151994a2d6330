import FilterChain.Json.Basic
import FilterChain.Decimal.Reading
import FilterChain.Text

/-!
# Reading JSON text

The grammar is that of RFC 8259 without extensions: no byte order mark, no text
behind the document, no lone surrogates, and at most 127 nested arrays and objects.
Of two fields with one key the later counts.

A number with a fraction or an exponent, or beyond 64 bits, is a float.  Its
significand is made of the leading digits that fit 64 bits, and is then scaled by
powers of ten in float arithmetic; a result beyond the finite floats is refused.
-/

namespace FilterChain.Json

open Decimal (digitValue)

def isSpace (c : Char) : Bool :=
  c == ' ' || c == '\n' || c == '\t' || c == '\r'

def dropSpace (text : List Char) : List Char :=
  text.dropWhile isSpace

/-! ## Numbers -/

/-- The digits that extend a significand without leaving 64 bits, and those left over. -/
def accumulate (significand : Nat) : List Char → Nat × List Char
  | [] => (significand, [])
  | c :: digits =>
    let next := 10 * significand + digitValue c
    if next < 0x10000000000000000 then accumulate next digits else (significand, c :: digits)

/-- Divides by `10 ^ exponent`, at most 308 places at a time. -/
def scaleDown (x : Float) (exponent : Nat) : Float :=
  if exponent ≤ 308 then x / Decimal.nearest 1 exponent
  else if x == 0 then x
  else scaleDown (x / Decimal.nearest 1 308) (exponent - 308)
termination_by exponent

/-- Multiplies by `10 ^ exponent`, unless the result is not finite. -/
def scaleUp? (x : Float) (exponent : Nat) : Option Float :=
  if exponent ≤ 308 then
    let y := x * Decimal.nearest 1 exponent
    if y.isInf then none else some y
  else if x == 0 then some x
  else none

/-- The float `significand * 10 ^ exponent` with the sign of a number. -/
def scale? (negative : Bool) (significand : Nat) (exponent : Int) : Option JsonNumber :=
  let x := significand.toUInt64.toFloat
  let scaled := match exponent with
    | .ofNat n => scaleUp? x n
    | .negSucc n => some (scaleDown x (n + 1))
  scaled.bind fun y => JsonNumber.ofFloat? (if negative then -y else y)

/-- A whole number of 64 bits; minus zero is a float. -/
def wholeNumber? (negative : Bool) (n : Nat) : Option JsonNumber :=
  if negative = false then some (.natural n.toUInt64)
  else if 0 < n ∧ n ≤ 0x8000000000000000 then some (.ofInt64 (Int64.ofInt (-(n : Int))))
  else JsonNumber.ofFloat? (-n.toUInt64.toFloat)

/-- The digits of the whole part: a single zero, or digits that start with another. -/
def takeWhole? : List Char → Option (List Char × List Char)
  | '0' :: text =>
    match text with
    | c :: _ => if c.isDigit then none else some (['0'], text)
    | [] => some (['0'], [])
  | text =>
    let digits := text.takeWhile Char.isDigit
    if digits.isEmpty then none else some (digits, text.dropWhile Char.isDigit)

/-- The digits behind a point, where there is one. -/
def takeFraction? : List Char → Option (Option (List Char) × List Char)
  | '.' :: text =>
    let digits := text.takeWhile Char.isDigit
    if digits.isEmpty then none else some (some digits, text.dropWhile Char.isDigit)
  | text => some (none, text)

/-- The exponent, where there is one. -/
def takeExponent? : List Char → Option (Option Int × List Char)
  | [] => some (none, [])
  | c :: text =>
    if c = 'e' ∨ c = 'E' then
      let (negative, unsigned) := Decimal.takeSign text
      let digits := unsigned.takeWhile Char.isDigit
      let rest := unsigned.dropWhile Char.isDigit
      let value : Int := Decimal.natOfDigits digits
      if digits.isEmpty then none
      else some (some (if negative then -value else value), rest)
    else some (none, c :: text)

def takeNumber? (text : List Char) : Option (JsonNumber × List Char) := do
  let (negative, unsigned) := match text with
    | '-' :: more => (true, more)
    | _ => (false, text)
  let (whole, afterWhole) ← takeWhole? unsigned
  let (fraction, afterFraction) ← takeFraction? afterWhole
  let (exponent, rest) ← takeExponent? afterFraction
  let (significand, unused) := accumulate 0 whole
  let number ← match fraction, exponent, unused with
    | none, none, [] => wholeNumber? negative significand
    | _, _, _ =>
      let places := fraction.getD []
      let (extended, ignored) := accumulate significand places
      let taken := places.length - ignored.length
      scale? negative extended (unused.length - taken + exponent.getD 0)
  return (number, rest)

/-! ## Strings -/

/-- The character that one letter behind a backslash stands for. -/
def shortEscape? : Char → Option Char
  | '"' => some '"'
  | '\\' => some '\\'
  | '/' => some '/'
  | 'b' => some '\x08'
  | 'f' => some '\x0c'
  | 'n' => some '\n'
  | 'r' => some '\r'
  | 't' => some '\t'
  | _ => none

/-- The characters up to the closing quote, and the text behind it. -/
def takeString? : List Char → Option (List Char × List Char)
  | [] => none
  | '"' :: text => some ([], text)
  | '\\' :: 'u' :: a :: b :: c :: d :: text =>
    match natOfHex? [a, b, c, d] with
    | none => none
    | some unit =>
      if unit < 0xD800 ∨ 0xDFFF < unit then
        (takeString? text).map fun (chars, rest) => (Char.ofNat unit :: chars, rest)
      else if 0xDC00 ≤ unit then none
      else match text with
        | '\\' :: 'u' :: e :: f :: g :: h :: text =>
          match natOfHex? [e, f, g, h] with
          | none => none
          | some trail =>
            if 0xDC00 ≤ trail ∧ trail ≤ 0xDFFF then
              let scalar := 0x10000 + (unit - 0xD800) * 0x400 + (trail - 0xDC00)
              (takeString? text).map fun (chars, rest) => (Char.ofNat scalar :: chars, rest)
            else none
        | _ => none
  | '\\' :: c :: text =>
    match shortEscape? c with
    | none => none
    | some plain => (takeString? text).map fun (chars, rest) => (plain :: chars, rest)
  | c :: text =>
    if c.toNat < 0x20 || c == '\\' then none
    else (takeString? text).map fun (chars, rest) => (c :: chars, rest)

/-! ## Documents -/

/-- Reads one thing of a document and gives the text behind it. -/
abbrev Reading (α : Type) := List Char → Option (α × List Char)

/-- Things with commas between them up to a closing mark.  Each of them takes some text. -/
def takeList? (close : Char) (item : Reading α) (text : List Char) : Option (List α × List Char) :=
  match item (dropSpace text) with
  | none => none
  | some (a, afterItem) =>
    match dropSpace afterItem with
    | [] => none
    | c :: rest =>
      if c = close then some ([a], rest)
      else if c = ',' then
        if rest.length < text.length then
          (takeList? close item rest).map fun (items, rest) => (a :: items, rest)
        else none
      else none
termination_by text.length

/-- As `takeList?`, where nothing may stand before the closing mark. -/
def takeListOrEmpty? (close : Char) (item : Reading α) (text : List Char) :
    Option (List α × List Char) :=
  match dropSpace text with
  | [] => none
  | c :: rest => if c = close then some ([], rest) else takeList? close item (c :: rest)

def takeField? (item : Reading Json) : Reading (String × Json)
  | '"' :: text => do
    let (key, afterKey) ← takeString? text
    match dropSpace afterKey with
    | ':' :: rest =>
      let (value, rest) ← item (dropSpace rest)
      return ((String.ofList key, value), rest)
    | _ => none
  | _ => none

/-- A document that nests at most `depth` arrays and objects. -/
def take? : (depth : Nat) → Reading Json
  | depth, text =>
    match text with
    | 'n' :: 'u' :: 'l' :: 'l' :: rest => some (.null, rest)
    | 't' :: 'r' :: 'u' :: 'e' :: rest => some (.boolean true, rest)
    | 'f' :: 'a' :: 'l' :: 's' :: 'e' :: rest => some (.boolean false, rest)
    | '"' :: rest => (takeString? rest).map fun (chars, rest) => (.string (String.ofList chars), rest)
    | '[' :: rest =>
      match depth with
      | 0 => none
      | depth + 1 => (takeListOrEmpty? ']' (take? depth) rest).map fun (items, rest) =>
        (.array items, rest)
    | '{' :: rest =>
      match depth with
      | 0 => none
      | depth + 1 => (takeListOrEmpty? '}' (takeField? (take? depth)) rest).map
        fun (fields, rest) => (.object (Dictionary.ofEntries fields).entries, rest)
    | _ => (takeNumber? text).map fun (n, rest) => (.number n, rest)

/-- Why a text is no document. -/
inductive Fault
  | blank
  | malformed
  /-- More text stands behind a document. -/
  | trailing
deriving DecidableEq, Repr

def Fault.message : Fault → String
  | blank => "EOF while parsing a value"
  | malformed => "expected a JSON document"
  | trailing => "trailing characters"

def readWithin (depth : Nat) (text : String) : Except Fault Json :=
  match dropSpace text.toList with
  | [] => .error .blank
  | c :: rest =>
    match take? depth (c :: rest) with
    | none => .error .malformed
    | some (json, rest) => if (dropSpace rest).isEmpty then .ok json else .error .trailing

def read (text : String) : Except Fault Json :=
  readWithin 127 text

end FilterChain.Json
