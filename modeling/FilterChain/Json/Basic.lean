import FilterChain.Decimal.Layout
import FilterChain.Dictionary

/-!
# JSON documents

A JSON number is a whole number of 64 bits, or a finite float.  The fields of an object stand in
key order.  What documents are and how values become documents depends on little of the numbers,
which is stated for any type of them.

`compact` writes a document without blanks and `pretty` with one item a line,
indented by two spaces a level.
-/

namespace FilterChain

/-- Numbers among which 64-bit signed integers and finite floats are told apart. -/
class Json.Numbers where
  Number : Type
  ofInt64 : Int64 → Number
  /-- The number of a float; infinities and NaN have none. -/
  ofFloat? : Float → Option Number
  /-- The number as a 64-bit signed integer, where it is one; a float never is. -/
  toInt64? : Number → Option Int64
  /-- The nearest float. -/
  toFloat : Number → Float
  toInt64?_ofInt64 (n : Int64) : toInt64? (ofInt64 n) = some n
  isSome_ofFloat? (x : Float) : (ofFloat? x).isSome = x.isFinite
  toInt64?_of_ofFloat? {x : Float} {n : Number} : ofFloat? x = some n → toInt64? n = none
  toFloat_of_ofFloat? {x : Float} {n : Number} : ofFloat? x = some n → toFloat n = x

inductive Json [Json.Numbers]
  | null
  | boolean (b : Bool)
  | number (n : Json.Numbers.Number)
  | string (text : String)
  | array (items : List Json)
  | object (fields : List (String × Json))

/-! ## Numbers of 64 bits -/

/-- The numbers that a JSON document holds. -/
inductive JsonNumber
  | natural (n : UInt64)
  | negative (n : Int64) (lt_zero : n < 0)
  | float (x : Float) (finite : x.isFinite = true)

namespace JsonNumber

/-- The number of a float; infinities and NaN have none. -/
def ofFloat? (x : Float) : Option JsonNumber :=
  if h : x.isFinite = true then some (.float x h) else none

/-- The number of a 64-bit signed integer. -/
def ofInt64 (n : Int64) : JsonNumber :=
  if h : n < 0 then .negative n h else .natural n.toUInt64

/-- The nearest float. -/
def toFloat : JsonNumber → Float
  | natural n => n.toFloat
  | negative n _ => n.toFloat
  | float x _ => x

/-- The number as a 64-bit signed integer, where it is one; a float never is. -/
def toInt64? : JsonNumber → Option Int64
  | natural n => if n.toNat < 0x8000000000000000 then some n.toInt64 else none
  | negative n _ => some n
  | float _ _ => none

theorem toInt64?_ofInt64 (n : Int64) : (ofInt64 n).toInt64? = some n := by
  rw [ofInt64]
  split
  · rfl
  · next hnonneg =>
    have hbelow : n.toUInt64.toNat < 0x8000000000000000 := by
      have hlt := n.toInt_lt
      have htoNat := n.toNat_toInt
      rw [Int64.toNat_toUInt64_of_le (Int64.not_lt.mp hnonneg)]
      omega
    simp [toInt64?, hbelow]

theorem ofFloat?_eq_some {x : Float} {n : JsonNumber} (h : ofFloat? x = some n) :
    ∃ hfinite, n = .float x hfinite := by
  rw [ofFloat?] at h
  split at h
  · next hfinite => exact ⟨hfinite, (Option.some.inj h).symm⟩
  · cases h

instance : Json.Numbers where
  Number := JsonNumber
  ofInt64 := ofInt64
  ofFloat? := ofFloat?
  toInt64? := toInt64?
  toFloat := toFloat
  toInt64?_ofInt64 := toInt64?_ofInt64
  isSome_ofFloat? x := by
    by_cases hfinite : x.isFinite = true
    · simp [ofFloat?, hfinite]
    · simp [ofFloat?, hfinite]
  toInt64?_of_ofFloat? h := by
    obtain ⟨_, rfl⟩ := ofFloat?_eq_some h
    rfl
  toFloat_of_ofFloat? h := by
    obtain ⟨_, rfl⟩ := ofFloat?_eq_some h
    rfl

end JsonNumber

/-! ## Written documents -/

/-- Whole floats end in `.0`; an exponent stands from `1e+16` on and below `1e-5`. -/
def Json.numberLayout : Decimal.Layout where
  positional := some (-5, 15)
  wholeEnd := ".0"
  exponentSign := "+"
  tie := .even

def JsonNumber.write : JsonNumber → String
  | natural n => toString n.toNat
  | negative n _ => toString n.toInt
  | float x _ => Json.numberLayout.write x

namespace Json

/-- Two lower-case hexadecimal digits. -/
def hexPair (n : Nat) : List Char :=
  [Nat.digitChar (n / 16), Nat.digitChar (n % 16)]

/-- A character inside quotes: quotes, backslashes and control characters are escaped. -/
def escapeChar (c : Char) : List Char :=
  match c with
  | '"' => ['\\', '"']
  | '\\' => ['\\', '\\']
  | '\x08' => ['\\', 'b']
  | '\x0c' => ['\\', 'f']
  | '\n' => ['\\', 'n']
  | '\r' => ['\\', 'r']
  | '\t' => ['\\', 't']
  | c => if c.toNat < 0x20 then ['\\', 'u', '0', '0'] ++ hexPair c.toNat else [c]

def quote (text : String) : String :=
  String.ofList ('"' :: (text.toList.flatMap escapeChar ++ ['"']))

mutual

def compact : Json → String
  | null => "null"
  | boolean b => if b then "true" else "false"
  | number n => n.write
  | string text => quote text
  | array items => "[" ++ String.intercalate "," (compactItems items) ++ "]"
  | object fields => "\x7b" ++ String.intercalate "," (compactFields fields) ++ "\x7d"

def compactItems : List Json → List String
  | [] => []
  | item :: items => compact item :: compactItems items

def compactFields : List (String × Json) → List String
  | [] => []
  | (key, value) :: fields => (quote key ++ ":" ++ compact value) :: compactFields fields

end

/-- The start of a line at a level of nesting. -/
def newLine (level : Nat) : String :=
  String.ofList ('\n' :: List.replicate (2 * level) ' ')

/-- Written items between brackets, one a line; brackets without items stay together. -/
def block (level : Nat) (opening closing : String) (items : List String) : String :=
  if items.isEmpty then opening ++ closing
  else
    let separator := newLine (level + 1)
    opening ++ separator ++ String.intercalate ("," ++ separator) items ++ newLine level ++ closing

mutual

def prettyAt (level : Nat) : Json → String
  | array items => block level "[" "]" (prettyItems (level + 1) items)
  | object fields => block level "\x7b" "\x7d" (prettyFields (level + 1) fields)
  | json => compact json

def prettyItems (level : Nat) : List Json → List String
  | [] => []
  | item :: items => prettyAt level item :: prettyItems level items

def prettyFields (level : Nat) : List (String × Json) → List String
  | [] => []
  | (key, value) :: fields => (quote key ++ ": " ++ prettyAt level value) :: prettyFields level fields

end

def pretty (json : Json) : String := prettyAt 0 json

end Json

end FilterChain
