import FilterChain.Value
import FilterChain.Json.Basic

/-!
# Values and JSON

A whole number in the range of 64-bit signed integers is an integer and any other
number a float.  A float that is not finite has no JSON number and becomes null.
-/

namespace FilterChain

variable [Json.Numbers]

def Value.ofJsonNumber (n : Json.Numbers.Number) : Value :=
  match Json.Numbers.toInt64? n with
  | some i => .integer i
  | none => .float (Json.Numbers.toFloat n)

namespace Value

mutual

def ofJson : Json → Value
  | .null => null
  | .boolean b => boolean b
  | .number n => ofJsonNumber n
  | .string text => string text
  | .array items => array (ofJsonItems items)
  | .object fields => object (ofJsonFields fields)

def ofJsonItems : List Json → List Value
  | [] => []
  | item :: items => ofJson item :: ofJsonItems items

def ofJsonFields : List (String × Json) → List (String × Value)
  | [] => []
  | (key, value) :: fields => (key, ofJson value) :: ofJsonFields fields

end

/-- The JSON number of a float, or null. -/
def jsonOfFloat (x : Float) : Json :=
  match Json.Numbers.ofFloat? x with
  | some n => .number n
  | none => .null

mutual

def toJson : Value → Json
  | null => .null
  | boolean b => .boolean b
  | integer n => .number (Json.Numbers.ofInt64 n)
  | float x => jsonOfFloat x
  | string text => .string text
  | array items => .array (toJsonItems items)
  | object fields => .object (toJsonFields fields)

def toJsonItems : List Value → List Json
  | [] => []
  | item :: items => toJson item :: toJsonItems items

def toJsonFields : List (String × Value) → List (String × Json)
  | [] => []
  | (key, value) :: fields => (key, toJson value) :: toJsonFields fields

end

end Value

end FilterChain
