import FilterChain.Dictionary
import FilterChain.Decimal.Layout
import FilterChain.Decimal.Reading
import FilterChain.Text

/-!
# Values

A value flows through a chain or is stored in the context.  Whole numbers and floats
are kept apart.  The fields of an object stand in key order.
-/

namespace FilterChain

inductive Value
  | null
  | boolean (b : Bool)
  | float (x : Float)
  | integer (n : Int64)
  | string (text : String)
  | array (items : List Value)
  | object (fields : List (String × Value))
deriving Inhabited

/-- Whether a float counts as useful: neither a zero nor NaN. -/
def isUsefulFloat (x : Float) : Bool :=
  !(x == 0) && !x.isNaN

namespace Value

/-- A value is useful unless it is null, false, zero, NaN or the empty string. -/
def isTruthy : Value → Bool
  | null => false
  | boolean b => b
  | float x => isUsefulFloat x
  | integer n => n ≠ 0
  | string text => !text.isEmpty
  | array _ | object _ => true

/-- The value under a key of an object, or at a position of an array. -/
def lookup (value : Value) (key : String) : Option Value :=
  match value with
  | object fields => Entries.find? fields key
  | array items => (Decimal.count? key.toList).bind fun n => items[n]?
  | _ => none

/-- A field as filters read it: as `lookup`, and `length` counts the UTF-16 units of a
string and the items of an array. -/
def field (value : Value) (key : String) : Option Value :=
  match value, key with
  | string text, "length" => some (integer (Int64.ofNat (units16 text.toList)))
  | array items, "length" => some (integer (Int64.ofNat items.length))
  | value, key => value.lookup key

/-- The name of a value's type in messages. -/
def typeName : Value → String
  | null => "null"
  | boolean _ => "boolean"
  | integer _ => "integer"
  | float _ => "float"
  | string _ => "string"
  | array _ => "array"
  | object _ => "object"

mutual

/-- The text of a value when it is glued to others: null is empty, and the items of an
array are joined by commas. -/
def display : Value → String
  | null => ""
  | boolean b => if b then "true" else "false"
  | integer n => toString n.toInt
  | float x => Decimal.plain.write x
  | string text => text
  | array items => String.intercalate "," (displayAll items)
  | object _ => "[object Object]"

def displayAll : List Value → List String
  | [] => []
  | item :: items => item.display :: displayAll items

end

end Value

end FilterChain
