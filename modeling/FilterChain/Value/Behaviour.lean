import FilterChain.Error
import FilterChain.Pattern
import FilterChain.Value

/-!
# What filters do with a value

A path is followed field by field, and every value on the way must be useful.  An error
names the path up to the field that is missing or not useful.

A subset picks positions and ranges out of an array.  A position that is missing, or whose
item is not useful, is left out; a range keeps all of its items.  A bound below zero counts
from the end.  The upper end of a range belongs to it if the lower bound is not below zero.
Bounds and lengths are numbers of 64 bits.

A match gives all matches of a pattern that asks for all, and otherwise the first match
with its groups.  A substitution replaces the matches in a string, or in each string of an
array.
-/

namespace FilterChain.Value

/-! ## Fields and paths -/

/-- Follows a path from a value that was reached by other fields. -/
def followFrom (walked : List String) (value : Value) : List String → Except FilterError Value
  | [] => .ok value
  | name :: path =>
    let walked := walked ++ [name]
    match value.field name with
    | some next =>
      if next.isTruthy then followFrom walked next path
      else .error (.node (.missingProperty walked))
    | none => .error (.node (.missingProperty walked))

/-- Follows a path: `.a.b`. -/
def follow (value : Value) (path : List String) : Except FilterError Value :=
  if value.isTruthy then value.followFrom [] path else .error (.node .propertyOfNothing)

/-- Reads one field: `< name`. -/
def access (value : Value) (name : String) : Except FilterError Value :=
  if value.isTruthy then
    match value.field name with
    | some next => if next.isTruthy then .ok next else .error (.type .missingField)
    | none => .error (.type .missingField)
  else .error (.type .accessOfNothing)

/-! ## Subsets -/

/-- One more, except that the largest number stays. -/
def saturatingSucc (n : Int64) : Int64 :=
  if n = Int64.maxValue then n else n + 1

/-- The place in a list of some length that a bound denotes. -/
def resolve (length bound : Int64) : Int64 :=
  if bound < 0 then max (length + bound) 0 else min bound length

/-- The items from one bound up to, and without, another. -/
def slice (items : List Value) (start stop : Int64) : List Value :=
  let length := Int64.ofNat items.length
  let start := resolve length start
  let stop := resolve length stop
  if stop ≤ start then [] else items.extract start.toUInt64.toNat stop.toUInt64.toNat

theorem mem_of_mem_slice {items : List Value} {start stop : Int64} {item : Value}
    (hmem : item ∈ slice items start stop) : item ∈ items := by
  unfold slice at hmem
  dsimp only at hmem
  split at hmem
  · cases hmem
  · exact List.mem_of_mem_drop (List.mem_of_mem_take hmem)

def rangeOf (items : List Value) (lo hi : Int64) : List Value :=
  slice items lo (if 0 ≤ lo then saturatingSucc hi else hi)

/-- The item at a position, if it is useful. -/
def itemAt (value : Value) (n : Int64) : List Value :=
  ((value.lookup (toString n.toInt)).filter isTruthy).toList

def pick (value : Value) : SubsetEntry → Except FilterError (List Value)
  | .index n => .ok (value.itemAt n)
  | .range lo hi =>
    match value with
    | array items => .ok (rangeOf items lo hi)
    | _ => .error (.type .rangeOfOther)

/-- Picks entries out of an array, or positions out of an object: `[0, 2-4]`. -/
def subset (value : Value) (entries : List SubsetEntry) : Except FilterError Value :=
  match value with
  | array _ | object _ => do return array (← entries.mapM value.pick).flatten
  | _ => .error (.type .subsetOfOther)

/-! ## Matches and substitutions -/

def ofChars (text : List Char) : Value := string (String.ofList text)

/-- The first match and its groups, where a group that took no part is null. -/
def ofHit (hit : Regex.Hit) : List Value :=
  ofChars hit.text :: hit.groups.map fun group => (group.map ofChars).getD null

variable [Regex.Engine]

/-- What a match of a pattern in a text gives. -/
def matchesIn (pattern : Pattern) (text : List Char) : List Value :=
  let hits := (pattern.hits text).1
  if pattern.global then hits.map fun hit => ofChars hit.text
  else hits.flatMap ofHit

/-- Finds a pattern: `m/find/flags`. -/
def matching (value : Value) (pattern flags : String) : Except FilterError Value :=
  match value with
  | string text => do
    let pattern ← (Pattern.compile pattern flags).mapError .node
    return array (matchesIn pattern text.toList)
  | _ => .error (.type .matchOfOther)

def replaceIn (pattern : Pattern) (replacement : String) : Value → Except FilterError Value
  | string text => .ok (string (pattern.replace text replacement))
  | _ => .error (.type .substitutionOfOther)

/-- Replaces a pattern: `s/find/replace/flags`. -/
def substitute (value : Value) (pattern replacement flags : String) : Except FilterError Value :=
  match value with
  | string _ => do
    let pattern ← (Pattern.compile pattern flags).mapError .node
    replaceIn pattern replacement value
  | array items => do
    let pattern ← (Pattern.compile pattern flags).mapError .node
    return array (← items.mapM (replaceIn pattern replacement))
  | _ => .error (.type .substitutionOfOther)

end FilterChain.Value
