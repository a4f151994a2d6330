import FilterChain.Tree
import FilterChain.Unicode.Property

/-!
# Outlines

An outline shows an expression as nested blocks.  Every item of a block stands on a line of
its own, indented by four spaces a level and with a comma behind it; a list without items
stays on one line.

A text in an outline stands between double quotes and is written so that every character shows:
those that do not show in print are written by their codes.
-/

namespace FilterChain

/-! ## Quoted text -/

/-- Whether a character is written by its code. -/
def isHidden (c : Char) : Bool :=
  if c.toNat < 0x80 then c.toNat < 0x20 || c.toNat == 0x7F
  else Unicode.hiddenChars.hasChar c

def quotedChar (c : Char) : List Char :=
  match c with
  | '\x00' => ['\\', '0']
  | '\t' => ['\\', 't']
  | '\r' => ['\\', 'r']
  | '\n' => ['\\', 'n']
  | '"' => ['\\', '"']
  | '\\' => ['\\', '\\']
  | c => if isHidden c then '\\' :: 'u' :: '{' :: (Nat.toDigits 16 c.toNat ++ ['}']) else [c]

def quoted (text : String) : String :=
  String.ofList ('"' :: (text.toList.flatMap quotedChar ++ ['"']))

/-! ## Outlines -/

inductive Outline
  | atom (text : String)
  | list (items : List Outline)
  | call (name : String) (items : List Outline)
  | fields (name : String) (items : List (String × Outline))
deriving Inhabited

namespace Outline

def indent (level : Nat) : String := String.ofList (List.replicate (4 * level) ' ')

/-- Items in brackets, where each is given with its line's indentation. -/
def block (level : Nat) (opening closing : String) (items : List String) : String :=
  opening ++ "\n" ++ String.join (items.map fun item => item ++ ",\n") ++ indent level ++ closing

mutual

/-- The text of an outline; its first line is not indented. -/
def writeAt (level : Nat) : Outline → String
  | atom text => text
  | list [] => "[]"
  | list items => block level "[" "]" (writeAll (level + 1) items)
  | call name items => block level (name ++ "(") ")" (writeAll (level + 1) items)
  | fields name items => block level (name ++ " \x7b") "\x7d" (writeFields (level + 1) items)

def writeAll (level : Nat) : List Outline → List String
  | [] => []
  | item :: items => (indent level ++ item.writeAt level) :: writeAll level items

def writeFields (level : Nat) : List (String × Outline) → List String
  | [] => []
  | (name, item) :: items =>
    (indent level ++ name ++ ": " ++ item.writeAt level) :: writeFields level items

end

def write (outline : Outline) : String := outline.writeAt 0

/-- Whole numbers end in `.0`; an exponent stands from `1e16` on and below `0.0001`. -/
def floatLayout : Decimal.Layout where
  positional := some (-4, 15)
  wholeEnd := ".0"
  exponentSign := ""
  tie := .up

def ofText (text : String) : Outline := atom (quoted text)

def ofInt64 (n : Int64) : Outline := atom (toString n.toInt)

def ofLiteral : Literal → Outline
  | .string text => call "String" [ofText text]
  | .integer n => call "Integer" [ofInt64 n]
  | .float x => call "Float" [atom (floatLayout.write x)]

def ofEntry : SubsetEntry → Outline
  | .index n => call "Index" [ofInt64 n]
  | .range lo hi => call "Range" [ofInt64 lo, ofInt64 hi]

def ofFilter : Filter → Outline
  | .function name arguments =>
    fields "Function" [("name", ofText name), ("arguments", list (arguments.map ofLiteral))]
  | .property path => fields "Property" [("path", list (path.map ofText))]
  | .access name => fields "Access" [("name", ofText name)]
  | .assign name => fields "Assign" [("name", ofText name)]
  | .subset entries => fields "Subset" [("entries", list (entries.map ofEntry))]
  | .matching pattern flags =>
    fields "Match" [("pattern", ofText pattern), ("flags", ofText flags)]
  | .substitution pattern replacement flags =>
    fields "Substitute" [("pattern", ofText pattern), ("replacement", ofText replacement),
      ("flags", ofText flags)]

def ofChain (chain : Chain) : Outline :=
  fields "Chain" [("filters", list (chain.map ofFilter))]

def ofTree (tree : Tree) : Outline :=
  fields "Tree" [("chains", list (tree.map ofChain))]

end Outline

end FilterChain
