import FilterChain.Decimal.Layout

/-!
# Tokens of the filter language

Names and whole numbers are both words; the parser decides which one a word is.
A match or substitution is a single token that holds its sections as written.

A place is a line and a column, both counted from one.  Columns count
characters, and only a line feed starts a new line.
-/

namespace FilterChain

/-! ## Places in a text -/

structure Position where
  line : Nat
  column : Nat
deriving DecidableEq, Repr, Inhabited

namespace Position

/-- The place of the first character of a text. -/
def start : Position := ⟨1, 1⟩

/-- The place behind one character. -/
def after (place : Position) (c : Char) : Position :=
  if c = '\n' then ⟨place.line + 1, 1⟩ else ⟨place.line, place.column + 1⟩

/-- The place behind a whole text. -/
def afterAll (place : Position) (text : List Char) : Position :=
  text.foldl after place

@[simp] theorem afterAll_nil (place : Position) : place.afterAll [] = place := rfl

@[simp] theorem afterAll_cons (place : Position) (c : Char) (text : List Char) :
    place.afterAll (c :: text) = (place.after c).afterAll text := rfl

end Position

/-! ## Tokens -/

inductive Token
  | word (text : String)
  | float (value : Float)
  | string (text : String)
  | matching (find flags : String)
  | substitution (find replace flags : String)
  | pipe
  | comma
  | less
  | greater
  | dot
  | openBracket
  | closeBracket
  | openParen
  | closeParen
  | minus
  | plus
  | eof
deriving DecidableEq, Inhabited

/-- A token and the place of its first character. -/
structure Spanned where
  token : Token
  place : Position
deriving DecidableEq, Inhabited

namespace Token

/-- The marks `.`, `<` and `>`, behind which a word is a field name. -/
def isSigil : Token → Bool
  | dot | less | greater => true
  | _ => false

/-- How a token reads in an error message. -/
def describe : Token → String
  | word text => "'" ++ text ++ "'"
  | float value => "number " ++ Decimal.plain.write value
  | string text => "string \"" ++ text ++ "\""
  | matching _ _ => "match expression"
  | substitution _ _ _ => "substitution expression"
  | pipe => "'|'"
  | comma => "','"
  | less => "'<'"
  | greater => "'>'"
  | dot => "'.'"
  | openBracket => "'['"
  | closeBracket => "']'"
  | openParen => "'('"
  | closeParen => "')'"
  | minus => "'-'"
  | plus => "'+'"
  | eof => "end of input"

end Token

end FilterChain
