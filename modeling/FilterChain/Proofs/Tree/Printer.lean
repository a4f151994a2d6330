import FilterChain.Proofs.Tree.Grammar
import FilterChain.Proofs.Token.Spelling

/-!
# Printing expressions

An expression is printed with a pipe between filters and a comma between chains,
arguments and entries.  The way strings are quoted is left open: either quote will do,
and a character that has an escape may be escaped or not.  A tree is well formed if
its parts are such as a text can hold.
-/

namespace FilterChain

open Lexer

/-! ## Quoted strings -/

/-- The quote around literals, and the characters that are escaped without need. -/
structure Quoting where
  double : Bool
  escapes : Char → Bool

/-- The letter that stands behind a backslash for a character. -/
def escape? : Char → Option Char
  | '\n' => some 'n'
  | '\t' => some 't'
  | '\r' => some 'r'
  | '"' => some '"'
  | '\'' => some '\''
  | '\\' => some '\\'
  | _ => none

theorem escaped?_of_escape? {c e : Char} (he : escape? c = some e) : escaped? e = some c := by
  unfold escape? at he
  split at he <;> cases he <;> rfl

namespace Quoting

def mark (quoting : Quoting) : Char := if quoting.double then '"' else '\''

theorem mark_eq (quoting : Quoting) : quoting.mark = '"' ∨ quoting.mark = '\'' := by
  unfold mark
  split
  · exact .inl rfl
  · exact .inr rfl

def write (quoting : Quoting) (c : Char) : List Char :=
  if c = quoting.mark ∨ c = '\\' ∨ quoting.escapes c = true then
    match escape? c with
    | some e => ['\\', e]
    | none => [c]
  else [c]

def quote (quoting : Quoting) (text : List Char) : List Char :=
  quoting.mark :: (text.flatMap quoting.write ++ [quoting.mark])

theorem quotedBody_write (quoting : Quoting) (c : Char) {body value : List Char}
    (hbody : QuotedBody quoting.mark body value) :
    QuotedBody quoting.mark (quoting.write c ++ body) (c :: value) := by
  unfold write
  split
  next =>
    split
    next e he => exact .escape (escaped?_of_escape? he) hbody
    next hnone =>
      refine .plain ?_ ?_ hbody
      · rintro rfl
        rcases quoting.mark_eq with hmark | hmark <;> simp [hmark, escape?] at hnone
      · rintro rfl
        simp [escape?] at hnone
  next hplain =>
    simp only [not_or] at hplain
    exact .plain hplain.1 hplain.2.1 hbody

theorem quotedBody_flatMap (quoting : Quoting) (text : List Char) :
    QuotedBody quoting.mark (text.flatMap quoting.write) text := by
  induction text with
  | nil => exact .nil
  | cons c text ih => exact quoting.quotedBody_write c ih

end Quoting

/-! ## Texts of expressions -/

def commas (texts : List (List Char)) : List Char :=
  [',', ' '].intercalate texts

def Literal.render (quoting : Quoting) : Literal → List Char
  | .string text => quoting.quote text.toList
  | .integer n => (toString n).toList
  | .float x => (Decimal.plain.write x).toList

def SubsetEntry.render : SubsetEntry → List Char
  | .index n => (toString n).toList
  | .range lo hi => (toString lo).toList ++ '-' :: (toString hi).toList

def Filter.render (quoting : Quoting) : Filter → List Char
  | .function name [] => name.toList
  | .function name arguments =>
      name.toList ++ '(' :: (commas (arguments.map (Literal.render quoting)) ++ [')'])
  | .property path => path.flatMap fun name => '.' :: name.toList
  | .access name => '<' :: ([' '] ++ name.toList)
  | .assign name => '>' :: ([' '] ++ name.toList)
  | .subset entries => '[' :: (commas (entries.map SubsetEntry.render) ++ [']'])
  | .matching find flags => 'm' :: '/' :: (find.toList ++ '/' :: flags.toList)
  | .substitution find replace flags =>
      's' :: '/' :: (find.toList ++ '/' :: (replace.toList ++ '/' :: flags.toList))

def Chain.render (quoting : Quoting) (chain : Chain) : List Char :=
  [' ', '|', ' '].intercalate (chain.map (Filter.render quoting))

def Tree.render (quoting : Quoting) (tree : Tree) : String :=
  String.ofList (commas (tree.map (Chain.render quoting)))

/-! ## Well-formed expressions -/

def IsName (name : String) : Prop :=
  name ≠ "" ∧ ∀ c ∈ name.toList, isWordChar c = true

def IsPattern (pattern : String) : Prop :=
  pattern ≠ "" ∧ Section pattern.toList

def AreFlags (flags : String) : Prop :=
  ∀ c ∈ flags.toList, isFlag c = true

/-- Any integer but the least one, whose digits without their sign are out of range. -/
def IsSignedNumber (n : Int64) : Prop :=
  -(Int64.maxValue.toInt) ≤ n.toInt ∧ n.toInt ≤ Int64.maxValue.toInt

def Literal.WellFormed : Literal → Prop
  | .integer n => IsSignedNumber n
  | _ => True

def SubsetEntry.WellFormed : SubsetEntry → Prop
  | .index n => 0 ≤ n
  | .range lo hi => IsSignedNumber lo ∧ IsSignedNumber hi

def Filter.WellFormed : Filter → Prop
  | .function name arguments => IsName name ∧ ∀ argument ∈ arguments, argument.WellFormed
  | .property path => path ≠ [] ∧ ∀ name ∈ path, IsName name
  | .access name => IsName name
  | .assign name => IsName name
  | .subset entries => entries ≠ [] ∧ ∀ entry ∈ entries, entry.WellFormed
  | .matching find flags => IsPattern find ∧ AreFlags flags
  | .substitution find replace flags =>
      IsPattern find ∧ Section replace.toList ∧ AreFlags flags

def Chain.WellFormed (chain : Chain) : Prop :=
  chain ≠ [] ∧ ∀ filter ∈ chain, filter.WellFormed

def Tree.WellFormed (tree : Tree) : Prop :=
  tree ≠ [] ∧ ∀ chain ∈ tree, Chain.WellFormed chain

def Filter.FloatFree : Filter → Prop
  | .function _ arguments => ∀ x, Literal.float x ∉ arguments
  | _ => True

def Tree.FloatFree (tree : Tree) : Prop :=
  ∀ chain ∈ tree, ∀ filter ∈ chain, filter.FloatFree

end FilterChain
