import Mathlib
import FilterChain.Tree.Parser

/-!
# The grammar of expressions

Each relation says which sequences of tokens stand for a part of an expression, and
for which part.  They know nothing of the parser: repetition grows at its end, and
the only place where a sequence could be read in two ways, a path behind a path, is
settled by taking a path as long as possible.
-/

namespace FilterChain.Grammar

/-- A word of digits, and its value if that has at most 63 bits. -/
structure IsNumber (word : String) (n : Nat) : Prop where
  ne_empty : word ≠ ""
  digits : ∀ c ∈ word.toList, c.isDigit = true
  value : Decimal.natOfDigits word.toList = n
  bound : n < 2 ^ 63

/-- An optional sign, which is true for a minus. -/
inductive IsSign : List Token → Bool → Prop
  | none : IsSign [] false
  | plus : IsSign [.plus] false
  | minus : IsSign [.minus] true

inductive IsArgument : List Token → Literal → Prop
  | string (text : String) : IsArgument [.string text] (.string text)
  | float {sign : List Token} {negative : Bool} (x : Float) (hsign : IsSign sign negative) :
      IsArgument (sign ++ [.float x]) (.float (if negative then -x else x))
  | integer {sign : List Token} {negative : Bool} {word : String} {m : Nat} {n : Int64}
      (hsign : IsSign sign negative) (hword : IsNumber word m)
      (hn : n.toInt = if negative then -(m : Int) else m) :
      IsArgument (sign ++ [.word word]) (.integer n)

inductive IsBound : List Token → Int64 → Prop
  | plain {word : String} {m : Nat} {n : Int64} (hword : IsNumber word m) (hn : n.toInt = m) :
      IsBound [.word word] n
  | negative {word : String} {m : Nat} {n : Int64} (hword : IsNumber word m)
      (hn : n.toInt = -(m : Int)) : IsBound [.minus, .word word] n

inductive IsEntry : List Token → SubsetEntry → Prop
  | index {tokens : List Token} {n : Int64} (hn : IsBound tokens n) (hle : 0 ≤ n) :
      IsEntry tokens (.index n)
  | range {low high : List Token} {lo hi : Int64} (hlo : IsBound low lo)
      (hhi : IsBound high hi) : IsEntry (low ++ .minus :: high) (.range lo hi)

/-- One or more items with commas between them. -/
inductive IsListOf {α : Type} (item : List Token → α → Prop) : List Token → List α → Prop
  | one {tokens : List Token} {x : α} (hitem : item tokens x) : IsListOf item tokens [x]
  | more {front tokens : List Token} {xs : List α} {x : α} (hfront : IsListOf item front xs)
      (hitem : item tokens x) : IsListOf item (front ++ .comma :: tokens) (xs ++ [x])

inductive IsPath : List Token → List String → Prop
  | one (name : String) : IsPath [.dot, .word name] [name]
  | more {front : List Token} {path : List String} (name : String) (hfront : IsPath front path) :
      IsPath (front ++ [.dot, .word name]) (path ++ [name])

inductive IsFilter : List Token → Filter → Prop
  | function (name : String) : IsFilter [.word name] (.function name [])
  | call {tokens : List Token} {arguments : List Literal} (name : String)
      (harguments : IsListOf IsArgument tokens arguments) :
      IsFilter (.word name :: .openParen :: (tokens ++ [.closeParen])) (.function name arguments)
  | access (name : String) : IsFilter [.less, .word name] (.access name)
  | assign (name : String) : IsFilter [.greater, .word name] (.assign name)
  | property {tokens : List Token} {path : List String} (hpath : IsPath tokens path) :
      IsFilter tokens (.property path)
  | subset {tokens : List Token} {entries : List SubsetEntry}
      (hentries : IsListOf IsEntry tokens entries) :
      IsFilter (.openBracket :: (tokens ++ [.closeBracket])) (.subset entries)
  | matching (find flags : String) : IsFilter [.matching find flags] (.matching find flags)
  | substitution (find replace flags : String) :
      IsFilter [.substitution find replace flags] (.substitution find replace flags)

/-- The filter that these tokens start may follow a chain without a pipe.  A point does not
start a filter behind a path, since the path takes it. -/
def Abuts (chain : Chain) (tokens : List Token) : Prop :=
  tokens.head? = some .less ∨ tokens.head? = some .greater ∨ tokens.head? = some .openBracket ∨
    (tokens.head? = some .dot ∧ ∀ path, chain.getLast? ≠ some (.property path))

inductive IsChain : List Token → Chain → Prop
  | one {tokens : List Token} {filter : Filter} (hfilter : IsFilter tokens filter) :
      IsChain tokens [filter]
  | piped {front tokens : List Token} {chain : Chain} {filter : Filter}
      (hfront : IsChain front chain) (hfilter : IsFilter tokens filter) :
      IsChain (front ++ .pipe :: tokens) (chain ++ [filter])
  | abutting {front tokens : List Token} {chain : Chain} {filter : Filter}
      (hfront : IsChain front chain) (hfilter : IsFilter tokens filter)
      (habuts : Abuts chain tokens) : IsChain (front ++ tokens) (chain ++ [filter])

/-- Chains with commas between them. -/
def IsTree : List Token → Tree → Prop := IsListOf IsChain

/-- Tokens that can go on to those of an expression and the end behind them. -/
def Viable (tokens : List Token) : Prop :=
  ∃ more full tree, IsTree full tree ∧ tokens ++ more = full ++ [.eof]

/-! ## First tokens -/

theorem IsSign.head {sign : List Token} {negative : Bool} (hsign : IsSign sign negative)
    (token : Token) : ∃ first rest, sign ++ [token] = first :: rest ∧
      (first = .plus ∨ first = .minus ∨ first = token) := by
  cases hsign with
  | none => exact ⟨token, [], rfl, .inr (.inr rfl)⟩
  | plus => exact ⟨.plus, [token], rfl, .inl rfl⟩
  | minus => exact ⟨.minus, [token], rfl, .inr (.inl rfl)⟩

theorem IsArgument.head {tokens : List Token} {argument : Literal}
    (hargument : IsArgument tokens argument) :
    ∃ first rest, tokens = first :: rest ∧ first ≠ .closeParen := by
  cases hargument with
  | string text => exact ⟨.string text, [], rfl, by simp⟩
  | float x hsign =>
      obtain ⟨first, rest, heq, hfirst⟩ := hsign.head (.float x)
      refine ⟨first, rest, heq, ?_⟩
      rcases hfirst with rfl | rfl | rfl <;> simp
  | @integer _ _ word _ _ hsign _ _ =>
      obtain ⟨first, rest, heq, hfirst⟩ := hsign.head (.word word)
      refine ⟨first, rest, heq, ?_⟩
      rcases hfirst with rfl | rfl | rfl <;> simp

theorem IsBound.head {tokens : List Token} {n : Int64} (hbound : IsBound tokens n) :
    ∃ first rest, tokens = first :: rest ∧ first ≠ .closeBracket := by
  cases hbound with
  | @plain word _ _ _ _ => exact ⟨.word word, [], rfl, by simp⟩
  | @negative word _ _ _ _ => exact ⟨.minus, [.word word], rfl, by simp⟩

theorem IsEntry.head {tokens : List Token} {entry : SubsetEntry} (hentry : IsEntry tokens entry) :
    ∃ first rest, tokens = first :: rest ∧ first ≠ .closeBracket := by
  cases hentry with
  | index hbound _ => exact hbound.head
  | @range _ high _ _ hlo _ =>
      obtain ⟨first, rest, rfl, hfirst⟩ := hlo.head
      exact ⟨first, rest ++ .minus :: high, rfl, hfirst⟩

theorem IsListOf.head {α : Type} {item : List Token → α → Prop} {P : Token → Prop}
    (hhead : ∀ {tokens x}, item tokens x → ∃ first rest, tokens = first :: rest ∧ P first)
    {tokens : List Token} {xs : List α} (hlist : IsListOf item tokens xs) :
    ∃ first rest, tokens = first :: rest ∧ P first := by
  induction hlist with
  | one hitem => exact hhead hitem
  | @more _ tokens _ _ _ _ ih =>
      obtain ⟨first, rest, rfl, hfirst⟩ := ih
      exact ⟨first, rest ++ .comma :: tokens, rfl, hfirst⟩

end FilterChain.Grammar
