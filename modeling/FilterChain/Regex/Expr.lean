import FilterChain.Regex.Ast
import FilterChain.Unicode.CharSet

/-!
# Expressions

An expression is what a pattern means once its flags are applied: texts, sets of characters,
conditions on places, repetitions, captures, sequences and choices.

Expressions are put together in a simple form.  A sequence holds no sequences, no empty
expressions and no two texts side by side; a choice holds no choices, and branches that are
each one character are one set.  What all branches of a choice begin with is matched once, in
front of the choice: this decides how far a repetition at the front of the branches goes.
-/

namespace FilterChain.Regex

/-- A condition on the place between two characters. -/
inductive Look
  | textStart
  | textEnd
  /-- Behind a line end; a carriage return ends a line too where `crlf` holds. -/
  | lineStart (crlf : Bool)
  | lineEnd (crlf : Bool)
  | edge (kind : WordEdge) (unicode : Bool)
deriving DecidableEq, Repr

inductive Expr
  | empty
  /-- A text that is not empty. -/
  | literal (text : List Char)
  /-- One character of a set.  A set that was not read as Unicode is an expression of its
  own, even where another one has the same members. -/
  | chars (unicode : Bool) (set : CharSet)
  | look (look : Look)
  | repetition (body : Expr) (low : Nat) (high : Option Nat) (greedy : Bool)
  | capture (index : Nat) (name : Option String) (body : Expr)
  | concat (items : List Expr)
  | choice (branches : List Expr)
deriving Inhabited

namespace Expr

/-! ## Comparing expressions -/

mutual

def same : Expr → Expr → Bool
  | empty, empty => true
  | literal a, literal b => a == b
  | chars u a, chars v b => u == v && a == b
  | look a, look b => a == b
  | repetition a low high greedy, repetition b low' high' greedy' =>
    same a b && low == low' && high == high' && greedy == greedy'
  | capture i n a, capture j m b => i == j && n == m && same a b
  | concat as, concat bs => sameAll as bs
  | choice as, choice bs => sameAll as bs
  | _, _ => false

def sameAll : List Expr → List Expr → Bool
  | [], [] => true
  | a :: as, b :: bs => same a b && sameAll as bs
  | _, _ => false

end

mutual

theorem eq_of_same : (a b : Expr) → same a b = true → a = b
  | empty, b, h => by cases b <;> simp_all [same]
  | literal _, b, h => by cases b <;> simp_all [same]
  | chars _ _, b, h => by cases b <;> simp_all [same]
  | look _, b, h => by cases b <;> simp_all [same]
  | repetition a _ _ _, b, h => by
    cases b <;> simp_all [same]
    exact eq_of_same a _ h.1.1.1
  | capture _ _ a, b, h => by
    cases b <;> simp_all [same]
    exact eq_of_same a _ h.2
  | concat as, b, h => by
    cases b <;> simp_all [same]
    exact eq_of_sameAll as _ h
  | choice as, b, h => by
    cases b <;> simp_all [same]
    exact eq_of_sameAll as _ h

theorem eq_of_sameAll : (as bs : List Expr) → sameAll as bs = true → as = bs
  | [], bs, h => by cases bs <;> simp_all [sameAll]
  | a :: as, bs, h => by
    cases bs with
    | nil => simp [sameAll] at h
    | cons b bs =>
      simp only [sameAll, Bool.and_eq_true] at h
      rw [eq_of_same a b h.1, eq_of_sameAll as bs h.2]

end

mutual

theorem same_self : (a : Expr) → same a a = true
  | empty => rfl
  | literal _ => by simp [same]
  | chars _ _ => by simp [same]
  | look _ => by simp [same]
  | repetition a _ _ _ => by simp [same, same_self a]
  | capture _ _ a => by simp [same, same_self a]
  | concat as => by simp [same, sameAll_self as]
  | choice as => by simp [same, sameAll_self as]

theorem sameAll_self : (as : List Expr) → sameAll as as = true
  | [] => rfl
  | a :: as => by simp [sameAll, same_self a, sameAll_self as]

end

instance : DecidableEq Expr := fun a b =>
  if h : same a b then isTrue (eq_of_same a b h)
  else isFalse fun heq => h (heq ▸ same_self a)

/-! ## Lengths -/

mutual

/-- The length of the shortest text that can match, where conditions hold; nothing matches a
set without members. -/
def minLength : Expr → Option Nat
  | empty | look _ => some 0
  | literal text => some text.length
  | chars _ set => if set.isEmpty then none else some 1
  | repetition body low _ _ => body.minLength.map (low * ·)
  | capture _ _ body => body.minLength
  | concat items => sumMinLength items
  | choice branches => leastMinLength branches

def sumMinLength : List Expr → Option Nat
  | [] => some 0
  | item :: items => do return (← item.minLength) + (← sumMinLength items)

/-- Nothing is known of branches one of which has no matches. -/
def leastMinLength : List Expr → Option Nat
  | [] => none
  | [branch] => branch.minLength
  | branch :: branches => do return min (← branch.minLength) (← leastMinLength branches)

end

/-- Whether every match takes some text. -/
def takesText (expr : Expr) : Bool := expr.minLength.any (0 < ·)

mutual

/-- Whether only the empty text can match. -/
def isWidthless : Expr → Bool
  | empty | look _ => true
  | literal _ | chars .. => false
  | repetition body _ _ _ => body.isWidthless
  | capture _ _ body => body.isWidthless
  | concat items => allWidthless items
  | choice branches => allWidthless branches

def allWidthless : List Expr → Bool
  | [] => true
  | item :: items => item.isWidthless && allWidthless items

end

/-! ## Putting expressions together -/

/-- Matches nothing at all. -/
def fail : Expr := chars false []

/-- One character of a set; the only member of a set is a text. -/
def ofSet (unicode : Bool) (set : CharSet) : Expr :=
  match set.single? with
  | some c => literal [c]
  | none => if set.isEmpty then fail else chars unicode set

/-- A repetition in its simplest form: what matches no text need not be repeated, no round
at all is the empty expression, and one round is the body itself. -/
def repeated (body : Expr) (low : Nat) (high : Option Nat) (greedy : Bool) : Expr :=
  let (low, high) := if body.isWidthless then (min low 1, some ((high.map (min · 1)).getD 1))
    else (low, high)
  if high = some 0 then empty
  else if low = 1 ∧ high = some 1 then body
  else repetition body low high greedy

/-- The items of an expression as part of a sequence. -/
def asItems : Expr → List Expr
  | empty => []
  | concat items => items
  | item => [item]

/-- Puts an item in front of a sequence. -/
def consItem : Expr → List Expr → List Expr
  | literal text, literal more :: items => literal (text ++ more) :: items
  | item, items => item :: items

/-- Expressions that match one behind the other. -/
def sequence (items : List Expr) : Expr :=
  match (items.flatMap asItems).foldr consItem [] with
  | [] => empty
  | [item] => item
  | items => concat items

def asBranches : Expr → List Expr
  | choice branches => branches
  | branch => [branch]

/-- The set of an expression that is one character. -/
def letterSet? : Expr → Option CharSet
  | literal [c] => some (CharSet.single c)
  | _ => none

def classSet? : Expr → Option CharSet
  | chars _ set => some set
  | _ => none

/-- Expressions one of which matches, the first one preferred.  Branches that are all letters
or all sets are one set. -/
def either (branches : List Expr) : Expr :=
  match branches.flatMap asBranches with
  | [] => fail
  | [branch] => branch
  | branches =>
    match branches.mapM letterSet? <|> branches.mapM classSet? with
    | some sets => ofSet true (CharSet.unionAll sets)
    | none => choice branches

/-- The items that two sequences begin with. -/
def sharedFront : List Expr → List Expr → List Expr
  | a :: as, b :: bs => if a = b then a :: sharedFront as bs else []
  | _, _ => []

def sequenceItems : Expr → List Expr
  | concat items => items
  | _ => []

/-- What all branches begin with, if all of them are sequences. -/
def branchesFront : List Expr → List Expr
  | [] => []
  | branch :: branches =>
    branches.foldl (fun front other => sharedFront front other.sequenceItems) branch.sequenceItems

/-- As `either`, with the common front of the branches before the choice between their rests. -/
def alternation (branches : List Expr) : Expr :=
  match branches.flatMap asBranches with
  | [] => fail
  | [branch] => branch
  | branches =>
    match branchesFront branches with
    | [] => either branches
    | front =>
      let rests := branches.map fun branch => sequence (branch.sequenceItems.drop front.length)
      sequence (front ++ [either rests])

end Expr

end FilterChain.Regex
