import FilterChain.Regex.Space

/-!
# Programs

An expression becomes a list of instructions.  A split names the instructions that may come
next, the preferred one first.  Code is laid out from its end, so that each part knows the
instruction that follows it.
-/

namespace FilterChain.Regex

inductive Inst
  /-- Takes one character of a set. -/
  | chars (set : CharSet) (next : Nat)
  | look (look : Look) (next : Nat)
  /-- Stores the place in a slot. -/
  | save (slot : Nat) (next : Nat)
  | split (targets : List Nat)
  | accept
deriving Inhabited

abbrev Code := Array Inst

/-- Lays out a part in front of an instruction, and gives the part's own first instruction. -/
abbrev Fragment := (next : Nat) → Code → Nat × Code

namespace Fragment

def one (inst : Nat → Inst) : Fragment := fun next code =>
  (code.size, code.push (inst next))

/-- A choice between a part and what follows it. -/
def branch (greedy : Bool) (entry next : Nat) : Inst :=
  .split (if greedy then [entry, next] else [next, entry])

def copies (part : Fragment) : Nat → Fragment
  | 0 => fun next code => (next, code)
  | count + 1 => fun next code =>
    let (entry, code) := copies part count next code
    part entry code

/-- At most so many copies of a part, each inside the option of the one before it. -/
def options (part : Fragment) (greedy : Bool) : Nat → Fragment
  | 0 => fun next code => (next, code)
  | count + 1 => fun next code =>
    let (inner, code) := options part greedy count next code
    let (entry, code) := part inner code
    (code.size, code.push (branch greedy entry next))

def plus (part : Fragment) (greedy : Bool) : Fragment := fun next code =>
  let again := code.size
  let (entry, code) := part again (code.push (.split []))
  (entry, code.setIfInBounds again (branch greedy entry next))

/-- Any number of copies of a part.  The loop of a part that takes text is entered at its
split; a part that may be empty is an option of one copy or more. -/
def star (part : Fragment) (takesText greedy : Bool) : Fragment := fun next code =>
  let again := code.size
  let (entry, code) := plus part greedy next code
  if takesText then (again, code)
  else (code.size, code.push (branch greedy entry next))

def repetition (part : Fragment) (takesText : Bool) (low : Nat) (high : Option Nat)
    (greedy : Bool) : Fragment := fun next code =>
  match high with
  | some high =>
    let (entry, code) := options part greedy (high - low) next code
    copies part low entry code
  | none =>
    match low with
    | 0 => star part takesText greedy next code
    | more + 1 =>
      let (entry, code) := plus part greedy next code
      copies part more entry code

end Fragment

namespace Expr

mutual

def fragment : Expr → Fragment
  | empty => fun next code => (next, code)
  | literal text => fun next code =>
    text.foldr (fun c (next, code) => Fragment.one (.chars (CharSet.single c)) next code)
      (next, code)
  | chars _ set => .one (.chars set)
  | look kind => .one (.look kind)
  | repetition body low high greedy =>
    Fragment.repetition body.fragment body.takesText low high greedy
  | capture index _ body => fun next code =>
    let (stop, code) := Fragment.one (.save (2 * index + 1)) next code
    let (entry, code) := body.fragment stop code
    Fragment.one (.save (2 * index)) entry code
  | concat items => fragmentAll items
  | choice branches => fun next code =>
    let (targets, code) := fragmentBranches branches next code
    (code.size, code.push (.split targets))

def fragmentAll : List Expr → Fragment
  | [] => fun next code => (next, code)
  | item :: items => fun next code =>
    let (entry, code) := fragmentAll items next code
    item.fragment entry code

def fragmentBranches : List Expr → (next : Nat) → Code → List Nat × Code
  | [] => fun _ code => ([], code)
  | branch :: branches => fun next code =>
    let (entry, code) := branch.fragment next code
    let (targets, code) := fragmentBranches branches next code
    (entry :: targets, code)

end

mutual

def captures : Expr → List (Nat × Option String)
  | repetition body _ _ _ => body.captures
  | capture index name body => (index, name) :: body.captures
  | concat items => capturesAll items
  | choice branches => capturesAll branches
  | _ => []

def capturesAll : List Expr → List (Nat × Option String)
  | [] => []
  | item :: items => item.captures ++ capturesAll items

end

end Expr

/-- A compiled pattern: its code, the first instruction, and how its captures are numbered
and named. -/
structure Program where
  code : Code
  entry : Nat
  groups : Nat
  names : List (String × Nat)

namespace Program

/-- Lays out an expression, unless its code would be too large. -/
def ofExpr? (expr : Expr) : Option Program :=
  if expr.fitsSpace then
    let (entry, code) := expr.fragment 0 #[.accept]
    let captures := expr.captures
    some {
      code, entry
      groups := (captures.map (·.1)).foldl max 0
      names := captures.filterMap fun (index, name) => name.map fun name => (name, index) }
  else none

end Program

end FilterChain.Regex
