/-!
# Engines

An engine compiles patterns and finds their hits.  A hit splits a text into the part before a
match, the match, and the rest, and all hits of a text follow one another without overlap.
Which patterns there are and what they match is left to the engine.
-/

namespace FilterChain.Regex

/-- The flags in force. -/
structure Flags where
  ignoreCase : Bool
  multiLine : Bool
  dotAll : Bool
  swapGreed : Bool
  unicode : Bool
  crlf : Bool
deriving DecidableEq, Repr

/-- Unicode is on and all else is off. -/
def Flags.standard : Flags := ⟨false, false, false, false, true, false⟩

/-- A match: the text before it, its own text, the texts of its groups and the text behind. -/
structure Hit where
  gap : List Char
  text : List Char
  groups : List (Option (List Char))
  rest : List Char

/-- The text of a group, where group zero is the whole match. -/
def Hit.group? (hit : Hit) : Nat → Option (List Char)
  | 0 => some hit.text
  | n + 1 => (hit.groups[n]?).join

/-- The gaps between hits with something written for each hit, and the tail. -/
def weave (written : Hit → List Char) (hits : List Hit) (tail : List Char) : List Char :=
  hits.flatMap (fun hit => hit.gap ++ written hit) ++ tail

@[simp] theorem weave_nil (written : Hit → List Char) (tail : List Char) :
    weave written [] tail = tail := rfl

@[simp] theorem weave_cons (written : Hit → List Char) (hit : Hit) (hits : List Hit)
    (tail : List Char) :
    weave written (hit :: hits) tail = hit.gap ++ written hit ++ weave written hits tail := by
  simp [weave]

class Engine where
  /-- A compiled pattern. -/
  Program : Type
  /-- Compiles a pattern, or says what is wrong with it. -/
  compile : (pattern : List Char) → Flags → Except String Program
  /-- The number of capture groups. -/
  groups : Program → Nat
  names : Program → List (String × Nat)
  hit? : Program → List Char → Option Hit
  /-- All hits in a text, and the text behind the last one. -/
  hits : Program → List Char → List Hit × List Char
  append_of_hit? {program : Program} {text : List Char} {hit : Hit} :
    hit? program text = some hit → hit.gap ++ hit.text ++ hit.rest = text
  /-- No character of a text is lost between the hits or in them, and none comes twice. -/
  weave_hits (program : Program) (text : List Char) :
    weave Hit.text (hits program text).1 (hits program text).2 = text
  head?_hits (program : Program) (text : List Char) :
    (hits program text).1.head? = hit? program text
  length_groups_of_mem_hits {program : Program} {text : List Char} {hit : Hit} :
    hit ∈ (hits program text).1 → hit.groups.length = groups program

end FilterChain.Regex
