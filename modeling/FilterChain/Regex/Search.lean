import FilterChain.Regex.Program
import FilterChain.Unicode.Query

/-!
# Search

All ways to match are followed side by side, one character of the text at a time.  A thread
is a way to match so far, and threads stand in order of preference: an instruction that two of
them reach at one place belongs to the first.  The match that is found starts as early as
possible, and of those that start there it is the preferred one.
-/

namespace FilterChain.Regex

def isWordChar (unicode : Bool) (c : Char) : Bool :=
  c.isAlphanum || c == '_' || (unicode && 0x80 ≤ c.toNat && Unicode.wordChars.hasChar c)

/-- Whether a condition holds between two characters; the ends of a text have none. -/
def Look.holds (look : Look) (before after : Option Char) : Bool :=
  match look with
  | textStart => before.isNone
  | textEnd => after.isNone
  | lineStart false => before.isNone || before == some '\n'
  | lineEnd false => after.isNone || after == some '\n'
  | lineStart true =>
    before.isNone || before == some '\n' || (before == some '\r' && after != some '\n')
  | lineEnd true =>
    after.isNone || after == some '\r' || (after == some '\n' && before != some '\r')
  | edge kind unicode =>
    let left := before.any (isWordChar unicode)
    let right := after.any (isWordChar unicode)
    match kind with
    | .either => left != right
    | .neither => left == right
    | .start => !left && right
    | .stop => left && !right
    | .startHalf => !left
    | .stopHalf => !right

/-- Where a match starts, and the places that were stored in slots, the latest first. -/
structure Thread where
  start : Nat
  slots : List (Nat × Nat)

/-- Where a match starts and stops, and its slots. -/
structure Found where
  start : Nat
  stop : Nat
  slots : List (Nat × Nat)

/-- A thread that waits for a character, or one that has matched. -/
inductive Waiting
  | forChar (set : CharSet) (next : Nat) (thread : Thread)
  | matched (thread : Thread)

/-- The instructions that no thread has reached. -/
def unreached (reached : Array Bool) : Nat := reached.count false

theorem unreached_set_lt {reached : Array Bool} {i : Nat} (h : i < reached.size)
    (hi : reached[i] = false) : unreached (reached.set i true h) < unreached reached := by
  have hpos : 0 < reached.count false :=
    Array.count_pos_iff.2 (hi ▸ Array.getElem_mem h)
  have hset : (reached.set i true h).count false = reached.count false - 1 := by
    simp only [Array.count_set, hi, beq_self_eq_true, if_true]
    rfl
  simp only [unreached, hset]
  omega

/-- The threads at one place, once all instructions that take no character are done.
Threads behind one that has matched are dropped. -/
def settle (code : Code) (before after : Option Char) (place : Nat)
    (threads : List (Nat × Thread)) (reached : Array Bool) : List Waiting :=
  match threads with
  | [] => []
  | (index, thread) :: threads =>
    if h : index < reached.size then
      if hseen : reached[index] then settle code before after place threads reached
      else
        have := unreached_set_lt h (by simpa using hseen)
        let reached := reached.set index true
        match code[index]? with
        | none => settle code before after place threads reached
        | some .accept => [.matched thread]
        | some (.chars set next) =>
          .forChar set next thread :: settle code before after place threads reached
        | some (.look look next) =>
          if look.holds before after then
            settle code before after place ((next, thread) :: threads) reached
          else settle code before after place threads reached
        | some (.save slot next) =>
          let thread := { thread with slots := (slot, place) :: thread.slots }
          settle code before after place ((next, thread) :: threads) reached
        | some (.split targets) =>
          settle code before after place (targets.map (fun i => (i, thread)) ++ threads) reached
    else settle code before after place threads reached
termination_by (unreached reached, threads.length)

def Waiting.matched? : Waiting → Option Thread
  | matched thread => some thread
  | forChar .. => none

/-- Where a thread goes on behind a character. -/
def Waiting.take? (c : Char) : Waiting → Option (Nat × Thread)
  | forChar set next thread => if set.hasChar c then some (next, thread) else none
  | matched _ => none

/-- Follows the threads through the text ahead.  A new one starts at each place as long as
nothing has matched; a match that was found gives way to one of a preferred thread only. -/
def follow (program : Program) (best : Option Found) (threads : List (Nat × Thread))
    (before : Option Char) (place : Nat) (text : List Char) : Option Found :=
  let starting := if best.isNone then [(program.entry, ⟨place, []⟩)] else []
  let reached := Array.replicate program.code.size false
  let waiting := settle program.code before text.head? place (threads ++ starting) reached
  let best := match waiting.findSome? Waiting.matched? with
    | some thread => some ⟨thread.start, place, thread.slots⟩
    | none => best
  match text with
  | [] => best
  | c :: text =>
    let threads := waiting.filterMap (Waiting.take? c)
    if best.isSome && threads.isEmpty then best
    else follow program best threads (some c) (place + 1) text

/-- The first match in a text, where `before` is the character in front of the text. -/
def Program.find? (program : Program) (before : Option Char) (text : List Char) : Option Found :=
  follow program none [] before 0 text

end FilterChain.Regex
