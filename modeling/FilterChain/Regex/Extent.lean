/-!
# Extents of code

The extent of code that reads bytes: how many instructions it has, and the space that they
take.  An instruction that takes one byte in some range has the least space; one that goes on at
several places takes more for each of them.

The members of a class are read by the encodings of their ranges, which are sequences of byte
ranges.  Code that reads a text from its start shares what sequences end with, as far as
its memory of instructions reaches; code that reads from the end of a text shares what they
begin with.

A memory keeps values for keys, which are lists of numbers.  Each key has one slot, by its
hash, and a slot keeps what was stored there last.  So a value that was stored may be gone, but
one that is found is the one that was stored.
-/

namespace FilterChain.Regex

/-! ## Memory with few slots -/

structure Memo where
  slots : Array (Option (List Nat × Nat))

namespace Memo

def empty (size : Nat) : Memo := ⟨Array.replicate size none⟩

/-- The hash FNV-1a with 64 bits, for numbers instead of bytes. -/
def hash (key : List Nat) : UInt64 :=
  key.foldl (fun hash n => (hash ^^^ n.toUInt64) * 0x100000001B3) 0xCBF29CE484222325

def slotOf (memo : Memo) (key : List Nat) : Nat := (hash key).toNat % memo.slots.size

def find? (memo : Memo) (key : List Nat) : Option Nat :=
  match memo.slots[memo.slotOf key]? with
  | some (some (stored, value)) => if stored = key then some value else none
  | _ => none

def insert (memo : Memo) (key : List Nat) (value : Nat) : Memo :=
  let slot := memo.slotOf key
  ⟨memo.slots.setIfInBounds slot (some (key, value))⟩

theorem slotOf_insert (memo : Memo) (key other : List Nat) (value : Nat) :
    (memo.insert key value).slotOf other = memo.slotOf other := by
  simp [slotOf, insert]

theorem find?_insert_self (memo : Memo) (key : List Nat) (value : Nat)
    (h : 0 < memo.slots.size) : (memo.insert key value).find? key = some value := by
  have hslot : memo.slotOf key < memo.slots.size := Nat.mod_lt _ h
  rw [find?, slotOf_insert]
  simp [insert, hslot]

/-- What is stored changes nothing in other slots. -/
theorem find?_insert_of_ne (memo : Memo) (key other : List Nat) (value : Nat)
    (h : memo.slotOf other ≠ memo.slotOf key) :
    (memo.insert key value).find? other = memo.find? other := by
  have hslot : memo.slotOf key ≠ memo.slotOf other := fun heq => h heq.symm
  rw [find?, slotOf_insert, find?]
  simp [insert, Array.getElem?_setIfInBounds_ne hslot]

end Memo

/-! ## Extents -/

structure Extent where
  insts : Nat
  space : Nat

/-- The space of a plain instruction. -/
def instSpace : Nat := 32

/-- The space of an instruction that takes no byte and goes on at so many places. -/
def splitSpace (targets : Nat) : Nat := instSpace + 4 * targets

/-- The space of an instruction that takes a byte in one of so many ranges. -/
def rangesSpace (ranges : Nat) : Nat := instSpace + 8 * ranges

/-- A sequence of byte ranges. -/
abbrev ByteRanges := List (Nat × Nat)

namespace Extent

def add (extent : Extent) (count space : Nat) : Extent :=
  ⟨extent.insts + count, extent.space + space⟩

/-- Code with a memory of its instructions. -/
structure Shared where
  extent : Extent
  memo : Memo

/-- An instruction that is remembered by its key, or a new one. -/
def Shared.inst (shared : Shared) (key : List Nat) (space : Nat) : Nat × Shared :=
  match shared.memo.find? key with
  | some inst => (inst, shared)
  | none =>
    let inst := shared.extent.insts
    (inst, ⟨shared.extent.add 1 space, shared.memo.insert key inst⟩)

/-- Adds the code of sequences that are read from their ends.  Its last instruction comes
right behind the split between the sequences. -/
def addBackward (extent : Extent) (sequences : List ByteRanges) : Extent :=
  let stop := extent.insts + 1
  let opened := extent.add 2 (splitSpace sequences.length + instSpace)
  let shared := sequences.foldl
    (fun shared sequence =>
      (sequence.foldl (fun (next, shared) (lo, hi) => shared.inst [next, lo, hi] instSpace)
        (stop, shared)).2)
    (Shared.mk opened (Memo.empty 1000))
  shared.extent

/-- The code of sequences of bounded length that are read from their starts: an instruction
with one range for all sequences that begin alike. -/
def forwardFrom (stop : Nat) : (depth : Nat) → List ByteRanges → Shared → Nat × Shared
  | 0, _, shared => (stop, shared)
  | depth + 1, sequences, shared =>
    let branches := sequences.splitBy fun a b => a.head? == b.head?
    let (key, shared) := branches.foldl
      (fun (key, shared) branch =>
        match branch with
        | ((lo, hi) :: rest) :: _ =>
          let (next, shared) := if rest.isEmpty then (stop, shared)
            else forwardFrom stop depth (branch.map List.tail) shared
          (key ++ [lo, hi, next], shared)
        | _ => (key, shared))
      ([], shared)
    shared.inst key (rangesSpace branches.length)

/-- Adds the code of sequences that are read from their starts. -/
def addForward (extent : Extent) (sequences : List ByteRanges) : Extent :=
  let opened := Shared.mk (extent.add 1 instSpace) (Memo.empty 10000)
  (forwardFrom extent.insts 4 sequences opened).2.extent

/-- The words before each empty word, and those behind the last one.  Another empty word in
front of all others makes no difference. -/
def wordGroups (words : List (List Nat)) : List (List (List Nat)) × List (List Nat) :=
  words.foldl
    (fun (closed, current) word =>
      if word.isEmpty then
        if !closed.isEmpty && current.isEmpty && closed.all List.isEmpty then (closed, current)
        else (closed ++ [current], [])
      else (closed, current ++ [word]))
    ([], [])

/-- Adds the code of words of bounded length, where words of a group that begin alike share
their beginning.  A word that ends before others of its group is a target of its own. -/
def addWordsFrom : (depth : Nat) → List (List Nat) → Extent → Extent
  | 0, _, extent => extent
  | depth + 1, words, extent =>
    let (closed, current) := wordGroups words
    let groups := (closed ++ [current]).filter fun group => !group.isEmpty
    if groups.isEmpty then extent
    else
      groups.foldl
        (fun extent group =>
          let heads := (group.filterMap List.head?).eraseDups
          let space := if heads.length = 1 then instSpace else rangesSpace heads.length
          heads.foldl
            (fun extent head =>
              addWordsFrom depth
                ((group.filter fun word => word.head? == some head).map List.tail) extent)
            (extent.add 1 space))
        (extent.add 1 (splitSpace (groups.length + closed.length)))

/-- Adds the code of a choice between words. -/
def addWords (extent : Extent) (words : List (List Nat)) : Extent :=
  addWordsFrom ((words.map List.length).foldl max 0) words (extent.add 1 instSpace)

end Extent

end FilterChain.Regex
