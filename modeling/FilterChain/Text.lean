/-!
# Texts

The blank characters have the Unicode property White_Space; they separate tokens and carry no
meaning of their own.  The length of a text is counted in UTF-16 units, of which a character below
U+10000 takes one and any other takes two.

Occurrences are read from the left and do not overlap.  `cutAt` splits a text
at its first occurrence, and `pieces` at every one of them.
-/

namespace FilterChain

/-! ## Blank characters -/

/-- The White_Space property: twenty-five characters in ten runs. -/
def isBlank (c : Char) : Bool :=
  let n := c.toNat
  (0x09 ≤ n && n ≤ 0x0D) || n == 0x20 || n == 0x85 || n == 0xA0 || n == 0x1680 ||
    (0x2000 ≤ n && n ≤ 0x200A) || n == 0x2028 || n == 0x2029 || n == 0x202F ||
    n == 0x205F || n == 0x3000

def dropBlanks (text : List Char) : List Char :=
  text.dropWhile isBlank

/-! ## Hexadecimal numbers -/

/-- The value of a hexadecimal digit of either case. -/
def hexDigit? (c : Char) : Option Nat :=
  if c.isDigit then some (c.toNat - '0'.toNat)
  else if 'a' ≤ c ∧ c ≤ 'f' then some (c.toNat - 'a'.toNat + 10)
  else if 'A' ≤ c ∧ c ≤ 'F' then some (c.toNat - 'A'.toNat + 10)
  else none

def isHexDigit (c : Char) : Bool := (hexDigit? c).isSome

/-- The number that a text of hexadecimal digits denotes. -/
def natOfHex? (digits : List Char) : Option Nat :=
  digits.foldlM (fun n c => (hexDigit? c).map fun d => 16 * n + d) 0

/-- The hexadecimal number at the front of a text, or zero. -/
def leadingHex (text : List Char) : Nat :=
  (natOfHex? (text.takeWhile isHexDigit)).getD 0

/-- The character with a code. -/
def charOfCode? (code : Nat) : Option Char :=
  if code.isValidChar then some (Char.ofNat code) else none

/-! ## Length in UTF-16 units -/

/-- The number of UTF-16 units of one character. -/
def units16OfChar (c : Char) : Nat :=
  if c.toNat < 0x10000 then 1 else 2

/-- The number of UTF-16 units of a text. -/
def units16 (text : List Char) : Nat :=
  text.foldr (fun c n => units16OfChar c + n) 0

@[simp] theorem units16_nil : units16 [] = 0 := rfl

@[simp] theorem units16_cons (c : Char) (text : List Char) :
    units16 (c :: text) = units16OfChar c + units16 text := rfl

/-! ## Occurrences -/

/-- The rest of a text that starts with the delimiter. -/
def dropLeading : (delimiter text : List Char) → Option (List Char)
  | [], text => some text
  | _ :: _, [] => none
  | d :: delimiter, c :: text => if d = c then dropLeading delimiter text else none

theorem dropLeading_eq_some_iff {delimiter text rest : List Char} :
    dropLeading delimiter text = some rest ↔ text = delimiter ++ rest := by
  induction delimiter generalizing text with
  | nil => simp [dropLeading]
  | cons d delimiter ih =>
    cases text with
    | nil => simp [dropLeading]
    | cons c text =>
      by_cases h : d = c
      · simp [dropLeading, h, ih]
      · simp [dropLeading, h, Ne.symm h]

/-- The texts before and after the first occurrence of the delimiter. -/
def cutAt (delimiter : List Char) : List Char → Option (List Char × List Char)
  | [] => (dropLeading delimiter []).map fun rest => ([], rest)
  | c :: text =>
    match dropLeading delimiter (c :: text) with
    | some rest => some ([], rest)
    | none => (cutAt delimiter text).map fun (before, rest) => (c :: before, rest)

/-- Both texts of a cut, joined by the delimiter, are the text that was cut. -/
theorem eq_append_of_cutAt {delimiter text before rest : List Char}
    (h : cutAt delimiter text = some (before, rest)) : text = before ++ delimiter ++ rest := by
  induction text generalizing before with
  | nil =>
    simp only [cutAt, Option.map_eq_some_iff, Prod.mk.injEq] at h
    obtain ⟨_, hdrop, rfl, rfl⟩ := h
    simpa using dropLeading_eq_some_iff.1 hdrop
  | cons c text ih =>
    simp only [cutAt] at h
    split at h
    · next hdrop =>
      cases h
      simpa using dropLeading_eq_some_iff.1 hdrop
    · simp only [Option.map_eq_some_iff, Prod.exists, Prod.mk.injEq] at h
      obtain ⟨front, _, hcut, rfl, rfl⟩ := h
      simp [ih hcut]

/-- The texts between the occurrences of the delimiter `first :: others`. -/
def pieces (first : Char) (others : List Char) : List Char → List (List Char)
  | [] => [[]]
  | c :: text =>
    match _found : dropLeading (first :: others) (c :: text) with
    | some rest => [] :: pieces first others rest
    | none =>
      match pieces first others text with
      | [] => [[c]]
      | piece :: more => (c :: piece) :: more
termination_by text => text.length
decreasing_by
  · have := congrArg List.length (dropLeading_eq_some_iff.1 _found)
    simp at this ⊢
    omega
  · simp

/-- Whether some occurrence of the delimiter starts in the text. -/
def hasOccurrence (delimiter text : List Char) : Bool :=
  (cutAt delimiter text).isSome

end FilterChain
