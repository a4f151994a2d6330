/-!
# Written floats

A positive binary number is read back from every decimal inside its rounding
interval.  The shortest of these decimals lies on the coarsest power-of-ten grid
that has a point in the interval; of two such points the nearer one is taken.

A layout says how the shortest digits of a float are set out: which magnitudes
are written positionally, what a whole number ends in, and how an exponent looks.
-/

namespace FilterChain.Decimal

/-! ## Shortest decimals -/

/-- The number `significand * 2 ^ exponent`, with the distance to its lower
neighbour halved where `atBoundary` holds. -/
structure Binary where
  significand : Nat
  exponent : Int
  atBoundary : Bool
deriving DecidableEq, Repr

/-- The decimal `digits * 10 ^ exponent`. -/
structure Scaled where
  digits : Nat
  exponent : Int
deriving DecidableEq, Repr

/-- Which of two equally near decimals is taken. -/
inductive Tie
  | up
  | even
deriving DecidableEq, Repr

namespace Binary

/-- The magnitude of a finite float other than zero: a stored exponent of zero marks a
significand without its leading bit. -/
def ofFloat (x : Float) : Binary :=
  let bits := x.toBits.toNat
  let fraction : Nat := bits % 0x10000000000000
  let stored : Nat := bits / 0x10000000000000 % 0x800
  if stored = 0 then ⟨fraction, -1074, false⟩
  else ⟨fraction + 0x10000000000000, Int.ofNat stored - 1075, fraction == 0 && 1 < stored⟩

/-- The number and the ends of its rounding interval in quarters of its last binary place. -/
def value (b : Binary) : Nat := 4 * b.significand
def low (b : Binary) : Nat := if b.atBoundary then b.value - 1 else b.value - 2
def high (b : Binary) : Nat := b.value + 2

/-- Whether a number of `grain`-sized steps lies in the rounding interval, for quarter
places of size `quarter`; the ends belong to it when the significand is even. -/
def admits (b : Binary) (quarter point : Nat) : Bool :=
  if b.significand % 2 = 0 then b.low * quarter ≤ point && point ≤ b.high * quarter
  else b.low * quarter < point && point < b.high * quarter

/-- The multiple of `10 ^ place` in the rounding interval that is nearest to the number. -/
def pointOn? (b : Binary) (tie : Tie) (place : Int) : Option Nat :=
  let quarter := Nat.pow 2 (b.exponent - 2).toNat * Nat.pow 10 (-place).toNat
  let grain := Nat.pow 10 place.toNat * Nat.pow 2 (2 - b.exponent).toNat
  let target := b.value * quarter
  let below := target / grain
  let above := below + 1
  match b.admits quarter (below * grain), b.admits quarter (above * grain) with
  | false, false => none
  | true, false => some below
  | false, true => some above
  | true, true =>
    let down := target - below * grain
    let up := above * grain - target
    if down < up then some below
    else if up < down then some above
    else match tie with
      | .up => some above
      | .even => if below % 2 = 0 then some below else some above

/-- An exponent of ten at or above that of the number. -/
def topPlace (b : Binary) : Int :=
  (b.significand.log2 + b.exponent + 1) * 30103 / 100000 + 1

/-- The first hit on `count` ever finer grids. -/
def search (b : Binary) (tie : Tie) : (count : Nat) → (place : Int) → Scaled
  | 0, place => ⟨(b.pointOn? tie place).getD 0, place⟩
  | count + 1, place =>
    match b.pointOn? tie place with
    | some digits => ⟨digits, place⟩
    | none => search b tie count (place - 1)

/-- The shortest decimal that reads back as the number.  Twenty grids are enough, since
seventeen digits always read back. -/
def shortest (b : Binary) (tie : Tie) : Scaled :=
  b.search tie 20 b.topPlace

end Binary

/-! ## Layouts -/

structure Layout where
  /-- The leading exponents that are written positionally; all of them when absent. -/
  positional : Option (Int × Int)
  /-- The end of a positional whole number. -/
  wholeEnd : String
  /-- The sign in front of an exponent that is not negative. -/
  exponentSign : String
  tie : Tie
deriving Repr

namespace Layout

/-- The digits with the point `count` places from their left end. -/
def placePoint (layout : Layout) (digits : List Char) (count : Int) : List Char :=
  if count ≤ 0 then '0' :: '.' :: (List.replicate (-count).toNat '0' ++ digits)
  else if count < digits.length then
    digits.take count.toNat ++ '.' :: digits.drop count.toNat
  else
    digits ++ List.replicate (count.toNat - digits.length) '0' ++ layout.wholeEnd.toList

/-- One digit before the point, the others behind it, and the exponent. -/
def scientific (layout : Layout) (digits : List Char) (leading : Int) : List Char :=
  let mantissa := match digits with
    | [] => []
    | [digit] => [digit]
    | digit :: more => digit :: '.' :: more
  let sign := if leading < 0 then "-" else layout.exponentSign
  mantissa ++ 'e' :: sign.toList ++ Nat.toDigits 10 leading.natAbs

/-- Digits without their final zeros. -/
def significant (digits : List Char) : List Char :=
  (digits.reverse.dropWhile (· == '0')).reverse

def writePositive (layout : Layout) (x : Float) : List Char :=
  let scaled := (Binary.ofFloat x).shortest layout.tie
  let all := Nat.toDigits 10 scaled.digits
  let count := scaled.exponent + all.length
  let digits := significant all
  match layout.positional with
  | none => layout.placePoint digits count
  | some (lowest, highest) =>
    if lowest ≤ count - 1 ∧ count - 1 ≤ highest then layout.placePoint digits count
    else layout.scientific digits (count - 1)

/-- The text of a float; the sign of zero is kept. -/
def write (layout : Layout) (x : Float) : String :=
  if x.isNaN then "NaN"
  else
    let negative := 0x8000000000000000 ≤ x.toBits.toNat
    let magnitude :=
      if x.isInf then "inf".toList
      else if x == 0 then '0' :: layout.wholeEnd.toList
      else layout.writePositive x
    String.ofList (if negative then '-' :: magnitude else magnitude)

end Layout

/-- Every digit positional and no point in a whole number. -/
def plain : Layout where
  positional := none
  wholeEnd := ""
  exponentSign := ""
  tie := .up

end FilterChain.Decimal
