/-!
# Reading decimals

A decimal text is read as the float nearest to its exact value.

A fraction is rounded to the nearest number of the binary grid that its size calls for, and
to the even one of two.  The grid never gets finer than `2 ^ (-1074)`, and what lies beyond
the last finite float is infinite.  Main statements: rounding moves a fraction by at most half
a step, and a whole number not at all.
-/

namespace FilterChain.Decimal

/-! ## Nearest floats -/

/-- The whole number nearest to `num / den`. -/
def roundDiv (num den : Nat) : Nat :=
  let below := num / den
  let twice := 2 * (num % den)
  if twice < den ∨ (twice = den ∧ below % 2 = 0) then below else below + 1

theorem two_mul_le_roundDiv (num den : Nat) (h : 0 < den) :
    2 * num ≤ 2 * (roundDiv num den * den) + den := by
  have hsplit := Nat.div_add_mod num den
  have hlt := Nat.mod_lt num h
  rw [Nat.mul_comm] at hsplit
  simp only [roundDiv]
  split
  · omega
  · rw [Nat.add_mul]
    omega

theorem roundDiv_le_two_mul (num den : Nat) :
    2 * (roundDiv num den * den) ≤ 2 * num + den := by
  have hsplit := Nat.div_add_mod num den
  rw [Nat.mul_comm] at hsplit
  simp only [roundDiv]
  split
  · omega
  · rw [Nat.add_mul]
    omega

theorem roundDiv_mul_self (n den : Nat) (h : 0 < den) : roundDiv (n * den) den = n := by
  simp [roundDiv, h]

/-- The place of the last binary digit that a float keeps of a fraction: fifty-three digits,
as far as the finest grid allows. -/
def lastPlace (num den : Nat) : Int :=
  let place := max ((num.log2 : Int) - den.log2 - 53) (-1074)
  if 0x20000000000000 * (den * Nat.pow 2 place.toNat) ≤ num * Nat.pow 2 (-place).toNat then place + 1
  else place

/-- The float nearest to `num / den`.  Its bits count the floats below it: there are `2 ^ 52`
of them to each place. -/
def nearestFraction (num den : Nat) : Float :=
  let place := lastPlace num den
  let significand := roundDiv (num * Nat.pow 2 (-place).toNat) (den * Nat.pow 2 place.toNat)
  let bits := (place + 1074).toNat * 0x10000000000000 + significand
  Float.ofBits (min bits (0x7FF * 0x10000000000000)).toUInt64

/-- The float nearest to `digits * 10 ^ exponent`.  A number with an exponent beyond those of
all floats need not be computed. -/
def nearest (digits : Nat) (exponent : Int) : Float :=
  let size := (digits.log2 * 30103 / 100000 : Nat) + exponent
  if digits = 0 ∨ size < -400 then 0.0
  else if 400 < size then 1.0 / 0.0
  else nearestFraction (digits * Nat.pow 10 exponent.toNat) (Nat.pow 10 (-exponent).toNat)

/-! ## Decimal texts -/

def digitValue (c : Char) : Nat := c.toNat - '0'.toNat

/-- The number that a run of decimal digits denotes. -/
def natOfDigits (digits : List Char) : Nat :=
  digits.foldl (fun n c => 10 * n + digitValue c) 0

@[simp] theorem natOfDigits_nil : natOfDigits [] = 0 := rfl

theorem natOfDigits_append_singleton (digits : List Char) (c : Char) :
    natOfDigits (digits ++ [c]) = 10 * natOfDigits digits + digitValue c := by
  simp [natOfDigits]

/-- A text that consists of decimal digits only. -/
def isDigits (text : List Char) : Bool :=
  text.all Char.isDigit

/-- A count of 64 bits: digits, with at most one plus before them. -/
def count? (text : List Char) : Option Nat :=
  let digits := match text with
    | '+' :: digits => digits
    | digits => digits
  if digits.isEmpty || !isDigits digits then none
  else
    let n := natOfDigits digits
    if n < 0x10000000000000000 then some n else none

/-- The float that `whole.fraction` denotes, for two runs of digits. -/
def ofPoint (whole fraction : List Char) : Float :=
  nearest (natOfDigits (whole ++ fraction)) (-(fraction.length : Int))

/-- An optional sign and the text behind it; true stands for a minus. -/
def takeSign : List Char → Bool × List Char
  | '-' :: text => (true, text)
  | '+' :: text => (false, text)
  | text => (false, text)

/-- The exponent part of a number, or zero where there is none. -/
def exponent? : List Char → Option Int
  | [] => some 0
  | c :: text =>
    if c = 'e' ∨ c = 'E' then
      let (negative, digits) := takeSign text
      if digits.isEmpty || !isDigits digits then none
      else if negative then some (-(natOfDigits digits : Int))
      else some (natOfDigits digits)
    else none

/-- A number without a sign: digits with at most one point and at least one digit around
it, and an exponent. -/
def magnitude? (text : List Char) : Option Float :=
  let whole := text.takeWhile Char.isDigit
  let afterWhole := text.dropWhile Char.isDigit
  let fraction := match afterWhole with
    | '.' :: more => more.takeWhile Char.isDigit
    | _ => []
  let rest := match afterWhole with
    | '.' :: more => more.dropWhile Char.isDigit
    | _ => afterWhole
  if whole.isEmpty && fraction.isEmpty then none
  else (exponent? rest).map fun e => nearest (natOfDigits (whole ++ fraction)) (e - fraction.length)

/-- Reads a float: a number, `inf`, `infinity` or `nan` in any case, with an optional sign. -/
def read? (text : String) : Option Float :=
  let (negative, body) := takeSign text.toList
  let magnitude :=
    match String.ofList (body.map Char.toLower) with
    | "inf" | "infinity" => some (1.0 / 0.0)
    | "nan" => some (0.0 / 0.0)
    | _ => magnitude? body
  if negative then magnitude.map Float.neg else magnitude

end FilterChain.Decimal
