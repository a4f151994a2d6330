import Mathlib
import FilterChain.Decimal.Reading

/-!
# Digits of numbers

The digits that are written for a number are read as that number.  A count is read from digits
with at most one plus before them, whatever zeros they start with, and from no other text; a count
that takes more than 64 bits is not read at all.
-/

namespace FilterChain.Decimal

theorem digitValue_lt {c : Char} (hc : c.isDigit = true) : digitValue c < 10 := by
  have hbounds := Char.isDigit_iff_toNat.mp hc
  have hzero : '0'.toNat = 48 := rfl
  have hnine : '9'.toNat = 57 := rfl
  unfold digitValue
  omega

theorem natOfDigits_lt {digits : List Char} (hdigits : ∀ c ∈ digits, c.isDigit = true) :
    natOfDigits digits < 10 ^ digits.length := by
  induction digits using List.reverseRecOn with
  | nil => decide
  | append_singleton digits c ih =>
      rw [List.forall_mem_append, List.forall_mem_singleton] at hdigits
      have hfront := ih hdigits.1
      have hlast := digitValue_lt hdigits.2
      rw [natOfDigits_append_singleton, List.length_append, List.length_singleton, Nat.pow_succ]
      omega

theorem isDigit_of_mem_toDigits {n : Nat} {c : Char} (hc : c ∈ Nat.toDigits 10 n) :
    c.isDigit = true :=
  Nat.isDigit_of_mem_toDigits (by decide) (by decide) hc

theorem natOfDigits_eq_ofDigitChars (digits : List Char) :
    natOfDigits digits = Nat.ofDigitChars 10 digits 0 :=
  Nat.ofDigitChars_eq_foldl.symm

/-! ## Counts -/

/-- One or more digits, and the number that they stand for. -/
structure IsNumeral (digits : List Char) (n : Nat) : Prop where
  ne_nil : digits ≠ []
  isDigit : ∀ c ∈ digits, c.isDigit = true
  value : Nat.ofDigitChars 10 digits 0 = n

/-- A text that counts, however far: at most one plus stands before the digits. -/
inductive Counts : List Char → Nat → Prop
  | digits {digits : List Char} {n : Nat} (hnumeral : IsNumeral digits n) : Counts digits n
  | plus {digits : List Char} {n : Nat} (hnumeral : IsNumeral digits n) : Counts ('+' :: digits) n

theorem isNumeral_toDigits (n : Nat) : IsNumeral (Nat.toDigits 10 n) n :=
  ⟨Nat.toDigits_ne_nil, fun _ => isDigit_of_mem_toDigits, Nat.ofDigitChars_ten_toDigits⟩

theorem not_isNumeral_plus {digits : List Char} {n : Nat} : ¬ IsNumeral ('+' :: digits) n := by
  intro hnumeral
  exact absurd (hnumeral.isDigit '+' List.mem_cons_self) (by decide)

theorem counts_plus {digits : List Char} {n : Nat} :
    Counts ('+' :: digits) n ↔ IsNumeral digits n := by
  constructor
  · intro hcounts
    cases hcounts with
    | digits hnumeral => exact absurd hnumeral not_isNumeral_plus
    | plus hnumeral => exact hnumeral
  · exact .plus

theorem counts_of_no_plus {text : List Char} {n : Nat} (hplus : ∀ digits, text ≠ '+' :: digits) :
    Counts text n ↔ IsNumeral text n := by
  constructor
  · intro hcounts
    cases hcounts with
    | digits hnumeral => exact hnumeral
    | plus hnumeral => exact absurd rfl (hplus _)
  · exact .digits

/-- Digits are read if there are any, and as long as they fit into 64 bits. -/
theorem isNumeral_iff_read {digits : List Char} {n : Nat} :
    (if digits.isEmpty || !isDigits digits then none
      else if natOfDigits digits < 0x10000000000000000 then some (natOfDigits digits) else none) =
        some n ↔ IsNumeral digits n ∧ n < 0x10000000000000000 := by
  have hread : (digits.isEmpty || !isDigits digits) = false ↔
      digits ≠ [] ∧ ∀ c ∈ digits, c.isDigit = true := by
    simp [isDigits]
  rw [natOfDigits_eq_ofDigitChars]
  cases hrefused : digits.isEmpty || !isDigits digits with
  | true =>
      refine iff_of_false (fun h => nomatch h) ?_
      rintro ⟨hnumeral, -⟩
      rw [hread.mpr ⟨hnumeral.ne_nil, hnumeral.isDigit⟩] at hrefused
      cases hrefused
  | false =>
      obtain ⟨hne, hdigits⟩ := hread.mp hrefused
      rw [if_neg Bool.false_ne_true, Option.ite_none_right_eq_some, Option.some.injEq]
      constructor
      · rintro ⟨hlt, rfl⟩
        exact ⟨⟨hne, hdigits, rfl⟩, hlt⟩
      · rintro ⟨hnumeral, hlt⟩
        rw [hnumeral.value]
        exact ⟨hlt, rfl⟩

theorem count?_eq_some_iff {text : List Char} {n : Nat} :
    count? text = some n ↔ Counts text n ∧ n < 0x10000000000000000 := by
  unfold count?
  split
  · next digits => rw [counts_plus, ← isNumeral_iff_read]
  · next hplus => rw [counts_of_no_plus hplus, ← isNumeral_iff_read]

theorem count?_toDigits {n : Nat} (hn : n < 0x10000000000000000) :
    count? (Nat.toDigits 10 n) = some n :=
  count?_eq_some_iff.mpr ⟨.digits (isNumeral_toDigits n), hn⟩

namespace Counts

variable {text : List Char} {m n : Nat}

theorem unique (hm : Counts text m) (hn : Counts text n) : m = n := by
  cases hn with
  | plus hnumeral => exact (counts_plus.mp hm).value.symm.trans hnumeral.value
  | digits hnumeral =>
      cases hm with
      | digits hother => exact hother.value.symm.trans hnumeral.value
      | plus hother => exact absurd hnumeral not_isNumeral_plus

theorem isDigit_or_plus (hcounts : Counts text n) {c : Char} (hc : c ∈ text) :
    c.isDigit = true ∨ c = '+' := by
  cases hcounts with
  | digits hnumeral => exact .inl (hnumeral.isDigit c hc)
  | plus hnumeral =>
      rcases List.mem_cons.mp hc with hplus | hdigit
      · exact .inr hplus
      · exact .inl (hnumeral.isDigit c hdigit)

theorem exists_digit (hcounts : Counts text n) : ∃ c ∈ text, c.isDigit = true := by
  cases hcounts with
  | digits hnumeral =>
      obtain ⟨c, hc⟩ := List.exists_mem_of_ne_nil _ hnumeral.ne_nil
      exact ⟨c, hc, hnumeral.isDigit c hc⟩
  | plus hnumeral =>
      obtain ⟨c, hc⟩ := List.exists_mem_of_ne_nil _ hnumeral.ne_nil
      exact ⟨c, List.mem_cons_of_mem '+' hc, hnumeral.isDigit c hc⟩

end Counts

end FilterChain.Decimal
