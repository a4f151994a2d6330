import FilterChain.Proofs.Value.Field
import FilterChain.Proofs.Value.Subset

/-!
# Items by their positions

An array has its items as fields, under the decimal texts of their positions.  Such a text is read
as a number of 64 bits, and an item is found only where the number that the text stands for is its
position: no sign is dropped but one plus, and a number that is too large does not come back to the
first items.  The length is the one field that arrays and texts have besides.
-/

namespace FilterChain

open Decimal

/-! ## UTF-16 units -/

theorem units16_eq_countP (text : List Char) :
    units16 text =
      text.countP (fun c => c.toNat < 0x10000) + 2 * text.countP (fun c => 0x10000 ≤ c.toNat) := by
  induction text with
  | nil => rfl
  | cons c text ih =>
      rw [units16_cons, ih, units16OfChar]
      by_cases hlow : c.toNat < 0x10000
      · have hhigh : ¬ 0x10000 ≤ c.toNat := by omega
        simp only [List.countP_cons, hlow, hhigh, decide_true, decide_false, if_true,
          Bool.false_eq_true, if_false]
        omega
      · have hhigh : 0x10000 ≤ c.toNat := by omega
        simp only [List.countP_cons, hlow, hhigh, decide_true, decide_false, if_true,
          Bool.false_eq_true, if_false]
        omega

theorem units16OfChar_le_utf8Size (c : Char) : units16OfChar c ≤ c.utf8Size := by
  unfold units16OfChar
  split
  · exact c.utf8Size_pos
  · next hlow =>
    have hfour : c.utf8Size = 4 := by
      rw [Char.utf8Size_eq_four_iff, UInt32.lt_iff_toNat_lt]
      exact Nat.not_lt.mp hlow
    omega

theorem units16_le_utf8ByteSize (text : String) : units16 text.toList ≤ text.utf8ByteSize := by
  rw [← String.utf8Len_toList]
  induction text.toList with
  | nil => exact Nat.le_refl 0
  | cons c text ih =>
      have hchar := units16OfChar_le_utf8Size c
      rw [units16_cons, String.utf8Len_cons]
      omega

namespace Value

/-! ## Keys of arrays -/

/-- Texts that are a position in no array: nothing or signs alone, numbers below zero, fractions,
digits of other scripts, and numbers of more than 64 bits. -/
inductive NoPosition (key : List Char) : Prop
  | signs (hsigns : ∀ c ∈ key, c = '+' ∨ c = '-')
  | minus (hmem : '-' ∈ key)
  | point (hmem : '.' ∈ key)
  | script {c : Char} (hmem : c ∈ key) (hc : 128 ≤ c.toNat)
  | overflow {n : Nat} (hcounts : Counts key n) (hn : 2 ^ 64 ≤ n)

theorem NoPosition.le_of_counts {key : List Char} {i : Nat} (hkey : NoPosition key)
    (hcounts : Counts key i) : 2 ^ 64 ≤ i := by
  -- A text that counts has digits, and besides them a plus only.
  have hother {c : Char} (hmem : c ∈ key) (hdigit : c.isDigit = false) (hplus : c ≠ '+') :
      2 ^ 64 ≤ i := by
    rcases hcounts.isDigit_or_plus hmem with h | h
    · rw [hdigit] at h
      cases h
    · exact absurd h hplus
  cases hkey with
  | signs hsigns =>
      obtain ⟨c, hmem, hdigit⟩ := hcounts.exists_digit
      rcases hsigns c hmem with rfl | rfl
      · cases hdigit
      · cases hdigit
  | minus hmem => exact hother hmem (by decide) (by decide)
  | point hmem => exact hother hmem (by decide) (by decide)
  | @script c hmem hc =>
      have hplus : '+'.toNat = 43 := rfl
      have hnine : '9'.toNat = 57 := rfl
      refine hother hmem ?_ ?_
      · rw [← Bool.not_eq_true, Char.isDigit_iff_toNat]
        omega
      · rintro rfl
        omega
  | overflow hother hn => rwa [hcounts.unique hother]

section

variable {items : List Value} {key : String}

theorem lookup_array_eq_some_iff {item : Value} :
    (array items).lookup key = some item ↔
      ∃ i, (Counts key.toList i ∧ i < 2 ^ 64) ∧ items[i]? = some item := by
  change (count? key.toList).bind (fun i => items[i]?) = some item ↔ _
  rw [Option.bind_eq_some_iff]
  simp only [count?_eq_some_iff]
  rfl

theorem lookup_of_noPosition (hkey : NoPosition key.toList) :
    (array items).lookup key = none := by
  rw [Option.eq_none_iff_forall_ne_some]
  intro item hitem
  obtain ⟨i, ⟨hcounts, hlt⟩, -⟩ := lookup_array_eq_some_iff.mp hitem
  exact absurd (hkey.le_of_counts hcounts) (by omega)

theorem lookup_of_counts (hitems : items.length < 2 ^ 63) {i : Nat} (hcounts : Counts key.toList i) :
    (array items).lookup key = items[i]? := by
  ext item
  rw [lookup_array_eq_some_iff]
  constructor
  · rintro ⟨j, ⟨hother, -⟩, hitem⟩
    rwa [hcounts.unique hother]
  · intro hitem
    obtain ⟨hlt, -⟩ := List.getElem?_eq_some_iff.mp hitem
    exact ⟨i, ⟨hcounts, by omega⟩, hitem⟩

theorem isSome_lookup_array_iff (hitems : items.length < 2 ^ 63) :
    ((array items).lookup key).isSome ↔ ∃ i, Counts key.toList i ∧ i < items.length := by
  constructor
  · intro hsome
    obtain ⟨item, hitem⟩ := Option.isSome_iff_exists.mp hsome
    obtain ⟨i, ⟨hcounts, -⟩, hi⟩ := lookup_array_eq_some_iff.mp hitem
    exact ⟨i, hcounts, (List.getElem?_eq_some_iff.mp hi).1⟩
  · rintro ⟨i, hcounts, hlt⟩
    rw [lookup_of_counts hitems hcounts, List.getElem?_eq_getElem hlt, Option.isSome_some]

end

/-! ## Lengths -/

theorem field_ne_lookup_iff {value : Value} {key : String} :
    value.field key ≠ value.lookup key ↔
      key = "length" ∧ ((∃ items, value = array items) ∨ ∃ text, value = string text) := by
  by_cases hkey : key = "length"
  · subst hkey
    have harray (items : List Value) : (array items).lookup "length" = none := by
      have hcount : count? "length".toList = none := by decide
      rw [lookup, hcount, Option.bind_none]
    cases value with
    | array items => simp [field, harray]
    | string text => simp [field, lookup]
    | _ => simp [field]
  · simp [field_of_ne value hkey, hkey]

theorem field_length_array {items : List Value} (hitems : items.length < 2 ^ 63) :
    ∃ n, (array items).field "length" = some (integer n) ∧ n.toInt = items.length :=
  ⟨Int64.ofNat items.length, rfl, Int64.toInt_ofNat_of_lt hitems⟩

theorem field_length_string {text : String} (htext : text.utf8ByteSize < 2 ^ 63) :
    ∃ n, (string text).field "length" = some (integer n) ∧ n.toInt = units16 text.toList := by
  have hunits := units16_le_utf8ByteSize text
  exact ⟨Int64.ofNat (units16 text.toList), rfl, Int64.toInt_ofNat_of_lt (by omega)⟩

/-! ## Positions that are printed -/

theorem counts_toString_iff {n : Int64} (hn : 0 ≤ n) {i : Nat} :
    Counts (toString n.toInt).toList i ↔ i = n.toInt.toNat := by
  have hprinted : Counts (toString n.toInt).toList n.toInt.toNat := by
    rw [toList_toString_of_nonneg hn]
    exact .digits (isNumeral_toDigits n.toInt.toNat)
  constructor
  · intro hcounts
    exact hcounts.unique hprinted
  · rintro rfl
    exact hprinted

section

variable {items : List Value} {n : Int64} (hn : 0 ≤ n)
include hn

theorem lookup_printed : (array items).lookup (toString n.toInt) = items[n.toInt.toNat]? := by
  have hnonneg : 0 ≤ n.toInt := Int64.le_iff_toInt_le.mp hn
  rw [lookup_array, if_pos hnonneg]

theorem field_printed : (array items).field (toString n.toInt) = items[n.toInt.toNat]? := by
  rw [field_of_toString _ hn, lookup_printed hn]

theorem subset_printed :
    (array items).subset [.index n] =
      .ok (array (items[n.toInt.toNat]?.filter isTruthy).toList) := by
  have htruthy : (array items).isTruthy = true := rfl
  rw [subset_index rfl hn, usefulField?, if_pos htruthy, field_printed hn]

end

/-- An item is found under a text that stands for its position, with zeros and at most one plus
before it, and under no other text.  Only a length is a field of its own, and the text that is
printed for a position finds the item there.  An array in memory has fewer than `2 ^ 63` items, and
a text has fewer than `2 ^ 63` bytes. -/
theorem items_by_position (items : List Value) (hitems : items.length < 2 ^ 63) (text : String)
    (htext : text.utf8ByteSize < 2 ^ 63) :
    (∀ key : String,
      (((array items).lookup key).isSome ↔ ∃ i, Counts key.toList i ∧ i < items.length) ∧
      (∀ i, Counts key.toList i → (array items).lookup key = items[i]?) ∧
      (NoPosition key.toList → (array items).lookup key = none)) ∧
    (∀ value key, field value key ≠ lookup value key ↔
      key = "length" ∧ ((∃ items, value = array items) ∨ ∃ text, value = string text)) ∧
    (∃ n, (array items).field "length" = some (integer n) ∧ n.toInt = items.length) ∧
    (∃ n, (string text).field "length" = some (integer n) ∧
      n.toInt = text.toList.countP (fun c => c.toNat < 0x10000) +
        2 * text.toList.countP (fun c => 0x10000 ≤ c.toNat)) ∧
    ∀ n : Int64, 0 ≤ n →
      (∀ i, Counts (toString n.toInt).toList i ↔ i = n.toInt.toNat) ∧
      (array items).lookup (toString n.toInt) = items[n.toInt.toNat]? ∧
      (array items).field (toString n.toInt) = items[n.toInt.toNat]? ∧
      (array items).subset [.index n] =
        .ok (array (items[n.toInt.toNat]?.filter isTruthy).toList) := by
  refine ⟨?_, fun value key => field_ne_lookup_iff, field_length_array hitems, ?_, ?_⟩
  · intro key
    exact ⟨isSome_lookup_array_iff hitems, fun i => lookup_of_counts hitems, lookup_of_noPosition⟩
  · obtain ⟨n, hfield, hn⟩ := field_length_string htext
    refine ⟨n, hfield, ?_⟩
    rw [hn, units16_eq_countP]
    push_cast
    rfl
  · intro n hn
    exact ⟨fun i => counts_toString_iff hn, lookup_printed hn, field_printed hn, subset_printed hn⟩

/-- The number that wraps around to zero, and other texts that are close to a position; the second
character of the text takes two units. -/
theorem items_by_position_of_wrapping_keys :
    let value := array [string "a", string "b", string "c"]
    value.lookup "+002" = some (string "c") ∧ value.lookup "18446744073709551616" = none ∧
      value.lookup "-1" = none ∧ value.lookup "1.0" = none ∧ value.lookup "١" = none ∧
      value.lookup "" = none ∧ value.lookup "+" = none ∧
      value.subset [.index 1] = .ok (array [string "b"]) ∧
      (string "a😀").field "length" = some (integer 3) := by
  intro value
  have hitems : [string "a", string "b", string "c"].length < 2 ^ 63 := by decide
  have htext : "a😀".utf8ByteSize < 2 ^ 63 := by cbv
  obtain ⟨hkeys, -, -, ⟨n, hfield, hn⟩, hprinted⟩ := items_by_position _ hitems "a😀" htext
  have htwo : IsNumeral "002".toList 2 := ⟨by simp, by simp, rfl⟩
  have hplus : Counts "+002".toList 2 := .plus htwo
  have hlarge : Counts "18446744073709551616".toList (2 ^ 64) := .digits ⟨by simp, by simp, rfl⟩
  have harabic : NoPosition "١".toList := .script List.mem_cons_self (by decide)
  have hthree : n = 3 := Int64.toInt_inj.mp hn
  refine ⟨(hkeys _).2.1 2 hplus, (hkeys _).2.2 (.overflow hlarge le_rfl),
    (hkeys _).2.2 (.minus (by simp)), (hkeys _).2.2 (.point (by simp)), (hkeys _).2.2 harabic,
    (hkeys _).2.2 (.signs (by simp)), (hkeys _).2.2 (.signs (by simp)),
    (hprinted 1 (by decide)).2.2.2, ?_⟩
  rw [hfield, hthree]

end Value

end FilterChain
