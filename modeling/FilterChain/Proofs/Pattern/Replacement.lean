import Mathlib
import FilterChain.Proofs.Decimal.Digits
import FilterChain.Pattern

/-!
# Expansion by position

A replacement means a text for each hit, with no template in between: `expand` reads it from the
left.  The template of a replacement, read by the rules of templates, means the same.
-/

namespace FilterChain

/-! ## Reading templates -/

namespace Regex.TemplatePart

theorem ofTemplate_dollar (text : List Char) :
    ofTemplate ('$' :: '$' :: text) = char '$' :: ofTemplate text := by
  rw [ofTemplate]

theorem ofTemplate_char {c : Char} (hc : c ≠ '$') (text : List Char) :
    ofTemplate (c :: text) = char c :: ofTemplate text := by
  rw [ofTemplate]
  · exact fun _ hdollar => absurd hdollar hc
  · exact hc

theorem reference?_braces {name : List Char} (hname : '}' ∉ name) (text : List Char) :
    reference? ('{' :: (name ++ '}' :: text)) = some (reference name, text) := by
  have hinside : ∀ c ∈ name, decide (c ≠ '}') = true := by
    intro c hc
    refine decide_eq_true ?_
    rintro rfl
    exact hname hc
  rw [reference?, List.dropWhile_append_of_pos hinside, List.takeWhile_append_of_pos hinside]
  simp

theorem ofTemplate_reference {index : Nat} (hindex : index < 0x10000000000000000) (text : List Char) :
    ofTemplate (Replacement.reference index ++ text) = group index :: ofTemplate text := by
  have hbrace : '}' ∉ Nat.toDigits 10 index := by
    intro hmem
    cases Decimal.isDigit_of_mem_toDigits hmem
  have hread : reference? ('{' :: (Nat.toDigits 10 index ++ '}' :: text)) =
      some (group index, text) := by
    rw [reference?_braces hbrace, reference, Decimal.count?_toDigits hindex]
  have hcons : Replacement.reference index ++ text =
      '$' :: '{' :: (Nat.toDigits 10 index ++ '}' :: text) := by
    simp [Replacement.reference]
  rw [hcons, ofTemplate]
  · split
    · next part rest hfound =>
      cases hfound.symm.trans hread
      rfl
    · next hnone => cases hnone.symm.trans hread
  · intro more hdollar
    exact absurd (List.cons.inj hdollar).1 (by decide)

end Regex.TemplatePart

/-! ## Replacements -/

namespace Replacement

/-- The group that so many digits in front of a text refer to, and the text behind them. -/
def leading? (groups digits : Nat) (text : List Char) : Option (Nat × List Char) :=
  let number := text.take digits
  if number.length = digits ∧ Decimal.isDigits number ∧
      isGroup groups (Decimal.natOfDigits number) then
    some (Decimal.natOfDigits number, text.drop digits)
  else none

/-- The group that the digits in front of a text refer to: two digits if there is such a group,
or else one. -/
def position? (groups : Nat) (text : List Char) : Option (Nat × List Char) :=
  (leading? groups 2 text).or (leading? groups 1 text)

theorem leading?_eq_some_iff {groups digits index : Nat} {text rest : List Char} :
    leading? groups digits text = some (index, rest) ↔
      ∃ number, text = number ++ rest ∧ number.length = digits ∧ Decimal.isDigits number = true ∧
        isGroup groups index = true ∧ Decimal.natOfDigits number = index := by
  unfold leading?
  dsimp only
  constructor
  · intro hfound
    split at hfound
    · next hnumber =>
      obtain ⟨hlength, hdigits, hgroup⟩ := hnumber
      cases hfound
      exact ⟨_, (List.take_append_drop digits text).symm, hlength, hdigits, hgroup, rfl⟩
    · cases hfound
  · rintro ⟨number, rfl, rfl, hdigits, hgroup, rfl⟩
    rw [List.take_left, List.drop_left, if_pos ⟨rfl, hdigits, hgroup⟩]

theorem exists_number_of_position? {groups index : Nat} {text rest : List Char}
    (hfound : position? groups text = some (index, rest)) :
    ∃ number, text = number ++ rest ∧ number ≠ [] ∧ number.length ≤ 2 ∧
      Decimal.isDigits number = true ∧ isGroup groups index = true ∧
      Decimal.natOfDigits number = index := by
  unfold position? at hfound
  cases Option.or_eq_some_iff.mp hfound with
  | inl htwo =>
      obtain ⟨number, htext, hlength, hnumber⟩ := leading?_eq_some_iff.mp htwo
      refine ⟨number, htext, ?_, Nat.le_of_eq hlength, hnumber⟩
      rintro rfl
      cases hlength
  | inr hone =>
      obtain ⟨number, htext, hlength, hnumber⟩ := leading?_eq_some_iff.mp hone.2
      refine ⟨number, htext, ?_, by omega, hnumber⟩
      rintro rfl
      cases hlength

theorem length_lt_of_position? {groups index : Nat} {text rest : List Char}
    (hfound : position? groups text = some (index, rest)) : rest.length < text.length := by
  obtain ⟨number, rfl, hne, -⟩ := exists_number_of_position? hfound
  have hpos := List.length_pos_iff.mpr hne
  rw [List.length_append]
  omega

/-- What a replacement for a pattern with so many groups means for a hit. -/
def expand (groups : Nat) (hit : Regex.Hit) (replacement : List Char) : List Char :=
  match replacement with
  | [] => []
  | '$' :: '$' :: text => '$' :: expand groups hit text
  | '$' :: '&' :: text => hit.text ++ expand groups hit text
  | '$' :: text =>
    match _found : position? groups text with
    | some (index, rest) => (hit.group? index).getD [] ++ expand groups hit rest
    | none => '$' :: expand groups hit text
  | c :: text => c :: expand groups hit text
termination_by replacement.length
decreasing_by
  · exact Nat.lt_succ_of_lt (Nat.lt_succ_self _)
  · exact Nat.lt_succ_of_lt (Nat.lt_succ_self _)
  · exact Nat.lt_succ_of_lt (length_lt_of_position? _found)
  · exact Nat.lt_succ_self _
  · exact Nat.lt_succ_self _

section

variable {groups : Nat} (hit : Regex.Hit)

theorem expand_dollar {text : List Char} (hdollar : ∀ more, text ≠ '$' :: more)
    (hwhole : ∀ more, text ≠ '&' :: more) :
    expand groups hit ('$' :: text) =
      match position? groups text with
      | some (index, rest) => (hit.group? index).getD [] ++ expand groups hit rest
      | none => '$' :: expand groups hit text := by
  rw [expand]
  · split
    · next hfound => rw [hfound]
    · next hnone => rw [hnone]
  · exact hdollar
  · exact hwhole

theorem expand_char {c : Char} (hc : c ≠ '$') (text : List Char) :
    expand groups hit (c :: text) = c :: expand groups hit text := by
  rw [expand]
  all_goals simp [hc]

end

/-! ## Templates of replacements -/

section

variable {groups : Nat}

theorem template_char {c : Char} (hc : c ≠ '$') (text : List Char) :
    template groups (c :: text) = c :: template groups text := by
  rw [template]
  all_goals simp [hc]

theorem leading?_one (c : Char) (text : List Char) :
    leading? groups 1 (c :: text) =
      if c.isDigit && isGroup groups (Decimal.digitValue c) then
        some (Decimal.digitValue c, text)
      else none := by
  simp [leading?, Decimal.isDigits, Decimal.natOfDigits]

theorem leading?_two (c d : Char) (text : List Char) :
    leading? groups 2 (c :: d :: text) =
      if c.isDigit && d.isDigit &&
          isGroup groups (10 * Decimal.digitValue c + Decimal.digitValue d) then
        some (10 * Decimal.digitValue c + Decimal.digitValue d, text)
      else none := by
  simp [leading?, Decimal.isDigits, Decimal.natOfDigits, and_assoc]

/-- The template of a dollar that is not doubled and does not mean the whole match. -/
theorem template_dollar {text : List Char} (hdollar : ∀ more, text ≠ '$' :: more)
    (hwhole : ∀ more, text ≠ '&' :: more) :
    template groups ('$' :: text) =
      match position? groups text with
      | some (index, rest) => reference index ++ template groups rest
      | none => '$' :: '$' :: template groups text := by
  match text with
  | [] => rfl
  | [c] =>
      have htwo : leading? groups 2 [c] = none := rfl
      rw [position?, leading?_one, htwo, Option.none_or, template]
      · split
        · simp [template]
        · rfl
      · exact fun hc => hdollar [] (congrArg (· :: []) hc)
      · exact fun hc => hwhole [] (congrArg (· :: []) hc)
  | c :: d :: text =>
      rw [position?, leading?_one, leading?_two, template]
      · split
        · rfl
        · rw [Option.none_or]
          split
          · rfl
          · rfl
      · exact fun hc => hdollar _ (congrArg (· :: d :: text) hc)
      · exact fun hc => hwhole _ (congrArg (· :: d :: text) hc)

theorem index_lt_of_position? {index : Nat} {text rest : List Char}
    (hfound : position? groups text = some (index, rest)) : index < 100 := by
  obtain ⟨number, -, -, hlength, hdigits, -, rfl⟩ := exists_number_of_position? hfound
  have hlt := Decimal.natOfDigits_lt (List.all_eq_true.mp hdigits)
  have hle : 10 ^ number.length ≤ 10 ^ 2 := Nat.pow_le_pow_right (by decide) hlength
  omega

end

/-! ## Parts of replacements -/

/-- The parts of a replacement, as its template is read. -/
def parts (groups : Nat) (replacement : List Char) : List Regex.TemplatePart :=
  Regex.TemplatePart.ofTemplate (template groups replacement)

section

open Regex.TemplatePart

variable {groups : Nat}

theorem parts_nil : parts groups [] = [] := by
  rw [parts, template, ofTemplate]

theorem parts_doubled (text : List Char) :
    parts groups ('$' :: '$' :: text) = char '$' :: parts groups text := by
  rw [parts, template, ofTemplate_dollar, parts]

theorem parts_whole (text : List Char) :
    parts groups ('$' :: '&' :: text) = group 0 :: parts groups text := by
  rw [parts, template, ofTemplate_reference (by decide), parts]

theorem parts_char {c : Char} (hc : c ≠ '$') (text : List Char) :
    parts groups (c :: text) = char c :: parts groups text := by
  rw [parts, template_char hc, ofTemplate_char hc, parts]

variable {text : List Char} (hdollar : ∀ more, text ≠ '$' :: more)
  (hwhole : ∀ more, text ≠ '&' :: more)
include hdollar hwhole

theorem parts_position {index : Nat} {rest : List Char}
    (hfound : position? groups text = some (index, rest)) :
    parts groups ('$' :: text) = group index :: parts groups rest := by
  have hindex := index_lt_of_position? hfound
  rw [parts, template_dollar hdollar hwhole, hfound]
  exact ofTemplate_reference (by omega) _

theorem parts_lone (hnone : position? groups text = none) :
    parts groups ('$' :: text) = char '$' :: parts groups text := by
  rw [parts, template_dollar hdollar hwhole, hnone]
  exact ofTemplate_dollar _

end

/-- The template of a replacement gives the texts of a hit by their positions, whatever the
names of the groups are. -/
theorem expandTemplate_template (groups : Nat) (names : List (String × Nat)) (hit : Regex.Hit)
    (replacement : List Char) :
    Regex.expandTemplate names (template groups replacement) hit =
      expand groups hit replacement := by
  change (parts groups replacement).flatMap (Regex.TemplatePart.expand names hit) = _
  induction replacement using expand.induct groups with
  | case1 =>
      rw [parts_nil, expand]
      rfl
  | case2 text ih =>
      rw [parts_doubled, List.flatMap_cons, ih, expand]
      rfl
  | case3 text ih =>
      rw [parts_whole, List.flatMap_cons, ih, expand]
      rfl
  | case4 text hdollar hwhole index rest hfound ih =>
      rw [parts_position hdollar hwhole hfound, List.flatMap_cons, ih,
        expand_dollar hit hdollar hwhole, hfound]
      rfl
  | case5 text hdollar hwhole hnone ih =>
      rw [parts_lone hdollar hwhole hnone, List.flatMap_cons, ih,
        expand_dollar hit hdollar hwhole, hnone]
      rfl
  | case6 c text _ _ hc ih =>
      rw [parts_char hc, List.flatMap_cons, ih, expand_char hit hc]
      rfl

end Replacement

end FilterChain
