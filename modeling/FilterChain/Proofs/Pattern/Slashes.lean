import FilterChain.Proofs.Tree.RoundTrip
import FilterChain.Proofs.Value.Matching
import FilterChain.Evaluation

/-!
# Slashes in replacements

A slash in a replacement has to be written with a backslash, or the replacement would end there.
The backslash stays in the filter, and it means itself where the replacement is expanded: it comes
out in front of the slash.  So a replacement gives back the text that was written into it exactly if
this text has no slash.
-/

namespace FilterChain

open Lexer Regex

namespace Replacement

/-! ## Texts written as replacements -/

/-- A text with a backslash in front of every slash. -/
def escapeSlashes (text : List Char) : List Char :=
  text.flatMap fun c => if c = '/' then ['\\', '/'] else [c]

/-- A text as a replacement that refers to no group. -/
def quote (text : List Char) : List Char :=
  text.flatMap fun c =>
    if c = '/' then ['\\', '/']
    else if c = '$' then ['$', '$']
    else [c]

theorem escapeSlashes_slash (text : List Char) :
    escapeSlashes ('/' :: text) = '\\' :: '/' :: escapeSlashes text := rfl

theorem escapeSlashes_other {c : Char} (hc : c ≠ '/') (text : List Char) :
    escapeSlashes (c :: text) = c :: escapeSlashes text := by
  unfold escapeSlashes
  rw [List.flatMap_cons, if_neg hc]
  rfl

theorem quote_slash (text : List Char) : quote ('/' :: text) = '\\' :: '/' :: quote text := rfl

theorem quote_dollar (text : List Char) : quote ('$' :: text) = '$' :: '$' :: quote text := rfl

theorem quote_other {c : Char} (hslash : c ≠ '/') (hdollar : c ≠ '$') (text : List Char) :
    quote (c :: text) = c :: quote text := by
  unfold quote
  rw [List.flatMap_cons, if_neg hslash, if_neg hdollar]
  rfl

theorem length_escapeSlashes (text : List Char) :
    (escapeSlashes text).length = text.length + text.count '/' := by
  induction text with
  | nil => rfl
  | cons c text ih =>
      by_cases hc : c = '/'
      · subst hc
        rw [escapeSlashes_slash, List.length_cons, List.length_cons, List.length_cons, ih,
          List.count_cons_self]
        omega
      · rw [escapeSlashes_other hc, List.length_cons, List.length_cons, ih,
          List.count_cons_of_ne hc]
        omega

theorem escapeSlashes_eq_self_iff (text : List Char) :
    escapeSlashes text = text ↔ '/' ∉ text := by
  have hlength := length_escapeSlashes text
  rw [← List.count_eq_zero]
  constructor
  · intro hsame
    rw [hsame] at hlength
    omega
  · intro hnone
    have hmem : ∀ c ∈ text, (if c = '/' then ['\\', '/'] else [c]) = [c] := by
      intro c hc
      rw [if_neg]
      rintro rfl
      exact List.count_eq_zero.mp hnone hc
    rw [escapeSlashes, List.flatMap_congr hmem]
    exact List.flatMap_singleton' text

/-- A text without backslashes can be written as a replacement. -/
theorem section_quote {text : List Char} (htext : '\\' ∉ text) : Section (quote text) := by
  induction text with
  | nil => exact .nil
  | cons c text ih =>
      rw [List.mem_cons, not_or] at htext
      have hrest := ih htext.2
      by_cases hslash : c = '/'
      · subst hslash
        rw [quote_slash]
        exact .pair hrest
      · by_cases hdollar : c = '$'
        · subst hdollar
          rw [quote_dollar]
          exact .plain (by decide) (by decide) (.plain (by decide) (by decide) hrest)
        · rw [quote_other hslash hdollar]
          exact .plain hslash (Ne.symm htext.1) hrest

theorem expand_quote (groups : Nat) (hit : Hit) (text : List Char) :
    expand groups hit (quote text) = escapeSlashes text := by
  induction text with
  | nil =>
      rw [quote, List.flatMap_nil, expand]
      rfl
  | cons c text ih =>
      by_cases hslash : c = '/'
      · subst hslash
        rw [quote_slash, expand_char hit (by decide), expand_char hit (by decide), ih,
          escapeSlashes_slash]
      · rw [escapeSlashes_other hslash, ← ih]
        by_cases hdollar : c = '$'
        · subst hdollar
          rw [quote_dollar, expand]
        · rw [quote_other hslash hdollar, expand_char hit hdollar]

end Replacement

/-! ## Substitutions in source text -/

/-- A substitution of the first match, as it is written. -/
def Filter.substitutionText (pattern replacement : List Char) : String :=
  String.ofList ('s' :: '/' :: (pattern ++ '/' :: (replacement ++ ['/'])))

theorem Tree.parse_substitutionText {pattern : String} (hpattern : IsPattern pattern)
    {replacement : List Char} (hreplacement : Section replacement) :
    Tree.parse (Filter.substitutionText pattern.toList replacement) =
      .ok [[.substitution pattern (String.ofList replacement) ""]] := by
  let filter : Filter := .substitution pattern (String.ofList replacement) ""
  have hwell : Tree.WellFormed [[filter]] := by
    simp [filter, Tree.WellFormed, Chain.WellFormed, Filter.WellFormed, AreFlags, hpattern,
      hreplacement]
  have hfloat : Tree.FloatFree [[filter]] := by
    simp [filter, Tree.FloatFree, Filter.FloatFree]
  have htext : Tree.render ⟨true, fun _ => false⟩ [[filter]] =
      Filter.substitutionText pattern.toList replacement := by
    simp [filter, Tree.render, Chain.render, Filter.render, commas, Filter.substitutionText]
  rw [← htext]
  exact Tree.parse_render _ hwell hfloat

namespace Replacement

open Value

theorem ofChars_eq_iff (before after first second : List Char) :
    ofChars (before ++ first ++ after) = ofChars (before ++ second ++ after) ↔
      first = second := by
  unfold ofChars
  rw [string.injEq, String.ofList_inj, List.append_left_inj, List.append_right_inj]

section

variable [Engine] {pattern text : String} {compiled : Pattern} {hit : Hit} (inserted : String)

theorem apply_quote (hcompile : Pattern.compile pattern "" = .ok compiled)
    (hhit : Engine.hit? compiled.program text.toList = some hit) (registry : Registry)
    (context : Context) :
    (Filter.substitution pattern (String.ofList (quote inserted.toList)) "").apply registry
        (.string text) context =
      ⟨.ok (ofChars (hit.gap ++ escapeSlashes inserted.toList ++ hit.rest)), context⟩ := by
  have hflags : 'g' ∉ "".toList := by decide
  rw [Filter.apply, substitute_first hcompile hflags hhit, String.toList_ofList, expand_quote]

/-- A text without backslashes, written as a replacement and put in place of the first match, comes
out with a backslash in front of every slash; so it comes out as it was exactly if it has none. -/
theorem quote_in_place_of_match (hpattern : IsPattern pattern)
    (hcompile : Pattern.compile pattern "" = .ok compiled) (hinserted : '\\' ∉ inserted.toList)
    (hhit : Engine.hit? compiled.program text.toList = some hit) :
    hit.gap ++ hit.text ++ hit.rest = text.toList ∧
      ∃ filter,
        Tree.parse (Filter.substitutionText pattern.toList (quote inserted.toList)) =
          .ok [[filter]] ∧
        ∀ registry context,
          filter.apply registry (.string text) context =
              ⟨.ok (ofChars (hit.gap ++ escapeSlashes inserted.toList ++ hit.rest)), context⟩ ∧
            ((filter.apply registry (.string text) context).result =
                .ok (ofChars (hit.gap ++ inserted.toList ++ hit.rest)) ↔
              '/' ∉ inserted.toList) := by
  refine ⟨Engine.append_of_hit? hhit, _,
    Tree.parse_substitutionText hpattern (section_quote hinserted), ?_⟩
  intro registry context
  have happly := apply_quote inserted hcompile hhit registry context
  refine ⟨happly, ?_⟩
  rw [happly, Except.ok.injEq, ofChars_eq_iff, escapeSlashes_eq_self_iff]

end

/-- A dollar and a slash: the dollar is no reference, and the slash keeps its backslash. -/
theorem quote_in_place_of_match_of_dollar_and_slash :
    Tree.parse "s/b/c\\/$$1/" = .ok [[.substitution "b" "c\\/$$1" ""]] ∧
      ((Filter.substitution "b" "c\\/$$1" "").apply .standard (.string "abab") .empty).result =
        .ok (string "ac\\/$1ab") := by
  let program : Program := ⟨#[.accept, .chars [⟨98, 98⟩] 0], 1, 0, []⟩
  let first : Hit := ⟨['a'], ['b'], [], ['a', 'b']⟩
  have hpattern : IsPattern "b" := ⟨by decide, .plain (by decide) (by decide) .nil⟩
  have hcompile : Pattern.compile "b" "" = .ok ⟨program, false⟩ := by cbv
  have hhit : program.hit? none "abab".toList = some first := by cbv
  obtain ⟨-, filter, hparse, happly⟩ :=
    quote_in_place_of_match "c/$1" hpattern hcompile (by decide) hhit
  have htree : Tree.parse "s/b/c\\/$$1/" = .ok [[.substitution "b" "c\\/$$1" ""]] :=
    (Tree.parse_eq _).trans (by cbv)
  have hfilter : filter = .substitution "b" "c\\/$$1" "" := by
    have hsame := hparse.symm.trans htree
    simpa using hsame
  refine ⟨htree, ?_⟩
  rw [← hfilter, (happly .standard .empty).1]
  rfl

/-- A slash cannot be put in place of a match: its backslash comes with it. -/
theorem slash_in_place_of_match_keeps_backslash :
    Tree.parse "s/b/c\\/d/" = .ok [[.substitution "b" "c\\/d" ""]] ∧
      ((Filter.substitution "b" "c\\/d" "").apply .standard (.string "abab") .empty).result =
        .ok (string "ac\\/dab") ∧
      ((Filter.substitution "b" "c\\/d" "").apply .standard (.string "abab") .empty).result ≠
        .ok (string "ac/dab") := by
  have hresult :
      ((Filter.substitution "b" "c\\/d" "").apply .standard (.string "abab") .empty).result =
        .ok (string "ac\\/dab") := by cbv
  refine ⟨(Tree.parse_eq _).trans (by cbv), hresult, ?_⟩
  rw [hresult]
  simp

end Replacement

end FilterChain
