import FilterChain.Function.Builtin
import FilterChain.Proofs.Text.Delimited

/-!
# Splitting and joining

A split takes the leftmost occurrences of a delimiter out of a text and gives the fragments
between them.  Where these are glued together again, the glue is what a second split takes out,
although a delimiter may overlap itself and empty fragments are dropped: a fragment in front of the
glue has stood in front of a delimiter before, and no occurrence starts earlier.
-/

namespace FilterChain

/-! ## Cuts at the glue -/

section

variable {delimiter text : List Char}

theorem cuts_intercalate_cons {piece : List Char} {texts : List (List Char)}
    (hdelimiter : delimiter ≠ []) (hfirst : FirstBehind delimiter piece)
    (htexts : texts ≠ [] → Cuts delimiter (delimiter.intercalate texts) texts) :
    Cuts delimiter (delimiter.intercalate (piece :: texts)) (piece :: texts) := by
  cases texts with
  | nil =>
      rw [List.intercalate_singleton]
      exact Cuts.last (hfirst.not_infix hdelimiter)
  | cons next more =>
      rw [List.intercalate_cons_cons]
      exact Cuts.first hfirst (htexts (List.cons_ne_nil next more))

theorem cuts_intercalate {texts : List (List Char)} (hdelimiter : delimiter ≠ [])
    (hfirst : ∀ piece ∈ texts, FirstBehind delimiter piece) (htexts : texts ≠ []) :
    Cuts delimiter (delimiter.intercalate texts) texts := by
  induction texts with
  | nil => exact absurd rfl htexts
  | cons piece texts ih =>
      obtain ⟨hpiece, hothers⟩ := List.forall_mem_cons.mp hfirst
      exact cuts_intercalate_cons hdelimiter hpiece (ih hothers)

/-- The pieces of a text that are not empty are cut at the glue again. -/
theorem Cuts.intercalate_filter {texts : List (List Char)} (hcuts : Cuts delimiter text texts)
    (hdelimiter : delimiter ≠ []) (hkept : texts.filter (fun piece => !piece.isEmpty) ≠ []) :
    Cuts delimiter (delimiter.intercalate (texts.filter fun piece => !piece.isEmpty))
      (texts.filter fun piece => !piece.isEmpty) := by
  induction hcuts with
  | @last text hnone =>
      -- A delimiter behind the last piece need not be the first one, but none is put there.
      cases text with
      | nil => exact absurd rfl hkept
      | cons c text =>
          change Cuts delimiter (delimiter.intercalate [c :: text]) [c :: text]
          rw [List.intercalate_singleton]
          exact Cuts.last hnone
  | @first before rest more hfirst hrest ih =>
      cases before with
      | nil => exact ih hkept
      | cons c before => exact cuts_intercalate_cons hdelimiter hfirst ih

end

theorem Value.string_ne_null (text : String) : string text ≠ null :=
  fun hnull => nomatch hnull

namespace Function

/-! ## What the functions give -/

def keptFragments (delimiter text : List Char) : List (List Char) :=
  (fragments delimiter text).filter fun fragment => !fragment.isEmpty

/-- Fragments as an array of strings. -/
def ofFragments (fragments : List (List Char)) : Value :=
  .array ((fragments.map String.ofList).map Value.string)

theorem argument?_cons {argument : Value} (hargument : argument ≠ .null) (others : List Value) :
    argument? (argument :: others) = some argument := by
  cases argument with
  | null => exact absurd rfl hargument
  | _ => rfl

theorem split_of_delimiter {argument : Value} (hargument : argument ≠ .null) (text : String)
    (others : List Value) :
    split (.string text) (argument :: others) =
      .ok (ofFragments (keptFragments argument.display.toList text.toList)) := by
  rw [split, argument?_cons hargument, ofFragments, List.map_map]
  rfl

theorem split_of_string (text delimiter : String) :
    split (.string text) [.string delimiter] =
      .ok (ofFragments (keptFragments delimiter.toList text.toList)) :=
  split_of_delimiter (Value.string_ne_null delimiter) text []

theorem split_of_no_delimiter {arguments : List Value} (hnone : argument? arguments = none)
    (text : String) :
    split (.string text) arguments =
      .ok (.array (if text = "" then [] else [.string text])) := by
  rw [split, hnone]
  by_cases hempty : text = ""
  · subst hempty
    rfl
  · have hlist : text.toList ≠ [] := by simpa using hempty
    simp [hempty, hlist]

theorem join_strings (texts : List String) (glue : String) :
    join (.array (texts.map Value.string)) [.string glue] =
      .ok (.string (String.intercalate glue texts)) := by
  rw [join, List.map_map]
  change Except.ok (Value.string (String.intercalate glue (texts.map id))) = _
  rw [List.map_id]

/-! ## Fragments -/

theorem keptFragments_nil (text : List Char) : keptFragments [] text = text.map fun c => [c] := by
  rw [keptFragments, fragments, List.filter_eq_self]
  simp

theorem intercalate_singletons (text : List Char) :
    List.intercalate [] (text.map fun c => [c]) = text := by
  induction text with
  | nil => rfl
  | cons c text ih =>
      cases text with
      | nil => rfl
      | cons next text => simpa [List.intercalate_cons_cons] using ih

theorem keptFragments_of_cuts {delimiter text : List Char} {texts : List (List Char)}
    (hdelimiter : delimiter ≠ []) (hcuts : Cuts delimiter text texts) :
    keptFragments delimiter text = texts.filter fun piece => !piece.isEmpty := by
  cases delimiter with
  | nil => exact absurd rfl hdelimiter
  | cons first others => rw [keptFragments, fragments, (cuts_pieces first others text).unique hcuts]

theorem keptFragments_intercalate_of_cuts {delimiter : List Char} {texts : List (List Char)}
    (hdelimiter : delimiter ≠ []) (hfull : ∀ piece ∈ texts, piece ≠ [])
    (hcuts : texts ≠ [] → Cuts delimiter (delimiter.intercalate texts) texts) :
    keptFragments delimiter (delimiter.intercalate texts) = texts := by
  by_cases htexts : texts = []
  · subst htexts
    have hlast : Cuts delimiter [] [[]] := Cuts.last (by simpa using hdelimiter)
    rw [List.intercalate_nil, keptFragments_of_cuts hdelimiter hlast]
    rfl
  · rw [keptFragments_of_cuts hdelimiter (hcuts htexts), List.filter_eq_self]
    intro piece hmem
    simpa using hfull piece hmem

/-- Fragments that are glued together are cut into the same fragments. -/
theorem keptFragments_intercalate (delimiter text : List Char) :
    keptFragments delimiter (delimiter.intercalate (keptFragments delimiter text)) =
      keptFragments delimiter text := by
  cases delimiter with
  | nil => rw [keptFragments_nil text, intercalate_singletons, keptFragments_nil]
  | cons first others =>
      have hcuts := cuts_pieces first others text
      have hdelimiter := List.cons_ne_nil first others
      rw [keptFragments_of_cuts hdelimiter hcuts]
      apply keptFragments_intercalate_of_cuts hdelimiter
      · intro piece hmem
        simpa using (List.mem_filter.mp hmem).2
      · exact hcuts.intercalate_filter hdelimiter

/-- A split takes nothing out of a text but the leftmost occurrences of the delimiter: the text is
a row of the fragments and of copies of the delimiter, which stand exactly there. -/
theorem split_between_leftmost (text : String) :
    (∀ argument others, argument ≠ .null →
      let delimiter := argument.display.toList
      (delimiter ≠ [] →
        ∃ row : Delimited,
          split (.string text) (argument :: others) = .ok (ofFragments row.fragments) ∧
          (∀ fragment ∈ row.fragments, fragment ≠ [] ∧ ¬ delimiter <:+: fragment) ∧
          row.Separated ∧ row.text delimiter = text.toList ∧
          ∀ offsets, Leftmost delimiter text.toList offsets ↔ offsets = row.offsets delimiter) ∧
      (delimiter = [] →
        split (.string text) (argument :: others) =
          .ok (.array (text.toList.map fun c => .string (String.singleton c))))) ∧
    ∀ arguments, arguments = [] ∨ (∃ others, arguments = .null :: others) →
      split (.string text) arguments =
        .ok (.array (if text = "" then [] else [.string text])) := by
  constructor
  · intro argument others hargument delimiter
    have hsplit := split_of_delimiter hargument text others
    constructor
    · intro hdelimiter
      obtain ⟨texts, hcuts⟩ := exists_cuts hdelimiter text.toList
      obtain ⟨row, hfragments, hseparated, htext, hleftmost⟩ := hcuts.exists_delimited
      rw [keptFragments_of_cuts hdelimiter hcuts, ← hfragments] at hsplit
      refine ⟨row, hsplit, ?_, hseparated, htext, ?_⟩
      · intro fragment hmem
        rw [hfragments, List.mem_filter] at hmem
        exact ⟨by simpa using hmem.2, hcuts.not_infix hdelimiter fragment hmem.1⟩
      · intro offsets
        constructor
        · intro hoffsets
          exact hoffsets.unique hdelimiter hleftmost
        · rintro rfl
          exact hleftmost
    · intro hdelimiter
      have hempty : argument.display.toList = [] := hdelimiter
      rw [hsplit, hempty, keptFragments_nil, ofFragments, List.map_map, List.map_map]
      rfl
  · rintro arguments (rfl | ⟨others, rfl⟩)
    · exact split_of_no_delimiter rfl text
    · exact split_of_no_delimiter rfl text

/-- The delimiter overlaps itself, so that the first and the second of three letters are one
occurrence. -/
theorem split_between_leftmost_of_overlaps :
    Value.string "aa" ≠ .null ∧ "aa".toList ≠ [] ∧
      (∃ row : Delimited,
        ofFragments row.fragments = .array [.string "ab"] ∧
          row.text "aa".toList = "aaabaaaa".toList ∧
          Leftmost "aa".toList "aaabaaaa".toList (row.offsets "aa".toList)) ∧
      split (.string "añ") [.string ""] = .ok (.array [.string "a", .string "ñ"]) ∧
      split (.string "") [.null, .integer 1] = .ok (.array []) := by
  have hdelimiter : "aa".toList ≠ [] := by decide
  obtain ⟨hgiven, hnone⟩ := split_between_leftmost "aaabaaaa"
  obtain ⟨row, hsplit, -, -, htext, hleftmost⟩ := (hgiven _ [] (Value.string_ne_null "aa")).1 hdelimiter
  have hfragments : split (.string "aaabaaaa") [.string "aa"] = .ok (.array [.string "ab"]) := by
    cbv
  refine ⟨Value.string_ne_null "aa", hdelimiter, ⟨row, ?_, htext, (hleftmost _).mpr rfl⟩, ?_, ?_⟩
  · exact Except.ok.inj (hsplit.symm.trans hfragments)
  · exact ((split_between_leftmost "añ").1 _ [] (Value.string_ne_null "")).2 rfl
  · exact (split_between_leftmost "").2 _ (Or.inr ⟨_, rfl⟩)

/-! ## Joining what was split -/

theorem toList_intercalate_ofList (delimiter : String) (texts : List (List Char)) :
    (String.intercalate delimiter (texts.map String.ofList)).toList =
      delimiter.toList.intercalate texts := by
  rw [String.toList_intercalate, List.map_map]
  simp [Function.comp_def]

theorem ofFragments_toList (texts : List String) :
    ofFragments (texts.map String.toList) = .array (texts.map Value.string) := by
  rw [ofFragments, List.map_map]
  simp [Function.comp_def]

/-- Texts that the glue cuts again are given back by a split of what a join gives. -/
theorem exists_split_join {delimiter : String} {texts : List (List Char)}
    (hkept : keptFragments delimiter.toList (delimiter.toList.intercalate texts) = texts) :
    ∃ glued,
      join (ofFragments texts) [.string delimiter] = .ok (.string glued) ∧
      glued.toList = delimiter.toList.intercalate texts ∧
      split (.string glued) [.string delimiter] = .ok (ofFragments texts) := by
  have hglued := toList_intercalate_ofList delimiter texts
  refine ⟨_, join_strings _ delimiter, hglued, ?_⟩
  have hsplit := split_of_string (String.intercalate delimiter (texts.map String.ofList)) delimiter
  rw [hsplit, hglued, hkept]

/-- Splitting what was joined from a split gives the same fragments again, whether the delimiter
overlaps itself or not.  Texts that lack a character come back from a join with it. -/
theorem split_join_split :
    (∀ text delimiter : String, ∃ (fragments : List String) (glued : String),
      split (.string text) [.string delimiter] = .ok (.array (fragments.map Value.string)) ∧
      join (.array (fragments.map Value.string)) [.string delimiter] = .ok (.string glued) ∧
      split (.string glued) [.string delimiter] = .ok (.array (fragments.map Value.string)) ∧
      (delimiter = "" → glued = text)) ∧
    ∀ (c : Char) (texts : List String), (∀ text ∈ texts, text ≠ "" ∧ c ∉ text.toList) →
      ∃ glued,
        join (.array (texts.map Value.string)) [.string (String.singleton c)] =
          .ok (.string glued) ∧
        split (.string glued) [.string (String.singleton c)] =
          .ok (.array (texts.map Value.string)) := by
  constructor
  · intro text delimiter
    have hsplit := split_of_string text delimiter
    obtain ⟨glued, hjoin, hglued, hagain⟩ :=
      exists_split_join (keptFragments_intercalate delimiter.toList text.toList)
    refine ⟨_, glued, hsplit, hjoin, hagain, ?_⟩
    rintro rfl
    apply String.toList_inj.mp
    rw [hglued]
    change List.intercalate [] (keptFragments [] text.toList) = text.toList
    rw [keptFragments_nil, intercalate_singletons]
  · intro c texts htexts
    have hkept : keptFragments [c] (List.intercalate [c] (texts.map String.toList)) =
        texts.map String.toList := by
      have hdelimiter := List.cons_ne_nil c []
      apply keptFragments_intercalate_of_cuts hdelimiter
      · intro piece hmem
        obtain ⟨text, htext, rfl⟩ := List.mem_map.mp hmem
        simpa using (htexts text htext).1
      · apply cuts_intercalate hdelimiter
        intro piece hmem
        obtain ⟨text, htext, rfl⟩ := List.mem_map.mp hmem
        exact FirstBehind.singleton (htexts text htext).2
    have hsingle : (String.singleton c).toList = [c] := by simp
    rw [← hsingle] at hkept
    obtain ⟨glued, hjoin, -, hsplit⟩ := exists_split_join hkept
    rw [ofFragments_toList] at hjoin hsplit
    exact ⟨glued, hjoin, hsplit⟩

/-- The glue overlaps what stands around it, and no fragment starts where it did before. -/
theorem split_join_split_of_overlaps :
    (∀ text ∈ ["a;", "ñ"], text ≠ "" ∧ ',' ∉ text.toList) ∧
      (∃ glued, join (.array [.string "a;", .string "ñ"]) [.string ","] = .ok (.string glued) ∧
        split (.string glued) [.string ","] = .ok (.array [.string "a;", .string "ñ"])) ∧
      split (.string "aaabaaaab") [.string "aa"] = .ok (.array [.string "ab", .string "b"]) ∧
      join (.array [.string "ab", .string "b"]) [.string "aa"] = .ok (.string "abaab") ∧
      split (.string "abaab") [.string "aa"] = .ok (.array [.string "ab", .string "b"]) := by
  obtain ⟨hsplits, hjoins⟩ := split_join_split
  have htexts : ∀ text ∈ ["a;", "ñ"], text ≠ "" ∧ ',' ∉ text.toList := by decide
  have hsplit : split (.string "aaabaaaab") [.string "aa"] =
      .ok (.array [.string "ab", .string "b"]) := by cbv
  have hjoin : join (.array [.string "ab", .string "b"]) [.string "aa"] =
      .ok (.string "abaab") := by cbv
  obtain ⟨fragments, glued, hfragments, hglued, hagain, -⟩ := hsplits "aaabaaaab" "aa"
  have hsame : [Value.string "ab", .string "b"] = fragments.map Value.string :=
    Value.array.inj (Except.ok.inj (hsplit.symm.trans hfragments))
  rw [← hsame] at hglued hagain
  obtain rfl : "abaab" = glued :=
    Value.string.inj (Except.ok.inj (hjoin.symm.trans hglued))
  exact ⟨htexts, hjoins ',' _ htexts, hsplit, hjoin, hagain⟩

end Function

end FilterChain
