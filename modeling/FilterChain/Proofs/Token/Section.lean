import FilterChain.Proofs.Token.Spelling

/-!
# Sections of patterns

Read from left to right, a backslash binds the character behind it, and a section ends at the first
slash that none binds.  This says for each match and substitution what the lexer returns: the
sections as they are written with the letters behind them, or a fault where a slash is missing or
the first section is empty.
-/

namespace FilterChain

namespace Lexer

/-! ## Bound slashes -/

/-- Whether a text, read from left to right, ends with a backslash that binds the character behind
it. -/
def bindsNext (text : List Char) : Bool :=
  text.foldl (fun bound c => !bound && c == '\\') false

@[simp] theorem bindsNext_nil : bindsNext [] = false := rfl

theorem bindsNext_cons {c : Char} (hc : c ≠ '\\') (text : List Char) :
    bindsNext (c :: text) = bindsNext text := by
  have hplain : (c == '\\') = false := by simpa using hc
  simp [bindsNext, hplain]

@[simp] theorem bindsNext_pair (c : Char) (text : List Char) :
    bindsNext ('\\' :: c :: text) = bindsNext text := by
  simp [bindsNext]

/-- No slash of the text ends a section. -/
def SlashesBound (text : List Char) : Prop :=
  ∀ front back, text = front ++ '/' :: back → bindsNext front = true

@[simp] theorem slashesBound_nil : SlashesBound [] := by
  intro front back heq
  simp at heq

theorem slashesBound_cons {c : Char} (hc : c ≠ '\\') (text : List Char) :
    SlashesBound (c :: text) ↔ c ≠ '/' ∧ SlashesBound text := by
  constructor
  · intro hbound
    refine ⟨?_, ?_⟩
    · rintro rfl
      exact absurd (hbound [] text rfl) (by simp)
    · rintro front back rfl
      rw [← bindsNext_cons hc]
      exact hbound (c :: front) back rfl
  · rintro ⟨hslash, hbound⟩ front back heq
    cases front with
    | nil => exact absurd (List.cons.inj heq).1 hslash
    | cons d front =>
        obtain ⟨rfl, rfl⟩ := List.cons.inj heq
        rw [bindsNext_cons hc]
        exact hbound front back rfl

@[simp] theorem slashesBound_pair (c : Char) (text : List Char) :
    SlashesBound ('\\' :: c :: text) ↔ SlashesBound text := by
  constructor
  · rintro hbound front back rfl
    rw [← bindsNext_pair c]
    exact hbound ('\\' :: c :: front) back rfl
  · intro hbound front back heq
    match front with
    | [] => cases heq
    | [d] =>
        obtain ⟨rfl, -⟩ := List.cons.inj heq
        rfl
    | d :: e :: front =>
        obtain ⟨rfl, hrest⟩ := List.cons.inj heq
        obtain ⟨rfl, rfl⟩ := List.cons.inj hrest
        rw [bindsNext_pair]
        exact hbound front back rfl

/-- A lone backslash binds whatever comes, and it is no slash. -/
theorem slashesBound_backslash : SlashesBound ['\\'] := by
  intro front back heq
  match front with
  | [] => cases heq
  | d :: front =>
    obtain ⟨-, hrest⟩ := List.cons.inj heq
    simp at hrest

theorem section_iff {part : List Char} :
    Section part ↔ bindsNext part = false ∧ SlashesBound part := by
  constructor
  · intro hpart
    induction hpart with
    | nil => simp
    | plain hslash hescape _ ih =>
        rw [bindsNext_cons hescape, slashesBound_cons hescape]
        exact ⟨ih.1, hslash, ih.2⟩
    | pair _ ih => simpa using ih
  · rintro ⟨hfree, hbound⟩
    induction part using takeSection?.induct with
    | case1 => exact .nil
    | case2 text => exact absurd (hbound [] text rfl) (by simp)
    | case3 c text ih =>
        rw [bindsNext_pair] at hfree
        rw [slashesBound_pair] at hbound
        exact .pair (ih hfree hbound)
    | case4 c text hslash hescape ih =>
        have hplain : c ≠ '\\' := by
          rintro rfl
          cases text with
          | nil => cases hfree
          | cons d more => exact hescape d more rfl rfl
        rw [bindsNext_cons hplain] at hfree
        rw [slashesBound_cons hplain] at hbound
        exact .plain hbound.1 hplain (ih hfree hbound.2)

/-- A section with what stands behind its closing slash, the first slash that nothing binds. -/
structure Closes (part rest text : List Char) : Prop where
  text_eq : part ++ '/' :: rest = text
  free : bindsNext part = false
  bound : SlashesBound part

theorem takeSection?_eq_some_iff {part rest text : List Char} :
    takeSection? text = some (part, rest) ↔ Closes part rest text := by
  constructor
  · intro htake
    obtain ⟨hfree, hbound⟩ := section_iff.mp (section_of_takeSection? htake)
    exact ⟨takeSection?_eq_some htake, hfree, hbound⟩
  · rintro ⟨rfl, hfree, hbound⟩
    exact takeSection?_of_section rest (section_iff.mpr ⟨hfree, hbound⟩)

theorem takeSection?_eq_none_iff {text : List Char} :
    takeSection? text = none ↔ SlashesBound text := by
  fun_induction takeSection? text with
  | case1 => simp
  | case2 text =>
      simp only [reduceCtorEq, false_iff]
      intro hbound
      exact absurd (hbound [] text rfl) (by simp)
  | case3 c text ih => simpa using ih
  | case4 c text hslash hescape ih =>
      by_cases hc : c = '\\'
      · subst hc
        cases text with
        | nil => simpa [takeSection?] using slashesBound_backslash
        | cons d more => exact absurd rfl (hescape d more rfl)
      · rw [slashesBound_cons hc, Option.map_eq_none_iff, ih]
        exact (and_iff_right hslash).symm

theorem Closes.unique {part rest other otherRest text : List Char} (hpart : Closes part rest text)
    (hother : Closes other otherRest text) : part = other ∧ rest = otherRest := by
  have htake := takeSection?_eq_some_iff.mpr hpart
  have hsame := takeSection?_eq_some_iff.mpr hother
  exact Prod.mk.inj (Option.some.inj (htake.symm.trans hsame))

theorem Closes.not_slashesBound {part rest text : List Char} (hpart : Closes part rest text) :
    ¬ SlashesBound text := by
  intro hbound
  have hfree := hbound part rest hpart.text_eq.symm
  rw [hpart.free] at hfree
  cases hfree

/-- A text that closes a section with something in it closes no empty one. -/
theorem Closes.not_empty {part rest text : List Char} (hpart : Closes part rest text)
    (hne : part ≠ []) : ¬ ∃ rest, Closes [] rest text := by
  rintro ⟨_, hempty⟩
  exact hne (hpart.unique hempty).1

theorem exists_closes {text : List Char} (hopen : ¬ SlashesBound text) :
    ∃ part rest, Closes part rest text := by
  cases htake : takeSection? text with
  | none => exact absurd (takeSection?_eq_none_iff.mp htake) hopen
  | some found => exact ⟨found.1, found.2, takeSection?_eq_some_iff.mp htake⟩

theorem closes_cases (text : List Char) :
    SlashesBound text ∨ (∃ rest, Closes [] rest text) ∨
      ∃ part rest, part ≠ [] ∧ Closes part rest text := by
  by_cases hopen : SlashesBound text
  · exact .inl hopen
  · obtain ⟨part, rest, hcloses⟩ := exists_closes hopen
    by_cases hpart : part = []
    · subst hpart
      exact .inr (.inl ⟨rest, hcloses⟩)
    · exact .inr (.inr ⟨part, rest, hpart, hcloses⟩)

/-! ## Scans of a pattern -/

section

variable {text find middle replace rest : List Char}

theorem scanMatch_of_bound (hopen : SlashesBound text) :
    scanMatch text = .fault .unterminatedPattern [] ('m' :: '/' :: text) [] := by
  rw [scanMatch, takeSection?_eq_none_iff.mpr hopen]

theorem scanMatch_of_empty (hempty : Closes [] rest text) :
    scanMatch text = .fault .emptyMatch [] ['m', '/', '/'] rest := by
  rw [scanMatch, takeSection?_eq_some_iff.mpr hempty]

theorem scanMatch_of_closes (hne : find ≠ []) (hfind : Closes find rest text) :
    scanMatch text =
      .found (.matching (String.ofList find) (String.ofList (rest.takeWhile Char.isAlpha)))
        ('m' :: '/' :: (find ++ '/' :: rest.takeWhile Char.isAlpha))
        (rest.dropWhile Char.isAlpha) := by
  rw [scanMatch, takeSection?_eq_some_iff.mpr hfind]
  cases find with
  | nil => exact absurd rfl hne
  | cons c find => rfl

theorem scanSubstitution_of_bound (hopen : SlashesBound text) :
    scanSubstitution text = .fault .unterminatedPattern [] ('s' :: '/' :: text) [] := by
  rw [scanSubstitution, takeSection?_eq_none_iff.mpr hopen]

theorem scanSubstitution_of_empty (hempty : Closes [] rest text) :
    scanSubstitution text = .fault .emptySubstitution [] ['s', '/', '/'] rest := by
  rw [scanSubstitution, takeSection?_eq_some_iff.mpr hempty]

theorem scanSubstitution_of_bound_middle (hne : find ≠ []) (hfind : Closes find middle text)
    (hopen : SlashesBound middle) :
    scanSubstitution text = .fault .unterminatedPattern [] ('s' :: '/' :: text) [] := by
  rw [scanSubstitution, takeSection?_eq_some_iff.mpr hfind]
  cases find with
  | nil => exact absurd rfl hne
  | cons c find => simp only [takeSection?_eq_none_iff.mpr hopen]

theorem scanSubstitution_of_closes (hne : find ≠ []) (hfind : Closes find middle text)
    (hreplace : Closes replace rest middle) :
    scanSubstitution text =
      .found (.substitution (String.ofList find) (String.ofList replace)
          (String.ofList (rest.takeWhile Char.isAlpha)))
        ('s' :: '/' :: (find ++ '/' :: (replace ++ '/' :: rest.takeWhile Char.isAlpha)))
        (rest.dropWhile Char.isAlpha) := by
  rw [scanSubstitution, takeSection?_eq_some_iff.mpr hfind]
  cases find with
  | nil => exact absurd rfl hne
  | cons c find =>
      simp only [takeSection?_eq_some_iff.mpr hreplace]
      rfl

end

end Lexer

open Lexer

/-! ## Calls at a pattern -/

namespace Cursor

variable {cursor : Cursor} {text : List Char}

section

variable {c : Char} (hblank : isBlank c = false) (hrest : cursor.rest = c :: text)
include hblank hrest

theorem next_of_rest_found {token : Token} {slice rest : List Char}
    (hscan : scan cursor.afterSigil (c :: text) = .found token slice rest) :
    cursor.next.1 = .ok ⟨token, cursor.place⟩ ∧ cursor.next.2.rest = rest := by
  obtain ⟨_, place, afterSigil⟩ := cursor
  subst hrest
  rw [next_of_scan_found hblank place hscan]
  exact ⟨rfl, rfl⟩

theorem next_of_rest_fault {fault : LexFault} {consumed rest : List Char}
    (hscan : scan cursor.afterSigil (c :: text) = .fault fault [] consumed rest) :
    cursor.next.1 = .error ⟨fault, cursor.place⟩ := by
  obtain ⟨_, place, afterSigil⟩ := cursor
  subst hrest
  rw [next_of_scan_fault hblank place hscan]
  rfl

end

/-- What is returned at `m/` before such a text: the section and the letters behind it as they are
written, unless no slash closes it or nothing stands before the slash. -/
structure AnswersMatch (cursor : Cursor) (text : List Char) : Prop where
  found : ∀ find flags rest,
    cursor.next.1 = .ok ⟨.matching find flags, cursor.place⟩ ∧ cursor.next.2.rest = rest ↔
      find ≠ "" ∧ ∃ behind, Closes find.toList behind text ∧
        flags.toList = behind.takeWhile Char.isAlpha ∧ rest = behind.dropWhile Char.isAlpha
  opened : cursor.next.1 = .error ⟨.unterminatedPattern, cursor.place⟩ ↔ SlashesBound text
  empty : cursor.next.1 = .error ⟨.emptyMatch, cursor.place⟩ ↔ ∃ rest, Closes [] rest text

/-- What is returned at `s/` before such a text: a first section that is empty is refused before a
second one is looked for. -/
structure AnswersSubstitution (cursor : Cursor) (text : List Char) : Prop where
  found : ∀ find replace flags rest,
    cursor.next.1 = .ok ⟨.substitution find replace flags, cursor.place⟩ ∧
        cursor.next.2.rest = rest ↔
      find ≠ "" ∧ ∃ middle behind, Closes find.toList middle text ∧
        Closes replace.toList behind middle ∧
        flags.toList = behind.takeWhile Char.isAlpha ∧ rest = behind.dropWhile Char.isAlpha
  opened : cursor.next.1 = .error ⟨.unterminatedPattern, cursor.place⟩ ↔
    SlashesBound text ∨
      ∃ find middle, find ≠ [] ∧ Closes find middle text ∧ SlashesBound middle
  empty : cursor.next.1 = .error ⟨.emptySubstitution, cursor.place⟩ ↔ ∃ rest, Closes [] rest text

theorem answersMatch (hrest : cursor.rest = 'm' :: '/' :: text) : cursor.AnswersMatch text := by
  have hblank : isBlank 'm' = false := by decide
  rcases closes_cases text with hopen | ⟨behind, hempty⟩ | ⟨part, behind, hne, hfind⟩
  · have hanswer := next_of_rest_fault hblank hrest (scanMatch_of_bound hopen)
    refine ⟨fun find flags rest => iff_of_false ?_ ?_, iff_of_true hanswer hopen,
      iff_of_false ?_ ?_⟩
    · simp [hanswer]
    · rintro ⟨-, _, hfind, -⟩
      exact hfind.not_slashesBound hopen
    · simp [hanswer]
    · rintro ⟨_, hempty⟩
      exact hempty.not_slashesBound hopen
  · have hanswer := next_of_rest_fault hblank hrest (scanMatch_of_empty hempty)
    refine ⟨fun find flags rest => iff_of_false ?_ ?_, iff_of_false ?_ hempty.not_slashesBound,
      iff_of_true hanswer ⟨behind, hempty⟩⟩
    · simp [hanswer]
    · rintro ⟨hne, _, hfind, -⟩
      exact hne (String.toList_eq_nil_iff.mp (hfind.unique hempty).1)
    · simp [hanswer]
  · have hanswer := next_of_rest_found hblank hrest (scanMatch_of_closes hne hfind)
    refine ⟨fun find flags rest => ⟨?_, ?_⟩, iff_of_false ?_ hfind.not_slashesBound,
      iff_of_false ?_ (hfind.not_empty hne)⟩
    · rintro ⟨htoken, rfl⟩
      cases hanswer.1.symm.trans htoken
      rw [String.toList_ofList, String.toList_ofList]
      exact ⟨by simpa using hne, behind, hfind, rfl, hanswer.2⟩
    · rintro ⟨-, other, hother, hflags, rfl⟩
      obtain ⟨rfl, rfl⟩ := hfind.unique hother
      rw [hanswer.1, ← hflags, String.ofList_toList, String.ofList_toList]
      exact ⟨rfl, hanswer.2⟩
    · simp [hanswer.1]
    · simp [hanswer.1]

theorem answersSubstitution (hrest : cursor.rest = 's' :: '/' :: text) :
    cursor.AnswersSubstitution text := by
  have hblank : isBlank 's' = false := by decide
  rcases closes_cases text with hopen | ⟨middle, hempty⟩ | ⟨part, middle, hne, hfind⟩
  · have hanswer := next_of_rest_fault hblank hrest (scanSubstitution_of_bound hopen)
    refine ⟨fun find replace flags rest => iff_of_false ?_ ?_, iff_of_true hanswer (.inl hopen),
      iff_of_false ?_ ?_⟩
    · simp [hanswer]
    · rintro ⟨-, _, _, hfind, -⟩
      exact hfind.not_slashesBound hopen
    · simp [hanswer]
    · rintro ⟨_, hempty⟩
      exact hempty.not_slashesBound hopen
  · have hanswer := next_of_rest_fault hblank hrest (scanSubstitution_of_empty hempty)
    refine ⟨fun find replace flags rest => iff_of_false ?_ ?_, iff_of_false ?_ ?_,
      iff_of_true hanswer ⟨middle, hempty⟩⟩
    · simp [hanswer]
    · rintro ⟨hne, _, _, hfind, -⟩
      exact hne (String.toList_eq_nil_iff.mp (hfind.unique hempty).1)
    · simp [hanswer]
    · rintro (hopen | ⟨find, _, hne, hfind, -⟩)
      · exact hempty.not_slashesBound hopen
      · exact hfind.not_empty hne ⟨middle, hempty⟩
  · have hnotEmpty := hfind.not_empty hne
    by_cases hopen : SlashesBound middle
    · have hanswer := next_of_rest_fault hblank hrest
        (scanSubstitution_of_bound_middle hne hfind hopen)
      refine ⟨fun find replace flags rest => iff_of_false ?_ ?_,
        iff_of_true hanswer (.inr ⟨part, middle, hne, hfind, hopen⟩),
        iff_of_false ?_ hnotEmpty⟩
      · simp [hanswer]
      · rintro ⟨-, other, _, hother, hreplace, -⟩
        obtain ⟨-, rfl⟩ := hfind.unique hother
        exact hreplace.not_slashesBound hopen
      · simp [hanswer]
    · obtain ⟨written, behind, hreplace⟩ := exists_closes hopen
      have hanswer := next_of_rest_found hblank hrest
        (scanSubstitution_of_closes hne hfind hreplace)
      refine ⟨fun find replace flags rest => ⟨?_, ?_⟩, iff_of_false ?_ ?_,
        iff_of_false ?_ hnotEmpty⟩
      · rintro ⟨htoken, rfl⟩
        cases hanswer.1.symm.trans htoken
        simp only [String.toList_ofList]
        exact ⟨by simpa using hne, middle, behind, hfind, hreplace, rfl, hanswer.2⟩
      · rintro ⟨-, _, _, hother, hwritten, hflags, rfl⟩
        obtain ⟨rfl, rfl⟩ := hfind.unique hother
        obtain ⟨rfl, rfl⟩ := hreplace.unique hwritten
        rw [hanswer.1, ← hflags]
        refine ⟨?_, hanswer.2⟩
        simp only [String.ofList_toList]
      · simp [hanswer.1]
      · rintro (hbound | ⟨_, _, -, hother, hbound⟩)
        · exact hfind.not_slashesBound hbound
        · obtain ⟨-, rfl⟩ := hfind.unique hother
          exact hopen hbound
      · simp [hanswer.1]

/-- At a pattern the lexer takes each section up to the first slash that no backslash binds, and
whatever can be a section is read back as it was written. -/
theorem next_at_pattern (cursor : Cursor) :
    (∀ text, cursor.rest = 'm' :: '/' :: text → cursor.AnswersMatch text) ∧
    (∀ text, cursor.rest = 's' :: '/' :: text → cursor.AnswersSubstitution text) ∧
    (∀ find replace flags rest, find ≠ "" → Section find.toList → Section replace.toList →
      (∀ c ∈ flags.toList, c.isAlpha = true) → (∀ c, rest.head? = some c → c.isAlpha = false) →
      (cursor.rest = 'm' :: '/' :: (find.toList ++ '/' :: (flags.toList ++ rest)) →
        cursor.next.1 = .ok ⟨.matching find flags, cursor.place⟩ ∧ cursor.next.2.rest = rest) ∧
      (cursor.rest = 's' :: '/' ::
          (find.toList ++ '/' :: (replace.toList ++ '/' :: (flags.toList ++ rest))) →
        cursor.next.1 = .ok ⟨.substitution find replace flags, cursor.place⟩ ∧
          cursor.next.2.rest = rest)) ∧
    LexFault.unterminatedPattern.message = "Unterminated regular expression" ∧
    LexFault.emptyMatch.message = "Empty pattern in match expression" ∧
    LexFault.emptySubstitution.message = "Empty pattern in substitution expression" := by
  refine ⟨fun _ => answersMatch, fun _ => answersSubstitution, ?_, rfl, rfl, rfl⟩
  intro find replace flags rest hne hfind hreplace hflags hstops
  have htake := takeWhile_of_boundary hflags hstops
  have hdrop := dropWhile_of_boundary hflags hstops
  obtain ⟨hfree, hbound⟩ := section_iff.mp hfind
  constructor
  · intro hrest
    apply ((answersMatch hrest).found find flags rest).mpr
    exact ⟨hne, _, ⟨rfl, hfree, hbound⟩, htake.symm, hdrop.symm⟩
  · intro hrest
    obtain ⟨hreplaceFree, hreplaceBound⟩ := section_iff.mp hreplace
    apply ((answersSubstitution hrest).found find replace flags rest).mpr
    exact ⟨hne, _, _, ⟨rfl, hfree, hbound⟩, ⟨rfl, hreplaceFree, hreplaceBound⟩, htake.symm,
      hdrop.symm⟩

/-- A bound slash and then one behind a pair of backslashes, an empty first section before a second
one that is not closed, a bound slash at the end of the second section, and a substitution written
down and read back. -/
theorem next_at_pattern_of_backslashes :
    (⟨['m', '/', 'a', '\\', '/', '\\', '\\', '/', 'g', '|'], .start, true⟩ : Cursor).next.1 =
      .ok ⟨.matching "a\\/\\\\" "g", .start⟩ ∧
    (⟨['s', '/', '/', 'x'], .start, false⟩ : Cursor).next.1 =
      .error ⟨.emptySubstitution, .start⟩ ∧
    (⟨['s', '/', 'a', '/', 'x', '\\', '/'], .start, false⟩ : Cursor).next.1 =
      .error ⟨.unterminatedPattern, .start⟩ ∧
    (⟨['s', '/', 'a', '/', '\\', '/', '/', 'g', 'i'], .start, false⟩ : Cursor).next.1 =
      .ok ⟨.substitution "a" "\\/" "gi", .start⟩ := by
  refine ⟨?_, ?_, ?_, ?_⟩
  · have hanswers := (next_at_pattern
      ⟨['m', '/', 'a', '\\', '/', '\\', '\\', '/', 'g', '|'], .start, true⟩).1 _ rfl
    refine ((hanswers.found _ _ ['|']).mpr ⟨by decide, ['g', '|'], ?_, rfl, rfl⟩).1
    exact takeSection?_eq_some_iff.mp rfl
  · have hanswers := (next_at_pattern ⟨['s', '/', '/', 'x'], .start, false⟩).2.1 _ rfl
    exact hanswers.empty.mpr ⟨['x'], takeSection?_eq_some_iff.mp rfl⟩
  · have hanswers :=
      (next_at_pattern ⟨['s', '/', 'a', '/', 'x', '\\', '/'], .start, false⟩).2.1 _ rfl
    exact hanswers.opened.mpr (.inr ⟨['a'], ['x', '\\', '/'], by decide,
      takeSection?_eq_some_iff.mp rfl, takeSection?_eq_none_iff.mp rfl⟩)
  · have hreads := (next_at_pattern
      ⟨['s', '/', 'a', '/', '\\', '/', '/', 'g', 'i'], .start, false⟩).2.2.1 "a" "\\/" "gi" []
    refine ((hreads (by decide) ?_ ?_ (by simp) (by simp)).2 rfl).1
    · exact .plain (by decide) (by decide) .nil
    · exact .pair .nil

end Cursor

end FilterChain
