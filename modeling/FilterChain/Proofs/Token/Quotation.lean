import FilterChain.Proofs.Tree.Printer

/-!
# Quoted literals

Behind an opening quote stand characters, and backslashes each with a letter.  The lexer reads
them one after the other until it comes to the closing quote, to a letter that no backslash may
stand before, or to the end of the text, and it returns what `AnswersQuote` says.  The induction
is on the part that is in order, whatever comes behind it.
-/

namespace FilterChain

namespace Lexer

/-! ## Escapes -/

/-- The letters that a backslash may stand before, and what they denote there. -/
def escapes : List (Char × Char) :=
  [('n', '\n'), ('t', '\t'), ('r', '\r'), ('"', '"'), ('\'', '\''), ('\\', '\\')]

theorem escaped?_eq_some_iff {e c : Char} : escaped? e = some c ↔ (e, c) ∈ escapes := by
  constructor
  · intro he
    unfold escaped? at he
    split at he <;> cases he <;> simp [escapes]
  · intro hmem
    simp only [escapes, List.mem_cons, Prod.mk.injEq, List.not_mem_nil, or_false] at hmem
    rcases hmem with ⟨rfl, rfl⟩ | ⟨rfl, rfl⟩ | ⟨rfl, rfl⟩ | ⟨rfl, rfl⟩ | ⟨rfl, rfl⟩ | ⟨rfl, rfl⟩ <;>
      rfl

theorem escaped?_eq_none_iff {e : Char} : escaped? e = none ↔ ∀ c, (e, c) ∉ escapes := by
  simp [Option.eq_none_iff_forall_ne_some, escaped?_eq_some_iff]

/-! ## What ends a literal -/

section

variable {quote : Char} {body value : List Char}

theorem scanQuoted_wrongEscape {e : Char} (rest : List Char) (hquote : quote ≠ '\\')
    (he : escaped? e = none) (hbody : QuotedBody quote body value) :
    scanQuoted quote (body ++ '\\' :: e :: rest) =
      .fault (.invalidEscape e) body (body ++ ['\\']) (e :: rest) := by
  have hletter : scanQuoted quote ('\\' :: e :: rest) =
      .fault (.invalidEscape e) [] ['\\'] (e :: rest) := by
    simp [scanQuoted, Ne.symm hquote, he]
  rw [scanQuoted_append _ hquote hbody, hletter, Scan.prepend, List.append_nil]

theorem scanQuoted_open (hquote : quote ≠ '\\') (hbody : QuotedBody quote body value) :
    scanQuoted quote body = .fault .missingQuote body body [] := by
  have hend : scanQuoted quote [] = .fault .missingQuote [] [] [] := rfl
  have hscan := scanQuoted_append [] hquote hbody
  rwa [hend, Scan.prepend, List.append_nil] at hscan

theorem scanQuoted_openEscape (hquote : quote ≠ '\\') (hbody : QuotedBody quote body value) :
    scanQuoted quote (body ++ ['\\']) = .fault .danglingEscape body (body ++ ['\\']) [] := by
  have hend : scanQuoted quote ['\\'] = .fault .danglingEscape [] ['\\'] [] := by
    simp [scanQuoted, Ne.symm hquote]
  rw [scanQuoted_append _ hquote hbody, hend, Scan.prepend, List.append_nil]

end

end Lexer

open Lexer

/-! ## Calls at a quote -/

/-- What is returned at a quote before such a text, and what is left of the text then. -/
inductive AnswersQuote (quote : Char) (place : Position) :
    List Char → Except LexError Spanned → List Char → Prop
  | closed {body value : List Char} (rest : List Char) (hbody : QuotedBody quote body value) :
      AnswersQuote quote place (body ++ quote :: rest)
        (.ok ⟨.string (String.ofList value), place⟩) rest
  /-- The fault is at the backslash, and the lexer stops behind it. -/
  | wrongEscape {body value : List Char} {e : Char} (rest : List Char)
      (hbody : QuotedBody quote body value) (he : ∀ c, (e, c) ∉ escapes) :
      AnswersQuote quote place (body ++ '\\' :: e :: rest)
        (.error ⟨.invalidEscape e, place.afterAll (quote :: body)⟩) (e :: rest)
  | opened {body value : List Char} (hbody : QuotedBody quote body value) :
      AnswersQuote quote place body (.error ⟨.missingQuote, place⟩) []
  | openedEscape {body value : List Char} (hbody : QuotedBody quote body value) :
      AnswersQuote quote place (body ++ ['\\']) (.error ⟨.danglingEscape, place⟩) []

section

variable {quote : Char} {place : Position} {text : List Char}

/-- What stands behind more of a literal is answered as well. -/
theorem exists_answersQuote_behind {c : Char} (item : List Char)
    (hitem : ∀ {body value}, QuotedBody quote body value →
      QuotedBody quote (item ++ body) (c :: value))
    (hanswers : ∃ answer rest, AnswersQuote quote place text answer rest) :
    ∃ answer rest, AnswersQuote quote place (item ++ text) answer rest := by
  obtain ⟨answer, rest, hanswer⟩ := hanswers
  cases hanswer with
  | closed rest hbody =>
      rw [← List.append_assoc]
      exact ⟨_, _, .closed rest (hitem hbody)⟩
  | wrongEscape rest hbody he =>
      rw [← List.append_assoc]
      exact ⟨_, _, .wrongEscape rest (hitem hbody) he⟩
  | opened hbody => exact ⟨_, _, .opened (hitem hbody)⟩
  | openedEscape hbody =>
      rw [← List.append_assoc]
      exact ⟨_, _, .openedEscape (hitem hbody)⟩

theorem exists_answersQuote (quote : Char) (place : Position) (text : List Char) :
    ∃ answer rest, AnswersQuote quote place text answer rest := by
  fun_induction scanQuoted quote text with
  | case1 => exact ⟨_, _, .opened .nil⟩
  | case2 text => exact ⟨_, _, .closed text .nil⟩
  | case3 => exact ⟨_, _, .openedEscape .nil⟩
  | case4 e more he => exact ⟨_, _, .wrongEscape more .nil (escaped?_eq_none_iff.mp he)⟩
  | case5 e more plain he _ ih => exact exists_answersQuote_behind ['\\', e] (.escape he) ih
  | case6 c text hquote hescape ih =>
      exact exists_answersQuote_behind [c] (.plain hquote hescape) ih

variable {rest : List Char} {answer : Except LexError Spanned}

theorem AnswersQuote.next (hanswer : AnswersQuote quote place text answer rest)
    (hquote : quote = '"' ∨ quote = '\'') (afterSigil : Bool) :
    (⟨quote :: text, place, afterSigil⟩ : Cursor).next.1 = answer ∧
      (⟨quote :: text, place, afterSigil⟩ : Cursor).next.2.rest = rest := by
  have hblank : isBlank quote = false := by rcases hquote with rfl | rfl <;> decide
  have hescape : quote ≠ '\\' := by rcases hquote with rfl | rfl <;> decide
  have hscan := scan_quote afterSigil hquote text
  cases hanswer with
  | closed rest hbody =>
      rw [scanString, scanQuoted_of_quotedBody _ hescape hbody] at hscan
      rw [Cursor.next_of_scan_found hblank place hscan]
      exact ⟨rfl, rfl⟩
  | wrongEscape rest hbody he =>
      rw [scanString, scanQuoted_wrongEscape _ hescape (escaped?_eq_none_iff.mpr he) hbody] at hscan
      rw [Cursor.next_of_scan_fault hblank place hscan]
      exact ⟨rfl, rfl⟩
  | opened hbody =>
      rw [scanString, scanQuoted_open hescape hbody] at hscan
      rw [Cursor.next_of_scan_fault hblank place hscan]
      exact ⟨rfl, rfl⟩
  | openedEscape hbody =>
      rw [scanString, scanQuoted_openEscape hescape hbody] at hscan
      rw [Cursor.next_of_scan_fault hblank place hscan]
      exact ⟨rfl, rfl⟩

end

theorem Quoting.next_quote (quoting : Quoting) (value : String) (rest : List Char)
    (place : Position) (afterSigil : Bool) :
    (⟨quoting.quote value.toList ++ rest, place, afterSigil⟩ : Cursor).next =
      (.ok ⟨.string value, place⟩,
        ⟨rest, place.afterAll (quoting.quote value.toList), false⟩) := by
  have hbody := quoting.quotedBody_flatMap value.toList
  have hfound : Found afterSigil (.string value) (quoting.quote value.toList) rest := by
    refine ⟨?_, trivial, trivial⟩
    simpa [quote] using Lexeme.string quoting.mark_eq hbody
  exact Cursor.next_of_found place (List.forall_mem_nil _) hfound

/-- Whatever stands behind a quote, a call there returns what it spells, and every text is spelled
by a literal with either quote. -/
theorem Cursor.next_at_quote {quote : Char} (hquote : quote = '"' ∨ quote = '\'')
    (place : Position) (afterSigil : Bool) :
    (∀ e c, escaped? e = some c ↔ (e, c) ∈ escapes) ∧
    (∀ text answer rest,
      (⟨quote :: text, place, afterSigil⟩ : Cursor).next.1 = answer ∧
          (⟨quote :: text, place, afterSigil⟩ : Cursor).next.2.rest = rest ↔
        AnswersQuote quote place text answer rest) ∧
    (∀ (quoting : Quoting) (value : String) (rest : List Char),
      (⟨quoting.quote value.toList ++ rest, place, afterSigil⟩ : Cursor).next =
        (.ok ⟨.string value, place⟩,
          ⟨rest, place.afterAll (quoting.quote value.toList), false⟩)) ∧
    (∀ e, (LexFault.invalidEscape e).message =
      "Invalid escape sequence '\\" ++ String.singleton e ++ "'") ∧
    LexFault.missingQuote.message = "Unterminated string: missing closing quote" ∧
    LexFault.danglingEscape.message = "Unterminated string" := by
  refine ⟨fun e c => escaped?_eq_some_iff, ?_, ?_, fun e => rfl, rfl, rfl⟩
  · intro text answer rest
    constructor
    · rintro ⟨rfl, rfl⟩
      obtain ⟨answer, rest, hanswer⟩ := exists_answersQuote quote place text
      obtain ⟨rfl, rfl⟩ := hanswer.next hquote afterSigil
      exact hanswer
    · intro hanswer
      exact hanswer.next hquote afterSigil
  · intro quoting value rest
    exact quoting.next_quote value rest place afterSigil

/-- An escaped quote before the other one and a backslash, then a letter that must not be escaped,
and then a backslash that ends the text. -/
theorem Cursor.next_at_quote_of_backslashes :
    (⟨['\'', '\\', '\'', '"', '\\', '\\', '\'', '|'], .start, false⟩ : Cursor).next.1 =
      .ok ⟨.string "'\"\\", .start⟩ ∧
    (⟨['\'', '\n', '\\', 'q', '\''], .start, false⟩ : Cursor).next.1 =
      .error ⟨.invalidEscape 'q', ⟨2, 1⟩⟩ ∧
    (⟨['\'', 'a', '\\'], .start, false⟩ : Cursor).next.1 = .error ⟨.danglingEscape, .start⟩ := by
  have hreads := (next_at_quote (.inr rfl) .start false).2.1
  have hquote : escaped? '\'' = some '\'' := rfl
  have hescape : escaped? '\\' = some '\\' := rfl
  refine ⟨((hreads _ _ ['|']).mpr ?_).1, ((hreads _ _ ['q', '\'']).mpr ?_).1,
    ((hreads _ _ []).mpr ?_).1⟩
  · exact .closed ['|'] (.escape hquote (.plain (by decide) (by decide) (.escape hescape .nil)))
  · exact .wrongEscape ['\''] (.plain (by decide) (by decide) .nil) (by simp [escapes])
  · exact .openedEscape (.plain (by decide) (by decide) .nil)

end FilterChain
