import FilterChain.Proofs.Token.Spacing

/-!
# Pipes before marks

The lexer remembers whether it has just read a sigil, and reads a mark the same either way.  So the
text behind a pipe is read alike without the pipe if a mark comes first, and the text before the
pipe is read alike before any separator.
-/

namespace FilterChain

open Lexer

/-- Behind any blanks and whatever was read before, a mark and the tokens behind it are read. -/
theorem Cursor.Reads.lexes_mark {cursor last : Cursor} {next : Spanned} {back : List Spanned}
    (hreads : Reads cursor (next :: back) last) {c : Char} (hmark : mark? c = some next.token)
    (afterSigil : Bool) {gap : List Char} (hgap : ∀ c ∈ gap, isBlank c = true) :
    Lexes afterSigil (gap ++ cursor.rest) ((next :: back).map Spanned.token) last.afterSigil
      last.rest := by
  cases hreads with
  | @token _ after _ _ _ hnext htoken hback =>
      obtain ⟨blanks, slice, hstep⟩ := step_of_next hnext htoken
      obtain rfl := hstep.found.lexeme.eq_of_mark hmark
      have hblanks := List.forall_mem_append.mpr ⟨hgap, hstep.blank⟩
      have hfound : Found afterSigil next.token [c] after.rest := found_of_mark afterSigil hmark
      have hfirst := lexes_token hblanks hfound
      rw [List.append_assoc, hstep.rest, ← hstep.afterSigil] at hfirst
      exact hfirst.append hback.lexes

/-- With a separator and any text behind it, the text before a token is read as before. -/
theorem Cursor.Around.lexes_before {text before slice : List Char} {front back : List Spanned}
    {spanned : Spanned} {last gap behind : Cursor}
    (haround : Around text front spanned back last before slice gap behind) {c : Char}
    (hc : Separates c) (more : List Char) :
    Lexes false (before ++ c :: more) (front.map Spanned.token) gap.afterSigil
      (gap.rest ++ c :: more) :=
  (haround.reads.extend hc more).lexes

namespace Lexing

variable {text : String} {ending : Position} {front back : List Spanned} {next : Spanned}
  {c : Char}

/-- A text is cut at a pipe before a mark, and with a space for the pipe it loses just that
token. -/
theorem exists_cut_at_pipe {place : Position} (hending : (ofText text).ending = .ok ending)
    (htokens : (ofText text).tokens = front ++ ⟨.pipe, place⟩ :: next :: back)
    (hmark : mark? c = some next.token) :
    ∃ before after : String, text = before ++ "|" ++ after ∧
      place = Position.behind before.toList ∧ (∃ stop, ofText before = ⟨front, .ok stop⟩) ∧
      LexedAs after ((next :: back).map Spanned.token) ∧
      LexedAs (before ++ " " ++ after) ((front ++ next :: back).map Spanned.token) := by
  obtain ⟨last, hreads, hblank, -⟩ := reads_of_ending hending
  rw [htokens] at hreads
  obtain ⟨before, slice, gap, behind, haround⟩ := hreads.exists_around
  obtain rfl : slice = ['|'] := haround.found.lexeme.eq_of_mark rfl
  have hgap := List.forall_mem_append.mpr ⟨haround.blank, isBlank_of_mem_space⟩
  have hspaced := haround.goesOn.lexes_mark hmark gap.afterSigil hgap
  rw [List.append_assoc] at hspaced
  have hdropped : Lexes false (String.ofList before ++ " " ++ String.ofList behind.rest).toList
      ((front ++ next :: back).map Spanned.token) last.afterSigil last.rest := by
    have hlexes := (haround.lexes_before separates_space behind.rest).append hspaced
    simpa using hlexes
  have hafter : Lexes false (String.ofList behind.rest).toList
      ((next :: back).map Spanned.token) last.afterSigil last.rest := by
    rw [String.toList_ofList]
    exact haround.goesOn.lexes_mark hmark false (List.forall_mem_nil _)
  refine ⟨String.ofList before, String.ofList behind.rest, ?_, ?_,
    exists_ofText_of_around haround, hafter.lexedAs hblank, hdropped.lexedAs hblank⟩
  · apply String.toList_inj.mp
    simp [haround.split]
  · rw [String.toList_ofList]
    exact haround.place

/-- A text is cut before a mark, and with a pipe there it gains just that token. -/
theorem exists_cut_at_mark (hending : (ofText text).ending = .ok ending)
    (htokens : (ofText text).tokens = front ++ next :: back) (hmark : mark? c = some next.token) :
    ∃ before after : String, text = before ++ after ∧
      next.place = Position.behind before.toList ∧ (∃ stop, ofText before = ⟨front, .ok stop⟩) ∧
      LexedAs after ((next :: back).map Spanned.token) ∧
      LexedAs (before ++ "|" ++ after)
        ((front ++ ⟨.pipe, next.place⟩ :: next :: back).map Spanned.token) := by
  obtain ⟨last, hreads, hblank, -⟩ := reads_of_ending hending
  rw [htokens] at hreads
  obtain ⟨before, slice, gap, behind, haround⟩ := hreads.exists_around
  obtain rfl := haround.found.lexeme.eq_of_mark hmark
  have hmarked : Lexes false (c :: behind.rest) ((next :: back).map Spanned.token)
      last.afterSigil last.rest := by
    have hfound : Found false next.token [c] behind.rest := found_of_mark false hmark
    have hstands := haround.goesOn.lexes
    rw [haround.stands] at hstands
    exact (lexes_token (List.forall_mem_nil _) hfound).append hstands
  have hpiped : Lexes false (String.ofList before ++ "|" ++ String.ofList (c :: behind.rest)).toList
      ((front ++ ⟨.pipe, next.place⟩ :: next :: back).map Spanned.token)
      last.afterSigil last.rest := by
    have hfound : Found gap.afterSigil .pipe ['|'] (c :: behind.rest) := found_of_mark _ rfl
    have hpipe := (lexes_token haround.blank hfound).append hmarked
    have hlexes := (haround.lexes_before separates_pipe (c :: behind.rest)).append hpipe
    simpa using hlexes
  have hafter : Lexes false (String.ofList (c :: behind.rest)).toList
      ((next :: back).map Spanned.token) last.afterSigil last.rest := by
    rw [String.toList_ofList]
    exact hmarked
  refine ⟨String.ofList before, String.ofList (c :: behind.rest), ?_, ?_,
    exists_ofText_of_around haround, hafter.lexedAs hblank, hpiped.lexedAs hblank⟩
  · apply String.toList_inj.mp
    simp [haround.split]
  · rw [String.toList_ofList]
    exact haround.place

end Lexing

end FilterChain
