import FilterChain.Proofs.Token.Lexeme

/-!
# Runs of the lexer

A run is a sequence of calls of `Cursor.next`, each of which returns a token.  One
call skips blanks and takes one lexeme; the lexing of a text is the run from its
start that cannot go on.
-/

namespace FilterChain

open Lexer

namespace Cursor

/-- Calls of `next` that return these tokens, none of them the end of the text. -/
inductive Reads : Cursor → List Spanned → Cursor → Prop
  | done (cursor : Cursor) : Reads cursor [] cursor
  | token {cursor middle last : Cursor} {spanned : Spanned} {tokens : List Spanned}
      (hnext : cursor.next = (.ok spanned, middle)) (htoken : spanned.token ≠ .eof)
      (hreads : Reads middle tokens last) : Reads cursor (spanned :: tokens) last

/-- What one call of `next` does that returns a token. -/
structure Step (cursor : Cursor) (spanned : Spanned) (after : Cursor)
    (blanks slice : List Char) : Prop where
  rest : blanks ++ (slice ++ after.rest) = cursor.rest
  blank : ∀ c ∈ blanks, isBlank c = true
  found : Found cursor.afterSigil spanned.token slice after.rest
  place : spanned.place = cursor.place.afterAll blanks
  placeAfter : after.place = spanned.place.afterAll slice
  afterSigil : after.afterSigil = spanned.token.isSigil

theorem step_of_next {cursor after : Cursor} {spanned : Spanned}
    (hnext : cursor.next = (.ok spanned, after)) (htoken : spanned.token ≠ .eof) :
    ∃ blanks slice, Step cursor spanned after blanks slice := by
  unfold next at hnext
  dsimp only at hnext
  split at hnext
  next token slice rest hscan =>
    cases hnext
    obtain ⟨hsplit, hfound⟩ := (scan_eq_found_iff htoken).mp hscan
    refine ⟨cursor.rest.takeWhile isBlank, slice, ?_, fun c => of_mem_takeWhile, hfound,
      rfl, rfl, rfl⟩
    rw [hsplit]
    exact List.takeWhile_append_dropWhile
  next => cases hnext

theorem all_blank_of_next_eof {cursor after : Cursor} {spanned : Spanned}
    (hnext : cursor.next = (.ok spanned, after)) (htoken : spanned.token = .eof) :
    (∀ c ∈ cursor.rest, isBlank c = true) ∧ after.rest = [] ∧
      spanned.place = cursor.place.afterAll cursor.rest := by
  unfold next at hnext
  dsimp only at hnext
  split at hnext
  next token slice rest hscan =>
    cases hnext
    obtain rfl : token = .eof := htoken
    have hnil := eq_nil_of_scan_eof hscan
    have hsplit := List.takeWhile_append_dropWhile (p := isBlank) (l := cursor.rest)
    have hdrop : cursor.rest.dropWhile isBlank = [] := hnil
    rw [hdrop, List.append_nil] at hsplit
    have htiles := scan_tiles cursor.afterSigil (dropBlanks cursor.rest)
    rw [hscan, hnil] at htiles
    refine ⟨?_, (List.append_eq_nil_iff.mp htiles).2, ?_⟩
    · rw [← hsplit]
      exact fun c => of_mem_takeWhile
    · dsimp only
      rw [hsplit]
  next => cases hnext

theorem next_of_all_blank {cursor : Cursor} (hblank : ∀ c ∈ cursor.rest, isBlank c = true) :
    cursor.next = (.ok ⟨.eof, cursor.place.afterAll cursor.rest⟩,
      ⟨[], cursor.place.afterAll cursor.rest, false⟩) := by
  have htake : cursor.rest.takeWhile isBlank = cursor.rest := by
    simpa using takeWhile_of_boundary hblank (boundary_nil isBlank)
  have hdrop : dropBlanks cursor.rest = [] := by
    simpa [dropBlanks] using dropWhile_of_boundary hblank (boundary_nil isBlank)
  simp only [next, htake, hdrop, scan]
  rfl

theorem Reads.append {first middle last : Cursor} {tokens more : List Spanned}
    (hfirst : Reads first tokens middle) (hlast : Reads middle more last) :
    Reads first (tokens ++ more) last := by
  induction hfirst with
  | done => exact hlast
  | token hnext htoken _ ih => exact .token hnext htoken (ih hlast)

theorem Reads.exists_lexeme {cursor last : Cursor} {tokens : List Spanned}
    (hreads : Reads cursor tokens last) :
    ∀ spanned ∈ tokens, ∃ slice, Lexeme spanned.token slice := by
  induction hreads with
  | done =>
      intro spanned hmem
      simp at hmem
  | token hnext htoken _ ih =>
      intro spanned hmem
      rcases List.mem_cons.mp hmem with rfl | hmem
      · obtain ⟨_, slice, hstep⟩ := step_of_next hnext htoken
        exact ⟨slice, hstep.found.lexeme⟩
      · exact ih spanned hmem

/-! ## Whole texts -/

theorem lexing_of_error {cursor after : Cursor} {e : LexError}
    (hnext : cursor.next = (.error e, after)) : cursor.lexing = ⟨[], .error e⟩ := by
  rw [lexing]
  split
  next hread =>
    cases hnext.symm.trans hread
    rfl
  next hread => cases hnext.symm.trans hread

theorem lexing_of_eof {cursor after : Cursor} {spanned : Spanned}
    (hnext : cursor.next = (.ok spanned, after)) (htoken : spanned.token = .eof) :
    cursor.lexing = ⟨[], .ok spanned.place⟩ := by
  rw [lexing]
  split
  next hread => cases hnext.symm.trans hread
  next hread =>
    cases hnext.symm.trans hread
    rw [dif_pos htoken]

theorem lexing_of_token {cursor after : Cursor} {spanned : Spanned}
    (hnext : cursor.next = (.ok spanned, after)) (htoken : spanned.token ≠ .eof) :
    cursor.lexing = ⟨spanned :: after.lexing.tokens, after.lexing.ending⟩ := by
  rw [lexing]
  split
  next hread => cases hnext.symm.trans hread
  next hread =>
    cases hnext.symm.trans hread
    rw [dif_neg htoken]

theorem lexing_of_all_blank {cursor : Cursor} (hblank : ∀ c ∈ cursor.rest, isBlank c = true) :
    cursor.lexing = ⟨[], .ok (cursor.place.afterAll cursor.rest)⟩ :=
  lexing_of_eof (next_of_all_blank hblank) rfl

theorem Reads.lexing {cursor last : Cursor} {tokens : List Spanned}
    (hreads : Reads cursor tokens last) :
    cursor.lexing = ⟨tokens ++ last.lexing.tokens, last.lexing.ending⟩ := by
  induction hreads with
  | done => rfl
  | token hnext htoken _ ih =>
      rw [lexing_of_token hnext htoken, ih]
      rfl

theorem exists_reads_lexing (cursor : Cursor) :
    ∃ last, Reads cursor cursor.lexing.tokens last := by
  fun_induction lexing cursor with
  | case1 cursor => exact ⟨cursor, .done cursor⟩
  | case2 cursor => exact ⟨cursor, .done cursor⟩
  | case3 cursor spanned after hnext htoken more ih =>
      obtain ⟨last, hreads⟩ := ih
      exact ⟨last, .token hnext htoken hreads⟩

theorem lexing_of_reads {cursor last : Cursor} {tokens : List Spanned}
    (hreads : Reads cursor tokens last) (hrest : last.rest = []) :
    cursor.lexing = ⟨tokens, .ok last.place⟩ := by
  have hend : last.lexing = ⟨[], .ok (last.place.afterAll last.rest)⟩ :=
    lexing_of_all_blank (by simp [hrest])
  rw [hreads.lexing, hend, hrest, List.append_nil, Position.afterAll_nil]

end Cursor

end FilterChain
