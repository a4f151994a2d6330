import FilterChain.Proofs.Tree.Simulation

/-!
# Parsing on demand

The parser asks the lexer for one token at a time, and only as long as it needs another one.
Each token that is not the end takes at least one character, so it needs no more calls than the
text has characters, and one for the end.
-/

namespace FilterChain

open Lexer

/-! ## Calls of the lexer -/

namespace Cursor

theorem next_suffix (cursor : Cursor) : cursor.next.2.rest <:+ cursor.rest := by
  have htiles := scan_tiles cursor.afterSigil (dropBlanks cursor.rest)
  have hdrop : dropBlanks cursor.rest <:+ cursor.rest := List.dropWhile_suffix _
  unfold next
  dsimp only
  split
  next token slice rest hscan =>
    rw [hscan] at htiles
    exact List.IsSuffix.trans ⟨slice, htiles⟩ hdrop
  next fault before consumed rest hscan =>
    rw [hscan] at htiles
    exact List.IsSuffix.trans ⟨consumed, htiles⟩ hdrop

theorem advance_suffix (cursor : Cursor) (calls : Nat) :
    (cursor.advance calls).rest <:+ cursor.rest := by
  induction calls with
  | zero => exact List.suffix_rfl
  | succ calls ih => exact (next_suffix _).trans ih

/-- A token that is not the end takes some text. -/
theorem exists_taken {cursor : Cursor} {spanned : Spanned} (hnext : cursor.next.1 = .ok spanned)
    (htoken : spanned.token ≠ .eof) :
    ∃ taken, taken ≠ [] ∧ cursor.rest = taken ++ cursor.next.2.rest := by
  obtain ⟨blanks, slice, hstep⟩ := step_of_next (Prod.ext hnext rfl) htoken
  refine ⟨blanks ++ slice, ?_, ?_⟩
  · simp [hstep.found.lexeme.ne_nil]
  · rw [List.append_assoc, hstep.rest]

/-- Behind the end there is only the end. -/
theorem next_of_eof {cursor : Cursor} {spanned : Spanned} (hnext : cursor.next.1 = .ok spanned)
    (htoken : spanned.token = .eof) : cursor.next.2.next = (.ok spanned, cursor.next.2) := by
  obtain ⟨hblank, -, -⟩ := all_blank_of_next_eof (Prod.ext hnext rfl) htoken
  have hend := next_of_all_blank hblank
  rw [hend] at hnext ⊢
  cases hnext
  exact next_of_all_blank (by simp)

theorem advance_of_eof {cursor : Cursor} {calls : Nat} {spanned : Spanned}
    (hanswer : cursor.answer calls = .ok spanned) (htoken : spanned.token = .eof) (more : Nat) :
    cursor.advance (calls + more + 1) = cursor.advance (calls + 1) := by
  have hstays : (cursor.advance (calls + 1)).next = (.ok spanned, cursor.advance (calls + 1)) :=
    next_of_eof hanswer htoken
  induction more with
  | zero => rfl
  | succ more ih =>
      calc cursor.advance (calls + more + 1 + 1)
        _ = (cursor.advance (calls + 1)).next.2 := congrArg (fun cursor => cursor.next.2) ih
        _ = cursor.advance (calls + 1) := by rw [hstays]

theorem answer_of_eof {cursor : Cursor} {calls : Nat} {spanned : Spanned}
    (hanswer : cursor.answer calls = .ok spanned) (htoken : spanned.token = .eof) (more : Nat) :
    cursor.answer (calls + more) = .ok spanned := by
  cases more with
  | zero => exact hanswer
  | succ more =>
      calc cursor.answer (calls + more + 1)
        _ = (cursor.advance (calls + 1)).next.1 :=
          congrArg (fun cursor => cursor.next.1) (advance_of_eof hanswer htoken more)
        _ = .ok spanned := congrArg Prod.fst (next_of_eof hanswer htoken)

/-- Every token that has been read is one of those that the text has from the start on. -/
theorem length_tokens_advance {cursor : Cursor} {calls : Nat}
    (hgoesOn : ∀ k < calls, cursor.GoesOn k) :
    (cursor.advance calls).lexing.tokens.length + calls = cursor.lexing.tokens.length := by
  induction calls with
  | zero => rfl
  | succ calls ih =>
      obtain ⟨spanned, hanswer, htoken⟩ := hgoesOn calls (Nat.lt_succ_self calls)
      have hlength := ih fun k hk => hgoesOn k (Nat.lt_succ_of_lt hk)
      rw [lexing_of_token (Prod.ext hanswer rfl) htoken, List.length_cons] at hlength
      rw [← hlength, Nat.add_right_comm]
      rfl

end Cursor

theorem Lookahead.Asked.calls_le_tokens {start : Cursor} {view : Lookahead}
    (h : view.Asked start) : view.calls ≤ start.lexing.tokens.length + 1 := by
  have hlength := Cursor.length_tokens_advance fun k (hk : k < view.calls - 1) =>
    h.goesOn k (by omega)
  omega

/-- Every token but the end takes some of the text that is left, and behind the end there is only
the end.  The parser comes to its result on every text.  Of the calls that it makes on the way, all
but the last return a token that is not the end, so there is at most one more of them than the text
has tokens, or characters. -/
theorem Tree.parse_on_demand (text : String) :
    (∀ k spanned, (Cursor.ofText text).answer k = .ok spanned → spanned.token ≠ .eof →
      ∃ taken, taken ≠ [] ∧
        ((Cursor.ofText text).advance k).rest =
          taken ++ ((Cursor.ofText text).advance (k + 1)).rest ∧
        ((Cursor.ofText text).advance k).rest <:+ text.toList) ∧
    (∀ k spanned, (Cursor.ofText text).answer k = .ok spanned → spanned.token = .eof →
      ∀ more, (Cursor.ofText text).answer (k + more) = .ok spanned) ∧
    ∃ after, (Cursor.ofText text).parse = some (Tree.parse text, after) ∧
      after.cursor = (Cursor.ofText text).advance after.calls ∧
      (∀ k, k + 1 < after.calls →
        ∃ spanned, (Cursor.ofText text).answer k = .ok spanned ∧ spanned.token ≠ .eof) ∧
      after.calls ≤ (Lexing.ofText text).tokens.length + 1 ∧ after.calls ≤ text.length + 1 := by
  refine ⟨?_, ?_, ?_⟩
  · intro k spanned hanswer htoken
    obtain ⟨taken, htaken, hrest⟩ := Cursor.exists_taken hanswer htoken
    exact ⟨taken, htaken, hrest, Cursor.advance_suffix _ k⟩
  · intro k spanned hanswer htoken more
    exact Cursor.answer_of_eof hanswer htoken more
  · obtain ⟨after, hparse, hasked⟩ := Tree.exists_parse text
    have hlength := hasked.calls_le
    rw [Cursor.ofText, String.length_toList] at hlength
    exact ⟨after, hparse, hasked.cursor, hasked.goesOn, hasked.calls_le_tokens, hlength⟩

/-- A sigil without its name needs all the calls that its length allows, and a wrong character
behind a refused token is never reached. -/
theorem Tree.parse_on_demand_of_sigil :
    ((Cursor.ofText "<").advance 1).rest.length < ((Cursor.ofText "<").advance 0).rest.length ∧
    (∀ more, (Cursor.ofText "<").answer (1 + more) = .ok ⟨.eof, ⟨1, 2⟩⟩) ∧
    (∃ after, (Cursor.ofText "a").parse = some (.ok [[.function "a" []]], after) ∧
      after.calls ≤ "a".length + 1) ∧
    (∃ after, (Cursor.ofText "<").parse =
        some (.error ⟨.unexpected .accessName .eof, ⟨1, 2⟩⟩, after) ∧
      after.calls = "<".length + 1) ∧
    ∃ after, (Cursor.ofText ") $").parse =
        some (.error ⟨.unexpected .filter .closeParen, ⟨1, 1⟩⟩, after) ∧
      after.cursor.rest = " $".toList := by
  have hsigil : (Cursor.ofText "<").answer 0 = .ok ⟨.less, ⟨1, 1⟩⟩ := by cbv
  have hend : (Cursor.ofText "<").answer 1 = .ok ⟨.eof, ⟨1, 2⟩⟩ := by cbv
  have hname : Tree.parse "a" = .ok [[.function "a" []]] := (Tree.parse_eq _).trans (by cbv)
  obtain ⟨hprogress, hstays, -⟩ := Tree.parse_on_demand "<"
  obtain ⟨-, -, after, hparse, -, -, -, hcalls⟩ := Tree.parse_on_demand "a"
  obtain ⟨taken, htaken, hrest, -⟩ := hprogress 0 _ hsigil (by simp)
  refine ⟨?_, hstays 1 _ hend rfl, ⟨after, hname ▸ hparse, hcalls⟩, ⟨⟨_, _, _⟩, by cbv, rfl⟩,
    ⟨⟨_, _, _⟩, by cbv, rfl⟩⟩
  have hlength := congrArg List.length hrest
  have hpos := List.length_pos_iff.mpr htaken
  rw [List.length_append, Nat.zero_add] at hlength
  omega

end FilterChain
