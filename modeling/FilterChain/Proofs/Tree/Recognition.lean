import FilterChain.Proofs.Tree.Invariant
import FilterChain.Proofs.Tree.Simulation

/-!
# The language of the parser

A text is an expression exactly if it can be lexed to its end and the grammar
derives its tokens; the expression is the derived one, and there is no other.
-/

namespace FilterChain

open Grammar FilterChain.Parser

theorem Lexer.Lexeme.lexed {token : Token} {slice : List Char} (hlexeme : Lexeme token slice) :
    Lexed token := by
  refine ⟨hlexeme.ne_eof, ?_⟩
  intro heq
  cases hlexeme with
  | mark hmark =>
      rw [heq] at hmark
      unfold mark? at hmark
      split at hmark <;> cases hmark
  | word hne _ =>
      simp only [Token.word.injEq, String.ofList_eq_empty_iff] at heq
      exact hne heq
  | _ => cases heq

namespace Lexing

theorem lexed_of_mem_tokens (text : String) :
    ∀ spanned ∈ (ofText text).tokens, Lexed spanned.token := by
  intro spanned hmem
  obtain ⟨last, hreads⟩ := (Cursor.ofText text).exists_reads_lexing
  obtain ⟨slice, hlexeme⟩ := hreads.exists_lexeme spanned hmem
  exact hlexeme.lexed

theorem parse_of_pushAll {lexing : Lexing} {state : State}
    (hpush : State.start.pushAll lexing.tokens = .ok state) :
    lexing.parse =
      match lexing.ending with
      | .ok place => state.finish place
      | .error e => .error ⟨.lexical e.fault, e.place⟩ := by
  rw [parse, parseFrom, hpush]
  rfl

theorem parse_of_pushAll_error {lexing : Lexing} {e : SyntaxError}
    (hpush : State.start.pushAll lexing.tokens = .error e) : lexing.parse = .error e := by
  rw [parse, parseFrom, hpush]
  rfl

theorem hasRead_of_pushAll {text : String} {before after : List Spanned} {state : State}
    (hsplit : (ofText text).tokens = before ++ after)
    (hpush : State.start.pushAll before = .ok state) :
    HasRead state (before.map Spanned.token) := by
  refine hasRead_start.pushAll ?_ hpush
  intro spanned hmem
  apply lexed_of_mem_tokens text
  rw [hsplit]
  exact List.mem_append_left after hmem

theorem parse_eq_ok_of_isTree {lexing : Lexing} {place : Position} {tree : Tree}
    (hending : lexing.ending = .ok place)
    (htree : IsTree (lexing.tokens.map Spanned.token) tree) : lexing.parse = .ok tree := by
  obtain ⟨state, hpush, hfinish⟩ := exists_pushAll_of_isTree htree
  rw [parse_of_pushAll hpush, hending]
  exact hfinish place

end Lexing

namespace Tree

theorem parse_of_isTree {text : String} {place : Position} {tree : Tree}
    (hending : (Lexing.ofText text).ending = .ok place)
    (htree : IsTree ((Lexing.ofText text).tokens.map Spanned.token) tree) :
    Tree.parse text = .ok tree :=
  (parse_eq text).trans (Lexing.parse_eq_ok_of_isTree hending htree)

theorem isTree_of_parse {text : String} {tree : Tree} (hparse : Tree.parse text = .ok tree) :
    IsTree ((Lexing.ofText text).tokens.map Spanned.token) tree := by
  rw [parse_eq] at hparse
  cases hpush : State.start.pushAll (Lexing.ofText text).tokens with
  | error e =>
      rw [Lexing.parse_of_pushAll_error hpush] at hparse
      cases hparse
  | ok state =>
      rw [Lexing.parse_of_pushAll hpush] at hparse
      split at hparse
      next =>
        have hread := Lexing.hasRead_of_pushAll (List.append_nil _).symm hpush
        exact hread.isTree (endsTree_of_finish hparse)
      next => cases hparse

theorem exists_error_of_ending {text : String} {e : LexError}
    (hending : (Lexing.ofText text).ending = .error e) : ∃ e, Tree.parse text = .error e := by
  rw [parse_eq]
  cases hpush : State.start.pushAll (Lexing.ofText text).tokens with
  | error e => exact ⟨e, Lexing.parse_of_pushAll_error hpush⟩
  | ok state =>
      refine ⟨⟨.lexical e.fault, e.place⟩, ?_⟩
      rw [Lexing.parse_of_pushAll hpush, hending]

end Tree

theorem Grammar.subsingleton_isTree (tokens : List Token) :
    Subsingleton {tree : Tree // IsTree tokens tree} := by
  constructor
  rintro ⟨first, hfirst⟩ ⟨second, hsecond⟩
  apply Subtype.ext
  have hlexing (tree : Tree) (htree : IsTree tokens tree) :
      Lexing.parse ⟨tokens.map (⟨·, .start⟩), .ok .start⟩ = .ok tree := by
    apply Lexing.parse_eq_ok_of_isTree rfl
    simpa [List.map_map, Function.comp_def] using htree
  have heq := (hlexing first hfirst).symm.trans (hlexing second hsecond)
  exact Except.ok.inj heq

/-- The parser accepts its grammar, builds the derived expression, and nothing else. -/
theorem Tree.parse_recognizes (text : String) :
    (match (Lexing.ofText text).ending with
      | .error _ => ∃ e, Tree.parse text = .error e
      | .ok _ => ∀ tree, Tree.parse text = .ok tree ↔
          IsTree ((Lexing.ofText text).tokens.map Spanned.token) tree) ∧
      ∀ tokens, Subsingleton {tree : Tree // IsTree tokens tree} := by
  refine ⟨?_, subsingleton_isTree⟩
  cases hending : (Lexing.ofText text).ending with
  | error e => exact exists_error_of_ending hending
  | ok place =>
      intro tree
      constructor
      · exact isTree_of_parse
      · exact parse_of_isTree hending

end FilterChain
