import FilterChain.Proofs.Token.Spacing
import FilterChain.Proofs.Tree.Concatenation

/-!
# Blanks in expressions

Other blanks between the tokens move the tokens, and the parser hands places on without looking
at them.  So an expression stays the same, and a fault stays the same fault at the token of the
same number.  To compare two texts, their tokens are put at places that only count them.
-/

namespace FilterChain

open Lexer FilterChain.Parser Tile

namespace Lexing

/-! ## Tokens by number -/

/-- The place of the token with a number; the end of the text comes behind the last token. -/
def placeAt (lexing : Lexing) (number : Nat) : Position :=
  match lexing.tokens[number]?, lexing.ending with
  | some spanned, _ => spanned.place
  | none, .ok place => place
  | none, .error e => e.place

/-- Tokens with their numbers for columns. -/
def numbered (tokens : List Token) : Lexing where
  tokens := tokens.mapIdx fun number token => ⟨token, ⟨0, number⟩⟩
  ending := .ok ⟨0, tokens.length⟩

theorem placeAt_of_length_le {lexing : Lexing} {number : Nat}
    (hnumber : lexing.tokens.length ≤ number) :
    lexing.placeAt number = lexing.placeAt lexing.tokens.length := by
  simp only [placeAt, List.getElem?_eq_none hnumber, List.getElem?_eq_none (Nat.le_refl _)]

theorem relocate_numbered {lexing : Lexing} {place : Position}
    (hending : lexing.ending = .ok place) :
    (numbered (lexing.tokens.map Spanned.token)).relocate (fun p => lexing.placeAt p.column) =
      lexing := by
  obtain ⟨tokens, ending⟩ := lexing
  obtain rfl : ending = .ok place := hending
  have hplaces : ∀ number (hnumber : number < tokens.length),
      placeAt ⟨tokens, .ok place⟩ number = tokens[number].place := by
    intro number hnumber
    simp only [placeAt, List.getElem?_eq_getElem hnumber]
  have hend : placeAt ⟨tokens, .ok place⟩ tokens.length = place := by
    simp only [placeAt, List.getElem?_eq_none (Nat.le_refl _)]
  simp only [relocate, numbered, List.length_map, Lexing.mk.injEq]
  constructor
  · apply List.ext_getElem
    · simp
    · intro number hleft hright
      simp [Spanned.relocate, hplaces number hright]
  · simp [Except.map, Except.mapError, hend]

theorem parse_relocate (f : Position → Position) (lexing : Lexing) :
    (lexing.relocate f).parse = lexing.parse.mapError (SyntaxError.relocate f) := by
  have hstart : State.start.behind f [] [] = .start := rfl
  have hchains : chainsBehind [] [] = id := by
    funext tree
    cases tree <;> rfl
  have hparse := parseFrom_behind f [] [] .start lexing
  rw [hstart, hchains, moved] at hparse
  rw [Except.map_id] at hparse
  exact hparse

theorem mapError_eq_ok_iff {f : SyntaxError → SyntaxError} {outcome : Except SyntaxError Tree}
    {tree : Tree} : outcome.mapError f = .ok tree ↔ outcome = .ok tree := by
  cases outcome <;> simp [Except.mapError]

theorem mapError_eq_error_iff {f : SyntaxError → SyntaxError} {outcome : Except SyntaxError Tree}
    {e : SyntaxError} : outcome.mapError f = .error e ↔ ∃ e', outcome = .error e' ∧ f e' = e := by
  cases outcome <;> simp [Except.mapError]

/-- Of the same tokens at other places the parser makes the same, and blames the same token. -/
theorem parse_of_tokens_eq {lexing other : Lexing} {place stop : Position}
    (hending : lexing.ending = .ok place) (hstop : other.ending = .ok stop)
    (htokens : other.tokens.map Spanned.token = lexing.tokens.map Spanned.token) :
    (∀ tree, lexing.parse = .ok tree → other.parse = .ok tree) ∧
      ∀ e, lexing.parse = .error e → ∃ e' number, other.parse = .error e' ∧
        e'.fault = e.fault ∧ number ≤ lexing.tokens.length ∧
        e.place = lexing.placeAt number ∧ e'.place = other.placeAt number := by
  have hlength : other.tokens.length = lexing.tokens.length := by
    simpa using congrArg List.length htokens
  have hlexing := parse_relocate (fun p => lexing.placeAt p.column)
    (numbered (lexing.tokens.map Spanned.token))
  have hother := parse_relocate (fun p => other.placeAt p.column)
    (numbered (lexing.tokens.map Spanned.token))
  rw [relocate_numbered hending] at hlexing
  rw [← htokens, relocate_numbered hstop, htokens] at hother
  constructor
  · intro tree htree
    rw [hlexing, mapError_eq_ok_iff] at htree
    rw [hother, mapError_eq_ok_iff]
    exact htree
  · intro e he
    rw [hlexing, mapError_eq_error_iff] at he
    obtain ⟨⟨fault, counted⟩, hcounted, rfl⟩ := he
    rw [hcounted] at hother
    rcases Nat.le_total counted.column lexing.tokens.length with hle | hle
    · exact ⟨_, counted.column, hother, rfl, hle, rfl, rfl⟩
    · refine ⟨_, lexing.tokens.length, hother, rfl, Nat.le_refl _, placeAt_of_length_le hle, ?_⟩
      rw [← hlength] at hle ⊢
      exact placeAt_of_length_le hle

end Lexing

/-- The lexer cuts a text that can be lexed into blanks and slices, one slice for each token.
With other blanks before the slices, and some where there were some, it is lexed as the same
tokens, and parsed as the same expression or with the same fault at the token of the same
number. -/
theorem Tree.parse_respaced {text : String} {place : Position}
    (hending : (Lexing.ofText text).ending = .ok place) :
    let tiles := (Cursor.ofText text).tiles
    (tiles.map Tile.spanned = (Lexing.ofText text).tokens ∧
      (∀ tile ∈ tiles,
        (∀ c ∈ tile.blanks, isBlank c = true) ∧ Lexeme tile.spanned.token tile.slice) ∧
      ∃ trail, text.toList = sources tiles ++ trail ∧ ∀ c ∈ trail, isBlank c = true) ∧
    ∀ other : String, Respaced tiles other.toList →
      (∃ stop, (Lexing.ofText other).ending = .ok stop) ∧
      (Lexing.ofText other).tokens.map Spanned.token =
        (Lexing.ofText text).tokens.map Spanned.token ∧
      (∀ tree, Tree.parse text = .ok tree → Tree.parse other = .ok tree) ∧
      ∀ e, Tree.parse text = .error e → ∃ e' number, Tree.parse other = .error e' ∧
        e'.fault = e.fault ∧ number ≤ (Lexing.ofText text).tokens.length ∧
        e.place = (Lexing.ofText text).placeAt number ∧
        e'.place = (Lexing.ofText other).placeAt number := by
  intro tiles
  refine ⟨⟨Cursor.spanned_tiles _, Cursor.tile_of_mem_tiles _,
    Cursor.exists_trail_of_ending hending⟩, ?_⟩
  intro other hother
  obtain ⟨stop, hstop, htokens⟩ := Lexing.tokens_respaced hending hother
  rw [parse_eq, parse_eq]
  exact ⟨⟨stop, hstop⟩, htokens, Lexing.parse_of_tokens_eq hending hstop htokens⟩

/-- A point between digits is no fraction behind a sigil, and a negative index is noticed late. -/
theorem Tree.parse_respaced_of_negative_index :
    Tree.parse "<1.5[-2]" = .error ⟨.negativeIndex, ⟨1, 6⟩⟩ ∧
      ∃ e number, Tree.parse "<1 .5[ -\n2]" = .error e ∧ e.fault = .negativeIndex ∧
        (Lexing.ofText "<1.5[-2]").placeAt number = ⟨1, 6⟩ ∧
        (Lexing.ofText "<1 .5[ -\n2]").placeAt number = e.place := by
  have hfault : Tree.parse "<1.5[-2]" = .error ⟨.negativeIndex, ⟨1, 6⟩⟩ :=
    (Tree.parse_eq _).trans (by cbv)
  have hending : (Lexing.ofText "<1.5[-2]").ending = .ok ⟨1, 9⟩ := by cbv
  have htiles : (Cursor.ofText "<1.5[-2]").tiles =
      [⟨[], ['<'], ⟨.less, ⟨1, 1⟩⟩⟩, ⟨[], ['1'], ⟨.word "1", ⟨1, 2⟩⟩⟩,
        ⟨[], ['.'], ⟨.dot, ⟨1, 3⟩⟩⟩, ⟨[], ['5'], ⟨.word "5", ⟨1, 4⟩⟩⟩,
        ⟨[], ['['], ⟨.openBracket, ⟨1, 5⟩⟩⟩, ⟨[], ['-'], ⟨.minus, ⟨1, 6⟩⟩⟩,
        ⟨[], ['2'], ⟨.word "2", ⟨1, 7⟩⟩⟩, ⟨[], [']'], ⟨.closeBracket, ⟨1, 8⟩⟩⟩] := by cbv
  have htext : "<1 .5[ -\n2]".toList =
      [] ++ (['<'] ++ ([] ++ (['1'] ++ ([' '] ++ (['.'] ++ ([] ++ (['5'] ++ ([] ++ (['['] ++
        ([' '] ++ (['-'] ++ (['\n'] ++ (['2'] ++ ([] ++ ([']'] ++ []))))))))))))))) := by
    decide
  have hnone : ∀ c ∈ [], isBlank c = true := by simp
  have hspace := isBlank_of_mem_space
  have hline : ∀ c ∈ ['\n'], isBlank c = true := List.forall_mem_singleton.mpr (by decide)
  have hspaced : Respaced (Cursor.ofText "<1.5[-2]").tiles "<1 .5[ -\n2]".toList := by
    rw [htiles, htext]
    exact .tile hnone id <| .tile hnone id <| .tile hspace (by simp) <| .tile hnone id <|
      .tile hnone id <| .tile hspace (by simp) <| .tile hline (by simp) <| .tile hnone id <|
      .trail hnone
  obtain ⟨e, number, herror, hsame, -, hplace, hother⟩ :=
    ((parse_respaced hending).2 _ hspaced).2.2.2 _ hfault
  exact ⟨hfault, e, number, herror, hsame, hplace.symm, hother.symm⟩

end FilterChain
