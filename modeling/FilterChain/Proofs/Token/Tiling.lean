import FilterChain.Proofs.Token.Run

/-!
# Tilings of a text by its tokens

A run of the lexer cuts the text that it has read into blanks and slices, one
slice for each token.  Nothing is lost between them, every slice is a lexeme of
its token that the text behind it cannot extend, and the place of a token is the
line and the column of the first character of its slice.  A step of the run adds
one tile, so the law holds for runs of every length.
-/

namespace FilterChain

open Lexer

/-! ## Places -/

/-- The line and the column that a text leads to, counted from the start. -/
def Position.behind (text : List Char) : Position :=
  ⟨1 + text.count '\n', 1 + (text.reverse.takeWhile (· ≠ '\n')).length⟩

theorem Position.behind_append_singleton (text : List Char) (c : Char) :
    Position.behind (text ++ [c]) = (Position.behind text).after c := by
  by_cases hc : c = '\n'
  · simp [Position.behind, Position.after, hc]
    omega
  · simp [Position.behind, Position.after, hc]
    omega

theorem Position.afterAll_behind (before text : List Char) :
    (Position.behind before).afterAll text = Position.behind (before ++ text) := by
  induction text generalizing before with
  | nil => simp
  | cons c text ih =>
      rw [Position.afterAll_cons, ← Position.behind_append_singleton, ih, List.append_assoc]
      rfl

/-! ## Tiles -/

/-- A token with its slice and the blanks before it. -/
structure Tile where
  blanks : List Char
  slice : List Char
  spanned : Spanned

namespace Tile

def source (tile : Tile) : List Char := tile.blanks ++ tile.slice

def sources (tiles : List Tile) : List Char := tiles.flatMap source

@[simp] theorem sources_nil : sources [] = [] := rfl

@[simp] theorem sources_cons (tile : Tile) (tiles : List Tile) :
    sources (tile :: tiles) = tile.source ++ sources tiles := rfl

/-- The tile stands between two texts as the lexer would cut it. -/
structure Fits (tile : Tile) (before after : List Char) : Prop where
  blank : ∀ c ∈ tile.blanks, isBlank c = true
  slice_ne_nil : tile.slice ≠ []
  lexeme : Lexeme tile.spanned.token tile.slice
  stops : Stops tile.spanned.token after
  place : tile.spanned.place = Position.behind (before ++ tile.blanks)

/-- Each tile fits between the text before it and the text behind it. -/
def Tiling (before : List Char) (tiles : List Tile) (after : List Char) : Prop :=
  ∀ front tile back, tiles = front ++ tile :: back →
    tile.Fits (before ++ sources front) (sources back ++ after)

theorem tiling_nil (before after : List Char) : Tiling before [] after := by
  intro front tile back heq
  simp at heq

theorem tiling_cons {before after : List Char} {tile : Tile} {tiles : List Tile}
    (hfits : tile.Fits before (sources tiles ++ after))
    (htiles : Tiling (before ++ tile.source) tiles after) :
    Tiling before (tile :: tiles) after := by
  intro front other back heq
  cases front with
  | nil =>
      obtain ⟨rfl, rfl⟩ := List.cons.inj heq
      rw [sources_nil, List.append_nil]
      exact hfits
  | cons first front =>
      obtain ⟨rfl, htail⟩ := List.cons.inj heq
      rw [sources_cons, ← List.append_assoc]
      exact htiles front other back htail

end Tile

open Tile

theorem Cursor.Step.fits {cursor after : Cursor} {spanned : Spanned}
    {blanks slice before : List Char} (hstep : Step cursor spanned after blanks slice)
    (hplace : cursor.place = Position.behind before) :
    (Tile.mk blanks slice spanned).Fits before after.rest where
  blank := hstep.blank
  slice_ne_nil := hstep.found.lexeme.ne_nil
  lexeme := hstep.found.lexeme
  stops := hstep.found.stops
  place := by rw [hstep.place, hplace, Position.afterAll_behind]

theorem Cursor.Step.place_behind {cursor after : Cursor} {spanned : Spanned}
    {blanks slice before : List Char} (hstep : Step cursor spanned after blanks slice)
    (hplace : cursor.place = Position.behind before) :
    after.place = Position.behind (before ++ (blanks ++ slice)) := by
  rw [hstep.placeAfter, hstep.place, hplace, Position.afterAll_behind,
    Position.afterAll_behind, List.append_assoc]

theorem Cursor.Reads.exists_tiling {cursor last : Cursor} {tokens : List Spanned}
    (hreads : Reads cursor tokens last) (before : List Char)
    (hplace : cursor.place = Position.behind before) :
    ∃ tiles, tiles.map Tile.spanned = tokens ∧ sources tiles ++ last.rest = cursor.rest ∧
      last.place = Position.behind (before ++ sources tiles) ∧
      Tiling before tiles last.rest := by
  induction hreads generalizing before with
  | done cursor =>
      refine ⟨[], rfl, rfl, ?_, tiling_nil before cursor.rest⟩
      rw [sources_nil, List.append_nil]
      exact hplace
  | @token cursor middle last spanned tokens hnext htoken _ ih =>
      obtain ⟨blanks, slice, hstep⟩ := step_of_next hnext htoken
      obtain ⟨tiles, hmap, hrest, hlast, htiles⟩ := ih _ (hstep.place_behind hplace)
      refine ⟨⟨blanks, slice, spanned⟩ :: tiles, ?_, ?_, ?_, ?_⟩
      · rw [List.map_cons, hmap]
      · rw [sources_cons, source, ← hstep.rest, ← hrest]
        simp only [List.append_assoc]
      · rw [hlast, sources_cons, source, List.append_assoc]
      · apply tiling_cons
        · rw [hrest]
          exact hstep.fits hplace
        · exact htiles

/-- Whatever has been read of a text is tiled by the tokens, in order, with true places, and a
lexer that has come to the end has read it all. -/
theorem Cursor.exists_tiling_of_text (text : String) {tokens : List Spanned} {last : Cursor}
    (hreads : Reads (ofText text) tokens last) :
    ∃ tiles, tiles.map Tile.spanned = tokens ∧ sources tiles ++ last.rest = text.toList ∧
      Tiling [] tiles last.rest ∧
      ∀ spanned after, last.next = (.ok spanned, after) → spanned.token = .eof →
        (∀ c ∈ last.rest, isBlank c = true) ∧ after.rest = [] ∧
          spanned.place = Position.behind text.toList := by
  obtain ⟨tiles, hmap, hrest, hplace, htiles⟩ := hreads.exists_tiling [] rfl
  refine ⟨tiles, hmap, hrest, htiles, ?_⟩
  intro spanned after hnext heof
  obtain ⟨hblank, hafter, hspanned⟩ := all_blank_of_next_eof hnext heof
  refine ⟨hblank, hafter, ?_⟩
  have hsplit : sources tiles ++ last.rest = text.toList := hrest
  rw [hspanned, hplace, Position.afterAll_behind, List.nil_append, hsplit]

/-- A name, a pipe, a string that goes on in the next line, and a match right behind it. -/
theorem Cursor.exists_tiling_of_three_lines :
    let tokens : List Spanned := [⟨.word "a", ⟨1, 1⟩⟩, ⟨.pipe, ⟨1, 3⟩⟩, ⟨.string "s\n", ⟨2, 2⟩⟩,
      ⟨.matching "x" "g", ⟨3, 2⟩⟩]
    let last : Cursor := ⟨[], ⟨3, 7⟩, false⟩
    Reads (ofText "a |\n 's\n'm/x/g") tokens last ∧
      ∃ tiles, tiles.map Tile.spanned = tokens ∧
        sources tiles ++ last.rest = "a |\n 's\n'm/x/g".toList ∧ Tiling [] tiles last.rest ∧
        ∃ after, last.next = (.ok ⟨.eof, Position.behind "a |\n 's\n'm/x/g".toList⟩, after) := by
  intro tokens last
  have hword : (ofText "a |\n 's\n'm/x/g").next =
      (.ok ⟨.word "a", ⟨1, 1⟩⟩, ⟨" |\n 's\n'm/x/g".toList, ⟨1, 2⟩, false⟩) := by cbv
  have hpipe : next ⟨" |\n 's\n'm/x/g".toList, ⟨1, 2⟩, false⟩ =
      (.ok ⟨.pipe, ⟨1, 3⟩⟩, ⟨"\n 's\n'm/x/g".toList, ⟨1, 4⟩, false⟩) := by cbv
  have hstring : next ⟨"\n 's\n'm/x/g".toList, ⟨1, 4⟩, false⟩ =
      (.ok ⟨.string "s\n", ⟨2, 2⟩⟩, ⟨"m/x/g".toList, ⟨3, 2⟩, false⟩) := by cbv
  have hmatch : next ⟨"m/x/g".toList, ⟨3, 2⟩, false⟩ =
      (.ok ⟨.matching "x" "g", ⟨3, 2⟩⟩, last) := by cbv
  have hend : last.next = (.ok ⟨.eof, ⟨3, 7⟩⟩, ⟨[], ⟨3, 7⟩, false⟩) := by cbv
  have hreads : Reads (ofText "a |\n 's\n'm/x/g") tokens last :=
    .token hword (by simp) <| .token hpipe (by simp) <| .token hstring (by simp) <|
      .token hmatch (by simp) <| .done last
  obtain ⟨tiles, hmap, hrest, htiles, hplace⟩ := exists_tiling_of_text _ hreads
  have hbehind := (hplace _ _ hend rfl).2.2
  exact ⟨hreads, tiles, hmap, hrest, htiles, _, hend.trans (by rw [← hbehind])⟩

end FilterChain
