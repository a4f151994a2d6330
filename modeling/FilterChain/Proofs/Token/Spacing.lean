import FilterChain.Proofs.Token.Concatenation

/-!
# Blanks between tokens

The lexer cuts a text into slices with blanks before them.  What it reads from a slice depends
on the text behind it only through characters that touch the slice, and blanks never go on with
a token.  So the blanks before a slice may be others, and there may be blanks where there were
none; only where blanks keep two slices apart, some must remain.
-/

namespace FilterChain

open Lexer Tile

/-! ## The tiles of a text -/

namespace Cursor

/-- The tiles that the lexer cuts the text into, up to its end or the first fault: each with the
blanks that are skipped and the slice that is taken. -/
def tiles (cursor : Cursor) : List Tile :=
  match _read : cursor.next with
  | (.error _, _) => []
  | (.ok spanned, after) =>
    if _end : spanned.token = .eof then []
    else
      let source := cursor.rest.take (cursor.rest.length - after.rest.length)
      ⟨source.takeWhile isBlank, source.dropWhile isBlank, spanned⟩ :: after.tiles
termination_by cursor.rest.length
decreasing_by exact next_rest_length_lt _read _end

theorem tiles_of_error {cursor after : Cursor} {e : LexError}
    (hnext : cursor.next = (.error e, after)) : cursor.tiles = [] := by
  rw [tiles]
  split
  next => rfl
  next hread => cases hnext.symm.trans hread

theorem tiles_of_eof {cursor after : Cursor} {spanned : Spanned}
    (hnext : cursor.next = (.ok spanned, after)) (htoken : spanned.token = .eof) :
    cursor.tiles = [] := by
  rw [tiles]
  split
  next => rfl
  next hread =>
    cases hnext.symm.trans hread
    rw [dif_pos htoken]

theorem Step.tiles {cursor after : Cursor} {spanned : Spanned} {blanks slice : List Char}
    (hstep : Step cursor spanned after blanks slice) (hnext : cursor.next = (.ok spanned, after)) :
    cursor.tiles = ⟨blanks, slice, spanned⟩ :: after.tiles := by
  have hsource : cursor.rest.take (cursor.rest.length - after.rest.length) = blanks ++ slice := by
    rw [← hstep.rest, ← List.append_assoc, List.length_append, Nat.add_sub_cancel, List.take_left]
  have hslice := hstep.found.lexeme.boundary_isBlank []
  rw [List.append_nil] at hslice
  rw [Cursor.tiles]
  split
  next hread => cases hnext.symm.trans hread
  next hread =>
    cases hnext.symm.trans hread
    rw [dif_neg hstep.found.lexeme.ne_eof, hsource]
    dsimp only
    rw [takeWhile_of_boundary hstep.blank hslice, dropWhile_of_boundary hstep.blank hslice]

end Cursor

theorem Cursor.spanned_tiles (cursor : Cursor) :
    cursor.tiles.map Tile.spanned = cursor.lexing.tokens := by
  fun_induction Cursor.lexing cursor with
  | case1 cursor e after hnext =>
      rw [tiles_of_error hnext]
      rfl
  | case2 cursor spanned after hnext heof =>
      rw [tiles_of_eof hnext heof]
      rfl
  | case3 cursor spanned after hnext htoken more ih =>
      obtain ⟨blanks, slice, hstep⟩ := step_of_next hnext htoken
      rw [hstep.tiles hnext, List.map_cons, ih]

theorem Cursor.tile_of_mem_tiles (cursor : Cursor) :
    ∀ tile ∈ cursor.tiles,
      (∀ c ∈ tile.blanks, isBlank c = true) ∧ Lexeme tile.spanned.token tile.slice := by
  fun_induction Cursor.lexing cursor with
  | case1 cursor e after hnext =>
      rw [tiles_of_error hnext]
      simp
  | case2 cursor spanned after hnext heof =>
      rw [tiles_of_eof hnext heof]
      simp
  | case3 cursor spanned after hnext htoken more ih =>
      obtain ⟨blanks, slice, hstep⟩ := step_of_next hnext htoken
      rw [hstep.tiles hnext]
      exact List.forall_mem_cons.mpr ⟨⟨hstep.blank, hstep.found.lexeme⟩, ih⟩

/-- The tiles of a text that can be lexed make up the text, with blanks behind them. -/
theorem Cursor.exists_trail_of_ending {cursor : Cursor} {place : Position}
    (hending : cursor.lexing.ending = .ok place) :
    ∃ trail, cursor.rest = sources cursor.tiles ++ trail ∧ ∀ c ∈ trail, isBlank c = true := by
  fun_induction Cursor.lexing cursor with
  | case1 cursor => cases hending
  | case2 cursor spanned after hnext heof =>
      rw [tiles_of_eof hnext heof]
      exact ⟨cursor.rest, rfl, (all_blank_of_next_eof hnext heof).1⟩
  | case3 cursor spanned after hnext htoken more ih =>
      obtain ⟨trail, hrest, hblank⟩ := ih hending
      obtain ⟨blanks, slice, hstep⟩ := step_of_next hnext htoken
      rw [hstep.tiles hnext]
      refine ⟨trail, ?_, hblank⟩
      rw [sources_cons, source, List.append_assoc, List.append_assoc, ← hrest]
      exact hstep.rest.symm

/-! ## Texts with other blanks -/

/-- The slices of the tiles with other blanks before them, and with some where there were some. -/
inductive Respaced : List Tile → List Char → Prop
  | trail {blanks : List Char} (hblank : ∀ c ∈ blanks, isBlank c = true) : Respaced [] blanks
  | tile {tile : Tile} {tiles : List Tile} {blanks text : List Char}
      (hblank : ∀ c ∈ blanks, isBlank c = true) (hgap : tile.blanks ≠ [] → blanks ≠ [])
      (htext : Respaced tiles text) : Respaced (tile :: tiles) (blanks ++ (tile.slice ++ text))

/-- What another text may start with, apart from a blank, this one starts with as well. -/
structure Loosens (text other : List Char) : Prop where
  head : ∀ c, isBlank c = false → other.head? = some c → text.head? = some c
  fraction : StartsFraction other → StartsFraction text

/-- A text that does not start with a blank starts with the first slice, before which there was
no blank either. -/
theorem Respaced.exists_slice {tiles : List Tile} {c : Char} {text : List Char}
    (htext : Respaced tiles (c :: text)) (hslices : ∀ tile ∈ tiles, tile.slice ≠ [])
    (hc : isBlank c = false) :
    ∃ spanned slice rest other, tiles = ⟨[], c :: slice, spanned⟩ :: rest ∧
      text = slice ++ other ∧ Respaced rest other := by
  have hfirst {blanks : List Char} (hblank : ∀ d ∈ blanks, isBlank d = true)
      (hmem : c ∈ blanks) : False := by
    rw [hblank c hmem] at hc
    cases hc
  generalize hwhole : c :: text = whole at htext
  cases htext with
  | trail hblank =>
      subst hwhole
      exact (hfirst hblank List.mem_cons_self).elim
  | @tile tile rest blanks other hblank hgap htext =>
      obtain ⟨gap, slice, spanned⟩ := tile
      cases blanks with
      | cons b blanks =>
          obtain ⟨rfl, -⟩ := List.cons.inj hwhole
          exact (hfirst hblank List.mem_cons_self).elim
      | nil =>
          obtain rfl : gap = [] := by
            by_contra hne
            exact hgap hne rfl
          cases slice with
          | nil => exact absurd rfl (hslices ⟨[], [], spanned⟩ List.mem_cons_self)
          | cons d slice =>
              obtain ⟨rfl, rfl⟩ := List.cons.inj hwhole
              exact ⟨spanned, slice, rest, other, rfl, rfl, htext⟩

theorem Respaced.loosens {tiles : List Tile} {text : List Char} (htext : Respaced tiles text)
    (hslices : ∀ tile ∈ tiles, tile.slice ≠ []) (trail : List Char) :
    Loosens (sources tiles ++ trail) text := by
  constructor
  · intro c hc hhead
    obtain ⟨more, rfl⟩ := List.head?_eq_some_iff.mp hhead
    obtain ⟨spanned, slice, rest, other, rfl, -, -⟩ := htext.exists_slice hslices hc
    rfl
  · intro hfraction
    obtain ⟨d, more, rfl, hd⟩ := startsFraction_iff.mp hfraction
    obtain ⟨spanned, slice, rest, other, rfl, hsplit, hother⟩ :=
      htext.exists_slice hslices (by decide)
    cases slice with
    | cons e slice =>
        obtain ⟨rfl, -⟩ := List.cons.inj hsplit
        exact hd
    | nil =>
        -- The point is a slice of its own, and the digit touches it in both texts.
        have hblank := not_isBlank_of_isWordChar (isWordChar_of_isDigit hd)
        rw [List.nil_append] at hsplit
        subst hsplit
        obtain ⟨_, slice, _, _, rfl, -, -⟩ :=
          hother.exists_slice (fun tile hmem => hslices tile (List.mem_cons_of_mem _ hmem)) hblank
        exact hd

namespace Loosens

variable {text other : List Char} (hloosens : Loosens text other)
include hloosens

theorem boundary {p : Char → Bool} (hp : ∀ c, p c = true → isBlank c = false)
    (htext : Boundary p text) : Boundary p other := by
  intro c hhead
  cases hpc : p c with
  | false => rfl
  | true => exact hpc.symm.trans (htext c (hloosens.head c (hp c hpc) hhead))

theorem stops {token : Token} (hstops : Stops token text) : Stops token other := by
  have hflag (c : Char) (hc : isFlag c = true) : isBlank c = false :=
    not_isBlank_of_isWordChar (isWordChar_of_isFlag hc)
  cases token with
  | word => exact hloosens.boundary (fun c => not_isBlank_of_isWordChar) hstops
  | float =>
      exact hloosens.boundary
        (fun c hc => not_isBlank_of_isWordChar (isWordChar_of_isDigit hc)) hstops
  | matching => exact hloosens.boundary hflag hstops
  | substitution => exact hloosens.boundary hflag hstops
  | _ => trivial

theorem unambiguous {afterSigil : Bool} {token : Token}
    (hclear : Unambiguous afterSigil token text) : Unambiguous afterSigil token other := by
  have hslash (c : Char) (hc : (c == '/') = true) : isBlank c = false := by
    obtain rfl : c = '/' := by simpa using hc
    decide
  cases token with
  | word word =>
      exact ⟨fun hword => hloosens.boundary hslash (hclear.1 hword), fun hsigil hdigits hfraction =>
        hclear.2 hsigil hdigits (hloosens.fraction hfraction)⟩
  | float => exact hclear
  | _ => trivial

theorem found {afterSigil : Bool} {token : Token} {slice : List Char}
    (hfound : Found afterSigil token slice text) : Found afterSigil token slice other :=
  ⟨hfound.lexeme, hloosens.stops hfound.stops, hloosens.unambiguous hfound.unambiguous⟩

end Loosens

/-! ## Reading a text with other blanks -/

theorem exists_lexes_respaced {cursor : Cursor} {place : Position}
    (hending : cursor.lexing.ending = .ok place) :
    ∀ text, Respaced cursor.tiles text → ∃ sigil trail, (∀ c ∈ trail, isBlank c = true) ∧
      Lexes cursor.afterSigil text (cursor.lexing.tokens.map Spanned.token) sigil trail := by
  fun_induction Cursor.lexing cursor with
  | case1 cursor => cases hending
  | case2 cursor spanned after hnext heof =>
      intro text htext
      rw [Cursor.tiles_of_eof hnext heof] at htext
      cases htext with
      | trail hblank => exact ⟨_, text, hblank, fun place => ⟨[], place, rfl, .done _⟩⟩
  | case3 cursor spanned after hnext htoken more ih =>
      intro text htext
      obtain ⟨blanks, slice, hstep⟩ := Cursor.step_of_next hnext htoken
      rw [hstep.tiles hnext] at htext
      cases htext with
      | @tile _ _ gap other hblank _ hother =>
          obtain ⟨sigil, trail, htrail, hlexes⟩ := ih hending other hother
          obtain ⟨last, hrest, -⟩ := Cursor.exists_trail_of_ending hending
          have hloosens := hother.loosens
            (fun tile hmem => (after.tile_of_mem_tiles tile hmem).2.ne_nil) last
          rw [← hrest] at hloosens
          have hfirst := lexes_token hblank (hloosens.found hstep.found)
          rw [hstep.afterSigil] at hlexes
          exact ⟨sigil, trail, htrail, hfirst.append hlexes⟩

/-- The text can be lexed, and these are its tokens. -/
def LexedAs (text : String) (tokens : List Token) : Prop :=
  ∃ place, (Lexing.ofText text).ending = .ok place ∧
    (Lexing.ofText text).tokens.map Spanned.token = tokens

theorem Lexes.lexedAs {text : String} {tokens : List Token} {sigil : Bool} {trail : List Char}
    (hlexes : Lexes false text.toList tokens sigil trail)
    (htrail : ∀ c ∈ trail, isBlank c = true) : LexedAs text tokens := by
  obtain ⟨spanned, last, hmap, hreads⟩ := hlexes .start
  have hrest : ∀ c ∈ (⟨trail, last, sigil⟩ : Cursor).rest, isBlank c = true := htrail
  have hblank := Cursor.lexing_of_all_blank hrest
  have hlexing : Lexing.ofText text = ⟨spanned, .ok (last.afterAll trail)⟩ := by
    have hread := hreads.lexing
    rwa [hblank, List.append_nil] at hread
  rw [LexedAs, hlexing]
  exact ⟨_, rfl, hmap⟩

/-- Other blanks between the slices leave the tokens as they are. -/
theorem Lexing.tokens_respaced {text other : String} {place : Position}
    (hending : (ofText text).ending = .ok place)
    (hother : Respaced (Cursor.ofText text).tiles other.toList) :
    LexedAs other ((ofText text).tokens.map Spanned.token) := by
  obtain ⟨sigil, trail, htrail, hlexes⟩ := exists_lexes_respaced hending _ hother
  exact hlexes.lexedAs htrail

end FilterChain
