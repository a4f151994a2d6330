import FilterChain.Proofs.Token.Tiling
import FilterChain.Proofs.Token.Spelling

/-!
# Lexing texts that stand one behind the other

A separator is a character that no token goes on with.  What the lexer reads before a
separator is therefore the same as if the text ended there, and behind a separator it
starts afresh: only the places differ, and they differ as the text in front says.
Both directions are run lemmas.  A run over a text goes on when a separator is put behind
the text, and a run up to a separator is a run over the text before it.
-/

namespace FilterChain

open Lexer

/-! ## Places behind a text and a separator -/

/-- The characters behind the last line feed of a text, or all of them. -/
def lastLine (text : List Char) : List Char :=
  (text.reverse.takeWhile (· ≠ '\n')).reverse

/-- Where a place of a text comes to lie when another text and one character more stand before
the text: further down, and on the first line also further to the right. -/
def Position.beyond (before : List Char) (place : Position) : Position :=
  ⟨place.line + before.count '\n',
    if place.line = 1 then place.column + (lastLine before).length + 1 else place.column⟩

theorem Position.start_beyond (before : List Char) {c : Char} (hc : c ≠ '\n') :
    Position.start.beyond before = Position.behind (before ++ [c]) := by
  rw [Position.behind_append_singleton]
  simp only [beyond, start, behind, after, lastLine, hc, List.length_reverse, if_true, if_false]

theorem Position.one_le_line_after {place : Position} (hline : 1 ≤ place.line) (c : Char) :
    1 ≤ (place.after c).line := by
  unfold after
  split
  · exact Nat.le_succ_of_le hline
  · exact hline

theorem Position.one_le_line_afterAll {place : Position} (hline : 1 ≤ place.line)
    (text : List Char) : 1 ≤ (place.afterAll text).line := by
  induction text generalizing place with
  | nil => exact hline
  | cons c text ih => exact ih (one_le_line_after hline c)

theorem Position.after_beyond (before : List Char) {place : Position} (hline : 1 ≤ place.line)
    (c : Char) : (place.after c).beyond before = (place.beyond before).after c := by
  by_cases hc : c = '\n'
  · have hnext : place.line + 1 ≠ 1 := by omega
    simp only [after, beyond, hc, hnext, if_true, if_false, Position.mk.injEq, and_true]
    omega
  · by_cases hfirst : place.line = 1
    · simp only [after, beyond, hc, hfirst, if_true, if_false, Position.mk.injEq, true_and]
      omega
    · simp only [after, beyond, hc, hfirst, if_false]

theorem Position.afterAll_beyond (before : List Char) {place : Position}
    (hline : 1 ≤ place.line) (text : List Char) :
    (place.afterAll text).beyond before = (place.beyond before).afterAll text := by
  induction text generalizing place with
  | nil => rfl
  | cons c text ih =>
      rw [afterAll_cons, ih (one_le_line_after hline c), after_beyond before hline, afterAll_cons]

/-! ## The lexer at another place -/

def Spanned.relocate (f : Position → Position) (spanned : Spanned) : Spanned :=
  { spanned with place := f spanned.place }

def LexError.relocate (f : Position → Position) (e : LexError) : LexError :=
  { e with place := f e.place }

def Lexing.relocate (f : Position → Position) (lexing : Lexing) : Lexing where
  tokens := lexing.tokens.map (Spanned.relocate f)
  ending := (lexing.ending.map f).mapError (LexError.relocate f)

def Cursor.relocate (f : Position → Position) (cursor : Cursor) : Cursor :=
  { cursor with place := f cursor.place }

namespace Cursor

theorem next_relocate (before : List Char) {cursor : Cursor} (hline : 1 ≤ cursor.place.line) :
    (cursor.relocate (Position.beyond before)).next =
      ((cursor.next.1.map (Spanned.relocate (Position.beyond before))).mapError
          (LexError.relocate (Position.beyond before)),
        cursor.next.2.relocate (Position.beyond before)) := by
  have hblanks := Position.one_le_line_afterAll hline (cursor.rest.takeWhile isBlank)
  simp only [next, relocate, ← Position.afterAll_beyond before hline]
  split
  · simp only [← Position.afterAll_beyond before hblanks]
    rfl
  · simp only [← Position.afterAll_beyond before hblanks]
    rfl

theorem one_le_line_of_next {cursor after : Cursor} {outcome : Except LexError Spanned}
    (hnext : cursor.next = (outcome, after)) (hline : 1 ≤ cursor.place.line) :
    1 ≤ after.place.line := by
  unfold next at hnext
  dsimp only at hnext
  have hblanks := Position.one_le_line_afterAll hline (cursor.rest.takeWhile isBlank)
  split at hnext
  · cases hnext
    exact Position.one_le_line_afterAll hblanks _
  · cases hnext
    exact Position.one_le_line_afterAll hblanks _

theorem lexing_relocate (before : List Char) (cursor : Cursor) (hline : 1 ≤ cursor.place.line) :
    (cursor.relocate (Position.beyond before)).lexing =
      cursor.lexing.relocate (Position.beyond before) := by
  have hmove := next_relocate before hline
  fun_induction lexing cursor with
  | case1 cursor e after hnext =>
      rw [hnext] at hmove
      rw [lexing_of_error hmove]
      rfl
  | case2 cursor spanned after hnext heof =>
      rw [hnext] at hmove
      rw [lexing_of_eof hmove heof]
      rfl
  | case3 cursor spanned after hnext htoken more ih =>
      have hafter := one_le_line_of_next hnext hline
      have hmore := ih hafter (next_relocate before hafter)
      rw [hnext] at hmove
      rw [lexing_of_token hmove htoken, hmore]
      rfl

/-! ## Runs up to the end -/

/-- The run of a text that can be lexed stops before blanks. -/
theorem exists_reads_of_ending {cursor : Cursor} {place : Position}
    (hending : cursor.lexing.ending = .ok place) :
    ∃ last, Reads cursor cursor.lexing.tokens last ∧ ∀ c ∈ last.rest, isBlank c = true := by
  fun_induction Cursor.lexing cursor with
  | case1 cursor => cases hending
  | case2 cursor spanned after hnext heof =>
      exact ⟨cursor, .done cursor, (all_blank_of_next_eof hnext heof).1⟩
  | case3 cursor spanned after hnext htoken more ih =>
      obtain ⟨last, hreads, hblank⟩ := ih hending
      exact ⟨last, .token hnext htoken hreads, hblank⟩

end Cursor

/-! ## Texts that end before a token -/

theorem Lexer.startsFraction_iff {text : List Char} :
    StartsFraction text ↔ ∃ c rest, text = '.' :: c :: rest ∧ c.isDigit = true := by
  constructor
  · intro hfraction
    unfold StartsFraction at hfraction
    split at hfraction
    next c rest => exact ⟨c, rest, rfl, hfraction⟩
    next => exact hfraction.elim
  · rintro ⟨c, rest, rfl, hc⟩
    exact hc

theorem Lexer.Boundary.of_append {p : Char → Bool} {rest more : List Char}
    (hboundary : Boundary p (rest ++ more)) : Boundary p rest := by
  cases rest with
  | nil => exact boundary_nil p
  | cons c rest => exact boundary_cons.mpr (boundary_cons.mp hboundary)

theorem Lexer.StartsFraction.append {rest : List Char} (hfraction : StartsFraction rest)
    (more : List Char) : StartsFraction (rest ++ more) := by
  obtain ⟨c, tail, rfl, hc⟩ := startsFraction_iff.mp hfraction
  exact startsFraction_iff.mpr ⟨c, tail ++ more, rfl, hc⟩

/-- A token is found as well if the text ends somewhere behind it. -/
theorem Lexer.Found.of_append {afterSigil : Bool} {token : Token} {slice rest more : List Char}
    (hfound : Found afterSigil token slice (rest ++ more)) :
    Found afterSigil token slice rest := by
  obtain ⟨hlexeme, hstops, hclear⟩ := hfound
  refine ⟨hlexeme, ?_, ?_⟩
  · cases token with
    | word | float | matching | substitution => exact Boundary.of_append hstops
    | _ => trivial
  · cases token with
    | word word =>
        refine ⟨fun hword => (hclear.1 hword).of_append, fun hsigil hdigits hfraction => ?_⟩
        exact hclear.2 hsigil hdigits (hfraction.append more)
    | float => exact hclear
    | _ => trivial

/-! ## Separators -/

theorem Lexer.boundary_append_cons {p : Char → Bool} {c : Char} (hc : p c = false)
    (rest more : List Char) : Boundary p (rest ++ c :: more) ↔ Boundary p rest := by
  cases rest with
  | nil => simp [hc]
  | cons d rest => simp

theorem Lexer.startsFraction_append_cons {c : Char} (hdigit : c.isDigit = false) (hpoint : c ≠ '.')
    (rest more : List Char) : StartsFraction (rest ++ c :: more) ↔ StartsFraction rest := by
  match rest with
  | [] => simp [StartsFraction, hpoint]
  | [d] =>
      by_cases hd : d = '.'
      · subst hd
        simp [StartsFraction, hdigit]
      · simp [StartsFraction, hd]
  | d :: e :: rest =>
      by_cases hd : d = '.'
      · subst hd
        simp [StartsFraction]
      · simp [StartsFraction, hd]

/-- The classes of characters that a separator does not belong to. -/
structure Separates (c : Char) : Prop where
  word : isWordChar c = false
  digit : c.isDigit = false
  flag : isFlag c = false
  slash : c ≠ '/'
  point : c ≠ '.'
  lineFeed : c ≠ '\n'

theorem separates_comma : Separates ',' := by constructor <;> decide

theorem separates_pipe : Separates '|' := by constructor <;> decide

theorem separates_space : Separates ' ' := by constructor <;> decide

namespace Separates

variable {c : Char} (hc : Separates c)
include hc

theorem stops_iff (token : Token) (rest more : List Char) :
    Stops token (rest ++ c :: more) ↔ Stops token rest := by
  cases token with
  | word => exact boundary_append_cons hc.word rest more
  | float => exact boundary_append_cons hc.digit rest more
  | matching => exact boundary_append_cons hc.flag rest more
  | substitution => exact boundary_append_cons hc.flag rest more
  | _ => exact Iff.rfl

theorem unambiguous_iff (afterSigil : Bool) (token : Token) (rest more : List Char) :
    Unambiguous afterSigil token (rest ++ c :: more) ↔ Unambiguous afterSigil token rest := by
  have hslash : (c == '/') = false := by simpa using hc.slash
  cases token with
  | word word =>
      simp only [Unambiguous, boundary_append_cons (p := (· == '/')) hslash,
        startsFraction_append_cons hc.digit hc.point]
  | _ => exact Iff.rfl

theorem found_iff {afterSigil : Bool} {token : Token} {slice : List Char}
    (rest more : List Char) :
    Found afterSigil token slice (rest ++ c :: more) ↔ Found afterSigil token slice rest := by
  have hstops := hc.stops_iff token rest more
  have hclear := hc.unambiguous_iff afterSigil token rest more
  constructor
  · intro hfound
    exact ⟨hfound.lexeme, hstops.mp hfound.stops, hclear.mp hfound.unambiguous⟩
  · intro hfound
    exact ⟨hfound.lexeme, hstops.mpr hfound.stops, hclear.mpr hfound.unambiguous⟩

end Separates

namespace Cursor

/-- The step of a cursor is the same before any rest that leaves its token as it is. -/
theorem Step.next_of_found {cursor after : Cursor} {spanned : Spanned} {blanks slice : List Char}
    (hstep : Step cursor spanned after blanks slice) {rest : List Char}
    (hfound : Found cursor.afterSigil spanned.token slice rest) :
    ({ cursor with rest := blanks ++ (slice ++ rest) } : Cursor).next =
      (.ok spanned, { after with rest }) := by
  obtain ⟨token, place⟩ := spanned
  obtain ⟨afterRest, afterPlace, afterSigil⟩ := after
  have hplace : place = cursor.place.afterAll blanks := hstep.place
  have hafter : afterPlace = place.afterAll slice := hstep.placeAfter
  have hsigil : afterSigil = token.isSigil := hstep.afterSigil
  rw [Cursor.next_of_found cursor.place hstep.blank hfound, hsigil, hafter, hplace]

variable {c : Char} {cursor last : Cursor} {tokens : List Spanned}

theorem Reads.extend (hc : Separates c) (more : List Char) (hreads : Reads cursor tokens last) :
    Reads { cursor with rest := cursor.rest ++ c :: more } tokens
      { last with rest := last.rest ++ c :: more } := by
  induction hreads with
  | done => exact .done _
  | @token cursor middle last spanned tokens hnext htoken _ ih =>
      obtain ⟨blanks, slice, hstep⟩ := step_of_next hnext htoken
      have hfound := (hc.found_iff middle.rest more).mpr hstep.found
      have hsame := hstep.next_of_found hfound
      rw [← List.append_assoc slice, ← List.append_assoc blanks, hstep.rest] at hsame
      exact .token hsame htoken ih

theorem Reads.cut {rest more : List Char} (hreads : Reads cursor tokens last)
    (hlast : last.rest = rest ++ more) :
    ∃ text, cursor.rest = text ++ more ∧
      Reads { cursor with rest := text } tokens { last with rest } := by
  induction hreads with
  | done => exact ⟨rest, hlast, .done _⟩
  | @token cursor middle last spanned tokens hnext htoken _ ih =>
      obtain ⟨text, htext, htail⟩ := ih hlast
      obtain ⟨blanks, slice, hstep⟩ := step_of_next hnext htoken
      have hfound := hstep.found
      rw [htext] at hfound
      have hsame := hstep.next_of_found hfound.of_append
      refine ⟨blanks ++ (slice ++ text), ?_, .token hsame htoken htail⟩
      rw [← hstep.rest, htext]
      simp only [List.append_assoc]

theorem Reads.exists_of_append {tokens more : List Spanned}
    (hreads : Reads cursor (tokens ++ more) last) :
    ∃ middle, Reads cursor tokens middle ∧ Reads middle more last := by
  induction tokens generalizing cursor with
  | nil => exact ⟨cursor, .done cursor, hreads⟩
  | cons spanned tokens ih =>
      cases hreads with
      | token hnext htoken htail =>
          obtain ⟨middle, hfront, hback⟩ := ih htail
          exact ⟨middle, .token hnext htoken hfront, hback⟩

end Cursor

/-! ## The text around a token -/

/-- What the lexer reads of a text up to a token, the slice of the token, and what it reads
behind the slice. -/
structure Cursor.Around (text : List Char) (front : List Spanned) (spanned : Spanned)
    (back : List Spanned) (last : Cursor) (before slice : List Char) (gap behind : Cursor) :
    Prop where
  split : text = before ++ (slice ++ behind.rest)
  place : spanned.place = Position.behind before
  reads : Reads ⟨before, .start, false⟩ front gap
  blank : ∀ c ∈ gap.rest, isBlank c = true
  found : Found gap.afterSigil spanned.token slice behind.rest
  stands : behind = ⟨behind.rest, Position.behind (before ++ slice), spanned.token.isSigil⟩
  goesOn : Reads behind back last

theorem Cursor.Reads.exists_around {text : List Char} {front back : List Spanned}
    {spanned : Spanned} {last : Cursor}
    (hreads : Reads ⟨text, .start, false⟩ (front ++ spanned :: back) last) :
    ∃ before slice gap behind, Around text front spanned back last before slice gap behind := by
  obtain ⟨middle, hfront, hrest⟩ := hreads.exists_of_append
  cases hrest with
  | @token _ behind _ _ _ hnext htoken hback =>
      obtain ⟨blanks, slice, hstep⟩ := step_of_next hnext htoken
      obtain ⟨before, hbefore, hcut⟩ := hfront.cut hstep.rest.symm
      have hplace : spanned.place = Position.behind before := by
        obtain ⟨tiles, -, htiles, hstop, -⟩ := hcut.exists_tiling [] rfl
        have hstop : middle.place = Position.behind (Tile.sources tiles) := hstop
        have htiles : Tile.sources tiles ++ blanks = before := htiles
        rw [hstep.place, hstop, Position.afterAll_behind, htiles]
      have hbehind : behind.place = Position.behind (before ++ slice) := by
        rw [hstep.placeAfter, hplace, Position.afterAll_behind]
      refine ⟨before, slice, { middle with rest := blanks }, behind, hbefore, hplace, hcut,
        hstep.blank, hstep.found, ?_, hback⟩
      rw [← hbehind, ← hstep.afterSigil]

/-! ## Texts with a separator between them -/

theorem Lexer.eq_of_mark {c d : Char} {token : Token} (hc : mark? c = some token)
    (hd : mark? d = some token) : c = d := by
  unfold mark? at hc hd
  split at hc <;> cases hc <;> split at hd <;> cases hd <;> rfl

theorem Lexer.Lexeme.eq_of_mark {c : Char} {token : Token} {slice : List Char}
    (hlexeme : Lexeme token slice) (hmark : mark? c = some token) : slice = [c] := by
  cases hlexeme with
  | mark hother => rw [Lexer.eq_of_mark hother hmark]
  | _ =>
      unfold mark? at hmark
      split at hmark <;> cases hmark

namespace Lexing

theorem ofText_ofList (text : List Char) :
    ofText (String.ofList text) = Cursor.lexing ⟨text, .start, false⟩ := by
  rw [ofText, Cursor.ofText, String.toList_ofList]

theorem exists_ofText_of_around {text before slice : List Char} {front back : List Spanned}
    {spanned : Spanned} {last gap behind : Cursor}
    (haround : Cursor.Around text front spanned back last before slice gap behind) :
    ∃ stop, ofText (String.ofList before) = ⟨front, .ok stop⟩ := by
  have hstop := Cursor.lexing_of_all_blank haround.blank
  refine ⟨gap.place.afterAll gap.rest, ?_⟩
  rw [ofText_ofList, haround.reads.lexing, hstop, List.append_nil]

/-- The lexing of a text that starts behind another one and a separator. -/
theorem lexing_behind (before : List Char) {c : Char} (hc : c ≠ '\n') (text : List Char) :
    Cursor.lexing ⟨text, Position.behind (before ++ [c]), false⟩ =
      (ofText (String.ofList text)).relocate (Position.beyond before) := by
  rw [← Position.start_beyond before hc, ofText_ofList]
  exact Cursor.lexing_relocate before ⟨text, .start, false⟩ (Nat.le_refl 1)

/-- If a text can be lexed, then with a separator and another text behind it one reads its
tokens, that of the separator, and those of the other text. -/
theorem ofText_append_separator {first : String} {place : Position}
    (hending : (ofText first).ending = .ok place) {c : Char} {token : Token}
    (hc : Separates c) (hmark : mark? c = some token) (hsigil : token.isSigil = false)
    (second : String) :
    ofText (first ++ String.singleton c ++ second) =
      let behind := (ofText second).relocate (Position.beyond first.toList)
      ⟨(ofText first).tokens ++ ⟨token, Position.behind first.toList⟩ :: behind.tokens,
        behind.ending⟩ := by
  obtain ⟨last, hreads, hblank⟩ := Cursor.exists_reads_of_ending hending
  obtain ⟨tiles, -, hrest, hplace, -⟩ := hreads.exists_tiling [] rfl
  have hfirst : Tile.sources tiles ++ last.rest = first.toList := hrest
  have hfound : Found last.afterSigil token [c] second.toList := found_of_mark _ hmark
  have hseparator : Cursor.next { last with rest := last.rest ++ c :: second.toList } =
      (.ok ⟨token, Position.behind first.toList⟩,
        ⟨second.toList, Position.behind (first.toList ++ [c]), false⟩) := by
    have hnext := Cursor.next_of_found last.place hblank hfound
    have hblanks : last.place.afterAll last.rest = Position.behind first.toList := by
      rw [hplace, Position.afterAll_behind, List.nil_append, hfirst]
    rw [hblanks, Position.afterAll_behind, hsigil] at hnext
    exact hnext
  have hall : Cursor.Reads ⟨first.toList ++ c :: second.toList, .start, false⟩
      ((ofText first).tokens ++ [⟨token, Position.behind first.toList⟩])
      ⟨second.toList, Position.behind (first.toList ++ [c]), false⟩ :=
    (hreads.extend hc second.toList).append
      (.token hseparator hfound.lexeme.ne_eof (.done _))
  have htext : ofText (first ++ String.singleton c ++ second) =
      Cursor.lexing ⟨first.toList ++ c :: second.toList, .start, false⟩ := by
    simp [ofText, Cursor.ofText]
  have hsecond := lexing_behind first.toList hc.lineFeed second.toList
  rw [String.ofList_toList] at hsecond
  rw [htext, hall.lexing, hsecond, List.append_assoc]
  rfl

theorem reads_of_ending {text : String} {place : Position}
    (hending : (ofText text).ending = .ok place) :
    ∃ last, Cursor.Reads ⟨text.toList, .start, false⟩ (ofText text).tokens last ∧
      (∀ c ∈ last.rest, isBlank c = true) ∧ last.lexing = ⟨[], .ok place⟩ := by
  obtain ⟨last, hreads, hblank⟩ := Cursor.exists_reads_of_ending hending
  refine ⟨last, hreads, hblank, ?_⟩
  have hstop := Cursor.lexing_of_all_blank hblank
  have hsame : last.lexing.ending = .ok place :=
    (congrArg Lexing.ending hreads.lexing).symm.trans hending
  rw [hstop] at hsame
  cases hsame
  exact hstop

/-- A separator among the tokens of a text stands behind a text with the tokens before it and
before a text with the tokens behind it. -/
theorem exists_cut_at_separator {text : String} {ending place : Position}
    {front back : List Spanned} {c : Char} {token : Token} (hc : Separates c)
    (hmark : mark? c = some token) (hsigil : token.isSigil = false) (hending : (ofText text).ending = .ok ending)
    (htokens : (ofText text).tokens = front ++ ⟨token, place⟩ :: back) :
    ∃ before after : String, text = before ++ String.singleton c ++ after ∧
      place = Position.behind before.toList ∧
      (∃ stop, ofText before = ⟨front, .ok stop⟩) ∧
      (ofText after).relocate (Position.beyond before.toList) = ⟨back, .ok ending⟩ := by
  obtain ⟨last, hreads, -, hlast⟩ := reads_of_ending hending
  rw [htokens] at hreads
  obtain ⟨before, slice, gap, behind, haround⟩ := hreads.exists_around
  obtain rfl := haround.found.lexeme.eq_of_mark hmark
  refine ⟨String.ofList before, String.ofList behind.rest, ?_, ?_,
    exists_ofText_of_around haround, ?_⟩
  · apply String.toList_inj.mp
    simp [haround.split]
  · rw [String.toList_ofList]
    exact haround.place
  · have hsecond := lexing_behind before hc.lineFeed behind.rest
    have hbehind : behind = ⟨behind.rest, Position.behind (before ++ [c]), false⟩ :=
      hsigil ▸ haround.stands
    rw [String.toList_ofList, ← hsecond, ← hbehind, haround.goesOn.lexing, hlast, List.append_nil]

end Lexing

end FilterChain
