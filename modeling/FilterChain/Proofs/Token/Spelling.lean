import FilterChain.Proofs.Token.Run

/-!
# Texts that spell tokens

A text spells tokens if the lexer reads just these from it, whatever blanks stand
before it and whatever text follows, as long as the first character behind it cannot
go on with its last token.  Spellings can be put one behind the other.
-/

namespace FilterChain

open Lexer

/-! ## Blanks before a lexeme -/

theorem not_isBlank_of_isWordChar {c : Char} (hc : isWordChar c = true) : isBlank c = false := by
  have hbounds : 0x30 ≤ c.toNat ∧ c.toNat ≤ 0x7A := by
    simp only [isWordChar, Char.isAlphanum, Char.isAlpha, Char.isUpper, Char.isLower,
      Char.isDigit, Bool.or_eq_true, Bool.and_eq_true, decide_eq_true_eq, beq_iff_eq,
      ge_iff_le, UInt32.le_iff_toNat_le] at hc
    change (((0x41 ≤ c.toNat ∧ c.toNat ≤ 0x5A) ∨ (0x61 ≤ c.toNat ∧ c.toNat ≤ 0x7A)) ∨
      (0x30 ≤ c.toNat ∧ c.toNat ≤ 0x39)) ∨ c = '_' at hc
    rcases hc with hc | rfl
    · omega
    · decide
  simp only [isBlank, Bool.or_eq_false_iff, Bool.and_eq_false_iff, decide_eq_false_iff_not,
    beq_eq_false_iff_ne]
  omega

theorem isBlank_of_mem_space : ∀ c ∈ [' '], isBlank c = true := by
  intro c hc
  obtain rfl := List.mem_singleton.mp hc
  decide

theorem Lexer.Lexeme.boundary_isBlank {token : Token} {slice : List Char}
    (hlexeme : Lexeme token slice) (rest : List Char) : Boundary isBlank (slice ++ rest) := by
  cases hlexeme with
  | @mark c _ hmark =>
      rw [List.singleton_append, boundary_cons]
      unfold mark? at hmark
      split at hmark <;> first | decide | cases hmark
  | word hne hword =>
      cases slice with
      | nil => exact absurd rfl hne
      | cons c word => exact boundary_cons.mpr (not_isBlank_of_isWordChar (hword c (by simp)))
  | @float whole fraction hwhole _ hdigits _ =>
      cases whole with
      | nil => exact absurd rfl hwhole
      | cons c whole =>
          have hc := isWordChar_of_isDigit (hdigits c (by simp))
          exact boundary_cons.mpr (not_isBlank_of_isWordChar hc)
  | string hquote _ =>
      apply boundary_cons.mpr
      rcases hquote with rfl | rfl <;> decide
  | matching => exact boundary_cons.mpr (by decide)
  | substitution => exact boundary_cons.mpr (by decide)

namespace Cursor

section

variable {c : Char} (hc : isBlank c = false) {text slice rest : List Char} (place : Position)
  {afterSigil : Bool}
include hc

theorem next_of_scan_found {token : Token}
    (hscan : scan afterSigil (c :: text) = .found token slice rest) :
    (⟨c :: text, place, afterSigil⟩ : Cursor).next =
      (.ok ⟨token, place⟩, ⟨rest, place.afterAll slice, token.isSigil⟩) := by
  simp [next, dropBlanks, hc, hscan]

theorem next_of_scan_fault {fault : LexFault} {before : List Char}
    (hscan : scan afterSigil (c :: text) = .fault fault before slice rest) :
    (⟨c :: text, place, afterSigil⟩ : Cursor).next =
      (.error ⟨fault, place.afterAll before⟩, ⟨rest, place.afterAll slice, afterSigil⟩) := by
  simp [next, dropBlanks, hc, hscan]

end

theorem next_of_found {afterSigil : Bool} {token : Token} {blanks slice rest : List Char}
    (place : Position) (hblanks : ∀ c ∈ blanks, isBlank c = true)
    (hfound : Found afterSigil token slice rest) :
    (⟨blanks ++ (slice ++ rest), place, afterSigil⟩ : Cursor).next =
      (.ok ⟨token, place.afterAll blanks⟩,
        ⟨rest, (place.afterAll blanks).afterAll slice, token.isSigil⟩) := by
  have hboundary := hfound.lexeme.boundary_isBlank rest
  have htake := takeWhile_of_boundary hblanks hboundary
  have hdrop := dropWhile_of_boundary hblanks hboundary
  simp only [next, dropBlanks, htake, hdrop, scan_of_found hfound]

end Cursor

/-! ## Reading tokens -/

/-- From a text to a rest of it the lexer reads these tokens, wherever the text stands. -/
def Lexes (afterSigil : Bool) (text : List Char) (tokens : List Token) (sigil : Bool)
    (rest : List Char) : Prop :=
  ∀ place, ∃ spanned last, spanned.map Spanned.token = tokens ∧
    Cursor.Reads ⟨text, place, afterSigil⟩ spanned ⟨rest, last, sigil⟩

theorem lexes_token {afterSigil : Bool} {token : Token} {blanks slice rest : List Char}
    (hblanks : ∀ c ∈ blanks, isBlank c = true) (hfound : Found afterSigil token slice rest) :
    Lexes afterSigil (blanks ++ (slice ++ rest)) [token] token.isSigil rest := by
  intro place
  have hnext := Cursor.next_of_found place hblanks hfound
  exact ⟨[⟨token, _⟩], _, rfl, .token hnext hfound.lexeme.ne_eof (.done _)⟩

theorem Lexes.append {first second third : Bool} {text middle rest : List Char}
    {tokens more : List Token} (hfirst : Lexes first text tokens second middle)
    (hsecond : Lexes second middle more third rest) :
    Lexes first text (tokens ++ more) third rest := by
  intro place
  obtain ⟨front, middlePlace, rfl, hfront⟩ := hfirst place
  obtain ⟨back, last, rfl, hback⟩ := hsecond middlePlace
  exact ⟨front ++ back, last, List.map_append, hfront.append hback⟩

theorem Cursor.Reads.lexes {cursor last : Cursor} {tokens : List Spanned}
    (hreads : Reads cursor tokens last) :
    Lexes cursor.afterSigil cursor.rest (tokens.map Spanned.token) last.afterSigil last.rest := by
  induction hreads with
  | done cursor => exact fun place => ⟨[], place, rfl, .done _⟩
  | token hnext htoken _ ih =>
      obtain ⟨blanks, slice, hstep⟩ := step_of_next hnext htoken
      have hfirst := lexes_token hstep.blank hstep.found
      rw [hstep.rest, ← hstep.afterSigil] at hfirst
      exact hfirst.append ih

/-! ## Spellings -/

/-- The text spells these tokens before any text that does not start with a character of the
class. -/
def Spells (p : Char → Bool) (text : List Char) (tokens : List Token) : Prop :=
  ∀ blanks rest, (∀ c ∈ blanks, isBlank c = true) → Boundary p rest →
    Lexes false (blanks ++ (text ++ rest)) tokens false rest

/-- Behind a word these may change how it is read: more of it, or the slash of a pattern. -/
def extendsName (c : Char) : Bool := isWordChar c || c == '/'

/-- Behind digits, a point may also start a fraction. -/
def extendsWord (c : Char) : Bool := extendsName c || c == '.'

theorem Lexer.Boundary.mono {p q : Char → Bool} {rest : List Char} (hrest : Boundary q rest)
    (hpq : ∀ c, p c = true → q c = true) : Boundary p rest := by
  intro c hc
  have hq := hrest c hc
  cases hp : p c with
  | false => rfl
  | true =>
      rw [hpq c hp] at hq
      cases hq

theorem Lexer.Boundary.append {p : Char → Bool} {text rest : List Char} (htext : Boundary p text)
    (hrest : Boundary p rest) : Boundary p (text ++ rest) := by
  cases text with
  | nil => exact hrest
  | cons c text => exact boundary_cons.mpr (boundary_cons.mp htext)

theorem Spells.mono {p q : Char → Bool} {text : List Char} {tokens : List Token}
    (hspells : Spells p text tokens) (hpq : ∀ c, p c = true → q c = true) :
    Spells q text tokens :=
  fun blanks rest hblanks hrest => hspells blanks rest hblanks (hrest.mono hpq)

theorem Spells.append {p : Char → Bool} {text more : List Char} {tokens others : List Token}
    (hfirst : Spells p text tokens) (hmore : Spells p more others) (hboundary : Boundary p more) :
    Spells p (text ++ more) (tokens ++ others) := by
  intro blanks rest hblanks hrest
  have hfront := hfirst blanks (more ++ rest) hblanks (hboundary.append hrest)
  have hback := hmore [] rest (by simp) hrest
  rw [List.append_assoc]
  exact hfront.append hback

theorem Spells.blank {p : Char → Bool} {text : List Char} {tokens : List Token}
    (hspells : Spells p text tokens) : Spells p (' ' :: text) tokens := by
  intro blanks rest hblanks hrest
  have hall : ∀ c ∈ blanks ++ [' '], isBlank c = true :=
    List.forall_mem_append.mpr ⟨hblanks, isBlank_of_mem_space⟩
  have hlexes := hspells (blanks ++ [' ']) rest hall hrest
  rwa [List.append_assoc] at hlexes

theorem spells_token {p : Char → Bool} {token : Token} {slice : List Char}
    (hfound : ∀ rest, Boundary p rest → Found false token slice rest)
    (hsigil : token.isSigil = false) : Spells p slice [token] := by
  intro blanks rest hblanks hrest
  have hlexes := lexes_token hblanks (hfound rest hrest)
  rwa [hsigil] at hlexes

theorem spells_mark {p : Char → Bool} {c : Char} {token : Token} (hmark : mark? c = some token)
    (hsigil : token.isSigil = false) : Spells p [c] [token] :=
  spells_token (fun _ _ => found_of_mark false hmark) hsigil

theorem Spells.mark {p : Char → Bool} {c : Char} {token : Token} {text : List Char}
    {tokens : List Token} (hspells : Spells p text tokens) (hmark : mark? c = some token)
    (hsigil : token.isSigil = false) : Spells p (c :: text) (token :: tokens) := by
  intro blanks rest hblanks hrest
  have hfirst : Found false token [c] (text ++ rest) := found_of_mark false hmark
  have hfront := lexes_token hblanks hfirst
  rw [hsigil] at hfront
  have hback := hspells [] rest (by simp) hrest
  exact hfront.append hback

theorem found_word {afterSigil : Bool} {word rest : List Char} (hne : word ≠ [])
    (hword : ∀ c ∈ word, isWordChar c = true) (hrest : Boundary extendsName rest)
    (hpoint : afterSigil = false → Boundary (· == '.') rest) :
    Found afterSigil (.word (String.ofList word)) word rest := by
  refine ⟨.word hne hword, hrest.mono ?_, fun _ => hrest.mono ?_, ?_⟩
  · intro c hc
    simp [extendsName, hc]
  · intro c hc
    simp [extendsName, hc]
  · intro hsigil _ hfraction
    cases rest with
    | nil => exact hfraction
    | cons c rest =>
        have hc := boundary_cons.mp (hpoint hsigil)
        unfold StartsFraction at hfraction
        split at hfraction
        next heq =>
          cases heq
          exact absurd hc (by decide)
        next => exact hfraction

theorem spells_word {word : List Char} (hne : word ≠ [])
    (hword : ∀ c ∈ word, isWordChar c = true) :
    Spells extendsWord word [.word (String.ofList word)] := by
  refine spells_token (fun rest hrest => found_word hne hword (hrest.mono ?_) ?_) rfl
  · intro c hc
    simp [extendsWord, hc]
  · intro _
    refine hrest.mono ?_
    intro c hc
    simp [extendsWord, hc]

/-- Behind a sigil a word is a name, even one of digits before a point. -/
theorem spells_sigil {c : Char} {sigil : Token} {gap word : List Char}
    (hmark : mark? c = some sigil) (hsigil : sigil.isSigil = true)
    (hgap : ∀ d ∈ gap, isBlank d = true) (hne : word ≠ [])
    (hword : ∀ d ∈ word, isWordChar d = true) :
    Spells extendsName (c :: (gap ++ word)) [sigil, .word (String.ofList word)] := by
  intro blanks rest hblanks hrest
  have hfirst : Found false sigil [c] (gap ++ (word ++ rest)) := found_of_mark false hmark
  have hsecond : Found true (.word (String.ofList word)) word rest :=
    found_word hne hword hrest (by simp)
  have hfront := lexes_token hblanks hfirst
  rw [hsigil] at hfront
  have hlexes := hfront.append (lexes_token hgap hsecond)
  simpa [Token.isSigil] using hlexes

theorem spells_string {p : Char → Bool} {quote : Char} {body value : List Char}
    (hquote : quote = '"' ∨ quote = '\'') (hbody : QuotedBody quote body value) :
    Spells p (quote :: (body ++ [quote])) [.string (String.ofList value)] :=
  spells_token (fun _ _ => ⟨.string hquote hbody, trivial, trivial⟩) rfl

theorem isWordChar_of_isFlag {c : Char} (hc : isFlag c = true) : isWordChar c = true := by
  simp [isWordChar, Char.isAlphanum, show c.isAlpha = true from hc]

theorem spells_matching {find flags : List Char} (hne : find ≠ []) (hfind : Section find)
    (hflags : ∀ c ∈ flags, isFlag c = true) :
    Spells isWordChar ('m' :: '/' :: (find ++ '/' :: flags))
      [.matching (String.ofList find) (String.ofList flags)] :=
  spells_token (fun _ hrest => ⟨.matching hne hfind hflags,
    hrest.mono fun _ => isWordChar_of_isFlag, trivial⟩) rfl

theorem spells_substitution {find replace flags : List Char} (hne : find ≠ [])
    (hfind : Section find) (hreplace : Section replace)
    (hflags : ∀ c ∈ flags, isFlag c = true) :
    Spells isWordChar ('s' :: '/' :: (find ++ '/' :: (replace ++ '/' :: flags)))
      [.substitution (String.ofList find) (String.ofList replace) (String.ofList flags)] :=
  spells_token (fun _ hrest => ⟨.substitution hne hfind hreplace hflags,
    hrest.mono fun _ => isWordChar_of_isFlag, trivial⟩) rfl

theorem Spells.lexing {p : Char → Bool} {text : List Char} {tokens : List Token}
    (hspells : Spells p text tokens) :
    ∃ place, (Lexing.ofText (String.ofList text)).ending = .ok place ∧
      (Lexing.ofText (String.ofList text)).tokens.map Spanned.token = tokens := by
  obtain ⟨spanned, last, hmap, hreads⟩ := hspells [] [] (by simp) (boundary_nil p) .start
  have hlexing := Cursor.lexing_of_reads hreads rfl
  simp only [List.nil_append, List.append_nil] at hlexing
  refine ⟨last, ?_, ?_⟩
  · simp [Lexing.ofText, Cursor.ofText, hlexing]
  · simp [Lexing.ofText, Cursor.ofText, hlexing, hmap]

end FilterChain
