import FilterChain.Token
import FilterChain.Text
import FilterChain.Decimal.Reading

/-!
# Lexing

`scan` reads one token at the front of a text that starts without blanks.  It
splits the text into the token's slice and the rest, or names a fault and the text
that was consumed before the lexer stopped.  A cursor adds the place in the source,
and `Cursor.lexing` reads a whole text up to its end or the first fault.
-/

namespace FilterChain

/-- Why a text is not a sequence of tokens. -/
inductive LexFault
  | unexpectedCharacter (c : Char)
  | invalidEscape (c : Char)
  | danglingEscape
  | missingQuote
  | unterminatedPattern
  | emptyMatch
  | emptySubstitution
deriving DecidableEq, Repr

structure LexError where
  fault : LexFault
  place : Position
deriving DecidableEq, Repr

def LexFault.message : LexFault → String
  | unexpectedCharacter c => "Unexpected character '" ++ String.singleton c ++ "'"
  | invalidEscape c => "Invalid escape sequence '\\" ++ String.singleton c ++ "'"
  | danglingEscape => "Unterminated string"
  | missingQuote => "Unterminated string: missing closing quote"
  | unterminatedPattern => "Unterminated regular expression"
  | emptyMatch => "Empty pattern in match expression"
  | emptySubstitution => "Empty pattern in substitution expression"

def LexError.display (e : LexError) : String :=
  e.fault.message ++ " at line " ++ toString e.place.line ++ ", column " ++ toString e.place.column

namespace Lexer

/-- Letters, digits and the underscore of ASCII. -/
def isWordChar (c : Char) : Bool :=
  c.isAlphanum || c == '_'

/-- What stands at the front of a text: something that takes the text's `slice`, or a
fault behind the text `before`, where lexing stopped behind the text `consumed`. -/
inductive Scan (α : Type)
  | found (value : α) (slice rest : List Char)
  | fault (fault : LexFault) (before consumed rest : List Char)

namespace Scan

/-- Puts text in front of what was read. -/
def prepend (text : List Char) (f : α → α) : Scan α → Scan α
  | found value slice rest => found (f value) (text ++ slice) rest
  | fault e before consumed rest => fault e (text ++ before) (text ++ consumed) rest

end Scan

/-! ## Quoted strings -/

/-- The character that one letter behind a backslash stands for. -/
def escaped? : Char → Option Char
  | 'n' => some '\n'
  | 't' => some '\t'
  | 'r' => some '\r'
  | '"' => some '"'
  | '\'' => some '\''
  | '\\' => some '\\'
  | _ => none

/-- The characters of a literal behind its opening quote. -/
def scanQuoted (quote : Char) : List Char → Scan (List Char)
  | [] => .fault .missingQuote [] [] []
  | c :: text =>
    if c = quote then .found [] [c] text
    else if c = '\\' then
      match text with
      | [] => .fault .danglingEscape [] [c] []
      | e :: more =>
        match escaped? e with
        | none => .fault (.invalidEscape e) [] [c] (e :: more)
        | some plain => (scanQuoted quote more).prepend [c, e] (plain :: ·)
    else (scanQuoted quote text).prepend [c] (c :: ·)

/-- A literal with its quotes.  A literal that the text does not close is a fault at its
opening quote, a wrong escape one at its backslash. -/
def scanString (quote : Char) (text : List Char) : Scan Token :=
  match scanQuoted quote text with
  | .found chars slice rest => .found (.string (String.ofList chars)) (quote :: slice) rest
  | .fault (.invalidEscape c) before consumed rest =>
    .fault (.invalidEscape c) (quote :: before) (quote :: consumed) rest
  | .fault e _ consumed rest => .fault e [] (quote :: consumed) rest

/-! ## Matches and substitutions -/

/-- One section of a match or substitution as written, the text behind its closing slash,
or nothing where no slash closes it.  A backslash binds the character behind it. -/
def takeSection? : List Char → Option (List Char × List Char)
  | [] => none
  | '/' :: text => some ([], text)
  | '\\' :: c :: text => (takeSection? text).map fun (part, rest) => ('\\' :: c :: part, rest)
  | c :: text => (takeSection? text).map fun (part, rest) => (c :: part, rest)

def isFlag (c : Char) : Bool := c.isAlpha

/-- The text behind `m/`. -/
def scanMatch (text : List Char) : Scan Token :=
  match takeSection? text with
  | none => .fault .unterminatedPattern [] ('m' :: '/' :: text) []
  | some ([], rest) => .fault .emptyMatch [] ['m', '/', '/'] rest
  | some (find, rest) =>
    let flags := rest.takeWhile isFlag
    .found (.matching (String.ofList find) (String.ofList flags))
      ('m' :: '/' :: (find ++ '/' :: flags)) (rest.dropWhile isFlag)

/-- The text behind `s/`. -/
def scanSubstitution (text : List Char) : Scan Token :=
  match takeSection? text with
  | none => .fault .unterminatedPattern [] ('s' :: '/' :: text) []
  | some ([], rest) => .fault .emptySubstitution [] ['s', '/', '/'] rest
  | some (find, afterFind) =>
    match takeSection? afterFind with
    | none => .fault .unterminatedPattern [] ('s' :: '/' :: text) []
    | some (replace, rest) =>
      let flags := rest.takeWhile isFlag
      .found (.substitution (String.ofList find) (String.ofList replace) (String.ofList flags))
        ('s' :: '/' :: (find ++ '/' :: (replace ++ '/' :: flags))) (rest.dropWhile isFlag)

/-! ## Words and numbers -/

def scanWord (text : List Char) : Scan Token :=
  let word := text.takeWhile isWordChar
  .found (.word (String.ofList word)) word (text.dropWhile isWordChar)

/-- A word that starts with a digit.  Digits, a point and digits are a float, unless the
word names a field. -/
def scanNumber (afterSigil : Bool) (text : List Char) : Scan Token :=
  let word := text.takeWhile isWordChar
  match text.dropWhile isWordChar with
  | '.' :: c :: more =>
    if !afterSigil && Decimal.isDigits word && c.isDigit then
      let fraction := (c :: more).takeWhile Char.isDigit
      .found (.float (Decimal.ofPoint word fraction)) (word ++ '.' :: fraction)
        ((c :: more).dropWhile Char.isDigit)
    else scanWord text
  | _ => scanWord text

/-! ## Tokens -/

/-- The token that a single character is. -/
def mark? : Char → Option Token
  | '|' => some .pipe
  | ',' => some .comma
  | '<' => some .less
  | '>' => some .greater
  | '.' => some .dot
  | '[' => some .openBracket
  | ']' => some .closeBracket
  | '(' => some .openParen
  | ')' => some .closeParen
  | '-' => some .minus
  | '+' => some .plus
  | _ => none

/-- The token at the front of a text without leading blanks. -/
def scan (afterSigil : Bool) : List Char → Scan Token
  | [] => .found .eof [] []
  | 'm' :: '/' :: text => scanMatch text
  | 's' :: '/' :: text => scanSubstitution text
  | c :: text =>
    match mark? c with
    | some token => .found token [c] text
    | none =>
      if c = '"' ∨ c = '\'' then scanString c text
      else if c.isDigit then scanNumber afterSigil (c :: text)
      else if isWordChar c then scanWord (c :: text)
      else .fault (.unexpectedCharacter c) [] [] (c :: text)

/-! ## What was read and the rest make up the text -/

/-- The text splits into what was read or consumed and the rest. -/
def Scan.Tiles (text : List Char) : Scan α → Prop
  | .found _ slice rest => slice ++ rest = text
  | .fault _ _ consumed rest => consumed ++ rest = text

theorem Scan.Tiles.prepend {text : List Char} {scan : Scan α} (h : scan.Tiles text)
    (front : List Char) (f : α → α) : (scan.prepend front f).Tiles (front ++ text) := by
  cases scan <;> simp_all [Tiles, Scan.prepend]

theorem scanQuoted_tiles (quote : Char) (text : List Char) :
    (scanQuoted quote text).Tiles text := by
  fun_induction scanQuoted quote text with
  | case1 => rfl
  | case2 => rfl
  | case3 => rfl
  | case4 => rfl
  | case5 => exact Scan.Tiles.prepend (by assumption) ['\\', _] _
  | case6 c text _ _ ih => exact ih.prepend [c] _

theorem scanString_tiles (quote : Char) (text : List Char) :
    (scanString quote text).Tiles (quote :: text) := by
  have h := scanQuoted_tiles quote text
  unfold scanString
  split <;> simp_all [Scan.Tiles]

theorem takeSection?_eq_some {text part rest : List Char}
    (h : takeSection? text = some (part, rest)) : part ++ '/' :: rest = text := by
  fun_induction takeSection? text generalizing part with
  | case1 => simp at h
  | case2 => simp_all
  | case3 c text ih =>
    obtain ⟨⟨front, _⟩, hfront, heq⟩ := Option.map_eq_some_iff.1 h
    simp only [Prod.mk.injEq] at heq
    obtain ⟨rfl, rfl⟩ := heq
    simp [ih hfront]
  | case4 c text _ _ ih =>
    obtain ⟨⟨front, _⟩, hfront, heq⟩ := Option.map_eq_some_iff.1 h
    simp only [Prod.mk.injEq] at heq
    obtain ⟨rfl, rfl⟩ := heq
    simp [ih hfront]

theorem scanMatch_tiles (text : List Char) : (scanMatch text).Tiles ('m' :: '/' :: text) := by
  unfold scanMatch
  split
  · simp [Scan.Tiles]
  · next h => simp [Scan.Tiles, ← takeSection?_eq_some h]
  · next h => simp [Scan.Tiles, ← takeSection?_eq_some h, List.takeWhile_append_dropWhile]

theorem scanSubstitution_tiles (text : List Char) :
    (scanSubstitution text).Tiles ('s' :: '/' :: text) := by
  unfold scanSubstitution
  split
  · simp [Scan.Tiles]
  · next h => simp [Scan.Tiles, ← takeSection?_eq_some h]
  · next hfind =>
    split
    · simp [Scan.Tiles]
    · next hreplace =>
      simp [Scan.Tiles, ← takeSection?_eq_some hfind, ← takeSection?_eq_some hreplace,
        List.takeWhile_append_dropWhile]

theorem scanWord_tiles (text : List Char) : (scanWord text).Tiles text :=
  List.takeWhile_append_dropWhile

theorem scanNumber_tiles (afterSigil : Bool) (text : List Char) :
    (scanNumber afterSigil text).Tiles text := by
  unfold scanNumber
  dsimp only
  split
  · next c more h =>
    split
    · have hword : text.takeWhile isWordChar ++ '.' :: c :: more = text := by
        rw [← h, List.takeWhile_append_dropWhile]
      simp only [Scan.Tiles, List.append_assoc, List.cons_append,
        List.takeWhile_append_dropWhile, hword]
    · exact scanWord_tiles text
  · exact scanWord_tiles text

theorem scan_tiles (afterSigil : Bool) (text : List Char) : (scan afterSigil text).Tiles text := by
  unfold scan
  split
  · rfl
  · exact scanMatch_tiles _
  · exact scanSubstitution_tiles _
  · split
    · rfl
    · split
      · exact scanString_tiles _ _
      · split
        · exact scanNumber_tiles _ _
        · split
          · exact scanWord_tiles _
          · rfl

/-! ## A token takes some text -/

theorem scanString_slice {quote : Char} {text slice rest : List Char} {token : Token}
    (h : scanString quote text = .found token slice rest) : slice ≠ [] := by
  unfold scanString at h
  split at h <;> simp_all
  grind

theorem scanMatch_slice {text slice rest : List Char} {token : Token}
    (h : scanMatch text = .found token slice rest) : slice ≠ [] := by
  unfold scanMatch at h
  split at h <;> simp at h
  grind

theorem scanSubstitution_slice {text slice rest : List Char} {token : Token}
    (h : scanSubstitution text = .found token slice rest) : slice ≠ [] := by
  unfold scanSubstitution at h
  split at h <;> try simp at h
  split at h <;> simp at h
  grind

theorem scanWord_slice {c : Char} {text slice rest : List Char} {token : Token}
    (hc : isWordChar c = true) (h : scanWord (c :: text) = .found token slice rest) :
    slice ≠ [] := by
  simp only [scanWord, List.takeWhile_cons, hc, if_true, Scan.found.injEq] at h
  simp [← h.2.1]

theorem isWordChar_of_isDigit {c : Char} (h : c.isDigit = true) : isWordChar c = true := by
  simp [isWordChar, Char.isAlphanum, h]

theorem scanNumber_slice {afterSigil : Bool} {c : Char} {text slice rest : List Char}
    {token : Token} (hc : c.isDigit = true)
    (h : scanNumber afterSigil (c :: text) = .found token slice rest) : slice ≠ [] := by
  unfold scanNumber at h
  dsimp only at h
  split at h
  · split at h
    · simp only [Scan.found.injEq] at h
      simp [← h.2.1]
    · exact scanWord_slice (isWordChar_of_isDigit hc) h
  · exact scanWord_slice (isWordChar_of_isDigit hc) h

theorem scan_slice {afterSigil : Bool} {text slice rest : List Char} {token : Token}
    (h : scan afterSigil text = .found token slice rest) (htoken : token ≠ .eof) :
    slice ≠ [] := by
  unfold scan at h
  split at h
  · simp only [Scan.found.injEq] at h
    exact absurd h.1.symm htoken
  · exact scanMatch_slice h
  · exact scanSubstitution_slice h
  · split at h
    · simp only [Scan.found.injEq] at h
      simp [← h.2.1]
    · split at h
      · exact scanString_slice h
      · split at h
        · next hc => exact scanNumber_slice hc h
        · split at h
          · next hc => exact scanWord_slice hc h
          · simp at h

end Lexer

/-- A lexer's standing: the text ahead, its place, and whether the last token was a sigil. -/
structure Cursor where
  rest : List Char
  place : Position
  afterSigil : Bool

/-- A lexed text: its tokens up to the end of the text, which has a place, or up to a fault. -/
structure Lexing where
  tokens : List Spanned
  ending : Except LexError Position

namespace Cursor

def ofText (text : String) : Cursor := ⟨text.toList, .start, false⟩

/-- Reads one token.  The end of the text is a token that can be read again and again.
A fault leaves the memory of the last token as it was. -/
def next (cursor : Cursor) : Except LexError Spanned × Cursor :=
  let blanks := cursor.rest.takeWhile isBlank
  let place := cursor.place.afterAll blanks
  match Lexer.scan cursor.afterSigil (dropBlanks cursor.rest) with
  | .found token slice rest =>
    (.ok ⟨token, place⟩, ⟨rest, place.afterAll slice, token.isSigil⟩)
  | .fault fault before consumed rest =>
    (.error ⟨fault, place.afterAll before⟩, ⟨rest, place.afterAll consumed, cursor.afterSigil⟩)

theorem next_rest_length_lt {cursor after : Cursor} {spanned : Spanned}
    (h : cursor.next = (.ok spanned, after)) (htoken : spanned.token ≠ .eof) :
    after.rest.length < cursor.rest.length := by
  have htiles := Lexer.scan_tiles cursor.afterSigil (dropBlanks cursor.rest)
  have hdrop : (dropBlanks cursor.rest).length ≤ cursor.rest.length :=
    (List.dropWhile_sublist _).length_le
  unfold next at h
  dsimp only at h
  split at h
  · next token slice rest hscan =>
    simp only [Prod.mk.injEq, Except.ok.injEq] at h
    obtain ⟨rfl, rfl⟩ := h
    have hslice := List.length_pos_iff.2 (Lexer.scan_slice hscan htoken)
    rw [hscan] at htiles
    have hlength := congrArg List.length htiles
    simp only [List.length_append] at hlength
    show rest.length < cursor.rest.length
    omega
  · simp at h

/-- The tokens from a cursor on, without the end, and how they end. -/
def lexing (cursor : Cursor) : Lexing :=
  match _read : cursor.next with
  | (.error e, _) => ⟨[], .error e⟩
  | (.ok spanned, after) =>
    if _end : spanned.token = .eof then ⟨[], .ok spanned.place⟩
    else
      let more := after.lexing
      ⟨spanned :: more.tokens, more.ending⟩
termination_by cursor.rest.length
decreasing_by exact next_rest_length_lt _read _end

end Cursor

def Lexing.ofText (text : String) : Lexing :=
  (Cursor.ofText text).lexing

end FilterChain
