import Mathlib
import FilterChain.Token.Lexer

/-!
# Lexemes

A lexeme is the slice of a text that one token is written as.  Most lexemes end
only where the text behind them cannot extend them, and a few slices are read in
two ways depending on what stands around them.  `scan_eq_found_iff` says that
these three conditions together are exactly what `scan` decides.
-/

namespace FilterChain.Lexer

/-! ## Runs of characters -/

/-- A text that does not go on with a character of the class. -/
def Boundary (p : Char → Bool) (rest : List Char) : Prop :=
  ∀ c, rest.head? = some c → p c = false

@[simp] theorem boundary_nil (p : Char → Bool) : Boundary p [] := by
  intro c hc
  simp at hc

@[simp] theorem boundary_cons {p : Char → Bool} {c : Char} {rest : List Char} :
    Boundary p (c :: rest) ↔ p c = false := by
  simp [Boundary]

theorem boundary_dropWhile (p : Char → Bool) (text : List Char) :
    Boundary p (text.dropWhile p) := by
  intro c hc
  have hnot := List.head?_dropWhile_not p text
  rw [hc] at hnot
  simpa using hnot

theorem takeWhile_of_boundary {p : Char → Bool} {run rest : List Char}
    (hrun : ∀ c ∈ run, p c = true) (hrest : Boundary p rest) :
    (run ++ rest).takeWhile p = run := by
  rw [List.takeWhile_append_of_pos hrun]
  cases rest with
  | nil => simp
  | cons c rest => simp [boundary_cons.mp hrest]

theorem dropWhile_of_boundary {p : Char → Bool} {run rest : List Char}
    (hrun : ∀ c ∈ run, p c = true) (hrest : Boundary p rest) :
    (run ++ rest).dropWhile p = rest := by
  rw [List.dropWhile_append_of_pos hrun]
  cases rest with
  | nil => rfl
  | cons c rest => simp [boundary_cons.mp hrest]

theorem of_mem_takeWhile {p : Char → Bool} {text : List Char} {c : Char}
    (hc : c ∈ text.takeWhile p) : p c = true :=
  List.all_eq_true.mp List.all_takeWhile c hc

/-! ## Slices of tokens -/

/-- What stands between the quotes of a literal, and the text that it denotes. -/
inductive QuotedBody (quote : Char) : List Char → List Char → Prop
  | nil : QuotedBody quote [] []
  | plain {c : Char} {body value : List Char} (hquote : c ≠ quote) (hescape : c ≠ '\\')
      (hbody : QuotedBody quote body value) : QuotedBody quote (c :: body) (c :: value)
  | escape {e c : Char} {body value : List Char} (he : escaped? e = some c)
      (hbody : QuotedBody quote body value) : QuotedBody quote ('\\' :: e :: body) (c :: value)

/-- A section of a match or substitution: a backslash binds the character behind it,
and no other slash occurs. -/
inductive Section : List Char → Prop
  | nil : Section []
  | plain {c : Char} {part : List Char} (hslash : c ≠ '/') (hescape : c ≠ '\\')
      (hpart : Section part) : Section (c :: part)
  | pair {c : Char} {part : List Char} (hpart : Section part) : Section ('\\' :: c :: part)

/-- The slices that a token can be written as. -/
inductive Lexeme : Token → List Char → Prop
  | mark {c : Char} {token : Token} (hmark : mark? c = some token) : Lexeme token [c]
  | word {word : List Char} (hne : word ≠ []) (hword : ∀ c ∈ word, isWordChar c = true) :
      Lexeme (.word (String.ofList word)) word
  | float {whole fraction : List Char} (hwhole : whole ≠ []) (hfraction : fraction ≠ [])
      (hwholeDigits : ∀ c ∈ whole, c.isDigit = true)
      (hfractionDigits : ∀ c ∈ fraction, c.isDigit = true) :
      Lexeme (.float (Decimal.ofPoint whole fraction)) (whole ++ '.' :: fraction)
  | string {quote : Char} {body value : List Char} (hquote : quote = '"' ∨ quote = '\'')
      (hbody : QuotedBody quote body value) :
      Lexeme (.string (String.ofList value)) (quote :: (body ++ [quote]))
  | matching {find flags : List Char} (hne : find ≠ []) (hfind : Section find)
      (hflags : ∀ c ∈ flags, isFlag c = true) :
      Lexeme (.matching (String.ofList find) (String.ofList flags))
        ('m' :: '/' :: (find ++ '/' :: flags))
  | substitution {find replace flags : List Char} (hne : find ≠ []) (hfind : Section find)
      (hreplace : Section replace) (hflags : ∀ c ∈ flags, isFlag c = true) :
      Lexeme (.substitution (String.ofList find) (String.ofList replace) (String.ofList flags))
        ('s' :: '/' :: (find ++ '/' :: (replace ++ '/' :: flags)))

/-- The text behind a token does not extend it. -/
def Stops : Token → List Char → Prop
  | .word _, rest => Boundary isWordChar rest
  | .float _, rest => Boundary Char.isDigit rest
  | .matching _ _, rest => Boundary isFlag rest
  | .substitution _ _ _, rest => Boundary isFlag rest
  | _, _ => True

def StartsFraction : List Char → Prop
  | '.' :: c :: _ => c.isDigit = true
  | _ => False

/-- The text around a token leaves no second reading: `m` and `s` before a slash open a
pattern, and digits before a fraction are a float unless a sigil makes them a name. -/
def Unambiguous (afterSigil : Bool) : Token → List Char → Prop
  | .word word, rest =>
      (word = "m" ∨ word = "s" → Boundary (· == '/') rest) ∧
        (afterSigil = false → Decimal.isDigits word.toList = true → ¬ StartsFraction rest)
  | .float _, _ => afterSigil = false
  | _, _ => True

/-! ## What one scan finds -/

section

variable {α : Type} {front : List Char} {f : α → α} {scan : Scan α}

theorem Scan.prepend_prepend (back : List Char) (g : α → α) :
    (scan.prepend back g).prepend front f = scan.prepend (front ++ back) (f ∘ g) := by
  cases scan <;> simp [Scan.prepend]

theorem Scan.exists_of_prepend_eq_found {value : α} {slice rest : List Char}
    (hfound : scan.prepend front f = .found value slice rest) :
    ∃ tail back, scan = .found tail back rest ∧ value = f tail ∧ slice = front ++ back := by
  cases scan with
  | found tail back _ =>
      cases hfound
      exact ⟨tail, back, rfl, rfl, rfl⟩
  | fault => cases hfound

end

theorem quotedBody_of_scanQuoted {quote : Char} {text value slice rest : List Char}
    (hscan : scanQuoted quote text = .found value slice rest) :
    ∃ body, slice = body ++ [quote] ∧ QuotedBody quote body value := by
  fun_induction scanQuoted quote text generalizing value slice with
  | case1 => cases hscan
  | case2 text =>
      cases hscan
      exact ⟨[], rfl, .nil⟩
  | case3 => cases hscan
  | case4 => cases hscan
  | case5 e more plain hescaped _ ih =>
      obtain ⟨tail, tailSlice, hmore, rfl, rfl⟩ := Scan.exists_of_prepend_eq_found hscan
      obtain ⟨body, rfl, hbody⟩ := ih hmore
      exact ⟨'\\' :: e :: body, rfl, .escape hescaped hbody⟩
  | case6 c text hquote hescape ih =>
      obtain ⟨tail, tailSlice, htext, rfl, rfl⟩ := Scan.exists_of_prepend_eq_found hscan
      obtain ⟨body, rfl, hbody⟩ := ih htext
      exact ⟨c :: body, rfl, .plain hquote hescape hbody⟩

theorem scanQuoted_quote (quote : Char) (text : List Char) :
    scanQuoted quote (quote :: text) = .found [] [quote] text := by
  cases text <;> simp [scanQuoted]

theorem scanQuoted_plain {quote c : Char} (hquote : c ≠ quote) (hescape : c ≠ '\\')
    (text : List Char) :
    scanQuoted quote (c :: text) = (scanQuoted quote text).prepend [c] (c :: ·) := by
  cases text <;> simp [scanQuoted, hquote, hescape]

theorem scanQuoted_escape {quote e c : Char} (hquote : quote ≠ '\\') (he : escaped? e = some c)
    (text : List Char) :
    scanQuoted quote ('\\' :: e :: text) =
      (scanQuoted quote text).prepend ['\\', e] (c :: ·) := by
  simp [scanQuoted, Ne.symm hquote, he]

/-- What is in order is read, whatever comes behind it. -/
theorem scanQuoted_append {quote : Char} {body value : List Char} (text : List Char)
    (hquote : quote ≠ '\\') (hbody : QuotedBody quote body value) :
    scanQuoted quote (body ++ text) = (scanQuoted quote text).prepend body (value ++ ·) := by
  induction hbody with
  | nil => cases hscan : scanQuoted quote text <;> simp [hscan, Scan.prepend]
  | plain hne hescape _ ih =>
      rw [List.cons_append, scanQuoted_plain hne hescape, ih, Scan.prepend_prepend]
      rfl
  | escape he _ ih =>
      rw [List.cons_append, List.cons_append, scanQuoted_escape hquote he, ih,
        Scan.prepend_prepend]
      rfl

theorem scanQuoted_of_quotedBody {quote : Char} {body value : List Char} (rest : List Char)
    (hquote : quote ≠ '\\') (hbody : QuotedBody quote body value) :
    scanQuoted quote (body ++ quote :: rest) = .found value (body ++ [quote]) rest := by
  rw [scanQuoted_append _ hquote hbody, scanQuoted_quote, Scan.prepend, List.append_nil]

theorem section_of_takeSection? {text part rest : List Char}
    (htake : takeSection? text = some (part, rest)) : Section part := by
  fun_induction takeSection? text generalizing part with
  | case1 => cases htake
  | case2 =>
      cases htake
      exact .nil
  | case3 c text ih =>
      obtain ⟨⟨tail, _⟩, htail, heq⟩ := Option.map_eq_some_iff.mp htake
      cases heq
      exact .pair (ih htail)
  | case4 c text hslash hescape ih =>
      obtain ⟨⟨tail, tailRest⟩, htail, heq⟩ := Option.map_eq_some_iff.mp htake
      cases heq
      -- A backslash that binds nothing ends the text, and then no slash closes the section.
      have hne : c ≠ '\\' := by
        intro hc
        cases text with
        | nil => simp [takeSection?] at htail
        | cons d more => exact hescape d more hc rfl
      exact .plain hslash hne (ih htail)

theorem takeSection?_of_section {part : List Char} (rest : List Char) (hpart : Section part) :
    takeSection? (part ++ '/' :: rest) = some (part, rest) := by
  induction hpart with
  | nil => simp [takeSection?]
  | plain _ hescape _ ih => simp [takeSection?, hescape, ih]
  | pair _ ih => simp [takeSection?, ih]

/-- A token as `scan` finds it: a lexeme that ends there and can be read in one way only. -/
structure Found (afterSigil : Bool) (token : Token) (slice rest : List Char) : Prop where
  lexeme : Lexeme token slice
  stops : Stops token rest
  unambiguous : Unambiguous afterSigil token rest

theorem found_of_scanString {quote : Char} {text slice rest : List Char} {token : Token}
    (afterSigil : Bool) (hquote : quote = '"' ∨ quote = '\'')
    (hscan : scanString quote text = .found token slice rest) :
    Found afterSigil token slice rest := by
  unfold scanString at hscan
  cases hbody : scanQuoted quote text with
  | found value bodySlice bodyRest =>
      rw [hbody] at hscan
      cases hscan
      obtain ⟨body, rfl, hquoted⟩ := quotedBody_of_scanQuoted hbody
      exact ⟨.string hquote hquoted, trivial, trivial⟩
  | fault e before consumed after =>
      rw [hbody] at hscan
      cases e <;> cases hscan

theorem found_of_scanMatch {text slice rest : List Char} {token : Token} (afterSigil : Bool)
    (hscan : scanMatch text = .found token slice rest) :
    Found afterSigil token slice rest := by
  unfold scanMatch at hscan
  split at hscan
  next => cases hscan
  next => cases hscan
  next find after hne htake =>
    cases hscan
    exact ⟨.matching hne (section_of_takeSection? htake) (fun c => of_mem_takeWhile),
      boundary_dropWhile isFlag after, trivial⟩

theorem found_of_scanSubstitution {text slice rest : List Char} {token : Token}
    (afterSigil : Bool) (hscan : scanSubstitution text = .found token slice rest) :
    Found afterSigil token slice rest := by
  unfold scanSubstitution at hscan
  split at hscan
  next => cases hscan
  next => cases hscan
  next find afterFind hne hfind =>
    split at hscan
    next => cases hscan
    next replace after hreplace =>
      cases hscan
      exact ⟨.substitution hne (section_of_takeSection? hfind)
        (section_of_takeSection? hreplace) (fun c => of_mem_takeWhile),
        boundary_dropWhile isFlag after, trivial⟩

def NoPattern (text : List Char) : Prop :=
  ∀ c ∈ ['m', 's'], ¬ [c, '/'] <+: text

theorem boundary_slash_of_noPattern {text rest : List Char} {c : Char} (hc : c ∈ ['m', 's'])
    (htext : NoPattern text) (hsplit : c :: rest = text) : Boundary (· == '/') rest := by
  intro d hd
  rcases List.head?_eq_some_iff.mp hd with ⟨more, rfl⟩
  have hne : d ≠ '/' := by
    rintro rfl
    exact htext c hc ⟨more, hsplit⟩
  simpa using hne

theorem found_of_scanWord {afterSigil : Bool} {c : Char} {text slice rest : List Char}
    {token : Token} (hc : isWordChar c = true) (hpattern : NoPattern (c :: text))
    (hfraction : afterSigil = false →
      Decimal.isDigits ((c :: text).takeWhile isWordChar) = true →
        ¬ StartsFraction ((c :: text).dropWhile isWordChar))
    (hscan : scanWord (c :: text) = .found token slice rest) :
    Found afterSigil token slice rest := by
  cases hscan
  have hne : (c :: text).takeWhile isWordChar ≠ [] := by simp [hc]
  refine ⟨.word hne (fun d => of_mem_takeWhile), boundary_dropWhile isWordChar _, ?_, ?_⟩
  · intro hword
    have hsplit := List.takeWhile_append_dropWhile (p := isWordChar) (l := c :: text)
    rcases hword with hword | hword
    · have hm : (c :: text).takeWhile isWordChar = ['m'] := by
        simpa using congrArg String.toList hword
      rw [hm] at hsplit
      exact boundary_slash_of_noPattern (by simp) hpattern hsplit
    · have hs : (c :: text).takeWhile isWordChar = ['s'] := by
        simpa using congrArg String.toList hword
      rw [hs] at hsplit
      exact boundary_slash_of_noPattern (by simp) hpattern hsplit
  · intro hsigil hdigits
    exact hfraction hsigil (by simpa using hdigits)

theorem found_of_scanNumber {afterSigil : Bool} {c : Char} {text slice rest : List Char}
    {token : Token} (hc : c.isDigit = true) (hpattern : NoPattern (c :: text))
    (hscan : scanNumber afterSigil (c :: text) = .found token slice rest) :
    Found afterSigil token slice rest := by
  have hword := isWordChar_of_isDigit hc
  unfold scanNumber at hscan
  dsimp only at hscan
  split at hscan
  next d more hdrop =>
    split at hscan
    next hfloat =>
      simp only [Bool.and_eq_true, Bool.not_eq_true'] at hfloat
      obtain ⟨⟨hsigil, hwhole⟩, hd⟩ := hfloat
      cases hscan
      refine ⟨.float (by simp [hword]) (by simp [hd]) ?_ (fun e => of_mem_takeWhile),
        boundary_dropWhile Char.isDigit _, hsigil⟩
      exact List.all_eq_true.mp hwhole
    next hword' =>
      refine found_of_scanWord hword hpattern ?_ hscan
      intro hsigil hdigits hfraction
      rw [hdrop] at hfraction
      exact hword' (by simp [hsigil, hdigits, show d.isDigit = true from hfraction])
  next hdrop =>
    refine found_of_scanWord hword hpattern ?_ hscan
    intro _ _ hfraction
    cases hrest : (c :: text).dropWhile isWordChar with
    | nil => simp [hrest, StartsFraction] at hfraction
    | cons d more =>
        rw [hrest] at hfraction
        unfold StartsFraction at hfraction
        split at hfraction
        next heq => exact hdrop _ _ (hrest.trans heq)
        next => exact hfraction

theorem found_of_mark {c : Char} {token : Token} {rest : List Char} (afterSigil : Bool)
    (hmark : mark? c = some token) : Found afterSigil token [c] rest := by
  refine ⟨.mark hmark, ?_, ?_⟩
  all_goals
    unfold mark? at hmark
    split at hmark <;> cases hmark <;> trivial

theorem noPattern_of_ne {c : Char} {text : List Char}
    (hm : ∀ more, c = 'm' → text = '/' :: more → False)
    (hs : ∀ more, c = 's' → text = '/' :: more → False) : NoPattern (c :: text) := by
  rintro d hd ⟨more, heq⟩
  cases heq
  simp only [List.mem_cons, List.not_mem_nil, or_false] at hd
  rcases hd with rfl | rfl
  · exact hm _ rfl rfl
  · exact hs _ rfl rfl

theorem found_or_eof_of_scan {afterSigil : Bool} {text slice rest : List Char} {token : Token}
    (hscan : scan afterSigil text = .found token slice rest) :
    (text = [] ∧ token = .eof) ∨ Found afterSigil token slice rest := by
  unfold scan at hscan
  split at hscan
  next =>
    cases hscan
    exact .inl ⟨rfl, rfl⟩
  next => exact .inr (found_of_scanMatch afterSigil hscan)
  next => exact .inr (found_of_scanSubstitution afterSigil hscan)
  next c text hm hs =>
    have hpattern : NoPattern (c :: text) := noPattern_of_ne hm hs
    right
    split at hscan
    next mark hmark =>
      cases hscan
      exact found_of_mark afterSigil hmark
    next =>
      split at hscan
      next hquote => exact found_of_scanString afterSigil hquote hscan
      next =>
        split at hscan
        next hdigit => exact found_of_scanNumber hdigit hpattern hscan
        next hdigit =>
          split at hscan
          next hword =>
            refine found_of_scanWord hword hpattern ?_ hscan
            intro _ hdigits
            simp [Decimal.isDigits, hword, hdigit] at hdigits
          next => cases hscan

theorem Lexeme.ne_eof {token : Token} {slice : List Char} (hlexeme : Lexeme token slice) :
    token ≠ .eof := by
  rintro rfl
  cases hlexeme with
  | mark hmark =>
      unfold mark? at hmark
      split at hmark <;> cases hmark

theorem Lexeme.ne_nil {token : Token} {slice : List Char} (hlexeme : Lexeme token slice) :
    slice ≠ [] := by
  cases hlexeme with
  | word hne _ => exact hne
  | float hwhole _ _ _ => simp
  | mark | string | matching | substitution => simp

theorem found_of_scan {afterSigil : Bool} {text slice rest : List Char} {token : Token}
    (hscan : scan afterSigil text = .found token slice rest) (htoken : token ≠ .eof) :
    Found afterSigil token slice rest := by
  rcases found_or_eof_of_scan hscan with ⟨_, heof⟩ | hfound
  · exact absurd heof htoken
  · exact hfound

theorem eq_nil_of_scan_eof {afterSigil : Bool} {text slice rest : List Char}
    (hscan : scan afterSigil text = .found .eof slice rest) : text = [] := by
  rcases found_or_eof_of_scan hscan with ⟨hnil, _⟩ | hfound
  · exact hnil
  · exact absurd rfl hfound.lexeme.ne_eof

/-! ## What makes a scan find a token -/

theorem scan_of_noPattern (afterSigil : Bool) {c : Char} {text : List Char}
    (hpattern : NoPattern (c :: text)) :
    scan afterSigil (c :: text) =
      match mark? c with
      | some token => .found token [c] text
      | none =>
          if c = '"' ∨ c = '\'' then scanString c text
          else if c.isDigit then scanNumber afterSigil (c :: text)
          else if isWordChar c then scanWord (c :: text)
          else .fault (.unexpectedCharacter c) [] [] (c :: text) := by
  have hm : ∀ more, c = 'm' → text = '/' :: more → False := by
    rintro more rfl rfl
    exact hpattern 'm' (by simp) ⟨more, rfl⟩
  have hs : ∀ more, c = 's' → text = '/' :: more → False := by
    rintro more rfl rfl
    exact hpattern 's' (by simp) ⟨more, rfl⟩
  exact scan.eq_4 afterSigil c text hm hs

theorem mark?_of_isWordChar {c : Char} (hc : isWordChar c = true) : mark? c = none := by
  unfold mark?
  split
  all_goals first | rfl | exact absurd hc (by decide)

theorem ne_quote_of_isWordChar {c : Char} (hc : isWordChar c = true) :
    ¬ (c = '"' ∨ c = '\'') := by
  rintro (rfl | rfl) <;> exact absurd hc (by decide)

theorem noPattern_of_mark {c : Char} {token : Token} (hmark : mark? c = some token)
    (text : List Char) : NoPattern (c :: text) := by
  apply noPattern_of_ne
  · rintro more rfl
    simp [mark?] at hmark
  · rintro more rfl
    simp [mark?] at hmark

theorem noPattern_of_word {c : Char} {word rest : List Char}
    (hword : ∀ d ∈ word, isWordChar d = true)
    (hrest : c = 'm' ∨ c = 's' → word = [] → Boundary (· == '/') rest) :
    NoPattern (c :: (word ++ rest)) := by
  have hslash : c = 'm' ∨ c = 's' → ∀ more, word ++ rest = '/' :: more → False := by
    intro hc more heq
    cases word with
    | nil =>
        have hboundary := hrest hc rfl
        rw [List.nil_append] at heq
        simp [heq] at hboundary
    | cons d word =>
        cases heq
        exact absurd (hword '/' (by simp)) (by decide)
  apply noPattern_of_ne
  · exact fun more hc heq => hslash (.inl hc) more heq
  · exact fun more hc heq => hslash (.inr hc) more heq

theorem scanWord_of_boundary {word rest : List Char}
    (hword : ∀ c ∈ word, isWordChar c = true) (hrest : Boundary isWordChar rest) :
    scanWord (word ++ rest) = .found (.word (String.ofList word)) word rest := by
  simp only [scanWord, takeWhile_of_boundary hword hrest, dropWhile_of_boundary hword hrest]

theorem scanNumber_of_word {afterSigil : Bool} {word rest : List Char}
    (hword : ∀ c ∈ word, isWordChar c = true) (hrest : Boundary isWordChar rest)
    (hfraction : afterSigil = false → Decimal.isDigits word = true → ¬ StartsFraction rest) :
    scanNumber afterSigil (word ++ rest) = .found (.word (String.ofList word)) word rest := by
  unfold scanNumber
  simp only [takeWhile_of_boundary hword hrest, dropWhile_of_boundary hword hrest]
  split
  next c more =>
    rw [if_neg]
    · exact scanWord_of_boundary hword hrest
    · intro hfloat
      simp only [Bool.and_eq_true, Bool.not_eq_true'] at hfloat
      exact hfraction hfloat.1.1 hfloat.1.2 hfloat.2
  next => exact scanWord_of_boundary hword hrest

theorem scanNumber_of_float {whole fraction rest : List Char} (hfraction : fraction ≠ [])
    (hwholeDigits : ∀ c ∈ whole, c.isDigit = true)
    (hfractionDigits : ∀ c ∈ fraction, c.isDigit = true)
    (hrest : Boundary Char.isDigit rest) :
    scanNumber false (whole ++ '.' :: fraction ++ rest) =
      .found (.float (Decimal.ofPoint whole fraction)) (whole ++ '.' :: fraction) rest := by
  have hword : ∀ c ∈ whole, isWordChar c = true :=
    fun c hc => isWordChar_of_isDigit (hwholeDigits c hc)
  have htake := takeWhile_of_boundary hfractionDigits hrest
  have hdrop := dropWhile_of_boundary hfractionDigits hrest
  cases fraction with
  | nil => exact absurd rfl hfraction
  | cons d fraction =>
      have hd : d.isDigit = true := hfractionDigits d (by simp)
      have hwhole : Decimal.isDigits whole = true := List.all_eq_true.mpr hwholeDigits
      have hpoint : Boundary isWordChar ('.' :: d :: (fraction ++ rest)) := by
        rw [boundary_cons]
        decide
      have hwholeTake := takeWhile_of_boundary hword hpoint
      have hwholeDrop := dropWhile_of_boundary hword hpoint
      simp only [List.append_assoc, List.cons_append] at htake hdrop ⊢
      simp [scanNumber, hwholeTake, hwholeDrop, hwhole, hd, htake, hdrop]

theorem scan_word {afterSigil : Bool} {word rest : List Char} (hne : word ≠ [])
    (hword : ∀ c ∈ word, isWordChar c = true) (hrest : Boundary isWordChar rest)
    (hclear : Unambiguous afterSigil (.word (String.ofList word)) rest) :
    scan afterSigil (word ++ rest) = .found (.word (String.ofList word)) word rest := by
  obtain ⟨hslash, hfraction⟩ := hclear
  rw [String.toList_ofList] at hfraction
  cases word with
  | nil => exact absurd rfl hne
  | cons c word =>
      have hc := hword c (by simp)
      have hpattern : NoPattern (c :: (word ++ rest)) := by
        apply noPattern_of_word (fun d hd => hword d (List.mem_cons_of_mem c hd))
        rintro hc' rfl
        apply hslash
        rcases hc' with rfl | rfl
        · exact .inl rfl
        · exact .inr rfl
      rw [List.cons_append, scan_of_noPattern afterSigil hpattern, mark?_of_isWordChar hc]
      simp only [if_neg (ne_quote_of_isWordChar hc), if_pos hc, ← List.cons_append]
      split
      next => exact scanNumber_of_word hword hrest hfraction
      next => exact scanWord_of_boundary hword hrest

theorem scan_float {whole fraction rest : List Char} (hwhole : whole ≠ [])
    (hfraction : fraction ≠ []) (hwholeDigits : ∀ c ∈ whole, c.isDigit = true)
    (hfractionDigits : ∀ c ∈ fraction, c.isDigit = true)
    (hrest : Boundary Char.isDigit rest) :
    scan false (whole ++ '.' :: fraction ++ rest) =
      .found (.float (Decimal.ofPoint whole fraction)) (whole ++ '.' :: fraction) rest := by
  cases whole with
  | nil => exact absurd rfl hwhole
  | cons c whole =>
      have hc := hwholeDigits c (by simp)
      have hword := isWordChar_of_isDigit hc
      have hpattern : NoPattern (c :: (whole ++ '.' :: fraction ++ rest)) := by
        apply noPattern_of_ne
        · rintro _ rfl
          exact absurd hc (by decide)
        · rintro _ rfl
          exact absurd hc (by decide)
      rw [List.cons_append, List.cons_append, scan_of_noPattern false hpattern,
        mark?_of_isWordChar hword]
      simp only [if_neg (ne_quote_of_isWordChar hword), if_pos hc, ← List.cons_append]
      exact scanNumber_of_float hfraction hwholeDigits hfractionDigits hrest

theorem scan_quote (afterSigil : Bool) {quote : Char} (hquote : quote = '"' ∨ quote = '\'')
    (text : List Char) : scan afterSigil (quote :: text) = scanString quote text := by
  have hmark : mark? quote = none := by rcases hquote with rfl | rfl <;> rfl
  have hpattern : NoPattern (quote :: text) := by
    apply noPattern_of_ne
    · rintro _ rfl
      simp at hquote
    · rintro _ rfl
      simp at hquote
  rw [scan_of_noPattern afterSigil hpattern, hmark]
  exact if_pos hquote

theorem scan_string (afterSigil : Bool) {quote : Char} {body value : List Char}
    (rest : List Char) (hquote : quote = '"' ∨ quote = '\'')
    (hbody : QuotedBody quote body value) :
    scan afterSigil (quote :: (body ++ [quote]) ++ rest) =
      .found (.string (String.ofList value)) (quote :: (body ++ [quote])) rest := by
  have hescape : quote ≠ '\\' := by rcases hquote with rfl | rfl <;> decide
  have hscan := scanQuoted_of_quotedBody rest hescape hbody
  simp only [List.cons_append, List.append_assoc, List.nil_append]
  rw [scan_quote afterSigil hquote]
  simp only [scanString, hscan]

theorem scan_matching (afterSigil : Bool) {find flags rest : List Char} (hne : find ≠ [])
    (hfind : Section find) (hflags : ∀ c ∈ flags, isFlag c = true)
    (hrest : Boundary isFlag rest) :
    scan afterSigil ('m' :: '/' :: (find ++ '/' :: flags) ++ rest) =
      .found (.matching (String.ofList find) (String.ofList flags))
        ('m' :: '/' :: (find ++ '/' :: flags)) rest := by
  have htake := takeSection?_of_section (flags ++ rest) hfind
  simp only [List.cons_append, List.append_assoc, scan, scanMatch, htake]
  simp only [takeWhile_of_boundary hflags hrest, dropWhile_of_boundary hflags hrest]

theorem scan_substitution (afterSigil : Bool) {find replace flags rest : List Char}
    (hne : find ≠ []) (hfind : Section find) (hreplace : Section replace)
    (hflags : ∀ c ∈ flags, isFlag c = true) (hrest : Boundary isFlag rest) :
    scan afterSigil ('s' :: '/' :: (find ++ '/' :: (replace ++ '/' :: flags)) ++ rest) =
      .found (.substitution (String.ofList find) (String.ofList replace) (String.ofList flags))
        ('s' :: '/' :: (find ++ '/' :: (replace ++ '/' :: flags))) rest := by
  have htakeFind := takeSection?_of_section (replace ++ '/' :: (flags ++ rest)) hfind
  have htakeReplace := takeSection?_of_section (flags ++ rest) hreplace
  simp only [List.cons_append, List.append_assoc, scan, scanSubstitution, htakeFind,
    htakeReplace]
  simp only [takeWhile_of_boundary hflags hrest, dropWhile_of_boundary hflags hrest]

theorem scan_of_found {afterSigil : Bool} {token : Token} {slice rest : List Char}
    (hfound : Found afterSigil token slice rest) :
    scan afterSigil (slice ++ rest) = .found token slice rest := by
  obtain ⟨hlexeme, hstops, hclear⟩ := hfound
  cases hlexeme with
  | mark hmark =>
      rw [List.singleton_append, scan_of_noPattern afterSigil (noPattern_of_mark hmark rest),
        hmark]
  | word hne hword => exact scan_word hne hword hstops hclear
  | float hwhole hfraction hwholeDigits hfractionDigits =>
      cases hclear
      exact scan_float hwhole hfraction hwholeDigits hfractionDigits hstops
  | string hquote hbody => exact scan_string afterSigil rest hquote hbody
  | matching hne hfind hflags => exact scan_matching afterSigil hne hfind hflags hstops
  | substitution hne hfind hreplace hflags =>
      exact scan_substitution afterSigil hne hfind hreplace hflags hstops

theorem scan_eq_found_iff {afterSigil : Bool} {text slice rest : List Char} {token : Token}
    (htoken : token ≠ .eof) :
    scan afterSigil text = .found token slice rest ↔
      slice ++ rest = text ∧ Found afterSigil token slice rest := by
  constructor
  · intro hscan
    have htiles := scan_tiles afterSigil text
    rw [hscan] at htiles
    exact ⟨htiles, found_of_scan hscan htoken⟩
  · rintro ⟨rfl, hfound⟩
    exact scan_of_found hfound

end FilterChain.Lexer
