import FilterChain.Proofs.Tree.Recognition

/-!
# Where parsing fails

Every state of the parser can be led to the end of an expression, so whatever has
been taken can still become one.  A token that is refused cannot: the parser takes
all that the grammar derives.  The place of an error is therefore that of the first
token with which the text has no more chance.  A negative index is the exception,
since the minus before it could have started a range; it is reported at that minus.
-/

namespace FilterChain

open Grammar

namespace Parser

open State

/-! ## Every state can be completed -/

theorem isNumber_zero : IsNumber "0" 0 :=
  ⟨by decide, by simp, rfl, by decide⟩

theorem isArgument_zero : IsArgument [.word "0"] (.integer 0) :=
  .integer .none isNumber_zero (by decide)

theorem isBound_zero : IsBound [.word "0"] 0 :=
  .plain isNumber_zero (by decide)

theorem isEntry_zero : IsEntry [.word "0"] (.index 0) :=
  .index isBound_zero (by decide)

/-- Tokens that end the filter that a phase has started. -/
def closers : Phase → List Token
  | .filterEnd | .property _ | .function _ => []
  | .filter | .accessName | .assignName | .propertyName _ => [.word "a"]
  | .argumentStart _ | .argument _ _ | .signedNumber _ _ _ => [.word "0", .closeParen]
  | .argumentEnd _ _ => [.closeParen]
  | .subsetStart | .entry _ | .lowBound _ _ | .highBound _ _ | .signedHighBound _ _ =>
      [.word "0", .closeBracket]
  | .lowEnd _ _ _ _ => [.minus, .word "0", .closeBracket]
  | .entryEnd _ => [.closeBracket]

theorem lexed_of_mem_closers (phase : Phase) : ∀ token ∈ closers phase, Lexed token := by
  cases phase <;> simp [closers, Lexed]

def MayEnd (state : State) : Prop := ∃ settled, state.settled? = some settled

theorem takes_closeBracket {state after : State} {entries : List SubsetEntry}
    (hends : EndsEntry state entries after) : Takes after [.closeBracket] MayEnd := by
  have hend : Takes (state.add (.subset entries)) [] MayEnd := takes_nil ⟨_, rfl⟩
  refine takes_push (fun place => ?_) hend
  rw [hends .closeBracket place (.inr rfl)]
  rfl

theorem takes_highBound_close (state : State) (entries : List SubsetEntry) (lo : Int64) :
    Takes (state.into (.highBound entries lo)) ([.word "0"] ++ [.closeBracket]) MayEnd := by
  apply takes_append (takes_highBound state entries lo isBound_zero)
  rintro _ rfl
  exact takes_push (fun _ => rfl) (takes_nil ⟨_, rfl⟩)

theorem takes_entry_close (state : State) (entries : List SubsetEntry) :
    Takes (state.into (.entry entries)) ([.word "0"] ++ [.closeBracket]) MayEnd :=
  takes_append (takes_entry state entries isEntry_zero) fun _ hends => takes_closeBracket hends

theorem takes_argument_close (state : State) (name : String) (arguments : List Literal) :
    Takes (state.into (.argument name arguments)) ([.word "0"] ++ [.closeParen]) MayEnd := by
  apply takes_append (takes_argument state name arguments isArgument_zero)
  rintro _ rfl
  exact takes_push (fun _ => rfl) (takes_nil ⟨_, rfl⟩)

theorem takes_closers (state : State) : Takes state (closers state.phase) MayEnd := by
  obtain ⟨chains, filters, phase⟩ := state
  obtain ⟨hdigits, hnumber⟩ := wholeNumber?_of_isNumber isNumber_zero
  cases phase with
  | filterEnd => exact takes_nil ⟨_, rfl⟩
  | property path => exact takes_nil ⟨_, rfl⟩
  | function name => exact takes_nil ⟨_, rfl⟩
  | filter => exact takes_push (fun _ => rfl) (takes_nil ⟨_, rfl⟩)
  | accessName => exact takes_push (fun _ => rfl) (takes_nil ⟨_, rfl⟩)
  | assignName => exact takes_push (fun _ => rfl) (takes_nil ⟨_, rfl⟩)
  | propertyName path => exact takes_push (fun _ => rfl) (takes_nil ⟨_, rfl⟩)
  | argumentStart name =>
      exact (takes_argument_close ⟨chains, filters, .filter⟩ name []).congr_head
        (push_argumentStart ⟨chains, filters, .filter⟩ name (by simp))
  | argument name arguments =>
      exact takes_argument_close ⟨chains, filters, .filter⟩ name arguments
  | signedNumber name arguments negative =>
      have hend : Takes ⟨chains, filters, .argumentEnd name (arguments ++
          [.integer (signed negative (Int64.ofNat 0))])⟩ [.closeParen] MayEnd :=
        takes_push (fun _ => rfl) (takes_nil ⟨_, rfl⟩)
      refine takes_push (fun place => ?_) hend
      simp [push, takeSignedNumber, hdigits, hnumber, into]
  | argumentEnd name arguments => exact takes_push (fun _ => rfl) (takes_nil ⟨_, rfl⟩)
  | subsetStart =>
      exact (takes_entry_close ⟨chains, filters, .filter⟩ []).congr_head
        (push_subsetStart ⟨chains, filters, .filter⟩ (by simp))
  | entry entries => exact takes_entry_close ⟨chains, filters, .filter⟩ entries
  | lowBound entries start =>
      have hend : Takes ⟨chains, filters, .lowEnd entries start true 0⟩ [.closeBracket] MayEnd :=
        takes_push (fun _ => rfl) (takes_nil ⟨_, rfl⟩)
      refine takes_push (fun place => ?_) hend
      simp [push, takeBound_of_isNumber isNumber_zero, into]
  | lowEnd entries start negative lo =>
      exact takes_push (fun _ => rfl)
        (takes_highBound_close ⟨chains, filters, .filter⟩ entries (signed negative lo))
  | highBound entries lo => exact takes_highBound_close ⟨chains, filters, .filter⟩ entries lo
  | signedHighBound entries lo =>
      have hend : Takes ⟨chains, filters, .entryEnd (entries ++ [.range lo 0])⟩
          [.closeBracket] MayEnd :=
        takes_push (fun _ => rfl) (takes_nil ⟨_, rfl⟩)
      refine takes_push (fun place => ?_) hend
      simp [push, takeBound_of_isNumber isNumber_zero, into]
  | entryEnd entries => exact takes_push (fun _ => rfl) (takes_nil ⟨_, rfl⟩)

theorem HasRead.viable {state : State} {tokens : List Token} (hread : HasRead state tokens) :
    Viable tokens := by
  obtain ⟨after, hpush, settled, hsettled⟩ :=
    takes_closers state ((closers state.phase).map (⟨·, .start⟩))
      (by simp [List.map_map, Function.comp_def])
  have hafter := hread.pushAll (by simpa using lexed_of_mem_closers state.phase) hpush
  have htree := hafter.isTree ⟨settled, hsettled, rfl⟩
  refine ⟨closers state.phase ++ [.eof], _, _, htree, ?_⟩
  simp [List.map_map, Function.comp_def]

/-! ## What is refused cannot go on -/

theorem not_viable_of_push_eq_error {state : State} {before : List Spanned} {spanned : Spanned}
    {e : SyntaxError} (hbefore : State.start.pushAll before = .ok state)
    (hpush : state.push spanned = .error e) :
    ¬ Viable (before.map Spanned.token ++ [spanned.token]) := by
  rintro ⟨more, full, tree, htree, heq⟩
  -- The grammar's own tokens behind the refused one stand at places of no importance.
  have hrefused (rest : List Token)
      (hfull : full = before.map Spanned.token ++ spanned.token :: rest) : False := by
    let tokens := before ++ spanned :: rest.map (⟨·, .start⟩)
    have hmap : tokens.map Spanned.token = full := by
      simp [tokens, hfull, List.map_map, Function.comp_def]
    rw [← hmap] at htree
    obtain ⟨last, hlast, _⟩ := exists_pushAll_of_isTree htree
    rw [pushAll_append _ hbefore, pushAll_cons, hpush] at hlast
    cases hlast
  rcases List.eq_nil_or_concat more with rfl | ⟨rest, last, rfl⟩
  · rw [List.append_nil] at heq
    obtain ⟨hfull, htoken⟩ := List.append_inj' heq rfl
    rw [← hfull] at htree
    obtain ⟨last, hlast, hfinish⟩ := exists_pushAll_of_isTree htree
    rw [hbefore] at hlast
    cases hlast
    have heof := hfinish spanned.place
    obtain ⟨token, place⟩ := spanned
    obtain rfl : token = .eof := List.singleton_inj.mp htoken
    rw [finish, hpush] at heof
    cases heof
  · rw [List.concat_eq_append, ← List.append_assoc] at heq
    obtain ⟨hfull, _⟩ := List.append_inj' heq rfl
    exact hrefused rest (by simp [← hfull])

/-! ## Places of errors -/

theorem exists_refused {state : State} {tokens : List Spanned} {e : SyntaxError}
    (hpush : state.pushAll tokens = .error e) :
    ∃ before spanned after middle, tokens = before ++ spanned :: after ∧
      state.pushAll before = .ok middle ∧ middle.push spanned = .error e := by
  induction tokens generalizing state with
  | nil => cases hpush
  | cons first rest ih =>
      rw [pushAll_cons] at hpush
      cases hfirst : state.push first with
      | error e' =>
          rw [hfirst] at hpush
          cases hpush
          exact ⟨[], first, rest, state, rfl, rfl, hfirst⟩
      | ok next =>
          rw [hfirst] at hpush
          obtain ⟨before, spanned, after, middle, rfl, hbefore, hrefused⟩ := ih hpush
          refine ⟨first :: before, spanned, after, middle, rfl, ?_, hrefused⟩
          rw [pushAll_cons, hfirst]
          exact hbefore

/-- Faults that are reported at the token that was to be taken. -/
def AtToken : SyntaxFault → Prop
  | .lexical _ => False
  | .negativeIndex => False
  | _ => True

/-- Only a minus at this place leads to the phase behind an entry's minus, and only from there
does one come to the phase behind a negative bound. -/
def KeepsMinus (phase : Phase) (place : Position) : Phase → Prop
  | .lowBound _ start => start = place
  | .lowEnd entries start true _ => phase = .lowBound entries start
  | _ => True

def Outcome (phase : Phase) (place : Position) : Except SyntaxFault State → Prop
  | .ok after => KeepsMinus phase place after.phase
  | .error fault => AtToken fault

variable {phase : Phase} {place : Position}

theorem outcome_startFilter (state : State) (token : Token) :
    Outcome phase place (startFilter state token) := by
  cases token <;> trivial

theorem outcome_continueChain (state : State) (token : Token) :
    Outcome phase place (continueChain state token) := by
  cases token <;> trivial

theorem outcome_endEntry (state : State) (entries : List SubsetEntry) (token : Token) :
    Outcome phase place (endEntry state entries token) := by
  cases token <;> trivial

theorem outcome_takeArgument (state : State) (name : String) (arguments : List Literal)
    (token : Token) : Outcome phase place (takeArgument state name arguments token) := by
  cases token with
  | word word =>
      simp only [takeArgument]
      split
      · split <;> trivial
      · trivial
  | _ => trivial

theorem outcome_takeSignedNumber (state : State) (name : String) (arguments : List Literal)
    (negative : Bool) (token : Token) :
    Outcome phase place (takeSignedNumber state name arguments negative token) := by
  cases token with
  | word word =>
      simp only [takeSignedNumber]
      split
      · split <;> trivial
      · trivial
  | _ => trivial

theorem outcome_takeBound {f : Int64 → State}
    (hphase : ∀ n, KeepsMinus phase place (f n).phase) (token : Token) :
    Outcome phase place ((takeBound token).map f) := by
  cases token with
  | word word =>
      simp only [takeBound]
      split
      · split
        · exact hphase _
        · trivial
      · trivial
  | _ => trivial

theorem outcome_startEntry (state : State) (entries : List SubsetEntry) (token : Token) :
    Outcome phase place (startEntry state entries place token) := by
  by_cases hminus : token = .minus
  · subst token
    exact rfl
  · have hbound : Outcome phase place ((takeBound token).map fun lo =>
        state.into (.lowEnd entries place false lo)) := by
      refine outcome_takeBound ?_ token
      intro lo
      trivial
    cases token <;> first | exact hbound | exact absurd rfl hminus

def IsNegativeIndex (state : State) (token : Token) (start : Position) : Prop :=
  ∃ entries negative lo, state.phase = .lowEnd entries start negative lo ∧
    token ≠ .minus ∧ signed negative lo < 0

/-- A negative index apart, a token is taken or refused where it stands. -/
theorem push_eq_atToken_or (state : State) (token : Token) (place : Position) :
    (∃ outcome, state.push ⟨token, place⟩ = atToken place outcome ∧
        Outcome state.phase place outcome) ∨
      ∃ start, state.push ⟨token, place⟩ = .error ⟨.negativeIndex, start⟩ ∧
        IsNegativeIndex state token start := by
  obtain ⟨chains, filters, phase⟩ := state
  cases phase with
  | filter => exact .inl ⟨_, rfl, outcome_startFilter _ token⟩
  | filterEnd => exact .inl ⟨_, rfl, outcome_continueChain _ token⟩
  | accessName =>
      left
      cases token with
      | word name => exact ⟨.ok _, rfl, trivial⟩
      | _ => exact ⟨.error _, rfl, trivial⟩
  | assignName =>
      left
      cases token with
      | word name => exact ⟨.ok _, rfl, trivial⟩
      | _ => exact ⟨.error _, rfl, trivial⟩
  | propertyName path =>
      left
      cases token with
      | word name => exact ⟨.ok _, rfl, trivial⟩
      | _ => exact ⟨.error _, rfl, trivial⟩
  | property path =>
      left
      by_cases hdot : token = .dot
      · subst token
        exact ⟨.ok _, rfl, trivial⟩
      · refine ⟨_, push_of_settled place rfl ?_, outcome_continueChain _ token⟩
        cases token <;> simp [Extends] at hdot ⊢
  | function name =>
      left
      by_cases hparen : token = .openParen
      · subst token
        exact ⟨.ok _, rfl, trivial⟩
      · refine ⟨_, push_of_settled place rfl ?_, outcome_continueChain _ token⟩
        cases token <;> simp [Extends] at hparen ⊢
  | argumentStart name =>
      left
      by_cases hclose : token = .closeParen
      · subst token
        exact ⟨.error _, rfl, trivial⟩
      · exact ⟨_, push_argumentStart ⟨chains, filters, .filter⟩ name hclose place,
          outcome_takeArgument _ name [] token⟩
  | argument name arguments =>
      exact .inl ⟨_, rfl, outcome_takeArgument _ name arguments token⟩
  | signedNumber name arguments negative =>
      exact .inl ⟨_, rfl, outcome_takeSignedNumber _ name arguments negative token⟩
  | argumentEnd name arguments =>
      left
      cases token with
      | comma => exact ⟨.ok _, rfl, trivial⟩
      | closeParen => exact ⟨.ok _, rfl, trivial⟩
      | _ => exact ⟨.error _, rfl, trivial⟩
  | subsetStart =>
      left
      by_cases hclose : token = .closeBracket
      · subst token
        exact ⟨.error _, rfl, trivial⟩
      · exact ⟨_, push_subsetStart ⟨chains, filters, .filter⟩ hclose place,
          outcome_startEntry _ [] token⟩
  | entry entries => exact .inl ⟨_, rfl, outcome_startEntry _ entries token⟩
  | lowBound entries start =>
      refine .inl ⟨_, rfl, outcome_takeBound ?_ token⟩
      intro lo
      rfl
  | lowEnd entries start negative lo =>
      by_cases hminus : token = .minus
      · subst token
        exact .inl ⟨.ok _, rfl, trivial⟩
      · have hpush := push_lowEnd ⟨chains, filters, .filter⟩ entries start negative lo hminus place
        split at hpush
        next hlt => exact .inr ⟨start, hpush, entries, negative, lo, rfl, hminus, hlt⟩
        next => exact .inl ⟨_, hpush, outcome_endEntry _ _ token⟩
  | highBound entries lo =>
      left
      by_cases hminus : token = .minus
      · subst token
        exact ⟨.ok _, rfl, trivial⟩
      · refine ⟨_, push_highBound ⟨chains, filters, .filter⟩ entries lo hminus place, ?_⟩
        refine outcome_takeBound ?_ token
        intro hi
        trivial
  | signedHighBound entries lo =>
      refine .inl ⟨_, rfl, outcome_takeBound ?_ token⟩
      intro hi
      trivial
  | entryEnd entries => exact .inl ⟨_, rfl, outcome_endEntry _ entries token⟩

theorem keepsMinus_of_push {state after : State} {spanned : Spanned}
    (hpush : state.push spanned = .ok after) :
    KeepsMinus state.phase spanned.place after.phase := by
  obtain ⟨token, place⟩ := spanned
  rcases push_eq_atToken_or state token place with
    ⟨outcome, heq, houtcome⟩ | ⟨start, heq, _⟩
  · rw [heq] at hpush
    rw [atToken_eq_ok_iff.mp hpush] at houtcome
    exact houtcome
  · rw [heq] at hpush
    cases hpush

theorem place_of_push_eq_error {state : State} {spanned : Spanned} {e : SyntaxError}
    (hpush : state.push spanned = .error e) :
    (e.place = spanned.place ∧ AtToken e.fault) ∨
      (e.fault = .negativeIndex ∧ IsNegativeIndex state spanned.token e.place) := by
  obtain ⟨token, place⟩ := spanned
  rcases push_eq_atToken_or state token place with
    ⟨outcome, heq, houtcome⟩ | ⟨start, heq, hnegative⟩
  · left
    rw [heq] at hpush
    cases outcome with
    | ok after => cases hpush
    | error fault =>
        cases hpush
        exact ⟨rfl, houtcome⟩
  · right
    rw [heq] at hpush
    cases hpush
    exact ⟨rfl, hnegative⟩

/-! ## Negative indices -/

/-- What stands behind the last bracket when an index turns out to be negative. -/
theorem HasRead.exists_negative {state : State} {tokens : List Token}
    {entries : List SubsetEntry} {start : Position} {negative : Bool} {lo : Int64}
    (hread : HasRead state tokens) (hphase : state.phase = .lowEnd entries start negative lo)
    (hlt : signed negative lo < 0) :
    negative = true ∧ ∃ outer items word m,
      tokens = outer ++ .openBracket :: items ++ [.minus, .word word] ∧
        IsFront IsEntry items entries ∧ IsNumber word m ∧ 0 < m := by
  cases hread with
  | filter htree hleads => cases hphase
  | filterEnd htree hchain hpath => cases hphase
  | @pending front tokens _ _ _ _ htree hleads hpending =>
      cases hphase
      cases hpending with
      | @lowEnd items _ word m _ _ hfront hword =>
          have hvalue := toInt_signed negative hword.bound
          have hneg := Int64.lt_iff_toInt_lt.mp hlt
          rw [hvalue] at hneg
          cases negative with
          | false => exact absurd hneg (Int.not_lt.mpr (Int.natCast_nonneg m))
          | true =>
              refine ⟨rfl, front ++ tokens, items, word, m, by simp, hfront, hword, ?_⟩
              simp only [if_true, Int64.toInt_zero] at hneg
              omega

/-- The start of an entry with a minus is the place of that minus. -/
theorem place_of_lowEnd {before middle after : State} {minus digits : Spanned}
    {entries : List SubsetEntry} {start : Position} {lo : Int64}
    (hminus : before.push minus = .ok middle) (hdigits : middle.push digits = .ok after)
    (hphase : after.phase = .lowEnd entries start true lo) : minus.place = start := by
  have hmiddle := keepsMinus_of_push hdigits
  rw [hphase] at hmiddle
  have hstart := keepsMinus_of_push hminus
  rw [show middle.phase = .lowBound entries start from hmiddle] at hstart
  exact hstart.symm

end Parser

open FilterChain.Parser

/-- The tokens of a text, and its end if it could be lexed up to there. -/
def Lexing.all (lexing : Lexing) : List Spanned :=
  lexing.tokens ++
    match lexing.ending with
    | .ok place => [⟨.eof, place⟩]
    | .error _ => []

/-- How the place of an error belongs to the tokens of a text. -/
inductive Located (lexing : Lexing) : SyntaxError → Prop
  | lexical {fault : LexFault} {place : Position} (hending : lexing.ending = .error ⟨fault, place⟩)
      (hviable : Viable (lexing.tokens.map Spanned.token)) :
      Located lexing ⟨.lexical fault, place⟩
  | token {before after : List Spanned} {spanned : Spanned} {fault : SyntaxFault}
      (hfault : AtToken fault) (hsplit : lexing.all = before ++ spanned :: after)
      (hviable : Viable (before.map Spanned.token))
      (hrefused : ¬ Viable (before.map Spanned.token ++ [spanned.token])) :
      Located lexing ⟨fault, spanned.place⟩
  | negativeIndex {before after : List Spanned} {minus digits next : Spanned}
      {outer items : List Token} {entries : List SubsetEntry} {word : String} {m : Nat}
      (hsplit : lexing.all = before ++ minus :: digits :: next :: after)
      (hviable : Viable (before.map Spanned.token))
      (hbefore : before.map Spanned.token = outer ++ .openBracket :: items)
      (hitems : IsFront IsEntry items entries) (hminus : minus.token = .minus)
      (hdigits : digits.token = .word word) (hword : IsNumber word m) (hpos : 0 < m)
      (hnext : next.token ≠ .minus) : Located lexing ⟨.negativeIndex, minus.place⟩

theorem Lexing.located_of_refused {text : String} {before after : List Spanned}
    {spanned : Spanned} {middle : State} {e : SyntaxError}
    (hsplit : (ofText text).all = before ++ spanned :: after)
    (hlexed : ∀ s ∈ before, Lexed s.token)
    (hbefore : State.start.pushAll before = .ok middle)
    (hrefused : middle.push spanned = .error e) : Located (ofText text) e := by
  have hread := hasRead_start.pushAll hlexed hbefore
  obtain ⟨fault, place⟩ := e
  rcases place_of_push_eq_error hrefused with ⟨hplace, hfault⟩ | ⟨hfault, hnegative⟩
  · obtain rfl : place = spanned.place := hplace
    exact .token hfault hsplit hread.viable (not_viable_of_push_eq_error hbefore hrefused)
  · obtain rfl : fault = .negativeIndex := hfault
    obtain ⟨entries, negative, lo, hphase, hnext, hlt⟩ := hnegative
    obtain ⟨rfl, outer, items, word, m, htokens, hitems, hword, hpos⟩ :=
      hread.exists_negative hphase hlt
    obtain ⟨front, back, rfl, hfront, hback⟩ := List.map_eq_append_iff.mp htokens
    obtain ⟨minus, rest, rfl, hminus, hrest⟩ := List.map_eq_cons_iff.mp hback
    obtain ⟨digits, rest, rfl, hdigits, hrest⟩ := List.map_eq_cons_iff.mp hrest
    obtain rfl := List.map_eq_nil_iff.mp hrest
    -- The entry's start has travelled in the phase since the minus was taken.
    obtain ⟨opened, hopened, hpush⟩ := State.exists_of_pushAll_append hbefore
    obtain ⟨signed, hsigned, hpush⟩ := State.exists_of_pushAll_cons hpush
    obtain ⟨bounded, hbounded, hpush⟩ := State.exists_of_pushAll_cons hpush
    cases hpush
    obtain rfl := place_of_lowEnd hsigned hbounded hphase
    have hlexedFront : ∀ s ∈ front, Lexed s.token := fun s hs =>
      hlexed s (List.mem_append_left _ hs)
    have hopenedRead := hasRead_start.pushAll hlexedFront hopened
    have hall : (ofText text).all = front ++ minus :: digits :: spanned :: after := by
      rw [hsplit]
      simp
    exact .negativeIndex hall hopenedRead.viable hfront hitems hminus hdigits hword hpos hnext

/-- An error is where the text lost its last chance, or at the minus of a negative index. -/
theorem Tree.located_of_parse_eq_error {text : String} {e : SyntaxError}
    (hparse : Tree.parse text = .error e) : Located (Lexing.ofText text) e := by
  have hlexed := Lexing.lexed_of_mem_tokens text
  cases hpush : State.start.pushAll (Lexing.ofText text).tokens with
  | error refused =>
      have hrefused := Lexing.parse_of_pushAll_error hpush
      rw [Tree.parse_eq, hrefused] at hparse
      cases hparse
      obtain ⟨before, spanned, after, middle, htokens, hbefore, hmiddle⟩ := exists_refused hpush
      obtain ⟨ending, hall⟩ : ∃ ending, (Lexing.ofText text).all =
          (Lexing.ofText text).tokens ++ ending := ⟨_, rfl⟩
      rw [htokens, List.append_assoc, List.cons_append] at hall
      refine Lexing.located_of_refused hall ?_ hbefore hmiddle
      intro s hs
      apply hlexed
      rw [htokens]
      exact List.mem_append_left _ hs
  | ok last =>
      rw [Tree.parse_eq, Lexing.parse_of_pushAll hpush] at hparse
      cases hending : (Lexing.ofText text).ending with
      | error fault =>
          rw [hending] at hparse
          cases hparse
          exact .lexical hending (hasRead_start.pushAll hlexed hpush).viable
      | ok place =>
          rw [hending] at hparse
          have hfinish : last.push ⟨.eof, place⟩ = .error e := map_eq_error_iff.mp hparse
          have hall : (Lexing.ofText text).all =
              (Lexing.ofText text).tokens ++ [⟨.eof, place⟩] := by
            rw [Lexing.all, hending]
          exact Lexing.located_of_refused hall hlexed hpush hfinish

/-- Wrong characters, a refused token, a refused end and a negative index. -/
theorem Tree.located_of_wrong_texts :
    Located (Lexing.ofText "a |\n  $") ⟨.lexical (.unexpectedCharacter '$'), ⟨2, 3⟩⟩ ∧
      Located (Lexing.ofText "a )") ⟨.unexpected .separator .closeParen, ⟨1, 3⟩⟩ ∧
      Located (Lexing.ofText "a |") ⟨.unexpected .filter .eof, ⟨1, 4⟩⟩ ∧
      Located (Lexing.ofText "[0, -2]") ⟨.negativeIndex, ⟨1, 5⟩⟩ :=
  ⟨located_of_parse_eq_error ((Tree.parse_eq _).trans (by cbv)),
    located_of_parse_eq_error ((Tree.parse_eq _).trans (by cbv)),
    located_of_parse_eq_error ((Tree.parse_eq _).trans (by cbv)),
    located_of_parse_eq_error ((Tree.parse_eq _).trans (by cbv))⟩

end FilterChain
