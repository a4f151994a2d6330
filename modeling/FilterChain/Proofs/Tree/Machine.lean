import FilterChain.Tree.Parser

/-!
# The parser as a machine

The grammar needs no nesting, so a machine that takes one token at a time can parse it.
Its phase says what may come next and holds the filter under construction.  A token
that the phase does not allow is the place of the error; only a negative index is
noticed one token late, since `-2` may still start a range.
-/

namespace FilterChain

namespace Parser

/-- What may come next, with the filter under construction. -/
inductive Phase
  /-- A filter starts here. -/
  | filter
  /-- A filter has ended. -/
  | filterEnd
  | accessName
  | assignName
  /-- Behind a point that extends a path. -/
  | propertyName (path : List String)
  | property (path : List String)
  /-- Behind a function's name, where an argument list may open. -/
  | function (name : String)
  | argumentStart (name : String)
  | argument (name : String) (arguments : List Literal)
  | signedNumber (name : String) (arguments : List Literal) (negative : Bool)
  | argumentEnd (name : String) (arguments : List Literal)
  | subsetStart
  | entry (entries : List SubsetEntry)
  /-- Behind the sign of a lower bound; `start` is where the entry starts. -/
  | lowBound (entries : List SubsetEntry) (start : Position)
  | lowEnd (entries : List SubsetEntry) (start : Position) (negative : Bool) (lo : Int64)
  | highBound (entries : List SubsetEntry) (lo : Int64)
  | signedHighBound (entries : List SubsetEntry) (lo : Int64)
  | entryEnd (entries : List SubsetEntry)
deriving DecidableEq

/-- The chains that have ended, the filters of the open chain, and what may come next. -/
structure State where
  chains : Tree
  filters : Chain
  phase : Phase
deriving DecidableEq

namespace State

def start : State := ⟨[], [], .filter⟩

/-- Adds a filter to the open chain. -/
def add (state : State) (filter : Filter) : State :=
  ⟨state.chains, state.filters ++ [filter], .filterEnd⟩

/-- Ends the open chain. -/
def closeChain (state : State) : State :=
  ⟨state.chains ++ [state.filters], [], .filter⟩

/-- Goes on to another phase of the filter under construction. -/
def into (state : State) (phase : Phase) : State :=
  { state with phase }

end State

/-- The first token of a filter. -/
def startFilter (state : State) : Token → Except SyntaxFault State
  | .word name => .ok (state.into (.function name))
  | .less => .ok (state.into .accessName)
  | .greater => .ok (state.into .assignName)
  | .dot => .ok (state.into (.propertyName []))
  | .openBracket => .ok (state.into .subsetStart)
  | .matching find flags => .ok (state.add (.matching find flags))
  | .substitution find replace flags => .ok (state.add (.substitution find replace flags))
  | token => .error (.unexpected .filter token)

/-- The token behind a filter.  Filters that start with a mark need no pipe before them. -/
def continueChain (state : State) : Token → Except SyntaxFault State
  | .pipe => .ok (state.into .filter)
  | .comma | .eof => .ok state.closeChain
  | .less => startFilter state .less
  | .greater => startFilter state .greater
  | .openBracket => startFilter state .openBracket
  | .dot => startFilter state .dot
  | token => .error (.unexpected .separator token)

/-- An argument, or its sign. -/
def takeArgument (state : State) (name : String) (arguments : List Literal) :
    Token → Except SyntaxFault State
  | .minus => .ok (state.into (.signedNumber name arguments true))
  | .plus => .ok (state.into (.signedNumber name arguments false))
  | .string text => .ok (state.into (.argumentEnd name (arguments ++ [.string text])))
  | .float x => .ok (state.into (.argumentEnd name (arguments ++ [.float x])))
  | .word word =>
    if isWholeNumber word then
      match wholeNumber? word with
      | some n => .ok (state.into (.argumentEnd name (arguments ++ [.integer n])))
      | none => .error (.integerOutOfRange word)
    else .error (.bareword word)
  | token => .error (.unexpected .argument token)

/-- The number behind a sign. -/
def takeSignedNumber (state : State) (name : String) (arguments : List Literal)
    (negative : Bool) : Token → Except SyntaxFault State
  | .float x =>
    .ok (state.into (.argumentEnd name (arguments ++ [.float (if negative then -x else x)])))
  | .word word =>
    if isWholeNumber word then
      match wholeNumber? word with
      | some n => .ok (state.into (.argumentEnd name (arguments ++ [.integer (signed negative n)])))
      | none => .error (.integerOutOfRange word)
    else .error (.unexpected .signedNumber (.word word))
  | token => .error (.unexpected .signedNumber token)

/-- The digits of a bound. -/
def takeBound : Token → Except SyntaxFault Int64
  | .word word =>
    if isWholeNumber word then
      match wholeNumber? word with
      | some n => .ok n
      | none => .error (.integerOutOfRange word)
    else .error (.unexpected .bound (.word word))
  | .float _ => .error .fractionalIndex
  | token => .error (.unexpected .bound token)

/-- The token behind a subset's entry. -/
def endEntry (state : State) (entries : List SubsetEntry) : Token → Except SyntaxFault State
  | .comma => .ok (state.into (.entry entries))
  | .closeBracket => .ok (state.add (.subset entries))
  | token => .error (.unexpected .entryEnd token)

/-- The first token of a subset's entry. -/
def startEntry (state : State) (entries : List SubsetEntry) (place : Position) :
    Token → Except SyntaxFault State
  | .minus => .ok (state.into (.lowBound entries place))
  | token => (takeBound token).map fun lo => state.into (.lowEnd entries place false lo)

/-- An error at the token that was to be taken. -/
def atToken (place : Position) : Except SyntaxFault α → Except SyntaxError α :=
  Except.mapError (⟨·, place⟩)

def State.push (state : State) (spanned : Spanned) : Except SyntaxError State :=
  let place := spanned.place
  match state.phase, spanned.token with
  | .filter, token => atToken place (startFilter state token)
  | .filterEnd, token => atToken place (continueChain state token)
  | .accessName, .word name => .ok (state.add (.access name))
  | .accessName, token => .error ⟨.unexpected .accessName token, place⟩
  | .assignName, .word name => .ok (state.add (.assign name))
  | .assignName, token => .error ⟨.unexpected .assignName token, place⟩
  | .propertyName path, .word name => .ok (state.into (.property (path ++ [name])))
  | .propertyName _, token => .error ⟨.unexpected .propertyName token, place⟩
  | .property path, .dot => .ok (state.into (.propertyName path))
  | .property path, token => atToken place (continueChain (state.add (.property path)) token)
  | .function name, .openParen => .ok (state.into (.argumentStart name))
  | .function name, token => atToken place (continueChain (state.add (.function name [])) token)
  | .argumentStart _, .closeParen => .error ⟨.emptyArguments, place⟩
  | .argumentStart name, token => atToken place (takeArgument state name [] token)
  | .argument name arguments, token => atToken place (takeArgument state name arguments token)
  | .signedNumber name arguments negative, token =>
    atToken place (takeSignedNumber state name arguments negative token)
  | .argumentEnd name arguments, .comma => .ok (state.into (.argument name arguments))
  | .argumentEnd name arguments, .closeParen => .ok (state.add (.function name arguments))
  | .argumentEnd _ _, token => .error ⟨.unexpected .argumentEnd token, place⟩
  | .subsetStart, .closeBracket => .error ⟨.emptySubset, place⟩
  | .subsetStart, token => atToken place (startEntry state [] place token)
  | .entry entries, token => atToken place (startEntry state entries place token)
  | .lowBound entries start, token =>
    atToken place ((takeBound token).map fun lo => state.into (.lowEnd entries start true lo))
  | .lowEnd entries _ negative lo, .minus =>
    .ok (state.into (.highBound entries (signed negative lo)))
  | .lowEnd entries start negative lo, token =>
    let lo := signed negative lo
    if lo < 0 then .error ⟨.negativeIndex, start⟩
    else atToken place (endEntry state (entries ++ [.index lo]) token)
  | .highBound entries lo, .minus => .ok (state.into (.signedHighBound entries lo))
  | .highBound entries lo, token =>
    atToken place ((takeBound token).map fun hi => state.into (.entryEnd (entries ++ [.range lo hi])))
  | .signedHighBound entries lo, token =>
    atToken place
      ((takeBound token).map fun hi => state.into (.entryEnd (entries ++ [.range lo (-hi)])))
  | .entryEnd entries, token => atToken place (endEntry state entries token)

/-- Ends the text.  Only a complete chain may stand at its end. -/
def State.finish (state : State) (place : Position) : Except SyntaxError Tree :=
  (state.push ⟨.eof, place⟩).map State.chains

@[simp] theorem atToken_ok {α : Type} (place : Position) (a : α) :
    atToken place (.ok a) = .ok a := rfl

@[simp] theorem atToken_error {α : Type} (place : Position) (fault : SyntaxFault) :
    atToken place (.error fault : Except SyntaxFault α) = .error ⟨fault, place⟩ := rfl

@[simp] theorem map_ok {α β ε : Type} (a : α) (f : α → β) :
    (.ok a : Except ε α).map f = .ok (f a) := rfl

@[simp] theorem map_error {α β ε : Type} (e : ε) (f : α → β) :
    (.error e : Except ε α).map f = .error e := rfl

namespace State

@[simp] theorem phase_into (state : State) (phase : Phase) :
    (state.into phase).phase = phase := rfl

@[simp] theorem phase_add (state : State) (filter : Filter) :
    (state.add filter).phase = .filterEnd := rfl

@[simp] theorem into_into (state : State) (phase later : Phase) :
    (state.into phase).into later = state.into later := rfl

@[simp] theorem into_add (state : State) (phase : Phase) (filter : Filter) :
    (state.into phase).add filter = state.add filter := rfl

def pushAll (state : State) (tokens : List Spanned) : Except SyntaxError State :=
  tokens.foldlM push state

@[simp] theorem pushAll_nil (state : State) : state.pushAll [] = .ok state := rfl

theorem pushAll_cons (state : State) (spanned : Spanned) (tokens : List Spanned) :
    state.pushAll (spanned :: tokens) = (state.push spanned).bind (pushAll · tokens) := rfl

theorem pushAll_append {state middle : State} {tokens : List Spanned} (more : List Spanned)
    (htokens : state.pushAll tokens = .ok middle) :
    state.pushAll (tokens ++ more) = middle.pushAll more := by
  unfold pushAll at htokens ⊢
  rw [List.foldlM_append, htokens]
  rfl

theorem exists_of_pushAll_cons {state after : State} {spanned : Spanned}
    {tokens : List Spanned} (hpush : state.pushAll (spanned :: tokens) = .ok after) :
    ∃ middle, state.push spanned = .ok middle ∧ middle.pushAll tokens = .ok after := by
  rw [pushAll_cons] at hpush
  cases hfirst : state.push spanned with
  | error e =>
      rw [hfirst] at hpush
      cases hpush
  | ok middle =>
      rw [hfirst] at hpush
      exact ⟨middle, rfl, hpush⟩

theorem exists_of_pushAll_append {state after : State} {tokens more : List Spanned}
    (hpush : state.pushAll (tokens ++ more) = .ok after) :
    ∃ middle, state.pushAll tokens = .ok middle ∧ middle.pushAll more = .ok after := by
  induction tokens generalizing state with
  | nil => exact ⟨state, rfl, hpush⟩
  | cons first rest ih =>
      obtain ⟨next, hfirst, hrest⟩ := exists_of_pushAll_cons hpush
      obtain ⟨middle, hmiddle, hmore⟩ := ih hrest
      refine ⟨middle, ?_, hmore⟩
      rw [pushAll_cons, hfirst]
      exact hmiddle

end State

/-- What comes of a state and the tokens that are left. -/
def parseFrom (state : State) (lexing : Lexing) : Except SyntaxError Tree :=
  (state.pushAll lexing.tokens).bind fun last =>
    match lexing.ending with
    | .ok place => last.finish place
    | .error e => .error ⟨.lexical e.fault, e.place⟩

theorem parseFrom_append {state middle : State} {tokens : List Spanned}
    (htokens : state.pushAll tokens = .ok middle) (more : List Spanned)
    (ending : Except LexError Position) :
    parseFrom state ⟨tokens ++ more, ending⟩ = parseFrom middle ⟨more, ending⟩ := by
  simp only [parseFrom, State.pushAll_append more htokens]

theorem parseFrom_cons {state middle : State} {spanned : Spanned}
    (hpush : state.push spanned = .ok middle) (tokens : List Spanned)
    (ending : Except LexError Position) :
    parseFrom state ⟨spanned :: tokens, ending⟩ = parseFrom middle ⟨tokens, ending⟩ := by
  simp only [parseFrom, State.pushAll_cons, hpush]
  rfl

theorem parseFrom_refused {state : State} {spanned : Spanned} {e : SyntaxError}
    (hpush : state.push spanned = .error e) (tokens : List Spanned)
    (ending : Except LexError Position) :
    parseFrom state ⟨spanned :: tokens, ending⟩ = .error e := by
  simp only [parseFrom, State.pushAll_cons, hpush]
  rfl

end Parser

/-- Parses lexed tokens.  The first fault of either kind ends the work. -/
def Lexing.parse (lexing : Lexing) : Except SyntaxError Tree :=
  Parser.parseFrom .start lexing

end FilterChain
