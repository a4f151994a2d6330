import FilterChain.Tree.Lookahead

/-!
# Parsing

The parser descends from the expression to its chains, their filters and the parts of
these.  Each function is followed by what it does to the lexer: it ends, and unless it
fails it stands at a token again, behind as many calls as it must have made.
-/

namespace FilterChain

namespace Parser

/-- A whole number of 63 bits. -/
def wholeNumber? (digits : String) : Option Int64 :=
  let n := Decimal.natOfDigits digits.toList
  if n < 0x8000000000000000 then some (Int64.ofNat n) else none

def isWholeNumber (word : String) : Bool :=
  Decimal.isDigits word.toList

def signed (negative : Bool) (n : Int64) : Int64 := if negative then -n else n

end Parser

namespace Parse

open FilterChain.Parser

variable {start : Cursor} {view : Lookahead}

/-! ## Names, numbers and lists -/

def name (expected : Expectation) : Parse String := do
  match ← take with
  | .word name =>
    advance
    return name
  | token =>
    putBack token
    unexpected expected

theorem name_reaches (h : view.Sees start) (expected : Expectation) :
    (name expected).Reaches start view (view.calls + 1) := by
  unfold name
  rw [Reaches, ends_bind, ends_take]
  split
  next name htoken => exact reaches_advance_pure ((h.ready (by simp [htoken])).hold .eof) name
  next => exact h.toAsked

/-- Reads digits.  A number that is too large is the fault of the current token. -/
def wholeNumber (digits : String) : Parse Int64 :=
  match wholeNumber? digits with
  | some n => return n
  | none => fail (.integerOutOfRange digits)

theorem ends_wholeNumber {digits : String} {done : Int64 → Lookahead → Prop}
    {failed : SyntaxError → Lookahead → Prop} :
    (wholeNumber digits).Ends view done failed ↔
      match wholeNumber? digits with
      | some n => done n view
      | none => failed ⟨.integerOutOfRange digits, view.current.place⟩ view := by
  unfold wholeNumber
  split <;> rfl

/-- Skips a minus, and tells whether there was one. -/
def minus : Parse Bool := do
  if (← token) = .minus then
    advance
    return true
  else
    return false

theorem minus_reaches (h : view.Sees start) : minus.Reaches start view view.calls := by
  unfold minus
  rw [Reaches, ends_bind, ends_token]
  split
  next htoken => exact (reaches_advance_pure (h.ready (by simp [htoken])) true).mono (Nat.le_succ _)
  next => exact reaches_pure h (Nat.le_refl _) false

/-- Goes on with one more item behind each mark. -/
def more (mark : Token) (item : Parse α) : List α → Parse (List α) :=
  repeatM fun items => do
    if (← token) = mark then
      advance
      return .inl (items ++ [← item])
    else
      return .inr items

/-- What holds at the start of each round holds when the loop ends. -/
theorem more_ends {mark : Token} {item : Parse α} {items : List α}
    {failed : SyntaxError → Lookahead → Prop} (holds : List α → Lookahead → Prop)
    (hround : ∀ items view, view.Sees start → holds items view → view.current.token = mark →
      (do advance; item).Ends view
        (fun next after => (after.Sees start ∧ view.calls < after.calls) ∧
          holds (items ++ [next]) after) failed)
    (h : view.Sees start) (hholds : holds items view) :
    (more mark item items).Ends view
      (fun items after => after.Sees start ∧ after.current.token ≠ mark ∧ holds items after)
      failed := by
  refine ends_loop holds (fun items view h hholds => ?_) h hholds
  rw [ends_bind, ends_token]
  split
  next htoken =>
    have hitem := hround items view h hholds htoken
    rw [ends_bind] at hitem ⊢
    exact hitem.mono fun _ after hitem => hitem.andThen fun next last hnext => hnext
  next htoken => exact ⟨h, htoken, hholds⟩

theorem more_reaches {mark : Token} {item : Parse α} (hmark : mark ≠ .eof)
    (hitem : ∀ view, view.Sees start → item.Reaches start view view.calls)
    (h : view.Sees start) (items : List α) :
    (more mark item items).Reaches start view view.calls := by
  refine (more_ends (fun _ after => view.calls ≤ after.calls) ?_ h (Nat.le_refl _)).mono
    fun items after ⟨hsees, _, hle⟩ => ⟨hsees, hle⟩
  intro items view h hle htoken
  refine Ends.andThen (reaches_advance (h.ready (htoken ▸ hmark))) fun _ after ⟨hsees, hless⟩ => ?_
  exact Ends.mono (hitem after hsees) fun next last ⟨hlast, hmore⟩ => ⟨⟨hlast, by omega⟩, by omega⟩

/-- Items with commas between them and a bracket behind. -/
def closed (close : Token) (expected : Expectation) (item : Parse α) : Parse (List α) := do
  let items ← more .comma item [← item]
  if (← token) = close then
    advance
    return items
  else
    unexpected expected

theorem closed_reaches {close : Token} {item : Parse α} (hclose : close ≠ .eof)
    (hitem : ∀ view, view.Sees start → item.Reaches start view (view.calls + 1))
    (h : view.Sees start) (expected : Expectation) :
    (closed close expected item).Reaches start view (view.calls + 1) := by
  unfold closed
  refine (hitem view h).andThen fun first after hsees hle => ?_
  have hitem' := fun view h => (hitem view h).mono (Nat.le_succ view.calls)
  refine (more_reaches (by simp) hitem' hsees _).andThen fun items last hlast hless => ?_
  rw [Reaches, ends_bind, ends_token]
  split
  next htoken =>
    exact (reaches_advance_pure (hlast.ready (htoken ▸ hclose)) items).mono (by omega)
  next => exact hlast.toAsked

/-! ## Functions -/

/-- Skips a sign, and tells whether it was a minus. -/
def sign : Parse (Option Bool) := do
  match ← token with
  | .minus =>
    advance
    return some true
  | .plus =>
    advance
    return some false
  | _ => return none

theorem sign_reaches (h : view.Sees start) : sign.Reaches start view view.calls := by
  unfold sign
  rw [Reaches, ends_bind, ends_token]
  split
  next htoken => exact (reaches_advance_pure (h.ready (by simp [htoken])) _).mono (Nat.le_succ _)
  next htoken => exact (reaches_advance_pure (h.ready (by simp [htoken])) _).mono (Nat.le_succ _)
  next => exact reaches_pure h (Nat.le_refl _) none

/-- What an argument's token stands for, behind a sign or without one. -/
def literal (negative : Option Bool) : Token → Parse Literal
  | .string text =>
    if negative.isNone then return .string text
    else do
      putBack (.string text)
      unexpected .signedNumber
  | .float x => return .float (if negative = some true then -x else x)
  | .word word =>
    if isWholeNumber word then
      return .integer (signed (negative = some true) (← wholeNumber word))
    else if negative.isNone then fail (.bareword word)
    else do
      putBack (.word word)
      unexpected .signedNumber
  | token => do
    putBack token
    unexpected (if negative.isSome then .signedNumber else .argument)

theorem literal_ends (h : view.Asked start) (negative : Option Bool) (token : Token) :
    (literal negative token).Ends view (fun _ after => token ≠ .eof ∧ after = view)
      (fun _ after => after.Asked start) := by
  unfold literal
  split
  next text =>
    split
    · exact ⟨by simp, rfl⟩
    · exact h.hold (.string text)
  next => exact ⟨by simp, rfl⟩
  next word =>
    split
    · rw [ends_bind, ends_wholeNumber]
      split
      · exact ⟨by simp, rfl⟩
      · exact h
    · split
      · exact h
      · exact h.hold (.word word)
  next => exact h.hold token

def argument : Parse Literal := do
  let negative ← sign
  let literal ← literal negative (← take)
  advance
  return literal

theorem argument_reaches (h : view.Sees start) :
    argument.Reaches start view (view.calls + 1) := by
  unfold argument
  refine (sign_reaches h).andThen fun negative after hsees hle => ?_
  rw [Reaches, ends_bind, ends_take]
  refine (literal_ends (hsees.toAsked.hold .eof) negative _).andThen ?_
  rintro literal last ⟨htoken, rfl⟩
  exact (reaches_advance_pure ((hsees.ready htoken).hold .eof) literal).mono (Nat.succ_le_succ hle)

/-- The arguments behind an opening parenthesis. -/
def arguments : Parse (List Literal) := do
  if (← token) = .closeParen then fail .emptyArguments
  else closed .closeParen .argumentEnd argument

theorem arguments_reaches (h : view.Sees start) :
    arguments.Reaches start view (view.calls + 1) := by
  unfold arguments
  rw [Reaches, ends_bind, ends_token]
  split
  · exact h.toAsked
  · exact closed_reaches (by simp) (fun _ => argument_reaches) h .argumentEnd

def function : Parse Filter := do
  let name ← name .functionName
  if (← token) = .openParen then
    advance
    return .function name (← arguments)
  else
    return .function name []

theorem function_reaches (h : view.Sees start) :
    function.Reaches start view (view.calls + 1) := by
  unfold function
  refine (name_reaches h .functionName).andThen fun name after hsees hle => ?_
  rw [Reaches, ends_bind, ends_token]
  split
  next htoken =>
    refine (reaches_advance (hsees.ready (by simp [htoken]))).andThen fun _ last hlast hless => ?_
    refine (arguments_reaches hlast).andThen fun arguments final hfinal hmore => ?_
    exact reaches_pure hfinal (by omega) _
  next => exact reaches_pure hsees hle _

/-! ## Fields -/

/-- A path.  The current token is its first point. -/
def property : Parse Filter := do
  return .property (← more .dot (name .propertyName) [])

theorem property_reaches (h : view.Sees start) (htoken : view.current.token = .dot) :
    property.Reaches start view (view.calls + 1) := by
  -- The loop may end only behind a name, since the first point is known.
  have hpath : (more .dot (name .propertyName) []).Ends view
      (fun _ after => after.Sees start ∧ after.current.token ≠ .dot ∧ view.calls ≤ after.calls ∧
        (after.current.token = .dot ∨ view.calls < after.calls))
      (fun _ after => after.Asked start) := by
    refine more_ends (fun _ after => view.calls ≤ after.calls ∧
      (after.current.token = .dot ∨ view.calls < after.calls)) ?_ h ⟨Nat.le_refl _, .inl htoken⟩
    intro path last hlast ⟨hle, _⟩ hdot
    refine Ends.andThen (reaches_advance (hlast.ready (by simp [hdot]))) ?_
    rintro - after ⟨hsees, hless⟩
    refine Ends.mono (name_reaches hsees .propertyName) fun next final ⟨hfinal, hmore⟩ => ?_
    exact ⟨⟨hfinal, by omega⟩, by omega, .inr (by omega)⟩
  unfold property
  exact hpath.andThen fun path after ⟨hsees, hdot, _, hread⟩ =>
    reaches_pure hsees (hread.resolve_left hdot) _

/-! ## Subsets -/

/-- What a bound's token stands for, without its sign. -/
def digits : Token → Parse Int64
  | .word digits => if isWholeNumber digits then wholeNumber digits else unexpected .bound
  | .float _ => fail .fractionalIndex
  | _ => unexpected .bound

theorem digits_ends (h : view.Asked start) (token : Token) :
    (digits token).Ends view (fun _ after => token ≠ .eof ∧ after = view)
      (fun _ after => after.Asked start) := by
  unfold digits
  split
  next digits =>
    split
    · rw [ends_wholeNumber]
      split
      · exact ⟨by simp, rfl⟩
      · exact h
    · exact h
  next => exact h
  next => exact h

/-- An integer, or one behind a minus. -/
def bound : Parse Int64 := do
  let negative ← minus
  let n ← digits (← token)
  advance
  return signed negative n

theorem bound_reaches (h : view.Sees start) : bound.Reaches start view (view.calls + 1) := by
  unfold bound
  refine (minus_reaches h).andThen fun negative after hsees hle => ?_
  rw [Reaches, ends_bind, ends_token]
  refine (digits_ends hsees.toAsked _).andThen ?_
  rintro n last ⟨htoken, rfl⟩
  exact (reaches_advance_pure (hsees.ready htoken) _).mono (Nat.succ_le_succ hle)

/-- A position, or a range.  That a position is negative is the fault of its first token. -/
def entry : Parse SubsetEntry := do
  let start ← place
  let lo ← bound
  if ← minus then
    return .range lo (← bound)
  else if lo < 0 then
    throw ⟨.negativeIndex, start⟩
  else
    return .index lo

theorem entry_reaches (h : view.Sees start) : entry.Reaches start view (view.calls + 1) := by
  unfold entry
  rw [Reaches, ends_bind, ends_place]
  refine (bound_reaches h).andThen fun lo after hsees hle => ?_
  refine (minus_reaches hsees).andThen fun ranged last hlast hless => ?_
  split
  · refine (bound_reaches hlast).andThen fun hi final hfinal hmore => ?_
    exact reaches_pure hfinal (by omega) _
  · split
    · exact hlast.toAsked
    · exact reaches_pure hlast (by omega) _

/-- A subset.  The current token is its opening bracket. -/
def subset : Parse Filter := do
  advance
  if (← token) = .closeBracket then fail .emptySubset
  else return .subset (← closed .closeBracket .entryEnd entry)

theorem subset_reaches (h : view.Sees start) (htoken : view.current.token = .openBracket) :
    subset.Reaches start view (view.calls + 1) := by
  unfold subset
  refine (reaches_advance (h.ready (by simp [htoken]))).andThen fun _ after hsees hle => ?_
  rw [Reaches, ends_bind, ends_token]
  split
  · exact hsees.toAsked
  · refine (closed_reaches (by simp) (fun _ => entry_reaches) hsees .entryEnd).andThen
      fun entries last hlast hless => ?_
    exact reaches_pure hlast (by omega) _

/-! ## Filters -/

/-- A filter that starts with a name or a mark. -/
def namedFilter : Parse Filter := do
  match ← token with
  | .word _ => function
  | .less =>
    advance
    return .access (← name .accessName)
  | .greater =>
    advance
    return .assign (← name .assignName)
  | .dot => property
  | .openBracket => subset
  | _ => unexpected .filter

theorem namedFilter_reaches (h : view.Sees start) :
    namedFilter.Reaches start view (view.calls + 1) := by
  unfold namedFilter
  rw [Reaches, ends_bind, ends_token]
  split
  next => exact function_reaches h
  next htoken =>
    refine (reaches_advance (h.ready (by simp [htoken]))).andThen fun _ after hsees hle => ?_
    refine (name_reaches hsees .accessName).andThen fun name last hlast hless => ?_
    exact reaches_pure hlast (by omega) _
  next htoken =>
    refine (reaches_advance (h.ready (by simp [htoken]))).andThen fun _ after hsees hle => ?_
    refine (name_reaches hsees .assignName).andThen fun name last hlast hless => ?_
    exact reaches_pure hlast (by omega) _
  next htoken => exact property_reaches h htoken
  next htoken => exact subset_reaches h htoken
  next => exact h.toAsked

def filter : Parse Filter := do
  match ← take with
  | .matching find flags =>
    advance
    return .matching find flags
  | .substitution find replace flags =>
    advance
    return .substitution find replace flags
  | token =>
    putBack token
    namedFilter

theorem filter_reaches (h : view.Sees start) : filter.Reaches start view (view.calls + 1) := by
  unfold filter
  rw [Reaches, ends_bind, ends_take]
  split
  next htoken => exact reaches_advance_pure ((h.ready (by simp [htoken])).hold .eof) _
  next htoken => exact reaches_advance_pure ((h.ready (by simp [htoken])).hold .eof) _
  next => exact namedFilter_reaches h

/-! ## Chains -/

/-- Goes on with the chain.  A filter that starts with a mark needs no pipe before it. -/
def moreFilters : Chain → Parse Chain :=
  repeatM fun filters => do
    match ← token with
    | .pipe =>
      advance
      return .inl (filters ++ [← filter])
    | .less | .greater | .openBracket | .dot => return .inl (filters ++ [← filter])
    | .comma | .eof => return .inr filters
    | _ => unexpected .separator

theorem moreFilters_reaches (h : view.Sees start) (filters : Chain) :
    (moreFilters filters).Reaches start view view.calls := by
  refine ends_loop (fun _ after => view.calls ≤ after.calls) ?_ h (Nat.le_refl _)
  intro filters last hlast hle
  have hfilter (after : Lookahead) (hsees : after.Sees start) (hless : last.calls ≤ after.calls) :
      Ends (do return .inl (filters ++ [← filter])) after
        (AfterRound start last.calls (fun _ after => view.calls ≤ after.calls)
          fun (_ : Chain) after => after.Sees start ∧ view.calls ≤ after.calls)
        fun _ after => after.Asked start :=
    Ends.andThen (filter_reaches hsees) fun _ final ⟨hfinal, hmore⟩ =>
      ⟨⟨hfinal, by omega⟩, by omega⟩
  rw [ends_bind, ends_token]
  split
  next htoken =>
    refine Ends.andThen (reaches_advance (hlast.ready (by simp [htoken]))) ?_
    exact fun _ after ⟨hsees, hless⟩ => hfilter after hsees (by omega)
  iterate 4 exact hfilter last hlast (Nat.le_refl _)
  iterate 2 exact ⟨hlast, hle⟩
  exact hlast.toAsked

def chain : Parse Chain := do
  moreFilters [← filter]

theorem chain_reaches (h : view.Sees start) : chain.Reaches start view view.calls := by
  unfold chain
  refine (filter_reaches h).andThen fun first after hsees hle => ?_
  exact (moreFilters_reaches hsees _).mono (by omega)

/-! ## Expressions -/

def tree : Parse Tree := do
  let chains ← more .comma chain [← chain]
  if (← token) = .eof then return chains else unexpected .treeEnd

theorem tree_reaches (h : view.Sees start) : tree.Reaches start view view.calls := by
  unfold tree
  refine (chain_reaches h).andThen fun first after hsees hle => ?_
  refine (more_reaches (by simp) (fun _ => chain_reaches) hsees _).andThen
    fun chains last hlast hless => ?_
  rw [Reaches, ends_bind, ends_token]
  split
  · exact reaches_pure hlast (by omega) chains
  · exact hlast.toAsked

end Parse

/-- Parses what is ahead of a cursor. -/
def Cursor.parse (cursor : Cursor) : Option (Except SyntaxError Tree × Lookahead) :=
  ExceptT.run (do Parse.advance; Parse.tree) (.ofCursor cursor)

theorem Cursor.exists_parse (cursor : Cursor) :
    ∃ result after, cursor.parse = some (result, after) ∧ after.Asked cursor := by
  have hwhole : Parse.Reaches (do Parse.advance; Parse.tree) cursor (.ofCursor cursor) 1 :=
    (Parse.reaches_advance (Lookahead.ready_ofCursor cursor)).andThen fun _ _ hsees hle =>
      (Parse.tree_reaches hsees).mono hle
  obtain ⟨result, after, hparse, hafter⟩ := Parse.Ends.exists_run hwhole
  refine ⟨result, after, hparse, ?_⟩
  cases result with
  | ok => exact hafter.1.toAsked
  | error => exact hafter

def Tree.parse (text : String) : Except SyntaxError Tree :=
  ((Cursor.ofText text).parse.get (by
    obtain ⟨result, after, hparse, -⟩ := (Cursor.ofText text).exists_parse
    rw [hparse]
    rfl)).1

theorem Tree.exists_parse (text : String) :
    ∃ after, (Cursor.ofText text).parse = some (Tree.parse text, after) ∧
      after.Asked (Cursor.ofText text) := by
  obtain ⟨result, after, hparse, hasked⟩ := (Cursor.ofText text).exists_parse
  refine ⟨after, ?_, hasked⟩
  simp [Tree.parse, hparse]

end FilterChain
