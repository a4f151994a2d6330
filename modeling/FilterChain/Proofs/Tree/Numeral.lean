import FilterChain.Proofs.Tree.Brackets
import FilterChain.Proofs.Tree.Viability

/-!
# Signed integers in expressions

A call and a subset hold integers of 64 bits, written as digits with a sign before them.  The
digits are read before their sign is looked at, so they have to fit without it: every integer of
64 bits can be written but the smallest one.  What can be written is kept as it is, and digits
that are too many are an error where they stand.
-/

namespace FilterChain

open Grammar FilterChain.Parser

/-- A place of an expression where an integer may stand. -/
inductive Slot
  /-- Behind some arguments of a call. -/
  | argument (name : String) (arguments : List Literal)
  /-- The first number of an entry, which is an index or the lower bound of a range. -/
  | first (entries : List SubsetEntry)
  /-- The upper bound of a range. -/
  | last (entries : List SubsetEntry) (lo : Int64)

namespace Slot

/-- Tokens up to the place. -/
inductive Opens : Slot → List Token → Prop
  | argument {items : List Token} {arguments : List Literal} (outer : List Token) (name : String)
      (hfront : IsFront IsArgument items arguments) :
      Opens (.argument name arguments) (outer ++ .word name :: .openParen :: items)
  | first {items : List Token} {entries : List SubsetEntry} (outer : List Token)
      (hfront : IsFront IsEntry items entries) :
      Opens (.first entries) (outer ++ .openBracket :: items)
  | last {items low : List Token} {entries : List SubsetEntry} {lo : Int64} (outer : List Token)
      (hfront : IsFront IsEntry items entries) (hlow : IsBound low lo) :
      Opens (.last entries lo) (outer ++ .openBracket :: (items ++ (low ++ [.minus])))

/-- The signs that may stand there.  Only an argument may have a plus. -/
def Signs : Slot → List Token → Bool → Prop
  | .argument _ _, sign, negative => IsSign sign negative
  | _, sign, negative => sign = if negative then [.minus] else []

/-- The filter has the integer in that place. -/
inductive Holds (n : Int64) : Slot → Filter → Prop
  | argument (name : String) (arguments more : List Literal) :
      Holds n (.argument name arguments) (.function name (arguments ++ .integer n :: more))
  | index (entries more : List SubsetEntry) :
      Holds n (.first entries) (.subset (entries ++ .index n :: more))
  | low (entries : List SubsetEntry) (hi : Int64) (more : List SubsetEntry) :
      Holds n (.first entries) (.subset (entries ++ .range n hi :: more))
  | high (entries : List SubsetEntry) (lo : Int64) (more : List SubsetEntry) :
      Holds n (.last entries lo) (.subset (entries ++ .range lo n :: more))

/-- A way to end the filter behind the integer. -/
def closers : Slot → List Token
  | .argument _ _ => [.closeParen]
  | .first _ => [.minus, .word "0", .closeBracket]
  | .last _ _ => [.closeBracket]

/-- The filter that ends so. -/
def closed (n : Int64) : Slot → Filter
  | .argument name arguments => .function name (arguments ++ [.integer n])
  | .first entries => .subset (entries ++ [.range n 0])
  | .last entries lo => .subset (entries ++ [.range lo n])

/-! ## Up to the place -/

def phase : Slot → Phase
  | .argument name arguments => .argument name arguments
  | .first entries => .entry entries
  | .last entries lo => .highBound entries lo

end Slot

namespace Parser

open State

/-- In the brackets and at the place, the parser waits for a number. -/
theorem exists_awaits_of_opens {slot : Slot} {front : List Spanned} {reached : State}
    (hlexed : ∀ s ∈ front, Lexed s.token) (hopens : slot.Opens (front.map Spanned.token))
    (hpush : State.start.pushAll front = .ok reached) :
    ∃ state, Awaits state slot.phase reached := by
  generalize htokens : front.map Spanned.token = tokens at hopens
  cases hopens with
  | argument outer name hfront =>
      obtain ⟨state, rest, hrest, hopened⟩ := exists_opened_call hlexed htokens hpush
      exact ⟨state, takes_of_pushAll (takes_argumentFront state name hfront) hrest hopened⟩
  | first outer hfront =>
      obtain ⟨state, rest, hrest, hopened⟩ := exists_opened_subset htokens hpush
      exact ⟨state, takes_of_pushAll (takes_entryFront state hfront) hrest hopened⟩
  | last outer hfront hlow =>
      obtain ⟨state, rest, hrest, hopened⟩ := exists_opened_subset htokens hpush
      exact ⟨state, takes_of_pushAll (takes_lastFront state hfront hlow) hrest hopened⟩

end Parser

/-! ## The digits and their sign -/

namespace Slot

open State

/-- The phases behind an integer in that place. -/
inductive Behind (n : Int64) : Slot → Phase → Prop
  | argument (name : String) (arguments : List Literal) :
      Behind n (.argument name arguments) (.argumentEnd name (arguments ++ [.integer n]))
  | first {negative : Bool} {lo : Int64} (entries : List SubsetEntry) (start : Position)
      (hlo : signed negative lo = n) : Behind n (.first entries) (.lowEnd entries start negative lo)
  | last (entries : List SubsetEntry) (lo : Int64) :
      Behind n (.last entries lo) (.entryEnd (entries ++ [.range lo n]))

theorem Signs.cases {slot : Slot} {sign : List Token} {negative : Bool}
    (hsign : slot.Signs sign negative) :
    sign = [] ∨ (∃ name arguments, slot = .argument name arguments ∧ sign = [.plus]) ∨
      sign = [.minus] := by
  cases slot with
  | argument name arguments =>
      cases hsign with
      | none => exact .inl rfl
      | plus => exact .inr (.inl ⟨name, arguments, rfl, rfl⟩)
      | minus => exact .inr (.inr rfl)
  | _ =>
      obtain rfl := hsign
      cases negative with
      | false => exact .inl rfl
      | true => exact .inr (.inr rfl)

/-- Digits that fit are taken as the integer that they stand for with their sign. -/
theorem takes_number (slot : Slot) (state : State) {sign : List Token} {negative : Bool}
    {word : String} {m : Nat} (hsign : slot.Signs sign negative) (hword : IsNumber word m) :
    Takes (state.into slot.phase) (sign ++ [.word word]) fun after =>
      ∃ phase, slot.Behind (signed negative (Int64.ofNat m)) phase ∧
        after = state.into phase := by
  cases slot with
  | argument name arguments =>
      have hargument := IsArgument.integer hsign hword (toInt_signed negative hword.bound)
      refine (takes_argument state name arguments hargument).mono ?_
      rintro _ rfl
      exact ⟨_, .argument name arguments, rfl⟩
  | first entries =>
      obtain rfl := hsign
      refine (takes_lowBound state entries (isBound_signed negative hword)).mono ?_
      rintro _ ⟨start, sign, lo, rfl, hlo⟩
      exact ⟨_, .first entries start hlo, rfl⟩
  | last entries lo =>
      obtain rfl := hsign
      refine (takes_highBound state entries lo (isBound_signed negative hword)).mono ?_
      rintro _ rfl
      exact ⟨_, .last entries lo, rfl⟩

/-- Digits that do not fit are refused where they stand, with any sign before them. -/
theorem pushAll_number_error (slot : Slot) (state : State) {sign : List Spanned}
    {negative : Bool} {word : String} (hsign : slot.Signs (sign.map Spanned.token) negative)
    (hdigits : isWholeNumber word = true) (hnumber : wholeNumber? word = none) (place : Position)
    (more : List Spanned) :
    (state.into slot.phase).pushAll (sign ++ ⟨.word word, place⟩ :: more) =
      .error ⟨.integerOutOfRange word, place⟩ := by
  rcases hsign.cases with hnone | ⟨name, arguments, rfl, hplus⟩ | hminus
  · obtain rfl := List.map_eq_nil_iff.mp hnone
    cases slot <;>
      simp [pushAll_cons, push, phase, takeArgument, startEntry, takeBound, hdigits, hnumber,
        Except.bind]
  · obtain ⟨⟨token, start⟩, rfl, rfl⟩ := List.map_eq_singleton_iff.mp hplus
    simp [pushAll_cons, push, phase, takeArgument, takeSignedNumber, hdigits, hnumber,
      Except.bind, into]
  · obtain ⟨⟨token, start⟩, rfl, rfl⟩ := List.map_eq_singleton_iff.mp hminus
    cases slot <;>
      simp [pushAll_cons, push, phase, takeArgument, takeSignedNumber, startEntry, takeBound,
        hdigits, hnumber, Except.bind, into]

/-! ## Behind the integer -/

theorem Holds.of_begins {slot : Slot} {n : Int64} {filter longer : Filter}
    (hholds : slot.Holds n filter) (hbegins : filter.Begins longer) : slot.Holds n longer := by
  cases hholds <;> cases hbegins <;> rw [List.append_assoc, List.cons_append]
  · exact .argument _ _ _
  · exact .index _ _
  · exact .low _ _ _
  · exact .high _ _ _

theorem yields_highBound (state : State) (entries : List SubsetEntry) (lo : Int64) :
    Yields state ((Slot.first entries).Holds lo) (state.into (.highBound entries lo)) := by
  have hrange (hi : Int64) : Yields state ((Slot.first entries).Holds lo)
      (state.into (.entryEnd (entries ++ [.range lo hi]))) :=
    yields_open rfl fun _ hbegins => (Holds.low entries hi []).of_begins hbegins
  apply yields_of_push rfl
  intro spanned next _ hpush
  rcases push_highBound_cases hpush with rfl | ⟨hi, rfl⟩
  · apply yields_of_push rfl
    intro spanned next _ hpush
    obtain ⟨hi, rfl⟩ := push_signedHighBound_cases hpush
    exact hrange hi
  · exact hrange hi

/-- Whatever follows the integer, the filter that is read in the end has it. -/
theorem Behind.yields {slot : Slot} {n : Int64} {phase : Phase} (hbehind : slot.Behind n phase)
    (state : State) : Yields state (slot.Holds n) (state.into phase) := by
  cases hbehind with
  | argument name arguments =>
      exact yields_open rfl fun _ hbegins => (Holds.argument name arguments []).of_begins hbegins
  | first entries start hlo =>
      subst hlo
      apply yields_of_push rfl
      intro spanned next _ hpush
      rcases push_lowEnd_cases hpush with rfl | hcontinues
      · exact yields_highBound state entries _
      · exact hcontinues.yields fun _ hbegins => (Holds.index entries []).of_begins hbegins
  | last entries lo =>
      exact yields_open rfl fun _ hbegins => (Holds.high entries lo []).of_begins hbegins

theorem Behind.closes {slot : Slot} {n : Int64} {phase : Phase} (hbehind : slot.Behind n phase)
    (state : State) :
    Takes (state.into phase) slot.closers (· = state.add (slot.closed n)) := by
  cases hbehind with
  | argument name arguments => exact takes_push (fun _ => rfl) (takes_nil rfl)
  | first entries start hlo =>
      subst hlo
      refine takes_push (fun _ => rfl) ?_
      apply takes_append (takes_highBound state entries _ isBound_zero)
      rintro _ rfl
      exact takes_push (fun _ => rfl) (takes_nil rfl)
  | last entries lo => exact takes_push (fun _ => rfl) (takes_nil rfl)

theorem Behind.parse_closers {slot : Slot} {n : Int64} {phase : Phase}
    (hbehind : slot.Behind n phase) (state : State) {after : List Spanned}
    (hafter : after.map Spanned.token = slot.closers) (place : Position) :
    parseFrom (state.into phase) ⟨after, .ok place⟩ =
      .ok (state.chains ++ [state.filters ++ [slot.closed n]]) := by
  obtain ⟨_, hpush, rfl⟩ := hbehind.closes state after hafter
  rw [parseFrom, hpush]
  rfl

end Slot

theorem Parser.Awaits.pushAll_number {slot : Slot} {state reached : State}
    (hawaits : Awaits state slot.phase reached) {sign : List Spanned} {negative : Bool}
    (hsign : slot.Signs (sign.map Spanned.token) negative) (word : String) (place : Position)
    (more : List Spanned) :
    reached.pushAll (sign ++ ⟨.word word, place⟩ :: more) =
      (state.into slot.phase).pushAll (sign ++ ⟨.word word, place⟩ :: more) := by
  have hcons (first : Spanned) (rest : List Spanned) (hfirst : StartsNumber first.token) :
      reached.pushAll (first :: rest) = (state.into slot.phase).pushAll (first :: rest) := by
    rw [State.pushAll_cons, State.pushAll_cons, hawaits first.token first.place hfirst]
  rcases hsign.cases with hnone | ⟨_, _, _, hplus⟩ | hminus
  · obtain rfl := List.map_eq_nil_iff.mp hnone
    exact hcons _ _ trivial
  · obtain ⟨first, rfl, hfirst⟩ := List.map_eq_singleton_iff.mp hplus
    exact hcons first _ (by rw [hfirst]; trivial)
  · obtain ⟨first, rfl, hfirst⟩ := List.map_eq_singleton_iff.mp hminus
    exact hcons first _ (by rw [hfirst]; trivial)

theorem Grammar.Viable.exists_pushAll {front : List Spanned}
    (hviable : Viable (front.map Spanned.token)) :
    ∃ reached, State.start.pushAll front = .ok reached := by
  cases hpush : State.start.pushAll front with
  | ok reached => exact ⟨reached, rfl⟩
  | error e =>
      obtain ⟨before, spanned, after, middle, rfl, hbefore, hrefused⟩ := exists_refused hpush
      refine absurd ?_ (not_viable_of_push_eq_error hbefore hrefused)
      obtain ⟨more, full, tree, htree, heq⟩ := hviable
      refine ⟨after.map Spanned.token ++ more, full, tree, htree, ?_⟩
      rw [← heq]
      simp

/-- A signed integer of a text, behind tokens that lead up to it. -/
structure Numeral (slot : Slot) (front : List Spanned) (text : String) where
  sign : List Spanned
  negative : Bool
  digits : String
  place : Position
  after : List Spanned
  tokens_eq : (Lexing.ofText text).tokens = front ++ (sign ++ ⟨.word digits, place⟩ :: after)
  signs : slot.Signs (sign.map Spanned.token) negative
  isDigit : ∀ c ∈ digits.toList, c.isDigit = true

namespace Numeral

variable {slot : Slot} {front : List Spanned} {text : String} (numeral : Numeral slot front text)

def magnitude : Nat := Decimal.natOfDigits numeral.digits.toList

/-- The integer that the digits and the sign stand for, however large. -/
def value : Int := if numeral.negative then -(numeral.magnitude : Int) else numeral.magnitude

/-- The tokens up to the digits, which are the last one. -/
def upTo : List Spanned :=
  front ++ (numeral.sign ++ [⟨.word numeral.digits, numeral.place⟩])

theorem tokens_eq_upTo : (Lexing.ofText text).tokens = numeral.upTo ++ numeral.after := by
  rw [numeral.tokens_eq]
  simp [upTo]

theorem lexed : ∀ s ∈ numeral.upTo ++ numeral.after, Lexed s.token := by
  rw [← numeral.tokens_eq_upTo]
  exact Lexing.lexed_of_mem_tokens text

theorem isNumber (hfits : numeral.magnitude < 2 ^ 63) :
    IsNumber numeral.digits numeral.magnitude where
  ne_empty := by
    intro hempty
    have hlexed := numeral.lexed ⟨.word numeral.digits, numeral.place⟩ (by simp [upTo])
    exact hlexed.2 (congrArg Token.word hempty)
  digits := numeral.isDigit
  value := rfl
  bound := hfits

/-- The digits fit unless the integer is too large, too small, or the smallest one. -/
theorem value_mem_iff :
    (Int64.minValue.toInt < numeral.value ∧ numeral.value ≤ Int64.maxValue.toInt) ↔
      numeral.magnitude < 2 ^ 63 := by
  have hmin : Int64.minValue.toInt = -2 ^ 63 := by decide
  have hmax : Int64.maxValue.toInt = 2 ^ 63 - 1 := by decide
  rw [hmin, hmax, value]
  split <;> omega

section

variable {state reached : State} (hreached : State.start.pushAll front = .ok reached)
  (hawaits : Awaits state slot.phase reached)
include hreached hawaits

theorem exists_behind (hfits : numeral.magnitude < 2 ^ 63) :
    ∃ phase n, slot.Behind n phase ∧ n.toInt = numeral.value ∧
      State.start.pushAll numeral.upTo = .ok (state.into phase) := by
  have hword := numeral.isNumber hfits
  obtain ⟨_, hpush, phase, hbehind, rfl⟩ := slot.takes_number state numeral.signs hword
    (numeral.sign ++ [⟨.word numeral.digits, numeral.place⟩]) (by simp)
  refine ⟨phase, _, hbehind, toInt_signed numeral.negative hfits, ?_⟩
  rw [upTo, State.pushAll_append _ hreached, hawaits.pushAll_number numeral.signs]
  exact hpush

theorem parse_eq_error (hfits : ¬ numeral.magnitude < 2 ^ 63) :
    Tree.parse text = .error ⟨.integerOutOfRange numeral.digits, numeral.place⟩ := by
  have hdigits : isWholeNumber numeral.digits = true := List.all_eq_true.mpr numeral.isDigit
  have hnumber : wholeNumber? numeral.digits = none := if_neg hfits
  rw [Tree.parse_eq]
  apply Lexing.parse_of_pushAll_error
  rw [numeral.tokens_eq, State.pushAll_append _ hreached, hawaits.pushAll_number numeral.signs]
  exact slot.pushAll_number_error state numeral.signs hdigits hnumber _ _

end

/-- Behind the digits, the rest of the text is read on. -/
theorem parse_eq {taken : State} (htaken : State.start.pushAll numeral.upTo = .ok taken) :
    Tree.parse text = parseFrom taken ⟨numeral.after, (Lexing.ofText text).ending⟩ := by
  rw [Tree.parse_eq, ← parseFrom_append htaken, ← numeral.tokens_eq_upTo]
  rfl

end Numeral

/-- A signed integer in a call or a subset is taken if it has 64 bits and is not the smallest one
of these, and then every tree that is read of the text has it in its place.  In any other case the
digits are an error where they stand. -/
theorem Tree.parse_numeral {slot : Slot} {front : List Spanned}
    (hviable : Viable (front.map Spanned.token)) (hopens : slot.Opens (front.map Spanned.token)) :
    ∃ chains filters, ∀ text (numeral : Numeral slot front text),
      if Int64.minValue.toInt < numeral.value ∧ numeral.value ≤ Int64.maxValue.toInt then
        ∃ n : Int64, n.toInt = numeral.value ∧ Viable (numeral.upTo.map Spanned.token) ∧
          (∀ place, numeral.after.map Spanned.token = slot.closers →
            (Lexing.ofText text).ending = .ok place →
            Tree.parse text = .ok (chains ++ [filters ++ [slot.closed n]])) ∧
          ∀ tree, Tree.parse text = .ok tree → ∃ filter more others, slot.Holds n filter ∧
            tree = chains ++ (filters ++ filter :: more) :: others
      else Tree.parse text = .error ⟨.integerOutOfRange numeral.digits, numeral.place⟩ := by
  by_cases hlexed : ∀ s ∈ front, Lexed s.token
  · obtain ⟨reached, hreached⟩ := hviable.exists_pushAll
    obtain ⟨state, hawaits⟩ := exists_awaits_of_opens hlexed hopens hreached
    refine ⟨state.chains, state.filters, fun text numeral => ?_⟩
    split
    next hvalue =>
      have hfits := numeral.value_mem_iff.mp hvalue
      obtain ⟨phase, n, hbehind, hn, htaken⟩ := numeral.exists_behind hreached hawaits hfits
      obtain ⟨hbefore, hafter⟩ := List.forall_mem_append.mp numeral.lexed
      have hread := hasRead_start.pushAll hbefore htaken
      rw [numeral.parse_eq htaken]
      refine ⟨n, hn, hread.viable, ?_, ?_⟩
      · intro place hclosers hending
        rw [hending]
        exact hbehind.parse_closers state hclosers place
      · intro tree htree
        exact hbehind.yields state numeral.after _ tree hafter htree
    next hvalue =>
      exact numeral.parse_eq_error hreached hawaits (mt numeral.value_mem_iff.mpr hvalue)
  · -- Without a text that starts with these tokens there is nothing to show.
    refine ⟨[], [], fun text numeral => absurd (fun s hs => ?_) hlexed⟩
    exact numeral.lexed s (by simp [Numeral.upTo, hs])

/-- Zeros in front of an argument, and an upper bound that is too large by one. -/
theorem Tree.parse_numeral_of_zeros_and_overflow :
    (∃ n chains filters, Int64.toInt n = -42 ∧ Tree.parse "f('a', -0042)" =
      .ok (chains ++ [filters ++ [.function "f" [.string "a", .integer n]]])) ∧
    Tree.parse "[1-9223372036854775808]" =
      .error ⟨.integerOutOfRange "9223372036854775808", ⟨1, 4⟩⟩ := by
  constructor
  · let front : List Spanned :=
      [⟨.word "f", ⟨1, 1⟩⟩, ⟨.openParen, ⟨1, 2⟩⟩, ⟨.string "a", ⟨1, 3⟩⟩, ⟨.comma, ⟨1, 6⟩⟩]
    have hread : HasRead _ ([] ++ front.map Spanned.token) :=
      hasRead_start.pushAll (by simp [front, Lexed]) rfl
    have hitem : IsListOf IsArgument [.string "a"] [.string "a"] := .one (.string "a")
    have hopens : Slot.Opens (.argument "f" [.string "a"]) (front.map Spanned.token) :=
      .argument [] "f" (.comma hitem)
    let numeral : Numeral (.argument "f" [.string "a"]) front "f('a', -0042)" :=
      { sign := [⟨.minus, ⟨1, 8⟩⟩], negative := true, digits := "0042", place := ⟨1, 9⟩
        after := [⟨.closeParen, ⟨1, 13⟩⟩], tokens_eq := by cbv
        signs := .minus, isDigit := by simp }
    obtain ⟨chains, filters, hparse⟩ := Tree.parse_numeral hread.viable hopens
    have htaken := hparse _ numeral
    rw [if_pos (by decide)] at htaken
    obtain ⟨n, hn, -, hclosed, -⟩ := htaken
    exact ⟨n, chains, filters, hn.trans (by decide), hclosed ⟨1, 14⟩ rfl (by cbv)⟩
  · let front : List Spanned := [⟨.openBracket, ⟨1, 1⟩⟩, ⟨.word "1", ⟨1, 2⟩⟩, ⟨.minus, ⟨1, 3⟩⟩]
    have hread : HasRead _ ([] ++ front.map Spanned.token) :=
      hasRead_start.pushAll (by simp [front, Lexed]) rfl
    have hone : IsNumber "1" 1 := ⟨by decide, by simp, rfl, by decide⟩
    have hopens : Slot.Opens (.last [] 1) (front.map Spanned.token) :=
      .last [] .nil (.plain hone (by decide))
    let numeral : Numeral (.last [] 1) front "[1-9223372036854775808]" :=
      { sign := [], negative := false, digits := "9223372036854775808", place := ⟨1, 4⟩
        after := [⟨.closeBracket, ⟨1, 23⟩⟩], tokens_eq := by cbv
        signs := rfl, isDigit := by simp }
    obtain ⟨chains, filters, hparse⟩ := Tree.parse_numeral hread.viable hopens
    have hrefused := hparse _ numeral
    rw [if_neg (by decide)] at hrefused
    exact hrefused

/-- The smallest integer of 64 bits cannot be written, in no place. -/
theorem Tree.parse_refuses_smallest_integer :
    Int64.minValue.toInt = -(Decimal.natOfDigits "9223372036854775808".toList : Int) ∧
    Tree.parse "f(-9223372036854775808)" =
      .error ⟨.integerOutOfRange "9223372036854775808", ⟨1, 4⟩⟩ ∧
    Tree.parse "[-9223372036854775808--1]" =
      .error ⟨.integerOutOfRange "9223372036854775808", ⟨1, 3⟩⟩ ∧
    Tree.parse "[0--9223372036854775808]" =
      .error ⟨.integerOutOfRange "9223372036854775808", ⟨1, 5⟩⟩ :=
  ⟨by decide, by cbv, by cbv, by cbv⟩

end FilterChain
