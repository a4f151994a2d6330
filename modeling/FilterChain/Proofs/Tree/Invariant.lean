import FilterChain.Proofs.Tree.Acceptance

/-!
# What a state of the parser has read

A state of the parser determines the grammatical shape of the tokens behind it: the
chains that have ended, the open chain, and the filter under construction.  Every
token that the parser takes keeps this invariant, so it holds of every state that a
text leads to, and at the end of a text it is a derivation.
-/

namespace FilterChain.Parser

open Grammar State

/-! ## Shapes of unfinished parts -/

/-- No items, or some with a comma behind them: another item may come. -/
inductive IsFront {α : Type} (item : List Token → α → Prop) : List Token → List α → Prop
  | nil : IsFront item [] []
  | comma {tokens : List Token} {xs : List α} (hlist : IsListOf item tokens xs) :
      IsFront item (tokens ++ [.comma]) xs

theorem IsFront.more {α : Type} {item : List Token → α → Prop} {front tokens : List Token}
    {xs : List α} {x : α} (hfront : IsFront item front xs) (hitem : item tokens x) :
    IsListOf item (front ++ tokens) (xs ++ [x]) := by
  cases hfront with
  | nil => exact .one hitem
  | comma hlist =>
      rw [List.append_assoc]
      exact .more hlist hitem

/-- The tokens of a filter under construction. -/
inductive Pending : Phase → List Token → Prop
  | accessName : Pending .accessName [.less]
  | assignName : Pending .assignName [.greater]
  | firstName : Pending (.propertyName []) [.dot]
  | propertyName {tokens : List Token} {path : List String} (hpath : IsPath tokens path) :
      Pending (.propertyName path) (tokens ++ [.dot])
  | property {tokens : List Token} {path : List String} (hpath : IsPath tokens path) :
      Pending (.property path) tokens
  | function (name : String) : Pending (.function name) [.word name]
  | argumentStart (name : String) : Pending (.argumentStart name) [.word name, .openParen]
  | argument {tokens : List Token} {arguments : List Literal} (name : String)
      (hfront : IsFront IsArgument tokens arguments) :
      Pending (.argument name arguments) (.word name :: .openParen :: tokens)
  | signedNumber {tokens sign : List Token} {arguments : List Literal} {negative : Bool}
      (name : String) (hfront : IsFront IsArgument tokens arguments)
      (hsign : IsSign sign negative) :
      Pending (.signedNumber name arguments negative)
        (.word name :: .openParen :: (tokens ++ sign))
  | argumentEnd {tokens : List Token} {arguments : List Literal} (name : String)
      (harguments : IsListOf IsArgument tokens arguments) :
      Pending (.argumentEnd name arguments) (.word name :: .openParen :: tokens)
  | subsetStart : Pending .subsetStart [.openBracket]
  | entry {tokens : List Token} {entries : List SubsetEntry}
      (hfront : IsFront IsEntry tokens entries) : Pending (.entry entries) (.openBracket :: tokens)
  | lowBound {tokens : List Token} {entries : List SubsetEntry} (start : Position)
      (hfront : IsFront IsEntry tokens entries) :
      Pending (.lowBound entries start) (.openBracket :: (tokens ++ [.minus]))
  | lowEnd {tokens : List Token} {entries : List SubsetEntry} {word : String} {m : Nat}
      (start : Position) (negative : Bool) (hfront : IsFront IsEntry tokens entries)
      (hword : IsNumber word m) :
      Pending (.lowEnd entries start negative (Int64.ofNat m))
        (.openBracket :: (tokens ++ ((if negative then [.minus] else []) ++ [.word word])))
  | highBound {tokens low : List Token} {entries : List SubsetEntry} {lo : Int64}
      (hfront : IsFront IsEntry tokens entries) (hlo : IsBound low lo) :
      Pending (.highBound entries lo) (.openBracket :: (tokens ++ (low ++ [.minus])))
  | signedHighBound {tokens low : List Token} {entries : List SubsetEntry} {lo : Int64}
      (hfront : IsFront IsEntry tokens entries) (hlo : IsBound low lo) :
      Pending (.signedHighBound entries lo) (.openBracket :: (tokens ++ (low ++ [.minus, .minus])))
  | entryEnd {tokens : List Token} {entries : List SubsetEntry}
      (hentries : IsListOf IsEntry tokens entries) :
      Pending (.entryEnd entries) (.openBracket :: tokens)

/-- Another filter may follow: the chain is empty, or ends with a pipe, or the tokens of the
filter abut it. -/
inductive Leads : List Token → Chain → List Token → Prop
  | empty (tokens : List Token) : Leads [] [] tokens
  | pipe {front : List Token} {chain : Chain} (hchain : IsChain front chain)
      (tokens : List Token) : Leads (front ++ [.pipe]) chain tokens
  | abutting {front tokens : List Token} {chain : Chain} (hchain : IsChain front chain)
      (habuts : Abuts chain tokens) : Leads front chain tokens

theorem Leads.isChain {front tokens : List Token} {chain : Chain} {filter : Filter}
    (hleads : Leads front chain tokens) (hfilter : IsFilter tokens filter) :
    IsChain (front ++ tokens) (chain ++ [filter]) := by
  cases hleads with
  | empty => exact .one hfilter
  | pipe hchain =>
      rw [List.append_assoc]
      exact .piped hchain hfilter
  | abutting hchain habuts => exact .abutting hchain hfilter habuts

theorem Leads.append {front tokens : List Token} {chain : Chain}
    (hleads : Leads front chain tokens) (hne : tokens ≠ []) (more : List Token) :
    Leads front chain (tokens ++ more) := by
  cases hleads with
  | empty => exact .empty _
  | pipe hchain => exact .pipe hchain _
  | abutting hchain habuts =>
      cases tokens with
      | nil => exact absurd rfl hne
      | cons first rest => exact .abutting hchain habuts

/-- The tokens that a state has read. -/
inductive HasRead : State → List Token → Prop
  | filter {front tokens : List Token} {chains : Tree} {chain : Chain}
      (htree : IsFront IsChain front chains) (hleads : ∀ more, Leads tokens chain more) :
      HasRead ⟨chains, chain, .filter⟩ (front ++ tokens)
  | filterEnd {front tokens : List Token} {chains : Tree} {chain : Chain}
      (htree : IsFront IsChain front chains) (hchain : IsChain tokens chain)
      (hpath : ∀ path, chain.getLast? ≠ some (.property path)) :
      HasRead ⟨chains, chain, .filterEnd⟩ (front ++ tokens)
  | pending {front tokens more : List Token} {chains : Tree} {chain : Chain} {phase : Phase}
      (htree : IsFront IsChain front chains) (hleads : Leads tokens chain more)
      (hpending : Pending phase more) : HasRead ⟨chains, chain, phase⟩ (front ++ (tokens ++ more))

theorem Pending.ne_nil {phase : Phase} {tokens : List Token} (hpending : Pending phase tokens) :
    tokens ≠ [] := by
  cases hpending with
  | propertyName => simp
  | property hpath => cases hpath <;> simp
  | _ => simp

/-! ## What the helpers of the parser take -/

theorem atToken_eq_ok_iff {α : Type} {place : Position} {x : Except SyntaxFault α} {a : α} :
    atToken place x = .ok a ↔ x = .ok a := by
  cases x <;> simp

theorem map_eq_ok_iff {α β : Type} {x : Except SyntaxFault α} {f : α → β} {b : β} :
    x.map f = .ok b ↔ ∃ a, x = .ok a ∧ f a = b := by
  cases x <;> simp

theorem map_eq_error_iff {α β ε : Type} {x : Except ε α} {f : α → β} {e : ε} :
    x.map f = .error e ↔ x = .error e := by
  cases x <;> simp

/-- No token is the end of the text or an empty word. -/
def Lexed (token : Token) : Prop := token ≠ .eof ∧ token ≠ .word ""

theorem isNumber_of_wholeNumber? {word : String} {n : Int64} (hlexed : Lexed (.word word))
    (hdigits : isWholeNumber word = true) (hnumber : wholeNumber? word = some n) :
    ∃ m, IsNumber word m ∧ n = Int64.ofNat m := by
  unfold wholeNumber? at hnumber
  dsimp only at hnumber
  split at hnumber
  next hbound =>
    cases hnumber
    refine ⟨_, ⟨?_, List.all_eq_true.mp hdigits, rfl, hbound⟩, rfl⟩
    rintro rfl
    exact hlexed.2 rfl
  next => cases hnumber

theorem takeBound_eq_ok {token : Token} {n : Int64} (hlexed : Lexed token)
    (htake : takeBound token = .ok n) :
    ∃ word m, token = .word word ∧ IsNumber word m ∧ n = Int64.ofNat m := by
  cases token with
  | word word =>
      simp only [takeBound] at htake
      split at htake
      next hdigits =>
        split at htake
        next hnumber =>
          cases htake
          obtain ⟨m, hword, rfl⟩ := isNumber_of_wholeNumber? hlexed hdigits hnumber
          exact ⟨word, m, rfl, hword, rfl⟩
        next => cases htake
      next => cases htake
  | _ => cases htake

theorem map_takeBound_eq_ok {α : Type} {token : Token} {f : Int64 → α} {a : α}
    (hlexed : Lexed token) (htake : (takeBound token).map f = .ok a) :
    ∃ word m, token = .word word ∧ IsNumber word m ∧ a = f (Int64.ofNat m) := by
  obtain ⟨n, hn, rfl⟩ := map_eq_ok_iff.mp htake
  obtain ⟨word, m, hword, hnumber, rfl⟩ := takeBound_eq_ok hlexed hn
  exact ⟨word, m, hword, hnumber, rfl⟩

theorem takeSignedNumber_eq_ok {state after : State} {name : String} {arguments : List Literal}
    {negative : Bool} {sign : List Token} {token : Token} (hlexed : Lexed token)
    (hsign : IsSign sign negative)
    (htake : takeSignedNumber state name arguments negative token = .ok after) :
    ∃ argument, IsArgument (sign ++ [token]) argument ∧
      after = state.into (.argumentEnd name (arguments ++ [argument])) := by
  cases token with
  | float x =>
      cases htake
      exact ⟨_, .float x hsign, rfl⟩
  | word word =>
      simp only [takeSignedNumber] at htake
      split at htake
      next hdigits =>
        split at htake
        next hnumber =>
          cases htake
          obtain ⟨m, hword, rfl⟩ := isNumber_of_wholeNumber? hlexed hdigits hnumber
          exact ⟨_, .integer hsign hword (toInt_signed negative hword.bound), rfl⟩
        next => cases htake
      next => cases htake
  | _ => cases htake

theorem takeArgument_eq_ok {state after : State} {name : String} {arguments : List Literal}
    {token : Token} (hlexed : Lexed token)
    (htake : takeArgument state name arguments token = .ok after) :
    (∃ negative, IsSign [token] negative ∧
        after = state.into (.signedNumber name arguments negative)) ∨
      ∃ argument, IsArgument [token] argument ∧
        after = state.into (.argumentEnd name (arguments ++ [argument])) := by
  cases token with
  | minus =>
      cases htake
      exact .inl ⟨true, .minus, rfl⟩
  | plus =>
      cases htake
      exact .inl ⟨false, .plus, rfl⟩
  | string text =>
      cases htake
      exact .inr ⟨_, .string text, rfl⟩
  | float x =>
      cases htake
      exact .inr ⟨_, .float x .none, rfl⟩
  | word word =>
      right
      simp only [takeArgument] at htake
      split at htake
      next hdigits =>
        split at htake
        next hnumber =>
          cases htake
          obtain ⟨m, hword, rfl⟩ := isNumber_of_wholeNumber? hlexed hdigits hnumber
          exact ⟨_, .integer .none hword (toInt_signed false hword.bound), rfl⟩
        next => cases htake
      next => cases htake
  | _ => cases htake

theorem isBound_signed {word : String} {m : Nat} (negative : Bool) (hword : IsNumber word m) :
    IsBound ((if negative then [.minus] else []) ++ [.word word])
      (signed negative (Int64.ofNat m)) := by
  have hvalue := toInt_signed negative hword.bound
  cases negative with
  | false => exact .plain hword hvalue
  | true => exact .negative hword hvalue

/-! ## One token more -/

/-- What the tokens of a filter lead to: they are a part of one, or all of it. -/
inductive Grows (state : State) : List Token → State → Prop
  | phase {tokens : List Token} {phase : Phase} (hpending : Pending phase tokens) :
      Grows state tokens (state.into phase)
  | filter {tokens : List Token} {filter : Filter} (hfilter : IsFilter tokens filter)
      (hpath : ∀ path, filter ≠ .property path) : Grows state tokens (state.add filter)

theorem Grows.into {state after : State} {tokens : List Token}
    (hgrows : Grows state tokens after) (phase : Phase) :
    Grows (state.into phase) tokens after := by
  cases hgrows with
  | phase hpending => exact .phase hpending
  | filter hfilter hpath => exact .filter hfilter hpath

theorem grows_startFilter {state after : State} {token : Token}
    (hstart : startFilter state token = .ok after) : Grows state [token] after := by
  cases token with
  | word name =>
      cases hstart
      exact .phase (.function name)
  | less =>
      cases hstart
      exact .phase .accessName
  | greater =>
      cases hstart
      exact .phase .assignName
  | dot =>
      cases hstart
      exact .phase .firstName
  | openBracket =>
      cases hstart
      exact .phase .subsetStart
  | matching find flags =>
      cases hstart
      exact .filter (.matching find flags) (by simp)
  | substitution find replace flags =>
      cases hstart
      exact .filter (.substitution find replace flags) (by simp)
  | _ => cases hstart

theorem grows_takeArgument {state after : State} {name : String} {arguments : List Literal}
    {tokens : List Token} {token : Token} (hlexed : Lexed token)
    (hfront : IsFront IsArgument tokens arguments)
    (htake : takeArgument state name arguments token = .ok after) :
    Grows state (.word name :: .openParen :: (tokens ++ [token])) after := by
  rcases takeArgument_eq_ok hlexed htake with ⟨negative, hsign, rfl⟩ | ⟨argument, hargument, rfl⟩
  · exact .phase (.signedNumber name hfront hsign)
  · exact .phase (.argumentEnd name (hfront.more hargument))

theorem grows_startEntry {state after : State} {entries : List SubsetEntry}
    {tokens : List Token} {token : Token} {place : Position} (hlexed : Lexed token)
    (hfront : IsFront IsEntry tokens entries)
    (hstart : startEntry state entries place token = .ok after) :
    Grows state (.openBracket :: (tokens ++ [token])) after := by
  by_cases hminus : token = .minus
  · subst token
    cases hstart
    exact .phase (.lowBound place hfront)
  · have hbound : (takeBound token).map
        (fun lo => state.into (.lowEnd entries place false lo)) = .ok after := by
      cases token <;> first | exact hstart | exact absurd rfl hminus
    obtain ⟨word, m, rfl, hword, rfl⟩ := map_takeBound_eq_ok hlexed hbound
    exact .phase (.lowEnd place false hfront hword)

theorem grows_endEntry {state after : State} {entries : List SubsetEntry}
    {tokens : List Token} {token : Token} (hentries : IsListOf IsEntry tokens entries)
    (hend : endEntry state entries token = .ok after) :
    Grows state (.openBracket :: (tokens ++ [token])) after := by
  cases token with
  | comma =>
      cases hend
      exact .phase (.entry (.comma hentries))
  | closeBracket =>
      cases hend
      exact .filter (.subset hentries) (by simp)
  | _ => cases hend

/-- Behind a lower bound, any token but a minus ends the entry. -/
theorem push_lowEnd (state : State) (entries : List SubsetEntry) (start : Position)
    (negative : Bool) (lo : Int64) {token : Token} (htoken : token ≠ .minus)
    (place : Position) :
    (state.into (.lowEnd entries start negative lo)).push ⟨token, place⟩ =
      if signed negative lo < 0 then .error ⟨.negativeIndex, start⟩
      else atToken place (endEntry state (entries ++ [.index (signed negative lo)]) token) := by
  cases token <;> first | rfl | exact absurd rfl htoken

theorem push_highBound (state : State) (entries : List SubsetEntry) (lo : Int64)
    {token : Token} (htoken : token ≠ .minus) (place : Position) :
    (state.into (.highBound entries lo)).push ⟨token, place⟩ =
      atToken place ((takeBound token).map fun hi =>
        state.into (.entryEnd (entries ++ [.range lo hi]))) := by
  cases token <;> first | rfl | exact absurd rfl htoken

theorem grows_lowEnd (state : State) {after : State} {tokens : List Token}
    {entries : List SubsetEntry} {word : String} {m : Nat} {start place : Position}
    {negative : Bool} {token : Token}
    (hfront : IsFront IsEntry tokens entries) (hword : IsNumber word m)
    (hpush : (state.into (.lowEnd entries start negative (Int64.ofNat m))).push
      ⟨token, place⟩ = .ok after) :
    Grows state (.openBracket ::
      (tokens ++ ((if negative then [.minus] else []) ++ [.word word])) ++ [token]) after := by
  have hlo := isBound_signed negative hword
  by_cases hminus : token = .minus
  · subst token
    cases hpush
    simp only [List.cons_append, List.append_assoc tokens]
    exact .phase (.highBound hfront hlo)
  · rw [push_lowEnd state entries start negative (Int64.ofNat m) hminus place] at hpush
    split at hpush
    next => cases hpush
    next hlt =>
      have hle : 0 ≤ signed negative (Int64.ofNat m) := by
        rw [Int64.lt_iff_toInt_lt] at hlt
        rw [Int64.le_iff_toInt_le]
        omega
      exact grows_endEntry (hfront.more (.index hlo hle)) (atToken_eq_ok_iff.mp hpush)

theorem grows_highBound (state : State) {after : State} {tokens low : List Token}
    {entries : List SubsetEntry} {lo : Int64} {place : Position} {token : Token}
    (hfront : IsFront IsEntry tokens entries) (hlo : IsBound low lo) (hlexed : Lexed token)
    (hpush : (state.into (.highBound entries lo)).push ⟨token, place⟩ = .ok after) :
    Grows state (.openBracket :: (tokens ++ (low ++ [.minus])) ++ [token]) after := by
  simp only [List.cons_append, List.append_assoc]
  by_cases hminus : token = .minus
  · subst token
    cases hpush
    exact .phase (.signedHighBound hfront hlo)
  · rw [push_highBound state entries lo hminus place] at hpush
    obtain ⟨word, m, rfl, hword, rfl⟩ := map_takeBound_eq_ok hlexed (atToken_eq_ok_iff.mp hpush)
    have hhi := isBound_signed false hword
    exact .phase (.entryEnd (hfront.more (.range hlo hhi)))

/-- A token goes on with the filter under construction, or the filter ends before it. -/
theorem grows_push {state after : State} {tokens : List Token} {token : Token}
    {place : Position} (hpending : Pending state.phase tokens) (hlexed : Lexed token)
    (hpush : state.push ⟨token, place⟩ = .ok after) :
    Grows state (tokens ++ [token]) after ∨
      ((∃ settled, state.settled? = some settled) ∧ ¬ Extends state token) := by
  obtain ⟨chains, filters, phase⟩ := state
  cases hpending with
  | accessName =>
      cases token with
      | word name =>
          cases hpush
          exact .inl (.filter (.access name) (by simp))
      | _ => cases hpush
  | assignName =>
      cases token with
      | word name =>
          cases hpush
          exact .inl (.filter (.assign name) (by simp))
      | _ => cases hpush
  | firstName =>
      cases token with
      | word name =>
          cases hpush
          exact .inl (.phase (.property (.one name)))
      | _ => cases hpush
  | @propertyName tokens path hpath =>
      cases token with
      | word name =>
          cases hpush
          rw [List.append_assoc]
          exact .inl (.phase (.property (.more name hpath)))
      | _ => cases hpush
  | property hpath =>
      cases token with
      | dot =>
          cases hpush
          exact .inl (.phase (.propertyName hpath))
      | _ => exact .inr ⟨⟨_, rfl⟩, by simp [Extends]⟩
  | function name =>
      cases token with
      | openParen =>
          cases hpush
          exact .inl (.phase (.argumentStart name))
      | _ => exact .inr ⟨⟨_, rfl⟩, by simp [Extends]⟩
  | argumentStart name =>
      have hclose : token ≠ .closeParen := by
        rintro rfl
        cases hpush
      have hsame := push_argumentStart ⟨chains, filters, .filter⟩ name hclose place
      have htake := hsame.symm.trans hpush
      exact .inl (grows_takeArgument hlexed .nil (atToken_eq_ok_iff.mp htake))
  | argument name hfront =>
      exact .inl (grows_takeArgument hlexed hfront (atToken_eq_ok_iff.mp hpush))
  | signedNumber name hfront hsign =>
      obtain ⟨argument, hargument, rfl⟩ :=
        takeSignedNumber_eq_ok hlexed hsign (atToken_eq_ok_iff.mp hpush)
      left
      simp only [List.cons_append, List.append_assoc]
      exact .phase (.argumentEnd name (hfront.more hargument))
  | argumentEnd name harguments =>
      cases token with
      | comma =>
          cases hpush
          exact .inl (.phase (.argument name (.comma harguments)))
      | closeParen =>
          cases hpush
          exact .inl (.filter (.call name harguments) (by simp))
      | _ => cases hpush
  | subsetStart =>
      have hclose : token ≠ .closeBracket := by
        rintro rfl
        cases hpush
      have hsame := push_subsetStart ⟨chains, filters, .filter⟩ hclose place
      have hstart := hsame.symm.trans hpush
      exact .inl (grows_startEntry hlexed .nil (atToken_eq_ok_iff.mp hstart))
  | entry hfront =>
      exact .inl (grows_startEntry hlexed hfront (atToken_eq_ok_iff.mp hpush))
  | lowBound start hfront =>
      obtain ⟨word, m, rfl, hword, rfl⟩ := map_takeBound_eq_ok hlexed (atToken_eq_ok_iff.mp hpush)
      left
      simp only [List.cons_append, List.append_assoc]
      exact .phase (.lowEnd start true hfront hword)
  | lowEnd start negative hfront hword =>
      exact .inl ((grows_lowEnd ⟨chains, filters, .filter⟩ hfront hword hpush).into _)
  | highBound hfront hlo =>
      exact .inl ((grows_highBound ⟨chains, filters, .filter⟩ hfront hlo hlexed hpush).into _)
  | @signedHighBound tokens low entries lo hfront hlo =>
      left
      simp only [List.cons_append, List.append_assoc]
      obtain ⟨word, m, rfl, hword, rfl⟩ := map_takeBound_eq_ok hlexed (atToken_eq_ok_iff.mp hpush)
      have hhi := isBound_signed true hword
      exact .phase (.entryEnd (hfront.more (.range hlo hhi)))
  | entryEnd hentries =>
      exact .inl (grows_endEntry hentries (atToken_eq_ok_iff.mp hpush))

theorem hasRead_of_grows {state after : State} {front tokens more : List Token}
    (htree : IsFront IsChain front state.chains) (hleads : Leads tokens state.filters more)
    (hgrows : Grows state more after) : HasRead after (front ++ (tokens ++ more)) := by
  cases hgrows with
  | phase hpending => exact .pending htree hleads hpending
  | filter hfilter hpath =>
      refine .filterEnd htree (hleads.isChain hfilter) ?_
      intro path hlast
      rw [List.getLast?_append, List.getLast?_singleton] at hlast
      exact hpath path (Option.some.inj hlast)

theorem hasRead_continueChain {settled after : State} {front tokens : List Token}
    {token : Token} (htree : IsFront IsChain front settled.chains)
    (hchain : IsChain tokens settled.filters) (hlexed : Lexed token)
    (hdot : token = .dot → ∀ path, settled.filters.getLast? ≠ some (.property path))
    (hcontinue : continueChain settled token = .ok after) :
    HasRead after (front ++ (tokens ++ [token])) := by
  cases token with
  | pipe =>
      cases hcontinue
      exact .filter htree (.pipe hchain)
  | comma =>
      cases hcontinue
      have hfront := IsFront.comma (htree.more hchain)
      have hread := HasRead.filter hfront .empty
      rw [List.append_nil, List.append_assoc] at hread
      exact hread
  | less =>
      exact hasRead_of_grows htree (.abutting hchain (.inl rfl)) (grows_startFilter hcontinue)
  | greater =>
      exact hasRead_of_grows htree (.abutting hchain (.inr (.inl rfl)))
        (grows_startFilter hcontinue)
  | openBracket =>
      exact hasRead_of_grows htree (.abutting hchain (.inr (.inr (.inl rfl))))
        (grows_startFilter hcontinue)
  | dot =>
      exact hasRead_of_grows htree (.abutting hchain (.inr (.inr (.inr ⟨rfl, hdot rfl⟩))))
        (grows_startFilter hcontinue)
  | eof => exact absurd rfl hlexed.1
  | _ => cases hcontinue

/-- The tokens of a state whose last filter may end there are chains, where a point may only
be the next token if the last filter is no path. -/
theorem exists_chain_of_settled {state settled : State} {tokens : List Token}
    (hread : HasRead state tokens) (hsettled : state.settled? = some settled) :
    ∃ front last, tokens = front ++ last ∧ IsFront IsChain front settled.chains ∧
      IsChain last settled.filters ∧
      (¬ Extends state .dot → ∀ path, settled.filters.getLast? ≠ some (.property path)) := by
  cases hread with
  | filter => cases hsettled
  | @filterEnd front last _ _ htree hchain hpath =>
      cases hsettled
      exact ⟨front, last, rfl, htree, hchain, fun _ => hpath⟩
  | @pending front last more chains chain phase htree hleads hpending =>
      cases hpending with
      | property hpath =>
          cases hsettled
          refine ⟨front, _, rfl, htree, hleads.isChain (.property hpath), ?_⟩
          intro hextends
          exact absurd ⟨_, rfl⟩ hextends
      | function name =>
          cases hsettled
          refine ⟨front, _, rfl, htree, hleads.isChain (.function name), ?_⟩
          intro _ path
          simp [add]
      | _ => cases hsettled

theorem hasRead_push {state after : State} {tokens : List Token} {spanned : Spanned}
    (hread : HasRead state tokens) (hlexed : Lexed spanned.token)
    (hpush : state.push spanned = .ok after) : HasRead after (tokens ++ [spanned.token]) := by
  obtain ⟨token, place⟩ := spanned
  -- The filter of the state goes on or ends, and only then does the chain decide.
  have hend (hsettled : ∃ settled, state.settled? = some settled)
      (hextends : ¬ Extends state token) : HasRead after (tokens ++ [token]) := by
    obtain ⟨settled, hsettled⟩ := hsettled
    rw [push_of_settled place hsettled hextends, atToken_eq_ok_iff] at hpush
    obtain ⟨front, last, rfl, htree, hchain, hpath⟩ := exists_chain_of_settled hread hsettled
    rw [List.append_assoc]
    refine hasRead_continueChain htree hchain hlexed ?_ hpush
    rintro rfl
    exact hpath hextends
  cases hread with
  | filter htree hleads =>
      rw [List.append_assoc]
      exact hasRead_of_grows htree (hleads _)
        (grows_startFilter (atToken_eq_ok_iff.mp hpush))
  | filterEnd =>
      apply hend ⟨_, rfl⟩
      cases token <;> simp [Extends]
  | pending htree hleads hpending =>
      rcases grows_push hpending hlexed hpush with hgrows | ⟨hsettled, hextends⟩
      · rw [List.append_assoc, List.append_assoc]
        exact hasRead_of_grows htree (hleads.append hpending.ne_nil _) hgrows
      · exact hend hsettled hextends

theorem hasRead_start : HasRead State.start [] :=
  .filter .nil .empty

theorem HasRead.pushAll {state after : State} {tokens : List Token} {spanned : List Spanned}
    (hread : HasRead state tokens) (hlexed : ∀ s ∈ spanned, Lexed s.token)
    (hpush : state.pushAll spanned = .ok after) :
    HasRead after (tokens ++ spanned.map Spanned.token) := by
  induction spanned generalizing state tokens with
  | nil =>
      cases hpush
      simpa using hread
  | cons first rest ih =>
      obtain ⟨middle, hfirst, hrest⟩ := exists_of_pushAll_cons hpush
      have hmiddle := hasRead_push hread (hlexed first (by simp)) hfirst
      have hafter := ih hmiddle (fun s hs => hlexed s (List.mem_cons_of_mem _ hs)) hrest
      simpa using hafter

/-! ## The end of the text -/

theorem endsTree_of_finish {state : State} {place : Position} {tree : Tree}
    (hfinish : state.finish place = .ok tree) : EndsTree tree state := by
  obtain ⟨chains, filters, phase⟩ := state
  cases phase with
  | filterEnd =>
      cases hfinish
      exact ⟨_, rfl, rfl⟩
  | property path =>
      cases hfinish
      exact ⟨_, rfl, rfl⟩
  | function name =>
      cases hfinish
      exact ⟨_, rfl, rfl⟩
  | lowEnd entries start negative lo =>
      by_cases hlt : signed negative lo < 0
      · simp [finish, push, hlt] at hfinish
      · simp [finish, push, hlt, endEntry] at hfinish
  | _ => cases hfinish

theorem HasRead.isTree {state : State} {tokens : List Token} {tree : Tree}
    (hread : HasRead state tokens) (hends : EndsTree tree state) : IsTree tokens tree := by
  obtain ⟨settled, hsettled, rfl⟩ := hends
  obtain ⟨front, last, rfl, htree, hchain, _⟩ := exists_chain_of_settled hread hsettled
  exact htree.more hchain

end FilterChain.Parser
