import FilterChain.Proofs.Token.Concatenation
import FilterChain.Proofs.Tree.Recognition
import FilterChain.Proofs.Tree.TopLevel

/-!
# Expressions that stand one behind the other

The parser hands places on without looking at them, and never looks at the filters and
chains that it has already built.  So it works the same behind other chains and filters
and at other places, also where it fails.  Behind an expression, a comma leads to the state
before a first chain and a pipe to the state before the next filter of the last chain; from
there another text is parsed as on its own.
-/

namespace FilterChain

open Grammar FilterChain.Parser Lexer

def SyntaxError.relocate (f : Position → Position) (e : SyntaxError) : SyntaxError :=
  { e with place := f e.place }

namespace Parser

/-! ## What the parser does not look at -/

def Phase.relocate (f : Position → Position) : Phase → Phase
  | .lowBound entries start => .lowBound entries (f start)
  | .lowEnd entries start negative lo => .lowEnd entries (f start) negative lo
  | phase => phase

/-- A change of states that keeps what the parser looks at and does, and moves places. -/
structure Natural (f : Position → Position) (φ : State → State) : Prop where
  into : ∀ state phase, φ (state.into phase) = (φ state).into (phase.relocate f)
  add : ∀ state filter, φ (state.add filter) = (φ state).add filter
  closeChain : ∀ state, φ state.closeChain = (φ state).closeChain

/-- What becomes of the outcome of a step. -/
def moved {α β : Type} (f : Position → Position) (φ : α → β) (outcome : Except SyntaxError α) :
    Except SyntaxError β :=
  (outcome.map φ).mapError (SyntaxError.relocate f)

theorem atToken_moved {α β : Type} {f : Position → Position} {φ : α → β}
    {outcome : Except SyntaxFault α} {after : Except SyntaxFault β} (hafter : after = outcome.map φ)
    (place : Position) : atToken (f place) after = moved f φ (atToken place outcome) := by
  rw [hafter]
  cases outcome <;> rfl

namespace Natural

variable {f : Position → Position} {φ : State → State} (h : Natural f φ)
include h

theorem startFilter (state : State) (token : Token) :
    Parser.startFilter (φ state) token = (Parser.startFilter state token).map φ := by
  cases token <;> simp [Parser.startFilter, h.into, h.add, Phase.relocate]

theorem continueChain (state : State) (token : Token) :
    Parser.continueChain (φ state) token = (Parser.continueChain state token).map φ := by
  cases token <;>
    simp [Parser.continueChain, h.startFilter, h.into, h.closeChain, Phase.relocate]

theorem takeArgument (state : State) (name : String) (arguments : List Literal) (token : Token) :
    Parser.takeArgument (φ state) name arguments token =
      (Parser.takeArgument state name arguments token).map φ := by
  cases token with
  | word word =>
      simp only [Parser.takeArgument]
      split
      · split <;> simp [h.into, Phase.relocate]
      · rfl
  | _ => simp [Parser.takeArgument, h.into, Phase.relocate]

theorem takeSignedNumber (state : State) (name : String) (arguments : List Literal)
    (negative : Bool) (token : Token) :
    Parser.takeSignedNumber (φ state) name arguments negative token =
      (Parser.takeSignedNumber state name arguments negative token).map φ := by
  cases token with
  | word word =>
      simp only [Parser.takeSignedNumber]
      split
      · split <;> simp [h.into, Phase.relocate]
      · rfl
  | _ => simp [Parser.takeSignedNumber, h.into, Phase.relocate]

theorem endEntry (state : State) (entries : List SubsetEntry) (token : Token) :
    Parser.endEntry (φ state) entries token = (Parser.endEntry state entries token).map φ := by
  cases token <;> simp [Parser.endEntry, h.into, h.add, Phase.relocate]

theorem takeBound (state : State) (phase : Int64 → Phase) (token : Token) :
    ((Parser.takeBound token).map fun n => (φ state).into ((phase n).relocate f)) =
      ((Parser.takeBound token).map fun n => state.into (phase n)).map φ := by
  cases Parser.takeBound token with
  | ok n => simp [h.into]
  | error fault => rfl

theorem startEntry (state : State) (entries : List SubsetEntry) (place : Position)
    (token : Token) :
    Parser.startEntry (φ state) entries (f place) token =
      (Parser.startEntry state entries place token).map φ := by
  have hbound := h.takeBound state (fun lo => .lowEnd entries place false lo) token
  cases token with
  | minus => simp [Parser.startEntry, h.into, Phase.relocate]
  | _ => exact hbound

theorem push_argument (state : State) (name : String) (arguments : List Literal) (token : Token)
    (place : Position) :
    ((φ state).into (.argument name arguments)).push ⟨token, f place⟩ =
      moved f φ ((state.into (.argument name arguments)).push ⟨token, place⟩) := by
  have htake := h.takeArgument (state.into (.argument name arguments)) name arguments token
  rw [h.into] at htake
  exact atToken_moved htake place

theorem push_entry (state : State) (entries : List SubsetEntry) (token : Token)
    (place : Position) :
    ((φ state).into (.entry entries)).push ⟨token, f place⟩ =
      moved f φ ((state.into (.entry entries)).push ⟨token, place⟩) := by
  have hstart := h.startEntry (state.into (.entry entries)) entries place token
  rw [h.into] at hstart
  exact atToken_moved hstart place

/-- Behind a filter that may end, a token that does not go on with it. -/
theorem push_settled {state settled : State} {phase : Phase} {token : Token} (place : Position)
    (hsettled : (state.into phase).settled? = some settled)
    (hmoved : ((φ state).into phase).settled? = some (φ settled))
    (hextends : ¬ Extends (state.into phase) token) :
    ((φ state).into phase).push ⟨token, f place⟩ =
      moved f φ ((state.into phase).push ⟨token, place⟩) := by
  have hother : ¬ Extends ((φ state).into phase) token := by
    cases token <;> exact hextends
  rw [push_of_settled (f place) hmoved hother, push_of_settled place hsettled hextends]
  exact atToken_moved (h.continueChain settled token) place

theorem push_into (state : State) (phase : Phase) (token : Token) (place : Position) :
    ((φ state).into (phase.relocate f)).push ⟨token, f place⟩ =
      moved f φ ((state.into phase).push ⟨token, place⟩) := by
  cases phase with
  | filter =>
      have hstart := h.startFilter (state.into .filter) token
      rw [h.into] at hstart
      exact atToken_moved hstart place
  | filterEnd =>
      have hmoved : ((φ state).into .filterEnd).settled? = some (φ (state.into .filterEnd)) := by
        rw [h.into]
        rfl
      refine h.push_settled place rfl hmoved ?_
      cases token <;> simp [Extends, Phase.relocate]
  | accessName =>
      cases token with
      | word name => exact congrArg Except.ok (h.add state (.access name)).symm
      | _ => rfl
  | assignName =>
      cases token with
      | word name => exact congrArg Except.ok (h.add state (.assign name)).symm
      | _ => rfl
  | propertyName path =>
      cases token with
      | word name => exact congrArg Except.ok (h.into state (.property (path ++ [name]))).symm
      | _ => rfl
  | property path =>
      by_cases hdot : token = .dot
      · subst token
        exact congrArg Except.ok (h.into state (.propertyName path)).symm
      · have hmoved : ((φ state).into (.property path)).settled? =
            some (φ (state.add (.property path))) := by
          rw [h.add]
          rfl
        refine h.push_settled place rfl hmoved ?_
        cases token <;> simp [Extends, Phase.relocate] at hdot ⊢
  | function name =>
      by_cases hparen : token = .openParen
      · subst token
        exact congrArg Except.ok (h.into state (.argumentStart name)).symm
      · have hmoved : ((φ state).into (.function name)).settled? =
            some (φ (state.add (.function name []))) := by
          rw [h.add]
          rfl
        refine h.push_settled place rfl hmoved ?_
        cases token <;> simp [Extends, Phase.relocate] at hparen ⊢
  | argumentStart name =>
      by_cases hclose : token = .closeParen
      · subst token
        rfl
      · have hsame := push_argumentStart state name hclose place
        have hother := push_argumentStart (φ state) name hclose (f place)
        rw [hsame, ← h.push_argument state name [] token place]
        exact hother
  | argument name arguments => exact h.push_argument state name arguments token place
  | signedNumber name arguments negative =>
      have htake := h.takeSignedNumber (state.into (.signedNumber name arguments negative))
        name arguments negative token
      rw [h.into] at htake
      exact atToken_moved htake place
  | argumentEnd name arguments =>
      cases token with
      | comma => exact congrArg Except.ok (h.into state (.argument name arguments)).symm
      | closeParen => exact congrArg Except.ok (h.add state (.function name arguments)).symm
      | _ => rfl
  | subsetStart =>
      by_cases hclose : token = .closeBracket
      · subst token
        rfl
      · have hsame := push_subsetStart state hclose place
        have hother := push_subsetStart (φ state) hclose (f place)
        rw [hsame, ← h.push_entry state [] token place]
        exact hother
  | entry entries => exact h.push_entry state entries token place
  | lowBound entries start =>
      exact atToken_moved (h.takeBound state (fun lo => .lowEnd entries start true lo) token) place
  | lowEnd entries start negative lo =>
      by_cases hminus : token = .minus
      · subst token
        exact congrArg Except.ok (h.into state (.highBound entries (signed negative lo))).symm
      · have hsame := push_lowEnd state entries start negative lo hminus place
        have hother := push_lowEnd (φ state) entries (f start) negative lo hminus (f place)
        refine hother.trans ?_
        rw [hsame]
        split
        · rfl
        · exact atToken_moved (h.endEntry state _ token) place
  | highBound entries lo =>
      by_cases hminus : token = .minus
      · subst token
        exact congrArg Except.ok (h.into state (.signedHighBound entries lo)).symm
      · have hsame := push_highBound state entries lo hminus place
        have hother := push_highBound (φ state) entries lo hminus (f place)
        have hbound := h.takeBound state (fun hi => .entryEnd (entries ++ [.range lo hi])) token
        refine hother.trans ?_
        rw [hsame]
        exact atToken_moved hbound place
  | signedHighBound entries lo =>
      have hbound := h.takeBound state (fun hi => .entryEnd (entries ++ [.range lo (-hi)])) token
      exact atToken_moved hbound place
  | entryEnd entries =>
      have hend := h.endEntry (state.into (.entryEnd entries)) entries token
      rw [h.into] at hend
      exact atToken_moved hend place

theorem push (state : State) (spanned : Spanned) :
    (φ state).push (spanned.relocate f) = moved f φ (state.push spanned) := by
  obtain ⟨chains, filters, phase⟩ := state
  have hinto := h.into ⟨chains, filters, .filter⟩ phase
  have hpush := h.push_into ⟨chains, filters, .filter⟩ phase spanned.token spanned.place
  rw [← hinto] at hpush
  exact hpush

theorem pushAll (state : State) (tokens : List Spanned) :
    (φ state).pushAll (tokens.map (Spanned.relocate f)) = moved f φ (state.pushAll tokens) := by
  induction tokens generalizing state with
  | nil => rfl
  | cons spanned tokens ih =>
      rw [List.map_cons, State.pushAll_cons, State.pushAll_cons, h.push]
      cases state.push spanned with
      | ok middle => exact ih middle
      | error e => rfl

end Natural

/-! ## Behind chains and filters -/

/-- Chains behind others, where the first one goes on with an open chain. -/
def chainsBehind (chains : Tree) (chain : Chain) : Tree → Tree
  | [] => chains
  | first :: rest => chains ++ (chain ++ first) :: rest

def State.behind (f : Position → Position) (chains : Tree) (chain : Chain) (state : State) :
    State where
  chains := chainsBehind chains chain state.chains
  filters := if state.chains = [] then chain ++ state.filters else state.filters
  phase := state.phase.relocate f

theorem natural_behind (f : Position → Position) (chains : Tree) (chain : Chain) :
    Natural f (State.behind f chains chain) where
  into _ _ := rfl
  add state filter := by
    cases hchains : state.chains <;> simp [State.behind, State.add, hchains, Phase.relocate]
  closeChain state := by
    cases hchains : state.chains <;>
      simp [State.behind, State.closeChain, hchains, chainsBehind, Phase.relocate]

theorem parseFrom_behind (f : Position → Position) (chains : Tree) (chain : Chain)
    (state : State) (lexing : Lexing) :
    parseFrom (state.behind f chains chain) (lexing.relocate f) =
      moved f (chainsBehind chains chain) (parseFrom state lexing) := by
  have hnatural := natural_behind f chains chain
  simp only [parseFrom, Lexing.relocate, hnatural.pushAll]
  cases state.pushAll lexing.tokens with
  | error e => rfl
  | ok last =>
      cases lexing.ending with
      | error e => rfl
      | ok place =>
          have hfinish := hnatural.push last ⟨.eof, place⟩
          change (State.push _ _).map State.chains = moved f _ ((State.push _ _).map State.chains)
          change (last.behind f chains chain).push ⟨.eof, f place⟩ = _ at hfinish
          rw [hfinish]
          cases last.push ⟨.eof, place⟩ <;> rfl

end Parser

/-! ## Texts behind an expression -/

theorem Tree.exists_settled_of_parse {text : String} {tree : Tree}
    (hparse : Tree.parse text = .ok tree) :
    ∃ place state settled, (Lexing.ofText text).ending = .ok place ∧
      State.start.pushAll (Lexing.ofText text).tokens = .ok state ∧
      state.settled? = some settled ∧ settled.chains ++ [settled.filters] = tree := by
  cases hending : (Lexing.ofText text).ending with
  | error e =>
      obtain ⟨e, herror⟩ := Tree.exists_error_of_ending hending
      cases hparse.symm.trans herror
  | ok place =>
      obtain ⟨state, hpush, settled, hsettled, htree⟩ :=
        takes_tree (Tree.isTree_of_parse hparse) _ rfl
      exact ⟨place, state, settled, rfl, hpush, hsettled, htree⟩

/-- If a separator leads to the state before a filter of the expression, then another text
behind it is parsed as on its own. -/
theorem Tree.parse_append_separator {first : String} {place : Position} {state : State}
    {chains : Tree} {chain : Chain} {c : Char} {token : Token}
    (hending : (Lexing.ofText first).ending = .ok place)
    (hfirst : State.start.pushAll (Lexing.ofText first).tokens = .ok state)
    (hc : Separates c) (hmark : mark? c = some token) (hsigil : token.isSigil = false)
    (hpush : ∀ place, state.push ⟨token, place⟩ = .ok ⟨chains, chain, .filter⟩)
    (second : String) :
    Tree.parse (first ++ String.singleton c ++ second) =
      moved (Position.beyond first.toList) (chainsBehind chains chain) (Tree.parse second) := by
  have hlexing := Lexing.ofText_append_separator hending hc hmark hsigil second
  have hbehind := parseFrom_behind (Position.beyond first.toList) chains chain .start
    (Lexing.ofText second)
  rw [Tree.parse_eq, Tree.parse_eq]
  have hstart : State.start.behind (Position.beyond first.toList) chains chain =
      ⟨chains, chain, .filter⟩ := by
    simp [State.behind, State.start, chainsBehind, Phase.relocate]
  calc
    (Lexing.ofText (first ++ String.singleton c ++ second)).parse = parseFrom .start _ :=
      congrArg (parseFrom .start) hlexing
    _ = parseFrom state _ := parseFrom_append hfirst _ _
    _ = parseFrom ⟨chains, chain, .filter⟩
          ((Lexing.ofText second).relocate (Position.beyond first.toList)) := by
        rw [parseFrom, State.pushAll_cons, hpush]
        rfl
    _ = moved (Position.beyond first.toList) (chainsBehind chains chain)
          (Lexing.ofText second).parse := by
        rw [← hstart]
        exact hbehind

/-- Behind an expression and a comma or a pipe, another text is parsed as on its own. -/
theorem Tree.parse_behind {first : String} {tree : Tree} (hparse : Tree.parse first = .ok tree)
    (second : String) :
    ∃ chains chain, tree = chains ++ [chain] ∧
      Tree.parse (first ++ "," ++ second) =
        moved (Position.beyond first.toList) (chainsBehind tree []) (Tree.parse second) ∧
      Tree.parse (first ++ "|" ++ second) =
        moved (Position.beyond first.toList) (chainsBehind chains chain) (Tree.parse second) := by
  obtain ⟨place, state, settled, hending, hfirst, hsettled, rfl⟩ := exists_settled_of_parse hparse
  refine ⟨settled.chains, settled.filters, rfl, ?_, ?_⟩
  · exact parse_append_separator hending hfirst separates_comma rfl rfl (push_comma hsettled) second
  · exact parse_append_separator hending hfirst separates_pipe rfl rfl (push_pipe hsettled) second

/-! ## Texts around a comma -/

theorem Tree.parse_of_relocate {f : Position → Position} {text : String} {tokens : List Spanned}
    {ending : Position} {tree : Tree}
    (hlexing : (Lexing.ofText text).relocate f = ⟨tokens, .ok ending⟩)
    (htree : IsTree (tokens.map Spanned.token) tree) : Tree.parse text = .ok tree := by
  have htokens : (Lexing.ofText text).tokens.map (Spanned.relocate f) = tokens :=
    congrArg Lexing.tokens hlexing
  have hending : ((Lexing.ofText text).ending.map f).mapError (LexError.relocate f) = .ok ending :=
    congrArg Lexing.ending hlexing
  have hsame : tokens.map Spanned.token = (Lexing.ofText text).tokens.map Spanned.token := by
    rw [← htokens, List.map_map]
    rfl
  rw [hsame] at htree
  cases hstop : (Lexing.ofText text).ending with
  | error e =>
      rw [hstop] at hending
      cases hending
  | ok place => exact parse_of_isTree hstop htree

theorem Tree.exists_parse_around_comma {text : String} {tree : Tree}
    (hparse : Tree.parse text = .ok tree) {front back : List Spanned} {place : Position}
    (htokens : (Lexing.ofText text).tokens = front ++ ⟨.comma, place⟩ :: back)
    (hfront : Balanced (front.map Spanned.token)) :
    ∃ before after : String, text = before ++ "," ++ after ∧
      place = Position.behind before.toList ∧ (Lexing.ofText before).tokens = front ∧
      ∃ first second, Tree.parse before = .ok first ∧ Tree.parse after = .ok second ∧
        tree = first ++ second := by
  obtain ⟨ending, -, -, hending, -⟩ := exists_settled_of_parse hparse
  obtain ⟨before, after, htext, hplace, ⟨stop, hbefore⟩, hafter⟩ :=
    Lexing.exists_cut_at_separator separates_comma rfl rfl hending htokens
  have hall := Tree.isTree_of_parse hparse
  have hmap : (Lexing.ofText text).tokens.map Spanned.token =
      front.map Spanned.token ++ .comma :: back.map Spanned.token := by
    rw [htokens, List.map_append, List.map_cons]
  obtain ⟨first, second, htree, hfirst, hsecond⟩ := hall.exists_split hmap hfront
  refine ⟨before, after, htext, hplace, by rw [hbefore], first, second, ?_, ?_, htree⟩
  · rw [Tree.parse_eq, hbefore]
    exact Lexing.parse_eq_ok_of_isTree rfl hfirst
  · exact Tree.parse_of_relocate hafter hsecond

/-- Joined by a comma, expressions are put one behind the other, and joined by a pipe, the last
chain of the first goes on with the first chain of the second.  A fault of the second text is a
fault of the whole.  The other way round, a comma outside brackets is always such a join. -/
theorem Tree.parse_concatenation :
    (∀ first tree, Tree.parse first = .ok tree → ∀ second,
      (∀ other, Tree.parse second = .ok other →
        Tree.parse (first ++ "," ++ second) = .ok (tree ++ other) ∧
        ∃ front last next back, tree = front ++ [last] ∧ other = next :: back ∧
          Tree.parse (first ++ "|" ++ second) = .ok (front ++ (last ++ next) :: back)) ∧
      ∀ e, Tree.parse second = .error e →
        Tree.parse (first ++ "," ++ second) = .error ⟨e.fault, e.place.beyond first.toList⟩ ∧
        Tree.parse (first ++ "|" ++ second) = .error ⟨e.fault, e.place.beyond first.toList⟩) ∧
    ∀ text tree, Tree.parse text = .ok tree →
      tree.length = topCommas ((Lexing.ofText text).tokens.map Spanned.token) + 1 ∧
      ∀ front place back, (Lexing.ofText text).tokens = front ++ ⟨.comma, place⟩ :: back →
        Balanced (front.map Spanned.token) →
        ∃ before after : String, text = before ++ "," ++ after ∧
          place = Position.behind before.toList ∧ (Lexing.ofText before).tokens = front ∧
          ∃ first second, Tree.parse before = .ok first ∧ Tree.parse after = .ok second ∧
            tree = first ++ second := by
  constructor
  · intro first tree hparse second
    obtain ⟨chains, chain, htree, hcomma, hpipe⟩ := parse_behind hparse second
    constructor
    · intro other hother
      have hlength := (Tree.isTree_of_parse hother).length_eq
      rw [hother] at hcomma hpipe
      cases other with
      | nil => cases hlength
      | cons next back => exact ⟨hcomma, chains, chain, next, back, htree, rfl, hpipe⟩
    · intro e he
      rw [he] at hcomma hpipe
      exact ⟨hcomma, hpipe⟩
  · intro text tree hparse
    constructor
    · exact (Tree.isTree_of_parse hparse).length_eq
    · intro front place back htokens hfront
      exact exists_parse_around_comma hparse htokens hfront

/-- Two lines before a comma, a fault on the first line behind them, and a comma in brackets. -/
theorem Tree.parse_concatenation_of_two_lines :
    Tree.parse ("a |\n b" ++ "," ++ "c") = .ok [[.function "a" [], .function "b" []],
      [.function "c" []]] ∧
    Tree.parse ("a |\n b" ++ "|" ++ "c )") =
      .error ⟨.unexpected .separator .closeParen, ⟨2, 6⟩⟩ ∧
    ∃ before after first second, "f(1, 2), b" = before ++ "," ++ after ∧
      Tree.parse before = .ok first ∧ Tree.parse after = .ok second ∧
      first ++ second = [[.function "f" [.integer 1, .integer 2]], [.function "b" []]] := by
  have hfirst : Tree.parse "a |\n b" = .ok [[.function "a" [], .function "b" []]] :=
    (Tree.parse_eq _).trans (by cbv)
  have hsecond : Tree.parse "c" = .ok [[.function "c" []]] := (Tree.parse_eq _).trans (by cbv)
  have hwrong : Tree.parse "c )" =
      .error ⟨.unexpected .separator .closeParen, ⟨1, 3⟩⟩ := (Tree.parse_eq _).trans (by cbv)
  have hcall : Tree.parse "f(1, 2), b" =
      .ok [[.function "f" [.integer 1, .integer 2]], [.function "b" []]] :=
    (Tree.parse_eq _).trans (by cbv)
  have htokens : (Lexing.ofText "f(1, 2), b").tokens =
      [⟨.word "f", ⟨1, 1⟩⟩, ⟨.openParen, ⟨1, 2⟩⟩, ⟨.word "1", ⟨1, 3⟩⟩, ⟨.comma, ⟨1, 4⟩⟩,
        ⟨.word "2", ⟨1, 6⟩⟩, ⟨.closeParen, ⟨1, 7⟩⟩] ++ ⟨.comma, ⟨1, 8⟩⟩ ::
          [⟨.word "b", ⟨1, 10⟩⟩] := by cbv
  have hjoin := (parse_concatenation.1 _ _ hfirst "c").1 _ hsecond
  have hfault := (parse_concatenation.1 _ _ hfirst "c )").2 _ hwrong
  obtain ⟨before, after, htext, -, -, first, second, hbefore, hafter, htree⟩ :=
    (parse_concatenation.2 _ _ hcall).2 _ _ _ htokens (by decide)
  exact ⟨hjoin.1, hfault.2, before, after, first, second, htext, hbefore, hafter, htree.symm⟩

end FilterChain
