import FilterChain.Proofs.Token.Pipe
import FilterChain.Proofs.Tree.RoundTrip
import FilterChain.Proofs.Tree.Spacing

/-!
# Optional pipes

Filters that start with a mark need no pipe before them.  Behind a filter the parser takes such a
mark as it takes a pipe and the mark: both lead to the same state, so the rest is parsed alike.
Only a point behind a path is taken otherwise.  It goes on with that path, up to where the path
behind the pipe would have ended, and from there on the rest is again parsed alike.
-/

namespace FilterChain

open Grammar FilterChain.Parser Lexer

/-- The marks that filters start with. -/
def Token.isFilterMark : Token → Bool
  | .less | .greater | .openBracket | .dot => true
  | _ => false

theorem Token.exists_mark {token : Token} (htoken : token.isFilterMark = true) :
    ∃ c, mark? c = some token := by
  cases token with
  | less => exact ⟨'<', rfl⟩
  | greater => exact ⟨'>', rfl⟩
  | openBracket => exact ⟨'[', rfl⟩
  | dot => exact ⟨'.', rfl⟩
  | _ => cases htoken

namespace Grammar

/-- There are tokens, and the last one is no comma and no pipe. -/
def EndsItem (tokens : List Token) : Prop :=
  ∃ last, tokens.getLast? = some last ∧ last ≠ .comma ∧ last ≠ .pipe

theorem endsItem_singleton {token : Token} (hcomma : token ≠ .comma) (hpipe : token ≠ .pipe) :
    EndsItem [token] :=
  ⟨token, rfl, hcomma, hpipe⟩

theorem EndsItem.behind {tokens : List Token} (hends : EndsItem tokens) (front : List Token) :
    EndsItem (front ++ tokens) := by
  obtain ⟨last, hlast, hother⟩ := hends
  exact ⟨last, by simp [hlast], hother⟩

theorem IsPath.exists_suffix {tokens : List Token} {path : List String}
    (hpath : IsPath tokens path) : ∃ name, [.dot, .word name] <:+ tokens := by
  cases hpath with
  | one name => exact ⟨name, List.suffix_rfl⟩
  | more name => exact ⟨name, List.suffix_append _ _⟩

theorem IsFilter.endsItem {tokens : List Token} {filter : Filter}
    (hfilter : IsFilter tokens filter) : EndsItem tokens := by
  cases hfilter with
  | function name => exact endsItem_singleton (by simp) (by simp)
  | @call tokens _ name =>
      exact (endsItem_singleton (by simp) (by simp)).behind (.word name :: .openParen :: tokens)
  | access name => exact (endsItem_singleton (by simp) (by simp)).behind [.less]
  | assign name => exact (endsItem_singleton (by simp) (by simp)).behind [.greater]
  | property hpath =>
      obtain ⟨name, front, rfl⟩ := hpath.exists_suffix
      exact ((endsItem_singleton (by simp) (by simp)).behind [.dot]).behind front
  | @subset tokens =>
      exact (endsItem_singleton (by simp) (by simp)).behind (.openBracket :: tokens)
  | matching => exact endsItem_singleton (by simp) (by simp)
  | substitution => exact endsItem_singleton (by simp) (by simp)

theorem IsChain.endsItem {tokens : List Token} {chain : Chain} (hchain : IsChain tokens chain) :
    EndsItem tokens := by
  cases hchain with
  | one hfilter => exact hfilter.endsItem
  | piped _ hfilter => exact (hfilter.endsItem.behind [.pipe]).behind _
  | abutting _ hfilter => exact hfilter.endsItem.behind _

theorem IsTree.endsItem {tokens : List Token} {tree : Tree} (htree : IsTree tokens tree) :
    EndsItem tokens := by
  cases htree with
  | one hchain => exact hchain.endsItem
  | more _ hchain => exact (hchain.endsItem.behind [.comma]).behind _

theorem abuts_of_isFilterMark {chain : Chain} {token : Token} (htoken : token.isFilterMark = true)
    (hpath : token = .dot → ∀ path, chain.getLast? ≠ some (.property path)) :
    Abuts chain [token] := by
  cases token with
  | less => exact .inl rfl
  | greater => exact .inr (.inl rfl)
  | openBracket => exact .inr (.inr (.inl rfl))
  | dot => exact .inr (.inr (.inr ⟨rfl, hpath rfl⟩))
  | _ => cases htoken

end Grammar

/-- A mark starts a filter behind another one of its chain, and without a pipe: something stands
before it in the chain, which is no pipe, and the mark is no point that goes on with a path. -/
structure JoinsFilter (front : List Token) (token : Token) : Prop where
  mark : token.isFilterMark = true
  behind : EndsItem front
  path : token = .dot → ∀ name, ¬ [.dot, .word name] <:+ front

namespace Parser

/-! ## Pipes and marks behind a filter -/

/-- Inside a filter the parser takes neither a pipe nor a mark. -/
theorem settled_of_push {state after : State} {token : Token} {place : Position}
    (htoken : token = .pipe ∨ token.isFilterMark = true)
    (hpush : state.push ⟨token, place⟩ = .ok after) :
    state.phase = .filter ∨ ∃ settled, state.settled? = some settled := by
  obtain ⟨chains, filters, phase⟩ := state
  cases phase with
  | filter => exact .inl rfl
  | filterEnd => exact .inr ⟨_, rfl⟩
  | property path => exact .inr ⟨_, rfl⟩
  | function name => exact .inr ⟨_, rfl⟩
  | lowEnd entries start negative lo =>
      have hminus : token ≠ .minus := by
        rintro rfl
        simp [Token.isFilterMark] at htoken
      have hend := hpush.symm.trans
        (push_lowEnd ⟨chains, filters, .filter⟩ entries start negative lo hminus place)
      split at hend
      · cases hend
      · cases token <;> simp [Token.isFilterMark] at htoken <;> cases hend
  | _ => cases token <;> simp [Token.isFilterMark] at htoken <;> cases hpush

theorem phase_of_push_dot {state after : State} {place : Position}
    (hpush : state.push ⟨.dot, place⟩ = .ok after) : ∃ path, after.phase = .propertyName path := by
  rcases settled_of_push (.inr rfl) hpush with hfilter | ⟨settled, hsettled⟩
  · obtain ⟨chains, filters, phase⟩ := state
    subst hfilter
    cases hpush
    exact ⟨[], rfl⟩
  · by_cases hextends : Extends state .dot
    · obtain ⟨chains, filters, phase⟩ := state
      obtain ⟨path, rfl⟩ := hextends
      cases hpush
      exact ⟨path, rfl⟩
    · rw [push_of_settled place hsettled hextends] at hpush
      cases hpush
      exact ⟨[], rfl⟩

theorem exists_settled_of_push_pipe {state after : State} {place : Position}
    (hpush : state.push ⟨.pipe, place⟩ = .ok after) :
    ∃ settled, state.settled? = some settled := by
  rcases settled_of_push (.inl rfl) hpush with hfilter | hsettled
  · obtain ⟨chains, filters, phase⟩ := state
    subst hfilter
    cases hpush
  · exact hsettled

/-! ## Parsing from a state on -/

theorem parseFrom_eq_ok_iff {state : State} {lexing : Lexing} {tree : Tree} :
    parseFrom state lexing = .ok tree ↔ ∃ last place, state.pushAll lexing.tokens = .ok last ∧
      lexing.ending = .ok place ∧ last.finish place = .ok tree := by
  obtain ⟨tokens, ending⟩ := lexing
  unfold parseFrom
  cases state.pushAll tokens with
  | error e => simp [Except.bind]
  | ok last => cases ending <;> simp [Except.bind]

theorem exists_of_parseFrom_append {state : State} {tokens more : List Spanned}
    {ending : Except LexError Position} {tree : Tree}
    (hparse : parseFrom state ⟨tokens ++ more, ending⟩ = .ok tree) :
    ∃ middle, state.pushAll tokens = .ok middle ∧ parseFrom middle ⟨more, ending⟩ = .ok tree := by
  obtain ⟨last, place, hlast, -, -⟩ := parseFrom_eq_ok_iff.mp hparse
  obtain ⟨middle, hmiddle, -⟩ := State.exists_of_pushAll_append hlast
  rw [parseFrom_append hmiddle] at hparse
  exact ⟨middle, hmiddle, hparse⟩

theorem exists_of_parseFrom_cons {state : State} {spanned : Spanned} {tokens : List Spanned}
    {ending : Except LexError Position} {tree : Tree}
    (hparse : parseFrom state ⟨spanned :: tokens, ending⟩ = .ok tree) :
    ∃ middle, state.push spanned = .ok middle ∧
      parseFrom middle ⟨tokens, ending⟩ = .ok tree := by
  obtain ⟨last, place, hlast, -, -⟩ := parseFrom_eq_ok_iff.mp hparse
  obtain ⟨middle, hmiddle, -⟩ := State.exists_of_pushAll_cons hlast
  rw [parseFrom_cons hmiddle] at hparse
  exact ⟨middle, hmiddle, hparse⟩

theorem ne_nil_of_parseFrom {state : State} {lexing : Lexing} {tree : Tree}
    (hparse : parseFrom state lexing = .ok tree) : tree ≠ [] := by
  obtain ⟨last, place, -, -, hfinish⟩ := parseFrom_eq_ok_iff.mp hparse
  obtain ⟨settled, -, rfl⟩ := endsTree_of_finish hfinish
  simp [State.closeChain]

theorem relocate_id (lexing : Lexing) : lexing.relocate id = lexing := by
  have hspanned : Spanned.relocate id = id := rfl
  obtain ⟨tokens, ending⟩ := lexing
  cases ending <;> simp [Lexing.relocate, hspanned, LexError.relocate, Except.map, Except.mapError]

/-- Behind chains and an open chain, the same is parsed as on its own. -/
theorem parseFrom_open_iff {phase : Phase} (hphase : phase.relocate id = phase) (chains : Tree)
    (chain : Chain) (lexing : Lexing) (tree : Tree) :
    parseFrom ⟨chains, chain, phase⟩ lexing = .ok tree ↔ ∃ first rest,
      parseFrom ⟨[], [], phase⟩ lexing = .ok (first :: rest) ∧
        tree = chains ++ (chain ++ first) :: rest := by
  have hbehind := parseFrom_behind id chains chain ⟨[], [], phase⟩ lexing
  have hstate : State.behind id chains chain ⟨[], [], phase⟩ = ⟨chains, chain, phase⟩ := by
    simp [State.behind, chainsBehind, hphase]
  rw [relocate_id, hstate] at hbehind
  rw [hbehind]
  cases hparse : parseFrom ⟨[], [], phase⟩ lexing with
  | error e => simp [moved, Except.map, Except.mapError]
  | ok other =>
      cases other with
      | nil => exact absurd rfl (ne_nil_of_parseFrom hparse)
      | cons first rest => simp [moved, Except.map, Except.mapError, chainsBehind, eq_comm]

/-! ## With and without a pipe -/

/-- A pipe is taken only behind a filter, and what follows it is parsed as on its own. -/
theorem exists_settled_of_pipe {front back : List Spanned} {place : Position}
    {ending : Except LexError Position} {tree : Tree}
    (hparse : parseFrom .start ⟨front ++ ⟨.pipe, place⟩ :: back, ending⟩ = .ok tree) :
    ∃ state settled first rest, State.start.pushAll front = .ok state ∧
      state.settled? = some settled ∧ parseFrom .start ⟨back, ending⟩ = .ok (first :: rest) ∧
        tree = settled.chains ++ (settled.filters ++ first) :: rest := by
  obtain ⟨state, hfront, hback⟩ := exists_of_parseFrom_append hparse
  obtain ⟨after, hpush, hafter⟩ := exists_of_parseFrom_cons hback
  obtain ⟨settled, hsettled⟩ := exists_settled_of_push_pipe hpush
  rw [push_pipe hsettled] at hpush
  cases hpush
  obtain ⟨first, rest, hfirst, htree⟩ :=
    (parseFrom_open_iff rfl settled.chains settled.filters _ _).mp hafter
  exact ⟨state, settled, first, rest, hfront, hsettled, hfirst, htree⟩

/-- Before a mark that may follow the chain, a pipe makes no difference. -/
theorem parseFrom_pipe {front back : List Spanned} {next : Spanned} {state settled : State}
    (hfront : State.start.pushAll front = .ok state) (hsettled : state.settled? = some settled)
    (habuts : Abuts settled.filters [next.token]) (place : Position)
    (ending : Except LexError Position) :
    parseFrom .start ⟨front ++ ⟨.pipe, place⟩ :: next :: back, ending⟩ =
      parseFrom .start ⟨front ++ next :: back, ending⟩ := by
  have hnext := push_of_abuts hsettled habuts next.place
  rw [parseFrom_append hfront, parseFrom_append hfront, parseFrom_cons (push_pipe hsettled place)]
  simp only [parseFrom, State.pushAll_cons]
  rw [hnext]

/-! ## Paths behind paths -/

/-- What is read behind a part of a path makes the path longer, whatever the part is and whatever
stands before it. -/
def LengthensPath (phase : List String → Phase) (lexing : Lexing) : Prop :=
  ∃ tail more rest, ∀ chains chain path, parseFrom ⟨chains, chain, phase path⟩ lexing =
    .ok (chains ++ (chain ++ .property (path ++ tail) :: more) :: rest)

/-- A path ends before any token but a point. -/
theorem lengthensPath_of_end {lexing : Lexing}
    (hend : lexing.tokens.head?.map Spanned.token ≠ some .dot) {state : State}
    {path : List String} {tree : Tree}
    (hparse : parseFrom (state.into (.property path)) lexing = .ok tree) :
    LengthensPath .property lexing := by
  have hsettle (state : State) (path : List String) :
      parseFrom (state.into (.property path)) lexing =
        parseFrom (state.add (.property path)) lexing := by
    obtain ⟨tokens, ending⟩ := lexing
    cases tokens with
    | nil => cases ending <;> rfl
    | cons first tokens =>
        obtain ⟨token, place⟩ := first
        cases token <;> first | rfl | exact absurd rfl hend
  have hadded : parseFrom ⟨state.chains, state.filters ++ [.property path], .filterEnd⟩ lexing =
      .ok tree := (hsettle state path).symm.trans hparse
  obtain ⟨more, rest, hmore, -⟩ := (parseFrom_open_iff rfl _ _ lexing tree).mp hadded
  refine ⟨[], more, rest, fun chains chain path => ?_⟩
  have hopen := (parseFrom_open_iff rfl chains (chain ++ [.property path]) lexing _).mpr
    ⟨more, rest, hmore, rfl⟩
  rw [List.append_assoc, List.singleton_append] at hopen
  rw [List.append_nil]
  exact (hsettle ⟨chains, chain, .filter⟩ path).trans hopen

theorem lengthensPath (ending : Except LexError Position) (tokens : List Spanned) :
    (∀ (state : State) path tree,
      parseFrom (state.into (.propertyName path)) ⟨tokens, ending⟩ = .ok tree →
        LengthensPath .propertyName ⟨tokens, ending⟩) ∧
    ∀ (state : State) path tree,
      parseFrom (state.into (.property path)) ⟨tokens, ending⟩ = .ok tree →
        LengthensPath .property ⟨tokens, ending⟩ := by
  -- A name leads from the first phase to the second and a point back, so both need each other.
  induction tokens with
  | nil =>
      constructor
      · intro state path tree hparse
        obtain ⟨last, place, hlast, -, hfinish⟩ := parseFrom_eq_ok_iff.mp hparse
        cases hlast
        cases hfinish
      · intro state path tree hparse
        exact lengthensPath_of_end (by simp) hparse
  | cons first tokens ih =>
      obtain ⟨token, place⟩ := first
      constructor
      · intro state path tree hparse
        obtain ⟨after, hpush, hafter⟩ := exists_of_parseFrom_cons hparse
        cases token with
        | word name =>
            cases hpush
            obtain ⟨tail, more, rest, hall⟩ := ih.2 _ _ _ hafter
            refine ⟨name :: tail, more, rest, fun chains chain path => ?_⟩
            have hlonger := hall chains chain (path ++ [name])
            rw [List.append_assoc] at hlonger
            exact hlonger
        | _ => cases hpush
      · intro state path tree hparse
        by_cases hdot : token = .dot
        · subst hdot
          obtain ⟨after, hpush, hafter⟩ := exists_of_parseFrom_cons hparse
          cases hpush
          exact ih.1 _ _ _ hafter
        · exact lengthensPath_of_end (by simpa using hdot) hparse

/-- A path behind a path goes on with it. -/
theorem exists_longer_path {place : Position} {back : List Spanned}
    {ending : Except LexError Position} {tree : Tree}
    (hparse : parseFrom .start ⟨⟨.dot, place⟩ :: back, ending⟩ = .ok tree) :
    ∃ tail more rest, tree = (.property tail :: more) :: rest ∧ ∀ chains chain path,
      parseFrom ⟨chains, chain, .property path⟩ ⟨⟨.dot, place⟩ :: back, ending⟩ =
        .ok (chains ++ (chain ++ .property (path ++ tail) :: more) :: rest) := by
  have hback : parseFrom (State.start.into (.propertyName [])) ⟨back, ending⟩ = .ok tree := hparse
  obtain ⟨tail, more, rest, hall⟩ := (lengthensPath ending back).1 _ _ _ hback
  have hown := hback.symm.trans (hall [] [] [])
  cases hown
  exact ⟨tail, more, rest, rfl, fun chains chain path => hall chains chain path⟩

/-! ## The tokens before a pipe or a mark -/

theorem ends_of_filter {state : State} {tokens : List Token} {last : Token}
    (hread : HasRead state tokens) (hphase : state.phase = .filter)
    (hlast : tokens.getLast? = some last) : last = .comma ∨ last = .pipe := by
  cases hread with
  | filter htree hleads =>
      cases hleads [] with
      | empty =>
          cases htree with
          | nil => cases hlast
          | comma => exact .inl (by simpa [eq_comm] using hlast)
      | pipe => exact .inr (by simpa [eq_comm] using hlast)
      | abutting _ habuts => simp [Abuts] at habuts
  | filterEnd => cases hphase
  | pending _ _ hpending =>
      subst hphase
      cases hpending

/-- A chain that ends with a path is still open at its end. -/
theorem eq_of_settled_path {state settled : State} {tokens : List Token} {chain : Chain}
    {path : List String} (hread : HasRead state tokens) (hsettled : state.settled? = some settled)
    (hlast : settled.filters = chain ++ [.property path]) :
    state = ⟨settled.chains, chain, .property path⟩ := by
  obtain ⟨_, _, _, _, _, hpath⟩ := exists_chain_of_settled hread hsettled
  have hextends : Extends state .dot := by
    by_contra hextends
    exact hpath hextends path (by simp [hlast])
  obtain ⟨chains, filters, phase⟩ := state
  obtain ⟨other, rfl⟩ := hextends
  cases hsettled
  obtain ⟨rfl, hsame⟩ := List.append_inj' hlast rfl
  cases hsame
  rfl

theorem exists_suffix_of_path {state : State} {tokens : List Token} {path : List String}
    (hread : HasRead state tokens) (hphase : state.phase = .property path) :
    ∃ name, [.dot, .word name] <:+ tokens := by
  cases hread with
  | pending _ _ hpending =>
      subst hphase
      cases hpending with
      | property hpath =>
          obtain ⟨name, hname⟩ := hpath.exists_suffix
          exact ⟨name, (hname.trans (List.suffix_append _ _)).trans (List.suffix_append _ _)⟩
  | _ => cases hphase

theorem phase_of_suffix {state after : State} {tokens : List Spanned} {name : String}
    (hpush : state.pushAll tokens = .ok after)
    (hsuffix : [.dot, .word name] <:+ tokens.map Spanned.token) :
    ∃ path, after.phase = .property path := by
  obtain ⟨front, hfront⟩ := hsuffix
  obtain ⟨before, names, rfl, -, hnames⟩ := List.map_eq_append_iff.mp hfront.symm
  obtain ⟨⟨token, place⟩, rest, rfl, rfl, hrest⟩ := List.map_eq_cons_iff.mp hnames
  obtain ⟨⟨word, stop⟩, rest, rfl, rfl, hnil⟩ := List.map_eq_cons_iff.mp hrest
  obtain rfl := List.map_eq_nil_iff.mp hnil
  obtain ⟨start, -, hback⟩ := State.exists_of_pushAll_append hpush
  obtain ⟨middle, hdot, hback⟩ := State.exists_of_pushAll_cons hback
  obtain ⟨last, hword, hlast⟩ := State.exists_of_pushAll_cons hback
  cases hlast
  obtain ⟨chains, filters, phase⟩ := middle
  obtain ⟨path, rfl⟩ := phase_of_push_dot hdot
  cases hword
  exact ⟨path ++ [name], rfl⟩

/-- A mark that the parser takes where it starts a filter without a pipe abuts the chain. -/
theorem exists_settled_of_joins {state after : State} {tokens : List Token} {next : Spanned}
    (hread : HasRead state tokens) (hjoins : JoinsFilter tokens next.token)
    (hpush : state.push next = .ok after) :
    ∃ settled, state.settled? = some settled ∧ Abuts settled.filters [next.token] := by
  obtain ⟨last, hlast, hcomma, hpipe⟩ := hjoins.behind
  rcases settled_of_push (.inr hjoins.mark) hpush with hfilter | ⟨settled, hsettled⟩
  · rcases ends_of_filter hread hfilter hlast with rfl | rfl
    · exact absurd rfl hcomma
    · exact absurd rfl hpipe
  · refine ⟨settled, hsettled, abuts_of_isFilterMark hjoins.mark ?_⟩
    intro hdot path hpath
    obtain ⟨chain, hchain⟩ := List.getLast?_eq_some_iff.mp hpath
    obtain rfl := eq_of_settled_path hread hsettled hchain
    obtain ⟨name, hname⟩ := exists_suffix_of_path hread rfl
    exact hjoins.path hdot name hname

end Parser

/-! ## Texts with and without a pipe -/

theorem LexedAs.parse_eq_ok_iff {text : String} {tokens : List Spanned}
    (hlexed : LexedAs text (tokens.map Spanned.token)) (place : Position) (tree : Tree) :
    Tree.parse text = .ok tree ↔ parseFrom .start ⟨tokens, .ok place⟩ = .ok tree := by
  obtain ⟨stop, hstop, htokens⟩ := hlexed
  have hending : (⟨tokens, .ok place⟩ : Lexing).ending = .ok place := rfl
  rw [Tree.parse_eq]
  constructor
  · exact (Lexing.parse_of_tokens_eq hstop hending htokens.symm).1 tree
  · exact (Lexing.parse_of_tokens_eq hending hstop htokens).1 tree

theorem Tree.parse_of_settled {text : String} {tokens : List Spanned} {stop : Position}
    {state settled : State} (hlexing : Lexing.ofText text = ⟨tokens, .ok stop⟩)
    (hpush : State.start.pushAll tokens = .ok state) (hsettled : state.settled? = some settled) :
    Tree.parse text = .ok (settled.chains ++ [settled.filters]) := by
  have hfinish := finish_of_endsTree ⟨settled, hsettled, rfl⟩ stop
  rw [Tree.parse_eq, hlexing]
  exact parseFrom_eq_ok_iff.mpr ⟨state, stop, hpush, rfl, hfinish⟩

/-- The last filter before a pipe and the first one behind it. -/
theorem Tree.exists_filters {before after : String} {chains rest : Tree} {chain first : Chain}
    (hbefore : Tree.parse before = .ok (chains ++ [chain]))
    (hafter : Tree.parse after = .ok (first :: rest)) :
    ∃ front filter following more, chain = front ++ [filter] ∧ first = following :: more := by
  have hchain := ((wellFormed_of_parse hbefore).2 chain (by simp)).1
  have hfirst := ((wellFormed_of_parse hafter).2 first (by simp)).1
  obtain ⟨following, more, rfl⟩ := List.exists_cons_of_ne_nil hfirst
  exact ⟨chain.dropLast, chain.getLast hchain, following, more,
    (List.dropLast_append_getLast hchain).symm, rfl⟩

theorem Tree.exists_lexing_of_parse {text : String} {tree : Tree}
    (hparse : Tree.parse text = .ok tree) {tokens : List Spanned}
    (htokens : (Lexing.ofText text).tokens = tokens) :
    ∃ ending, (Lexing.ofText text).ending = .ok ending ∧
      parseFrom .start ⟨tokens, .ok ending⟩ = .ok tree := by
  obtain ⟨ending, -, -, hending, -⟩ := exists_settled_of_parse hparse
  refine ⟨ending, hending, ?_⟩
  rw [← htokens, ← hending]
  exact (parse_eq text).symm.trans hparse

/-- With a space for a pipe before a mark, a text is parsed as before, except that a path behind a
path goes on with it. -/
theorem Tree.parse_without_pipe {text : String} {tree : Tree} (hparse : Tree.parse text = .ok tree)
    {front back : List Spanned} {next : Spanned} {place : Position}
    (htokens : (Lexing.ofText text).tokens = front ++ ⟨.pipe, place⟩ :: next :: back)
    (hmark : next.token.isFilterMark = true) :
    ∃ before after : String, text = before ++ "|" ++ after ∧
      place = Position.behind before.toList ∧ (Lexing.ofText before).tokens = front ∧
      ∃ chains chain filter following more rest,
        Tree.parse before = .ok (chains ++ [chain ++ [filter]]) ∧
        Tree.parse after = .ok ((following :: more) :: rest) ∧
        tree = chains ++ (chain ++ filter :: following :: more) :: rest ∧
        ((next.token = .dot → ∀ path, filter ≠ .property path) →
          Tree.parse (before ++ " " ++ after) = .ok tree) ∧
        ∀ path, next.token = .dot → filter = .property path → ∃ tail,
          following = .property tail ∧ Tree.parse (before ++ " " ++ after) =
            .ok (chains ++ (chain ++ .property (path ++ tail) :: more) :: rest) := by
  obtain ⟨ending, hending, hall⟩ := exists_lexing_of_parse hparse htokens
  obtain ⟨c, hc⟩ := Token.exists_mark hmark
  obtain ⟨before, after, htext, hplace, ⟨stop, hlexing⟩, hback, hdropped⟩ :=
    Lexing.exists_cut_at_pipe hending htokens hc
  obtain ⟨state, settled, first, rest, hfront, hsettled, hfirst, htree⟩ :=
    exists_settled_of_pipe hall
  have hbefore := parse_of_settled hlexing hfront hsettled
  have hafter := (hback.parse_eq_ok_iff ending _).mpr hfirst
  obtain ⟨chain, filter, following, more, hchain, rfl⟩ := exists_filters hbefore hafter
  have hwhole : chain ++ [filter] ++ (following :: more) = chain ++ filter :: following :: more := by
    rw [List.append_assoc, List.singleton_append]
  rw [hchain] at hbefore
  rw [hchain, hwhole] at htree
  refine ⟨before, after, htext, hplace, by rw [hlexing], settled.chains, chain, filter, following,
    more, rest, hbefore, hafter, htree, ?_, ?_⟩
  · intro hpath
    have habuts : Abuts settled.filters [next.token] := by
      refine abuts_of_isFilterMark hmark ?_
      intro hdot path hlast
      rw [hchain, List.getLast?_concat] at hlast
      exact hpath hdot path (Option.some.inj hlast)
    rw [parseFrom_pipe hfront hsettled habuts] at hall
    exact (hdropped.parse_eq_ok_iff ending tree).mpr hall
  · rintro path hdot rfl
    obtain ⟨token, dotPlace⟩ := next
    obtain rfl : token = .dot := hdot
    obtain ⟨tail, others, chains, hfollowing, hlonger⟩ := exists_longer_path hfirst
    cases hfollowing
    have hread := Lexing.hasRead_of_pushAll htokens hfront
    obtain rfl := eq_of_settled_path hread hsettled hchain
    have hjoined := hlonger settled.chains chain path
    rw [← parseFrom_append hfront] at hjoined
    exact ⟨tail, rfl, (hdropped.parse_eq_ok_iff ending _).mpr hjoined⟩

/-- Where a text is parsed as a part before a mark and a part behind it, one chain going on with
the other, the mark starts a filter there. -/
theorem Tree.joinsFilter_of_parse {before : String} {stop : Position}
    {ending : Except LexError Position} {front back : List Spanned} {next : Spanned}
    {chains rest : Tree} {first second : Chain} (hmark : next.token.isFilterMark = true)
    (hlexing : Lexing.ofText before = ⟨front, .ok stop⟩)
    (hbefore : Tree.parse before = .ok (chains ++ [first]))
    (hafter : parseFrom .start ⟨next :: back, ending⟩ = .ok (second :: rest))
    (hall : parseFrom .start ⟨front ++ next :: back, ending⟩ =
      .ok (chains ++ (first ++ second) :: rest)) :
    JoinsFilter (front.map Spanned.token) next.token := by
  have hends := (Tree.isTree_of_parse hbefore).endsItem
  rw [hlexing] at hends
  refine ⟨hmark, hends, ?_⟩
  intro hdot name hsuffix
  obtain ⟨token, place⟩ := next
  obtain rfl : token = .dot := hdot
  -- The point would go on with the path, so one filter would be missing.
  obtain ⟨_, state, settled, -, hfront, hsettled, htree⟩ := exists_settled_of_parse hbefore
  rw [hlexing] at hfront
  obtain ⟨others, filters, phase⟩ := state
  obtain ⟨path, rfl⟩ := phase_of_suffix hfront hsuffix
  cases hsettled
  obtain ⟨rfl, hfirst⟩ := List.append_inj' htree rfl
  obtain ⟨rfl, -⟩ := List.cons.inj hfirst
  obtain ⟨tail, more, following, hsecond, hlonger⟩ := exists_longer_path hafter
  cases hsecond
  rw [parseFrom_append hfront, hlonger] at hall
  have hsame := List.append_cancel_left (Except.ok.inj hall)
  have hlength := congrArg List.length (List.cons.inj hsame).1
  simp [State.add] at hlength

/-- With a pipe before a mark that starts a filter behind another one, a text is parsed as
before. -/
theorem Tree.parse_with_pipe {text : String} {tree : Tree} (hparse : Tree.parse text = .ok tree)
    {front back : List Spanned} {next : Spanned}
    (htokens : (Lexing.ofText text).tokens = front ++ next :: back)
    (hmark : next.token.isFilterMark = true) :
    ∃ before after : String, text = before ++ after ∧
      next.place = Position.behind before.toList ∧ (Lexing.ofText before).tokens = front ∧
      (JoinsFilter (front.map Spanned.token) next.token ↔ ∃ chains first second rest,
        Tree.parse before = .ok (chains ++ [first]) ∧
        Tree.parse after = .ok (second :: rest) ∧
        tree = chains ++ (first ++ second) :: rest) ∧
      (JoinsFilter (front.map Spanned.token) next.token →
        Tree.parse (before ++ "|" ++ after) = .ok tree) := by
  obtain ⟨ending, hending, hall⟩ := exists_lexing_of_parse hparse htokens
  obtain ⟨c, hc⟩ := Token.exists_mark hmark
  obtain ⟨before, after, htext, hplace, ⟨stop, hlexing⟩, hback, hpiped⟩ :=
    Lexing.exists_cut_at_mark hending htokens hc
  have hpipe (hjoins : JoinsFilter (front.map Spanned.token) next.token) :
      parseFrom .start ⟨front ++ ⟨.pipe, next.place⟩ :: next :: back, .ok ending⟩ = .ok tree := by
    obtain ⟨state, hfront, hmore⟩ := exists_of_parseFrom_append hall
    obtain ⟨after, hpush, -⟩ := exists_of_parseFrom_cons hmore
    have hread := Lexing.hasRead_of_pushAll htokens hfront
    obtain ⟨settled, hsettled, habuts⟩ := exists_settled_of_joins hread hjoins hpush
    rw [parseFrom_pipe hfront hsettled habuts]
    exact hall
  refine ⟨before, after, htext, hplace, by rw [hlexing], ⟨?_, ?_⟩, ?_⟩
  · intro hjoins
    obtain ⟨state, settled, second, rest, hfront, hsettled, hsecond, htree⟩ :=
      exists_settled_of_pipe (hpipe hjoins)
    exact ⟨settled.chains, settled.filters, second, rest,
      parse_of_settled hlexing hfront hsettled, (hback.parse_eq_ok_iff ending _).mpr hsecond, htree⟩
  · rintro ⟨chains, first, second, rest, hbefore, hafter, rfl⟩
    have hsecond := (hback.parse_eq_ok_iff ending _).mp hafter
    exact joinsFilter_of_parse hmark hlexing hbefore hsecond hall
  · intro hjoins
    exact (hpiped.parse_eq_ok_iff ending tree).mpr (hpipe hjoins)

/-- Before a mark a pipe is optional.  Instead of the pipe there may be a space, except that two
paths become one; and a mark that starts a filter behind another one may have a pipe before it. -/
theorem Tree.parse_optional_pipe {text : String} {tree : Tree}
    (hparse : Tree.parse text = .ok tree) :
    (∀ front place next back,
      (Lexing.ofText text).tokens = front ++ ⟨.pipe, place⟩ :: next :: back →
      next.token.isFilterMark = true →
      ∃ before after : String, text = before ++ "|" ++ after ∧
        place = Position.behind before.toList ∧ (Lexing.ofText before).tokens = front ∧
        ∃ chains chain filter following more rest,
          Tree.parse before = .ok (chains ++ [chain ++ [filter]]) ∧
          Tree.parse after = .ok ((following :: more) :: rest) ∧
          tree = chains ++ (chain ++ filter :: following :: more) :: rest ∧
          ((next.token = .dot → ∀ path, filter ≠ .property path) →
            Tree.parse (before ++ " " ++ after) = .ok tree) ∧
          ∀ path, next.token = .dot → filter = .property path → ∃ tail,
            following = .property tail ∧ Tree.parse (before ++ " " ++ after) =
              .ok (chains ++ (chain ++ .property (path ++ tail) :: more) :: rest)) ∧
    ∀ front next back, (Lexing.ofText text).tokens = front ++ next :: back →
      next.token.isFilterMark = true →
      ∃ before after : String, text = before ++ after ∧
        next.place = Position.behind before.toList ∧ (Lexing.ofText before).tokens = front ∧
        (JoinsFilter (front.map Spanned.token) next.token ↔ ∃ chains first second rest,
          Tree.parse before = .ok (chains ++ [first]) ∧
          Tree.parse after = .ok (second :: rest) ∧
          tree = chains ++ (first ++ second) :: rest) ∧
        (JoinsFilter (front.map Spanned.token) next.token →
          Tree.parse (before ++ "|" ++ after) = .ok tree) := by
  constructor
  · intro front place next back htokens hmark
    exact parse_without_pipe hparse htokens hmark
  · intro front next back htokens hmark
    exact parse_with_pipe hparse htokens hmark

/-- Two paths become one, and a point between digits starts a filter behind a sigil. -/
theorem Tree.parse_optional_pipe_of_paths :
    (∃ before after : String, ".a |.b.c" = before ++ "|" ++ after ∧
      Tree.parse (before ++ " " ++ after) = .ok [[.property ["a", "b", "c"]]]) ∧
    ∃ before after : String, "<1.5" = before ++ after ∧
      (Lexing.ofText before).tokens.map Spanned.token = [.less, .word "1"] ∧
      Tree.parse (before ++ "|" ++ after) = .ok [[.access "1", .property ["5"]]] := by
  have hpaths : Tree.parse ".a |.b.c" = .ok [[.property ["a"], .property ["b", "c"]]] :=
    (Tree.parse_eq _).trans (by cbv)
  have hsigil : Tree.parse "<1.5" = .ok [[.access "1", .property ["5"]]] :=
    (Tree.parse_eq _).trans (by cbv)
  have hpipe : (Lexing.ofText ".a |.b.c").tokens =
      [⟨.dot, ⟨1, 1⟩⟩, ⟨.word "a", ⟨1, 2⟩⟩] ++ ⟨.pipe, ⟨1, 4⟩⟩ :: ⟨.dot, ⟨1, 5⟩⟩ ::
        [⟨.word "b", ⟨1, 6⟩⟩, ⟨.dot, ⟨1, 7⟩⟩, ⟨.word "c", ⟨1, 8⟩⟩] := by cbv
  have hpoint : (Lexing.ofText "<1.5").tokens =
      [⟨.less, ⟨1, 1⟩⟩, ⟨.word "1", ⟨1, 2⟩⟩] ++ ⟨.dot, ⟨1, 3⟩⟩ :: [⟨.word "5", ⟨1, 4⟩⟩] := by cbv
  have hjoins : JoinsFilter [.less, .word "1"] .dot :=
    ⟨rfl, ⟨.word "1", rfl, by simp, by simp⟩, fun _ _ hsuffix => by
      simpa using hsuffix.eq_of_length rfl⟩
  obtain ⟨before, after, htext, -, -, chains, chain, filter, following, more, rest, -, -, htree, -,
    hmerged⟩ := (parse_optional_pipe hpaths).1 _ _ _ _ hpipe rfl
  obtain ⟨front, back, hsplit, -, hfront, -, hinserted⟩ :=
    (parse_optional_pipe hsigil).2 _ _ _ hpoint rfl
  have hparts : chains = [] ∧ chain = [] ∧ filter = .property ["a"] ∧
      following = .property ["b", "c"] ∧ more = [] ∧ rest = [] := by
    cases chains with
    | nil =>
        cases chain with
        | nil => simpa [eq_comm, and_assoc] using htree
        | cons first chain => cases chain <;> simp at htree
    | cons first chains => simp at htree
  obtain ⟨rfl, rfl, rfl, rfl, rfl, rfl⟩ := hparts
  obtain ⟨tail, htail, hpaths⟩ := hmerged ["a"] rfl rfl
  cases htail
  exact ⟨⟨before, after, htext, hpaths⟩, front, back, hsplit, by rw [hfront]; rfl, hinserted hjoins⟩

end FilterChain
