import FilterChain.Proofs.Tree.Grammar
import FilterChain.Proofs.Tree.Machine

/-!
# The parser accepts the grammar

Whatever the grammar derives, the parser takes token by token, wherever the tokens
stand in the text, and builds the derived tree.  Each relation of the grammar has a
lemma that leads from the phase where such a part starts to the phase behind it;
these are composed along the derivation.
-/

namespace FilterChain.Parser

open Grammar

namespace State

/-- Tokens at any places lead from a state to one with a property. -/
def Takes (state : State) (tokens : List Token) (goal : State → Prop) : Prop :=
  ∀ spanned : List Spanned, spanned.map Spanned.token = tokens →
    ∃ after, state.pushAll spanned = .ok after ∧ goal after

variable {state middle : State} {token : Token} {tokens more : List Token}
  {goal reached : State → Prop}

theorem takes_nil (hgoal : goal state) : Takes state [] goal := by
  intro spanned hspanned
  obtain rfl := List.map_eq_nil_iff.mp hspanned
  exact ⟨state, rfl, hgoal⟩

theorem takes_cons
    (hpush : ∀ place, ∃ after, state.push ⟨token, place⟩ = .ok after ∧ Takes after tokens goal) :
    Takes state (token :: tokens) goal := by
  intro spanned hspanned
  obtain ⟨⟨first, place⟩, rest, rfl, rfl, hrest⟩ := List.map_eq_cons_iff.mp hspanned
  obtain ⟨after, hafter, htakes⟩ := hpush place
  obtain ⟨last, hlast, hgoal⟩ := htakes rest hrest
  refine ⟨last, ?_, hgoal⟩
  rw [pushAll_cons, hafter]
  exact hlast

theorem takes_push (hpush : ∀ place, state.push ⟨token, place⟩ = .ok middle)
    (htokens : Takes middle tokens goal) : Takes state (token :: tokens) goal :=
  takes_cons fun place => ⟨middle, hpush place, htokens⟩

theorem takes_append (hfirst : Takes state tokens reached)
    (hlast : ∀ after, reached after → Takes after more goal) :
    Takes state (tokens ++ more) goal := by
  intro spanned hspanned
  obtain ⟨front, back, rfl, hfront, hback⟩ := List.map_eq_append_iff.mp hspanned
  obtain ⟨after, hafter, hreached⟩ := hfirst front hfront
  obtain ⟨last, hlast, hgoal⟩ := hlast after hreached back hback
  refine ⟨last, ?_, hgoal⟩
  rw [pushAll_append back hafter, hlast]

theorem Takes.mono (htakes : Takes state tokens reached)
    (hgoal : ∀ after, reached after → goal after) : Takes state tokens goal := by
  intro spanned hspanned
  obtain ⟨after, hafter, hreached⟩ := htakes spanned hspanned
  exact ⟨after, hafter, hgoal after hreached⟩

theorem Takes.congr_head {other : State} (htakes : Takes state (token :: tokens) goal)
    (hpush : ∀ place, other.push ⟨token, place⟩ = state.push ⟨token, place⟩) :
    Takes other (token :: tokens) goal := by
  intro spanned hspanned
  obtain ⟨after, hafter, hgoal⟩ := htakes spanned hspanned
  refine ⟨after, ?_, hgoal⟩
  obtain ⟨⟨first, place⟩, rest, rfl, rfl, _⟩ := List.map_eq_cons_iff.mp hspanned
  rw [← hafter, pushAll_cons, pushAll_cons, hpush place]

end State

open State

/-! ## Numbers -/

theorem wholeNumber?_of_isNumber {word : String} {m : Nat} (hword : IsNumber word m) :
    isWholeNumber word = true ∧ wholeNumber? word = some (Int64.ofNat m) := by
  constructor
  · exact List.all_eq_true.mpr hword.digits
  · have hbound : m < 0x8000000000000000 := hword.bound
    unfold wholeNumber?
    dsimp only
    rw [hword.value, if_pos hbound]

theorem toInt_signed {m : Nat} (negative : Bool) (hm : m < 2 ^ 63) :
    (signed negative (Int64.ofNat m)).toInt = if negative then -(m : Int) else m := by
  cases negative with
  | false => exact Int64.toInt_ofNat_of_lt hm
  | true => exact Int64.toInt_neg_ofNat_of_le (Nat.le_of_lt hm)

theorem signed_eq_of_toInt {m : Nat} {n : Int64} (negative : Bool) (hm : m < 2 ^ 63)
    (hn : n.toInt = if negative then -(m : Int) else m) :
    signed negative (Int64.ofNat m) = n := by
  apply Int64.toInt_inj.mp
  rw [toInt_signed negative hm, hn]

theorem takeBound_of_isNumber {word : String} {m : Nat} (hword : IsNumber word m) :
    takeBound (.word word) = .ok (Int64.ofNat m) := by
  obtain ⟨hdigits, hnumber⟩ := wholeNumber?_of_isNumber hword
  simp [takeBound, hdigits, hnumber]

/-! ## Arguments -/

theorem takes_sign (state : State) (name : String) (arguments : List Literal)
    {sign tokens : List Token} {negative : Bool} {goal : State → Prop}
    (hsign : IsSign sign negative)
    (hplain : sign = [] → Takes (state.into (.argument name arguments)) tokens goal)
    (hsigned : Takes (state.into (.signedNumber name arguments negative)) tokens goal) :
    Takes (state.into (.argument name arguments)) (sign ++ tokens) goal := by
  cases hsign with
  | none => exact hplain rfl
  | plus => exact takes_push (fun _ => rfl) hsigned
  | minus => exact takes_push (fun _ => rfl) hsigned

theorem takes_argument (state : State) (name : String) (arguments : List Literal)
    {tokens : List Token} {argument : Literal} (hargument : IsArgument tokens argument) :
    Takes (state.into (.argument name arguments)) tokens
      (· = state.into (.argumentEnd name (arguments ++ [argument]))) := by
  cases hargument with
  | string text => exact takes_push (fun _ => rfl) (takes_nil rfl)
  | @float sign negative x hsign =>
      apply takes_sign state name arguments hsign
      · rintro rfl
        cases hsign
        exact takes_push (fun _ => rfl) (takes_nil rfl)
      · exact takes_push (fun _ => rfl) (takes_nil rfl)
  | @integer sign negative word m n hsign hword hn =>
      obtain ⟨hdigits, hnumber⟩ := wholeNumber?_of_isNumber hword
      have hvalue := signed_eq_of_toInt negative hword.bound hn
      apply takes_sign state name arguments hsign
      · rintro rfl
        cases hsign
        refine takes_push (fun place => ?_) (takes_nil rfl)
        rw [← hvalue]
        simp [push, takeArgument, hdigits, hnumber, signed]
      · refine takes_push (fun place => ?_) (takes_nil rfl)
        rw [← hvalue]
        simp [push, takeSignedNumber, hdigits, hnumber]

theorem takes_arguments (state : State) (name : String) {tokens : List Token}
    {arguments : List Literal} (harguments : IsListOf IsArgument tokens arguments) :
    Takes (state.into (.argument name [])) tokens
      (· = state.into (.argumentEnd name arguments)) := by
  induction harguments with
  | one hargument => exact takes_argument state name [] hargument
  | more _ hargument ih =>
      apply takes_append ih
      rintro _ rfl
      exact takes_push (fun _ => rfl) (takes_argument state name _ hargument)

theorem push_argumentStart (state : State) (name : String) {token : Token}
    (htoken : token ≠ .closeParen) (place : Position) :
    (state.into (.argumentStart name)).push ⟨token, place⟩ =
      (state.into (.argument name [])).push ⟨token, place⟩ := by
  cases token <;> first | rfl | exact absurd rfl htoken

/-! ## Entries -/

theorem takes_lowBound (state : State) (entries : List SubsetEntry) {tokens : List Token}
    {lo : Int64} (hlo : IsBound tokens lo) :
    Takes (state.into (.entry entries)) tokens fun after =>
      ∃ start negative n, after = state.into (.lowEnd entries start negative n) ∧
        signed negative n = lo := by
  cases hlo with
  | @plain word m _ hword hn =>
      refine takes_cons fun place =>
        ⟨state.into (.lowEnd entries place false (Int64.ofNat m)), ?_,
          takes_nil ⟨place, false, Int64.ofNat m, rfl, signed_eq_of_toInt false hword.bound hn⟩⟩
      simp [push, startEntry, takeBound_of_isNumber hword]
  | @negative word m _ hword hn =>
      refine takes_cons fun start => ⟨state.into (.lowBound entries start), rfl, ?_⟩
      refine takes_cons fun place =>
        ⟨state.into (.lowEnd entries start true (Int64.ofNat m)), ?_,
          takes_nil ⟨start, true, Int64.ofNat m, rfl, signed_eq_of_toInt true hword.bound hn⟩⟩
      simp [push, takeBound_of_isNumber hword]

theorem takes_highBound (state : State) (entries : List SubsetEntry) (lo : Int64)
    {tokens : List Token} {hi : Int64} (hhi : IsBound tokens hi) :
    Takes (state.into (.highBound entries lo)) tokens
      (· = state.into (.entryEnd (entries ++ [.range lo hi]))) := by
  cases hhi with
  | @plain word m _ hword hn =>
      refine takes_push (fun place => ?_) (takes_nil rfl)
      rw [← signed_eq_of_toInt false hword.bound hn]
      simp [push, takeBound_of_isNumber hword,
        signed]
  | @negative word m _ hword hn =>
      refine takes_push (fun _ => rfl) (takes_push (fun place => ?_) (takes_nil rfl))
      rw [← signed_eq_of_toInt true hword.bound hn]
      simp [push, takeBound_of_isNumber hword,
        signed]

/-- A state behind an entry: a comma or bracket is taken as the entries so far allow it. -/
def EndsEntry (state : State) (entries : List SubsetEntry) (after : State) : Prop :=
  ∀ token place, token = .comma ∨ token = .closeBracket →
    after.push ⟨token, place⟩ = atToken place (endEntry state entries token)

theorem takes_entry (state : State) (entries : List SubsetEntry) {tokens : List Token}
    {entry : SubsetEntry} (hentry : IsEntry tokens entry) :
    Takes (state.into (.entry entries)) tokens (EndsEntry state (entries ++ [entry])) := by
  cases hentry with
  | @index _ n hn hle =>
      refine (takes_lowBound state entries hn).mono ?_
      rintro _ ⟨start, negative, m, rfl, hvalue⟩ token place htoken
      have hlt : ¬ n < 0 := by
        rw [Int64.lt_iff_toInt_lt]
        rw [Int64.le_iff_toInt_le] at hle
        omega
      rcases htoken with rfl | rfl <;> simp [push, hvalue, hlt, endEntry]
  | @range low high lo hi hlo hhi =>
      apply takes_append (takes_lowBound state entries hlo)
      rintro _ ⟨start, negative, m, rfl, hvalue⟩
      have hhigh : Takes (state.into (.highBound entries (signed negative m))) high
          (EndsEntry state (entries ++ [.range lo hi])) := by
        rw [hvalue]
        refine (takes_highBound state entries lo hhi).mono ?_
        rintro _ rfl token place _
        rfl
      exact takes_push (fun _ => rfl) hhigh

theorem takes_entries (state : State) {tokens : List Token} {entries : List SubsetEntry}
    (hentries : IsListOf IsEntry tokens entries) :
    Takes (state.into (.entry [])) tokens (EndsEntry state entries) := by
  induction hentries with
  | one hentry => exact takes_entry state [] hentry
  | more _ hentry ih =>
      apply takes_append ih
      intro after hafter
      refine takes_push (fun place => ?_) (takes_entry state _ hentry)
      rw [hafter .comma place (.inl rfl)]
      rfl

theorem push_subsetStart (state : State) {token : Token} (htoken : token ≠ .closeBracket)
    (place : Position) :
    (state.into .subsetStart).push ⟨token, place⟩ =
      (state.into (.entry [])).push ⟨token, place⟩ := by
  cases token <;> first | rfl | exact absurd rfl htoken

/-! ## Filters -/

/-- The state with its last filter in the open chain, where that filter may end.  A path or a
name may still go on. -/
def State.settled? (state : State) : Option State :=
  match state.phase with
  | .filterEnd => some state
  | .property path => some (state.add (.property path))
  | .function name => some (state.add (.function name []))
  | _ => none

/-- A token that goes on with the path or the call that a state may end with. -/
def Extends (state : State) : Token → Prop
  | .dot => ∃ path, state.phase = .property path
  | .openParen => ∃ name, state.phase = .function name
  | _ => False

theorem push_of_settled {state settled : State} {token : Token} (place : Position)
    (hsettled : state.settled? = some settled) (hextends : ¬ Extends state token) :
    state.push ⟨token, place⟩ = atToken place (continueChain settled token) := by
  obtain ⟨chains, filters, phase⟩ := state
  cases phase with
  | filterEnd =>
      cases hsettled
      rfl
  | property path =>
      cases hsettled
      cases token <;> first | rfl | exact absurd ⟨path, rfl⟩ hextends
  | function name =>
      cases hsettled
      cases token <;> first | rfl | exact absurd ⟨name, rfl⟩ hextends
  | _ => cases hsettled

/-- Behind a filter, a pipe leads to where a filter starts. -/
theorem push_pipe {state settled : State} (hsettled : state.settled? = some settled)
    (place : Position) : state.push ⟨.pipe, place⟩ = .ok (settled.into .filter) := by
  rw [push_of_settled place hsettled id]
  rfl

/-- Behind a filter, a comma leads to where a chain starts. -/
theorem push_comma {state settled : State} (hsettled : state.settled? = some settled)
    (place : Position) : state.push ⟨.comma, place⟩ = .ok settled.closeChain := by
  rw [push_of_settled place hsettled id]
  rfl

theorem takes_path (state : State) {tokens : List Token} {path : List String}
    (hpath : IsPath tokens path) :
    Takes (state.into .filter) tokens (· = state.into (.property path)) := by
  induction hpath with
  | one name => exact takes_push (fun _ => rfl) (takes_push (fun _ => rfl) (takes_nil rfl))
  | more name _ ih =>
      apply takes_append ih
      rintro _ rfl
      exact takes_push (fun _ => rfl) (takes_push (fun _ => rfl) (takes_nil rfl))

theorem takes_call (state : State) (name : String) {tokens : List Token}
    {arguments : List Literal} (harguments : IsListOf IsArgument tokens arguments) :
    Takes (state.into .filter) (.word name :: .openParen :: (tokens ++ [.closeParen]))
      (· = state.add (.function name arguments)) := by
  obtain ⟨first, rest, rfl, hfirst⟩ := harguments.head IsArgument.head
  have hlist : Takes (state.into (.argumentStart name)) (first :: rest)
      (· = state.into (.argumentEnd name arguments)) :=
    (takes_arguments state name harguments).congr_head (push_argumentStart state name hfirst)
  have hcall : Takes (state.into (.argumentStart name)) (first :: rest ++ [.closeParen])
      (· = state.add (.function name arguments)) := by
    apply takes_append hlist
    rintro _ rfl
    exact takes_push (fun _ => rfl) (takes_nil rfl)
  exact takes_push (fun _ => rfl) (takes_push (fun _ => rfl) hcall)

theorem takes_subset (state : State) {tokens : List Token} {entries : List SubsetEntry}
    (hentries : IsListOf IsEntry tokens entries) :
    Takes (state.into .filter) (.openBracket :: (tokens ++ [.closeBracket]))
      (· = state.add (.subset entries)) := by
  obtain ⟨first, rest, rfl, hfirst⟩ := hentries.head IsEntry.head
  have hlist : Takes (state.into .subsetStart) (first :: rest) (EndsEntry state entries) :=
    (takes_entries state hentries).congr_head (push_subsetStart state hfirst)
  have hsubset : Takes (state.into .subsetStart) (first :: rest ++ [.closeBracket])
      (· = state.add (.subset entries)) := by
    apply takes_append hlist
    intro after hafter
    refine takes_push (fun place => ?_) (takes_nil rfl)
    rw [hafter .closeBracket place (.inr rfl)]
    rfl
  exact takes_push (fun _ => rfl) hsubset

theorem takes_filter (state : State) {tokens : List Token} {filter : Filter}
    (hfilter : IsFilter tokens filter) :
    Takes (state.into .filter) tokens (·.settled? = some (state.add filter)) := by
  cases hfilter with
  | function name => exact takes_push (fun _ => rfl) (takes_nil rfl)
  | call name harguments =>
      refine (takes_call state name harguments).mono ?_
      rintro _ rfl
      rfl
  | access name => exact takes_push (fun _ => rfl) (takes_push (fun _ => rfl) (takes_nil rfl))
  | assign name => exact takes_push (fun _ => rfl) (takes_push (fun _ => rfl) (takes_nil rfl))
  | property hpath =>
      refine (takes_path state hpath).mono ?_
      rintro _ rfl
      rfl
  | subset hentries =>
      refine (takes_subset state hentries).mono ?_
      rintro _ rfl
      rfl
  | matching find flags => exact takes_push (fun _ => rfl) (takes_nil rfl)
  | substitution find replace flags => exact takes_push (fun _ => rfl) (takes_nil rfl)

/-! ## Chains and expressions -/

theorem push_of_abuts {state settled : State} {first : Token} {rest : List Token}
    (hsettled : state.settled? = some settled) (habuts : Abuts settled.filters (first :: rest))
    (place : Position) :
    state.push ⟨first, place⟩ = (settled.into .filter).push ⟨first, place⟩ := by
  have hextends : ¬ Extends state first := by
    rcases habuts with h | h | h | ⟨h, hlast⟩ <;> cases h
    · exact id
    · exact id
    · exact id
    · rintro ⟨path, hphase⟩
      rw [settled?, hphase] at hsettled
      cases hsettled
      exact hlast path (by simp [add])
  rw [push_of_settled place hsettled hextends]
  rcases habuts with h | h | h | ⟨h, _⟩ <;> cases h <;> rfl

theorem takes_chain (chains : Tree) {tokens : List Token} {chain : Chain}
    (hchain : IsChain tokens chain) :
    Takes ⟨chains, [], .filter⟩ tokens (·.settled? = some ⟨chains, chain, .filterEnd⟩) := by
  induction hchain with
  | one hfilter => exact takes_filter ⟨chains, [], .filter⟩ hfilter
  | @piped _ _ chain _ _ hfilter ih =>
      apply takes_append ih
      intro after hafter
      exact takes_push (push_pipe hafter) (takes_filter ⟨chains, chain, .filterEnd⟩ hfilter)
  | @abutting _ tokens chain _ _ hfilter habuts ih =>
      apply takes_append ih
      intro after hafter
      have htakes := takes_filter ⟨chains, chain, .filterEnd⟩ hfilter
      cases tokens with
      | nil => simp [Abuts] at habuts
      | cons first rest => exact htakes.congr_head (push_of_abuts hafter habuts)

/-- The open chain may end, and would complete the expression. -/
def EndsTree (tree : Tree) (state : State) : Prop :=
  ∃ settled, state.settled? = some settled ∧ settled.closeChain.chains = tree

theorem takes_tree {tokens : List Token} {tree : Tree} (htree : IsTree tokens tree) :
    Takes State.start tokens (EndsTree tree) := by
  induction htree with
  | one hchain =>
      refine (takes_chain [] hchain).mono ?_
      intro after hafter
      exact ⟨_, hafter, rfl⟩
  | @more _ _ tree _ _ hchain ih =>
      apply takes_append ih
      rintro after ⟨settled, hsettled, rfl⟩
      have hlast : Takes settled.closeChain _ (EndsTree _) :=
        (takes_chain settled.closeChain.chains hchain).mono fun _ hlast => ⟨_, hlast, rfl⟩
      exact takes_push (push_comma hsettled) hlast

theorem finish_of_endsTree {tree : Tree} {state : State} (hends : EndsTree tree state)
    (place : Position) : state.finish place = .ok tree := by
  obtain ⟨settled, hsettled, rfl⟩ := hends
  rw [finish, push_of_settled place hsettled id]
  rfl

/-- The parser builds what the grammar derives. -/
theorem exists_pushAll_of_isTree {spanned : List Spanned} {tree : Tree}
    (htree : IsTree (spanned.map Spanned.token) tree) :
    ∃ state, State.start.pushAll spanned = .ok state ∧
      ∀ place, state.finish place = .ok tree := by
  obtain ⟨state, hpush, hends⟩ := takes_tree htree spanned rfl
  exact ⟨state, hpush, finish_of_endsTree hends⟩

end FilterChain.Parser
