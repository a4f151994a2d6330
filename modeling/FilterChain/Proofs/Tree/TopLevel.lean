import FilterChain.Proofs.Tree.Grammar

/-!
# Commas between chains

Commas also stand between arguments and between entries, but there a bracket is open.  A
comma before which as many brackets of each kind are closed as opened is therefore one
between chains: the tokens before it and those behind it are expressions of their own.
-/

namespace FilterChain.Grammar

/-- As many brackets of each kind are closed as opened. -/
def Balanced (tokens : List Token) : Prop :=
  tokens.count .openParen = tokens.count .closeParen ∧
    tokens.count .openBracket = tokens.count .closeBracket

instance (tokens : List Token) : Decidable (Balanced tokens) :=
  inferInstanceAs (Decidable (_ ∧ _))

theorem balanced_append {tokens : List Token} (htokens : Balanced tokens) (more : List Token) :
    Balanced (tokens ++ more) ↔ Balanced more := by
  obtain ⟨hparens, hbrackets⟩ := htokens
  simp only [Balanced, List.count_append]
  omega

theorem balanced_comma : Balanced [.comma] :=
  ⟨rfl, rfl⟩

/-! ## Tokens without brackets -/

def isBracket : Token → Bool
  | .openParen | .closeParen | .openBracket | .closeBracket => true
  | _ => false

def Flat (tokens : List Token) : Prop :=
  ∀ token ∈ tokens, isBracket token = false

theorem Flat.append {tokens more : List Token} (htokens : Flat tokens) (hmore : Flat more) :
    Flat (tokens ++ more) :=
  List.forall_mem_append.mpr ⟨htokens, hmore⟩

theorem Flat.count_eq_zero {tokens : List Token} (hflat : Flat tokens) {bracket : Token}
    (hbracket : isBracket bracket = true) : tokens.count bracket = 0 := by
  apply List.count_eq_zero.mpr
  intro hmem
  have hnone := hflat bracket hmem
  rw [hbracket] at hnone
  cases hnone

theorem Flat.balanced {tokens : List Token} (hflat : Flat tokens) : Balanced tokens := by
  constructor
  · rw [hflat.count_eq_zero rfl, hflat.count_eq_zero rfl]
  · rw [hflat.count_eq_zero rfl, hflat.count_eq_zero rfl]

theorem IsSign.flat {sign : List Token} {negative : Bool} (hsign : IsSign sign negative) :
    Flat sign := by
  cases hsign <;> simp [Flat, isBracket]

theorem IsArgument.flat {tokens : List Token} {argument : Literal}
    (hargument : IsArgument tokens argument) : Flat tokens := by
  cases hargument with
  | string text => simp [Flat, isBracket]
  | float x hsign => exact hsign.flat.append (by simp [Flat, isBracket])
  | integer hsign hword hn => exact hsign.flat.append (by simp [Flat, isBracket])

theorem IsBound.flat {tokens : List Token} {n : Int64} (hbound : IsBound tokens n) :
    Flat tokens := by
  cases hbound <;> simp [Flat, isBracket]

theorem IsEntry.flat {tokens : List Token} {entry : SubsetEntry} (hentry : IsEntry tokens entry) :
    Flat tokens := by
  cases hentry with
  | index hn hle => exact hn.flat
  | range hlo hhi =>
      apply hlo.flat.append
      exact List.forall_mem_cons.mpr ⟨rfl, hhi.flat⟩

theorem IsListOf.flat {α : Type} {item : List Token → α → Prop}
    (hitem : ∀ {tokens x}, item tokens x → Flat tokens) {tokens : List Token} {xs : List α}
    (hlist : IsListOf item tokens xs) : Flat tokens := by
  induction hlist with
  | one h => exact hitem h
  | more _ h ih =>
      apply ih.append
      exact List.forall_mem_cons.mpr ⟨rfl, hitem h⟩

/-! ## Parts whose commas stand in brackets -/

/-- Brackets are closed, and every comma stands where one is open. -/
structure Closed (tokens : List Token) : Prop where
  balanced : Balanced tokens
  comma : ∀ front back, tokens = front ++ .comma :: back → ¬ Balanced front

theorem Closed.append {tokens more : List Token} (htokens : Closed tokens) (hmore : Closed more) :
    Closed (tokens ++ more) := by
  constructor
  · exact (balanced_append htokens.balanced more).mpr hmore.balanced
  · intro front back heq hfront
    rcases List.append_eq_append_iff.mp heq with ⟨middle, rfl, hmiddle⟩ | ⟨middle, hmiddle, hback⟩
    · rw [balanced_append htokens.balanced] at hfront
      exact hmore.comma middle back hmiddle hfront
    · cases middle with
      | nil =>
          rw [List.append_nil] at hmiddle
          exact hmore.comma [] back hback.symm ⟨rfl, rfl⟩
      | cons first rest =>
          obtain ⟨rfl, -⟩ := List.cons.inj hback
          exact htokens.comma front rest hmiddle hfront

theorem closed_of_flat {tokens : List Token} (hflat : Flat tokens) (hcomma : .comma ∉ tokens) :
    Closed tokens := by
  constructor
  · exact hflat.balanced
  · rintro front back rfl
    simp at hcomma

theorem closed_enclosed {opening closing : Token} {tokens : List Token}
    (hpair : (opening, closing) = (.openParen, .closeParen) ∨
      (opening, closing) = (.openBracket, .closeBracket))
    (hflat : Flat tokens) : Closed (opening :: (tokens ++ [closing])) := by
  constructor
  · have hinner := hflat.balanced
    rcases hpair with hpair | hpair <;> cases hpair <;> simpa [Balanced] using hinner
  · intro front back heq hfront
    rcases List.cons_eq_append_iff.mp heq with ⟨rfl, hopening⟩ | ⟨inner, rfl, hinner⟩
    · obtain ⟨rfl, -⟩ := List.cons.inj hopening
      simp at hpair
    · have hflatInner : Flat inner := by
        rcases List.append_eq_append_iff.mp hinner with ⟨rest, rfl, hrest⟩ | ⟨rest, rfl, -⟩
        · cases rest with
          | nil =>
              rw [List.append_nil]
              exact hflat
          | cons first rest => simp at hrest
        · intro token hmem
          exact hflat token (List.mem_append_left rest hmem)
      obtain ⟨hparens, hbrackets⟩ := hflatInner.balanced
      rcases hpair with hpair | hpair <;> cases hpair <;> simp [Balanced] at hfront <;> omega

theorem IsPath.flat {tokens : List Token} {path : List String} (hpath : IsPath tokens path) :
    Flat tokens ∧ .comma ∉ tokens := by
  induction hpath with
  | one name => simp [Flat, isBracket]
  | more name _ ih =>
      constructor
      · exact ih.1.append (by simp [Flat, isBracket])
      · simp [ih.2]

theorem IsFilter.closed {tokens : List Token} {filter : Filter} (hfilter : IsFilter tokens filter) :
    Closed tokens := by
  cases hfilter with
  | call name harguments =>
      have hname : Closed [.word name] := closed_of_flat (by simp [Flat, isBracket]) (by simp)
      exact hname.append (closed_enclosed (.inl rfl) (harguments.flat IsArgument.flat))
  | property hpath => exact closed_of_flat hpath.flat.1 hpath.flat.2
  | subset hentries => exact closed_enclosed (.inr rfl) (hentries.flat IsEntry.flat)
  | _ => exact closed_of_flat (by simp [Flat, isBracket]) (by simp)

theorem IsChain.closed {tokens : List Token} {chain : Chain} (hchain : IsChain tokens chain) :
    Closed tokens := by
  induction hchain with
  | one hfilter => exact hfilter.closed
  | piped _ hfilter ih =>
      have hpipe : Closed [.pipe] := closed_of_flat (by simp [Flat, isBracket]) (by simp)
      exact ih.append (hpipe.append hfilter.closed)
  | abutting _ hfilter _ ih => exact ih.append hfilter.closed

theorem IsTree.balanced {tokens : List Token} {tree : Tree} (htree : IsTree tokens tree) :
    Balanced tokens := by
  induction htree with
  | one hchain => exact hchain.closed.balanced
  | more _ hchain ih =>
      rw [balanced_append ih]
      exact (balanced_append balanced_comma _).mpr hchain.closed.balanced

/-! ## Commas outside brackets -/

/-- A comma outside brackets splits an expression. -/
theorem IsTree.exists_split {tokens : List Token} {tree : Tree} (htree : IsTree tokens tree)
    {front back : List Token} (heq : tokens = front ++ .comma :: back) (hfront : Balanced front) :
    ∃ first second, tree = first ++ second ∧ IsTree front first ∧ IsTree back second := by
  induction htree generalizing back with
  | one hchain => exact absurd hfront (hchain.closed.comma front back heq)
  | @more before last chains chain hbefore hchain ih =>
      have hbalanced : Balanced before := IsTree.balanced hbefore
      have hlast : IsTree last [chain] := .one hchain
      rcases List.append_eq_append_iff.mp heq with ⟨middle, rfl, hmiddle⟩ | ⟨middle, rfl, hmiddle⟩
      · rw [balanced_append hbalanced] at hfront
        cases middle with
        | nil =>
            obtain ⟨-, rfl⟩ := List.cons.inj hmiddle
            rw [List.append_nil]
            exact ⟨chains, [chain], rfl, hbefore, hlast⟩
        | cons separator rest =>
            obtain ⟨rfl, hrest⟩ := List.cons.inj hmiddle
            have hinside := (balanced_append balanced_comma rest).mp hfront
            exact absurd hinside (hchain.closed.comma rest back hrest)
      · cases middle with
        | nil =>
            obtain ⟨-, rfl⟩ := List.cons.inj hmiddle
            rw [List.append_nil] at hbefore
            exact ⟨chains, [chain], rfl, hbefore, hlast⟩
        | cons separator rest =>
            obtain ⟨rfl, rfl⟩ := List.cons.inj hmiddle
            obtain ⟨first, second, rfl, hfirst, hsecond⟩ := ih rfl
            exact ⟨first, second ++ [chain], List.append_assoc _ _ _, hfirst, .more hsecond hchain⟩

/-- The number of commas, among tokens that stand behind others, outside brackets. -/
def commasBehind (before : List Token) : List Token → Nat
  | [] => 0
  | token :: tokens =>
      (if token = .comma ∧ Balanced before then 1 else 0) + commasBehind (before ++ [token]) tokens

/-- The number of commas before which as many brackets of each kind are closed as opened. -/
def topCommas (tokens : List Token) : Nat := commasBehind [] tokens

theorem commasBehind_append (before tokens more : List Token) :
    commasBehind before (tokens ++ more) =
      commasBehind before tokens + commasBehind (before ++ tokens) more := by
  induction tokens generalizing before with
  | nil => simp [commasBehind]
  | cons token tokens ih =>
      simp only [List.cons_append, commasBehind, ih, List.append_assoc, List.nil_append]
      omega

theorem commasBehind_of_balanced {before : List Token} (hbefore : Balanced before)
    (middle tokens : List Token) :
    commasBehind (before ++ middle) tokens = commasBehind middle tokens := by
  induction tokens generalizing middle with
  | nil => rfl
  | cons token tokens ih =>
      simp only [commasBehind, balanced_append hbefore, List.append_assoc, ih]

theorem commasBehind_eq_zero {before tokens : List Token}
    (hcomma : ∀ front back, tokens = front ++ .comma :: back → ¬ Balanced (before ++ front)) :
    commasBehind before tokens = 0 := by
  induction tokens generalizing before with
  | nil => rfl
  | cons token tokens ih =>
      have hfirst : ¬ (token = .comma ∧ Balanced before) := by
        rintro ⟨rfl, hbefore⟩
        exact hcomma [] tokens rfl (by simpa using hbefore)
      have hrest : commasBehind (before ++ [token]) tokens = 0 := by
        apply ih
        rintro front back rfl
        rw [List.append_assoc]
        exact hcomma (token :: front) back rfl
      rw [commasBehind, if_neg hfirst, hrest]

theorem topCommas_append {tokens : List Token} (htokens : Balanced tokens) (more : List Token) :
    topCommas (tokens ++ more) = topCommas tokens + topCommas more := by
  have hmore := commasBehind_of_balanced htokens [] more
  rw [List.append_nil] at hmore
  rw [topCommas, commasBehind_append, List.nil_append, hmore]
  rfl

theorem Closed.topCommas_eq_zero {tokens : List Token} (hclosed : Closed tokens) :
    topCommas tokens = 0 :=
  commasBehind_eq_zero hclosed.comma

/-- There is one chain more than commas outside brackets. -/
theorem IsTree.length_eq {tokens : List Token} {tree : Tree} (htree : IsTree tokens tree) :
    tree.length = topCommas tokens + 1 := by
  induction htree with
  | one hchain => rw [hchain.closed.topCommas_eq_zero, List.length_singleton]
  | @more before last chains chain hbefore hchain ih =>
      have hcomma : topCommas (.comma :: last) = 1 := by
        have happend := topCommas_append balanced_comma last
        rw [hchain.closed.topCommas_eq_zero] at happend
        exact happend
      rw [topCommas_append (IsTree.balanced hbefore), hcomma, List.length_append, ih,
        List.length_singleton]

end FilterChain.Grammar
