import FilterChain.Proofs.Tree.Pipe

/-!
# Filters in brackets

The brackets of a call or of a subset lead to where its first item starts, and a comma to where
the next one does.  From then on the filter only grows: what the parser has taken as an argument
or as an entry stays one until the filter ends, and in its place.  So a tree that is read from
there on holds it, whatever else follows in the text.
-/

namespace FilterChain

open Grammar FilterChain.Parser

namespace Parser

open State

/-! ## Up to a number -/

/-- A number or its sign. -/
def StartsNumber : Token → Prop
  | .word _ | .minus | .plus => True
  | _ => False

/-- A number is taken as in another phase. -/
def Awaits (state : State) (phase : Phase) (reached : State) : Prop :=
  ∀ token place, StartsNumber token →
    reached.push ⟨token, place⟩ = (state.into phase).push ⟨token, place⟩

theorem awaits_into (state : State) (phase : Phase) : Awaits state phase (state.into phase) :=
  fun _ _ _ => rfl

theorem takes_of_pushAll {state reached : State} {tokens : List Token} {goal : State → Prop}
    (htakes : Takes state tokens goal) {spanned : List Spanned}
    (htokens : spanned.map Spanned.token = tokens) (hpush : state.pushAll spanned = .ok reached) :
    goal reached := by
  obtain ⟨after, hafter, hgoal⟩ := htakes spanned htokens
  cases hafter.symm.trans hpush
  exact hgoal

theorem push_openParen_cases {state after : State} {place : Position}
    (hpush : state.push ⟨.openParen, place⟩ = .ok after) :
    ∃ name, state.phase = .function name ∧ after = state.into (.argumentStart name) := by
  obtain ⟨chains, filters, phase⟩ := state
  cases phase with
  | function name =>
      cases hpush
      exact ⟨name, rfl, rfl⟩
  | lowEnd entries start negative lo =>
      have hend := hpush.symm.trans
        (push_lowEnd ⟨chains, filters, .filter⟩ entries start negative lo (by simp) place)
      split at hend <;> cases hend
  | _ => cases hpush

theorem phase_of_push_openBracket {state after : State} {place : Position}
    (hpush : state.push ⟨.openBracket, place⟩ = .ok after) : after.phase = .subsetStart := by
  rcases settled_of_push (.inr rfl) hpush with hfilter | ⟨settled, hsettled⟩
  · obtain ⟨chains, filters, phase⟩ := state
    subst hfilter
    cases hpush
    rfl
  · rw [push_of_settled place hsettled id] at hpush
    cases hpush
    rfl

theorem HasRead.ends_with_name {state : State} {tokens : List Token} {name : String}
    (hread : HasRead state tokens) (hphase : state.phase = .function name) :
    [.word name] <:+ tokens := by
  cases hread with
  | filter => cases hphase
  | filterEnd => cases hphase
  | @pending front before _ _ _ _ _ _ hpending =>
      cases hphase
      cases hpending
      rw [← List.append_assoc]
      exact List.suffix_append _ _

theorem takes_argumentFront (state : State) (name : String) {items : List Token}
    {arguments : List Literal} (hfront : IsFront IsArgument items arguments) :
    Takes (state.into (.argumentStart name)) items
      (Awaits state (.argument name arguments)) := by
  have hstart : Awaits state (.argument name []) (state.into (.argumentStart name)) := by
    intro token place hstarts
    apply push_argumentStart
    rintro rfl
    cases hstarts
  cases hfront with
  | nil => exact takes_nil hstart
  | comma hlist =>
      obtain ⟨first, rest, rfl, hfirst⟩ := hlist.head IsArgument.head
      have hlisted := (takes_arguments state name hlist).congr_head
        (push_argumentStart state name hfirst)
      apply takes_append hlisted
      rintro _ rfl
      exact takes_push (fun _ => rfl) (takes_nil (awaits_into _ _))

theorem takes_entryFront (state : State) {items : List Token} {entries : List SubsetEntry}
    (hfront : IsFront IsEntry items entries) :
    Takes (state.into .subsetStart) items (Awaits state (.entry entries)) := by
  have hstart : Awaits state (.entry []) (state.into .subsetStart) := by
    intro token place hstarts
    apply push_subsetStart
    rintro rfl
    cases hstarts
  cases hfront with
  | nil => exact takes_nil hstart
  | comma hlist =>
      obtain ⟨first, rest, rfl, hfirst⟩ := hlist.head IsEntry.head
      have hlisted := (takes_entries state hlist).congr_head (push_subsetStart state hfirst)
      apply takes_append hlisted
      intro after hafter
      refine takes_push (fun place => ?_) (takes_nil (awaits_into _ _))
      rw [hafter .comma place (.inl rfl)]
      rfl

theorem exists_opened_call {front : List Spanned} {outer items : List Token} {name : String}
    {reached : State} (hlexed : ∀ s ∈ front, Lexed s.token)
    (htokens : front.map Spanned.token = outer ++ .word name :: .openParen :: items)
    (hpush : State.start.pushAll front = .ok reached) :
    ∃ (state : State) (rest : List Spanned), rest.map Spanned.token = items ∧
      (state.into (.argumentStart name)).pushAll rest = .ok reached := by
  obtain ⟨before, opening, rfl, -, hopening⟩ := List.map_eq_append_iff.mp htokens
  obtain ⟨word, behind, rfl, hword, hbehind⟩ := List.map_eq_cons_iff.mp hopening
  obtain ⟨⟨token, place⟩, rest, rfl, hparen, hrest⟩ := List.map_eq_cons_iff.mp hbehind
  obtain rfl : token = .openParen := hparen
  rw [List.append_cons] at hpush hlexed
  obtain ⟨named, hnamed, hpush⟩ := exists_of_pushAll_append hpush
  obtain ⟨opened, hopened, hpush⟩ := exists_of_pushAll_cons hpush
  obtain ⟨other, hphase, rfl⟩ := push_openParen_cases hopened
  -- The name that the parser has kept is the word before the parenthesis.
  have hread := hasRead_start.pushAll (fun s hs => hlexed s (List.mem_append_left _ hs)) hnamed
  obtain ⟨others, hothers⟩ := hread.ends_with_name hphase
  rw [List.nil_append, List.map_append, List.map_singleton, hword] at hothers
  obtain rfl : other = name := by simpa using (List.append_inj' hothers rfl).2
  exact ⟨named, rest, hrest, hpush⟩

theorem exists_opened_subset {front : List Spanned} {outer items : List Token} {reached : State}
    (htokens : front.map Spanned.token = outer ++ .openBracket :: items)
    (hpush : State.start.pushAll front = .ok reached) :
    ∃ (state : State) (rest : List Spanned), rest.map Spanned.token = items ∧
      (state.into .subsetStart).pushAll rest = .ok reached := by
  obtain ⟨before, opening, rfl, -, hopening⟩ := List.map_eq_append_iff.mp htokens
  obtain ⟨⟨token, place⟩, rest, rfl, hbracket, hrest⟩ := List.map_eq_cons_iff.mp hopening
  obtain rfl : token = .openBracket := hbracket
  obtain ⟨ended, -, hpush⟩ := exists_of_pushAll_append hpush
  obtain ⟨⟨chains, filters, phase⟩, hopened, hpush⟩ := exists_of_pushAll_cons hpush
  obtain rfl : phase = .subsetStart := phase_of_push_openBracket hopened
  exact ⟨⟨chains, filters, .filter⟩, rest, hrest, hpush⟩

theorem Awaits.takes {state reached : State} {phase : Phase} (hawaits : Awaits state phase reached)
    {first : Token} {rest : List Token} {goal : State → Prop} (hfirst : StartsNumber first)
    (htakes : Takes (state.into phase) (first :: rest) goal) : Takes reached (first :: rest) goal :=
  htakes.congr_head fun place => hawaits first place hfirst

theorem takes_lastFront (state : State) {items low : List Token} {entries : List SubsetEntry}
    {lo : Int64} (hfront : IsFront IsEntry items entries) (hlow : IsBound low lo) :
    Takes (state.into .subsetStart) (items ++ (low ++ [.minus]))
      (Awaits state (.highBound entries lo)) := by
  apply takes_append (takes_entryFront state hfront)
  intro reached hawaits
  have hbound : Takes (state.into (.entry entries)) (low ++ [.minus])
      (Awaits state (.highBound entries lo)) := by
    apply takes_append (takes_lowBound state entries hlow)
    rintro _ ⟨start, negative, n, rfl, rfl⟩
    exact takes_push (fun _ => rfl) (takes_nil (awaits_into _ _))
  cases hlow with
  | plain => exact hawaits.takes trivial hbound
  | negative => exact hawaits.takes trivial hbound

end Parser

/-! ## One token more -/

/-- The second filter has the arguments or the entries of the first one, and maybe more. -/
inductive Filter.Begins : Filter → Filter → Prop
  | call (name : String) (arguments more : List Literal) :
      Begins (.function name arguments) (.function name (arguments ++ more))
  | subset (entries more : List SubsetEntry) :
      Begins (.subset entries) (.subset (entries ++ more))

theorem Filter.Begins.trans {first second third : Filter} (hfirst : first.Begins second)
    (hsecond : second.Begins third) : first.Begins third := by
  cases hfirst with
  | call name arguments more =>
      cases hsecond with
      | call _ _ rest =>
          rw [List.append_assoc]
          exact .call name arguments (more ++ rest)
  | subset entries more =>
      cases hsecond with
      | subset _ rest =>
          rw [List.append_assoc]
          exact .subset entries (more ++ rest)

namespace Parser

open State

/-- The call or the subset between whose brackets a phase is, as far as it has been taken. -/
def Phase.open? : Phase → Option Filter
  | .argumentStart name => some (.function name [])
  | .argument name arguments => some (.function name arguments)
  | .signedNumber name arguments _ => some (.function name arguments)
  | .argumentEnd name arguments => some (.function name arguments)
  | .subsetStart => some (.subset [])
  | .entry entries => some (.subset entries)
  | .lowBound entries _ => some (.subset entries)
  | .lowEnd entries _ _ _ => some (.subset entries)
  | .highBound entries _ => some (.subset entries)
  | .signedHighBound entries _ => some (.subset entries)
  | .entryEnd entries => some (.subset entries)
  | _ => none

/-- The filter between brackets has grown, or it has ended. -/
inductive Continues (state : State) (filter : Filter) : State → Prop
  | phase {phase : Phase} {longer : Filter} (hbegins : filter.Begins longer)
      (hopen : phase.open? = some longer) : Continues state filter (state.into phase)
  | ended {longer : Filter} (hbegins : filter.Begins longer) :
      Continues state filter (state.add longer)

theorem Continues.into {state after : State} {phase : Phase} {filter : Filter}
    (hcontinues : Continues (state.into phase) filter after) : Continues state filter after := by
  cases hcontinues with
  | phase hbegins hopen => exact .phase hbegins hopen
  | ended hbegins => exact .ended hbegins

theorem Continues.of_begins {state after : State} {filter longer : Filter}
    (hcontinues : Continues state longer after) (hlonger : filter.Begins longer) :
    Continues state filter after := by
  cases hcontinues with
  | phase hbegins hopen => exact .phase (hlonger.trans hbegins) hopen
  | ended hbegins => exact .ended (hlonger.trans hbegins)

theorem continues_call (state : State) {phase : Phase} {name : String}
    {arguments : List Literal} (more : List Literal)
    (hopen : phase.open? = some (.function name (arguments ++ more))) :
    Continues state (.function name arguments) (state.into phase) :=
  .phase (.call name arguments more) hopen

theorem continues_subset (state : State) {phase : Phase} {entries : List SubsetEntry}
    (more : List SubsetEntry) (hopen : phase.open? = some (.subset (entries ++ more))) :
    Continues state (.subset entries) (state.into phase) :=
  .phase (.subset entries more) hopen

theorem continues_takeArgument {state after : State} {name : String} {arguments : List Literal}
    {token : Token} (hlexed : Lexed token)
    (htake : takeArgument state name arguments token = .ok after) :
    Continues state (.function name arguments) after := by
  rcases takeArgument_eq_ok hlexed htake with ⟨negative, -, rfl⟩ | ⟨argument, -, rfl⟩
  · exact continues_call state [] (by simp [Phase.open?])
  · exact continues_call state [argument] rfl

theorem continues_startEntry {state after : State} {entries : List SubsetEntry}
    {token : Token} {place : Position} (hstart : startEntry state entries place token = .ok after) :
    Continues state (.subset entries) after := by
  by_cases hminus : token = .minus
  · subst token
    cases hstart
    exact continues_subset state [] (by simp [Phase.open?])
  · have hbound : (takeBound token).map
        (fun lo => state.into (.lowEnd entries place false lo)) = .ok after := by
      cases token <;> first | exact hstart | exact absurd rfl hminus
    obtain ⟨lo, -, rfl⟩ := map_eq_ok_iff.mp hbound
    exact continues_subset state [] (by simp [Phase.open?])

theorem continues_endEntry {state after : State} {entries : List SubsetEntry} {token : Token}
    (hend : endEntry state entries token = .ok after) :
    Continues state (.subset entries) after := by
  cases token with
  | comma =>
      cases hend
      exact continues_subset state [] (by simp [Phase.open?])
  | closeBracket =>
      cases hend
      have hbegins := Filter.Begins.subset entries []
      rw [List.append_nil] at hbegins
      exact .ended hbegins
  | _ => cases hend

/-- Behind the first number of an entry, a minus makes it the lower bound of a range, and
otherwise it was an index. -/
theorem push_lowEnd_cases {state after : State} {entries : List SubsetEntry} {start : Position}
    {negative : Bool} {lo : Int64} {spanned : Spanned}
    (hpush : (state.into (.lowEnd entries start negative lo)).push spanned = .ok after) :
    after = state.into (.highBound entries (signed negative lo)) ∨
      Continues state (.subset (entries ++ [.index (signed negative lo)])) after := by
  obtain ⟨token, place⟩ := spanned
  by_cases hminus : token = .minus
  · subst token
    cases hpush
    exact .inl rfl
  · rw [push_lowEnd state entries start negative lo hminus place] at hpush
    split at hpush
    next => cases hpush
    next => exact .inr (continues_endEntry (atToken_eq_ok_iff.mp hpush)).into

/-- Behind the minus of a range, its upper bound or the sign of it. -/
theorem push_highBound_cases {state after : State} {entries : List SubsetEntry} {lo : Int64}
    {spanned : Spanned} (hpush : (state.into (.highBound entries lo)).push spanned = .ok after) :
    after = state.into (.signedHighBound entries lo) ∨
      ∃ hi, after = state.into (.entryEnd (entries ++ [.range lo hi])) := by
  obtain ⟨token, place⟩ := spanned
  by_cases hminus : token = .minus
  · subst token
    cases hpush
    exact .inl rfl
  · rw [push_highBound state entries lo hminus place] at hpush
    obtain ⟨hi, -, rfl⟩ := map_eq_ok_iff.mp (atToken_eq_ok_iff.mp hpush)
    exact .inr ⟨hi, rfl⟩

theorem push_signedHighBound_cases {state after : State} {entries : List SubsetEntry} {lo : Int64}
    {spanned : Spanned}
    (hpush : (state.into (.signedHighBound entries lo)).push spanned = .ok after) :
    ∃ hi, after = state.into (.entryEnd (entries ++ [.range lo hi])) := by
  obtain ⟨hi, -, rfl⟩ := map_eq_ok_iff.mp (atToken_eq_ok_iff.mp hpush)
  exact ⟨-hi, rfl⟩

theorem continues_push {state after : State} {phase : Phase} {filter : Filter}
    {spanned : Spanned} (hopen : phase.open? = some filter) (hlexed : Lexed spanned.token)
    (hpush : (state.into phase).push spanned = .ok after) : Continues state filter after := by
  obtain ⟨token, place⟩ := spanned
  cases phase with
  | argumentStart name =>
      cases hopen
      have hclose : token ≠ .closeParen := by
        rintro rfl
        cases hpush
      have htake := (push_argumentStart state name hclose place).symm.trans hpush
      exact (continues_takeArgument hlexed (atToken_eq_ok_iff.mp htake)).into
  | argument name arguments =>
      cases hopen
      exact (continues_takeArgument hlexed (atToken_eq_ok_iff.mp hpush)).into
  | signedNumber name arguments negative =>
      cases hopen
      -- Which sign it was does not matter here, so any that fits will do.
      obtain ⟨sign, hsign⟩ : ∃ sign, IsSign sign negative := by
        cases negative with
        | false => exact ⟨[], .none⟩
        | true => exact ⟨[.minus], .minus⟩
      obtain ⟨argument, -, rfl⟩ :=
        takeSignedNumber_eq_ok hlexed hsign (atToken_eq_ok_iff.mp hpush)
      exact continues_call state [argument] rfl
  | argumentEnd name arguments =>
      cases hopen
      cases token with
      | comma =>
          cases hpush
          exact continues_call state [] (by simp [Phase.open?])
      | closeParen =>
          cases hpush
          have hbegins := Filter.Begins.call name arguments []
          rw [List.append_nil] at hbegins
          exact .ended hbegins
      | _ => cases hpush
  | subsetStart =>
      cases hopen
      have hclose : token ≠ .closeBracket := by
        rintro rfl
        cases hpush
      have hstart := (push_subsetStart state hclose place).symm.trans hpush
      exact (continues_startEntry (atToken_eq_ok_iff.mp hstart)).into
  | entry entries =>
      cases hopen
      exact (continues_startEntry (atToken_eq_ok_iff.mp hpush)).into
  | lowBound entries start =>
      cases hopen
      obtain ⟨lo, -, rfl⟩ := map_eq_ok_iff.mp (atToken_eq_ok_iff.mp hpush)
      exact continues_subset state [] (by simp [Phase.open?])
  | lowEnd entries start negative lo =>
      cases hopen
      rcases push_lowEnd_cases hpush with rfl | hcontinues
      · exact continues_subset state [] (by simp [Phase.open?])
      · exact hcontinues.of_begins (.subset entries _)
  | highBound entries lo =>
      cases hopen
      rcases push_highBound_cases hpush with rfl | ⟨hi, rfl⟩
      · exact continues_subset state [] (by simp [Phase.open?])
      · exact continues_subset state [.range lo hi] rfl
  | signedHighBound entries lo =>
      cases hopen
      obtain ⟨hi, rfl⟩ := push_signedHighBound_cases hpush
      exact continues_subset state [.range lo hi] rfl
  | entryEnd entries =>
      cases hopen
      exact (continues_endEntry (atToken_eq_ok_iff.mp hpush)).into
  | _ => cases hopen

/-! ## The rest of a text -/

/-- Every tree that is read from a state on has a certain filter behind those of another one. -/
def Yields (state : State) (P : Filter → Prop) (after : State) : Prop :=
  ∀ tokens ending tree, (∀ s ∈ tokens, Lexed s.token) →
    parseFrom after ⟨tokens, ending⟩ = .ok tree →
    ∃ filter more others, P filter ∧
      tree = state.chains ++ (state.filters ++ filter :: more) :: others

variable {state : State} {P : Filter → Prop}

theorem yields_add {filter : Filter} (hfilter : P filter) : Yields state P (state.add filter) := by
  intro tokens ending tree _ hparse
  obtain ⟨more, others, -, rfl⟩ := (parseFrom_open_iff rfl _ _ _ tree).mp hparse
  exact ⟨filter, more, others, hfilter, by simp⟩

/-- Where the text cannot end, there is another token. -/
theorem exists_of_parseFrom_inside {after : State} {tokens : List Spanned}
    {ending : Except LexError Position} {tree : Tree} (hend : after.settled? = none)
    (hparse : parseFrom after ⟨tokens, ending⟩ = .ok tree) :
    ∃ first rest next, tokens = first :: rest ∧ after.push first = .ok next ∧
      parseFrom next ⟨rest, ending⟩ = .ok tree := by
  cases tokens with
  | nil =>
      obtain ⟨last, place, hlast, -, hfinish⟩ := parseFrom_eq_ok_iff.mp hparse
      cases hlast
      obtain ⟨settled, hsettled, -⟩ := endsTree_of_finish hfinish
      rw [hend] at hsettled
      cases hsettled
  | cons first rest =>
      obtain ⟨next, hnext, hrest⟩ := exists_of_parseFrom_cons hparse
      exact ⟨first, rest, next, rfl, hnext, hrest⟩

theorem yields_of_push {after : State} (hend : after.settled? = none)
    (hpush : ∀ spanned next, Lexed spanned.token → after.push spanned = .ok next →
      Yields state P next) : Yields state P after := by
  intro tokens ending tree hlexed hparse
  obtain ⟨first, rest, next, rfl, hnext, hrest⟩ := exists_of_parseFrom_inside hend hparse
  obtain ⟨hfirst, hothers⟩ := List.forall_mem_cons.mp hlexed
  exact hpush first next hfirst hnext rest ending tree hothers hrest

theorem settled_of_open {phase : Phase} {filter : Filter} (hopen : phase.open? = some filter) :
    (state.into phase).settled? = none := by
  cases phase <;> first | rfl | cases hopen

/-- The filter between the brackets ends as one that it begins. -/
theorem yields_open {phase : Phase} {filter : Filter} (hopen : phase.open? = some filter)
    (hfilter : ∀ longer, filter.Begins longer → P longer) : Yields state P (state.into phase) := by
  intro tokens
  induction tokens generalizing phase filter with
  | nil =>
      intro ending tree _ hparse
      obtain ⟨first, rest, next, hcons, -⟩ :=
        exists_of_parseFrom_inside (settled_of_open hopen) hparse
      cases hcons
  | cons first rest ih =>
      intro ending tree hlexed hparse
      obtain ⟨next, hnext, hrest⟩ := exists_of_parseFrom_cons hparse
      obtain ⟨hfirst, hothers⟩ := List.forall_mem_cons.mp hlexed
      cases continues_push hopen hfirst hnext with
      | phase hbegins hlonger =>
          have hlongest (longest : Filter) (h : Filter.Begins _ longest) : P longest :=
            hfilter longest (hbegins.trans h)
          exact ih hlonger hlongest ending tree hothers hrest
      | ended hbegins =>
          exact yields_add (hfilter _ hbegins) rest ending tree hothers hrest

theorem Continues.yields {after : State} {filter : Filter}
    (hcontinues : Continues state filter after)
    (hfilter : ∀ longer, filter.Begins longer → P longer) : Yields state P after := by
  cases hcontinues with
  | phase hbegins hopen =>
      exact yields_open hopen fun longer hlonger => hfilter longer (hbegins.trans hlonger)
  | ended hbegins => exact yields_add (hfilter _ hbegins)

end Parser

end FilterChain
