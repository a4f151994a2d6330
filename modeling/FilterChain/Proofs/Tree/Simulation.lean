import FilterChain.Proofs.Tree.Machine
import FilterChain.Proofs.Token.Run

/-!
# The parser runs the machine

Wherever a part of the parser starts, the machine is in a phase of its own, and whatever
is left of the text has the same outcome for both.  Each part carries the outcome on: if
it succeeds, the machine has reached the phase behind the part, and if it fails, its error
is the outcome.  So what the parser makes of a text is what the machine makes of its tokens.
-/

namespace FilterChain

open FilterChain.Parser

/-! ## What is ahead of a view -/

/-- The current token and all that follow. -/
def Lookahead.ahead (view : Lookahead) : Lexing :=
  if view.current.token = .eof then ⟨[], .ok view.current.place⟩
  else ⟨view.current :: view.cursor.lexing.tokens, view.cursor.lexing.ending⟩

theorem Lookahead.current_eq {view : Lookahead} {token : Token}
    (htoken : view.current.token = token) : view.current = ⟨token, view.current.place⟩ := by
  rw [← htoken]

/-- What comes of a state of the machine at a view. -/
def Parser.State.outcome (state : State) (view : Lookahead) : Except SyntaxError Tree :=
  parseFrom state view.ahead

namespace Parser.State

variable {state other : State} {view : Lookahead}

theorem outcome_of_eof (htoken : view.current.token = .eof) :
    state.outcome view = (state.push view.current).map State.chains := by
  rw [outcome, Lookahead.ahead, if_pos htoken, view.current_eq htoken]
  rfl

theorem outcome_of_ok {next : State} (htoken : view.current.token ≠ .eof)
    (hpush : state.push view.current = .ok next) :
    state.outcome view = parseFrom next view.cursor.lexing := by
  rw [outcome, Lookahead.ahead, if_neg htoken]
  exact parseFrom_cons hpush _ _

theorem outcome_of_error {e : SyntaxError} (hpush : state.push view.current = .error e) :
    state.outcome view = .error e := by
  by_cases htoken : view.current.token = .eof
  · rw [outcome_of_eof htoken, hpush]
    rfl
  · rw [outcome, Lookahead.ahead, if_neg htoken]
    exact parseFrom_refused hpush _ _

theorem outcome_refused {outcome : Except SyntaxError Tree} {e : SyntaxError}
    (h : state.outcome view = outcome) (hpush : state.push view.current = .error e) :
    outcome = .error e :=
  h.symm.trans (outcome_of_error hpush)

/-- The outcome depends on a state only through what it does with the current token. -/
theorem outcome_congr (hpush : state.push view.current = other.push view.current) :
    state.outcome view = other.outcome view := by
  cases hother : other.push view.current with
  | error e => rw [outcome_of_error hother, outcome_of_error (hpush.trans hother)]
  | ok next =>
    by_cases htoken : view.current.token = .eof
    · rw [outcome_of_eof htoken, outcome_of_eof htoken, hpush]
    · rw [outcome_of_ok htoken hother, outcome_of_ok htoken (hpush.trans hother)]

end Parser.State

namespace Parse

/-- The part carries an outcome on to the state of the machine behind it. -/
def Runs (part : Parse α) (view : Lookahead) (outcome : Except SyntaxError Tree)
    (next : α → State) : Prop :=
  part.Ends view (fun a after => (next a).outcome after = outcome)
    (fun e _ => outcome = .error e)

variable {start : Cursor} {view : Lookahead} {outcome : Except SyntaxError Tree} {state : State}

/-- The two things that are known of a part, together. -/
theorem Runs.sees {part : Parse α} {next : α → State} {least : Nat}
    (h : part.Runs view outcome next) (hreaches : part.Reaches start view least) :
    part.Ends view
      (fun a after => (after.Sees start ∧ least ≤ after.calls) ∧ (next a).outcome after = outcome)
      (fun e _ => outcome = .error e) :=
  Ends.and hreaches h

theorem runs_advance_lexing (view : Lookahead) (next : State) :
    advance.Runs view (parseFrom next view.cursor.lexing) fun _ => next := by
  rw [Runs, ends_advance]
  split
  next spanned after hnext =>
    by_cases heof : spanned.token = .eof
    · rw [Cursor.lexing_of_eof hnext heof, State.outcome, Lookahead.ahead, if_pos heof]
    · rw [Cursor.lexing_of_token hnext heof, State.outcome, Lookahead.ahead, if_neg heof]
  next e after hnext =>
    rw [Cursor.lexing_of_error hnext]
    rfl

/-- The current token takes the machine on, also where the parser has put another in its place. -/
theorem runs_advance {next : State} (htoken : view.current.token ≠ .eof)
    (hpush : state.push view.current = .ok next) (h : state.outcome view = outcome)
    (held : Token) : advance.Runs (view.hold held) outcome fun _ => next := by
  rw [← h, State.outcome_of_ok htoken hpush]
  exact runs_advance_lexing (view.hold held) next

theorem runs_advance_of_eq {token : Token} {next : State} (htoken : view.current.token = token)
    (hne : token ≠ .eof) (hpush : state.push ⟨token, view.current.place⟩ = .ok next)
    (h : state.outcome view = outcome) : advance.Runs view outcome fun _ => next :=
  runs_advance (htoken ▸ hne) (view.current_eq htoken ▸ hpush) h view.current.token

/-! ## Names, numbers and lists -/

theorem name_runs {expected : Expectation} {next : String → State}
    (hname : ∀ name place, state.push ⟨.word name, place⟩ = .ok (next name))
    (hrefused : (∀ name, view.current.token ≠ .word name) → state.push view.current =
      .error ⟨.unexpected expected view.current.token, view.current.place⟩)
    (h : state.outcome view = outcome) : (name expected).Runs view outcome next := by
  unfold name
  rw [Runs, ends_bind, ends_take]
  split
  next name htoken =>
    have hpush := hname name view.current.place
    rw [← view.current_eq htoken] at hpush
    exact (runs_advance (by simp [htoken]) hpush h .eof).andThen fun _ _ h => h
  next htoken => exact State.outcome_refused h (hrefused htoken)

/-- A loop over items behind marks takes the machine from one mark to the next. -/
theorem more_runs {mark : Token} {item : Parse α} (behind between : List α → State)
    (hmark : mark ≠ .eof)
    (hpush : ∀ items place, (between items).push ⟨mark, place⟩ = .ok (behind items))
    (hreaches : ∀ view, view.Sees start → item.Reaches start view view.calls)
    (hitem : ∀ items view, view.Sees start → (behind items).outcome view = outcome →
      item.Runs view outcome fun next => between (items ++ [next]))
    (hsees : view.Sees start) {items : List α} (h : (between items).outcome view = outcome) :
    (more mark item items).Ends view
      (fun items after => after.Sees start ∧ after.current.token ≠ mark ∧
        (between items).outcome after = outcome)
      (fun e _ => outcome = .error e) := by
  refine more_ends (fun items after => (between items).outcome after = outcome) ?_ hsees h
  intro items view hsees h htoken
  have hadvance := runs_advance_of_eq htoken hmark (hpush items _) h
  refine (hadvance.sees (reaches_advance (hsees.ready (htoken ▸ hmark)))).andThen ?_
  rintro - after ⟨⟨hafter, hle⟩, h⟩
  refine ((hitem items after hafter h).sees (hreaches after hafter)).mono ?_
  exact fun next last ⟨⟨hlast, hless⟩, h⟩ => ⟨⟨hlast, by omega⟩, h⟩

/-- Items up to a closing bracket take the machine from the first of them to the state behind the
bracket. -/
theorem closed_runs {close : Token} {expected : Expectation} {item : Parse α}
    (behind between finished : List α → State) (hclose : close ≠ .eof)
    (hcomma : ∀ items place, (between items).push ⟨.comma, place⟩ = .ok (behind items))
    (hfinished : ∀ items place, (between items).push ⟨close, place⟩ = .ok (finished items))
    (hrefused : ∀ items token place, token ≠ .comma → token ≠ close →
      (between items).push ⟨token, place⟩ = .error ⟨.unexpected expected token, place⟩)
    (hreaches : ∀ view, view.Sees start → item.Reaches start view (view.calls + 1))
    (hitem : ∀ items view, view.Sees start → (behind items).outcome view = outcome →
      item.Runs view outcome fun next => between (items ++ [next]))
    (hsees : view.Sees start) (h : (behind []).outcome view = outcome) :
    (closed close expected item).Runs view outcome finished := by
  unfold closed
  refine ((hitem [] view hsees h).sees (hreaches view hsees)).andThen ?_
  rintro first after ⟨⟨hafter, -⟩, h⟩
  have hreaches' := fun view h => (hreaches view h).mono (Nat.le_succ view.calls)
  refine (more_runs behind between (by simp) hcomma hreaches' hitem hafter h).andThen ?_
  rintro items last ⟨hlast, htoken, h⟩
  rw [ends_bind, ends_token]
  split
  next hend => exact (runs_advance_of_eq hend hclose (hfinished items _) h).andThen fun _ _ h => h
  next hend => exact State.outcome_refused h (hrefused items _ _ htoken hend)

/-! ## Functions -/

/-- The phase behind an argument's sign, or where there is none. -/
def afterSign (name : String) (arguments : List Literal) : Option Bool → Phase
  | none => .argument name arguments
  | some negative => .signedNumber name arguments negative

theorem sign_runs {name : String} {arguments : List Literal}
    (h : (state.into (.argument name arguments)).outcome view = outcome) :
    sign.Ends view
      (fun negative after =>
        (negative = none → after.current.token ≠ .minus ∧ after.current.token ≠ .plus) ∧
        (state.into (afterSign name arguments negative)).outcome after = outcome)
      (fun e _ => outcome = .error e) := by
  unfold sign
  rw [ends_bind, ends_token]
  split
  next htoken =>
    exact (runs_advance_of_eq htoken (by simp) rfl h).andThen fun _ _ h => ⟨nofun, h⟩
  next htoken =>
    exact (runs_advance_of_eq htoken (by simp) rfl h).andThen fun _ _ h => ⟨nofun, h⟩
  next hminus hplus => exact ⟨fun _ => ⟨hminus, hplus⟩, h⟩

theorem push_afterSign_word (state : State) (name : String) (arguments : List Literal)
    (negative : Option Bool) (word : String) (place : Position) :
    (state.into (afterSign name arguments negative)).push ⟨.word word, place⟩ =
      if isWholeNumber word then
        match wholeNumber? word with
        | some n => .ok (state.into (.argumentEnd name
            (arguments ++ [.integer (signed (negative = some true) n)])))
        | none => .error ⟨.integerOutOfRange word, place⟩
      else if negative.isNone then .error ⟨.bareword word, place⟩
      else .error ⟨.unexpected .signedNumber (.word word), place⟩ := by
  cases negative with
  | none =>
    simp only [State.push, State.phase_into, afterSign, takeArgument, State.into_into]
    split
    · cases wholeNumber? word <;> rfl
    · rfl
  | some negative =>
    simp only [State.push, State.phase_into, afterSign, takeSignedNumber, State.into_into]
    split
    · cases wholeNumber? word <;> simp
    · rfl

theorem literal_takes (view : Lookahead) (state : State) (name : String) (arguments : List Literal)
    {negative : Option Bool} {token : Token}
    (hsign : negative = none → token ≠ .minus ∧ token ≠ .plus) :
    (literal negative token).Ends view
      (fun literal after => token ≠ .eof ∧ view = after ∧
        (state.into (afterSign name arguments negative)).push ⟨token, view.current.place⟩ =
          .ok (state.into (.argumentEnd name (arguments ++ [literal]))))
      (fun e _ =>
        (state.into (afterSign name arguments negative)).push ⟨token, view.current.place⟩ =
          .error e) := by
  unfold literal
  split
  next text =>
    cases negative with
    | none => exact ⟨by simp, rfl, rfl⟩
    | some negative => rfl
  next x =>
    cases negative with
    | none => exact ⟨by simp, rfl, rfl⟩
    | some negative => exact ⟨by simp, rfl, by simp [State.push, afterSign, takeSignedNumber]⟩
  next word =>
    rw [push_afterSign_word]
    split
    next hdigits =>
      rw [ends_bind, ends_wholeNumber]
      cases wholeNumber? word with
      | some n => exact ⟨by simp, rfl, rfl⟩
      | none => rfl
    next hdigits => split <;> rfl
  next hstring hfloat hword =>
    cases negative with
    | none =>
      cases token with
      | minus => exact absurd rfl (hsign rfl).1
      | plus => exact absurd rfl (hsign rfl).2
      | string text => exact (hstring text rfl).elim
      | float x => exact (hfloat x rfl).elim
      | word word => exact (hword word rfl).elim
      | _ => exact rfl
    | some negative =>
      cases token with
      | float x => exact (hfloat x rfl).elim
      | word word => exact (hword word rfl).elim
      | _ => exact rfl

theorem argument_runs {name : String} {arguments : List Literal}
    (h : (state.into (.argument name arguments)).outcome view = outcome) :
    argument.Runs view outcome fun literal =>
      state.into (.argumentEnd name (arguments ++ [literal])) := by
  unfold argument
  refine (sign_runs h).andThen ?_
  rintro negative after ⟨hsign, h⟩
  rw [ends_bind, ends_take]
  have htakes := literal_takes (after.hold .eof) state name arguments hsign
  refine (htakes.imp (fun _ _ => id) fun e _ => State.outcome_refused h).andThen ?_
  rintro literal last ⟨htoken, rfl, hpush⟩
  exact (runs_advance htoken hpush h .eof).andThen fun _ _ h => h

theorem arguments_runs {name : String} (hsees : view.Sees start)
    (h : (state.into (.argumentStart name)).outcome view = outcome) :
    arguments.Runs view outcome fun arguments => state.add (.function name arguments) := by
  unfold arguments
  rw [Runs, ends_bind, ends_token]
  split
  next htoken =>
    refine State.outcome_refused h ?_
    rw [view.current_eq htoken]
    rfl
  next htoken =>
    have hstart : (state.into (.argument name [])).push view.current =
        (state.into (.argumentStart name)).push view.current := by
      simp only [State.push, State.phase_into]
      rfl
    refine closed_runs (fun arguments => state.into (.argument name arguments))
      (fun arguments => state.into (.argumentEnd name arguments)) _ (by simp) (fun _ _ => rfl)
      (fun _ _ => rfl) ?_ (fun _ => argument_reaches) (fun arguments view _ h => argument_runs h)
      hsees ((State.outcome_congr hstart).trans h)
    intro arguments token place hcomma hclose
    simp only [State.push, State.phase_into]

theorem function_runs {word : String} (hsees : view.Sees start)
    (htoken : view.current.token = .word word) (h : (state.into .filter).outcome view = outcome) :
    function.Runs view outcome state.add := by
  unfold function
  have hname : (name .functionName).Runs view outcome fun name => state.into (.function name) :=
    name_runs (fun _ _ => rfl) (fun hne => absurd htoken (hne word)) h
  refine (hname.sees (name_reaches hsees .functionName)).andThen ?_
  rintro name after ⟨⟨hafter, -⟩, h⟩
  rw [ends_bind, ends_token]
  split
  next hopen =>
    have hadvance := runs_advance_of_eq hopen (by simp) rfl h
    refine (hadvance.sees (reaches_advance (hafter.ready (by simp [hopen])))).andThen ?_
    rintro - last ⟨⟨hlast, -⟩, h⟩
    exact (arguments_runs hlast h).andThen fun _ _ h => h
  next hopen =>
    refine (State.outcome_congr ?_).trans h
    simp only [State.push, State.phase_into, State.phase_add, State.into_add]

/-! ## Fields -/

theorem property_runs (hsees : view.Sees start) (htoken : view.current.token = .dot)
    (h : (state.into .filter).outcome view = outcome) : property.Runs view outcome state.add := by
  have hstart : (state.into (.property [])).push view.current =
      (state.into .filter).push view.current := by
    rw [view.current_eq htoken]
    rfl
  have hname (path : List String) (view : Lookahead)
      (h : (state.into (.propertyName path)).outcome view = outcome) :
      (name .propertyName).Runs view outcome fun name => state.into (.property (path ++ [name])) :=
    name_runs (fun _ _ => rfl) (fun htoken => by simp only [State.push, State.phase_into]) h
  unfold property
  refine (more_runs (fun path => state.into (.propertyName path))
    (fun path => state.into (.property path)) (by simp) (fun _ _ => rfl)
    (fun view h => (name_reaches h _).mono (Nat.le_succ view.calls))
    (fun path view _ h => hname path view h) hsees
    ((State.outcome_congr hstart).trans h)).andThen ?_
  rintro path last ⟨-, hdot, h⟩
  refine (State.outcome_congr ?_).trans h
  simp only [State.push, State.phase_into, State.phase_add, State.into_add]

/-! ## Subsets -/

theorem digits_takes (view : Lookahead) :
    (digits view.current.token).Ends view
      (fun n after => view.current.token ≠ .eof ∧ view = after ∧
        takeBound view.current.token = .ok n)
      (fun e _ =>
        takeBound view.current.token = .error e.fault ∧ view.current.place = e.place) := by
  obtain ⟨cursor, ⟨token, place⟩, calls⟩ := view
  cases token with
  | word word =>
    simp only [digits, takeBound]
    split
    · rw [ends_wholeNumber]
      cases wholeNumber? word with
      | some n => exact ⟨by simp, rfl, rfl⟩
      | none => exact ⟨rfl, rfl⟩
    · exact ⟨rfl, rfl⟩
  | _ => exact ⟨rfl, rfl⟩

/-- The digits of a bound, behind a minus or without one. -/
theorem unsigned_runs (negative : Bool) {next bounded : Int64 → State}
    (hdigits : state.push view.current =
      atToken view.current.place ((takeBound view.current.token).map next))
    (hbounded : ∀ n spanned, (bounded (signed negative n)).push spanned = (next n).push spanned)
    (h : state.outcome view = outcome) :
    Runs (do let n ← digits (← token); advance; return signed negative n) view outcome bounded := by
  rw [Runs, ends_bind, ends_token]
  have hrefused (e : SyntaxError)
      (he : takeBound view.current.token = .error e.fault ∧ view.current.place = e.place) :
      outcome = .error e := by
    refine State.outcome_refused h (hdigits.trans ?_)
    rw [he.1, he.2]
    rfl
  refine ((digits_takes view).imp (fun _ _ => id) fun e _ => hrefused e).andThen ?_
  rintro n last ⟨htoken, rfl, htakes⟩
  rw [htakes] at hdigits
  refine (runs_advance htoken hdigits h view.current.token).andThen fun _ after h => ?_
  exact (State.outcome_congr (hbounded n _)).trans h

theorem bound_runs {minused : State} {bounded : Int64 → State} (next : Bool → Int64 → State)
    (hminus : state.push ⟨.minus, view.current.place⟩ = .ok minused)
    (hdigits : view.current.token ≠ .minus → state.push view.current =
      atToken view.current.place ((takeBound view.current.token).map (next false)))
    (hminused : ∀ token place, minused.push ⟨token, place⟩ =
      atToken place ((takeBound token).map (next true)))
    (hbounded : ∀ negative n spanned,
      (bounded (signed negative n)).push spanned = (next negative n).push spanned)
    (h : state.outcome view = outcome) : bound.Runs view outcome bounded := by
  unfold bound minus
  rw [Runs, ends_bind, ends_bind, ends_token]
  split
  next htoken =>
    refine (runs_advance_of_eq htoken (by simp) hminus h).andThen fun _ after h => ?_
    exact unsigned_runs true (hminused _ _) (hbounded true) h
  next htoken => exact unsigned_runs false (hdigits htoken) (hbounded false) h

theorem entry_runs {entries : List SubsetEntry}
    (h : (state.into (.entry entries)).outcome view = outcome) :
    entry.Runs view outcome fun entry => state.into (.entryEnd (entries ++ [entry])) := by
  have hlow : bound.Runs view outcome fun lo =>
      state.into (.lowEnd entries view.current.place false lo) := by
    refine bound_runs
      (fun negative lo => state.into (.lowEnd entries view.current.place negative lo))
      rfl (fun htoken => ?_) (fun _ _ => rfl) (fun negative lo spanned => ?_) h
    · simp only [State.push, State.phase_into, startEntry]
      rfl
    · obtain ⟨token, place⟩ := spanned
      cases token <;> rfl
  have hhigh (lo : Int64) (view : Lookahead)
      (h : (state.into (.highBound entries lo)).outcome view = outcome) :
      bound.Runs view outcome fun hi => state.into (.entryEnd (entries ++ [.range lo hi])) := by
    refine bound_runs
      (fun negative hi => state.into (.entryEnd (entries ++ [.range lo (signed negative hi)])))
      rfl (fun htoken => ?_) (fun _ _ => rfl) (fun negative hi spanned => rfl) h
    simp only [State.push, State.phase_into]
    rfl
  unfold entry
  rw [Runs, ends_bind, ends_place]
  refine hlow.andThen fun lo after h => ?_
  unfold minus
  rw [ends_bind, ends_bind, ends_token]
  split
  next htoken =>
    refine (runs_advance_of_eq htoken (by simp) rfl h).andThen fun _ last h => ?_
    exact (hhigh lo last h).andThen fun _ _ h => h
  next htoken =>
    show Ends (if lo < 0 then _ else _) _ _ _
    split
    next hlo =>
      refine State.outcome_refused h ?_
      simp only [State.push, State.phase_into]
      exact if_pos hlo
    next hlo =>
      refine (State.outcome_congr ?_).trans h
      simp only [State.push, State.phase_into]
      exact (if_neg hlo).symm

theorem subset_runs (hsees : view.Sees start) (htoken : view.current.token = .openBracket)
    (h : (state.into .filter).outcome view = outcome) : subset.Runs view outcome state.add := by
  unfold subset
  have hadvance := runs_advance_of_eq htoken (by simp) rfl h
  refine (hadvance.sees (reaches_advance (hsees.ready (by simp [htoken])))).andThen ?_
  rintro - after ⟨⟨hafter, -⟩, h⟩
  rw [ends_bind, ends_token]
  split
  next hclose =>
    refine State.outcome_refused h ?_
    rw [after.current_eq hclose]
    rfl
  next hclose =>
    have hstart : (state.into (.entry [])).push after.current =
        (state.into .subsetStart).push after.current := by
      simp only [State.push, State.phase_into]
      rfl
    have hentries : (closed .closeBracket .entryEnd entry).Runs after outcome fun entries =>
        state.add (.subset entries) :=
      closed_runs (fun entries => state.into (.entry entries))
        (fun entries => state.into (.entryEnd entries)) _ (by simp) (fun _ _ => rfl)
        (fun _ _ => rfl) (fun entries token place hcomma hclose => by
          simp only [State.push, State.phase_into, endEntry]
          rfl)
        (fun _ => entry_reaches) (fun entries view _ h => entry_runs h) hafter
        ((State.outcome_congr hstart).trans h)
    exact hentries.andThen fun _ _ h => h

/-! ## Filters and chains -/

theorem namedFilter_runs (hsees : view.Sees start)
    (hmatching : ∀ find flags, view.current.token ≠ .matching find flags)
    (hsubstitution : ∀ find replace flags, view.current.token ≠ .substitution find replace flags)
    (h : (state.into .filter).outcome view = outcome) :
    namedFilter.Runs view outcome state.add := by
  unfold namedFilter
  rw [Runs, ends_bind, ends_token]
  split
  next word htoken => exact function_runs hsees htoken h
  next htoken =>
    refine (runs_advance_of_eq htoken (by simp) rfl h).andThen fun _ after h => ?_
    refine Ends.andThen (name_runs (fun _ _ => rfl) (fun hword => ?_) h) fun _ _ h => h
    simp only [State.push, State.phase_into]
  next htoken =>
    refine (runs_advance_of_eq htoken (by simp) rfl h).andThen fun _ after h => ?_
    refine Ends.andThen (name_runs (fun _ _ => rfl) (fun hword => ?_) h) fun _ _ h => h
    simp only [State.push, State.phase_into]
  next htoken => exact property_runs hsees htoken h
  next htoken => exact subset_runs hsees htoken h
  next =>
    refine State.outcome_refused h ?_
    simp only [State.push, State.phase_into, startFilter]
    rfl

theorem filter_runs (state : State) (hsees : view.Sees start)
    (h : (state.into .filter).outcome view = outcome) : filter.Runs view outcome state.add := by
  unfold filter
  rw [Runs, ends_bind, ends_take]
  split
  next find flags htoken =>
    have hpush : (state.into .filter).push view.current =
        .ok (state.add (.matching find flags)) := by
      rw [view.current_eq htoken]
      rfl
    exact (runs_advance (by simp [htoken]) hpush h .eof).andThen fun _ _ h => h
  next find replace flags htoken =>
    have hpush : (state.into .filter).push view.current =
        .ok (state.add (.substitution find replace flags)) := by
      rw [view.current_eq htoken]
      rfl
    exact (runs_advance (by simp [htoken]) hpush h .eof).andThen fun _ _ h => h
  next hmatching hsubstitution => exact namedFilter_runs hsees hmatching hsubstitution h

/-- The part carries an outcome on to the end of the open chain. -/
def RunsChain (part : Parse Chain) (view : Lookahead) (outcome : Except SyntaxError Tree)
    (chains : Tree) : Prop :=
  part.Ends view
    (fun filters after => (after.current.token = .comma ∨ after.current.token = .eof) ∧
      State.outcome ⟨chains, filters, .filterEnd⟩ after = outcome)
    (fun e _ => outcome = .error e)

theorem moreFilters_runs {chains : Tree} {filters : Chain} (hsees : view.Sees start)
    (h : State.outcome ⟨chains, filters, .filterEnd⟩ view = outcome) :
    (moreFilters filters).RunsChain view outcome chains := by
  refine ends_loop (fun filters after =>
    State.outcome ⟨chains, filters, .filterEnd⟩ after = outcome) ?_ hsees h
  intro filters view hsees h
  have hfilter (after : Lookahead) (hafter : after.Sees start) (hle : view.calls ≤ after.calls)
      (h : State.outcome ⟨chains, filters, .filter⟩ after = outcome) :
      Ends (do return .inl (filters ++ [← filter])) after
        (AfterRound start view.calls
          (fun filters after => State.outcome ⟨chains, filters, .filterEnd⟩ after = outcome)
          fun filters after => (after.current.token = .comma ∨ after.current.token = .eof) ∧
            State.outcome ⟨chains, filters, .filterEnd⟩ after = outcome)
        fun e _ => outcome = .error e := by
    have hruns : filter.Runs after outcome fun filter =>
        ⟨chains, filters ++ [filter], .filterEnd⟩ := filter_runs ⟨chains, filters, .filter⟩ hafter h
    refine (hruns.sees (filter_reaches hafter)).andThen ?_
    rintro next last ⟨⟨hlast, hless⟩, h⟩
    exact ⟨⟨hlast, by omega⟩, h⟩
  -- Where no pipe is needed, the machine takes the token at the end of a filter as at the start
  -- of one.
  have habut (token : Token) (htoken : view.current.token = token)
      (hpush : ∀ place, State.push ⟨chains, filters, .filter⟩ ⟨token, place⟩ =
        State.push ⟨chains, filters, .filterEnd⟩ ⟨token, place⟩) :=
    hfilter view hsees (Nat.le_refl _) ((State.outcome_congr
      (view.current_eq htoken ▸ hpush view.current.place)).trans h)
  rw [ends_bind, ends_token]
  split
  next htoken =>
    have hadvance := runs_advance_of_eq htoken (by simp) rfl h
    refine (hadvance.sees (reaches_advance (hsees.ready (by simp [htoken])))).andThen ?_
    rintro - after ⟨⟨hafter, hle⟩, h⟩
    exact hfilter after hafter (by omega) h
  next htoken => exact habut _ htoken fun _ => rfl
  next htoken => exact habut _ htoken fun _ => rfl
  next htoken => exact habut _ htoken fun _ => rfl
  next htoken => exact habut _ htoken fun _ => rfl
  next htoken => exact ⟨.inl htoken, h⟩
  next htoken => exact ⟨.inr htoken, h⟩
  next =>
    refine State.outcome_refused h ?_
    simp only [State.push, continueChain]
    rfl

theorem chain_runs {chains : Tree} (hsees : view.Sees start)
    (h : State.outcome ⟨chains, [], .filter⟩ view = outcome) :
    chain.RunsChain view outcome chains := by
  have hfilter : filter.Runs view outcome fun filter => ⟨chains, [filter], .filterEnd⟩ :=
    filter_runs ⟨chains, [], .filter⟩ hsees h
  unfold chain
  refine (hfilter.sees (filter_reaches hsees)).andThen ?_
  rintro first after ⟨⟨hafter, -⟩, h⟩
  exact moreFilters_runs hafter h

/-! ## Expressions -/

/-- Between two chains, the last one is still open for the machine. -/
def BetweenChains (outcome : Except SyntaxError Tree) (chains : Tree) (view : Lookahead) : Prop :=
  ∃ ended last, chains = ended ++ [last] ∧
    (view.current.token = .comma ∨ view.current.token = .eof) ∧
    State.outcome ⟨ended, last, .filterEnd⟩ view = outcome

theorem tree_runs (hsees : view.Sees start) (h : State.start.outcome view = outcome) :
    tree.Ends view (fun tree _ => outcome = .ok tree) (fun e _ => outcome = .error e) := by
  unfold tree
  refine (Ends.and (chain_reaches hsees) (chain_runs hsees h)).andThen ?_
  rintro first after ⟨⟨hafter, -⟩, hend, h⟩
  refine (more_ends (BetweenChains outcome) ?_ hafter ⟨[], first, rfl, hend, h⟩).andThen ?_
  · rintro chains view hsees ⟨ended, last, rfl, -, h⟩ htoken
    have hadvance : advance.Runs view outcome fun _ => ⟨ended ++ [last], [], .filter⟩ :=
      runs_advance_of_eq htoken (by simp) rfl h
    refine (hadvance.sees (reaches_advance (hsees.ready (by simp [htoken])))).andThen ?_
    rintro - after ⟨⟨hafter, hle⟩, h⟩
    refine (Ends.and (chain_reaches hafter) (chain_runs hafter h)).mono ?_
    rintro next final ⟨⟨hfinal, hless⟩, hend, h⟩
    exact ⟨⟨hfinal, by omega⟩, ended ++ [last], next, rfl, hend, h⟩
  · rintro chains view ⟨-, hcomma, ended, last, rfl, hend, h⟩
    have heof := hend.resolve_left hcomma
    rw [ends_bind, ends_token, if_pos heof]
    rw [← h, State.outcome_of_eof heof, view.current_eq heof]
    rfl

end Parse

theorem Cursor.parse_lexing (cursor : Cursor) :
    ∃ after, cursor.parse = some (cursor.lexing.parse, after) := by
  have hfirst := (Parse.runs_advance_lexing (.ofCursor cursor) .start).sees
    (Parse.reaches_advance (Lookahead.ready_ofCursor cursor))
  obtain ⟨result, after, hparse, hresult⟩ := Parse.Ends.exists_run
    (hfirst.andThen fun _ _ ⟨⟨hsees, _⟩, h⟩ => Parse.tree_runs hsees h)
  refine ⟨after, hparse.trans ?_⟩
  cases result <;> rw [← hresult] <;> rfl

/-- The parser makes of a text what the machine makes of its tokens. -/
theorem Tree.parse_eq (text : String) : Tree.parse text = (Lexing.ofText text).parse := by
  obtain ⟨_, hparse, -⟩ := Tree.exists_parse text
  obtain ⟨_, hlexing⟩ := (Cursor.ofText text).parse_lexing
  rw [hlexing] at hparse
  simp only [Option.some.injEq, Prod.mk.injEq] at hparse
  exact hparse.1.symm

end FilterChain
