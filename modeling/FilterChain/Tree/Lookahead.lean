import FilterChain.Tree

/-!
# Parsing with one token of lookahead

A part of the parser sees one token.  It may take it, put one back in its place, and ask
the lexer for the next one.  What such a part makes of a view is said by `Parse.Ends`, with
one lemma for each of the actions that the parser is built from.
-/

namespace FilterChain

/-- The lexer behind the current token, that token, and how often the lexer has been asked. -/
structure Lookahead where
  cursor : Cursor
  current : Spanned
  calls : Nat

/-- There is no token before the first one is asked for. -/
def Lookahead.ofCursor (cursor : Cursor) : Lookahead := ⟨cursor, ⟨.eof, .start⟩, 0⟩

instance : Nonempty Lookahead := ⟨.ofCursor (.ofText "")⟩

/-- The view with another token in the place of the current one. -/
def Lookahead.hold (view : Lookahead) (token : Token) : Lookahead :=
  { view with current := ⟨token, view.current.place⟩ }

/-- A part of the parser.  `none` stands for a part that does not end. -/
abbrev Parse := ExceptT SyntaxError (StateT Lookahead Option)

namespace Parse

def token : Parse Token := return (← get).current.token

def place : Parse Position := return (← get).current.place

/-- Asks the lexer for the next token. -/
def advance : Parse Unit := do
  let view ← get
  match view.cursor.next with
  | (.ok spanned, after) => set (Lookahead.mk after spanned (view.calls + 1))
  | (.error e, after) =>
    set (Lookahead.mk after view.current (view.calls + 1))
    throw ⟨.lexical e.fault, e.place⟩

def putBack (token : Token) : Parse Unit :=
  modify (·.hold token)

/-- Takes the current token, and leaves the end of the text behind until the next one is asked
for. -/
def take : Parse Token := do
  let token ← token
  putBack .eof
  return token

def fail (fault : SyntaxFault) : Parse α := do
  throw ⟨fault, ← place⟩

def unexpected (expected : Expectation) : Parse α := do
  fail (.unexpected expected (← token))

/-- The part ends, and its result and the view behind it are as said. -/
def Ends (part : Parse α) (view : Lookahead) (done : α → Lookahead → Prop)
    (failed : SyntaxError → Lookahead → Prop) : Prop :=
  match part.run.run view with
  | some (.ok a, after) => done a after
  | some (.error e, after) => failed e after
  | none => False

section

variable {view : Lookahead} {done : α → Lookahead → Prop} {failed : SyntaxError → Lookahead → Prop}

theorem ends_token {done : Token → Lookahead → Prop} :
    token.Ends view done failed ↔ done view.current.token view := .rfl

theorem ends_place {done : Position → Lookahead → Prop} :
    place.Ends view done failed ↔ done view.current.place view := .rfl

theorem ends_take {done : Token → Lookahead → Prop} :
    take.Ends view done failed ↔ done view.current.token (view.hold .eof) := .rfl

theorem ends_advance {done : Unit → Lookahead → Prop} :
    advance.Ends view done failed ↔
      match view.cursor.next with
      | (.ok spanned, after) => done () ⟨after, spanned, view.calls + 1⟩
      | (.error e, after) =>
        failed ⟨.lexical e.fault, e.place⟩ ⟨after, view.current, view.calls + 1⟩ := by
  have hrun : advance.run.run view =
      match view.cursor.next with
      | (.ok spanned, after) => some (.ok (), ⟨after, spanned, view.calls + 1⟩)
      | (.error e, after) =>
        some (.error ⟨.lexical e.fault, e.place⟩, ⟨after, view.current, view.calls + 1⟩) := by
    show (match view.cursor.next with
      | (.ok spanned, after) => set (Lookahead.mk after spanned (view.calls + 1))
      | (.error e, after) => do
        set (Lookahead.mk after view.current (view.calls + 1))
        throw ⟨.lexical e.fault, e.place⟩ : Parse Unit).run.run view = _
    split <;> rfl
  unfold Ends
  rw [hrun]
  obtain ⟨answer, after⟩ := view.cursor.next
  cases answer <;> rfl

theorem ends_bind {part : Parse α} {next : α → Parse β} {done : β → Lookahead → Prop} :
    (part >>= next).Ends view done failed ↔
      part.Ends view (fun a after => (next a).Ends after done failed) failed := by
  have hrun : (part >>= next).run.run view =
      (part.run.run view).bind fun
        | (.ok a, after) => (next a).run.run after
        | (.error e, after) => some (.error e, after) := by
    show (part.run.run view).bind _ = _
    congr 1
    funext (result, after)
    cases result <;> rfl
  unfold Ends
  rw [hrun]
  obtain _ | ⟨_ | a, after⟩ := part.run.run view <;> rfl

variable {part : Parse α}

theorem Ends.imp {done' : α → Lookahead → Prop} {failed' : SyntaxError → Lookahead → Prop}
    (h : part.Ends view done failed) (hdone : ∀ a after, done a after → done' a after)
    (hfailed : ∀ e after, failed e after → failed' e after) : part.Ends view done' failed' := by
  revert h
  unfold Ends
  obtain _ | ⟨_ | a, after⟩ := part.run.run view
  · exact id
  · exact hfailed _ after
  · exact hdone a after

theorem Ends.mono {done' : α → Lookahead → Prop} (h : part.Ends view done failed)
    (hdone : ∀ a after, done a after → done' a after) : part.Ends view done' failed :=
  h.imp hdone fun _ _ => id

theorem Ends.andThen {next : α → Parse β} {done' : β → Lookahead → Prop}
    (h : part.Ends view done failed)
    (hnext : ∀ a after, done a after → (next a).Ends after done' failed) :
    (part >>= next).Ends view done' failed :=
  ends_bind.mpr (h.mono hnext)

/-- One round of a loop.  Nothing else is used of `repeatM`. -/
theorem ends_repeatM [Nonempty β] {round : α → Parse (α ⊕ β)} {a : α}
    {done : β → Lookahead → Prop} :
    (repeatM round a).Ends view done failed ↔
      (round a).Ends view
        (fun
          | .inl a, after => (repeatM round a).Ends after done failed
          | .inr b, after => done b after) failed := by
  rw [repeatM_eq_of_monadTail, ends_bind]
  constructor
  all_goals
    refine fun h => h.mono fun next after hnext => ?_
    cases next <;> exact hnext

theorem Ends.and {done' : α → Lookahead → Prop} {failed' : SyntaxError → Lookahead → Prop}
    (h : part.Ends view done failed) (h' : part.Ends view done' failed') :
    part.Ends view (fun a after => done a after ∧ done' a after) failed' := by
  revert h h'
  unfold Ends
  obtain _ | ⟨_ | a, after⟩ := part.run.run view
  · exact fun h _ => h
  · exact fun _ h' => h'
  · exact And.intro

theorem Ends.exists_run (h : part.Ends view done failed) :
    ∃ result after, part.run.run view = some (result, after) ∧
      match result with
      | .ok a => done a after
      | .error e => failed e after := by
  revert h
  unfold Ends
  obtain _ | ⟨_ | a, after⟩ := part.run.run view
  · exact False.elim
  · exact fun h => ⟨_, after, rfl, h⟩
  · exact fun h => ⟨_, after, rfl, h⟩

end

end Parse

/-! ## What has been asked of the lexer -/

namespace Cursor

/-- The cursor behind so many calls of `next`, whatever these return. -/
def advance (cursor : Cursor) : Nat → Cursor
  | 0 => cursor
  | calls + 1 => (cursor.advance calls).next.2

/-- What the call behind so many others returns. -/
def answer (cursor : Cursor) (calls : Nat) : Except LexError Spanned :=
  (cursor.advance calls).next.1

/-- The call behind so many others returns a token that is not the end. -/
def GoesOn (cursor : Cursor) (calls : Nat) : Prop :=
  ∃ spanned, cursor.answer calls = .ok spanned ∧ spanned.token ≠ .eof

theorem advance_rest_length_add_le {cursor : Cursor} {calls : Nat}
    (h : ∀ k < calls, cursor.GoesOn k) :
    (cursor.advance calls).rest.length + calls ≤ cursor.rest.length := by
  induction calls with
  | zero => exact Nat.le_refl _
  | succ calls ih =>
    obtain ⟨spanned, hanswer, htoken⟩ := h calls (Nat.lt_succ_self calls)
    have hlt := next_rest_length_lt (Prod.ext hanswer rfl) htoken
    have hle := ih fun k hk => h k (Nat.lt_succ_of_lt hk)
    exact Nat.le_trans (Nat.add_lt_add_right hlt calls) hle

end Cursor

namespace Lookahead

/-- The parser started at the cursor `start`, and every call but the last one returned a token
that is not the end. -/
structure Asked (start : Cursor) (view : Lookahead) : Prop where
  cursor : view.cursor = start.advance view.calls
  goesOn : ∀ k, k + 1 < view.calls → start.GoesOn k

/-- Every call returned a token that is not the end, so the next one may be asked for. -/
structure Ready (start : Cursor) (view : Lookahead) : Prop where
  cursor : view.cursor = start.advance view.calls
  goesOn : ∀ k < view.calls, start.GoesOn k

/-- The current token is what the last call returned. -/
structure Sees (start : Cursor) (view : Lookahead) : Prop extends view.Asked start where
  current : ∃ k, view.calls = k + 1 ∧ start.answer k = .ok view.current

variable {start : Cursor} {view : Lookahead}

theorem ready_ofCursor (start : Cursor) : (ofCursor start).Ready start :=
  ⟨rfl, by simp [ofCursor]⟩

theorem Asked.calls_le (h : view.Asked start) : view.calls ≤ start.rest.length + 1 := by
  have hle := Cursor.advance_rest_length_add_le fun k (hk : k < view.calls - 1) =>
    h.goesOn k (by omega)
  omega

theorem Asked.hold (h : view.Asked start) (token : Token) : (view.hold token).Asked start :=
  ⟨h.cursor, h.goesOn⟩

theorem Ready.hold (h : view.Ready start) (token : Token) : (view.hold token).Ready start :=
  ⟨h.cursor, h.goesOn⟩

theorem Sees.ready (h : view.Sees start) (htoken : view.current.token ≠ .eof) :
    view.Ready start where
  cursor := h.cursor
  goesOn k hk := by
    obtain ⟨last, hcalls, hanswer⟩ := h.current
    obtain hlt | rfl : k + 1 < view.calls ∨ k = last := by omega
    · exact h.goesOn k hlt
    · exact ⟨view.current, hanswer, htoken⟩

/-- A loop that asks for a token in every round ends: there are no more calls than characters,
and one. -/
theorem Sees.induction {motive : (view : Lookahead) → view.Sees start → Prop}
    (step : ∀ view h, (∀ after hafter, view.calls < after.calls → motive after hafter) →
      motive view h)
    (view : Lookahead) (h : view.Sees start) : motive view h :=
  step view h fun after hafter _ => Sees.induction step after hafter
termination_by start.rest.length + 1 - view.calls
decreasing_by
  have hle := hafter.toAsked.calls_le
  omega

end Lookahead

namespace Parse

/-- What a round leaves behind: it has asked for a token and goes on with what holds, or the
loop is done. -/
def AfterRound (start : Cursor) (calls : Nat) (holds : α → Lookahead → Prop)
    (done : β → Lookahead → Prop) : α ⊕ β → Lookahead → Prop
  | .inl a, after => (after.Sees start ∧ calls < after.calls) ∧ holds a after
  | .inr b, after => done b after

theorem ends_loop [Nonempty β] {start : Cursor} {view : Lookahead} {round : α → Parse (α ⊕ β)}
    {a : α} (holds : α → Lookahead → Prop) {done : β → Lookahead → Prop}
    {failed : SyntaxError → Lookahead → Prop}
    (hround : ∀ a view, view.Sees start → holds a view →
      (round a).Ends view (AfterRound start view.calls holds done) failed)
    (h : view.Sees start) (hholds : holds a view) : (repeatM round a).Ends view done failed := by
  induction view, h using Lookahead.Sees.induction generalizing a with
  | step view h ih =>
    refine ends_repeatM.mpr ((hround a view h hholds).mono fun next after hnext => ?_)
    cases next with
    | inl a => exact ih after hnext.1.1 hnext.1.2 hnext.2
    | inr b => exact hnext

/-- The part ends, on success with a current token and at least so many calls in all. -/
def Reaches (part : Parse α) (start : Cursor) (view : Lookahead) (least : Nat) : Prop :=
  part.Ends view (fun _ after => after.Sees start ∧ least ≤ after.calls)
    (fun _ after => after.Asked start)

variable {part : Parse α} {start : Cursor} {view : Lookahead} {least : Nat}

theorem Reaches.mono {more : Nat} (h : part.Reaches start view more) (hle : least ≤ more) :
    part.Reaches start view least :=
  Ends.mono h fun _ _ ⟨hsees, hmore⟩ => ⟨hsees, Nat.le_trans hle hmore⟩

theorem Reaches.andThen {next : α → Parse β} {more : Nat} (h : part.Reaches start view least)
    (hnext : ∀ a after, after.Sees start → least ≤ after.calls →
      (next a).Reaches start after more) :
    (part >>= next).Reaches start view more :=
  Ends.andThen h fun a after ⟨hsees, hleast⟩ => hnext a after hsees hleast

theorem reaches_pure (h : view.Sees start) (hle : least ≤ view.calls) (a : α) :
    (pure a : Parse α).Reaches start view least :=
  ⟨h, hle⟩

theorem reaches_advance (h : view.Ready start) : advance.Reaches start view (view.calls + 1) := by
  have hcursor : view.cursor.next.2 = start.advance (view.calls + 1) := by
    rw [h.cursor]
    rfl
  have hasked (current : Spanned) :
      Lookahead.Asked start ⟨view.cursor.next.2, current, view.calls + 1⟩ :=
    ⟨hcursor, fun k hk => h.goesOn k (Nat.lt_of_succ_lt_succ hk)⟩
  have hanswer : start.answer view.calls = view.cursor.next.1 := by
    rw [h.cursor]
    rfl
  rw [Reaches, ends_advance]
  revert hasked hanswer
  obtain ⟨answer | answer, after⟩ := view.cursor.next
  · exact fun hasked _ => hasked _
  · exact fun hasked hanswer => ⟨⟨hasked _, view.calls, rfl, hanswer⟩, Nat.le_refl _⟩

/-- The next token is asked for behind one that is used up. -/
theorem reaches_advance_pure (h : view.Ready start) (a : α) :
    (do advance; return a : Parse α).Reaches start view (view.calls + 1) :=
  (reaches_advance h).andThen fun _ _ hsees hle => reaches_pure hsees hle a

end Parse

end FilterChain
