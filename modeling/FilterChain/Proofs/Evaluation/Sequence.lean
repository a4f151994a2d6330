import FilterChain.Proofs.Evaluation.Trace
import FilterChain.Proofs.Tree.Concatenation
import FilterChain.Regex.Matches

/-!
# One expression behind another

Chains share a context and are evaluated from the left, so an expression behind another one
starts from the context that the other has left, and does not start at all if the other fails.
A comma between two texts therefore means just this: the first text is executed, and then the
second.  The functions of the registry may do to the context whatever they like.
-/

namespace FilterChain

namespace Outcome

variable {α β γ : Type}

theorem andThen_assoc (outcome : Outcome α) (next : α → Context → Outcome β)
    (last : β → Context → Outcome γ) :
    (outcome.andThen next).andThen last =
      outcome.andThen fun a here => (next a here).andThen last := by
  obtain ⟨result, context⟩ := outcome
  cases result with
  | ok a => rfl
  | error e => rfl

theorem map_andThen (outcome : Outcome α) (f : α → β) (next : β → Context → Outcome γ) :
    (outcome.map f).andThen next = outcome.andThen fun a => next (f a) := by
  obtain ⟨result, context⟩ := outcome
  cases result with
  | ok a => rfl
  | error e => rfl

theorem andThen_map (outcome : Outcome α) (next : α → Context → Outcome β) (f : β → γ) :
    (outcome.andThen next).map f = outcome.andThen fun a here => (next a here).map f := by
  obtain ⟨result, context⟩ := outcome
  cases result with
  | ok a => rfl
  | error e => rfl

theorem map_map (outcome : Outcome α) (f : α → β) (g : β → γ) :
    (outcome.map f).map g = outcome.map fun a => g (f a) := by
  obtain ⟨result, context⟩ := outcome
  cases result with
  | ok a => rfl
  | error e => rfl

theorem map_nil_append (outcome : Outcome (List α)) : outcome.map ([] ++ ·) = outcome := by
  obtain ⟨result, context⟩ := outcome
  cases result with
  | ok values => rfl
  | error e => rfl

end Outcome

section

variable [Regex.Engine]

theorem Tree.eval_append (registry : Registry) (context : Context) (front back : Tree) :
    Tree.eval registry context (front ++ back) =
      (Tree.eval registry context front).andThen fun values here =>
        (Tree.eval registry here back).map (values ++ ·) := by
  induction front generalizing context with
  | nil => exact (Outcome.map_nil_append (Tree.eval registry context back)).symm
  | cons chain chains ih =>
      have hrest : ∀ (value : Value) (here : Context),
          (Tree.eval registry here (chains ++ back)).map (value :: ·) =
            ((Tree.eval registry here chains).map (value :: ·)).andThen fun values there =>
              (Tree.eval registry there back).map (values ++ ·) := by
        intro value here
        rw [ih, Outcome.andThen_map, Outcome.map_andThen]
        simp only [Outcome.map_map, List.cons_append]
      calc
        Tree.eval registry context (chain :: chains ++ back) =
            (Chain.eval registry chain context).andThen fun value here =>
              (Tree.eval registry here (chains ++ back)).map (value :: ·) := rfl
        _ = (Chain.eval registry chain context).andThen fun value here =>
              ((Tree.eval registry here chains).map (value :: ·)).andThen fun values there =>
                (Tree.eval registry there back).map (values ++ ·) := by simp only [hrest]
        _ = (Tree.eval registry context (chain :: chains)).andThen fun values there =>
              (Tree.eval registry there back).map (values ++ ·) :=
            (Outcome.andThen_assoc _ _ _).symm

variable {text : String}

theorem execute_of_parse {tree : Tree} (hparse : Tree.parse text = .ok tree)
    (registry : Registry) (context : Context) :
    execute registry text context = tree.eval registry context := by
  rw [execute, hparse]

theorem execute_of_parse_error {e : SyntaxError} (hparse : Tree.parse text = .error e)
    (registry : Registry) (context : Context) :
    execute registry text context = ⟨.error (.ofSyntax e), context⟩ := by
  rw [execute, hparse]

end

theorem Tree.parse_comma {first second : String} {tree other : Tree}
    (hfirst : Tree.parse first = .ok tree) (hsecond : Tree.parse second = .ok other) :
    Tree.parse (first ++ "," ++ second) = .ok (tree ++ other) := by
  obtain ⟨chains, chain, -, hcomma, -⟩ := parse_behind hfirst second
  have hlength := (Tree.isTree_of_parse hsecond).length_eq
  rw [hcomma, hsecond]
  cases other with
  | nil => cases hlength
  | cons next back => rfl

/-- Executing two expressions with a comma between them is executing the first and then, on the
context behind it, the second.  A text that is no expression leaves the context alone. -/
theorem execute_sequence [Regex.Engine] (registry : Registry) (context : Context) :
    (∀ first second tree other, Tree.parse first = .ok tree → Tree.parse second = .ok other →
      (∀ values here, execute registry first context = ⟨.ok values, here⟩ →
        execute registry (first ++ "," ++ second) context =
          (execute registry second here).map (values ++ ·)) ∧
      ∀ e here, execute registry first context = ⟨.error e, here⟩ →
        execute registry (first ++ "," ++ second) context = ⟨.error e, here⟩) ∧
    ∀ text e, Tree.parse text = .error e →
      execute registry text context = ⟨.error (.parse (.source e.fault) e.place), context⟩ := by
  constructor
  · intro first second tree other hfirst hsecond
    have hboth := execute_of_parse (Tree.parse_comma hfirst hsecond) registry context
    rw [Tree.eval_append, ← execute_of_parse hfirst] at hboth
    constructor
    · intro values here hvalues
      rw [hboth, hvalues, Outcome.andThen_ok, execute_of_parse hsecond]
    · intro e here herror
      rw [hboth, herror, Outcome.andThen_error]
  · intro text e hparse
    exact execute_of_parse_error hparse registry context

/-- The function of this registry counts its calls in the context.  The first text leaves a
count behind for the second, and where the first one fails, the count stays as it was then. -/
theorem execute_sequence_of_counted_calls :
    let count : Action := fun context _ arguments =>
      let calls := arguments ++ match context.find? "calls" with
        | some (.array calls) => calls
        | _ => []
      ⟨.ok (.array calls), context.insert "calls" (.array calls)⟩
    let registry : Registry := (Dictionary.empty.insert "count" (.async count))
    (execute registry ("count(1)" ++ "," ++ "count(2)[0]") Dictionary.empty).result =
      .ok [.array [.integer 1], .array [.integer 2]] ∧
    (execute registry ("count(1), lost" ++ "," ++ "count(2)") Dictionary.empty).context.entries =
      [("calls", .array [.integer 1])] ∧
    execute registry "count(1)," Dictionary.empty =
      ⟨.error (.parse (.source (.unexpected .filter .eof)) ⟨1, 10⟩), Dictionary.empty⟩ := by
  intro count registry
  have hone : Tree.parse "count(1)" = .ok [[.function "count" [.integer 1]]] :=
    (Tree.parse_eq _).trans (by cbv)
  have hlost : Tree.parse "count(1), lost" =
      .ok [[.function "count" [.integer 1]], [.function "lost" []]] :=
    (Tree.parse_eq _).trans (by cbv)
  have htwo : Tree.parse "count(2)" = .ok [[.function "count" [.integer 2]]] :=
    (Tree.parse_eq _).trans (by cbv)
  have hpick : Tree.parse "count(2)[0]" =
      .ok [[.function "count" [.integer 2], .subset [.index 0]]] := (Tree.parse_eq _).trans (by cbv)
  have hopen : Tree.parse "count(1)," = .error ⟨.unexpected .filter .eof, ⟨1, 10⟩⟩ :=
    (Tree.parse_eq _).trans (by cbv)
  obtain ⟨hsequence, hfault⟩ := execute_sequence registry Dictionary.empty
  have hfirst : execute registry "count(1)" Dictionary.empty =
      ⟨.ok [.array [.integer 1]], Dictionary.empty.insert "calls" (.array [.integer 1])⟩ := by
    rw [execute_of_parse hone]
    rfl
  have hfails : execute registry "count(1), lost" Dictionary.empty =
      ⟨.error (.node (.unknownFunction "lost")),
        Dictionary.empty.insert "calls" (.array [.integer 1])⟩ := by
    rw [execute_of_parse hlost]
    rfl
  have hboth := (hsequence _ _ _ _ hone hpick).1 _ _ hfirst
  have hnone := (hsequence _ _ _ _ hlost htwo).2 _ _ hfails
  refine ⟨?_, ?_, hfault _ _ hopen⟩
  · rw [hboth, execute_of_parse hpick]
    rfl
  · rw [hnone]
    rfl

end FilterChain
