import FilterChain.Evaluation
import Mathlib.Tactic

/-!
# Traces of evaluations

A trace lists the filters that an evaluation reaches, each with the value that flows into it
and the context that it finds.  It goes through all filters in source order, or ends with
the first one that fails.

`Tree.Reaches` says the same of one filter without a trace: the chains before its own and
the filters before it in its chain give values.
-/

namespace FilterChain

structure Visit where
  filter : Filter
  /-- The number of filters before this one in its chain. -/
  position : Nat
  /-- The value that flows into the filter. -/
  previous : Value
  /-- The context before the filter acts. -/
  context : Context

namespace Visit

def node (visit : Visit) : Filter × Nat :=
  (visit.filter, visit.position)

variable [Regex.Engine]

def outcome (registry : Registry) (visit : Visit) : Outcome Value :=
  visit.filter.eval registry visit.previous visit.context

def succeeds (registry : Registry) (visit : Visit) : Bool :=
  (visit.outcome registry).result.isOk

end Visit

namespace Outcome

variable {α β : Type} {outcome : Outcome α}

theorem andThen_ok (a : α) (context : Context) (next : α → Context → Outcome β) :
    andThen ⟨.ok a, context⟩ next = next a context := rfl

theorem andThen_error (e : FilterError) (context : Context) (next : α → Context → Outcome β) :
    andThen ⟨.error e, context⟩ next = ⟨.error e, context⟩ := rfl

theorem andThen_eq_ok {next : α → Context → Outcome β} {b : β} {context : Context} :
    outcome.andThen next = ⟨.ok b, context⟩ ↔
      ∃ a here, outcome = ⟨.ok a, here⟩ ∧ next a here = ⟨.ok b, context⟩ := by
  obtain ⟨result, here⟩ := outcome
  cases result with
  | ok a => simp [andThen_ok]
  | error e => simp [andThen_error]

theorem map_eq_ok {f : α → β} {b : β} {context : Context} :
    outcome.map f = ⟨.ok b, context⟩ ↔ ∃ a, outcome = ⟨.ok a, context⟩ ∧ f a = b := by
  obtain ⟨result, here⟩ := outcome
  cases result with
  | ok a => simp [Outcome.map, Except.map, and_comm]
  | error e => simp [Outcome.map, Except.map]

/-- The visits that follow a value; an error has none. -/
def onward (outcome : Outcome α) (next : α → Context → List Visit) : List Visit :=
  match outcome.result with
  | .ok a => next a outcome.context
  | .error _ => []

theorem mem_onward {next : α → Context → List Visit} {visit : Visit} :
    visit ∈ outcome.onward next ↔
      ∃ a here, outcome = ⟨.ok a, here⟩ ∧ visit ∈ next a here := by
  obtain ⟨result, here⟩ := outcome
  cases result with
  | ok a => simp [onward]
  | error e => simp [onward]

end Outcome

/-- The filters of a tree in source order, each with its position in its chain. -/
def Tree.nodes (tree : Tree) : List (Filter × Nat) :=
  tree.flatMap fun chain => chain.zipIdx

variable [Regex.Engine]

/-- The visits of a chain's filters from a position on. -/
def Chain.visitsFrom (registry : Registry) (position : Nat) (previous : Value)
    (context : Context) : Chain → List Visit
  | [] => []
  | filter :: filters =>
    ⟨filter, position, previous, context⟩ ::
      (filter.eval registry previous context).onward fun value context =>
        visitsFrom registry (position + 1) value context filters

/-- The visits of an evaluation in their order. -/
def Tree.visits (registry : Registry) (context : Context) : Tree → List Visit
  | [] => []
  | chain :: chains =>
    Chain.visitsFrom registry 0 .null context chain ++
      (Chain.eval registry chain context).onward fun _ context =>
        visits registry context chains

/-! ## How a trace ends -/

/-- A trace through filters that comes to some outcome. -/
inductive Traces (registry : Registry) {α : Type} (nodes : List (Filter × Nat)) :
    List Visit → Outcome α → Prop
  /-- Every filter was visited and gave a value. -/
  | complete {visits : List Visit} {a : α} {context : Context}
      (hnodes : visits.map Visit.node = nodes)
      (hsucceed : ∀ visit ∈ visits, visit.succeeds registry) :
      Traces registry nodes visits ⟨.ok a, context⟩
  /-- The last filter visited was the first one to fail. -/
  | aborted {before : List Visit} {last : Visit} {e : FilterError} {context : Context}
      (hnodes : (before ++ [last]).map Visit.node <+: nodes)
      (hsucceed : ∀ visit ∈ before, visit.succeeds registry)
      (hfail : last.outcome registry = ⟨.error e, context⟩) :
      Traces registry nodes (before ++ [last]) ⟨.error e, context⟩

namespace Traces

variable {registry : Registry} {α β : Type} {nodes more : List (Filter × Nat)}
  {visits : List Visit} {outcome : Outcome α}

theorem map (htrace : Traces registry nodes visits outcome) (f : α → β) :
    Traces registry nodes visits (outcome.map f) := by
  cases htrace with
  | complete hnodes hsucceed => exact complete hnodes hsucceed
  | aborted hnodes hsucceed hfail => exact aborted hnodes hsucceed hfail

theorem andThen (htrace : Traces registry nodes visits outcome)
    {next : α → Context → Outcome β} {nextVisits : α → Context → List Visit}
    (hnext : ∀ a context, Traces registry more (nextVisits a context) (next a context)) :
    Traces registry (nodes ++ more) (visits ++ outcome.onward nextVisits)
      (outcome.andThen next) := by
  cases htrace with
  | @complete _ a context hnodes hsucceed =>
      -- The second part is visited as well, and the whole ends as it does.
      rw [Outcome.andThen_ok]
      change Traces registry _ (visits ++ nextVisits a context) _
      generalize nextVisits a context = rest, next a context = final, hnext a context = htail
      cases htail with
      | complete hrest hsucceedRest =>
          apply complete
          · rw [List.map_append, hnodes, hrest]
          · exact List.forall_mem_append.mpr ⟨hsucceed, hsucceedRest⟩
      | @aborted before last e _ hrest hsucceedRest hfail =>
          rw [← List.append_assoc]
          apply aborted _ (List.forall_mem_append.mpr ⟨hsucceed, hsucceedRest⟩) hfail
          rw [List.append_assoc, List.map_append, hnodes]
          exact (List.prefix_append_right_inj nodes).mpr hrest
  | @aborted before last e context hnodes hsucceed hfail =>
      -- The second part is not visited at all.
      change Traces registry _ (before ++ [last] ++ []) ⟨.error e, context⟩
      rw [List.append_nil]
      exact aborted (hnodes.trans (List.prefix_append nodes more)) hsucceed hfail

end Traces

theorem Visit.traces (registry : Registry) (visit : Visit) :
    Traces registry [visit.node] [visit] (visit.outcome registry) := by
  generalize houtcome : visit.outcome registry = outcome
  obtain ⟨result, context⟩ := outcome
  cases result with
  | ok value =>
      have hsucceeds : visit.succeeds registry := by
        rw [succeeds, houtcome]
        rfl
      have hnodes : [visit].map node = [visit.node] := rfl
      exact Traces.complete hnodes (List.forall_mem_singleton.mpr hsucceeds)
  | error e =>
      have hnone : ∀ earlier ∈ ([] : List Visit), earlier.succeeds registry := by simp
      exact Traces.aborted (List.prefix_refl _) hnone houtcome

theorem Chain.traces_visitsFrom (registry : Registry) (chain : Chain) (position : Nat)
    (previous : Value) (context : Context) :
    Traces registry (chain.zipIdx position)
      (Chain.visitsFrom registry position previous context chain)
      (Chain.evalFrom registry previous context chain) := by
  induction chain generalizing position previous context with
  | nil => exact Traces.complete rfl (by simp [Chain.visitsFrom])
  | cons filter filters ih =>
      have hhead := Visit.traces registry ⟨filter, position, previous, context⟩
      exact hhead.andThen fun value here => ih (position + 1) value here

/-- An evaluation visits the filters in source order, up to the end or to the first failure,
which is the failure of the evaluation. -/
theorem Tree.traces_visits (registry : Registry) (context : Context) (tree : Tree) :
    Traces registry tree.nodes (tree.visits registry context) (tree.eval registry context) := by
  induction tree generalizing context with
  | nil => exact Traces.complete rfl (by simp [Tree.visits])
  | cons chain chains ih =>
      have hchain := Chain.traces_visitsFrom registry chain 0 .null context
      exact hchain.andThen fun value here => (ih here).map (value :: ·)

/-! ## Which filters are reached -/

theorem Chain.mem_visitsFrom {registry : Registry} {chain : Chain} {position : Nat}
    {previous : Value} {context : Context} {visit : Visit} :
    visit ∈ Chain.visitsFrom registry position previous context chain ↔
      ∃ before after, chain = before ++ visit.filter :: after ∧
        Chain.evalFrom registry previous context before = ⟨.ok visit.previous, visit.context⟩ ∧
        visit.position = position + before.length := by
  induction chain generalizing position previous context with
  | nil => simp [Chain.visitsFrom]
  | cons filter filters ih =>
      simp only [Chain.visitsFrom, List.mem_cons, Outcome.mem_onward]
      constructor
      · rintro (rfl | ⟨value, here, hvalue, hmem⟩)
        · exact ⟨[], filters, rfl, rfl, rfl⟩
        · obtain ⟨before, after, rfl, hbefore, hposition⟩ := ih.mp hmem
          refine ⟨filter :: before, after, rfl, ?_, ?_⟩
          · rw [Chain.evalFrom, hvalue, Outcome.andThen_ok, hbefore]
          · rw [hposition, List.length_cons]
            omega
      · rintro ⟨before, after, hsplit, hbefore, hposition⟩
        cases before with
        | nil =>
            left
            obtain ⟨rfl, rfl⟩ := List.cons.inj hsplit
            simp only [Chain.evalFrom, Outcome.mk.injEq, Except.ok.injEq] at hbefore
            obtain ⟨rfl, rfl⟩ := hbefore
            cases visit
            simpa using hposition
        | cons first before =>
            right
            obtain ⟨rfl, rfl⟩ := List.cons.inj hsplit
            obtain ⟨value, here, hvalue, hrest⟩ := Outcome.andThen_eq_ok.mp hbefore
            refine ⟨value, here, hvalue, ih.mpr ⟨before, after, rfl, hrest, ?_⟩⟩
            rw [hposition, List.length_cons]
            omega

/-- The chains before a filter's own give values, and the filters before it in its chain give
the value that flows into it. -/
def Tree.Reaches (registry : Registry) (context : Context) (tree : Tree) (visit : Visit) : Prop :=
  ∃ front before after back values here,
    tree = front ++ (before ++ visit.filter :: after) :: back ∧
    Tree.eval registry context front = ⟨.ok values, here⟩ ∧
    Chain.eval registry before here = ⟨.ok visit.previous, visit.context⟩ ∧
    visit.position = before.length

theorem Tree.mem_visits {registry : Registry} {tree : Tree} {context : Context} {visit : Visit} :
    visit ∈ tree.visits registry context ↔ tree.Reaches registry context visit := by
  induction tree generalizing context with
  | nil => simp [Tree.visits, Tree.Reaches]
  | cons chain chains ih =>
      simp only [Tree.visits, List.mem_append, Outcome.mem_onward]
      constructor
      · rintro (hmem | ⟨value, here, hvalue, hmem⟩)
        · obtain ⟨before, after, rfl, hbefore, hposition⟩ := Chain.mem_visitsFrom.mp hmem
          refine ⟨[], before, after, chains, [], context, rfl, rfl, hbefore, ?_⟩
          omega
        · obtain ⟨front, before, after, back, values, there, rfl, hfront, hrest⟩ := ih.mp hmem
          refine ⟨chain :: front, before, after, back, value :: values, there, rfl, ?_, hrest⟩
          rw [Tree.eval, hvalue, Outcome.andThen_ok, hfront]
          rfl
      · rintro ⟨front, before, after, back, values, there, hsplit, hfront, hbefore, hposition⟩
        cases front with
        | nil =>
            left
            obtain ⟨rfl, rfl⟩ := List.cons.inj hsplit
            simp only [Tree.eval, Outcome.mk.injEq, Except.ok.injEq] at hfront
            obtain ⟨rfl, rfl⟩ := hfront
            refine Chain.mem_visitsFrom.mpr ⟨before, after, rfl, hbefore, ?_⟩
            omega
        | cons first front =>
            right
            obtain ⟨rfl, rfl⟩ := List.cons.inj hsplit
            obtain ⟨value, here, hvalue, hmap⟩ := Outcome.andThen_eq_ok.mp hfront
            obtain ⟨rest, hrest, rfl⟩ := Outcome.map_eq_ok.mp hmap
            refine ⟨value, here, hvalue, ih.mpr ?_⟩
            exact ⟨front, before, after, back, rest, there, rfl, hrest, hbefore, hposition⟩

/-- Where an evaluation fails, a filter that it reached has failed. -/
theorem Tree.exists_visit_of_eval_eq_error {registry : Registry} {tree : Tree}
    {context final : Context} {e : FilterError}
    (heval : tree.eval registry context = ⟨.error e, final⟩) :
    ∃ visit, tree.Reaches registry context visit ∧ visit.outcome registry = ⟨.error e, final⟩ := by
  have htrace := traces_visits registry context tree
  generalize hvisits : tree.visits registry context = visits at htrace
  rw [heval] at htrace
  cases htrace with
  | @aborted before last _ _ hnodes hsucceed hfail =>
      have hmem : last ∈ tree.visits registry context := by
        rw [hvisits]
        exact List.mem_append_right before (List.mem_singleton_self last)
      exact ⟨last, mem_visits.mp hmem, hfail⟩

end FilterChain
