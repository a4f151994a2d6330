import FilterChain.Proofs.Evaluation.Trace
import FilterChain.Proofs.Tree.Simulation
import FilterChain.Regex.Matches
import Mathlib

/-!
# What an evaluation calls

An evaluation asks the registry for the functions of the calls that it reaches, and for nothing
else.  Two registries that give those names the same functions, or both none, cannot be told
apart, whatever the functions do to the context and wherever the evaluation ends.  A function
can therefore be added without any effect on the expressions that do not name it.
-/

namespace FilterChain

/-- The name of the function that a filter calls. -/
def Filter.callee? : Filter → Option String
  | function name _ => some name
  | _ => none

/-- The names of the functions that a tree calls, in source order. -/
def Tree.callees (tree : Tree) : List String :=
  tree.flatMap fun chain => chain.filterMap Filter.callee?

/-- The names of the functions that were called on some visits. -/
def calleesOf (visits : List Visit) : List String :=
  visits.flatMap fun visit => visit.filter.callee?.toList

theorem calleesOf_cons (visit : Visit) (visits : List Visit) :
    calleesOf (visit :: visits) = visit.filter.callee?.toList ++ calleesOf visits :=
  List.flatMap_cons

theorem calleesOf_append (visits more : List Visit) :
    calleesOf (visits ++ more) = calleesOf visits ++ calleesOf more :=
  List.flatMap_append

theorem Tree.mem_callees {tree : Tree} {name : String} :
    name ∈ tree.callees ↔ ∃ chain ∈ tree, ∃ filter ∈ chain, filter.callee? = some name := by
  simp only [callees, List.mem_flatMap, List.mem_filterMap]

theorem Tree.calleesOf_visits_subset [Regex.Engine] (registry : Registry) (tree : Tree)
    (context : Context) :
    calleesOf (tree.visits registry context) ⊆ tree.callees := by
  intro name hname
  obtain ⟨visit, hvisit, hcallee⟩ := List.mem_flatMap.mp hname
  obtain ⟨front, before, after, back, values, here, rfl, -⟩ := mem_visits.mp hvisit
  refine mem_callees.mpr ⟨before ++ visit.filter :: after, ?_, visit.filter, ?_, ?_⟩
  · exact List.mem_append_right front List.mem_cons_self
  · exact List.mem_append_right before List.mem_cons_self
  · exact Option.mem_toList.mp hcallee

/-! ## Registries that cannot be told apart -/

namespace Registry

/-- Each of some names has the same function in both registries, or none in either. -/
def AgreeOn (one two : Registry) (names : List String) : Prop :=
  ∀ name ∈ names, one.find? name = two.find? name

variable {one two : Registry}

theorem AgreeOn.mono {names fewer : List String} (hagree : one.AgreeOn two names)
    (hsubset : fewer ⊆ names) : one.AgreeOn two fewer :=
  fun name hname => hagree name (hsubset hname)

theorem agreeOn_append {names more : List String} :
    one.AgreeOn two (names ++ more) ↔ one.AgreeOn two names ∧ one.AgreeOn two more :=
  List.forall_mem_append

/-- An added function leaves all other names alone. -/
theorem agreeOn_of_register {registry extended : Registry} {name : String} {function : Function}
    (hregister : registry.register name function = .ok extended) {names : List String}
    (hname : name ∉ names) : extended.AgreeOn registry names := by
  obtain ⟨-, -, hinsert⟩ | ⟨-, fault, hfault⟩ := register_cases registry name function
  · obtain rfl : extended = registry.insert name function :=
      Except.ok.inj (hregister.symm.trans hinsert)
    intro other hother
    have hne : other ≠ name := fun heq => hname (heq ▸ hother)
    rw [Dictionary.find?_insert, if_neg hne]
  · cases hregister.symm.trans hfault

end Registry

section

variable [Regex.Engine] {one two : Registry}

theorem Filter.eval_congr {filter : Filter} (hagree : one.AgreeOn two filter.callee?.toList)
    (previous : Value) (context : Context) :
    filter.eval one previous context = filter.eval two previous context := by
  have happly : filter.apply one previous context = filter.apply two previous context := by
    cases filter with
    | function name arguments =>
        have hname : one.find? name = two.find? name := hagree name List.mem_cons_self
        change one.call name arguments previous context = two.call name arguments previous context
        rw [Registry.call, hname, Registry.call]
    | _ => rfl
  rw [eval, happly, eval]

theorem Chain.evalFrom_congr (chain : Chain) (position : Nat) (previous : Value)
    (context : Context)
    (hagree : one.AgreeOn two (calleesOf (visitsFrom one position previous context chain))) :
    chain.evalFrom one previous context = chain.evalFrom two previous context := by
  induction chain generalizing position previous context with
  | nil => rfl
  | cons filter filters ih =>
      rw [visitsFrom, calleesOf_cons, Registry.agreeOn_append] at hagree
      obtain ⟨hfirst, hothers⟩ := hagree
      rw [evalFrom, evalFrom, ← Filter.eval_congr hfirst previous context]
      generalize filter.eval one previous context = outcome at hothers
      obtain ⟨result, here⟩ := outcome
      cases result with
      | ok value => exact ih (position + 1) value here hothers
      | error e => rfl

/-- Only the calls that are reached matter. -/
theorem Tree.eval_congr_of_visits (tree : Tree) (context : Context)
    (hagree : one.AgreeOn two (calleesOf (tree.visits one context))) :
    tree.eval one context = tree.eval two context := by
  induction tree generalizing context with
  | nil => rfl
  | cons chain chains ih =>
      rw [visits, calleesOf_append, Registry.agreeOn_append] at hagree
      obtain ⟨hfirst, hothers⟩ := hagree
      have hchain : Chain.eval one chain context = Chain.eval two chain context :=
        Chain.evalFrom_congr chain 0 .null context hfirst
      rw [eval, eval, ← hchain]
      generalize Chain.eval one chain context = outcome at hothers
      obtain ⟨result, here⟩ := outcome
      cases result with
      | ok value => rw [Outcome.andThen_ok, Outcome.andThen_ok, ih here hothers]
      | error e => rfl

theorem Tree.eval_congr {tree : Tree} (hagree : one.AgreeOn two tree.callees)
    (context : Context) : tree.eval one context = tree.eval two context :=
  eval_congr_of_visits tree context (hagree.mono (calleesOf_visits_subset one tree context))

end

/-- Nothing of a registry has any influence on an evaluation but the functions of the names that
the tree calls.  A function that was added has none on the expressions that do not call it. -/
theorem Tree.eval_eq_of_agreeOn [Regex.Engine] :
    (∀ (one two : Registry) (tree : Tree), one.AgreeOn two tree.callees →
      ∀ context, tree.eval one context = tree.eval two context) ∧
    ∀ (registry extended : Registry) (name : String) (function : Function),
      registry.register name function = .ok extended →
      (∀ tree : Tree, name ∉ tree.callees →
        ∀ context, tree.eval extended context = tree.eval registry context) ∧
      ∀ text, (∀ tree, Tree.parse text = .ok tree → name ∉ tree.callees) →
        ∀ context, execute extended text context = execute registry text context := by
  refine ⟨fun one two tree hagree context => eval_congr hagree context, ?_⟩
  intro registry extended name function hregister
  have htree (tree : Tree) (hname : name ∉ tree.callees) (context : Context) :
      tree.eval extended context = tree.eval registry context :=
    eval_congr (Registry.agreeOn_of_register hregister hname) context
  refine ⟨htree, ?_⟩
  intro text hname context
  rw [execute, execute]
  cases hparse : Tree.parse text with
  | ok tree => exact htree tree (hname tree hparse) context
  | error e => rfl

/-- Both registries count calls in the context, and one of them has the built-in functions too.
The tree counts twice before a call fails that neither of them knows; the texts do not call the
name that is added, one of them because it does not parse. -/
theorem Tree.eval_eq_of_agreeOn_of_counted_calls :
    let count : Action := fun context _ arguments =>
      let calls := arguments ++ match context.find? "calls" with
        | some (.array calls) => calls
        | _ => []
      ⟨.ok (.array calls), context.insert "calls" (.array calls)⟩
    let one : Registry := Dictionary.empty.insert "count" (.async count)
    let two : Registry := Registry.standard.insert "count" (.async count)
    let tree : Tree :=
      [[.function "count" [.integer 1], .assign "split"], [.function "count" [.integer 2]],
        [.function "lost" []], [.function "count" [.integer 3]]]
    one.AgreeOn two tree.callees ∧
      tree.eval two Dictionary.empty = tree.eval one Dictionary.empty ∧
      (tree.eval two Dictionary.empty).result = .error (.node (.unknownFunction "lost")) ∧
      (tree.eval two Dictionary.empty).context.find? "calls" =
        some (.array [.integer 2, .integer 1]) ∧
      one.register "split" (.sync count) = .ok (one.insert "split" (.sync count)) ∧
      execute (one.insert "split" (.sync count)) "count('split') > split" Dictionary.empty =
        execute one "count('split') > split" Dictionary.empty ∧
      execute (one.insert "split" (.sync count)) "split," Dictionary.empty =
        execute one "split," Dictionary.empty := by
  intro count one two tree
  have hagree : one.AgreeOn two tree.callees := by
    intro name hname
    have hcases : name = "count" ∨ name = "lost" := by
      simpa [Tree.callees, tree, Filter.callee?, or_comm] using hname
    rcases hcases with rfl | rfl
    · rfl
    · rfl
  have hregister : one.register "split" (.sync count) = .ok (one.insert "split" (.sync count)) :=
    rfl
  obtain ⟨hsame, hadded⟩ := Tree.eval_eq_of_agreeOn
  have htree := hsame one two tree hagree Dictionary.empty
  obtain ⟨-, htext⟩ := hadded _ _ _ _ hregister
  have hnamed : Tree.parse "count('split') > split" =
      .ok [[.function "count" [.string "split"], .assign "split"]] :=
    (Tree.parse_eq _).trans (by cbv)
  have hopen : Tree.parse "split," = .error ⟨.unexpected .filter .eof, ⟨1, 7⟩⟩ :=
    (Tree.parse_eq _).trans (by cbv)
  refine ⟨hagree, htree.symm, ?_, ?_, hregister, ?_, ?_⟩
  · rw [← htree]
    rfl
  · rw [← htree]
    rfl
  · apply htext
    intro other hother
    rw [hnamed] at hother
    cases hother
    simp [Tree.callees, Filter.callee?]
  · apply htext
    intro other hother
    rw [hopen] at hother
    cases hother

end FilterChain
