import FilterChain.Proofs.Evaluation.Faults
import FilterChain.Proofs.Evaluation.Trace
import FilterChain.Regex.Matches

/-!
# Useful values along a chain

A filter hands on a useful value or none, so only the first filter of a chain ever acts on a
value that is not useful: on null.  Whatever the functions of the registry do, this fixes
where a fault about null can come from, and which filters can give an empty result.
-/

namespace FilterChain

section

variable [Regex.Engine] {registry : Registry} {context final : Context}

theorem Chain.isTruthy_of_evalFrom {chain : Chain} {previous value : Value}
    (heval : Chain.evalFrom registry previous context chain = ⟨.ok value, final⟩)
    (hstart : chain ≠ [] ∨ previous.isTruthy) : value.isTruthy := by
  induction chain generalizing previous context with
  | nil =>
      have hvalue : previous = value := Except.ok.inj (congrArg Outcome.result heval)
      have hprevious : previous.isTruthy := hstart.resolve_left fun hne => hne rfl
      exact hvalue ▸ hprevious
  | cons filter filters ih =>
      obtain ⟨next, here, hnext, hrest⟩ := Outcome.andThen_eq_ok.mp heval
      have htruthy : next.isTruthy := Filter.isTruthy_of_eval (congrArg Outcome.result hnext)
      exact ih hrest (Or.inr htruthy)

/-! ## Values of chains -/

theorem Tree.length_of_eval {tree : Tree} {values : List Value}
    (heval : tree.eval registry context = ⟨.ok values, final⟩) : values.length = tree.length := by
  induction tree generalizing context values with
  | nil =>
      have hvalues : [] = values := Except.ok.inj (congrArg Outcome.result heval)
      rw [← hvalues]
      rfl
  | cons chain chains ih =>
      obtain ⟨value, here, -, hmap⟩ := Outcome.andThen_eq_ok.mp heval
      obtain ⟨rest, hrest, rfl⟩ := Outcome.map_eq_ok.mp hmap
      rw [List.length_cons, List.length_cons, ih hrest]

/-- The chains before a chain give the values before its own. -/
theorem Tree.exists_value_of_eval {front back : Tree} {chain : Chain} {values : List Value}
    (heval : Tree.eval registry context (front ++ chain :: back) = ⟨.ok values, final⟩) :
    ∃ before value after here there,
      values = before ++ value :: after ∧ before.length = front.length ∧
      Tree.eval registry context front = ⟨.ok before, here⟩ ∧
      Chain.eval registry chain here = ⟨.ok value, there⟩ := by
  induction front generalizing context values with
  | nil =>
      obtain ⟨value, there, hvalue, hmap⟩ := Outcome.andThen_eq_ok.mp heval
      obtain ⟨after, -, rfl⟩ := Outcome.map_eq_ok.mp hmap
      exact ⟨[], value, after, context, there, rfl, rfl, rfl, hvalue⟩
  | cons first front ih =>
      obtain ⟨head, next, hhead, hmap⟩ := Outcome.andThen_eq_ok.mp heval
      obtain ⟨rest, hrest, rfl⟩ := Outcome.map_eq_ok.mp hmap
      obtain ⟨before, value, after, here, there, rfl, hlength, hfront, hvalue⟩ := ih hrest
      refine ⟨head :: before, value, after, here, there, rfl, ?_, ?_, hvalue⟩
      · rw [List.length_cons, List.length_cons, hlength]
      · rw [Tree.eval, hhead, Outcome.andThen_ok, hfront]
        rfl

theorem Tree.isTruthy_of_eval {tree : Tree} {values : List Value}
    (heval : tree.eval registry context = ⟨.ok values, final⟩)
    (hchains : ∀ chain ∈ tree, chain ≠ []) : ∀ value ∈ values, value.isTruthy := by
  induction tree generalizing context values with
  | nil =>
      have hvalues : [] = values := Except.ok.inj (congrArg Outcome.result heval)
      rw [← hvalues]
      exact fun _ hmem => nomatch hmem
  | cons chain chains ih =>
      obtain ⟨hchain, hrest⟩ := List.forall_mem_cons.mp hchains
      obtain ⟨value, here, hvalue, hmap⟩ := Outcome.andThen_eq_ok.mp heval
      obtain ⟨rest, hvalues, rfl⟩ := Outcome.map_eq_ok.mp hmap
      have htruthy : value.isTruthy := Chain.isTruthy_of_evalFrom hvalue (Or.inl hchain)
      exact List.forall_mem_cons.mpr ⟨htruthy, ih hvalues hrest⟩

/-! ## Values that flow into filters -/

theorem Tree.Reaches.isTruthy_previous {tree : Tree} {visit : Visit}
    (hreaches : tree.Reaches registry context visit) (hposition : visit.position ≠ 0) :
    visit.previous.isTruthy := by
  obtain ⟨front, before, after, back, values, here, -, -, hbefore, hlength⟩ := hreaches
  have hne : before ≠ [] := by
    intro hnil
    rw [hlength, hnil] at hposition
    exact hposition rfl
  exact Chain.isTruthy_of_evalFrom hbefore (Or.inl hne)

end

/-- The faults of filters that read or store a value which must be useful. -/
def faultsOfNothing : List FilterError :=
  [.node .propertyOfNothing, .type .accessOfNothing, .type .assignOfNothing]

theorem Filter.Fails.isTruthy_eq_false {filter : Filter} {previous : Value} {e : FilterError}
    (hfails : filter.Fails previous e) (hmem : e ∈ faultsOfNothing) :
    previous.isTruthy = false := by
  cases hfails with
  | propertyOfNothing hfalsy => exact hfalsy
  | accessOfNothing hfalsy => exact hfalsy
  | assignOfNothing hfalsy => exact hfalsy
  | _ => simp [faultsOfNothing] at hmem

section

variable [Regex.Engine]

/-- On null, a filter that calls no function fails. -/
theorem Filter.eval_null (registry : Registry) {filter : Filter}
    (hfilter : filter.isFunction = false) (context : Context) :
    ∃ e, filter.Fails .null e ∧ filter.eval registry .null context = ⟨.error e, context⟩ := by
  cases filter with
  | function name arguments => cases hfilter
  | property path => exact ⟨_, .propertyOfNothing rfl, rfl⟩
  | access name => exact ⟨_, .accessOfNothing rfl, rfl⟩
  | assign name => exact ⟨_, .assignOfNothing rfl, rfl⟩
  | subset entries => exact ⟨_, .subsetOfOther, rfl⟩
  | matching pattern flags => exact ⟨_, .matchOfOther, rfl⟩
  | substitution pattern replacement flags => exact ⟨_, .substitutionOfOther, rfl⟩

/-- Useful values are threaded through every chain, for any functions in the registry. -/
theorem Tree.truthy_threading (registry : Registry) (context : Context) (tree : Tree) :
    (∀ values, (tree.eval registry context).result = .ok values →
      values.length = tree.length ∧
        ∀ front chain back, tree = front ++ chain :: back →
          ∃ before value after here there,
            values = before ++ value :: after ∧ before.length = front.length ∧
            Tree.eval registry context front = ⟨.ok before, here⟩ ∧
            Chain.eval registry chain here = ⟨.ok value, there⟩ ∧
            (chain ≠ [] → value.isTruthy)) ∧
      (∀ visit, tree.Reaches registry context visit → visit.position ≠ 0 →
        visit.previous.isTruthy) ∧
      (∀ visit e, tree.Reaches registry context visit → visit.filter.isFunction = false →
        (visit.outcome registry).result = .error e → e ∈ faultsOfNothing → visit.position = 0) ∧
      (∀ (filter : Filter) (filters : Chain) (here : Context), filter.isFunction = false →
        ∃ e, filter.Fails .null e ∧ filter.eval registry .null here = ⟨.error e, here⟩ ∧
          Chain.eval registry (filter :: filters) here = ⟨.error e, here⟩) ∧
      ∀ (filter : Filter) (previous : Value) (here : Context),
        (filter.eval registry previous here).result = .error (.type .emptyResult) →
        filter.isFunction ∨ ∃ pattern replacement flags text,
          filter = .substitution pattern replacement flags ∧ previous = .string text := by
  refine ⟨?_, fun visit => Reaches.isTruthy_previous, ?_, ?_, ?_⟩
  · intro values hresult
    generalize houtcome : tree.eval registry context = outcome at hresult
    obtain ⟨result, final⟩ := outcome
    obtain rfl : result = .ok values := hresult
    refine ⟨length_of_eval houtcome, ?_⟩
    rintro front chain back rfl
    obtain ⟨before, value, after, here, there, hvalues, hlength, hfront, hvalue⟩ :=
      exists_value_of_eval houtcome
    refine ⟨before, value, after, here, there, hvalues, hlength, hfront, hvalue, ?_⟩
    intro hne
    exact Chain.isTruthy_of_evalFrom hvalue (Or.inl hne)
  · intro visit e hreaches hfilter herror hmem
    by_contra hposition
    have htruthy := hreaches.isTruthy_previous hposition
    have hfalsy := (Filter.fails_of_eval hfilter herror).isTruthy_eq_false hmem
    cases htruthy.symm.trans hfalsy
  · intro filter filters here hfilter
    obtain ⟨e, hfails, heval⟩ := Filter.eval_null registry hfilter here
    refine ⟨e, hfails, heval, ?_⟩
    rw [Chain.eval, Chain.evalFrom, heval, Outcome.andThen_error]
  · intro filter previous here herror
    cases hfilter : filter.isFunction with
    | true => exact Or.inl rfl
    | false =>
        cases Filter.fails_of_eval hfilter herror with
        | @emptyResult pattern replacement flags text =>
            exact Or.inr ⟨pattern, replacement, flags, text, rfl, rfl⟩

end

theorem Tree.truthy_threading_of_two_chains :
    let tree : Tree := [[.function "request" [], .access "url"], []]
    let context := Context.ofRequest (.object [("url", .string "/home")])
    (tree.eval .standard context).result = .ok [.string "/home", .null] ∧
      [Value.string "/home", .null].length = tree.length ∧
      ∃ e, Chain.eval .standard [.assign "location"] context = ⟨.error e, context⟩ := by
  intro tree context
  obtain ⟨hvalues, -, -, hfirst, -⟩ := truthy_threading .standard context tree
  have hresult : (tree.eval .standard context).result = .ok [.string "/home", .null] := rfl
  obtain ⟨hlength, -⟩ := hvalues _ hresult
  obtain ⟨e, -, -, hfails⟩ := hfirst (.assign "location") [] context rfl
  exact ⟨hresult, hlength, e, hfails⟩

end FilterChain
