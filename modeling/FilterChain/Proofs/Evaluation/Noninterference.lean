import FilterChain.Proofs.Evaluation.Writes

/-!
# What an evaluation depends on

With the built-in functions alone, two contexts that hold the same request, or both none,
cannot be told apart.  An evaluation visits the same filters with the same values on both and
assigns the same, whatever else the contexts hold and whatever is assigned on the way, the
request itself included.
-/

namespace FilterChain

/-- Contexts that hold the same request, or both none. -/
def Context.SameRequest (one two : Context) : Prop :=
  one.request? = two.request?

/-- Visits that differ at most in what their contexts hold besides the request. -/
structure Visit.Alike (first second : Visit) : Prop where
  node : first.node = second.node
  previous : first.previous = second.previous
  request : first.context.SameRequest second.context

/-- Outcomes with the same result, whose contexts stand in a relation. -/
structure Outcome.Alike {α : Type} (related : Context → Context → Prop)
    (first second : Outcome α) : Prop where
  result : first.result = second.result
  context : related first.context second.context

namespace Outcome.Alike

variable {α β : Type} {related : Context → Context → Prop} {first second : Outcome α}

theorem refl (hrefl : ∀ context, related context context) (outcome : Outcome α) :
    outcome.Alike related outcome :=
  ⟨rfl, hrefl outcome.context⟩

theorem map (halike : first.Alike related second) (f : α → β) :
    (first.map f).Alike related (second.map f) := by
  constructor
  · rw [Outcome.map, halike.result, Outcome.map]
  · exact halike.context

theorem andThen (halike : first.Alike related second) {next : α → Context → Outcome β}
    (hnext : ∀ a {here there : Context}, related here there →
      (next a here).Alike related (next a there)) :
    (first.andThen next).Alike related (second.andThen next) := by
  obtain ⟨result, here⟩ := first
  obtain ⟨other, there⟩ := second
  obtain rfl : result = other := halike.result
  cases result with
  | ok a => exact hnext a halike.context
  | error e => exact ⟨rfl, halike.context⟩

theorem onward (halike : first.Alike related second) {next : α → Context → List Visit}
    (hnext : ∀ a {here there : Context}, related here there →
      List.Forall₂ Visit.Alike (next a here) (next a there)) :
    List.Forall₂ Visit.Alike (first.onward next) (second.onward next) := by
  obtain ⟨result, here⟩ := first
  obtain ⟨other, there⟩ := second
  obtain rfl : result = other := halike.result
  cases result with
  | ok a => exact hnext a halike.context
  | error e => exact List.Forall₂.nil

end Outcome.Alike

/-! ## One filter -/

theorem Registry.ReadsRequest.result_call {registry : Registry} {one two : Context}
    (hregistry : registry.ReadsRequest) (hrequest : one.SameRequest two) (name : String)
    (arguments : List Literal) (previous : Value) :
    (registry.call name arguments previous one).result =
      (registry.call name arguments previous two).result := by
  rw [Registry.call, Registry.call]
  split
  · next function hfind => exact (hregistry name function hfind).result_call hrequest _ _
  · rfl

section

variable [Regex.Engine] {registry : Registry} {one two : Context}

theorem Filter.result_apply_congr (hregistry : registry.ReadsRequest)
    (hrequest : one.SameRequest two) (filter : Filter) (previous : Value) :
    (filter.apply registry previous one).result = (filter.apply registry previous two).result := by
  cases filter with
  | function name arguments => exact hregistry.result_call hrequest name arguments previous
  | assign name =>
      change (one.assign previous name).result = (two.assign previous name).result
      rw [Context.assign, Context.assign]
      by_cases htruthy : previous.isTruthy
      · rw [if_pos htruthy, if_pos htruthy]
      · rw [if_neg htruthy, if_neg htruthy]
  | property path => rfl
  | access name => rfl
  | subset entries => rfl
  | matching pattern flags => rfl
  | substitution pattern replacement flags => rfl

theorem Filter.result_eval_congr (hregistry : registry.ReadsRequest)
    (hrequest : one.SameRequest two) (filter : Filter) (previous : Value) :
    (filter.eval registry previous one).result = (filter.eval registry previous two).result := by
  have happly := result_apply_congr hregistry hrequest filter previous
  rw [eval, eval, Outcome.andThen, Outcome.andThen, happly]
  cases (filter.apply registry previous two).result with
  | ok value => rfl
  | error e => rfl

theorem Filter.alike_eval (hregistry : registry.ReadsRequest)
    (hrequest : one.SameRequest two) (filter : Filter) (previous : Value) :
    (filter.eval registry previous one).Alike Context.SameRequest
      (filter.eval registry previous two) := by
  have hresult := result_eval_congr hregistry hrequest filter previous
  refine ⟨hresult, ?_⟩
  -- The results agree, so that either both contexts get the same writes or neither gets any.
  cases hsecond : (filter.eval registry previous two).result with
  | ok value =>
      rw [context_eval_of_ok hregistry hsecond,
        context_eval_of_ok hregistry (hresult.trans hsecond)]
      exact Dictionary.find?_insertAll_congr hrequest _
  | error e =>
      rw [context_eval_of_error hregistry hsecond,
        context_eval_of_error hregistry (hresult.trans hsecond)]
      exact hrequest

/-! ## Whole evaluations -/

theorem Chain.alike_evalFrom (hregistry : registry.ReadsRequest)
    (hrequest : one.SameRequest two) (chain : Chain) (previous : Value) :
    (Chain.evalFrom registry previous one chain).Alike Context.SameRequest
      (Chain.evalFrom registry previous two chain) := by
  induction chain generalizing previous one two with
  | nil => exact ⟨rfl, hrequest⟩
  | cons filter filters ih =>
      have hhead := Filter.alike_eval hregistry hrequest filter previous
      exact hhead.andThen fun value here there hhere => ih hhere value

theorem Tree.alike_eval (hregistry : registry.ReadsRequest)
    (hrequest : one.SameRequest two) (tree : Tree) :
    (tree.eval registry one).Alike Context.SameRequest (tree.eval registry two) := by
  induction tree generalizing one two with
  | nil => exact ⟨rfl, hrequest⟩
  | cons chain chains ih =>
      have hchain := Chain.alike_evalFrom hregistry hrequest chain .null
      exact hchain.andThen fun value here there hhere => (ih hhere).map (value :: ·)

theorem Chain.alike_visitsFrom (hregistry : registry.ReadsRequest)
    (hrequest : one.SameRequest two) (chain : Chain) (position : Nat) (previous : Value) :
    List.Forall₂ Visit.Alike (Chain.visitsFrom registry position previous one chain)
      (Chain.visitsFrom registry position previous two chain) := by
  induction chain generalizing position previous one two with
  | nil => exact List.Forall₂.nil
  | cons filter filters ih =>
      have hhead := Filter.alike_eval hregistry hrequest filter previous
      exact List.Forall₂.cons ⟨rfl, rfl, hrequest⟩
        (hhead.onward fun value here there hhere => ih hhere (position + 1) value)

theorem Tree.alike_visits (hregistry : registry.ReadsRequest)
    (hrequest : one.SameRequest two) (tree : Tree) :
    List.Forall₂ Visit.Alike (tree.visits registry one) (tree.visits registry two) := by
  induction tree generalizing one two with
  | nil => exact List.Forall₂.nil
  | cons chain chains ih =>
      have hvisits := Chain.alike_visitsFrom hregistry hrequest chain 0 .null
      have hchain := Chain.alike_evalFrom hregistry hrequest chain .null
      exact List.rel_append hvisits (hchain.onward fun value here there hhere => ih hhere)

theorem writesOf_congr (hregistry : registry.ReadsRequest) {visits others : List Visit}
    (halike : List.Forall₂ Visit.Alike visits others) :
    writesOf registry visits = writesOf registry others := by
  induction halike with
  | nil => rfl
  | @cons visit other visits others hhead htail ih =>
      obtain ⟨filter, position, previous, here⟩ := visit
      obtain ⟨filter', position', previous', there⟩ := other
      obtain ⟨rfl, rfl⟩ := Prod.mk.inj hhead.node
      obtain rfl : previous = previous' := hhead.previous
      have hresult := Filter.result_eval_congr hregistry hhead.request filter previous
      have hsucceeds : Visit.succeeds registry ⟨filter, position, previous, here⟩ =
          Visit.succeeds registry ⟨filter, position, previous, there⟩ := by
        rw [Visit.succeeds, Visit.outcome, hresult, Visit.succeeds, Visit.outcome]
      rw [writesOf_cons, writesOf_cons, hsucceeds, ih]
      rfl

theorem Tree.writes_congr (hregistry : registry.ReadsRequest)
    (hrequest : one.SameRequest two) (tree : Tree) :
    tree.writes registry one = tree.writes registry two :=
  writesOf_congr hregistry (alike_visits hregistry hrequest tree)

end

/-- With the built-in functions alone, nothing of a context but the request has any influence
on the values, the error and the assignments of an evaluation. -/
theorem Tree.eval_standard_congr [Regex.Engine] (tree : Tree) {one two : Context}
    (hrequest : one.find? requestKey = two.find? requestKey) :
    let first := tree.eval .standard one
    let second := tree.eval .standard two
    let names := (tree.writes .standard one).map Prod.fst
    first.result = second.result ∧
      tree.writes .standard one = tree.writes .standard two ∧
      first.context.find? requestKey = second.context.find? requestKey ∧
      (∀ name ∈ names, first.context.find? name = second.context.find? name) ∧
      ∀ key, key ∉ names →
        first.context.find? key = one.find? key ∧ second.context.find? key = two.find? key := by
  intro first second names
  have hregistry := Registry.standard_readsRequest
  have halike := alike_eval hregistry hrequest tree
  have hwrites := writes_congr hregistry hrequest tree
  have hfirst : first.context = one.insertAll (tree.writes .standard one) :=
    context_eval hregistry tree one
  have hsecond : second.context = two.insertAll (tree.writes .standard one) := by
    rw [hwrites]
    exact context_eval hregistry tree two
  refine ⟨halike.result, hwrites, halike.context, ?_, ?_⟩
  · intro name hname
    rw [hfirst, hsecond]
    exact Dictionary.find?_insertAll_of_mem one two hname
  · intro key hkey
    rw [hfirst, hsecond]
    exact ⟨Dictionary.find?_insertAll_of_notMem one hkey,
      Dictionary.find?_insertAll_of_notMem two hkey⟩

/-- The chains replace the request on the way, and the last of them fails. -/
theorem Tree.eval_standard_congr_of_two_users :
    let tree : Tree :=
      [[.function "request" [], .access "url", .assign "_req"], [.function "r" [], .assign "user"],
        [.function "url" [], .assign "lost"]]
    let request := Context.ofRequest (.object [("url", .string "/home")])
    let one := request.insert "user" (.string "ada")
    let two := request.insert "guest" (.integer 1)
    let first := tree.eval .standard one
    let second := tree.eval .standard two
    one.find? requestKey = two.find? requestKey ∧
      first.result = .error (.type .emptyResult) ∧ second.result = .error (.type .emptyResult) ∧
      first.context.find? "user" = second.context.find? "user" ∧
      second.context.find? "guest" = some (.integer 1) := by
  intro tree request one two first second
  have hrequest : one.find? requestKey = two.find? requestKey := rfl
  obtain ⟨hresult, -, -, hnames, hothers⟩ := eval_standard_congr tree hrequest
  have hfirst : first.result = .error (.type .emptyResult) := rfl
  have hassigned : (tree.writes .standard one).map Prod.fst = ["_req", "user"] := by
    decide +kernel
  rw [hassigned] at hnames hothers
  have huser : first.context.find? "user" = second.context.find? "user" :=
    hnames "user" (by decide)
  have hguest : second.context.find? "guest" = two.find? "guest" :=
    (hothers "guest" (by decide)).2
  exact ⟨hrequest, hfirst, hresult.symm.trans hfirst, huser, hguest.trans rfl⟩

end FilterChain
