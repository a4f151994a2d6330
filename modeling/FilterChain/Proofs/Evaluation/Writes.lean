import FilterChain.Proofs.Evaluation.Faults
import FilterChain.Proofs.Evaluation.Trace
import FilterChain.Regex.Matches

/-!
# What an evaluation writes

The built-in functions read nothing of a context but the request, and write nothing.  With
them alone, the context behind an evaluation is therefore the one before it and the values
that the assignments on the way have stored.
-/

namespace FilterChain

namespace Dictionary

variable {α : Type}

/-- Adds pairs one after another. -/
def insertAll (dictionary : Dictionary α) (entries : Entries α) : Dictionary α :=
  entries.foldl (fun dictionary entry => dictionary.insert entry.1 entry.2) dictionary

theorem insertAll_append (dictionary : Dictionary α) (entries more : Entries α) :
    dictionary.insertAll (entries ++ more) = (dictionary.insertAll entries).insertAll more :=
  List.foldl_append

/-- The last pair of a key wins. -/
theorem find?_insertAll (dictionary : Dictionary α) (entries : Entries α) (key : String) :
    (dictionary.insertAll entries).find? key =
      (Entries.find? entries.reverse key).or (dictionary.find? key) := by
  induction entries generalizing dictionary with
  | nil => rfl
  | cons entry entries ih =>
      have hlast : (dictionary.insert entry.1 entry.2).find? key =
          (Entries.find? [entry] key).or (dictionary.find? key) := by
        rw [find?_insert, Entries.find?_cons]
        by_cases hkey : key = entry.1
        · simp [hkey]
        · simp [hkey]
      calc (dictionary.insertAll (entry :: entries)).find? key
          = ((dictionary.insert entry.1 entry.2).insertAll entries).find? key := rfl
        _ = (Entries.find? entries.reverse key).or
              ((Entries.find? [entry] key).or (dictionary.find? key)) := by rw [ih, hlast]
        _ = (Entries.find? (entry :: entries).reverse key).or (dictionary.find? key) := by
            rw [List.reverse_cons, Entries.find?, Entries.find?, Entries.find?,
              List.lookup_append, Option.or_assoc]

theorem find?_insertAll_congr {one two : Dictionary α} {key : String}
    (hkey : one.find? key = two.find? key) (entries : Entries α) :
    (one.insertAll entries).find? key = (two.insertAll entries).find? key := by
  rw [find?_insertAll, hkey, find?_insertAll]

theorem find?_insertAll_of_mem (one two : Dictionary α) {entries : Entries α} {key : String}
    (hkey : key ∈ entries.map Prod.fst) :
    (one.insertAll entries).find? key = (two.insertAll entries).find? key := by
  obtain ⟨entry, hmem, rfl⟩ := List.mem_map.mp hkey
  cases hlast : Entries.find? entries.reverse entry.1 with
  | some value => rw [find?_insertAll, hlast, find?_insertAll, hlast, Option.some_or, Option.some_or]
  | none =>
      have hother := List.lookup_eq_none_iff.mp hlast entry (List.mem_reverse.mpr hmem)
      exact absurd rfl (bne_iff_ne.mp hother)

theorem find?_insertAll_of_notMem (dictionary : Dictionary α) {entries : Entries α} {key : String}
    (hkey : key ∉ entries.map Prod.fst) :
    (dictionary.insertAll entries).find? key = dictionary.find? key := by
  have hnone : Entries.find? entries.reverse key = none := by
    apply List.lookup_eq_none_iff.mpr
    intro entry hmem
    apply bne_iff_ne.mpr
    intro heq
    exact hkey (heq ▸ List.mem_map_of_mem (List.mem_reverse.mp hmem))
  rw [find?_insertAll, hnone, Option.none_or]

theorem contains_insertAll {dictionary : Dictionary α} {key : String}
    (hkey : dictionary.contains key) (entries : Entries α) :
    (dictionary.insertAll entries).contains key := by
  rw [contains] at hkey ⊢
  rw [find?_insertAll, Option.isSome_or, hkey, Bool.or_true]

theorem mem_of_find?_ofEntries {entries : Entries α} {key : String} {value : α}
    (hfind : (ofEntries entries).find? key = some value) : (key, value) ∈ entries := by
  have hlookup : Entries.find? entries.reverse key = some value := by
    have hall : ofEntries entries = empty.insertAll entries := rfl
    rwa [hall, find?_insertAll, find?_empty, Option.or_none] at hfind
  obtain ⟨before, after, hsplit, -⟩ := List.lookup_eq_some_iff.mp hlookup
  have hmem : (key, value) ∈ entries.reverse := by
    rw [hsplit]
    exact List.mem_append_right before List.mem_cons_self
  exact List.mem_reverse.mp hmem

end Dictionary

/-! ## What functions read and write -/

/-- A function that reads nothing of the context but the request, and writes nothing. -/
structure Function.ReadsRequest (function : Function) : Prop where
  context_call : ∀ context previous arguments,
    (function.call context previous arguments).context = context
  result_call : ∀ {one two : Context}, one.request? = two.request? → ∀ previous arguments,
    (function.call one previous arguments).result = (function.call two previous arguments).result

namespace Function

theorem ofValues_readsRequest (f : Value → List Value → Except FilterError Value) :
    (ofValues f).ReadsRequest :=
  ⟨fun _ _ _ => rfl, fun _ _ _ => rfl⟩

theorem ofContext_readsRequest {f : Context → Except FilterError Value}
    (hf : ∀ {one two : Context}, one.request? = two.request? → f one = f two) :
    (ofContext f).ReadsRequest :=
  ⟨fun _ _ _ => rfl, fun hrequest _ _ => hf hrequest⟩

variable {one two : Context}

theorem request_congr (hrequest : one.request? = two.request?) : request one = request two := by
  rw [request, hrequest, request]

theorem requestField_congr (name : String) (hrequest : one.request? = two.request?) :
    requestField name one = requestField name two := by
  rw [requestField, request_congr hrequest, requestField]

theorem path_congr (hrequest : one.request? = two.request?) : path one = path two := by
  have hurl : url one = url two := requestField_congr "url" hrequest
  rw [path, hurl, path]

end Function

def Registry.ReadsRequest (registry : Registry) : Prop :=
  ∀ name function, registry.find? name = some function → function.ReadsRequest

theorem Registry.builtins_readsRequest : ∀ entry ∈ builtins, entry.2.ReadsRequest := by
  have hquery := Function.ofContext_readsRequest (Function.requestField_congr "query")
  have hheaders := Function.ofContext_readsRequest (Function.requestField_congr "headers")
  have hurl := Function.ofContext_readsRequest (Function.requestField_congr "url")
  have hpath := Function.ofContext_readsRequest Function.path_congr
  have hrequest := Function.ofContext_readsRequest Function.request_congr
  simp only [builtins, List.forall_mem_cons]
  exact ⟨Function.ofValues_readsRequest _, Function.ofValues_readsRequest _,
    Function.ofValues_readsRequest _, hquery, hquery, hheaders, hheaders, hpath, hpath, hurl, hurl,
    hrequest, hrequest, by simp⟩

theorem Registry.standard_readsRequest : standard.ReadsRequest :=
  fun name function hfind =>
    builtins_readsRequest (name, function) (Dictionary.mem_of_find?_ofEntries hfind)

/-! ## One filter -/

theorem Registry.ReadsRequest.context_call {registry : Registry}
    (hregistry : registry.ReadsRequest) (name : String) (arguments : List Literal)
    (previous : Value) (context : Context) :
    (registry.call name arguments previous context).context = context := by
  rw [Registry.call]
  split
  · next function hfind => exact (hregistry name function hfind).context_call _ _ _
  · rfl

/-- What a filter stores if it gives a value. -/
def Filter.assignment? (filter : Filter) (previous : Value) : Option (String × Value) :=
  match filter with
  | assign name => some (name, previous)
  | _ => none

section

variable [Regex.Engine]

namespace Filter

theorem context_eval (registry : Registry) (filter : Filter) (previous : Value)
    (context : Context) :
    (filter.eval registry previous context).context =
      (filter.apply registry previous context).context := by
  rw [eval, Outcome.andThen]
  split <;> rfl

end Filter

variable {registry : Registry}

theorem Filter.context_eval_of_assignment?_eq_none (hregistry : registry.ReadsRequest)
    {filter : Filter} {previous : Value} (hnone : filter.assignment? previous = none)
    (context : Context) : (filter.eval registry previous context).context = context := by
  rw [context_eval]
  cases filter with
  | function name arguments => exact hregistry.context_call name arguments previous context
  | assign name => simp [assignment?] at hnone
  | property path => rfl
  | access name => rfl
  | subset entries => rfl
  | matching pattern flags => rfl
  | substitution pattern replacement flags => rfl

/-- A filter that fails leaves the context as it is. -/
theorem Filter.context_eval_of_error (hregistry : registry.ReadsRequest) {filter : Filter}
    {previous : Value} {context : Context} {e : FilterError}
    (herror : (filter.eval registry previous context).result = .error e) :
    (filter.eval registry previous context).context = context := by
  cases filter with
  | assign name =>
      rw [eval_assign] at herror ⊢
      split at herror
      · cases herror
      · next hfalsy => rw [if_neg hfalsy]
  | _ => exact context_eval_of_assignment?_eq_none hregistry rfl context

/-- A filter that gives a value stores what it assigns, which is useful, and nothing else. -/
theorem Filter.context_eval_of_ok (hregistry : registry.ReadsRequest) {filter : Filter}
    {previous : Value} {context : Context} {value : Value}
    (hok : (filter.eval registry previous context).result = .ok value) :
    (filter.eval registry previous context).context =
      context.insertAll (filter.assignment? previous).toList := by
  cases filter with
  | assign name =>
      rw [eval_assign] at hok ⊢
      split at hok
      · next htruthy => rw [if_pos htruthy]; rfl
      · cases hok
  | _ => exact context_eval_of_assignment?_eq_none hregistry rfl context

end

/-! ## Whole evaluations -/

def Visit.assignment? (visit : Visit) : Option (String × Value) :=
  visit.filter.assignment? visit.previous

section

variable [Regex.Engine]

/-- What the visits that give a value store, in their order. -/
def writesOf (registry : Registry) (visits : List Visit) : Entries Value :=
  (visits.filter fun visit => visit.succeeds registry).filterMap Visit.assignment?

/-- The names and values that an evaluation assigns, in their order. -/
def Tree.writes (registry : Registry) (context : Context) (tree : Tree) : Entries Value :=
  writesOf registry (tree.visits registry context)

variable {registry : Registry}

theorem writesOf_cons (visit : Visit) (visits : List Visit) :
    writesOf registry (visit :: visits) =
      (if visit.succeeds registry then visit.assignment?.toList else []) ++
        writesOf registry visits := by
  by_cases hsucceeds : visit.succeeds registry
  · cases hassigned : visit.assignment? with
    | some write => simp [writesOf, hsucceeds, hassigned]
    | none => simp [writesOf, hsucceeds, hassigned]
  · simp [writesOf, hsucceeds]

theorem writesOf_append (visits more : List Visit) :
    writesOf registry (visits ++ more) = writesOf registry visits ++ writesOf registry more := by
  rw [writesOf, List.filter_append, List.filterMap_append, writesOf, writesOf]

theorem Visit.context_outcome (hregistry : registry.ReadsRequest) (visit : Visit) :
    (visit.outcome registry).context = visit.context.insertAll (writesOf registry [visit]) := by
  generalize hresult : (visit.outcome registry).result = result
  cases result with
  | ok value =>
      have hsucceeds : visit.succeeds registry := by
        rw [succeeds, hresult]
        rfl
      have hwrites : writesOf registry [visit] = visit.assignment?.toList := by
        rw [writesOf_cons, if_pos hsucceeds]
        exact List.append_nil _
      rw [hwrites]
      exact Filter.context_eval_of_ok hregistry hresult
  | error e =>
      have hfails : ¬ visit.succeeds registry := by
        rw [succeeds, hresult]
        exact Bool.false_ne_true
      rw [writesOf_cons, if_neg hfails]
      exact Filter.context_eval_of_error hregistry hresult

/-- If a part writes what its visits assign, and so does every way on, then so does the
whole. -/
theorem Outcome.context_andThen {α β : Type} {outcome : Outcome α} {context : Context}
    {visits : List Visit} {next : α → Context → Outcome β} {nextVisits : α → Context → List Visit}
    (houtcome : outcome.context = context.insertAll (writesOf registry visits))
    (hnext : ∀ a here,
      (next a here).context = here.insertAll (writesOf registry (nextVisits a here))) :
    (outcome.andThen next).context =
      context.insertAll (writesOf registry (visits ++ outcome.onward nextVisits)) := by
  obtain ⟨result, here⟩ := outcome
  rw [writesOf_append, Dictionary.insertAll_append, ← houtcome]
  cases result with
  | ok a => exact hnext a here
  | error e => rfl

theorem Chain.context_evalFrom (hregistry : registry.ReadsRequest) (chain : Chain)
    (position : Nat) (previous : Value) (context : Context) :
    (Chain.evalFrom registry previous context chain).context =
      context.insertAll
        (writesOf registry (Chain.visitsFrom registry position previous context chain)) := by
  induction chain generalizing position previous context with
  | nil => rfl
  | cons filter filters ih =>
      have hhead := Visit.context_outcome hregistry ⟨filter, position, previous, context⟩
      exact Outcome.context_andThen hhead fun value here => ih (position + 1) value here

theorem Tree.context_eval (hregistry : registry.ReadsRequest) (tree : Tree) (context : Context) :
    (tree.eval registry context).context = context.insertAll (tree.writes registry context) := by
  induction tree generalizing context with
  | nil => rfl
  | cons chain chains ih =>
      have hchain := Chain.context_evalFrom hregistry chain 0 .null context
      exact Outcome.context_andThen hchain fun value here => ih here

theorem Tree.isTruthy_of_mem_writes {tree : Tree} {context : Context} {write : String × Value}
    (hmem : write ∈ tree.writes registry context) : write.2.isTruthy := by
  obtain ⟨visit, hvisit, hassigned⟩ := List.mem_filterMap.mp hmem
  have hsucceeds : visit.succeeds registry := (List.mem_filter.mp hvisit).2
  obtain ⟨filter, position, previous, here⟩ := visit
  cases filter with
  | assign name =>
      -- An assignment of a value that is not useful fails, so its visit is not counted.
      obtain rfl : (name, previous) = write := Option.some.inj hassigned
      by_contra hfalsy
      rw [Visit.succeeds, Visit.outcome, Filter.eval_assign, if_neg hfalsy] at hsucceeds
      cases hsucceeds
  | _ => cases hassigned

/-- With the built-in functions alone, an evaluation writes what the assignments that it
completes store, in source order, and nothing else. -/
theorem Tree.context_eval_standard (tree : Tree) (context : Context) :
    let visits := tree.visits .standard context
    let outcome := tree.eval .standard context
    let writes := tree.writes .standard context
    Traces .standard tree.nodes visits outcome ∧
      (∀ visit, visit ∈ visits ↔ tree.Reaches .standard context visit) ∧
      outcome.context = context.insertAll writes ∧
      (∀ write ∈ writes, write.2.isTruthy) ∧
      (∀ key, context.contains key → outcome.context.contains key) ∧
      (∀ key, key ∉ writes.map Prod.fst → outcome.context.find? key = context.find? key) ∧
      ∀ (filter : Filter) (previous : Value) (here : Context) (e : FilterError),
        (filter.eval .standard previous here).result = .error e →
        (filter.eval .standard previous here).context = here := by
  intro visits outcome writes
  have hregistry := Registry.standard_readsRequest
  have hcontext : outcome.context = context.insertAll writes := context_eval hregistry tree context
  refine ⟨traces_visits .standard context tree, fun visit => mem_visits, hcontext, ?_, ?_, ?_, ?_⟩
  · intro write hmem
    exact isTruthy_of_mem_writes hmem
  · intro key hkey
    rw [hcontext]
    exact Dictionary.contains_insertAll hkey writes
  · intro key hkey
    rw [hcontext]
    exact Dictionary.find?_insertAll_of_notMem context hkey
  · intro filter previous here e herror
    exact Filter.context_eval_of_error hregistry herror

end

theorem Tree.context_eval_standard_of_lost_assignment :
    let tree : Tree :=
      [[.function "request" [], .access "url", .assign "location"], [.assign "lost"]]
    let context := Context.ofRequest (.object [("url", .string "/home")])
    (tree.eval .standard context).result = .error (.type .assignOfNothing) ∧
      (tree.eval .standard context).context =
        context.insertAll [("location", .string "/home")] := by
  intro tree context
  obtain ⟨-, -, hcontext, -⟩ := context_eval_standard tree context
  exact ⟨rfl, hcontext⟩

end FilterChain
