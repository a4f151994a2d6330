import FilterChain.Proofs.Evaluation.Faults
import FilterChain.Proofs.Evaluation.Trace

/-!
# Kinds of faults

A filter fails because of itself or because of a value, so with functions that only fail because
of values no evaluation has a fault of another kind.
-/

namespace FilterChain

theorem Filter.Fails.kind {filter : Filter} {previous : Value} {e : FilterError}
    (hfails : filter.Fails previous e) : e.kind = .node ∨ e.kind = .type := by
  cases hfails with
  | propertyOfNothing => exact Or.inl rfl
  | missingProperty => exact Or.inl rfl
  | unsupportedFlag => exact Or.inl rfl
  | invalidPattern => exact Or.inl rfl
  | _ => exact Or.inr rfl

/-- A function that fails because of the type of a value, if it fails. -/
def Function.FailsByType (function : Function) : Prop :=
  ∀ context previous arguments e,
    (function.call context previous arguments).result = .error e → e.kind = .type

namespace Function

theorem ofValues_failsByType {f : Value → List Value → Except FilterError Value}
    (hf : ∀ previous arguments e, f previous arguments = .error e → e.kind = .type) :
    (ofValues f).FailsByType :=
  fun _ => hf

theorem ofContext_failsByType {f : Context → Except FilterError Value}
    (hf : ∀ context e, f context = .error e → e.kind = .type) : (ofContext f).FailsByType :=
  fun context _ _ => hf context

variable {previous : Value} {arguments : List Value} {context : Context} {e : FilterError}

theorem kind_of_get (herror : get previous arguments = .error e) : e.kind = .type := by
  rw [get] at herror
  split at herror
  · split at herror
    · cases herror
    · cases herror
      rfl
  · cases herror
    rfl

theorem kind_of_split (herror : split previous arguments = .error e) : e.kind = .type := by
  cases previous with
  | string text => cases herror
  | _ =>
      cases herror
      rfl

theorem kind_of_join (herror : join previous arguments = .error e) : e.kind = .type := by
  cases previous with
  | string text => cases herror
  | array items => cases herror
  | _ =>
      cases herror
      rfl

theorem kind_of_request (herror : request context = .error e) : e.kind = .type := by
  rw [request] at herror
  split at herror
  · cases herror
  · cases herror
    rfl

theorem kind_of_requestField {name : String} (herror : requestField name context = .error e) :
    e.kind = .type := by
  rw [requestField] at herror
  cases hrequest : request context with
  | error fault =>
      rw [hrequest] at herror
      cases herror
      exact kind_of_request hrequest
  | ok found =>
      rw [hrequest] at herror
      cases herror

theorem kind_of_path (herror : path context = .error e) : e.kind = .type := by
  rw [path] at herror
  cases hurl : url context with
  | error fault =>
      rw [hurl] at herror
      cases herror
      exact kind_of_requestField hurl
  | ok found =>
      rw [hurl] at herror
      cases herror

end Function

theorem Registry.builtins_failByType : ∀ entry ∈ builtins, entry.2.FailsByType := by
  have hget : (Function.ofValues Function.get).FailsByType :=
    Function.ofValues_failsByType fun _ _ _ => Function.kind_of_get
  have hsplit : (Function.ofValues Function.split).FailsByType :=
    Function.ofValues_failsByType fun _ _ _ => Function.kind_of_split
  have hjoin : (Function.ofValues Function.join).FailsByType :=
    Function.ofValues_failsByType fun _ _ _ => Function.kind_of_join
  have hfield : ∀ name, (Function.ofContext (Function.requestField name)).FailsByType :=
    fun _ => Function.ofContext_failsByType fun _ _ => Function.kind_of_requestField
  have hpath : (Function.ofContext Function.path).FailsByType :=
    Function.ofContext_failsByType fun _ _ => Function.kind_of_path
  have hrequest : (Function.ofContext Function.request).FailsByType :=
    Function.ofContext_failsByType fun _ _ => Function.kind_of_request
  simp only [builtins, List.forall_mem_cons]
  exact ⟨hget, hsplit, hjoin, hfield "query", hfield "query", hfield "headers", hfield "headers",
    hpath, hpath, hfield "url", hfield "url", hrequest, hrequest, by simp⟩

section

variable [Regex.Engine] {registry : Registry}

theorem Filter.kind_of_eval
    (hregistry : ∀ name function, registry.find? name = some function → function.FailsByType)
    {filter : Filter} {previous : Value} {context : Context} {e : FilterError}
    (herror : (filter.eval registry previous context).result = .error e) :
    e.kind = .node ∨ e.kind = .type := by
  cases hfilter : filter.isFunction with
  | false => exact (fails_of_eval hfilter herror).kind
  | true =>
      obtain ⟨value, -, -, heval⟩ | ⟨value, -, -, heval⟩ | ⟨fault, happly, heval⟩ :=
        eval_cases registry filter previous context
      · cases heval.symm.trans herror
      · cases heval.symm.trans herror
        exact Or.inr rfl
      · obtain rfl : fault = e := Except.error.inj (heval.symm.trans herror)
        cases filter with
        | function name arguments =>
            change (registry.call name arguments previous context).result = _ at happly
            rw [Registry.call] at happly
            split at happly
            · next function hfind =>
              exact Or.inr (hregistry name function hfind _ _ _ _ happly)
            · cases happly
              exact Or.inl rfl
        | _ => cases hfilter

theorem Tree.kind_of_eval
    (hregistry : ∀ name function, registry.find? name = some function → function.FailsByType)
    {tree : Tree} {context final : Context} {e : FilterError}
    (heval : tree.eval registry context = ⟨.error e, final⟩) :
    e.kind = .node ∨ e.kind = .type := by
  obtain ⟨visit, -, hfail⟩ := exists_visit_of_eval_eq_error heval
  exact Filter.kind_of_eval hregistry (congrArg Outcome.result hfail)

end

end FilterChain
