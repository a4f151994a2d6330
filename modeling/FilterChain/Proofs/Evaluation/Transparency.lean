import FilterChain.Proofs.Evaluation.Noninterference
import FilterChain.Proofs.Evaluation.Sequence
import FilterChain.Proofs.Evaluation.Threading

/-!
# Assignments on the way

An assignment hands on the value that it stores, and the built-in functions read nothing of a
context but the request.  With them alone, an assignment that is added to a tree behind some
filter leaves the values and the error of an evaluation as they were, and all that is stored but
for what stands under its own name.  Only the name of the request is an exception.
-/

namespace FilterChain

/-- Contexts that differ at most in what they hold under a name. -/
def Context.AgreeApart (name : String) (one two : Context) : Prop :=
  ∀ key, key ≠ name → one.find? key = two.find? key

/-- The longer tree has one more assignment, behind some filter of a chain. -/
def Tree.AddsAssignment (name : String) (tree longer : Tree) : Prop :=
  ∃ front before after back, before ≠ [] ∧
    tree = front ++ (before ++ after) :: back ∧
    longer = front ++ (before ++ .assign name :: after) :: back

section

variable {name : String} {one two : Context}

/-! ## Contexts apart from a name -/

namespace Context.AgreeApart

theorem refl (name : String) (context : Context) : context.AgreeApart name context :=
  fun _ _ => rfl

theorem insert (name : String) (value : Value) (context : Context) :
    context.AgreeApart name (context.insert name value) := by
  intro key hkey
  rw [Dictionary.find?_insert, if_neg hkey]

theorem insertAll (hagree : one.AgreeApart name two) (entries : Entries Value) :
    AgreeApart name (one.insertAll entries) (two.insertAll entries) :=
  fun key hkey => Dictionary.find?_insertAll_congr (hagree key hkey) entries

theorem request (hagree : one.AgreeApart name two) (hname : name ≠ requestKey) :
    one.SameRequest two :=
  hagree requestKey hname.symm

end Context.AgreeApart

/-! ## Evaluations that start apart -/

variable [Regex.Engine] {registry : Registry}

theorem Chain.agreeApart_evalFrom (hregistry : registry.ReadsRequest) (hname : name ≠ requestKey)
    (hagree : one.AgreeApart name two) (chain : Chain) (previous : Value) :
    (Chain.evalFrom registry previous one chain).Alike (Context.AgreeApart name)
      (Chain.evalFrom registry previous two chain) := by
  have hrequest := hagree.request hname
  have halike := alike_evalFrom hregistry hrequest chain previous
  have hwrites := writesOf_congr hregistry (alike_visitsFrom hregistry hrequest chain 0 previous)
  refine ⟨halike.result, ?_⟩
  rw [context_evalFrom hregistry chain 0 previous one,
    context_evalFrom hregistry chain 0 previous two, hwrites]
  exact hagree.insertAll _

theorem Tree.agreeApart_eval (hregistry : registry.ReadsRequest) (hname : name ≠ requestKey)
    (hagree : one.AgreeApart name two) (tree : Tree) :
    (tree.eval registry one).Alike (Context.AgreeApart name) (tree.eval registry two) := by
  have hrequest := hagree.request hname
  have halike := alike_eval hregistry hrequest tree
  have hwrites := writes_congr hregistry hrequest tree
  refine ⟨halike.result, ?_⟩
  rw [context_eval hregistry tree one, context_eval hregistry tree two, hwrites]
  exact hagree.insertAll _

/-! ## One more assignment -/

theorem Chain.evalFrom_append (registry : Registry) (previous : Value) (context : Context)
    (before after : Chain) :
    Chain.evalFrom registry previous context (before ++ after) =
      (Chain.evalFrom registry previous context before).andThen fun value here =>
        Chain.evalFrom registry value here after := by
  induction before generalizing previous context with
  | nil => rfl
  | cons filter filters ih =>
      rw [List.cons_append, evalFrom, evalFrom, Outcome.andThen_assoc]
      simp only [ih]

/-- A useful value is stored and handed on. -/
theorem Chain.evalFrom_assign (registry : Registry) {value : Value} (htruthy : value.isTruthy)
    (name : String) (context : Context) (filters : Chain) :
    Chain.evalFrom registry value context (.assign name :: filters) =
      Chain.evalFrom registry value (context.insert name value) filters := by
  rw [evalFrom, Filter.eval_assign, if_pos htruthy, Outcome.andThen_ok]

theorem Chain.agreeApart_assign (hregistry : registry.ReadsRequest) (hname : name ≠ requestKey)
    {before : Chain} (hbefore : before ≠ []) (after : Chain) (context : Context) :
    (Chain.eval registry (before ++ after) context).Alike (Context.AgreeApart name)
      (Chain.eval registry (before ++ .assign name :: after) context) := by
  rw [Chain.eval, Chain.eval, evalFrom_append, evalFrom_append]
  generalize houtcome : Chain.evalFrom registry .null context before = outcome
  obtain ⟨result, here⟩ := outcome
  cases result with
  | error e => exact .refl (.refl name) _
  | ok value =>
      -- Only the first filter of a chain acts on a value that is not useful.
      have htruthy : value.isTruthy := isTruthy_of_evalFrom houtcome (Or.inl hbefore)
      rw [Outcome.andThen_ok, Outcome.andThen_ok, evalFrom_assign registry htruthy]
      exact agreeApart_evalFrom hregistry hname (.insert name value here) after value

theorem Tree.AddsAssignment.agreeApart_eval {tree longer : Tree}
    (hadds : tree.AddsAssignment name longer) (hregistry : registry.ReadsRequest)
    (hname : name ≠ requestKey) (context : Context) :
    (tree.eval registry context).Alike (Context.AgreeApart name)
      (longer.eval registry context) := by
  obtain ⟨front, before, after, back, hbefore, rfl, rfl⟩ := hadds
  rw [Tree.eval_append, Tree.eval_append]
  generalize Tree.eval registry context front = outcome
  obtain ⟨result, here⟩ := outcome
  cases result with
  | error e => exact .refl (.refl name) _
  | ok values =>
      have hchain := Chain.agreeApart_assign hregistry hname hbefore after here
      have hchains := hchain.andThen fun value one two hagree =>
        (Tree.agreeApart_eval hregistry hname hagree back).map (value :: ·)
      exact hchains.map (values ++ ·)

end

/-- With the built-in functions alone, one more assignment behind some filter of a chain changes
neither the values nor the error of an evaluation, and nothing of the context behind it but what
stands under its name, unless it replaces the request. -/
theorem Tree.eval_standard_of_addsAssignment [Regex.Engine] {name : String}
    (hname : name ≠ requestKey) {tree longer : Tree} (hadds : tree.AddsAssignment name longer) (context : Context) :
    (longer.eval .standard context).result = (tree.eval .standard context).result ∧
      ∀ key, key ≠ name →
        (longer.eval .standard context).context.find? key =
          (tree.eval .standard context).context.find? key := by
  have hsame := hadds.agreeApart_eval Registry.standard_readsRequest hname context
  refine ⟨hsame.result.symm, ?_⟩
  intro key hkey
  exact (hsame.context key hkey).symm

/-- The name is one that the context holds, and the last chain, which would assign it too, is not
reached. -/
theorem Tree.eval_standard_of_addsAssignment_of_lost_chain :
    let request : Value := .object [("url", .string "/home")]
    let tree : Tree :=
      [[.function "request" [], .access "url", .assign "to"], [.function "lost" []],
        [.function "url" [], .assign "seen"]]
    let longer : Tree :=
      [[.function "request" [], .assign "seen", .access "url", .assign "to"],
        [.function "lost" []], [.function "url" [], .assign "seen"]]
    let context : Context := (Context.ofRequest request).insert "seen" (.integer 1)
    "seen" ≠ requestKey ∧ tree.AddsAssignment "seen" longer ∧
      (longer.eval .standard context).result = .error (.node (.unknownFunction "lost")) ∧
      (longer.eval .standard context).context.find? "to" = some (.string "/home") ∧
      (longer.eval .standard context).context.find? "seen" = some request ∧
      (tree.eval .standard context).context.find? "seen" = some (.integer 1) := by
  intro request tree longer context
  have hname : "seen" ≠ requestKey := by decide
  have hadds : tree.AddsAssignment "seen" longer :=
    ⟨[], [.function "request" []], [.access "url", .assign "to"], _, List.cons_ne_nil _ _, rfl, rfl⟩
  obtain ⟨hresult, hcontext⟩ := eval_standard_of_addsAssignment hname hadds context
  have hto := hcontext "to" (by decide)
  exact ⟨hname, hadds, hresult.trans rfl, hto.trans rfl, rfl, rfl⟩

/-- An assignment to the name of the request is seen by the chains behind it. -/
example :
    let context := Context.ofRequest (.object [("url", .string "/home")])
    (Tree.eval .standard context
        [[.function "request" [], .access "url"], [.function "request" [], .access "url"]]).result =
      .ok [.string "/home", .string "/home"] ∧
    (Tree.eval .standard context
        [[.function "request" [], .access "url", .assign "_req"],
          [.function "request" [], .access "url"]]).result =
      .error (.type .missingField) :=
  ⟨rfl, rfl⟩

end FilterChain
