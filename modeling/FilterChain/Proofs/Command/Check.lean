import FilterChain.Command.Run
import FilterChain.Proofs.Command.Run
import FilterChain.Proofs.Evaluation.Kinds

/-!
# Checking and running

A check finds the faults of a text, and a run has these and others: those of the filters, which
are about nodes or types.  A fault of the one kind is never taken for one of the other, and
where both commands succeed they count the same chains.
-/

namespace FilterChain

theorem Function.ofInput_failsByType (input : String) : (ofInput input).FailsByType :=
  fun _ _ _ _ herror => nomatch herror

namespace CheckOptions

variable (options : CheckOptions)

theorem check_of_parse_ok {tree : Tree} (hparse : Tree.parse options.expression = .ok tree) :
    options.check = .ok (if options.tree then .tree tree else .valid tree.length) := by
  rw [check, FilterChain.check, hparse]
  rfl

theorem check_eq_error_iff {e : CommandError} :
    options.check = .error e ↔
      ∃ fault, Tree.parse options.expression = .error fault ∧ e = .filter (.ofSyntax fault) := by
  cases hparse : Tree.parse options.expression with
  | ok tree => simp [check_of_parse_ok options hparse]
  | error fault =>
      have hcheck : options.check = .error (.filter (.ofSyntax fault)) := by
        rw [check, FilterChain.check, hparse]
        rfl
      simp [hcheck, eq_comm]

end CheckOptions

namespace RunOptions

variable {options : RunOptions}

/-- What is given along with an expression can be read. -/
structure Readable (options : RunOptions) : Prop where
  context : ∀ text, options.context = some text →
    ∃ fields, Json.read text = .ok (.object fields)
  request : ∀ text, options.request = some text → ∃ json, Json.read text = .ok json

theorem Readable.exists_initial (hreadable : options.Readable) :
    ∃ context, options.initial = .ok context := by
  obtain ⟨start, hgiven⟩ : ∃ start, options.given = .ok start := by
    cases hcontext : options.context with
    | none => exact ⟨Dictionary.empty, by rw [given, hcontext]⟩
    | some text =>
        obtain ⟨fields, hread⟩ := hreadable.context text hcontext
        exact ⟨_, given_of_read hcontext hread⟩
  obtain ⟨context, hadd⟩ : ∃ context, options.addRequest start = .ok context := by
    cases hrequest : options.request with
    | none => exact ⟨start, by rw [addRequest, hrequest]⟩
    | some text =>
        obtain ⟨json, hread⟩ := hreadable.request text hrequest
        exact ⟨_, addRequest_of_read hrequest hread start⟩
  exact ⟨context, initial_of_given hgiven hadd⟩

theorem registry_failsByType {registry : Registry} (hregistry : options.registry = .ok registry) :
    ∀ name function, registry.find? name = some function → function.FailsByType :=
  forall_registry Registry.builtins_failByType Function.ofInput_failsByType hregistry

section

variable [Regex.Engine] (hreadable : options.Readable)
include hreadable

theorem run_of_parse_error {fault : SyntaxError}
    (hparse : Tree.parse options.expression = .error fault) :
    options.run = .error (.filter (.ofSyntax fault)) := by
  obtain ⟨registry, hregistry⟩ := exists_registry options
  obtain ⟨context, hinitial⟩ := hreadable.exists_initial
  apply run_of_execute_error hregistry hinitial
  rw [execute, hparse]

/-- A run on a text without faults has a value for each chain, or the fault of a filter. -/
theorem run_of_parse_ok {tree : Tree} (hparse : Tree.parse options.expression = .ok tree) :
    (∃ fault, options.run = .error (.filter fault) ∧ (fault.kind = .node ∨ fault.kind = .type)) ∨
      ∃ output, options.run = .ok output ∧ output.values.length = tree.length := by
  obtain ⟨registry, hregistry⟩ := exists_registry options
  obtain ⟨context, hinitial⟩ := hreadable.exists_initial
  have hexecute : execute registry options.expression context = tree.eval registry context := by
    rw [execute, hparse]
  generalize heval : tree.eval registry context = outcome at hexecute
  obtain ⟨result, final⟩ := outcome
  cases result with
  | error fault =>
      have hkind := Tree.kind_of_eval (registry_failsByType hregistry) heval
      exact Or.inl ⟨fault, run_of_execute_error hregistry hinitial hexecute, hkind⟩
  | ok values =>
      have hlength : (values.map Value.toJson).length = tree.length := by
        rw [List.length_map, Tree.length_of_eval heval]
      exact Or.inr ⟨_, run_of_execute_ok hregistry hinitial hexecute, hlength⟩

theorem fault_of_run {e : CommandError} (hrun : options.run = .error e) :
    (∃ fault, Tree.parse options.expression = .error fault ∧ e = .filter (.ofSyntax fault)) ∨
      ∃ fault, e = .filter fault ∧ (fault.kind = .node ∨ fault.kind = .type) := by
  cases hparse : Tree.parse options.expression with
  | error fault =>
      have hfails := run_of_parse_error hreadable hparse
      exact Or.inl ⟨fault, rfl, Except.error.inj (hrun.symm.trans hfails)⟩
  | ok tree =>
      right
      obtain ⟨fault, hfails, hkind⟩ | ⟨output, hok, -⟩ := run_of_parse_ok hreadable hparse
      · exact ⟨fault, Except.error.inj (hrun.symm.trans hfails), hkind⟩
      · cases hrun.symm.trans hok

theorem exists_tree_of_run {output : RunOutput} (hrun : options.run = .ok output) :
    ∃ tree, Tree.parse options.expression = .ok tree ∧ tree.length = output.values.length := by
  cases hparse : Tree.parse options.expression with
  | error fault => cases hrun.symm.trans (run_of_parse_error hreadable hparse)
  | ok tree =>
      obtain ⟨fault, hfails, -⟩ | ⟨other, hok, hlength⟩ := run_of_parse_ok hreadable hparse
      · cases hrun.symm.trans hfails
      · obtain rfl : output = other := Except.ok.inj (hrun.symm.trans hok)
        exact ⟨tree, rfl, hlength.symm⟩

end

/-- A run and a check find the same faults in a text.  The other faults of a run are about nodes
or types, and a run without faults gives a value for each chain of the check.  That the function
for the input gets its name is no source of faults. -/
theorem run_check [Regex.Engine] (hreadable : options.Readable) (wanted : Bool) :
    ((∃ fault, options.run = .error (.filter fault) ∧ fault.kind = .parse) ↔
      ∃ e, CheckOptions.check ⟨options.expression, wanted⟩ = .error e) ∧
    (∀ e, CheckOptions.check ⟨options.expression, wanted⟩ = .error e → options.run = .error e) ∧
    (∀ e, options.run = .error e → ∃ fault, e = .filter fault ∧
      (fault.kind = .parse ∨ fault.kind = .node ∨ fault.kind = .type)) ∧
    (∀ output, options.run = .ok output →
      CheckOptions.check ⟨options.expression, false⟩ = .ok (.valid output.values.length) ∧
      ∃ tree, CheckOptions.check ⟨options.expression, true⟩ = .ok (.tree tree) ∧
        tree.length = output.values.length) ∧
    ∀ input, options.input = some input →
      ∃ registry, Registry.standard.register "stdin" (.ofInput input) = .ok registry ∧
        options.registry = .ok registry := by
  have hsame (e : CommandError)
      (hcheck : CheckOptions.check ⟨options.expression, wanted⟩ = .error e) :
      ∃ fault, options.run = .error (.filter (.ofSyntax fault)) ∧ e = .filter (.ofSyntax fault) := by
    obtain ⟨fault, hparse, hfault⟩ := (CheckOptions.check_eq_error_iff _).mp hcheck
    exact ⟨fault, run_of_parse_error hreadable hparse, hfault⟩
  refine ⟨⟨?_, ?_⟩, ?_, ?_, ?_, ?_⟩
  · rintro ⟨fault, hrun, hkind⟩
    obtain ⟨found, hparse, -⟩ | ⟨other, hother, hnone⟩ := fault_of_run hreadable hrun
    · exact ⟨_, (CheckOptions.check_eq_error_iff _).mpr ⟨found, hparse, rfl⟩⟩
    · cases hother
      rw [hkind] at hnone
      cases hnone with
      | inl hnode => cases hnode
      | inr htype => cases htype
  · rintro ⟨e, hcheck⟩
    obtain ⟨fault, hrun, -⟩ := hsame e hcheck
    exact ⟨_, hrun, rfl⟩
  · intro e hcheck
    obtain ⟨fault, hrun, rfl⟩ := hsame e hcheck
    exact hrun
  · intro e hrun
    obtain ⟨fault, -, hfault⟩ | ⟨fault, hfault, hkind⟩ := fault_of_run hreadable hrun
    · exact ⟨_, hfault, Or.inl rfl⟩
    · exact ⟨fault, hfault, Or.inr hkind⟩
  · intro output hrun
    obtain ⟨tree, hparse, hlength⟩ := exists_tree_of_run hreadable hrun
    rw [← hlength]
    exact ⟨CheckOptions.check_of_parse_ok _ hparse, tree,
      CheckOptions.check_of_parse_ok _ hparse, rfl⟩
  · intro input hinput
    refine ⟨_, register_stdin input, ?_⟩
    rw [registry, hinput]
    exact register_stdin input

theorem run_check_of_three_texts :
    let options (expression : String) : RunOptions :=
      ⟨expression, some "home", some "\x7b\"url\": \"/\"\x7d", some "\x7b\"tries\": 1\x7d"⟩
    (∃ output, (options "stdin > page, r < url").run = .ok output ∧
      output.values = [.string "home", .string "/"] ∧
      CheckOptions.check ⟨"stdin > page, r < url", false⟩ = .ok (.valid 2)) ∧
    ((options "stdin < title").run = .error (.filter (.type .missingField)) ∧
      ¬∃ e, CheckOptions.check ⟨"stdin < title", true⟩ = .error e) ∧
    (options "stdin >").run =
      .error (.filter (.parse (.source (.unexpected .assignName .eof)) ⟨1, 8⟩)) := by
  intro options
  have hgiven : Json.read "\x7b\"tries\": 1\x7d" =
      .ok (.object [("tries", .number (.natural 1))]) := by cbv
  have hrequest : Json.read "\x7b\"url\": \"/\"\x7d" =
      .ok (.object [("url", .string "/")]) := by cbv
  have hreadable (expression : String) : (options expression).Readable := by
    constructor
    · rintro text htext
      cases htext
      exact ⟨_, hgiven⟩
    · rintro text htext
      cases htext
      exact ⟨_, hrequest⟩
  have hgood : Tree.parse "stdin > page, r < url" =
      .ok [[.function "stdin" [], .assign "page"], [.function "r" [], .access "url"]] :=
    (Tree.parse_eq _).trans (by cbv)
  have hmissing : Tree.parse "stdin < title" =
      .ok [[.function "stdin" [], .access "title"]] := (Tree.parse_eq _).trans (by cbv)
  have hopen : Tree.parse "stdin >" = .error ⟨.unexpected .assignName .eof, ⟨1, 8⟩⟩ :=
    (Tree.parse_eq _).trans (by cbv)
  let start : Context := (Dictionary.empty.insert "tries" (.integer 1)).insert requestKey
    (.object [("url", .string "/")])
  have hstart (expression : String) : (options expression).initial = .ok start :=
    initial_of_given (given_of_read rfl hgiven) (addRequest_of_read rfl hrequest _)
  let functions : Registry := Registry.standard.insert "stdin" (.ofInput "home")
  have hfunctions (expression : String) : (options expression).registry = .ok functions :=
    register_stdin "home"
  have hexecute : execute functions "stdin > page, r < url" start =
      ⟨.ok [.string "home", .string "/"], start.insert "page" (.string "home")⟩ := by
    rw [execute, hgood]
    rfl
  have hfails : execute functions "stdin < title" start =
      ⟨.error (.type .missingField), start⟩ := by
    rw [execute, hmissing]
    rfl
  have hrun := run_of_execute_ok (hfunctions _) (hstart _) hexecute
  have herror := run_of_execute_error (hfunctions _) (hstart _) hfails
  obtain ⟨-, -, -, hcounts, -⟩ := run_check (hreadable "stdin > page, r < url") false
  obtain ⟨hfaults, -⟩ := run_check (hreadable "stdin < title") true
  obtain ⟨-, hsame, -⟩ := run_check (hreadable "stdin >") false
  refine ⟨⟨_, hrun, rfl, (hcounts _ hrun).1⟩, ⟨herror, ?_⟩, hsame _ ?_⟩
  · intro hcheck
    obtain ⟨fault, hfault, hkind⟩ := hfaults.mpr hcheck
    cases herror.symm.trans hfault
    cases hkind
  · exact (CheckOptions.check_eq_error_iff ⟨"stdin >", false⟩).mpr ⟨_, hopen, rfl⟩

end RunOptions

end FilterChain
