import FilterChain.Command.Run
import FilterChain.Proofs.Evaluation.Finiteness
import FilterChain.Proofs.Evaluation.Threading
import FilterChain.Proofs.Tree.RoundTrip
import FilterChain.Regex.Matches

/-!
# What a run puts out

A run starts from JSON, so its floats are finite, and they stay so.  That is why its output
loses nothing: read back, it gives the values of the chains and the context behind them.  Only
the request is left out of the context, wherever it came from.
-/

namespace FilterChain

theorem Function.ofInput_keepsFinite (input : String) : (ofInput input).KeepsFinite :=
  fun _ _ _ hcontext _ => .ok hcontext (Value.floatsFinite_string input)

theorem Value.read_of_read {text : String} {json : Json} (hread : Json.read text = .ok json) :
    Value.read text = .ok (.ofJson json) := by
  rw [read, hread]

namespace RunOptions

variable {options : RunOptions} {context : Context}

/-- The name of the function that gives the input is not taken. -/
theorem register_stdin (input : String) :
    Registry.standard.register "stdin" (.ofInput input) =
      .ok (Registry.standard.insert "stdin" (.ofInput input)) := by
  rfl

/-- A run always has its functions. -/
theorem exists_registry (options : RunOptions) : ∃ registry, options.registry = .ok registry := by
  rw [registry]
  split
  · next input _ => exact ⟨_, register_stdin input⟩
  · exact ⟨_, rfl⟩

/-- The functions of a run are the built-in ones, and one that gives the input. -/
theorem forall_registry {P : Function → Prop} (hbuiltins : ∀ entry ∈ Registry.builtins, P entry.2)
    (hinput : ∀ input, P (.ofInput input)) {registry : Registry}
    (hregistry : options.registry = .ok registry) :
    ∀ name function, registry.find? name = some function → P function := by
  have hstandard : ∀ name function, Registry.standard.find? name = some function → P function :=
    fun name function hfind => hbuiltins (name, function) (Dictionary.mem_of_find?_ofEntries hfind)
  intro name function hfind
  rw [RunOptions.registry] at hregistry
  split at hregistry
  · next input _ =>
    cases (register_stdin input).symm.trans hregistry
    rw [Dictionary.find?_insert] at hfind
    split at hfind
    · cases hfind
      exact hinput input
    · exact hstandard name function hfind
  · cases hregistry
    exact hstandard name function hfind

theorem registry_keepsFinite {registry : Registry} (hregistry : options.registry = .ok registry) :
    registry.KeepsFinite :=
  forall_registry Registry.builtins_keepsFinite Function.ofInput_keepsFinite hregistry

/-! ## Where a run starts -/

/-- The context that is given along with an expression. -/
def given (options : RunOptions) : Except CommandError Context :=
  match options.context with
  | some text => Context.read text
  | none => .ok Dictionary.empty

/-- Stores the request that is given along with an expression. -/
def addRequest (options : RunOptions) (context : Context) : Except CommandError Context :=
  match options.request with
  | some text => do return context.insert requestKey (← Value.read text)
  | none => .ok context

theorem initial_eq (options : RunOptions) :
    options.initial = options.given >>= options.addRequest := by
  obtain ⟨expression, input, request, context⟩ := options
  cases context with
  | some text => rfl
  | none => rfl

theorem initial_of_given {start : Context} (hgiven : options.given = .ok start)
    (hadd : options.addRequest start = .ok context) : options.initial = .ok context := by
  rw [initial_eq, hgiven]
  exact hadd

theorem given_of_read {text : String} {fields : List (String × Json)}
    (hcontext : options.context = some text) (hread : Json.read text = .ok (.object fields)) :
    options.given = .ok (Dictionary.ofEntries (Value.ofJsonFields fields)) := by
  rw [given, hcontext]
  change Context.read text = _
  rw [Context.read, Value.read_of_read hread]
  rfl

theorem addRequest_of_read {text : String} {json : Json} (hrequest : options.request = some text)
    (hread : Json.read text = .ok json) (context : Context) :
    options.addRequest context = .ok (context.insert requestKey (.ofJson json)) := by
  rw [addRequest, hrequest]
  change (do return context.insert requestKey (← Value.read text)) = _
  rw [Value.read_of_read hread]
  rfl

theorem floatsFinite_of_read {text : String} {value : Value} (hread : Value.read text = .ok value) :
    value.FloatsFinite := by
  rw [Value.read] at hread
  split at hread
  · next json _ =>
    cases hread
    exact Value.floatsFinite_ofJson json
  · cases hread

theorem floatsFinite_insertAll {entries : Entries Value} (hcontext : context.toValue.FloatsFinite)
    (hentries : ∀ entry ∈ entries, entry.2.FloatsFinite) :
    Value.FloatsFinite (Context.toValue (context.insertAll entries)) := by
  induction entries generalizing context with
  | nil => exact hcontext
  | cons entry entries ih =>
      obtain ⟨hentry, hrest⟩ := List.forall_mem_cons.mp hentries
      exact ih (Context.floatsFinite_insert hcontext hentry entry.1) hrest

theorem floatsFinite_empty : Value.FloatsFinite (Context.toValue Dictionary.empty) :=
  Value.floatsFinite_object.mpr fun _ hmem => nomatch hmem

theorem floatsFinite_of_readContext {text : String} (hread : Context.read text = .ok context) :
    context.toValue.FloatsFinite := by
  obtain ⟨value, hvalue, hfields⟩ := bind_eq_ok_iff.mp hread
  have hfinite := floatsFinite_of_read hvalue
  cases value with
  | object fields =>
      cases hfields
      exact floatsFinite_insertAll floatsFinite_empty (Value.floatsFinite_object.mp hfinite)
  | _ => cases hfields

theorem floatsFinite_given (hgiven : options.given = .ok context) :
    context.toValue.FloatsFinite := by
  rw [given] at hgiven
  split at hgiven
  · exact floatsFinite_of_readContext hgiven
  · cases hgiven
    exact floatsFinite_empty

theorem floatsFinite_addRequest {start : Context} (hstart : start.toValue.FloatsFinite)
    (hadd : options.addRequest start = .ok context) : context.toValue.FloatsFinite := by
  rw [addRequest] at hadd
  split at hadd
  · obtain ⟨request, hread, hinsert⟩ := bind_eq_ok_iff.mp hadd
    cases hinsert
    exact Context.floatsFinite_insert hstart (floatsFinite_of_read hread) requestKey
  · cases hadd
    exact hstart

theorem floatsFinite_initial (hinitial : options.initial = .ok context) :
    context.toValue.FloatsFinite := by
  rw [initial_eq] at hinitial
  obtain ⟨start, hgiven, hadd⟩ := bind_eq_ok_iff.mp hinitial
  exact floatsFinite_addRequest (floatsFinite_given hgiven) hadd

theorem floatsFinite_dropRequest (hcontext : context.toValue.FloatsFinite) :
    context.dropRequest.toValue.FloatsFinite := by
  apply Value.floatsFinite_object.mpr
  intro entry hmem
  exact Value.floatsFinite_object.mp hcontext entry (List.mem_of_mem_filter hmem)

/-! ## What a run puts out -/

section

variable [Regex.Engine]

section

variable {registry : Registry} (hregistry : options.registry = .ok registry)
include hregistry

theorem run_of_execute_ok {values : List Value} {final : Context}
    (hinitial : options.initial = .ok context)
    (hexecute : execute registry options.expression context = ⟨.ok values, final⟩) :
    options.run = .ok ⟨values.map Value.toJson, final.dropRequest.toValue.toJson⟩ := by
  rw [run, hregistry, hinitial]
  simp only [Except.mapError, bind, Except.bind, hexecute]
  rfl

theorem run_of_execute_error {e : FilterError} {final : Context}
    (hinitial : options.initial = .ok context)
    (hexecute : execute registry options.expression context = ⟨.error e, final⟩) :
    options.run = .error (.filter e) := by
  rw [run, hregistry, hinitial]
  simp only [Except.mapError, bind, Except.bind, hexecute]
  rfl

theorem exists_of_run_eq_ok {output : RunOutput} (hrun : options.run = .ok output) :
    ∃ context values final, options.initial = .ok context ∧
      execute registry options.expression context = ⟨.ok values, final⟩ ∧
      output = ⟨values.map Value.toJson, final.dropRequest.toValue.toJson⟩ := by
  rw [run, hregistry] at hrun
  obtain ⟨_, hsame, hrun⟩ := bind_eq_ok_iff.mp hrun
  cases hsame
  obtain ⟨context, hinitial, houtput⟩ := bind_eq_ok_iff.mp hrun
  generalize hexecute : execute registry options.expression context = outcome at houtput
  obtain ⟨result, final⟩ := outcome
  cases result with
  | error e => cases houtput
  | ok values =>
      cases houtput
      exact ⟨context, values, final, hinitial, hexecute, rfl⟩

end

theorem isTruthy_of_execute {registry : Registry} {text : String} {values : List Value}
    {final : Context} (hexecute : execute registry text context = ⟨.ok values, final⟩) :
    ∀ value ∈ values, value.isTruthy := by
  rw [execute] at hexecute
  split at hexecute
  · next tree hparse =>
    have hchains : ∀ chain ∈ tree, chain ≠ [] :=
      fun chain hmem => ((Tree.wellFormed_of_parse hparse).2 chain hmem).1
    exact Tree.isTruthy_of_eval hexecute hchains
  · cases hexecute

theorem keeps_execute {registry : Registry} (hregistry : registry.KeepsFinite) (text : String)
    (hcontext : context.toValue.FloatsFinite) :
    (execute registry text context).Keeps fun values => ∀ value ∈ values, value.FloatsFinite := by
  rw [execute]
  split
  · exact Tree.keeps_eval hregistry _ hcontext
  · exact .error hcontext _

/-- The output of a run can be read back: it gives the values of the chains, none of which is
empty, and the context behind them without the request. -/
theorem ofJson_of_run {output : RunOutput} (hrun : options.run = .ok output) :
    ∃ registry context values final,
      options.registry = .ok registry ∧ options.initial = .ok context ∧
      execute registry options.expression context = ⟨.ok values, final⟩ ∧
      (∀ value ∈ values, value.FloatsFinite) ∧ final.toValue.FloatsFinite ∧
      output.values.map Value.ofJson = values ∧
      Value.ofJson output.context = final.dropRequest.toValue ∧
      (∀ key, final.dropRequest.find? key =
        if key = requestKey then none else final.find? key) ∧
      (∃ fields, output.context = .object fields ∧ Entries.find? fields requestKey = none) ∧
      ∀ value ∈ output.values, ¬ value.Blank := by
  obtain ⟨registry, hregistry⟩ := exists_registry options
  obtain ⟨context, values, final, hinitial, hexecute, rfl⟩ := exists_of_run_eq_ok hregistry hrun
  have hstart := floatsFinite_initial hinitial
  have hkeeps := keeps_execute (registry_keepsFinite hregistry) options.expression hstart
  rw [hexecute] at hkeeps
  have hvalues : ∀ value ∈ values, value.FloatsFinite := hkeeps.result rfl
  have hback : ∀ value ∈ values, Value.ofJson value.toJson = value :=
    fun value hmem => Value.ofJson_toJson_of_floatsFinite (hvalues value hmem)
  have hdropped := floatsFinite_dropRequest hkeeps.context
  have hnone : final.dropRequest.find? requestKey = none := by
    rw [Context.dropRequest, Dictionary.find?_erase, if_pos rfl]
  refine ⟨registry, context, values, final, hregistry, hinitial, hexecute, hvalues, hkeeps.context,
    ?_, ?_, ?_, ?_, ?_⟩
  · rw [List.map_map]
    exact (List.map_congr_left hback).trans values.map_id
  · exact Value.ofJson_toJson_of_floatsFinite hdropped
  · exact Dictionary.find?_erase final requestKey
  · refine ⟨Value.toJsonFields final.dropRequest.entries, rfl, ?_⟩
    rw [Value.find?_toJsonFields]
    exact Option.map_eq_none_iff.mpr hnone
  · intro json hmem hblank
    obtain ⟨value, hvalue, rfl⟩ := List.mem_map.mp hmem
    have htruthy := isTruthy_of_execute hexecute value hvalue
    have hfalsy := Value.isTruthy_eq_false_of_blank (hvalues value hvalue) hblank
    cases htruthy.symm.trans hfalsy

end

/-- The request is replaced on the way, and the context starts with a whole number that is read
as a float. -/
theorem ofJson_of_run_of_replaced_request :
    let options : RunOptions := ⟨"r < price > _req, r > copy", none,
      some "\x7b\"url\": \"/a\", \"price\": 3\x7d",
      some "\x7b\"n\": 18446744073709551615\x7d"⟩
    ∃ output, options.run = .ok output ∧
      output.values.map Value.ofJson = [.integer 3, .integer 3] ∧
      Value.ofJson output.context =
        .object [("copy", .integer 3), ("n", .float (18446744073709551615 : UInt64).toFloat)] := by
  intro options
  have hgiven : Json.read "\x7b\"n\": 18446744073709551615\x7d" =
      .ok (.object [("n", .number (.natural 18446744073709551615))]) := by cbv
  have hrequest : Json.read "\x7b\"url\": \"/a\", \"price\": 3\x7d" =
      .ok (.object [("price", .number (.natural 3)), ("url", .string "/a")]) := by cbv
  have hparse : Tree.parse "r < price > _req, r > copy" =
      .ok [[.function "r" [], .access "price", .assign "_req"],
        [.function "r" [], .assign "copy"]] := (Tree.parse_eq _).trans (by cbv)
  let start : Context := (Dictionary.empty.insert "n"
    (.float (18446744073709551615 : UInt64).toFloat)).insert requestKey
      (.object [("price", .integer 3), ("url", .string "/a")])
  let final : Context := (start.insert requestKey (.integer 3)).insert "copy" (.integer 3)
  have hstart : options.initial = .ok start :=
    initial_of_given (given_of_read rfl hgiven) (addRequest_of_read rfl hrequest _)
  have hexecute : execute .standard options.expression start =
      ⟨.ok [.integer 3, .integer 3], final⟩ := by
    rw [execute, hparse]
    rfl
  have hrun := run_of_execute_ok rfl hstart hexecute
  obtain ⟨registry, context, values, last, hregistry, hinitial, hlast, -, -, hvalues, hcontext, -⟩ :=
    ofJson_of_run hrun
  obtain rfl : Registry.standard = registry := Except.ok.inj hregistry
  obtain rfl : start = context := Except.ok.inj (hstart.symm.trans hinitial)
  obtain ⟨rfl, rfl⟩ : [Value.integer 3, .integer 3] = values ∧ final = last := by
    have hsame := hexecute.symm.trans hlast
    cases hsame
    exact ⟨rfl, rfl⟩
  exact ⟨_, hrun, hvalues, hcontext.trans rfl⟩

end RunOptions

end FilterChain
