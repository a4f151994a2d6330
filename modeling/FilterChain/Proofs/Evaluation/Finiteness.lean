import Mathlib
import FilterChain.Proofs.Evaluation.Writes
import FilterChain.Proofs.Value.Json

/-!
# Finite floats

No filter computes with floats, and no built-in function returns an argument: what such a
function gives is a text, or was part of the value before it or of the request.  An evaluation
that starts with finite floats therefore never comes to others, not even through a literal that
is too large for a float.
-/

namespace FilterChain

theorem Entries.mem_of_find? {α : Type} {entries : Entries α} {key : String} {value : α}
    (hfind : entries.find? key = some value) : (key, value) ∈ entries := by
  obtain ⟨before, after, hsplit, -⟩ := List.lookup_eq_some_iff.mp hfind
  rw [hsplit]
  exact List.mem_append_right before List.mem_cons_self

/-! ## Parts of values -/

namespace Value

variable {previous value : Value}

theorem FloatsFinite.lookup {key : String} (hprevious : previous.FloatsFinite)
    (hlookup : previous.lookup key = some value) : value.FloatsFinite := by
  cases previous with
  | array items =>
      obtain ⟨n, -, hitem⟩ := Option.bind_eq_some_iff.mp hlookup
      exact floatsFinite_array.mp hprevious value (List.mem_of_getElem? hitem)
  | object fields =>
      exact floatsFinite_object.mp hprevious (key, value) (Entries.mem_of_find? hlookup)
  | _ => cases hlookup

theorem FloatsFinite.field {key : String} (hprevious : previous.FloatsFinite)
    (hfield : previous.field key = some value) : value.FloatsFinite := by
  unfold Value.field at hfield
  split at hfield
  · cases hfield
    exact floatsFinite_integer _
  · cases hfield
    exact floatsFinite_integer _
  · exact hprevious.lookup hfield

theorem FloatsFinite.getD {found : Option Value}
    (hfound : ∀ value, found = some value → value.FloatsFinite) :
    (found.getD null).FloatsFinite := by
  cases found with
  | none => exact floatsFinite_null
  | some value => exact hfound value rfl

theorem floatsFinite_strings {α : Type} (write : α → String) (xs : List α) :
    (array (xs.map fun x => string (write x))).FloatsFinite := by
  apply floatsFinite_array.mpr
  intro item hmem
  obtain ⟨x, -, rfl⟩ := List.mem_map.mp hmem
  exact floatsFinite_string (write x)

theorem FloatsFinite.followFrom {walked path : List String} (hprevious : previous.FloatsFinite)
    (hok : previous.followFrom walked path = .ok value) : value.FloatsFinite := by
  induction path generalizing previous walked with
  | nil =>
      cases hok
      exact hprevious
  | cons name path ih =>
      rw [Value.followFrom] at hok
      split at hok
      · next next hfield =>
        split at hok
        · exact ih (hprevious.field hfield) hok
        · cases hok
      · cases hok

theorem FloatsFinite.follow {path : List String} (hprevious : previous.FloatsFinite)
    (hok : previous.follow path = .ok value) : value.FloatsFinite := by
  rw [Value.follow] at hok
  split at hok
  · exact hprevious.followFrom hok
  · cases hok

theorem FloatsFinite.access {name : String} (hprevious : previous.FloatsFinite)
    (hok : previous.access name = .ok value) : value.FloatsFinite := by
  rw [Value.access] at hok
  split at hok
  · split at hok
    · next next hfield =>
      split at hok
      · cases hok
        exact hprevious.field hfield
      · cases hok
    · cases hok
  · cases hok

theorem FloatsFinite.pick {entry : SubsetEntry} {picked : List Value}
    (hprevious : previous.FloatsFinite) (hok : previous.pick entry = .ok picked) :
    ∀ item ∈ picked, item.FloatsFinite := by
  cases entry with
  | index n =>
      cases hok
      intro item hmem
      have hitem := Option.mem_toList.mp hmem
      exact hprevious.lookup (Option.filter_eq_some_iff.mp hitem).1
  | range lo hi =>
      cases previous with
      | array items =>
          cases hok
          intro item hmem
          exact floatsFinite_array.mp hprevious item (mem_of_mem_slice hmem)
      | _ => cases hok

theorem FloatsFinite.subset {entries : List SubsetEntry} (hprevious : previous.FloatsFinite)
    (hok : previous.subset entries = .ok value) : value.FloatsFinite := by
  have hpicked : (do return array (← entries.mapM previous.pick).flatten) = Except.ok value →
      value.FloatsFinite := by
    cases hpicks : entries.mapM previous.pick with
    | error fault => exact fun hnone => nomatch hnone
    | ok picks =>
        rintro ⟨⟩
        have hall := forall_of_mapM_eq_ok hpicks fun entry picked => hprevious.pick
        exact floatsFinite_array.mpr (List.forall_mem_flatten.mpr hall)
  rw [subset.eq_def] at hok
  split at hok
  · exact hpicked hok
  · exact hpicked hok
  · cases hok

theorem floatsFinite_ofHit (hit : Regex.Hit) : ∀ item ∈ ofHit hit, item.FloatsFinite := by
  have hgroups : ∀ item ∈ hit.groups.map fun group => (group.map ofChars).getD null,
      item.FloatsFinite := by
    intro item hmem
    obtain ⟨group, -, rfl⟩ := List.mem_map.mp hmem
    cases group with
    | none => exact floatsFinite_null
    | some text => exact floatsFinite_string _
  exact List.forall_mem_cons.mpr ⟨floatsFinite_string _, hgroups⟩

section

variable [Regex.Engine]

theorem floatsFinite_matchesIn (pattern : Pattern) (text : List Char) :
    (array (matchesIn pattern text)).FloatsFinite := by
  rw [matchesIn]
  split
  · exact floatsFinite_strings (fun hit : Regex.Hit => String.ofList hit.text) _
  · apply floatsFinite_array.mpr
    intro item hmem
    obtain ⟨hit, -, hitem⟩ := List.mem_flatMap.mp hmem
    exact floatsFinite_ofHit hit item hitem

theorem floatsFinite_of_matching {pattern flags : String}
    (hok : previous.matching pattern flags = .ok value) : value.FloatsFinite := by
  have hpattern : (Filter.matching pattern flags).pattern? = some pattern := rfl
  rw [matching.eq_def] at hok
  split at hok
  · next text =>
    obtain ⟨compiled, hcompiled⟩ | ⟨e, hfault, -⟩ :=
      compiled_cases (.string text) hpattern hok
    · cases hcompiled
      exact floatsFinite_matchesIn compiled text.toList
    · cases hfault
  · cases hok

theorem floatsFinite_of_replaceIn {pattern : Pattern} {replacement : String}
    (hok : replaceIn pattern replacement previous = .ok value) : value.FloatsFinite := by
  cases previous with
  | string text =>
      cases hok
      exact floatsFinite_string _
  | _ => cases hok

theorem floatsFinite_of_substitute {pattern replacement flags : String}
    (hok : previous.substitute pattern replacement flags = .ok value) : value.FloatsFinite := by
  have hpattern : (Filter.substitution pattern replacement flags).pattern? = some pattern := rfl
  rw [substitute.eq_def] at hok
  split at hok
  · next text =>
    obtain ⟨compiled, hcompiled⟩ | ⟨e, hfault, -⟩ :=
      compiled_cases (.string text) hpattern hok
    · exact floatsFinite_of_replaceIn hcompiled
    · cases hfault
  · next items =>
    obtain ⟨compiled, hcompiled⟩ | ⟨e, hfault, -⟩ :=
      compiled_cases (.array items) hpattern hok
    · cases hitems : items.mapM (replaceIn compiled replacement) with
      | ok replaced =>
          rw [hitems] at hcompiled
          cases hcompiled
          exact floatsFinite_array.mpr
            (forall_of_mapM_eq_ok hitems fun item value => floatsFinite_of_replaceIn)
      | error fault =>
          rw [hitems] at hcompiled
          cases hcompiled
    · cases hfault
  · cases hok

end

end Value

/-! ## Outcomes -/

/-- The context behind a step holds finite floats only, and its value is a good one. -/
structure Outcome.Keeps {α : Type} (good : α → Prop) (outcome : Outcome α) : Prop where
  context : outcome.context.toValue.FloatsFinite
  result : ∀ {a}, outcome.result = .ok a → good a

namespace Outcome.Keeps

variable {α β : Type} {good : α → Prop} {other : β → Prop} {outcome : Outcome α}

theorem ok {context : Context} (hcontext : context.toValue.FloatsFinite) {a : α} (ha : good a) :
    Outcome.Keeps good ⟨.ok a, context⟩ := by
  refine ⟨hcontext, ?_⟩
  intro other hok
  cases hok
  exact ha

theorem error {context : Context} (hcontext : context.toValue.FloatsFinite) (e : FilterError) :
    Outcome.Keeps good ⟨.error e, context⟩ := by
  refine ⟨hcontext, ?_⟩
  intro a hok
  cases hok

theorem andThen (hkeeps : outcome.Keeps good) {next : α → Context → Outcome β}
    (hnext : ∀ a here, good a → here.toValue.FloatsFinite → (next a here).Keeps other) :
    (outcome.andThen next).Keeps other := by
  obtain ⟨result, context⟩ := outcome
  cases result with
  | ok a => exact hnext a context (hkeeps.result rfl) hkeeps.context
  | error e => exact error hkeeps.context e

theorem map (hkeeps : outcome.Keeps good) {f : α → β} (hf : ∀ a, good a → other (f a)) :
    (outcome.map f).Keeps other := by
  obtain ⟨result, context⟩ := outcome
  cases result with
  | ok a => exact ok hkeeps.context (hf a (hkeeps.result rfl))
  | error e => exact error hkeeps.context e

end Outcome.Keeps

/-! ## Functions -/

/-- A function that comes to finite floats only, whatever its arguments hold. -/
def Function.KeepsFinite (function : Function) : Prop :=
  ∀ context previous arguments, context.toValue.FloatsFinite → previous.FloatsFinite →
    (function.call context previous arguments).Keeps Value.FloatsFinite

namespace Function

theorem ofValues_keepsFinite {f : Value → List Value → Except FilterError Value}
    (hf : ∀ previous arguments value, previous.FloatsFinite → f previous arguments = .ok value →
      value.FloatsFinite) : (ofValues f).KeepsFinite :=
  fun _ previous arguments hcontext hprevious => ⟨hcontext, hf previous arguments _ hprevious⟩

theorem ofContext_keepsFinite {f : Context → Except FilterError Value}
    (hf : ∀ context value, context.toValue.FloatsFinite → f context = .ok value →
      value.FloatsFinite) : (ofContext f).KeepsFinite :=
  fun context _ _ hcontext _ => ⟨hcontext, hf context _ hcontext⟩

variable {previous value : Value} {arguments : List Value} {context : Context}

theorem floatsFinite_of_get (hprevious : previous.FloatsFinite)
    (hok : get previous arguments = .ok value) : value.FloatsFinite := by
  rw [get] at hok
  split at hok
  · split at hok
    · cases hok
      exact Value.FloatsFinite.getD fun _ hfield => hprevious.field hfield
    · cases hok
  · cases hok

theorem floatsFinite_of_split (hok : split previous arguments = .ok value) :
    value.FloatsFinite := by
  cases previous with
  | string text =>
      cases hok
      exact Value.floatsFinite_strings String.ofList _
  | _ => cases hok

theorem floatsFinite_of_join (hok : join previous arguments = .ok value) :
    value.FloatsFinite := by
  cases previous with
  | string text =>
      cases hok
      exact Value.floatsFinite_string text
  | array items =>
      cases hok
      exact Value.floatsFinite_string _
  | _ => cases hok

theorem floatsFinite_of_request (hcontext : context.toValue.FloatsFinite)
    (hok : request context = .ok value) : value.FloatsFinite := by
  rw [request] at hok
  split at hok
  · next found hfound =>
    obtain rfl : found = value := Except.ok.inj hok
    have hlookup : context.toValue.lookup requestKey = some found :=
      (Option.filter_eq_some_iff.mp hfound).1
    exact hcontext.lookup hlookup
  · cases hok

theorem floatsFinite_of_requestField {name : String} (hcontext : context.toValue.FloatsFinite)
    (hok : requestField name context = .ok value) : value.FloatsFinite := by
  rw [requestField] at hok
  cases hrequest : request context with
  | error e => rw [hrequest] at hok; cases hok
  | ok found =>
      rw [hrequest] at hok
      cases hok
      have hfound := floatsFinite_of_request hcontext hrequest
      exact Value.FloatsFinite.getD fun _ hlookup => hfound.lookup hlookup

theorem floatsFinite_of_path (hok : path context = .ok value) : value.FloatsFinite := by
  rw [path] at hok
  cases hurl : url context with
  | error e => rw [hurl] at hok; cases hok
  | ok found =>
      rw [hurl] at hok
      cases found with
      | string text =>
          cases hok
          apply Value.FloatsFinite.getD
          intro value hvalue
          obtain ⟨path, -, rfl⟩ := Option.map_eq_some_iff.mp hvalue
          exact Value.floatsFinite_string _
      | _ =>
          cases hok
          exact Value.floatsFinite_null

end Function

def Registry.KeepsFinite (registry : Registry) : Prop :=
  ∀ name function, registry.find? name = some function → function.KeepsFinite

theorem Registry.builtins_keepsFinite : ∀ entry ∈ builtins, entry.2.KeepsFinite := by
  have hget : (Function.ofValues Function.get).KeepsFinite :=
    Function.ofValues_keepsFinite fun _ _ _ => Function.floatsFinite_of_get
  have hsplit : (Function.ofValues Function.split).KeepsFinite :=
    Function.ofValues_keepsFinite fun _ _ _ _ => Function.floatsFinite_of_split
  have hjoin : (Function.ofValues Function.join).KeepsFinite :=
    Function.ofValues_keepsFinite fun _ _ _ _ => Function.floatsFinite_of_join
  have hfield : ∀ name, (Function.ofContext (Function.requestField name)).KeepsFinite :=
    fun _ => Function.ofContext_keepsFinite fun _ _ => Function.floatsFinite_of_requestField
  have hpath : (Function.ofContext Function.path).KeepsFinite :=
    Function.ofContext_keepsFinite fun _ _ _ => Function.floatsFinite_of_path
  have hrequest : (Function.ofContext Function.request).KeepsFinite :=
    Function.ofContext_keepsFinite fun _ _ => Function.floatsFinite_of_request
  simp only [builtins, List.forall_mem_cons]
  exact ⟨hget, hsplit, hjoin, hfield "query", hfield "query", hfield "headers", hfield "headers",
    hpath, hpath, hfield "url", hfield "url", hrequest, hrequest, by simp⟩

/-! ## Evaluations -/

section

variable {registry : Registry} {previous : Value} {context : Context}

theorem Context.floatsFinite_insert {value : Value} (hcontext : context.toValue.FloatsFinite)
    (hvalue : value.FloatsFinite) (name : String) :
    Value.FloatsFinite (Context.toValue (context.insert name value)) := by
  apply Value.floatsFinite_object.mpr
  intro entry hmem
  cases Entries.mem_insert hmem with
  | inl hnew => exact hnew ▸ hvalue
  | inr hold => exact Value.floatsFinite_object.mp hcontext entry hold

theorem Context.keeps_assign (hcontext : context.toValue.FloatsFinite)
    (hprevious : previous.FloatsFinite) (name : String) :
    (context.assign previous name).Keeps Value.FloatsFinite := by
  rw [Context.assign]
  split
  · exact .ok (floatsFinite_insert hcontext hprevious name) hprevious
  · exact .error hcontext _

variable [Regex.Engine]

theorem Filter.keeps_apply (hregistry : registry.KeepsFinite) (filter : Filter)
    (hcontext : context.toValue.FloatsFinite) (hprevious : previous.FloatsFinite) :
    (filter.apply registry previous context).Keeps Value.FloatsFinite := by
  cases filter with
  | function name arguments =>
      change (registry.call name arguments previous context).Keeps _
      rw [Registry.call]
      split
      · next function hfind => exact hregistry name function hfind _ _ _ hcontext hprevious
      · exact .error hcontext _
  | property path => exact ⟨hcontext, hprevious.follow⟩
  | access name => exact ⟨hcontext, hprevious.access⟩
  | assign name => exact Context.keeps_assign hcontext hprevious name
  | subset entries => exact ⟨hcontext, hprevious.subset⟩
  | matching pattern flags => exact ⟨hcontext, Value.floatsFinite_of_matching⟩
  | substitution pattern replacement flags => exact ⟨hcontext, Value.floatsFinite_of_substitute⟩

theorem Filter.keeps_eval (hregistry : registry.KeepsFinite) (filter : Filter)
    (hcontext : context.toValue.FloatsFinite) (hprevious : previous.FloatsFinite) :
    (filter.eval registry previous context).Keeps Value.FloatsFinite := by
  apply (keeps_apply hregistry filter hcontext hprevious).andThen
  intro value here hvalue hhere
  rw [requireTruthy]
  split
  · exact .ok hhere hvalue
  · exact .error hhere _

theorem Chain.keeps_evalFrom (hregistry : registry.KeepsFinite) (chain : Chain)
    (hcontext : context.toValue.FloatsFinite) (hprevious : previous.FloatsFinite) :
    (Chain.evalFrom registry previous context chain).Keeps Value.FloatsFinite := by
  induction chain generalizing previous context with
  | nil => exact .ok hcontext hprevious
  | cons filter filters ih =>
      have hhead := Filter.keeps_eval hregistry filter hcontext hprevious
      exact hhead.andThen fun value here hvalue hhere => ih hhere hvalue

theorem Tree.keeps_eval (hregistry : registry.KeepsFinite) (tree : Tree)
    (hcontext : context.toValue.FloatsFinite) :
    (tree.eval registry context).Keeps fun values => ∀ value ∈ values, value.FloatsFinite := by
  induction tree generalizing context with
  | nil => exact .ok hcontext fun _ hmem => absurd hmem List.not_mem_nil
  | cons chain chains ih =>
      have hchain := Chain.keeps_evalFrom hregistry chain hcontext Value.floatsFinite_null
      apply hchain.andThen
      intro value here hvalue hhere
      apply (ih hhere).map
      intro values hvalues
      exact List.forall_mem_cons.mpr ⟨hvalue, hvalues⟩

end

end FilterChain
