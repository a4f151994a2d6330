import FilterChain.Evaluation
import Mathlib.Tactic

/-!
# How filters fail

A filter that calls no function can fail in a few ways only, and most of them depend on the
value that flows into it.  `Filter.Fails` lists them all.  An empty result is among them for
one filter: a substitution in a string can leave nothing of it.
-/

namespace FilterChain

theorem exists_of_mapM_eq_error {α β ε : Type} {f : α → Except ε β} {xs : List α} {e : ε}
    (herror : xs.mapM f = .error e) : ∃ x ∈ xs, f x = .error e := by
  induction xs with
  | nil => cases herror
  | cons x xs ih =>
      rw [List.mapM_cons] at herror
      cases hx : f x with
      | error fault =>
          rw [hx] at herror
          cases herror
          exact ⟨x, List.mem_cons_self, hx⟩
      | ok y =>
          rw [hx] at herror
          cases hrest : xs.mapM f with
          | error fault =>
              have hfault : fault = e := by
                rw [hrest] at herror
                exact Except.error.inj herror
              obtain ⟨other, hmem, hother⟩ := ih (hfault ▸ hrest)
              exact ⟨other, List.mem_cons_of_mem x hmem, hother⟩
          | ok ys =>
              rw [hrest] at herror
              cases herror

theorem bind_eq_ok_iff {α β ε : Type} {outcome : Except ε α} {next : α → Except ε β} {b : β} :
    outcome >>= next = .ok b ↔ ∃ a, outcome = .ok a ∧ next a = .ok b := by
  cases outcome with
  | ok a => simp [bind, Except.bind]
  | error e => simp [bind, Except.bind]

theorem mapM_eq_ok_iff {α β ε : Type} {f : α → Except ε β} {xs : List α} {ys : List β} :
    xs.mapM f = .ok ys ↔ List.Forall₂ (fun x y => f x = .ok y) xs ys := by
  induction xs generalizing ys with
  | nil =>
      rw [List.forall₂_nil_left_iff, List.mapM_nil]
      exact ⟨fun hok => (Except.ok.inj hok).symm, fun hnil => congrArg Except.ok hnil.symm⟩
  | cons x xs ih =>
      rw [List.forall₂_cons_left_iff, List.mapM_cons]
      cases hx : f x with
      | error fault => simp [bind, Except.bind]
      | ok y =>
          cases hrest : xs.mapM f with
          | error fault => simp [bind, Except.bind, ← ih, hrest]
          | ok rest => simp [bind, Except.bind, pure, Except.pure, ← ih, hrest, eq_comm]

theorem forall_of_mapM_eq_ok {α β ε : Type} {f : α → Except ε β} {xs : List α} {ys : List β}
    {P : β → Prop} (hok : xs.mapM f = .ok ys) (hf : ∀ x y, f x = .ok y → P y) :
    ∀ y ∈ ys, P y := by
  have hpairs := mapM_eq_ok_iff.mp hok
  induction hpairs with
  | nil => exact fun y hmem => nomatch hmem
  | @cons x y xs ys hxy hpairs ih =>
      exact List.forall_mem_cons.mpr ⟨hf x y hxy, ih (mapM_eq_ok_iff.mpr hpairs)⟩

namespace Pattern

theorem Options.read_eq_error {options : Options} {flags : List Char} {fault : NodeFault}
    (herror : options.read flags = .error fault) : ∃ flag, fault = .unsupportedFlag flag := by
  induction flags generalizing options with
  | nil => cases herror
  | cons flag flags ih =>
      rw [Options.read] at herror
      split at herror
      · exact ih herror
      · exact ⟨flag, (Except.error.inj herror).symm⟩

theorem compile_eq_error [Regex.Engine] {pattern flags : String} {fault : NodeFault}
    (herror : compile pattern flags = .error fault) :
    (∃ flag, fault = .unsupportedFlag flag) ∨ ∃ reason, fault = .invalidPattern pattern reason := by
  rw [compile] at herror
  cases hread : Options.standard.read flags.toList with
  | error other =>
      rw [hread] at herror
      obtain rfl : other = fault := Except.error.inj herror
      exact Or.inl (Options.read_eq_error hread)
  | ok options =>
      right
      cases hprogram : Regex.Engine.compile pattern.toList options.flags with
      | ok program => simp [hread, hprogram, bind, Except.bind] at herror
      | error reason =>
          simp only [hread, hprogram, bind, Except.bind, Except.error.injEq] at herror
          exact ⟨reason, herror.symm⟩

end Pattern

def Filter.isFunction : Filter → Bool
  | function _ _ => true
  | _ => false

def Filter.pattern? : Filter → Option String
  | matching pattern _ | substitution pattern _ _ => some pattern
  | _ => none

/-- The ways to fail of the filters that call no function, with the values on which they do. -/
inductive Filter.Fails : Filter → Value → FilterError → Prop
  | propertyOfNothing {path : List String} {previous : Value} (hfalsy : previous.isTruthy = false) :
      Fails (property path) previous (.node .propertyOfNothing)
  | missingProperty {path walked : List String} {previous : Value} (hwalked : walked <+: path) :
      Fails (property path) previous (.node (.missingProperty walked))
  | accessOfNothing {name : String} {previous : Value} (hfalsy : previous.isTruthy = false) :
      Fails (access name) previous (.type .accessOfNothing)
  | missingField {name : String} {previous : Value} :
      Fails (access name) previous (.type .missingField)
  | assignOfNothing {name : String} {previous : Value} (hfalsy : previous.isTruthy = false) :
      Fails (assign name) previous (.type .assignOfNothing)
  | subsetOfOther {entries : List SubsetEntry} {previous : Value} :
      Fails (subset entries) previous (.type .subsetOfOther)
  | rangeOfOther {entries : List SubsetEntry} {previous : Value} :
      Fails (subset entries) previous (.type .rangeOfOther)
  | matchOfOther {pattern flags : String} {previous : Value} :
      Fails (matching pattern flags) previous (.type .matchOfOther)
  | substitutionOfOther {pattern replacement flags : String} {previous : Value} :
      Fails (substitution pattern replacement flags) previous (.type .substitutionOfOther)
  | unsupportedFlag {filter : Filter} {pattern : String} {previous : Value} {flag : Char}
      (hpattern : filter.pattern? = some pattern) :
      Fails filter previous (.node (.unsupportedFlag flag))
  | invalidPattern {filter : Filter} {pattern reason : String} {previous : Value}
      (hpattern : filter.pattern? = some pattern) :
      Fails filter previous (.node (.invalidPattern pattern reason))
  | emptyResult {pattern replacement flags text : String} :
      Fails (substitution pattern replacement flags) (.string text) (.type .emptyResult)

/-! ## The values behind the filters -/

namespace Value

variable {previous value : Value} {e : FilterError}

theorem isTruthy_of_followFrom {walked path : List String} (hprevious : previous.isTruthy)
    (hok : previous.followFrom walked path = .ok value) : value.isTruthy := by
  induction path generalizing previous walked with
  | nil =>
      obtain rfl : previous = value := Except.ok.inj hok
      exact hprevious
  | cons name path ih =>
      rw [followFrom] at hok
      split at hok
      · next next hfield =>
        split at hok
        · next hnext => exact ih hnext hok
        · cases hok
      · cases hok

theorem followFrom_eq_error {walked path : List String}
    (herror : previous.followFrom walked path = .error e) :
    ∃ names, names <+: path ∧ e = .node (.missingProperty (walked ++ names)) := by
  induction path generalizing previous walked with
  | nil => cases herror
  | cons name path ih =>
      have hhere : [name] <+: name :: path := List.prefix_append [name] path
      rw [followFrom] at herror
      split at herror
      · next next hfield =>
        split at herror
        · obtain ⟨names, hnames, rfl⟩ := ih herror
          refine ⟨name :: names, (List.prefix_cons_inj name).mpr hnames, ?_⟩
          rw [List.append_assoc, List.singleton_append]
        · exact ⟨[name], hhere, (Except.error.inj herror).symm⟩
      · exact ⟨[name], hhere, (Except.error.inj herror).symm⟩

theorem isTruthy_of_follow {path : List String} (hok : previous.follow path = .ok value) :
    value.isTruthy := by
  rw [follow] at hok
  split at hok
  · next htruthy => exact isTruthy_of_followFrom htruthy hok
  · cases hok

theorem fails_of_follow {path : List String} (herror : previous.follow path = .error e) :
    (Filter.property path).Fails previous e := by
  rw [follow] at herror
  split at herror
  · obtain ⟨names, hnames, rfl⟩ := followFrom_eq_error herror
    exact .missingProperty hnames
  · next hfalsy =>
    cases herror
    exact .propertyOfNothing (Bool.not_eq_true _ ▸ hfalsy)

theorem isTruthy_of_access {name : String} (hok : previous.access name = .ok value) :
    value.isTruthy := by
  rw [access] at hok
  split at hok
  · split at hok
    · split at hok
      · next hnext =>
        cases hok
        exact hnext
      · cases hok
    · cases hok
  · cases hok

theorem fails_of_access {name : String} (herror : previous.access name = .error e) :
    (Filter.access name).Fails previous e := by
  rw [access] at herror
  split at herror
  · split at herror
    · split at herror
      · cases herror
      · cases herror
        exact .missingField
    · cases herror
      exact .missingField
  · next hfalsy =>
    cases herror
    exact .accessOfNothing (Bool.not_eq_true _ ▸ hfalsy)

theorem eq_array_of_subset {entries : List SubsetEntry}
    (hok : previous.subset entries = .ok value) : ∃ items, value = .array items := by
  have hpicked : (do return array (← entries.mapM previous.pick).flatten) = Except.ok value →
      ∃ items, value = .array items := by
    cases entries.mapM previous.pick with
    | ok items => exact fun hvalue => ⟨items.flatten, (Except.ok.inj hvalue).symm⟩
    | error fault => exact fun hvalue => nomatch hvalue
  rw [subset.eq_def] at hok
  split at hok
  · exact hpicked hok
  · exact hpicked hok
  · cases hok

theorem fails_of_pick {entry : SubsetEntry} {entries : List SubsetEntry}
    (herror : previous.pick entry = .error e) : (Filter.subset entries).Fails previous e := by
  cases entry with
  | index n => cases herror
  | range lo hi =>
      rw [pick.eq_def] at herror
      cases previous with
      | array items => cases herror
      | _ => cases herror; exact .rangeOfOther

theorem fails_of_subset {entries : List SubsetEntry}
    (herror : previous.subset entries = .error e) : (Filter.subset entries).Fails previous e := by
  have hpicked : (do return array (← entries.mapM previous.pick).flatten) = Except.error e →
      (Filter.subset entries).Fails previous e := by
    cases hpicks : entries.mapM previous.pick with
    | ok items => exact fun hnone => nomatch hnone
    | error fault =>
        intro hfault
        obtain rfl : fault = e := Except.error.inj hfault
        obtain ⟨entry, -, hentry⟩ := exists_of_mapM_eq_error hpicks
        exact fails_of_pick hentry
  rw [subset.eq_def] at herror
  split at herror
  · exact hpicked herror
  · exact hpicked herror
  · cases herror
    exact .subsetOfOther

section

variable [Regex.Engine]

/-- A filter with a pattern fails on its flags or its pattern, or goes on with the compiled
pattern. -/
theorem compiled_cases (previous : Value) {filter : Filter} {pattern flags : String}
    (hpattern : filter.pattern? = some pattern) {next : Pattern → Except FilterError Value}
    {result : Except FilterError Value}
    (hresult : (do next (← (Pattern.compile pattern flags).mapError .node)) = result) :
    (∃ compiled, next compiled = result) ∨ ∃ e, result = .error e ∧ filter.Fails previous e := by
  cases hcompile : Pattern.compile pattern flags with
  | ok compiled =>
      rw [hcompile] at hresult
      exact Or.inl ⟨compiled, hresult⟩
  | error fault =>
      right
      rw [hcompile] at hresult
      refine ⟨.node fault, hresult.symm, ?_⟩
      obtain ⟨flag, rfl⟩ | ⟨reason, rfl⟩ := Pattern.compile_eq_error hcompile
      · exact .unsupportedFlag hpattern
      · exact .invalidPattern hpattern

theorem eq_array_of_matching {pattern flags : String}
    (hok : previous.matching pattern flags = .ok value) : ∃ items, value = .array items := by
  have hpattern : (Filter.matching pattern flags).pattern? = some pattern := rfl
  rw [matching.eq_def] at hok
  split at hok
  · next text =>
    obtain ⟨compiled, hcompiled⟩ | ⟨e, hfault, -⟩ :=
      compiled_cases (.string text) hpattern hok
    · exact ⟨_, (Except.ok.inj hcompiled).symm⟩
    · cases hfault
  · cases hok

theorem fails_of_matching {pattern flags : String}
    (herror : previous.matching pattern flags = .error e) :
    (Filter.matching pattern flags).Fails previous e := by
  have hpattern : (Filter.matching pattern flags).pattern? = some pattern := rfl
  rw [matching.eq_def] at herror
  split at herror
  · obtain ⟨compiled, hcompiled⟩ | ⟨fault, hfault, hfails⟩ := compiled_cases _ hpattern herror
    · cases hcompiled
    · cases hfault
      exact hfails
  · cases herror
    exact .matchOfOther

theorem replaceIn_eq_error {pattern : Pattern} {replacement : String}
    (herror : replaceIn pattern replacement previous = .error e) :
    e = .type .substitutionOfOther := by
  cases previous with
  | string text => cases herror
  | _ => exact (Except.error.inj herror).symm

theorem eq_array_of_substitute {pattern replacement flags : String}
    (hprevious : ∀ text, previous ≠ .string text)
    (hok : previous.substitute pattern replacement flags = .ok value) :
    ∃ items, value = .array items := by
  have hpattern : (Filter.substitution pattern replacement flags).pattern? = some pattern := rfl
  rw [substitute.eq_def] at hok
  split at hok
  · next text => exact absurd rfl (hprevious text)
  · next items =>
    obtain ⟨compiled, hcompiled⟩ | ⟨e, hfault, -⟩ :=
      compiled_cases (.array items) hpattern hok
    · cases hitems : items.mapM (replaceIn compiled replacement) with
      | ok replaced =>
          rw [hitems] at hcompiled
          exact ⟨replaced, (Except.ok.inj hcompiled).symm⟩
      | error fault =>
          rw [hitems] at hcompiled
          cases hcompiled
    · cases hfault
  · cases hok

theorem fails_of_substitute {pattern replacement flags : String}
    (herror : previous.substitute pattern replacement flags = .error e) :
    (Filter.substitution pattern replacement flags).Fails previous e := by
  have hpattern : (Filter.substitution pattern replacement flags).pattern? = some pattern := rfl
  rw [substitute.eq_def] at herror
  split at herror
  · obtain ⟨compiled, hcompiled⟩ | ⟨fault, hfault, hfails⟩ := compiled_cases _ hpattern herror
    · cases hcompiled
    · cases hfault
      exact hfails
  · next items =>
    obtain ⟨compiled, hcompiled⟩ | ⟨fault, hfault, hfails⟩ := compiled_cases _ hpattern herror
    · cases hitems : items.mapM (replaceIn compiled replacement) with
      | ok replaced =>
          rw [hitems] at hcompiled
          cases hcompiled
      | error fault =>
          rw [hitems] at hcompiled
          obtain rfl : fault = e := Except.error.inj hcompiled
          obtain ⟨item, -, hitem⟩ := exists_of_mapM_eq_error hitems
          obtain rfl := replaceIn_eq_error hitem
          exact .substitutionOfOther
    · cases hfault
      exact hfails
  · cases herror
    exact .substitutionOfOther

end

end Value

/-! ## Whole filters -/

namespace Filter

variable [Regex.Engine] {registry : Registry} {filter : Filter} {previous value : Value}
  {context : Context} {e : FilterError}

theorem eval_cases (registry : Registry) (filter : Filter) (previous : Value)
    (context : Context) :
    (∃ value, (filter.apply registry previous context).result = .ok value ∧ value.isTruthy ∧
        (filter.eval registry previous context).result = .ok value) ∨
      (∃ value, (filter.apply registry previous context).result = .ok value ∧
        value.isTruthy = false ∧
        (filter.eval registry previous context).result = .error (.type .emptyResult)) ∨
      ∃ e, (filter.apply registry previous context).result = .error e ∧
        (filter.eval registry previous context).result = .error e := by
  rw [eval, Outcome.andThen]
  cases (filter.apply registry previous context).result with
  | ok value =>
      cases htruthy : value.isTruthy with
      | true => exact Or.inl ⟨value, rfl, htruthy, by simp [requireTruthy, htruthy]⟩
      | false => exact Or.inr (Or.inl ⟨value, rfl, htruthy, by simp [requireTruthy, htruthy]⟩)
  | error e => exact Or.inr (Or.inr ⟨e, rfl, rfl⟩)

/-- The value of a filter is useful. -/
theorem isTruthy_of_eval (hok : (filter.eval registry previous context).result = .ok value) :
    value.isTruthy := by
  obtain ⟨other, -, htruthy, heval⟩ | ⟨other, -, -, heval⟩ | ⟨e, -, heval⟩ :=
    eval_cases registry filter previous context
  · obtain rfl : other = value := Except.ok.inj (heval.symm.trans hok)
    exact htruthy
  · cases heval.symm.trans hok
  · cases heval.symm.trans hok

theorem eval_assign (registry : Registry) (name : String) (previous : Value) (context : Context) :
    (assign name).eval registry previous context =
      if previous.isTruthy then ⟨.ok previous, context.insert name previous⟩
      else ⟨.error (.type .assignOfNothing), context⟩ := by
  by_cases htruthy : previous.isTruthy
  · simp [eval, apply, Context.assign, Outcome.andThen, requireTruthy, htruthy]
  · simp [eval, apply, Context.assign, Outcome.andThen, htruthy]

/-- Only a function, or a substitution in a string, gives a value that is not useful. -/
theorem eq_string_of_apply (hfilter : filter.isFunction = false)
    (hok : (filter.apply registry previous context).result = .ok value)
    (hfalsy : value.isTruthy = false) :
    ∃ pattern replacement flags text,
      filter = substitution pattern replacement flags ∧ previous = .string text := by
  -- An array is useful even if it is empty, so what gives arrays is out of the question.
  have harray : ¬ ∃ items, value = .array items := by
    rintro ⟨items, rfl⟩
    cases hfalsy
  cases filter with
  | function name arguments => cases hfilter
  | property path => cases (Value.isTruthy_of_follow hok).symm.trans hfalsy
  | access name => cases (Value.isTruthy_of_access hok).symm.trans hfalsy
  | assign name =>
      change (context.assign previous name).result = _ at hok
      rw [Context.assign] at hok
      split at hok
      · next htruthy =>
        obtain rfl : previous = value := Except.ok.inj hok
        cases htruthy.symm.trans hfalsy
      · cases hok
  | subset entries => exact absurd (Value.eq_array_of_subset hok) harray
  | matching pattern flags => exact absurd (Value.eq_array_of_matching hok) harray
  | substitution pattern replacement flags =>
      by_cases hstring : ∃ text, previous = .string text
      · obtain ⟨text, rfl⟩ := hstring
        exact ⟨pattern, replacement, flags, text, rfl, rfl⟩
      · have hother : ∀ text, previous ≠ .string text := fun text heq => hstring ⟨text, heq⟩
        exact absurd (Value.eq_array_of_substitute hother hok) harray

theorem fails_of_apply (hfilter : filter.isFunction = false)
    (herror : (filter.apply registry previous context).result = .error e) :
    filter.Fails previous e := by
  cases filter with
  | function name arguments => cases hfilter
  | property path => exact Value.fails_of_follow herror
  | access name => exact Value.fails_of_access herror
  | assign name =>
      change (context.assign previous name).result = _ at herror
      rw [Context.assign] at herror
      split at herror
      · cases herror
      · next hfalsy =>
        cases herror
        exact .assignOfNothing (Bool.not_eq_true _ ▸ hfalsy)
  | subset entries => exact Value.fails_of_subset herror
  | matching pattern flags => exact Value.fails_of_matching herror
  | substitution pattern replacement flags => exact Value.fails_of_substitute herror

/-- Every failure of a filter that calls no function is one of those listed. -/
theorem fails_of_eval (hfilter : filter.isFunction = false)
    (herror : (filter.eval registry previous context).result = .error e) :
    filter.Fails previous e := by
  obtain ⟨value, -, -, heval⟩ | ⟨value, happly, hfalsy, heval⟩ | ⟨fault, happly, heval⟩ :=
    eval_cases registry filter previous context
  · cases heval.symm.trans herror
  · obtain ⟨pattern, replacement, flags, text, rfl, rfl⟩ :=
      eq_string_of_apply hfilter happly hfalsy
    cases heval.symm.trans herror
    exact .emptyResult
  · obtain rfl : fault = e := Except.error.inj (heval.symm.trans herror)
    exact fails_of_apply hfilter happly

end Filter

end FilterChain
