import FilterChain.Proofs.Decimal.Digits
import FilterChain.Proofs.Evaluation.Faults
import FilterChain.Proofs.Registry.History
import FilterChain.Regex.Matches

/-!
# Fields and paths

A path is followed from one useful value to the next, so a path behind another one is followed
from where the other ends, and a fault names the fields up to the first value that is missing or
not useful.  For a single field there are other ways to read it.  They check the value before
and behind the field at different stages, and come to the same.
-/

namespace FilterChain

/-! ## Paths behind paths -/

/-- A fault of a path, where other fields come before the path. -/
def FilterError.behind (front : List String) : FilterError → FilterError
  | node (.missingProperty path) => node (.missingProperty (front ++ path))
  | e => e

namespace Value

variable {value : Value} {path : List String}

theorem followFrom_cons (walked : List String) (value : Value) (name : String)
    (path : List String) :
    value.followFrom walked (name :: path) =
      match (value.field name).filter isTruthy with
      | some next => next.followFrom (walked ++ [name]) path
      | none => .error (.node (.missingProperty (walked ++ [name]))) := by
  rw [followFrom]
  cases value.field name with
  | none => rfl
  | some next => cases htruthy : next.isTruthy <;> simp [Option.filter_some, htruthy]

theorem followFrom_behind (front walked : List String) (value : Value) (path : List String) :
    value.followFrom (front ++ walked) path =
      (value.followFrom walked path).mapError (FilterError.behind front) := by
  induction path generalizing value walked with
  | nil => rfl
  | cons name path ih =>
      rw [followFrom_cons, followFrom_cons, List.append_assoc]
      cases (value.field name).filter isTruthy with
      | none => rfl
      | some next => exact ih (walked ++ [name]) next

theorem followFrom_append (walked : List String) (value : Value) (path more : List String) :
    value.followFrom walked (path ++ more) =
      (value.followFrom walked path).bind (·.followFrom (walked ++ path) more) := by
  induction path generalizing value walked with
  | nil =>
      rw [List.append_nil]
      rfl
  | cons name path ih =>
      rw [List.cons_append, followFrom_cons, followFrom_cons]
      cases (value.field name).filter isTruthy with
      | none => rfl
      | some next =>
          have hnext := ih (walked ++ [name]) next
          rwa [List.append_assoc, List.singleton_append] at hnext

theorem follow_of_truthy (htruthy : value.isTruthy) (path : List String) :
    value.follow path = value.followFrom [] path :=
  if_pos htruthy

theorem follow_of_falsy (hfalsy : value.isTruthy = false) (path : List String) :
    value.follow path = .error (.node .propertyOfNothing) := by
  simp [follow, hfalsy]

theorem follow_append (value : Value) (path more : List String) :
    value.follow (path ++ more) =
      (value.follow path).bind fun middle =>
        (middle.follow more).mapError (FilterError.behind path) := by
  cases htruthy : value.isTruthy with
  | false => rw [follow_of_falsy htruthy, follow_of_falsy htruthy, Except.bind]
  | true =>
      rw [follow_of_truthy htruthy, follow_of_truthy htruthy, followFrom_append]
      cases hmiddle : value.followFrom [] path with
      | error e => rfl
      | ok middle =>
          have hmore := followFrom_behind path [] middle more
          rw [List.append_nil] at hmore
          rw [Except.bind, Except.bind, List.nil_append, hmore,
            follow_of_truthy (isTruthy_of_followFrom htruthy hmiddle)]

/-! ## The first value that is lost -/

/-- The value that a path leads to, whether the values on the way are useful or not. -/
def reach? (value : Value) (path : List String) : Option Value :=
  path.foldlM field value

/-- The value that a path leads to is missing or not useful. -/
def Lost (value : Value) (path : List String) : Prop :=
  ∀ found, value.reach? path = some found → found.isTruthy = false

/-- The first fields of a path that lead to a missing value or to one that is not useful. -/
structure FirstLost (value : Value) (path front : List String) : Prop where
  begins : front <+: path
  lost : value.Lost front
  first : ∀ shorter, shorter <+: front → shorter ≠ front → ¬ value.Lost shorter

theorem lost_nil : value.Lost [] ↔ value.isTruthy = false := by
  simp [Lost, reach?]

theorem lost_cons_of_none {name : String} (hfield : value.field name = none) (path : List String) :
    value.Lost (name :: path) := by
  simp [Lost, reach?, hfield]

theorem lost_cons_of_some {name : String} {next : Value} (hfield : value.field name = some next)
    (path : List String) : value.Lost (name :: path) ↔ next.Lost path := by
  simp [Lost, reach?, hfield]

theorem firstLost_of_falsy (hfalsy : value.isTruthy = false) {front : List String} :
    value.FirstLost path front ↔ front = [] := by
  constructor
  · intro hfirst
    by_contra hne
    exact hfirst.first [] List.nil_prefix (Ne.symm hne) (lost_nil.mpr hfalsy)
  · rintro rfl
    exact ⟨List.nil_prefix, lost_nil.mpr hfalsy, fun shorter hshorter hne =>
      absurd (List.prefix_nil.mp hshorter) hne⟩

theorem FirstLost.ne_nil {front : List String} (hfirst : value.FirstLost path front)
    (htruthy : value.isTruthy) : front ≠ [] := by
  rintro rfl
  rw [lost_nil.mp hfirst.lost] at htruthy
  cases htruthy

/-- Behind a useful value the first field decides, or the rest of the path does. -/
theorem firstLost_cons {name : String} (htruthy : value.isTruthy) {front : List String} :
    value.FirstLost (name :: path) front ↔
      ∃ rest, front = name :: rest ∧
        match value.field name with
        | some next => next.FirstLost path rest
        | none => rest = [] := by
  have hnil : ¬ value.Lost [] := by simp [lost_nil, htruthy]
  constructor
  · intro hfirst
    obtain ⟨rest, rfl⟩ : ∃ rest, front = name :: rest := by
      rcases List.prefix_cons_iff.mp hfirst.begins with rfl | ⟨rest, rfl, -⟩
      · exact absurd hfirst.lost hnil
      · exact ⟨rest, rfl⟩
    have hbegins := (List.prefix_cons_inj name).mp hfirst.begins
    refine ⟨rest, rfl, ?_⟩
    cases hfield : value.field name with
    | none =>
        by_contra hne
        exact hfirst.first [name] ((List.prefix_cons_inj name).mpr List.nil_prefix)
          (by simpa using Ne.symm hne) (lost_cons_of_none hfield [])
    | some next =>
        refine ⟨hbegins, (lost_cons_of_some hfield rest).mp hfirst.lost, ?_⟩
        intro shorter hshorter hne hlost
        exact hfirst.first (name :: shorter) ((List.prefix_cons_inj name).mpr hshorter)
          (by simpa using hne) ((lost_cons_of_some hfield shorter).mpr hlost)
  · rintro ⟨rest, rfl, hrest⟩
    cases hfield : value.field name with
    | none =>
        rw [hfield] at hrest
        obtain rfl : rest = [] := hrest
        refine ⟨(List.prefix_cons_inj name).mpr List.nil_prefix, lost_cons_of_none hfield [], ?_⟩
        intro shorter hshorter hne
        rcases List.prefix_cons_iff.mp hshorter with rfl | ⟨tail, rfl, htail⟩
        · exact hnil
        · obtain rfl := List.prefix_nil.mp htail
          exact absurd rfl hne
    | some next =>
        rw [hfield] at hrest
        have hnext : next.FirstLost path rest := hrest
        refine ⟨(List.prefix_cons_inj name).mpr hnext.begins,
          (lost_cons_of_some hfield rest).mpr hnext.lost, ?_⟩
        intro shorter hshorter hne
        rcases List.prefix_cons_iff.mp hshorter with rfl | ⟨tail, rfl, htail⟩
        · exact hnil
        · rw [lost_cons_of_some hfield]
          exact hnext.first tail htail (by simpa using hne)

theorem followFrom_eq_error_iff (htruthy : value.isTruthy) {walked : List String}
    {e : FilterError} :
    value.followFrom walked path = .error e ↔
      ∃ front, value.FirstLost path front ∧ e = .node (.missingProperty (walked ++ front)) := by
  induction path generalizing value walked with
  | nil =>
      constructor
      · intro herror
        cases herror
      · rintro ⟨front, hfirst, -⟩
        exact absurd (List.prefix_nil.mp hfirst.begins) (hfirst.ne_nil htruthy)
  | cons name path ih =>
      simp only [followFrom_cons, firstLost_cons htruthy]
      cases value.field name with
      | none => simp [eq_comm]
      | some next =>
          cases hnext : next.isTruthy with
          | false => simp [Option.filter_some, hnext, firstLost_of_falsy hnext, eq_comm]
          | true => simp [Option.filter_some, hnext, ih hnext]

end Value

/-- The fault of a path whose first lost value these fields lead to; without any field it is the
value itself. -/
def NodeFault.ofLost : List String → NodeFault
  | [] => propertyOfNothing
  | name :: path => missingProperty (name :: path)

namespace Value

theorem follow_eq_error_iff {value : Value} {path : List String} {e : FilterError} :
    value.follow path = .error e ↔
      ∃ front, value.FirstLost path front ∧ e = .node (.ofLost front) := by
  cases htruthy : value.isTruthy with
  | false =>
      rw [follow_of_falsy htruthy]
      simp [firstLost_of_falsy htruthy, NodeFault.ofLost, eq_comm]
  | true =>
      rw [follow_of_truthy htruthy, followFrom_eq_error_iff htruthy]
      refine exists_congr fun front => and_congr_right fun hfirst => ?_
      cases front with
      | nil => exact absurd rfl (hfirst.ne_nil htruthy)
      | cons name rest => rfl

end Value

/-! ## Filters that read -/

section

variable [Regex.Engine]

namespace Filter

theorem eval_property (registry : Registry) (path : List String) (value : Value)
    (context : Context) :
    (property path).eval registry value context = ⟨value.follow path, context⟩ := by
  cases hfollow : value.follow path with
  | error e => simp [eval, apply, hfollow, Outcome.andThen]
  | ok found =>
      have htruthy := Value.isTruthy_of_follow hfollow
      simp [eval, apply, hfollow, Outcome.andThen, requireTruthy, htruthy]

theorem eval_access (registry : Registry) (name : String) (value : Value) (context : Context) :
    (access name).eval registry value context = ⟨value.access name, context⟩ := by
  cases haccess : value.access name with
  | error e => simp [eval, apply, haccess, Outcome.andThen]
  | ok found =>
      have htruthy := Value.isTruthy_of_access haccess
      simp [eval, apply, haccess, Outcome.andThen, requireTruthy, htruthy]

theorem eval_subset (registry : Registry) (entries : List SubsetEntry) (value : Value)
    (context : Context) :
    (subset entries).eval registry value context = ⟨value.subset entries, context⟩ := by
  cases hsubset : value.subset entries with
  | error e => simp [eval, apply, hsubset, Outcome.andThen]
  | ok found =>
      obtain ⟨items, rfl⟩ := Value.eq_array_of_subset hsubset
      simp [eval, apply, hsubset, Outcome.andThen, requireTruthy, Value.isTruthy]

end Filter

theorem Chain.evalFrom_property (registry : Registry) (value : Value) (context : Context)
    (path : List String) :
    Chain.evalFrom registry value context [.property path] = ⟨value.follow path, context⟩ := by
  rw [Chain.evalFrom, Filter.eval_property, Outcome.andThen]
  cases value.follow path <;> rfl

theorem Chain.evalFrom_properties (registry : Registry) (value : Value) (context : Context)
    (path more : List String) :
    Chain.evalFrom registry value context [.property path, .property more] =
      ⟨(value.follow path).bind (·.follow more), context⟩ := by
  rw [Chain.evalFrom, Filter.eval_property, Outcome.andThen]
  cases value.follow path with
  | error e => rfl
  | ok middle => exact evalFrom_property registry middle context more

end

namespace Value

/-! ## Paths as a whole -/

theorem follow_append_of_ok {value middle : Value} {path : List String}
    (hmiddle : value.follow path = .ok middle) (more : List String) :
    value.follow (path ++ more) = (middle.follow more).mapError (FilterError.behind path) := by
  rw [follow_append, hmiddle, Except.bind]

theorem follow_append_of_error {value : Value} {path : List String} {e : FilterError}
    (he : value.follow path = .error e) (more : List String) :
    value.follow (path ++ more) = .error e := by
  rw [follow_append, he, Except.bind]

theorem follow_append_eq_ok_iff {value middle found : Value} {path more : List String}
    (hmiddle : value.follow path = .ok middle) :
    value.follow (path ++ more) = .ok found ↔ middle.follow more = .ok found := by
  rw [follow_append_of_ok hmiddle]
  cases middle.follow more with
  | error e => exact iff_of_false (fun h => nomatch h) (fun h => nomatch h)
  | ok other => exact Iff.rfl

/-- A path goes on where the path before it ends, and fails as its part or as the path before it
does; as two filters the paths lead to the same value.  A fault names the first fields of a path
behind which there is no useful value. -/
theorem follow_composes [Regex.Engine] (value : Value) (path more : List String) :
    (∀ middle, value.follow path = .ok middle →
      (∀ found, value.follow (path ++ more) = .ok found ↔ middle.follow more = .ok found) ∧
      ∀ e, middle.follow more = .error e → ∃ names,
        e = .node (.missingProperty names) ∧
        value.follow (path ++ more) = .error (.node (.missingProperty (path ++ names)))) ∧
    (∀ e, value.follow path = .error e → value.follow (path ++ more) = .error e) ∧
    (∀ registry context found,
      Chain.evalFrom registry value context [.property path, .property more] =
          ⟨.ok found, context⟩ ↔
        Chain.evalFrom registry value context [.property (path ++ more)] =
          ⟨.ok found, context⟩) ∧
    ∀ e, value.follow path = .error e ↔
      ∃ front, value.FirstLost path front ∧ e = .node (.ofLost front) := by
  refine ⟨?_, fun e he => follow_append_of_error he more, ?_, fun e => follow_eq_error_iff⟩
  · intro middle hmiddle
    refine ⟨fun found => follow_append_eq_ok_iff hmiddle, ?_⟩
    intro e he
    have htruthy := isTruthy_of_follow hmiddle
    rw [follow_of_truthy htruthy] at he
    obtain ⟨names, -, rfl⟩ := followFrom_eq_error he
    refine ⟨names, rfl, ?_⟩
    rw [follow_append_of_ok hmiddle, follow_of_truthy htruthy, he]
    rfl
  · intro registry context found
    rw [Chain.evalFrom_properties, Chain.evalFrom_property, Outcome.mk.injEq, Outcome.mk.injEq]
    refine and_congr_left fun _ => ?_
    cases hmiddle : value.follow path with
    | error e => rw [follow_append_of_error hmiddle, Except.bind]
    | ok middle => exact (follow_append_eq_ok_iff hmiddle).symm

/-- The length of a text in an array, and behind it a field that numbers do not have. -/
theorem follow_composes_of_lengths :
    let value : Value := .object [("words", .array [.string "pipe", .string ""])]
    value.follow ["words", "0", "length"] = .ok (.integer 4) ∧
      value.follow (["words"] ++ ["1", "length"]) =
        .error (.node (.missingProperty ["words", "1"])) ∧
      value.follow (["words", "0", "length", "x"] ++ ["y"]) =
        .error (.node (.missingProperty ["words", "0", "length", "x"])) := by
  intro value
  have hwords : value.follow ["words"] = .ok (.array [.string "pipe", .string ""]) := by cbv
  have hlength : (Value.array [.string "pipe", .string ""]).follow ["0", "length"] =
      .ok (.integer 4) := by cbv
  have hempty : (Value.array [.string "pipe", .string ""]).follow ["1", "length"] =
      .error (.node (.missingProperty ["1"])) := by cbv
  have hnumber : value.follow ["words", "0", "length", "x"] =
      .error (.node (.missingProperty ["words", "0", "length", "x"])) := by cbv
  obtain ⟨names, hnames, hfault⟩ :=
    ((follow_composes value ["words"] ["1", "length"]).1 _ hwords).2 _ hempty
  cases hnames
  exact ⟨((follow_composes value ["words"] ["0", "length"]).1 _ hwords).1 _ |>.mpr hlength,
    hfault, (follow_composes value ["words", "0", "length", "x"] ["y"]).2.1 _ hnumber⟩

/-! ## One field -/

/-- The field of a useful value, if it is useful as well. -/
def usefulField? (value : Value) (name : String) : Option Value :=
  if value.isTruthy then (value.field name).filter isTruthy else none

def isCollection : Value → Bool
  | array _ | object _ => true
  | _ => false

theorem follow_single (value : Value) (name : String) :
    value.follow [name] = (value.usefulField? name).elim
      (.error (.node (if value.isTruthy then .missingProperty [name] else .propertyOfNothing)))
      .ok := by
  cases htruthy : value.isTruthy with
  | false => simp [follow, usefulField?, htruthy]
  | true =>
      rw [follow_of_truthy htruthy, followFrom_cons, usefulField?, if_pos htruthy]
      cases (value.field name).filter isTruthy <;> rfl

theorem access_eq (value : Value) (name : String) :
    value.access name = (value.usefulField? name).elim
      (.error (.type (if value.isTruthy then .missingField else .accessOfNothing))) .ok := by
  cases htruthy : value.isTruthy with
  | false => simp [access, usefulField?, htruthy]
  | true =>
      rw [access, usefulField?, if_pos htruthy, if_pos htruthy]
      cases value.field name with
      | none => rfl
      | some next => cases hnext : next.isTruthy <;> simp [Option.filter_some, hnext]

theorem field_of_ne (value : Value) {key : String} (hkey : key ≠ "length") :
    value.field key = value.lookup key := by
  unfold field
  split
  · exact absurd rfl hkey
  · exact absurd rfl hkey
  · rfl

theorem toList_toString_of_nonneg {n : Int64} (hn : 0 ≤ n) :
    (toString n.toInt).toList = Nat.toDigits 10 n.toInt.toNat := by
  have hnonneg : 0 ≤ n.toInt := Int64.le_iff_toInt_le.mp hn
  rw [Int.toString_eq_repr, Int.repr_eq_if, if_pos hnonneg, Nat.toList_repr]

theorem field_of_toString (value : Value) {n : Int64} (hn : 0 ≤ n) :
    value.field (toString n.toInt) = value.lookup (toString n.toInt) := by
  refine field_of_ne value ?_
  intro hlength
  have hmem : 'l' ∈ Nat.toDigits 10 n.toInt.toNat := by
    rw [← toList_toString_of_nonneg hn, hlength]
    decide
  exact absurd (Decimal.isDigit_of_mem_toDigits hmem) (by decide)

theorem subset_index {value : Value} (hvalue : value.isCollection) {n : Int64} (hn : 0 ≤ n) :
    value.subset [.index n] = .ok (.array (value.usefulField? (toString n.toInt)).toList) := by
  have htruthy : value.isTruthy := by cases value <;> first | rfl | cases hvalue
  have hsubset : value.subset [.index n] = .ok (.array ([value.itemAt n].flatten)) := by
    cases value <;> first | rfl | cases hvalue
  rw [hsubset, usefulField?, if_pos htruthy, field_of_toString value hn, List.flatten_singleton]
  rfl

end Value

namespace Filter

theorem eval_get [Regex.Engine] (value : Value) (context : Context) {name : String}
    (hname : name ≠ "") :
    (function "get" [.string name]).eval .standard value context =
      ⟨(value.usefulField? name).elim
        (.error (.type (if value.isTruthy then .emptyResult else .getOfNothing))) .ok,
        context⟩ := by
  have hfind : Registry.standard.find? "get" = some (.ofValues Function.get) :=
    Registry.find?_standard_of_mem ("get", .ofValues Function.get) (by simp [Registry.builtins])
  have hstring : (Value.string name).isTruthy = true := by simpa [Value.isTruthy] using hname
  have hget : Function.get value [.string name] =
      if value.isTruthy then .ok ((value.field name).getD .null)
      else .error (.type .getOfNothing) := by
    simp [Function.get, Option.filter_some, hstring, Value.display]
  have happly : (function "get" [.string name]).apply .standard value context =
      ⟨Function.get value [.string name], context⟩ := by
    rw [apply, Registry.call, hfind]
    rfl
  rw [eval, happly, hget, Value.usefulField?]
  cases htruthy : value.isTruthy with
  | false => rfl
  | true =>
      cases value.field name with
      | none => rfl
      | some next =>
          cases hnext : next.isTruthy <;>
            simp [Outcome.andThen, requireTruthy, Option.filter_some, hnext]

/-- A path of one field, an access and the function for fields give the same value of the field
or fail all three.  A position gives it as the only item, or nothing. -/
theorem readings_agree [Regex.Engine] (value : Value) (context : Context) {name : String}
    (hname : name ≠ "") :
    let read (filter : Filter) := filter.eval .standard value context
    (∃ found,
      read (.property [name]) = ⟨.ok found, context⟩ ∧
      read (.access name) = ⟨.ok found, context⟩ ∧
      read (.function "get" [.string name]) = ⟨.ok found, context⟩ ∧
      ∀ n : Int64, 0 ≤ n → name = toString n.toInt → value.isCollection →
        read (.subset [.index n]) = ⟨.ok (.array [found]), context⟩) ∨
    (∃ ofPath ofAccess ofGet,
      read (.property [name]) = ⟨.error (.node ofPath), context⟩ ∧
      read (.access name) = ⟨.error (.type ofAccess), context⟩ ∧
      read (.function "get" [.string name]) = ⟨.error (.type ofGet), context⟩ ∧
      ∀ n : Int64, 0 ≤ n → name = toString n.toInt → value.isCollection →
        read (.subset [.index n]) = ⟨.ok (.array []), context⟩) := by
  intro read
  have hproperty : read (.property [name]) = _ := eval_property .standard [name] value context
  have haccess : read (.access name) = _ := eval_access .standard name value context
  have hget : read (.function "get" [.string name]) = _ := eval_get value context hname
  have hsubset (n : Int64) (hn : 0 ≤ n) (htext : name = toString n.toInt)
      (hvalue : value.isCollection) :
      read (.subset [.index n]) = ⟨.ok (.array (value.usefulField? name).toList), context⟩ := by
    rw [htext, ← Value.subset_index hvalue hn]
    exact eval_subset .standard [.index n] value context
  rw [Value.follow_single] at hproperty
  rw [Value.access_eq] at haccess
  cases hfield : value.usefulField? name with
  | some found =>
      rw [hfield] at hproperty haccess hget hsubset
      exact .inl ⟨found, hproperty, haccess, hget, hsubset⟩
  | none =>
      rw [hfield] at hproperty haccess hget hsubset
      exact .inr ⟨_, _, _, hproperty, haccess, hget, hsubset⟩

/-- The second item of an array is there, but not useful. -/
theorem readings_agree_of_zero :
    let value : Value := .array [.string "a", .integer 0]
    (subset [.index 0]).eval .standard value .empty = ⟨.ok (.array [.string "a"]), .empty⟩ ∧
      (subset [.index 1]).eval .standard value .empty = ⟨.ok (.array []), .empty⟩ := by
  intro value
  have hfirst : (access "0").eval .standard value .empty = ⟨.ok (.string "a"), .empty⟩ := by
    rw [eval_access, show value.access "0" = .ok (.string "a") by cbv]
  have hsecond : (access "1").eval .standard value .empty =
      ⟨.error (.type .missingField), .empty⟩ := by
    rw [eval_access, show value.access "1" = .error (.type .missingField) by cbv]
  have hzero : "0" ≠ "" := by decide
  have hone : "1" ≠ "" := by decide
  constructor
  · obtain ⟨found, -, haccess, -, hsubset⟩ | ⟨_, _, _, -, haccess, -⟩ :=
      readings_agree value .empty hzero
    · cases hfirst.symm.trans haccess
      exact hsubset 0 (by decide) (by cbv) rfl
    · cases hfirst.symm.trans haccess
  · obtain ⟨found, -, haccess, -⟩ | ⟨_, _, _, -, -, -, hsubset⟩ :=
      readings_agree value .empty hone
    · cases hsecond.symm.trans haccess
    · exact hsubset 1 (by decide) (by cbv) rfl

end Filter

end FilterChain
