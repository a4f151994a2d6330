import FilterChain.Regex.Matches
import FilterChain.Value.Behaviour
import Mathlib

/-!
# Flags and the order of faults

Each supported flag turns something on, and nothing turns it off again.  So flags that are all
supported count as a set, in which `u` stands for nothing.  Of flags that are not all supported the
first one that is not is the fault, and it comes before any fault of the pattern or of an item, but
behind that of a value that no pattern can be applied to.
-/

namespace FilterChain

namespace Pattern

/-- The flags that a pattern may have. -/
def supported : List Char := ['g', 'i', 'm', 's', 'u']

namespace Options

/-- The options with all that these flags turn on. -/
def turnOn (options : Options) (flags : List Char) : Options where
  global := options.global || flags.contains 'g'
  flags :=
    { options.flags with
      ignoreCase := options.flags.ignoreCase || flags.contains 'i'
      multiLine := options.flags.multiLine || flags.contains 'm'
      dotAll := options.flags.dotAll || flags.contains 's' }

theorem turnOn_nil (options : Options) : options.turnOn [] = options := by
  simp [turnOn]

theorem turnOn_cons (options : Options) (flag : Char) (flags : List Char) :
    options.turnOn (flag :: flags) = (options.turnOn [flag]).turnOn flags := by
  simp [turnOn, Bool.or_assoc]

/-- The order and the number of flags have no influence, nor has `u`. -/
theorem turnOn_congr {first second : List Char}
    (hsame : ∀ c, c ≠ 'u' → (c ∈ first ↔ c ∈ second)) (options : Options) :
    options.turnOn first = options.turnOn second := by
  have hcontains : ∀ c, c ≠ 'u' → first.contains c = second.contains c := by
    intro c hc
    rw [Bool.eq_iff_iff, List.contains_iff_mem, List.contains_iff_mem]
    exact hsame c hc
  have hg := hcontains 'g' (by decide)
  have hi := hcontains 'i' (by decide)
  have hm := hcontains 'm' (by decide)
  have hs := hcontains 's' (by decide)
  rw [turnOn, turnOn, hg, hi, hm, hs]

theorem add?_eq (options : Options) (flag : Char) :
    options.add? flag = if flag ∈ supported then some (options.turnOn [flag]) else none := by
  unfold add?
  split
  case h_6 hg hi hm hs hu =>
    have hother : flag ∉ supported := by
      simp only [supported, List.mem_cons, List.not_mem_nil, or_false, not_or]
      exact ⟨hg, hi, hm, hs, hu⟩
    rw [if_neg hother]
  all_goals simp [supported, turnOn]

/-- Flags are read as a whole, or the first one that is not supported is the fault. -/
theorem read_eq (options : Options) (flags : List Char) :
    options.read flags =
      match flags.find? (· ∉ supported) with
      | none => .ok (options.turnOn flags)
      | some flag => .error (.unsupportedFlag flag) := by
  induction flags generalizing options with
  | nil => rw [turnOn_nil]; rfl
  | cons flag flags ih =>
      rw [read, add?_eq]
      by_cases hflag : flag ∈ supported
      · simp only [hflag, if_true, ih, ← turnOn_cons, List.find?_cons, not_true_eq_false,
          decide_false]
      · simp only [hflag, if_false, List.find?_cons, not_false_eq_true, decide_true]

end Options

theorem find?_of_supported {flags : List Char} (hflags : ∀ c ∈ flags, c ∈ supported) :
    flags.find? (· ∉ supported) = none := by
  rw [List.find?_eq_none]
  intro c hc
  simpa using hflags c hc

section

variable [Regex.Engine] {flags : String}

theorem compile_congr {first second : String} (hfirst : ∀ c ∈ first.toList, c ∈ supported)
    (hsecond : ∀ c ∈ second.toList, c ∈ supported)
    (hsame : ∀ c, c ≠ 'u' → (c ∈ first.toList ↔ c ∈ second.toList)) (pattern : String) :
    compile pattern first = compile pattern second := by
  have hread : Options.standard.read first.toList = Options.standard.read second.toList := by
    rw [Options.read_eq, Options.read_eq, find?_of_supported hfirst, find?_of_supported hsecond,
      Options.turnOn_congr hsame]
  rw [compile, compile, hread]

theorem compile_of_unsupported {flag : Char}
    (hflag : flags.toList.find? (· ∉ supported) = some flag) (pattern : String) :
    compile pattern flags = .error (.unsupportedFlag flag) := by
  rw [compile, Options.read_eq, hflag]
  rfl

end

end Pattern

namespace Value

open Pattern

section

variable [Regex.Engine]

theorem matching_congr {pattern first second : String}
    (hcompile : Pattern.compile pattern first = Pattern.compile pattern second) (value : Value) :
    value.matching pattern first = value.matching pattern second := by
  cases value with
  | string text => rw [matching, matching, hcompile]
  | _ => rfl

theorem substitute_congr {pattern first second : String}
    (hcompile : Pattern.compile pattern first = Pattern.compile pattern second) (value : Value)
    (replacement : String) :
    value.substitute pattern replacement first = value.substitute pattern replacement second := by
  cases value with
  | string text => rw [substitute, substitute, hcompile]
  | array items => rw [substitute, substitute, hcompile]
  | _ => rfl

/-- Flags count as a set without `u`.  An unsupported flag is reported before the pattern and the
items are looked at, and a value of the wrong type before any of them. -/
theorem flags_and_faults :
    (∀ first second : String, (∀ c ∈ first.toList, c ∈ supported) →
      (∀ c ∈ second.toList, c ∈ supported) →
      (∀ c, c ≠ 'u' → (c ∈ first.toList ↔ c ∈ second.toList)) →
      ∀ (value : Value) (pattern replacement : String),
        value.matching pattern first = value.matching pattern second ∧
        value.substitute pattern replacement first =
          value.substitute pattern replacement second) ∧
    (∀ (flags : String) (flag : Char), flags.toList.find? (· ∉ supported) = some flag →
      ∀ pattern replacement : String,
        (∀ text, (string text).matching pattern flags = .error (.node (.unsupportedFlag flag)) ∧
          (string text).substitute pattern replacement flags =
            .error (.node (.unsupportedFlag flag))) ∧
        ∀ items, (array items).substitute pattern replacement flags =
          .error (.node (.unsupportedFlag flag))) ∧
    ∀ (value : Value) (pattern replacement flags : String), (∀ text, value ≠ string text) →
      value.matching pattern flags = .error (.type .matchOfOther) ∧
      ((∀ items, value ≠ array items) →
        value.substitute pattern replacement flags = .error (.type .substitutionOfOther)) := by
  refine ⟨?_, ?_, ?_⟩
  · intro first second hfirst hsecond hsame value pattern replacement
    have hcompile := compile_congr hfirst hsecond hsame pattern
    exact ⟨matching_congr hcompile value, substitute_congr hcompile value replacement⟩
  · intro flags flag hflag pattern replacement
    have hcompile := compile_of_unsupported hflag pattern
    refine ⟨?_, ?_⟩
    · intro text
      rw [matching, substitute, hcompile]
      exact ⟨rfl, rfl⟩
    · intro items
      rw [substitute, hcompile]
      rfl
  · intro value pattern replacement flags hstring
    cases value with
    | string text => exact absurd rfl (hstring text)
    | array items => exact ⟨rfl, fun harray => absurd rfl (harray items)⟩
    | _ => exact ⟨rfl, fun _ => rfl⟩

end

/-- Flags twice and with a `u` between them, and then two wrong flags, a wrong pattern and wrong
values at once. -/
theorem flags_and_faults_of_several_faults :
    ((string "aBab").matching "b" "gi" = (string "aBab").matching "b" "iugg" ∧
      (string "aBab").substitute "b" "c" "gi" = (string "aBab").substitute "b" "c" "iugg") ∧
    "gxy".toList.find? (· ∉ supported) = some 'x' ∧
    (string "").matching "(" "gxy" = .error (.node (.unsupportedFlag 'x')) ∧
    (array [null]).substitute "(" "" "gxy" = .error (.node (.unsupportedFlag 'x')) ∧
    null.matching "(" "gxy" = .error (.type .matchOfOther) ∧
    null.substitute "(" "" "gxy" = .error (.type .substitutionOfOther) := by
  have hsame : ∀ c, c ≠ 'u' → (c ∈ "gi".toList ↔ c ∈ "iugg".toList) := by
    intro c hc
    simp [hc, or_comm]
  have hflag : "gxy".toList.find? (· ∉ supported) = some 'x' := by decide
  have horder := flags_and_faults.1 "gi" "iugg" (by simp [supported]) (by simp [supported]) hsame
  have hwrong := flags_and_faults.2.1 "gxy" 'x' hflag "(" ""
  have hnull := flags_and_faults.2.2 null "(" "" "gxy" (by simp)
  exact ⟨horder _ _ _, hflag, (hwrong.1 "").1, hwrong.2 _, hnull.1, hnull.2 (by simp)⟩

end Value

end FilterChain
