import FilterChain.Regex.Meaning
import FilterChain.Regex.Search

/-!
# Matches in a text

Each hit is searched for behind the one before it, and an empty match where that one ends does
not count.  A pattern is refused if it cannot be read, if it has no meaning, or if its code would
be too large.
-/

namespace FilterChain.Regex

namespace Hit

/-- The part of a text between the places that two slots hold. -/
def slice? (text : List Char) (slots : List (Nat × Nat)) (group : Nat) : Option (List Char) := do
  let start ← slots.lookup (2 * group)
  let stop ← slots.lookup (2 * group + 1)
  return (text.drop start).take (stop - start)

def ofFound (text : List Char) (groups : Nat) (found : Found) : Hit :=
  let tail := text.drop found.start
  { gap := text.take found.start
    text := tail.take (found.stop - found.start)
    groups := (List.range groups).map fun i => slice? text found.slots (i + 1)
    rest := tail.drop (found.stop - found.start) }

theorem ofFound_append (text : List Char) (groups : Nat) (found : Found) :
    (ofFound text groups found).gap ++ (ofFound text groups found).text ++
      (ofFound text groups found).rest = text := by
  simp only [ofFound, List.append_assoc, List.take_append_drop]

/-- The character in front of the rest. -/
def last? (hit : Hit) (before : Option Char) : Option Char :=
  ((hit.gap ++ hit.text).getLast?).or before

end Hit

namespace Program

def hit? (program : Program) (before : Option Char) (text : List Char) : Option Hit :=
  (program.find? before text).map (Hit.ofFound text program.groups)

theorem append_of_hit? {program : Program} {before : Option Char} {text : List Char} {hit : Hit}
    (h : program.hit? before text = some hit) : hit.gap ++ hit.text ++ hit.rest = text := by
  obtain ⟨found, _, rfl⟩ := Option.map_eq_some_iff.1 h
  exact Hit.ofFound_append text program.groups found

/-- The next hit, where `behindHit` holds if another one ends right before the text. -/
def nextHit? (program : Program) (before : Option Char) (behindHit : Bool) (text : List Char) :
    Option Hit :=
  match program.hit? before text with
  | none => none
  | some hit =>
    if behindHit && (hit.gap ++ hit.text).isEmpty then
      match text with
      | [] => none
      | c :: text =>
        (program.hit? (some c) text).map fun hit => { hit with gap := c :: hit.gap }
    else some hit

theorem append_of_nextHit? {program : Program} {before : Option Char} {behindHit : Bool}
    {text : List Char} {hit : Hit} (h : program.nextHit? before behindHit text = some hit) :
    hit.gap ++ hit.text ++ hit.rest = text := by
  unfold nextHit? at h
  split at h
  · simp at h
  · next first hfirst =>
    split at h
    · split at h
      · simp at h
      · obtain ⟨second, hsecond, rfl⟩ := Option.map_eq_some_iff.1 h
        simpa using append_of_hit? hsecond
    · cases h
      exact append_of_hit? hfirst

/-- A hit behind another takes some text or lies behind some. -/
theorem nextHit?_ne_nil {program : Program} {before : Option Char} {text : List Char} {hit : Hit}
    (h : program.nextHit? before true text = some hit) : hit.gap ++ hit.text ≠ [] := by
  unfold nextHit? at h
  split at h
  · simp at h
  · split at h
    · split at h
      · simp at h
      · obtain ⟨second, _, rfl⟩ := Option.map_eq_some_iff.1 h
        simp
    · next hcond =>
      cases h
      simpa using hcond

/-- All hits, and the text behind the last one. -/
def hitsFrom (program : Program) (before : Option Char) (behindHit : Bool) (text : List Char) :
    List Hit × List Char :=
  match _found : program.nextHit? before behindHit text with
  | none => ([], text)
  | some hit =>
    let (hits, tail) := hitsFrom program (hit.last? before) true hit.rest
    (hit :: hits, tail)
termination_by (text.length, if behindHit then 0 else 1)
decreasing_by
  have happend := congrArg List.length (append_of_nextHit? _found)
  cases behindHit with
  | false =>
    simp only [List.length_append] at happend
    by_cases hlength : hit.rest.length = text.length
    · simp [Prod.lex_def, hlength]
    · simp only [Prod.lex_def]
      omega
  | true =>
    have hne := List.length_pos_iff.2 (nextHit?_ne_nil _found)
    simp only [List.length_append] at happend hne
    simp only [Prod.lex_def]
    omega

/-- All hits in a text, and the text behind the last one. -/
def hits (program : Program) (text : List Char) : List Hit × List Char :=
  program.hitsFrom none false text

variable {program : Program}

theorem length_groups_of_hit? {before : Option Char} {text : List Char} {hit : Hit}
    (hhit : program.hit? before text = some hit) : hit.groups.length = program.groups := by
  obtain ⟨found, -, rfl⟩ := Option.map_eq_some_iff.1 hhit
  simp [Hit.ofFound]

theorem length_groups_of_nextHit? {before : Option Char} {behindHit : Bool} {text : List Char}
    {hit : Hit} (hhit : program.nextHit? before behindHit text = some hit) :
    hit.groups.length = program.groups := by
  unfold nextHit? at hhit
  split at hhit
  · cases hhit
  · next first hfirst =>
    split at hhit
    · split at hhit
      · cases hhit
      · obtain ⟨second, hsecond, rfl⟩ := Option.map_eq_some_iff.1 hhit
        have hlength := length_groups_of_hit? hsecond
        exact hlength
    · cases hhit
      exact length_groups_of_hit? hfirst

theorem hitsFrom_of_none {before : Option Char} {behindHit : Bool} {text : List Char}
    (hnone : program.nextHit? before behindHit text = none) :
    program.hitsFrom before behindHit text = ([], text) := by
  rw [hitsFrom]
  split
  · rfl
  · next hhit => cases hnone.symm.trans hhit

theorem hitsFrom_of_some {before : Option Char} {behindHit : Bool} {text tail : List Char}
    {hit : Hit} {others : List Hit}
    (hhit : program.nextHit? before behindHit text = some hit)
    (hrest : program.hitsFrom (hit.last? before) true hit.rest = (others, tail)) :
    program.hitsFrom before behindHit text = (hit :: others, tail) := by
  rw [hitsFrom]
  split
  · next hnone => cases hnone.symm.trans hhit
  · next other hother =>
    cases hother.symm.trans hhit
    rw [hrest]

/-- No character of a text is lost between the hits or in them, and none comes twice. -/
theorem weave_hitsFrom (before : Option Char) (behindHit : Bool) (text : List Char) :
    weave Hit.text (program.hitsFrom before behindHit text).1
      (program.hitsFrom before behindHit text).2 = text := by
  induction before, behindHit, text using hitsFrom.induct program with
  | case1 before behindHit text hnone => rw [hitsFrom_of_none hnone, weave_nil]
  | case2 before behindHit text hit hhit others tail hrest ih =>
      rw [hrest] at ih
      rw [hitsFrom_of_some hhit hrest, weave_cons, ih]
      exact append_of_nextHit? hhit

theorem length_groups_of_mem_hitsFrom (before : Option Char) (behindHit : Bool)
    (text : List Char) :
    ∀ hit ∈ (program.hitsFrom before behindHit text).1, hit.groups.length = program.groups := by
  induction before, behindHit, text using hitsFrom.induct program with
  | case1 before behindHit text hnone => simp [hitsFrom_of_none hnone]
  | case2 before behindHit text hit hhit others tail hrest ih =>
      rw [hrest] at ih
      rw [hitsFrom_of_some hhit hrest, List.forall_mem_cons]
      exact ⟨length_groups_of_nextHit? hhit, ih⟩

/-- No hit is behind another at the start of a text. -/
theorem nextHit?_start (text : List Char) :
    program.nextHit? none false text = program.hit? none text := by
  unfold nextHit?
  split
  · next hnone => exact hnone.symm
  · next hit hhit => simp [hhit]

theorem head?_hits (program : Program) (text : List Char) :
    (program.hits text).1.head? = program.hit? none text := by
  rw [← nextHit?_start, hits]
  cases hhit : program.nextHit? none false text with
  | none => rw [hitsFrom_of_none hhit, List.head?_nil]
  | some hit => rw [hitsFrom_of_some hhit rfl, List.head?_cons]

end Program

/-! ## Compiling -/

/-- Why a pattern has no program. -/
inductive Fault
  | unreadable
  | meaningless
  | tooLarge
deriving DecidableEq, Repr

def Fault.message : Fault → String
  | unreadable => "The pattern cannot be read."
  | meaningless => "A part of the pattern has no meaning."
  | tooLarge => "Compiled regex exceeds size limit of " ++ toString spaceLimit ++ " bytes."

def compile (pattern : List Char) (flags : Flags) : Except Fault Program :=
  match Ast.read? pattern with
  | none => .error .unreadable
  | some ast =>
    match ast.expr? flags with
    | none => .error .meaningless
    | some (expr, _) =>
      match Program.ofExpr? expr with
      | none => .error .tooLarge
      | some program => .ok program

/-- The engine that follows all ways to match side by side. -/
instance : Engine where
  Program := Program
  compile pattern flags := (compile pattern flags).mapError Fault.message
  groups := Program.groups
  names := Program.names
  hit? program := program.hit? none
  hits := Program.hits
  append_of_hit? := Program.append_of_hit?
  weave_hits _ := Program.weave_hitsFrom none false
  head?_hits := Program.head?_hits
  length_groups_of_mem_hits := Program.length_groups_of_mem_hitsFrom none false _ _

end FilterChain.Regex
