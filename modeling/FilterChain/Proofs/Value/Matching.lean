import FilterChain.Proofs.Pattern.Hits
import FilterChain.Regex.Matches
import FilterChain.Value.Behaviour

/-!
# Matches and substitutions of one text

With and without the flag `g`, a match and a substitution go by the same hits: the first or all
of them, and neither loses or repeats anything between them.
-/

namespace FilterChain.Value

open Regex

theorem ofChars_toList (text : String) : ofChars text.toList = string text := by
  rw [ofChars, String.ofList_toList]

/-- `$&` stands for the hit itself. -/
theorem expand_whole (groups : Nat) (hit : Hit) :
    Replacement.expand groups hit "$&".toList = hit.text := by
  have htext : "$&".toList = ['$', '&'] := rfl
  rw [htext, Replacement.expand, Replacement.expand, List.append_nil]

section

variable [Engine] {pattern flags : String} {compiled : Pattern}

theorem matching_of_compile (hcompile : Pattern.compile pattern flags = .ok compiled)
    (text : String) :
    (string text).matching pattern flags = .ok (array (matchesIn compiled text.toList)) := by
  rw [matching, hcompile]
  rfl

theorem substitute_of_compile (hcompile : Pattern.compile pattern flags = .ok compiled)
    (text replacement : String) :
    (string text).substitute pattern replacement flags =
      .ok (string (compiled.replace text replacement)) := by
  rw [substitute, hcompile]
  rfl

section

variable (hcompile : Pattern.compile pattern flags = .ok compiled)
include hcompile

theorem matching_all (text : String) :
    (string text).matching pattern (flags ++ "g") =
      .ok (array ((Engine.hits compiled.program text.toList).1.map fun hit =>
        ofChars hit.text)) := by
  rw [matching_of_compile (Pattern.compile_all hcompile), matchesIn, if_pos rfl,
    Pattern.hits_of_global rfl]

theorem substitute_all (text replacement : String) :
    (string text).substitute pattern replacement (flags ++ "g") =
      .ok (ofChars (weave (Replacement.expand compiled.groups · replacement.toList)
        (Engine.hits compiled.program text.toList).1
        (Engine.hits compiled.program text.toList).2)) := by
  rw [substitute_of_compile (Pattern.compile_all hcompile), Pattern.replace_eq,
    Pattern.hits_of_global rfl]
  rfl

variable (hflags : 'g' ∉ flags.toList)
include hflags

theorem matching_none {text : String} (hnone : Engine.hit? compiled.program text.toList = none) :
    (string text).matching pattern flags = .ok (array []) := by
  have hglobal := Pattern.global_of_compile hflags hcompile
  rw [matching_of_compile hcompile, matchesIn, Pattern.hits_of_none hglobal hnone, hglobal]
  rfl

theorem matching_first {text : String} {hit : Hit}
    (hhit : Engine.hit? compiled.program text.toList = some hit) :
    (string text).matching pattern flags = .ok (array (ofHit hit)) := by
  have hglobal := Pattern.global_of_compile hflags hcompile
  rw [matching_of_compile hcompile, matchesIn, Pattern.hits_of_some hglobal hhit, hglobal]
  simp

theorem substitute_none {text : String} (hnone : Engine.hit? compiled.program text.toList = none)
    (replacement : String) :
    (string text).substitute pattern replacement flags = .ok (string text) := by
  have hglobal := Pattern.global_of_compile hflags hcompile
  rw [substitute_of_compile hcompile, Pattern.replace_eq, Pattern.hits_of_none hglobal hnone,
    weave_nil, String.ofList_toList]

theorem substitute_first {text : String} {hit : Hit}
    (hhit : Engine.hit? compiled.program text.toList = some hit) (replacement : String) :
    (string text).substitute pattern replacement flags =
      .ok (ofChars (hit.gap ++ Replacement.expand compiled.groups hit replacement.toList ++
        hit.rest)) := by
  have hglobal := Pattern.global_of_compile hflags hcompile
  rw [substitute_of_compile hcompile, Pattern.replace_eq, Pattern.hits_of_some hglobal hhit,
    weave_cons, weave_nil]
  rfl

/-- A hit that stands for itself leaves the text as it was. -/
theorem substitute_whole (text : String) :
    (string text).substitute pattern "$&" flags = .ok (string text) ∧
      (string text).substitute pattern "$&" (flags ++ "g") = .ok (string text) := by
  constructor
  · cases hhit : Engine.hit? compiled.program text.toList with
    | none => exact substitute_none hcompile hflags hhit "$&"
    | some hit =>
        rw [substitute_first hcompile hflags hhit, expand_whole, Engine.append_of_hit? hhit,
          ofChars_toList]
  · have hweave := Engine.weave_hits compiled.program text.toList
    rw [substitute_all hcompile]
    simp only [expand_whole]
    rw [hweave, ofChars_toList]

end

/-- The hits and gaps of a text are the same for a match and a substitution, with and without
`g`. -/
theorem matching_substitute (hcompile : Pattern.compile pattern flags = .ok compiled)
    (hflags : 'g' ∉ flags.toList) (text : String) :
    ∃ hits tail,
      Engine.hits compiled.program text.toList = (hits, tail) ∧
      weave Hit.text hits tail = text.toList ∧
      (∀ hit ∈ hits, hit.groups.length = compiled.groups) ∧
      (string text).matching pattern (flags ++ "g") =
        .ok (array (hits.map fun hit => ofChars hit.text)) ∧
      (∀ replacement, (string text).substitute pattern replacement (flags ++ "g") =
        .ok (ofChars (weave (Replacement.expand compiled.groups · replacement.toList) hits
          tail))) ∧
      (hits = [] →
        (string text).matching pattern flags = .ok (array []) ∧
        ∀ replacement, (string text).substitute pattern replacement flags = .ok (string text)) ∧
      (∀ hit others, hits = hit :: others →
        (string text).matching pattern flags =
          .ok (array (ofChars hit.text ::
            hit.groups.map fun group => (group.map ofChars).getD null)) ∧
        ∀ replacement, (string text).substitute pattern replacement flags =
          .ok (ofChars (hit.gap ++ Replacement.expand compiled.groups hit replacement.toList ++
            weave Hit.text others tail))) ∧
      (string text).substitute pattern "$&" flags = .ok (string text) ∧
      (string text).substitute pattern "$&" (flags ++ "g") = .ok (string text) := by
  have hweave := Engine.weave_hits compiled.program text.toList
  have hgroups : ∀ hit ∈ (Engine.hits compiled.program text.toList).1,
      hit.groups.length = compiled.groups :=
    fun hit hmem => Engine.length_groups_of_mem_hits hmem
  have hall := matching_all hcompile text
  have hreplace := substitute_all hcompile text
  have hwhole := substitute_whole hcompile hflags text
  cases hhit : Engine.hit? compiled.program text.toList with
  | none =>
      have hhits := Engine.hits_of_none hhit
      simp only [hhits] at hweave hgroups hall hreplace
      refine ⟨[], text.toList, hhits, hweave, hgroups, hall, hreplace, ?_, ?_, hwhole⟩
      · intro _
        exact ⟨matching_none hcompile hflags hhit, substitute_none hcompile hflags hhit⟩
      · intro hit others hcons
        cases hcons
  | some hit =>
      obtain ⟨others, tail, hhits, hrest⟩ := Engine.exists_hits_of_some hhit
      simp only [hhits] at hweave hgroups hall hreplace
      refine ⟨hit :: others, tail, hhits, hweave, hgroups, hall, hreplace, ?_, ?_, hwhole⟩
      · intro hnil
        cases hnil
      · intro first more hcons
        cases hcons
        rw [hrest]
        exact ⟨matching_first hcompile hflags hhit, substitute_first hcompile hflags hhit⟩

end

/-- The empty hit in front of the text keeps another one from starting there, so the second hit
is one character later. -/
theorem matching_substitute_of_empty_hit :
    (string "ba").matching "(a)?" ("m" ++ "g") = .ok (array [string "", string "a"]) ∧
    (string "ba").matching "(a)?" "m" = .ok (array [string "", null]) ∧
    (string "ba").substitute "(a)?" "<$1$2>" ("m" ++ "g") = .ok (string "<$2>b<a$2>") ∧
    (string "ba").substitute "(a)?" "<$1$2>" "m" = .ok (string "<$2>ba") := by
  let program : Program :=
    ⟨#[.accept, .save 3 0, .chars [⟨97, 97⟩] 1, .save 2 2, .split [3, 0]], 4, 1, []⟩
  let first : Hit := ⟨[], [], [none], ['b', 'a']⟩
  let second : Hit := ⟨['b'], ['a'], [some ['a']], []⟩
  have hcompile : Pattern.compile "(a)?" "m" = .ok ⟨program, false⟩ := by cbv
  have hfirst : program.nextHit? none false ['b', 'a'] = some first := by cbv
  have hsecond : program.nextHit? none true ['b', 'a'] = some second := by cbv
  have hend : program.nextHit? (some 'a') true [] = none := by cbv
  have hrest : program.hitsFrom none true ['b', 'a'] = ([second], []) :=
    Program.hitsFrom_of_some hsecond (Program.hitsFrom_of_none hend)
  have hhits : program.hits "ba".toList = ([first, second], []) :=
    Program.hitsFrom_of_some hfirst hrest
  have hexpand (hit : Hit) : Replacement.expand 1 hit "<$1$2>".toList =
      '<' :: (hit.group? 1).getD [] ++ ['$', '2', '>'] := by
    simp [Replacement.expand, Replacement.position?, Replacement.leading?, Replacement.isGroup,
      Decimal.isDigits, Decimal.natOfDigits, Decimal.digitValue]
  have hgroups : Pattern.groups ⟨program, false⟩ = 1 := rfl
  obtain ⟨hits, tail, hsame, -, -, hall, hreplace, -, hsome, -⟩ :=
    matching_substitute hcompile (by decide) "ba"
  obtain ⟨rfl, rfl⟩ : [first, second] = hits ∧ [] = tail := Prod.mk.inj (hhits.symm.trans hsame)
  obtain ⟨hmatching, hsubstitute⟩ := hsome first [second] rfl
  refine ⟨hall.trans rfl, hmatching.trans rfl, ?_, ?_⟩
  · simp only [hreplace, hgroups, hexpand]
    rfl
  · rw [hsubstitute, hgroups, hexpand]
    rfl

end FilterChain.Value
