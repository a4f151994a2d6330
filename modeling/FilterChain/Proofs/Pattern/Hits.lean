import FilterChain.Proofs.Pattern.Replacement
import FilterChain.Pattern

/-!
# Hits and the text between them

A text is the gaps and the hits in turn and the tail behind the last of them.  The flag `g` asks
for all hits and changes nothing about the first one.
-/

namespace FilterChain

namespace Regex.Engine

variable [Engine] {program : Program}

theorem hits_of_none {text : List Char} (hnone : hit? program text = none) :
    hits program text = ([], text) := by
  have hhead := head?_hits program text
  have hweave := weave_hits program text
  generalize hits program text = found at hhead hweave
  obtain ⟨found, tail⟩ := found
  obtain rfl : found = [] := List.head?_eq_none_iff.mp (hhead.trans hnone)
  obtain rfl : tail = text := hweave
  rfl

theorem exists_hits_of_some {text : List Char} {hit : Hit} (hhit : hit? program text = some hit) :
    ∃ others tail, hits program text = (hit :: others, tail) ∧
      weave Hit.text others tail = hit.rest := by
  have hhead := head?_hits program text
  have hweave := weave_hits program text
  generalize hits program text = found at hhead hweave
  obtain ⟨found, tail⟩ := found
  obtain ⟨others, rfl⟩ := List.head?_eq_some_iff.mp (hhead.trans hhit)
  refine ⟨others, tail, rfl, ?_⟩
  -- The first hit splits the text in the same place, alone and among all hits.
  rw [weave_cons, ← append_of_hit? hhit] at hweave
  exact List.append_cancel_left hweave

end Regex.Engine

namespace Pattern

/-! ## The flag for all hits -/

namespace Options

theorem read_append (flags more : List Char) (options : Options) :
    options.read (flags ++ more) = (options.read flags).bind (·.read more) := by
  induction flags generalizing options with
  | nil => rfl
  | cons flag flags ih =>
      rw [List.cons_append, read, read]
      cases options.add? flag with
      | none => rfl
      | some next => exact ih next

theorem global_of_add? {options next : Options} {flag : Char} (hflag : flag ≠ 'g')
    (hadd : options.add? flag = some next) : next.global = options.global := by
  unfold add? at hadd
  split at hadd
  · exact absurd rfl hflag
  all_goals cases hadd
  all_goals rfl

theorem global_of_read {flags : List Char} (hflags : 'g' ∉ flags) {options final : Options}
    (hread : options.read flags = .ok final) : final.global = options.global := by
  induction flags generalizing options with
  | nil =>
      cases hread
      rfl
  | cons flag flags ih =>
      rw [List.mem_cons, not_or] at hflags
      rw [read] at hread
      cases hadd : options.add? flag with
      | none =>
          rw [hadd] at hread
          cases hread
      | some next =>
          rw [hadd] at hread
          rw [ih hflags.2 hread, global_of_add? (Ne.symm hflags.1) hadd]

end Options

variable [Regex.Engine] {pattern flags : String} {compiled : Pattern}

theorem compile_eq_ok_iff :
    compile pattern flags = .ok compiled ↔
      ∃ options, Options.standard.read flags.toList = .ok options ∧
        Regex.Engine.compile pattern.toList options.flags = .ok compiled.program ∧
        compiled.global = options.global := by
  unfold compile
  cases hread : Options.standard.read flags.toList with
  | error e => simp [Bind.bind, Except.bind]
  | ok options =>
      have hsame (program : Regex.Engine.Program) :
          (⟨program, options.global⟩ : Pattern) = compiled ↔
            program = compiled.program ∧ compiled.global = options.global := by
        cases compiled
        simp [eq_comm]
      cases hprogram : Regex.Engine.compile pattern.toList options.flags with
      | error reason => simp [Bind.bind, Except.bind, hprogram]
      | ok program => simp [Bind.bind, Except.bind, hprogram, hsame]

/-- Without `g` a pattern asks for the first hit. -/
theorem global_of_compile (hflags : 'g' ∉ flags.toList)
    (hcompile : compile pattern flags = .ok compiled) : compiled.global = false := by
  obtain ⟨options, hread, -, hglobal⟩ := compile_eq_ok_iff.mp hcompile
  rw [hglobal, Options.global_of_read hflags hread]
  rfl

/-- With `g` the same program runs for all hits. -/
theorem compile_all (hcompile : compile pattern flags = .ok compiled) :
    compile pattern (flags ++ "g") = .ok { compiled with global := true } := by
  obtain ⟨options, hread, hprogram, -⟩ := compile_eq_ok_iff.mp hcompile
  refine compile_eq_ok_iff.mpr ⟨{ options with global := true }, ?_, hprogram, rfl⟩
  rw [String.toList_append, Options.read_append, hread]
  rfl

/-! ## Replacing hits -/

theorem hits_of_global (hglobal : compiled.global = true) (text : List Char) :
    compiled.hits text = Regex.Engine.hits compiled.program text := by
  rw [hits, if_pos hglobal]

theorem hits_of_none (hglobal : compiled.global = false) {text : List Char}
    (hnone : Regex.Engine.hit? compiled.program text = none) : compiled.hits text = ([], text) := by
  rw [hits, hglobal, hnone]
  rfl

theorem hits_of_some (hglobal : compiled.global = false) {text : List Char} {hit : Regex.Hit}
    (hhit : Regex.Engine.hit? compiled.program text = some hit) :
    compiled.hits text = ([hit], hit.rest) := by
  rw [hits, hglobal, hhit]
  rfl

/-- Each hit that a pattern asks for is replaced by its expansion, and the rest stays. -/
theorem replace_eq (compiled : Pattern) (text replacement : String) :
    compiled.replace text replacement =
      String.ofList (Regex.weave (Replacement.expand compiled.groups · replacement.toList)
        (compiled.hits text.toList).1 (compiled.hits text.toList).2) := by
  have hexpand : Regex.expandTemplate (Regex.Engine.names compiled.program)
      (Replacement.template compiled.groups replacement.toList) =
        (Replacement.expand compiled.groups · replacement.toList) :=
    funext fun hit => Replacement.expandTemplate_template _ _ hit _
  simp only [replace, hexpand]

end Pattern

end FilterChain
