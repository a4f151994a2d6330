import FilterChain.Text
import Mathlib

/-!
# Leftmost occurrences

A delimiter may overlap itself, so its occurrences in a text are read from the left: the first one
counts, and then the first one behind that.  `Leftmost` says which offsets these are without
reading.  The pieces of a text are what stands between them: `Cuts` takes a text apart at one
occurrence after the other, in just one way.
-/

namespace FilterChain

/-- The delimiter stands at an offset of a text. -/
def OccursAt (delimiter text : List Char) (offset : Nat) : Prop :=
  delimiter <+: text.drop offset

/-- A delimiter behind a text is the first one: none starts in the text. -/
def FirstBehind (delimiter before : List Char) : Prop :=
  ∀ offset < before.length, ¬ OccursAt delimiter (before ++ delimiter) offset

/-- A text and its pieces between the leftmost occurrences of a delimiter. -/
inductive Cuts (delimiter : List Char) : List Char → List (List Char) → Prop
  | last {text : List Char} (hnone : ¬ delimiter <:+: text) : Cuts delimiter text [text]
  | first {before rest : List Char} {more : List (List Char)}
      (hfirst : FirstBehind delimiter before) (hrest : Cuts delimiter rest more) :
      Cuts delimiter (before ++ delimiter ++ rest) (before :: more)

section

variable {delimiter text before rest : List Char}

/-! ## Single occurrences -/

theorem OccursAt.append {offset : Nat} (hoccurs : OccursAt delimiter text offset)
    (hoffset : offset ≤ text.length) (rest : List Char) :
    OccursAt delimiter (text ++ rest) offset := by
  rw [OccursAt, List.drop_append_of_le_length hoffset]
  exact hoccurs.trans (List.prefix_append _ rest)

theorem occursAt_append_iff {offset : Nat} (hoffset : offset + delimiter.length ≤ text.length)
    (rest : List Char) :
    OccursAt delimiter (text ++ rest) offset ↔ OccursAt delimiter text offset := by
  constructor
  · intro hoccurs
    rw [OccursAt, List.drop_append_of_le_length (by omega)] at hoccurs
    apply List.prefix_of_prefix_length_le hoccurs (List.prefix_append _ rest)
    rw [List.length_drop]
    omega
  · intro hoccurs
    exact hoccurs.append (by omega) rest

theorem occursAt_behind (before rest : List Char) (offset : Nat) :
    OccursAt delimiter (before ++ rest) (before.length + offset) ↔
      OccursAt delimiter rest offset := by
  rw [OccursAt, ← List.drop_drop, List.drop_left, OccursAt]

theorem OccursAt.add_length_le {offset : Nat} (hdelimiter : delimiter ≠ [])
    (hoccurs : OccursAt delimiter text offset) : offset + delimiter.length ≤ text.length := by
  have hlength := hoccurs.length_le
  have hpositive := List.length_pos_iff.mpr hdelimiter
  rw [List.length_drop] at hlength
  omega

theorem infix_iff_exists_occursAt :
    delimiter <:+: text ↔ ∃ offset, OccursAt delimiter text offset := by
  constructor
  · rintro ⟨before, rest, rfl⟩
    refine ⟨before.length, ?_⟩
    rw [List.append_assoc, OccursAt, List.drop_left]
    exact List.prefix_append delimiter rest
  · rintro ⟨offset, hoccurs⟩
    exact hoccurs.isInfix.trans (List.drop_suffix offset text).isInfix

namespace FirstBehind

theorem not_occursAt (hfirst : FirstBehind delimiter before) {offset : Nat}
    (hoffset : offset < before.length) (rest : List Char) :
    ¬ OccursAt delimiter (before ++ delimiter ++ rest) offset := by
  have hwhole : offset + delimiter.length ≤ (before ++ delimiter).length := by
    rw [List.length_append]
    omega
  rw [occursAt_append_iff hwhole]
  exact hfirst offset hoffset

theorem not_infix (hfirst : FirstBehind delimiter before) (hdelimiter : delimiter ≠ []) :
    ¬ delimiter <:+: before := by
  intro hinfix
  obtain ⟨offset, hoccurs⟩ := infix_iff_exists_occursAt.mp hinfix
  have hwhole := hoccurs.add_length_le hdelimiter
  have hpositive := List.length_pos_iff.mpr hdelimiter
  exact hfirst offset (by omega) (hoccurs.append (by omega) delimiter)

theorem cons {c : Char} (hfirst : FirstBehind delimiter before)
    (hhead : ¬ delimiter <+: c :: (before ++ delimiter)) : FirstBehind delimiter (c :: before) := by
  intro offset hoffset
  cases offset with
  | zero => exact hhead
  | succ offset => exact hfirst offset (Nat.lt_of_succ_lt_succ hoffset)

/-- Only one occurrence is the first one. -/
theorem length_le {other after : List Char} (hfirst : FirstBehind delimiter before)
    (hsame : before ++ delimiter ++ rest = other ++ delimiter ++ after) :
    before.length ≤ other.length := by
  by_contra hshorter
  apply hfirst.not_occursAt (Nat.lt_of_not_le hshorter) rest
  rw [hsame, List.append_assoc, OccursAt, List.drop_left]
  exact List.prefix_append delimiter after

theorem singleton {c : Char} (hc : c ∉ before) : FirstBehind [c] before := by
  intro offset hoffset hoccurs
  rw [OccursAt, List.drop_append_of_le_length (Nat.le_of_lt hoffset),
    List.drop_eq_getElem_cons hoffset, List.cons_append, List.cons_prefix_cons] at hoccurs
  exact hc (hoccurs.1 ▸ List.getElem_mem hoffset)

end FirstBehind

/-! ## Pieces -/

namespace Cuts

variable {texts : List (List Char)}

theorem not_infix (hcuts : Cuts delimiter text texts) (hdelimiter : delimiter ≠ []) :
    ∀ piece ∈ texts, ¬ delimiter <:+: piece := by
  induction hcuts with
  | last hnone => exact List.forall_mem_singleton.mpr hnone
  | first hfirst hrest ih => exact List.forall_mem_cons.mpr ⟨hfirst.not_infix hdelimiter, ih⟩

theorem unique {others : List (List Char)} (hcuts : Cuts delimiter text texts)
    (hothers : Cuts delimiter text others) : texts = others := by
  induction hcuts generalizing others with
  | @last text hnone =>
      generalize hsame : text = other at hothers
      cases hothers with
      | last _ => rfl
      | @first before rest _ _ _ =>
          exact absurd (hsame ▸ List.infix_append before delimiter rest) hnone
  | @first before rest more hfirst hrest ih =>
      generalize hsame : before ++ delimiter ++ rest = other at hothers
      cases hothers with
      | last hnone => exact absurd (hsame ▸ List.infix_append before delimiter rest) hnone
      | @first front after pieces hfront hafter =>
          have hlength : before.length = front.length :=
            Nat.le_antisymm (hfirst.length_le hsame) (hfront.length_le hsame.symm)
          rw [List.append_assoc, List.append_assoc] at hsame
          obtain ⟨rfl, hbehind⟩ := List.append_inj hsame hlength
          obtain rfl : rest = after := List.append_cancel_left hbehind
          rw [ih hafter]

end Cuts

theorem dropLeading_eq_none_iff : dropLeading delimiter text = none ↔ ¬ delimiter <+: text := by
  rw [Option.eq_none_iff_forall_not_mem]
  constructor
  · rintro hnone ⟨rest, rfl⟩
    exact hnone rest (dropLeading_eq_some_iff.mpr rfl)
  · intro hstarts rest hrest
    exact hstarts ⟨rest, (dropLeading_eq_some_iff.mp hrest).symm⟩

/-- A text may begin with one more character, if no occurrence begins with it. -/
theorem Cuts.cons {c : Char} {piece : List Char} {more : List (List Char)}
    (hcuts : Cuts delimiter text (piece :: more)) (hhead : ¬ delimiter <+: c :: text) :
    Cuts delimiter (c :: text) ((c :: piece) :: more) := by
  cases hcuts with
  | last hnone =>
      apply Cuts.last
      rw [List.infix_cons_iff]
      exact not_or.mpr ⟨hhead, hnone⟩
  | @first before rest _ hfirst hrest =>
      apply Cuts.first (hfirst.cons _) hrest
      intro hstarts
      exact hhead (hstarts.trans (List.prefix_append _ rest))

theorem cuts_pieces (first : Char) (others text : List Char) :
    Cuts (first :: others) text (pieces first others text) := by
  fun_induction pieces first others text with
  | case1 => exact Cuts.last (by simp)
  | case2 c text rest hfound ih =>
      have hfirst : FirstBehind (first :: others) [] := by simp [FirstBehind]
      rw [dropLeading_eq_some_iff.mp hfound]
      exact Cuts.first hfirst ih
  | case3 c text hfound hnone ih =>
      rw [hnone] at ih
      cases ih
  | case4 c text hfound piece more hmore ih =>
      rw [hmore] at ih
      exact ih.cons (dropLeading_eq_none_iff.mp hfound)

theorem exists_cuts (hdelimiter : delimiter ≠ []) (text : List Char) :
    ∃ texts, Cuts delimiter text texts := by
  cases delimiter with
  | nil => exact absurd rfl hdelimiter
  | cons first others => exact ⟨_, cuts_pieces first others text⟩

/-! ## Leftmost occurrences -/

/-- The offsets of the leftmost occurrences: they do not overlap, and every occurrence starts
within one of them. -/
structure Leftmost (delimiter text : List Char) (offsets : List Nat) : Prop where
  occurs : ∀ offset ∈ offsets, OccursAt delimiter text offset
  apart : offsets.Pairwise fun first second => first + delimiter.length ≤ second
  covers : ∀ offset, OccursAt delimiter text offset →
    ∃ start ∈ offsets, start ≤ offset ∧ offset < start + delimiter.length

namespace Leftmost

variable {offsets others : List Nat}

theorem nil (hnone : ¬ delimiter <:+: text) : Leftmost delimiter text [] where
  occurs := List.forall_mem_nil _
  apart := List.Pairwise.nil
  covers offset hoccurs := absurd (infix_iff_exists_occursAt.mpr ⟨offset, hoccurs⟩) hnone

theorem cons (hleftmost : Leftmost delimiter rest offsets)
    (hfirst : FirstBehind delimiter before) :
    Leftmost delimiter (before ++ delimiter ++ rest)
      (before.length :: offsets.map ((before ++ delimiter).length + ·)) where
  occurs := by
    simp only [List.forall_mem_cons, List.forall_mem_map]
    constructor
    · rw [List.append_assoc, OccursAt, List.drop_left]
      exact List.prefix_append delimiter rest
    · intro offset hmem
      exact (occursAt_behind _ _ _).mpr (hleftmost.occurs offset hmem)
  apart := by
    simp only [List.pairwise_cons, List.pairwise_map, List.forall_mem_map]
    constructor
    · intro offset hmem
      rw [List.length_append]
      omega
    · apply hleftmost.apart.imp
      intro first second hapart
      omega
  covers offset hoccurs := by
    by_cases hbefore : offset < before.length
    · exact absurd hoccurs (hfirst.not_occursAt hbefore rest)
    · by_cases hwithin : offset < before.length + delimiter.length
      · exact ⟨before.length, List.mem_cons_self, Nat.le_of_not_lt hbefore, hwithin⟩
      · obtain ⟨offset, rfl⟩ : ∃ behind, offset = (before ++ delimiter).length + behind := by
          rw [List.length_append]
          exact ⟨offset - (before.length + delimiter.length), by omega⟩
        have hbehind := (occursAt_behind _ _ _).mp hoccurs
        obtain ⟨start, hmem, hle, hlt⟩ := hleftmost.covers offset hbehind
        refine ⟨_, List.mem_cons_of_mem _ (List.mem_map_of_mem hmem), ?_, ?_⟩
        · omega
        · omega

theorem add_length_le (hleftmost : Leftmost delimiter text offsets) {start offset : Nat}
    (hstart : start ∈ offsets) (hoffset : offset ∈ offsets) (hlt : start < offset) :
    start + delimiter.length ≤ offset := by
  obtain ⟨i, hi, rfl⟩ := List.mem_iff_getElem.mp hstart
  obtain ⟨j, hj, rfl⟩ := List.mem_iff_getElem.mp hoffset
  have hapart := List.pairwise_iff_getElem.mp hleftmost.apart
  rcases Nat.lt_trichotomy i j with hbefore | rfl | hbehind
  · exact hapart i j hi hj hbefore
  · exact absurd hlt (Nat.lt_irrefl _)
  · have hle := hapart j i hj hi hbehind
    omega

/-- What is among the offsets depends on the earlier ones only. -/
theorem mem_of_mem (hleftmost : Leftmost delimiter text offsets)
    (hothers : Leftmost delimiter text others) {offset : Nat}
    (hearlier : ∀ start < offset, start ∈ others → start ∈ offsets) (hmem : offset ∈ offsets) :
    offset ∈ others := by
  obtain ⟨start, hstart, hle, hlt⟩ := hothers.covers offset (hleftmost.occurs offset hmem)
  rcases hle.eq_or_lt with rfl | hbefore
  · exact hstart
  · have hapart := hleftmost.add_length_le (hearlier start hbefore hstart) hmem hbefore
    omega

theorem mem_iff (hleftmost : Leftmost delimiter text offsets)
    (hothers : Leftmost delimiter text others) (offset : Nat) :
    offset ∈ offsets ↔ offset ∈ others := by
  induction offset using Nat.strong_induction_on with
  | h offset ih =>
      constructor
      · exact hleftmost.mem_of_mem hothers fun start hlt => (ih start hlt).mpr
      · exact hothers.mem_of_mem hleftmost fun start hlt => (ih start hlt).mp

/-- There is just one list of leftmost occurrences. -/
theorem unique (hdelimiter : delimiter ≠ []) (hleftmost : Leftmost delimiter text offsets)
    (hothers : Leftmost delimiter text others) : offsets = others := by
  have hpositive := List.length_pos_iff.mpr hdelimiter
  have hincreasing : ∀ first second, first + delimiter.length ≤ second → first < second := by
    intro first second hle
    omega
  have hsorted := hleftmost.apart.imp (hincreasing _ _)
  have hsortedOthers := hothers.apart.imp (hincreasing _ _)
  exact hsorted.eq_of_mem_iff hsortedOthers (hleftmost.mem_iff hothers)

end Leftmost

end

end FilterChain
