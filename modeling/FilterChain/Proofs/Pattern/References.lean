import FilterChain.Proofs.Pattern.Replacement

/-!
# References in templates of replacements

The template of a replacement is written of single characters and of references by position, and
it is read as the same ones.  So no text in a replacement turns into a reference by the names of
groups or by braces, and a dollar without a position behind it stays a dollar.
-/

namespace FilterChain

namespace Regex.TemplatePart

/-- A part as a template writes it: a dollar twice, and a reference in braces. -/
def write : TemplatePart → List Char
  | char c => if c = '$' then ['$', '$'] else [c]
  | group index => Replacement.reference index
  | named name => '$' :: '{' :: (name.toList ++ ['}'])

/-- A character, or a reference by its position to the whole match or one of so many groups. -/
def IsPositional (groups : Nat) : TemplatePart → Prop
  | char _ => True
  | group index => index ≤ groups
  | named _ => False

end Regex.TemplatePart

namespace Replacement

open Regex

variable (groups : Nat) (replacement : List Char)

theorem isGroup_le {groups index : Nat} (hgroup : isGroup groups index = true) :
    index ≤ groups := by
  unfold isGroup at hgroup
  rw [Bool.and_eq_true, decide_eq_true_eq, decide_eq_true_eq] at hgroup
  exact hgroup.2

theorem isPositional_of_mem_parts :
    ∀ part ∈ parts groups replacement, part.IsPositional groups := by
  induction replacement using expand.induct groups with
  | case1 => simp [parts_nil]
  | case2 text ih =>
      rw [parts_doubled, List.forall_mem_cons]
      exact ⟨trivial, ih⟩
  | case3 text ih =>
      rw [parts_whole, List.forall_mem_cons]
      exact ⟨Nat.zero_le groups, ih⟩
  | case4 text hdollar hwhole index rest hfound ih =>
      obtain ⟨number, -, -, -, -, hgroup, -⟩ := exists_number_of_position? hfound
      rw [parts_position hdollar hwhole hfound, List.forall_mem_cons]
      exact ⟨isGroup_le hgroup, ih⟩
  | case5 text hdollar hwhole hnone ih =>
      rw [parts_lone hdollar hwhole hnone, List.forall_mem_cons]
      exact ⟨trivial, ih⟩
  | case6 c text _ _ hc ih =>
      rw [parts_char hc, List.forall_mem_cons]
      exact ⟨trivial, ih⟩

/-- The parts that are read from a template are the ones that it was written of. -/
theorem flatMap_write_parts :
    (parts groups replacement).flatMap TemplatePart.write = template groups replacement := by
  induction replacement using expand.induct groups with
  | case1 =>
      rw [parts_nil, template]
      rfl
  | case2 text ih =>
      rw [parts_doubled, List.flatMap_cons, ih, template]
      rfl
  | case3 text ih =>
      rw [parts_whole, List.flatMap_cons, ih, template]
      rfl
  | case4 text hdollar hwhole index rest hfound ih =>
      rw [parts_position hdollar hwhole hfound, List.flatMap_cons, ih,
        template_dollar hdollar hwhole, hfound]
      rfl
  | case5 text hdollar hwhole hnone ih =>
      rw [parts_lone hdollar hwhole hnone, List.flatMap_cons, ih,
        template_dollar hdollar hwhole, hnone]
      rfl
  | case6 c text _ _ hc ih =>
      rw [parts_char hc, List.flatMap_cons, ih, template_char hc, TemplatePart.write, if_neg hc]
      rfl

/-- A template means for every hit what its replacement means by position, and every dollar in it
is doubled or belongs to a reference to a group that there is. -/
theorem template_refers_by_position :
    (∀ names hit, expandTemplate names (template groups replacement) hit =
        expand groups hit replacement) ∧
      (TemplatePart.ofTemplate (template groups replacement)).flatMap TemplatePart.write =
        template groups replacement ∧
      ∀ part ∈ TemplatePart.ofTemplate (template groups replacement),
        part.IsPositional groups := by
  refine ⟨?_, flatMap_write_parts groups replacement, isPositional_of_mem_parts groups replacement⟩
  intro names hit
  exact expandTemplate_template groups names hit replacement

example : template 1 "$1$2$name${1}$0$".toList = "${1}$$2$$name$${1}$$0$$".toList := by cbv

end Replacement

end FilterChain
