import FilterChain.Decimal.Reading
import FilterChain.Regex.Engine

/-!
# Templates

A template is a text with references to groups: `$$` is a dollar, `$n` and `$name` refer to
a group by letters, digits and underscores, and `${name}` to one by anything between braces.
Any other dollar stands for itself.  A reference to a group that took no part is empty.
-/

namespace FilterChain.Regex

inductive TemplatePart
  | char (c : Char)
  | group (index : Nat)
  | named (name : String)
deriving DecidableEq, Repr

namespace TemplatePart

/-- The reference to a group by its number or name. -/
def reference (name : List Char) : TemplatePart :=
  match Decimal.count? name with
  | some index => group index
  | none => named (String.ofList name)

def isNameChar (c : Char) : Bool := c.isAlphanum || c == '_'

/-- The reference behind a dollar, and the text behind it. -/
def reference? : List Char → Option (TemplatePart × List Char)
  | [] => none
  | '{' :: text =>
    match text.dropWhile (· ≠ '}') with
    | [] => none
    | _ :: rest => some (reference (text.takeWhile (· ≠ '}')), rest)
  | c :: text =>
    let name := (c :: text).takeWhile isNameChar
    if name.isEmpty then none else some (reference name, (c :: text).dropWhile isNameChar)

theorem length_lt_of_reference? {text rest : List Char} {part : TemplatePart}
    (h : reference? text = some (part, rest)) : rest.length < text.length := by
  unfold reference? at h
  split at h
  · simp at h
  · next body =>
    split at h
    · simp at h
    · next last hdrop =>
      have hle := (List.dropWhile_sublist (· ≠ '}') (l := body)).length_le
      simp only [Option.some.injEq, Prod.mk.injEq] at h
      simp only [hdrop, ← h.2, List.length_cons] at hle ⊢
      omega
  · next c body _ =>
    dsimp only at h
    split at h
    · simp at h
    · next hname =>
      simp only [Option.some.injEq, Prod.mk.injEq] at h
      have hsplit := congrArg List.length
        (List.takeWhile_append_dropWhile (p := isNameChar) (l := c :: body))
      have hpos : 0 < ((c :: body).takeWhile isNameChar).length :=
        List.length_pos_iff.2 (by simpa using hname)
      simp only [List.length_append, ← h.2] at hsplit ⊢
      omega

def ofTemplate (text : List Char) : List TemplatePart :=
  match text with
  | [] => []
  | '$' :: '$' :: text => char '$' :: ofTemplate text
  | '$' :: text =>
    match _read : reference? text with
    | some (part, rest) => part :: ofTemplate rest
    | none => char '$' :: ofTemplate text
  | c :: text => char c :: ofTemplate text
termination_by text.length
decreasing_by
  · exact Nat.lt_succ_of_lt (Nat.lt_succ_self _)
  · exact Nat.lt_succ_of_lt (length_lt_of_reference? _read)
  · exact Nat.lt_succ_self _
  · exact Nat.lt_succ_self _

def expand (names : List (String × Nat)) (hit : Hit) : TemplatePart → List Char
  | char c => [c]
  | group index => (hit.group? index).getD []
  | named name => (((names.lookup name).bind hit.group?)).getD []

end TemplatePart

/-- The text of a template for a match. -/
def expandTemplate (names : List (String × Nat)) (template : List Char) (hit : Hit) : List Char :=
  (TemplatePart.ofTemplate template).flatMap (TemplatePart.expand names hit)

end FilterChain.Regex
