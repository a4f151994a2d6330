import FilterChain.Function.Builtin
import Mathlib.Tactic

/-!
# What the path of a URL depends on

The mark `://` is looked for in a whole URL, also behind the start of its query.  Where the first
mark stands before the query, or where there is none, the query and the fragment have no
influence on the path.  Where the first mark stands behind the start of the query, the path is
that of the query alone.
-/

namespace FilterChain

/-! ## Occurrences next to a character that the delimiter lacks -/

theorem dropLeading_append_cons {delimiter : List Char} {c : Char} (hc : c ∉ delimiter)
    (text more : List Char) :
    dropLeading delimiter (text ++ c :: more) =
      (dropLeading delimiter text).map fun rest => rest ++ c :: more := by
  induction delimiter generalizing text with
  | nil => rfl
  | cons d delimiter ih =>
      have hne : c ≠ d := List.ne_of_not_mem_cons hc
      have hothers : c ∉ delimiter := List.not_mem_of_not_mem_cons hc
      cases text with
      | nil => exact if_neg (Ne.symm hne)
      | cons first text =>
          rw [List.cons_append, dropLeading, dropLeading]
          by_cases hfirst : d = first
          · rw [if_pos hfirst, if_pos hfirst, ih hothers]
          · rw [if_neg hfirst, if_neg hfirst]
            rfl

/-- The first occurrence stands on one side of the character: on the left, if there is one. -/
theorem cutAt_append_cons {delimiter : List Char} {c : Char} (hc : c ∉ delimiter)
    (text more : List Char) :
    cutAt delimiter (text ++ c :: more) =
      ((cutAt delimiter text).map fun (before, rest) => (before, rest ++ c :: more)).or
        ((cutAt delimiter more).map fun (before, rest) => (text ++ c :: before, rest)) := by
  induction text with
  | nil =>
      have hdrop := dropLeading_append_cons hc [] more
      rw [List.nil_append] at hdrop
      simp only [List.nil_append, cutAt, hdrop]
      cases dropLeading delimiter [] with
      | none => rfl
      | some rest => rfl
  | cons first text ih =>
      have hdrop := dropLeading_append_cons hc (first :: text) more
      rw [List.cons_append] at hdrop
      simp only [List.cons_append, cutAt, hdrop]
      cases dropLeading delimiter (first :: text) with
      | some rest => rfl
      | none =>
          simp only [Option.map_none, ih]
          cases cutAt delimiter text with
          | some cut => rfl
          | none =>
              cases cutAt delimiter more with
              | some cut => rfl
              | none => rfl

/-! ## Paths -/

/-- The mark between the scheme of a URL and its authority. -/
def schemeMark : List Char := [':', '/', '/']

/-- The path of a URL whose text behind the mark is given. -/
def pathBehindMark (rest : List Char) : List Char :=
  match rest.dropWhile fun c => c != '/' && !startsQuery c with
  | '/' :: more => beforeQuery ('/' :: more)
  | _ => ['/']

theorem pathname_of_mark {url before rest : List Char}
    (hcut : cutAt schemeMark url = some (before, rest)) :
    pathname url = some (pathBehindMark rest) := by
  have hne : (pathBehindMark rest).isEmpty = false := by
    rw [pathBehindMark]
    split
    · rfl
    · rfl
  have hpath : pathname url =
      if (pathBehindMark rest).isEmpty then none else some (pathBehindMark rest) := by
    rw [pathname, show cutAt [':', '/', '/'] url = some (before, rest) from hcut]
    rfl
  rw [hpath, hne, if_neg Bool.false_ne_true]

theorem pathname_of_no_mark {url : List Char} (hcut : cutAt schemeMark url = none) :
    pathname url = if (beforeQuery url).isEmpty then none else some (beforeQuery url) := by
  rw [pathname, show cutAt [':', '/', '/'] url = none from hcut]

section

variable {c : Char} (hc : startsQuery c = true)
include hc

theorem beforeQuery_append {text : List Char} (htext : ∀ x ∈ text, startsQuery x = false)
    (query : List Char) : beforeQuery (text ++ c :: query) = beforeQuery text := by
  induction text with
  | nil => simp [beforeQuery, hc]
  | cons x text ih =>
      obtain ⟨hx, hothers⟩ := List.forall_mem_cons.mp htext
      simpa [beforeQuery, hx] using ih hothers

theorem pathBehindMark_append {rest : List Char} (hrest : ∀ x ∈ rest, startsQuery x = false)
    (query : List Char) : pathBehindMark (rest ++ c :: query) = pathBehindMark rest := by
  induction rest with
  | nil =>
      have hslash : c ≠ '/' := by
        rintro rfl
        exact absurd hc (by decide)
      simp [pathBehindMark, hc, hslash]
  | cons x rest ih =>
      obtain ⟨hx, hothers⟩ := List.forall_mem_cons.mp hrest
      by_cases hslash : x = '/'
      · have hpath := beforeQuery_append hc hrest query
        subst hslash
        exact hpath
      · simpa [pathBehindMark, hx, hslash] using ih hothers

end

/-- A query or a fragment has no influence on the path of a URL, unless the first mark of the
URL stands in it.  The path is then the one that the query has as a URL of its own. -/
theorem pathname_append_query {text : List Char} (htext : ∀ x ∈ text, startsQuery x = false)
    {c : Char} (hc : startsQuery c = true) (query : List Char) :
    pathname (text ++ c :: query) =
      if !hasOccurrence schemeMark text && hasOccurrence schemeMark query then pathname query
      else pathname text := by
  have hmark : c ∉ schemeMark := by
    intro hmem
    have hnone : ∀ x ∈ schemeMark, startsQuery x = false := by simp [schemeMark, startsQuery]
    exact Bool.false_ne_true ((hnone c hmem).symm.trans hc)
  have hcut := cutAt_append_cons hmark text query
  rw [hasOccurrence, hasOccurrence]
  cases hleft : cutAt schemeMark text with
  | some cut =>
      obtain ⟨before, rest⟩ := cut
      rw [hleft, Option.map_some, Option.some_or] at hcut
      have hrest : ∀ x ∈ rest, startsQuery x = false := by
        intro x hx
        apply htext
        rw [eq_append_of_cutAt hleft]
        exact List.mem_append_right _ hx
      rw [pathname_of_mark hcut, pathname_of_mark hleft, pathBehindMark_append hc hrest]
      rfl
  | none =>
      rw [hleft, Option.map_none, Option.none_or] at hcut
      cases hright : cutAt schemeMark query with
      | some cut =>
          obtain ⟨before, rest⟩ := cut
          rw [hright, Option.map_some] at hcut
          rw [pathname_of_mark hcut, pathname_of_mark hright]
          rfl
      | none =>
          rw [hright, Option.map_none] at hcut
          rw [pathname_of_no_mark hcut, pathname_of_no_mark hleft, beforeQuery_append hc htext]
          rfl

/-- The query of the first URL holds a second URL, and so does the fragment of the other one,
which has no mark of its own. -/
theorem pathname_append_query_of_second_url :
    (∀ x ∈ "https://host/a".toList, startsQuery x = false) ∧
      (∀ x ∈ "/login".toList, startsQuery x = false) ∧
      startsQuery '?' = true ∧ startsQuery '#' = true ∧
      pathname ("https://host/a".toList ++ '?' :: "next=http://other/x".toList) =
        some "/a".toList ∧
      pathname ("/login".toList ++ '#' :: "http://other".toList) = some "/".toList := by
  have hfirst : ∀ x ∈ "https://host/a".toList, startsQuery x = false := by simp [startsQuery]
  have hsecond : ∀ x ∈ "/login".toList, startsQuery x = false := by simp [startsQuery]
  refine ⟨hfirst, hsecond, rfl, rfl, ?_, ?_⟩
  · rw [pathname_append_query hfirst rfl]
    rfl
  · rw [pathname_append_query hsecond rfl]
    rfl

/-- A query that holds a URL of its own takes the place of the path. -/
theorem pathname_ne_of_url_in_query :
    (∀ x ∈ "/login".toList, startsQuery x = false) ∧
      pathname ("/login".toList ++ '?' :: "next=http://host/x".toList) = some "/x".toList ∧
      pathname "/login".toList = some "/login".toList ∧
      pathname ("/login".toList ++ '?' :: "next=http://host/x".toList) ≠
        pathname "/login".toList :=
  ⟨by simp [startsQuery], by decide⟩

end FilterChain
