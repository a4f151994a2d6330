import FilterChain.Proofs.Text.Occurrence
import FilterChain.Proofs.Text.Pathname

/-!
# The path of an absolute URL

A URL is a scheme, the mark `://`, an authority, a path, and a query or a fragment behind it.  The
scheme has no colon, so the first mark of the whole text is the one behind it, whatever the path
and the query hold.  A text without a mark is a path and what follows it.
-/

namespace FilterChain

/-! ## The first mark -/

theorem cutAt_of_not_mem {d : Char} {delimiter before : List Char} (hd : d ∉ before)
    (rest : List Char) :
    cutAt (d :: delimiter) (before ++ (d :: delimiter) ++ rest) = some (before, rest) := by
  induction before with
  | nil =>
      have hdrop : dropLeading (d :: delimiter) (d :: (delimiter ++ rest)) = some rest :=
        dropLeading_eq_some_iff.mpr rfl
      simp only [List.nil_append, List.cons_append, cutAt, hdrop]
  | cons c before ih =>
      have hne : d ≠ c := List.ne_of_not_mem_cons hd
      have hcut := ih (List.not_mem_of_not_mem_cons hd)
      simp only [List.cons_append, cutAt, dropLeading, if_neg hne] at hcut ⊢
      rw [hcut]
      rfl

theorem cutAt_eq_none_of_absent {delimiter text : List Char} (hnone : ¬ delimiter <:+: text) :
    cutAt delimiter text = none := by
  cases hcut : cutAt delimiter text with
  | none => rfl
  | some cut =>
      have htext : text = cut.1 ++ delimiter ++ cut.2 := eq_append_of_cutAt hcut
      exact absurd ⟨cut.1, cut.2, htext.symm⟩ hnone

/-! ## Paths between an authority and a query -/

theorem beforeQuery_of_starts {path query : List Char} (hpath : ∀ c ∈ path, startsQuery c = false)
    (hquery : ∀ c ∈ query.head?, startsQuery c = true) : beforeQuery (path ++ query) = path := by
  have hself : beforeQuery path = path := by
    rw [beforeQuery, List.takeWhile_eq_self_iff]
    intro c hc
    rw [hpath c hc]
    rfl
  cases query with
  | nil => rw [List.append_nil, hself]
  | cons c query => rw [beforeQuery_append (hquery c rfl) hpath, hself]

theorem startsQuery_of_mem_beforeQuery {text : List Char} :
    ∀ c ∈ beforeQuery text, startsQuery c = false := by
  intro c hc
  have hkept := List.all_eq_true.mp List.all_takeWhile c hc
  simpa using hkept

/-- The authority of a URL has no slash and ends before the query. -/
def IsAuthority (authority : List Char) : Prop :=
  ∀ c ∈ authority, c ≠ '/' ∧ startsQuery c = false

theorem pathBehindMark_authority {authority : List Char} (hauthority : IsAuthority authority)
    (rest : List Char) : pathBehindMark (authority ++ rest) = pathBehindMark rest := by
  have hskipped : ∀ c ∈ authority, (c != '/' && !startsQuery c) = true := by
    intro c hc
    obtain ⟨hslash, hquery⟩ := hauthority c hc
    simp [hslash, hquery]
  rw [pathBehindMark, List.dropWhile_append_of_pos hskipped]
  rfl

theorem pathBehindMark_slash (rest : List Char) :
    pathBehindMark ('/' :: rest) = beforeQuery ('/' :: rest) := rfl

theorem pathBehindMark_query {query : List Char}
    (hquery : ∀ c ∈ query.head?, startsQuery c = true) : pathBehindMark query = ['/'] := by
  cases query with
  | nil => rfl
  | cons c query =>
      have hc : startsQuery c = true := hquery c rfl
      have hslash : c ≠ '/' := by
        rintro rfl
        cases hc
      simp [pathBehindMark, hc, hslash]

theorem pathBehindMark_plain (rest : List Char) :
    pathBehindMark rest ≠ [] ∧ ∀ c ∈ pathBehindMark rest, startsQuery c = false := by
  rw [pathBehindMark]
  split
  · exact ⟨List.cons_ne_nil _ _, startsQuery_of_mem_beforeQuery⟩
  · exact ⟨List.cons_ne_nil _ _, List.forall_mem_singleton.mpr rfl⟩

theorem plain_of_pathname {text path : List Char} (hpath : pathname text = some path) :
    path ≠ [] ∧ ∀ c ∈ path, startsQuery c = false := by
  cases hcut : cutAt schemeMark text with
  | some cut =>
      rw [pathname_of_mark hcut] at hpath
      cases hpath
      exact pathBehindMark_plain cut.2
  | none =>
      rw [pathname_of_no_mark hcut] at hpath
      split at hpath
      · cases hpath
      · next hne =>
        cases hpath
        exact ⟨by simpa using hne, startsQuery_of_mem_beforeQuery⟩

/-! ## URLs by their parts -/

/-- The parts of a URL.  Either of the last two may be empty; the query stands for a fragment
too. -/
structure Url where
  scheme : List Char
  authority : List Char
  path : List Char
  query : List Char
  scheme_plain : ':' ∉ scheme
  authority_plain : IsAuthority authority
  path_slash : ∀ c ∈ path.head?, c = '/'
  path_plain : ∀ c ∈ path, startsQuery c = false
  query_mark : ∀ c ∈ query.head?, startsQuery c = true

def Url.text (url : Url) : List Char :=
  url.scheme ++ schemeMark ++ (url.authority ++ (url.path ++ url.query))

theorem pathBehindMark_path (url : Url) :
    pathBehindMark (url.path ++ url.query) = if url.path = [] then ['/'] else url.path := by
  have hquery := beforeQuery_of_starts url.path_plain url.query_mark
  cases hpath : url.path with
  | nil => exact pathBehindMark_query url.query_mark
  | cons c path =>
      obtain rfl : c = '/' := url.path_slash c (by simp [hpath])
      rw [hpath] at hquery
      rw [List.cons_append, pathBehindMark_slash, ← List.cons_append, hquery,
        if_neg (List.cons_ne_nil _ _)]

theorem Url.cutAt_text (url : Url) :
    cutAt schemeMark url.text = some (url.scheme, url.authority ++ (url.path ++ url.query)) :=
  cutAt_of_not_mem url.scheme_plain _

/-- The path of a URL is the one that it is made of, or a slash where that is empty.  A text
without a mark has the path that stands before its query, if any does.  No path is empty or goes
on into a query. -/
theorem pathname_of_parts :
    (∀ url : Url, pathname url.text = some (if url.path = [] then ['/'] else url.path)) ∧
      (∀ text, ¬ schemeMark <:+: text → pathname text =
        if text.takeWhile (fun c => c != '?' && c != '#') = [] then none
        else some (text.takeWhile fun c => c != '?' && c != '#')) ∧
      ∀ text path, pathname text = some path → path ≠ [] ∧ '?' ∉ path ∧ '#' ∉ path := by
  refine ⟨?_, ?_, ?_⟩
  · intro url
    rw [pathname_of_mark url.cutAt_text, pathBehindMark_authority url.authority_plain,
      pathBehindMark_path]
  · intro text hnone
    have hquery : beforeQuery text = text.takeWhile fun c => c != '?' && c != '#' := by
      simp only [beforeQuery, startsQuery, Bool.not_or]
      rfl
    rw [pathname_of_no_mark (cutAt_eq_none_of_absent hnone), hquery]
    simp only [List.isEmpty_iff]
  · intro text path hpath
    obtain ⟨hne, hplain⟩ := plain_of_pathname hpath
    refine ⟨hne, ?_, ?_⟩
    · intro hmem
      cases hplain _ hmem
    · intro hmem
      cases hplain _ hmem

/-- The mark comes back in the path and in the query, and a slash only in the query.  A colon and a
slash are no mark. -/
theorem pathname_of_parts_of_second_mark :
    pathname "s://a:1/b://c?d=e://f/g".toList = some "/b://c".toList ∧
      pathname "s://a#b/c".toList = some ['/'] ∧
      ¬ schemeMark <:+: "a:/b#c".toList ∧ pathname "a:/b#c".toList = some "a:/b".toList ∧
      "/b://c".toList ≠ [] ∧ '?' ∉ "/b://c".toList ∧ '#' ∉ "/b://c".toList := by
  let first : Url :=
    { scheme := "s".toList, authority := "a:1".toList, path := "/b://c".toList,
      query := "?d=e://f/g".toList, scheme_plain := by decide,
      authority_plain := by simp [IsAuthority, startsQuery], path_slash := by simp,
      path_plain := by simp [startsQuery], query_mark := by simp [startsQuery] }
  let second : Url :=
    { scheme := "s".toList, authority := "a".toList, path := [], query := "#b/c".toList,
      scheme_plain := by decide, authority_plain := by simp [IsAuthority, startsQuery],
      path_slash := by simp, path_plain := by simp, query_mark := by simp [startsQuery] }
  have hfirst : pathname "s://a:1/b://c?d=e://f/g".toList = some "/b://c".toList :=
    pathname_of_parts.1 first
  have hnone : ¬ schemeMark <:+: "a:/b#c".toList := by decide
  exact ⟨hfirst, pathname_of_parts.1 second, hnone, pathname_of_parts.2.1 _ hnone,
    pathname_of_parts.2.2 _ _ hfirst⟩

end FilterChain
