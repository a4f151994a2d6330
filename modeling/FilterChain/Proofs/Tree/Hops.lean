import FilterChain.Proofs.Tree.RoundTrip

/-!
# Hops without blanks

Behind a name, hops may follow without blanks: a mark and a field name each.  A field name may be
made of digits, and the point of the next hop may stand right behind it.  The lexer takes it for a
name all the same, since it has just read a mark.  Each hop is then a filter, except that points in
a row are one path.
-/

namespace FilterChain

open Grammar FilterChain.Parser Lexer

/-- A mark and the name of a field. -/
inductive Hop
  | point (name : String)
  | access (name : String)
  | assign (name : String)

namespace Hop

def name : Hop → String
  | point name | access name | assign name => name

def isPoint : Hop → Bool
  | point _ => true
  | _ => false

def mark : Hop → Char
  | point _ => '.'
  | access _ => '<'
  | assign _ => '>'

def sigil : Hop → Token
  | point _ => .dot
  | access _ => .less
  | assign _ => .greater

def text (hop : Hop) : List Char := hop.mark :: hop.name.toList

def tokens (hop : Hop) : List Token := [hop.sigil, .word hop.name]

/-- Points in a row go on with one another. -/
def joins (hop next : Hop) : Bool := hop.isPoint && next.isPoint

/-- The longest runs of points, and all other hops by themselves. -/
def runs (hops : List Hop) : List (List Hop) := hops.splitBy joins

/-- The filter that a run of hops stands for. -/
def filter : List Hop → Filter
  | [access name] => .access name
  | [assign name] => .assign name
  | run => .property (run.map name)

/-! ## Hops as tokens -/

theorem mark?_mark (hop : Hop) : mark? hop.mark = some hop.sigil := by
  cases hop <;> rfl

theorem isSigil_sigil (hop : Hop) : hop.sigil.isSigil = true := by
  cases hop <;> rfl

theorem extendsName_mark (hop : Hop) : extendsName hop.mark = false := by
  cases hop <;> rfl

theorem spells_text {hop : Hop} (hname : IsName hop.name) :
    Spells extendsName hop.text hop.tokens :=
  spells_field [] hop.mark?_mark hop.isSigil_sigil (List.forall_mem_nil _) hname

end Hop

/-- A name that is not made of digits is one before a point, too. -/
theorem spells_name_before_point {name : String} (hname : IsName name)
    (hdigits : Decimal.isDigits name.toList = false) :
    Spells extendsName name.toList [.word name] := by
  have hne : name.toList ≠ [] := by simpa using hname.1
  refine spells_token (fun rest hrest => ?_) rfl
  have hfound : Found true (.word (String.ofList name.toList)) name.toList rest :=
    found_word hne hname.2 hrest (by simp)
  rw [String.ofList_toList] at hfound
  refine ⟨hfound.lexeme, hfound.stops, hfound.unambiguous.1, fun _ hall => ?_⟩
  rw [hdigits] at hall
  cases hall

theorem spells_hops {name : String} {hops : List Hop} (hname : IsName name)
    (hdigits : Decimal.isDigits name.toList = false) (hhops : ∀ hop ∈ hops, IsName hop.name) :
    Spells extendsName (name.toList ++ hops.flatMap Hop.text)
      (.word name :: hops.flatMap Hop.tokens) := by
  let P (text : List Char) (done : List Hop) : Prop :=
    Spells extendsName text (.word name :: done.flatMap Hop.tokens)
  have hfirst : P name.toList [] := spells_name_before_point hname hdigits
  have hgrow {text : List Char} {done : List Hop} {hop : Hop} (hdone : P text done)
      (hhop : IsName hop.name) : P (text ++ hop.text) (done ++ [hop]) := by
    have hboundary : Boundary extendsName hop.text := boundary_cons.mpr hop.extendsName_mark
    have hspells := hdone.append (Hop.spells_text hhop) hboundary
    simpa [P] using hspells
  have hall := grow_flatMap hgrow hfirst hhops
  rwa [List.nil_append] at hall

/-! ## Hops as filters -/

namespace Hop

/-- Hops that make one filter: a single one, or some points. -/
def IsRun (run : List Hop) : Prop :=
  run ≠ [] ∧ run.IsChain fun hop next => joins hop next = true

theorem isRun_cases {run : List Hop} (hrun : IsRun run) :
    (∃ name, run = [access name]) ∨ (∃ name, run = [assign name]) ∨
      ∃ path, path ≠ [] ∧ run = path.map point := by
  obtain ⟨hne, hchain⟩ := hrun
  induction run with
  | nil => exact absurd rfl hne
  | cons hop run ih =>
      cases run with
      | nil =>
          cases hop with
          | point name => exact .inr (.inr ⟨[name], List.cons_ne_nil _ _, rfl⟩)
          | access name => exact .inl ⟨name, rfl⟩
          | assign name => exact .inr (.inl ⟨name, rfl⟩)
      | cons next run =>
          rw [List.isChain_cons_cons, joins, Bool.and_eq_true] at hchain
          obtain ⟨⟨hhop, hnext⟩, hrest⟩ := hchain
          rcases ih (List.cons_ne_nil _ _) hrest with ⟨name, heq⟩ | ⟨name, heq⟩ | ⟨path, -, heq⟩
          · cases heq
            cases hnext
          · cases heq
            cases hnext
          · cases hop with
            | point name =>
                exact .inr (.inr ⟨name :: path, List.cons_ne_nil _ _, by rw [heq, List.map_cons]⟩)
            | _ => cases hhop

theorem isPath_points {path : List String} (hne : path ≠ []) :
    IsPath ((path.map point).flatMap tokens) path := by
  induction path using List.reverseRecOn with
  | nil => exact absurd rfl hne
  | append_singleton path name ih =>
      cases path with
      | nil => exact .one name
      | cons first path =>
          rw [List.map_append, List.flatMap_append]
          exact .more name (ih (List.cons_ne_nil _ _))

theorem filter_points {path : List String} : filter (path.map point) = .property path := by
  have hnames : (path.map point).map name = path := by
    rw [List.map_map]
    exact List.map_id path
  cases path with
  | nil => rfl
  | cons first path =>
      cases path with
      | nil => rfl
      | cons second path => exact congrArg Filter.property hnames

theorem isFilter_run {run : List Hop} (hrun : IsRun run) :
    IsFilter (run.flatMap tokens) (filter run) := by
  rcases isRun_cases hrun with ⟨name, rfl⟩ | ⟨name, rfl⟩ | ⟨path, hne, rfl⟩
  · exact .access name
  · exact .assign name
  · rw [filter_points]
    exact .property (isPath_points hne)

/-- A run may follow without a pipe, unless both it and the filter before it are paths. -/
theorem abuts_run {chain : Chain} {run : List Hop} (hne : run ≠ [])
    (hpath : (run.head hne).isPoint = true → ∀ path, chain.getLast? ≠ some (.property path)) :
    Abuts chain (run.flatMap tokens) := by
  cases run with
  | nil => exact absurd rfl hne
  | cons hop run =>
      cases hop with
      | point name => exact .inr (.inr (.inr ⟨rfl, hpath rfl⟩))
      | access name => exact .inl rfl
      | assign name => exact .inr (.inl rfl)

/-- Only a run of points is a path. -/
theorem filter_ne_property {run : List Hop} (hrun : IsRun run)
    (hlast : (run.getLast hrun.1).isPoint = false) (path : List String) :
    filter run ≠ .property path := by
  rcases isRun_cases hrun with ⟨name, rfl⟩ | ⟨name, rfl⟩ | ⟨names, hne, rfl⟩
  · simp [filter]
  · simp [filter]
  · rw [List.getLast_map] at hlast
    cases hlast

/-- Runs that stand apart follow a chain one after another, each as one filter. -/
theorem isChain_runs {runs : List (List Hop)} (hruns : ∀ run ∈ runs, IsRun run)
    (hapart : runs.IsChain fun run next =>
      ∃ hrun hnext, joins (run.getLast hrun) (next.head hnext) = false)
    {front : List Token} {chain : Chain} (hfront : Grammar.IsChain front chain)
    (hfirst : ∀ run ∈ runs.head?, Abuts chain (run.flatMap tokens)) :
    Grammar.IsChain (front ++ runs.flatten.flatMap tokens) (chain ++ runs.map filter) := by
  induction runs generalizing front chain with
  | nil => simpa using hfront
  | cons run runs ih =>
      obtain ⟨hrun, hothers⟩ := List.forall_mem_cons.mp hruns
      obtain ⟨hnext, hrest⟩ := List.isChain_cons.mp hapart
      have hlonger : Grammar.IsChain (front ++ run.flatMap tokens) (chain ++ [filter run]) :=
        .abutting hfront (isFilter_run hrun) (hfirst run rfl)
      have hall := ih hothers hrest hlonger ?_
      · simpa using hall
      · intro next hmem
        obtain ⟨_, hne, hjoins⟩ := hnext next hmem
        refine abuts_run hne fun hpoint path hlast => ?_
        rw [joins, hpoint, Bool.and_true] at hjoins
        rw [List.getLast?_append, List.getLast?_singleton] at hlast
        exact filter_ne_property hrun hjoins path (Option.some.inj hlast)

theorem isChain_hops (name : String) (hops : List Hop) :
    Grammar.IsChain (.word name :: hops.flatMap tokens)
      (.function name [] :: (runs hops).map filter) := by
  have hruns : ∀ run ∈ runs hops, IsRun run := fun run hmem =>
    ⟨List.ne_nil_of_mem_splitBy hmem, List.isChain_of_mem_splitBy hmem⟩
  have happly := isChain_runs hruns (List.isChain_getLast_head_splitBy joins hops)
    (.one (.function name)) ?_
  · rwa [runs, List.flatten_splitBy] at happly
  · intro run hmem
    exact abuts_run (hruns run (List.mem_of_mem_head? hmem)).1 (by simp)

end Hop

/-- A name that is not made of digits and hops behind it without blanks are read as marks and
names, whatever the names are made of, and parsed as one chain: the name calls a function, and the
hops are fields to read and to write and, for each longest run of points, a path. -/
theorem Tree.parse_hops {name : String} {hops : List Hop} (hname : IsName name)
    (hdigits : Decimal.isDigits name.toList = false) (hhops : ∀ hop ∈ hops, IsName hop.name) :
    let text := String.ofList (name.toList ++ hops.flatMap Hop.text)
    (Lexing.ofText text).tokens.map Spanned.token = .word name :: hops.flatMap Hop.tokens ∧
      Tree.parse text = .ok [.function name [] :: (Hop.runs hops).map Hop.filter] := by
  intro text
  obtain ⟨place, hending, htokens⟩ := (spells_hops hname hdigits hhops).lexing
  refine ⟨htokens, Tree.parse_of_isTree hending ?_⟩
  rw [htokens]
  exact .one (Hop.isChain_hops name hops)

/-- Points behind digits and behind the name of the function, and paths that another hop parts. -/
theorem Tree.parse_hops_of_digits :
    Tree.parse "1x.5<1.5.2>3.4" =
      .ok [[.function "1x" [], .property ["5"], .access "1", .property ["5", "2"], .assign "3",
        .property ["4"]]] ∧
    (Lexing.ofText "1x.5<1.5.2>3.4").tokens.map Spanned.token =
      [.word "1x", .dot, .word "5", .less, .word "1", .dot, .word "5", .dot, .word "2", .greater,
        .word "3", .dot, .word "4"] := by
  let hops : List Hop :=
    [.point "5", .access "1", .point "5", .point "2", .assign "3", .point "4"]
  have hname : IsName "1x" := by simp [IsName, isWordChar]
  have hhops : ∀ hop ∈ hops, IsName hop.name := by
    simp [hops, Hop.name, IsName, isWordChar]
  obtain ⟨htokens, hparse⟩ := parse_hops hname (by decide) hhops
  exact ⟨hparse, htokens⟩

end FilterChain
