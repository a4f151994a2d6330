import FilterChain.Proofs.Decimal.Digits
import FilterChain.Proofs.Tree.Printer
import FilterChain.Proofs.Tree.Recognition

/-!
# Trees and their texts

What the parser builds is well formed, since its names, patterns and numbers have been
lexed.  The other way round, a printed tree spells tokens from which the grammar derives
just that tree, so parsing undoes printing.  Floats are left out of that direction.
-/

namespace FilterChain

open Grammar FilterChain.Parser Lexer

/-! ## Parsed trees are well formed -/

def Token.WellFormed : Token → Prop
  | .word name => IsName name
  | .matching find flags => IsPattern find ∧ AreFlags flags
  | .substitution find replace flags =>
      IsPattern find ∧ Section replace.toList ∧ AreFlags flags
  | _ => True

theorem Lexer.Lexeme.wellFormed {token : Token} {slice : List Char}
    (hlexeme : Lexeme token slice) : token.WellFormed := by
  cases hlexeme with
  | mark hmark =>
      unfold mark? at hmark
      split at hmark <;> cases hmark <;> trivial
  | word hne hword =>
      constructor
      · simpa using hne
      · simpa using hword
  | float => trivial
  | string => trivial
  | matching hne hfind hflags =>
      refine ⟨⟨?_, ?_⟩, ?_⟩
      · simpa using hne
      · simpa using hfind
      · simpa [AreFlags] using hflags
  | substitution hne hfind hreplace hflags =>
      refine ⟨⟨?_, ?_⟩, ?_, ?_⟩
      · simpa using hne
      · simpa using hfind
      · simpa using hreplace
      · simpa [AreFlags] using hflags

def Written (tokens : List Token) : Prop :=
  ∀ token ∈ tokens, token.WellFormed

theorem written_append {tokens more : List Token} :
    Written (tokens ++ more) ↔ Written tokens ∧ Written more :=
  List.forall_mem_append

theorem written_cons {token : Token} {tokens : List Token} :
    Written (token :: tokens) ↔ token.WellFormed ∧ Written tokens :=
  List.forall_mem_cons

theorem isSignedNumber_iff (n : Int64) : IsSignedNumber n ↔ n.toInt.natAbs < 2 ^ 63 := by
  have hmax : Int64.maxValue.toInt = 2 ^ 63 - 1 := rfl
  rw [IsSignedNumber, hmax]
  omega

theorem Grammar.IsBound.isSignedNumber {tokens : List Token} {n : Int64}
    (hbound : IsBound tokens n) : IsSignedNumber n := by
  rw [isSignedNumber_iff]
  cases hbound with
  | plain hword hn =>
      have hlt := hword.bound
      rw [hn]
      omega
  | negative hword hn =>
      have hlt := hword.bound
      rw [hn]
      omega

theorem Grammar.IsArgument.wellFormed {tokens : List Token} {argument : Literal}
    (hargument : IsArgument tokens argument) : argument.WellFormed := by
  cases hargument with
  | string text => trivial
  | float x hsign => trivial
  | @integer _ negative _ m n hsign hword hn =>
      have hlt := hword.bound
      refine (isSignedNumber_iff n).mpr ?_
      rw [hn]
      cases negative with
      | false => simpa using hlt
      | true => simpa using hlt

theorem Grammar.IsEntry.wellFormed {tokens : List Token} {entry : SubsetEntry}
    (hentry : IsEntry tokens entry) : entry.WellFormed := by
  cases hentry with
  | index hn hle => exact hle
  | range hlo hhi => exact ⟨hlo.isSignedNumber, hhi.isSignedNumber⟩

theorem Grammar.IsListOf.forall {α : Type} {item : List Token → α → Prop} {P : α → Prop}
    (hitem : ∀ {tokens x}, Written tokens → item tokens x → P x)
    {tokens : List Token} {xs : List α} (hwritten : Written tokens)
    (hlist : IsListOf item tokens xs) : xs ≠ [] ∧ ∀ x ∈ xs, P x := by
  induction hlist with
  | one h =>
      have hx := hitem hwritten h
      simpa using hx
  | more _ h ih =>
      obtain ⟨hfront, hback⟩ := written_append.mp hwritten
      have hxs := (ih hfront).2
      have hx := hitem (written_cons.mp hback).2 h
      refine ⟨by simp, ?_⟩
      exact List.forall_mem_append.mpr ⟨hxs, List.forall_mem_singleton.mpr hx⟩

theorem Grammar.IsPath.isName {tokens : List Token} {path : List String}
    (hpath : IsPath tokens path) (hwritten : Written tokens) :
    path ≠ [] ∧ ∀ name ∈ path, IsName name := by
  induction hpath with
  | one name =>
      have hname : IsName name := hwritten (.word name) (by simp)
      simpa using hname
  | more name _ ih =>
      obtain ⟨hfront, hback⟩ := written_append.mp hwritten
      have hname : IsName name := hback (.word name) (by simp)
      have hnames := (ih hfront).2
      refine ⟨by simp, ?_⟩
      exact List.forall_mem_append.mpr ⟨hnames, List.forall_mem_singleton.mpr hname⟩

theorem Grammar.IsFilter.wellFormed {tokens : List Token} {filter : Filter}
    (hfilter : IsFilter tokens filter) (hwritten : Written tokens) : filter.WellFormed := by
  have hname (name : String) (hmem : .word name ∈ tokens) : IsName name :=
    hwritten (.word name) hmem
  cases hfilter with
  | function name => exact ⟨hname name (by simp), by simp⟩
  | call name harguments =>
      have hinner := (written_append.mp (written_cons.mp (written_cons.mp hwritten).2).2).1
      exact ⟨hname name (by simp),
        (harguments.forall (fun _ hargument => hargument.wellFormed) hinner).2⟩
  | access name => exact hname name (by simp)
  | assign name => exact hname name (by simp)
  | property hpath => exact hpath.isName hwritten
  | subset hentries =>
      have hinner := (written_append.mp (written_cons.mp hwritten).2).1
      exact hentries.forall (fun _ hentry => hentry.wellFormed) hinner
  | matching find flags =>
      exact hwritten (.matching find flags) (by simp)
  | substitution find replace flags =>
      exact hwritten (.substitution find replace flags) (by simp)

theorem Grammar.IsChain.wellFormed {tokens : List Token} {chain : Chain}
    (hchain : IsChain tokens chain) (hwritten : Written tokens) : chain.WellFormed := by
  have hmore {front : Chain} {filter : Filter} (hfront : front.WellFormed)
      (hfilter : filter.WellFormed) : Chain.WellFormed (front ++ [filter]) := by
    refine ⟨by simp, ?_⟩
    exact List.forall_mem_append.mpr ⟨hfront.2, List.forall_mem_singleton.mpr hfilter⟩
  induction hchain with
  | one hfilter =>
      have hwell := hfilter.wellFormed hwritten
      simpa [Chain.WellFormed] using hwell
  | piped _ hfilter ih =>
      obtain ⟨hfront, hback⟩ := written_append.mp hwritten
      exact hmore (ih hfront) (hfilter.wellFormed (written_cons.mp hback).2)
  | abutting _ hfilter _ ih =>
      obtain ⟨hfront, hback⟩ := written_append.mp hwritten
      exact hmore (ih hfront) (hfilter.wellFormed hback)

theorem Tree.wellFormed_of_parse {text : String} {tree : Tree}
    (hparse : Tree.parse text = .ok tree) : tree.WellFormed := by
  have htree := Tree.isTree_of_parse hparse
  have hwritten : Written ((Lexing.ofText text).tokens.map Spanned.token) := by
    obtain ⟨last, hreads⟩ := (Cursor.ofText text).exists_reads_lexing
    intro token hmem
    obtain ⟨spanned, hspanned, rfl⟩ := List.mem_map.mp hmem
    obtain ⟨slice, hlexeme⟩ := hreads.exists_lexeme spanned hspanned
    exact hlexeme.wellFormed
  exact htree.forall (fun htokens hchain => hchain.wellFormed htokens) hwritten

/-! ## Printed trees spell themselves -/

/-- The text spells tokens from which the grammar derives the part. -/
def Renders {α : Type} (item : List Token → α → Prop) (text : List Char) (x : α) : Prop :=
  ∃ tokens, Spells extendsWord text tokens ∧ item tokens x

/-- A property of lists and their texts that holds of one piece more holds of all pieces. -/
theorem grow_flatMap {α : Type} {P : List Char → List α → Prop} {good : α → Prop}
    {piece : α → List Char}
    (hgrow : ∀ {text done x}, P text done → good x → P (text ++ piece x) (done ++ [x]))
    {text : List Char} {done : List α} (hP : P text done) {xs : List α}
    (hxs : ∀ x ∈ xs, good x) : P (text ++ xs.flatMap piece) (done ++ xs) := by
  induction xs generalizing text done with
  | nil => simpa using hP
  | cons x xs ih =>
      have hx := hgrow hP (hxs x (by simp))
      have hall := ih hx (fun y hy => hxs y (List.mem_cons_of_mem x hy))
      simpa using hall

theorem intercalate_cons (separator : List Char) (text : List Char) (texts : List (List Char)) :
    separator.intercalate (text :: texts) = text ++ texts.flatMap (separator ++ ·) := by
  induction texts generalizing text with
  | nil => simp
  | cons next texts ih => simp [List.intercalate_cons_cons, ih]

section Join

variable {α : Type} {item : List Token → α → Prop} {joined : List Token → List α → Prop}
  {mark : Token} {separator : List Char} {render : α → List Char}

/-- Items with separators between them are rendered if the grammar joins them with the
separator's token. -/
theorem renders_intercalate (hone : ∀ {tokens x}, item tokens x → joined tokens [x])
    (hmore : ∀ {front tokens xs x}, joined front xs → item tokens x →
      joined (front ++ mark :: tokens) (xs ++ [x]))
    (hseparator : ∀ {text tokens}, Spells extendsWord text tokens →
      Spells extendsWord (separator ++ text) (mark :: tokens))
    (hboundary : ∀ text, Boundary extendsWord (separator ++ text))
    {xs : List α} (hne : xs ≠ []) (hitems : ∀ x ∈ xs, Renders item (render x) x) :
    Renders joined (separator.intercalate (xs.map render)) xs := by
  cases xs with
  | nil => exact absurd rfl hne
  | cons first rest =>
      obtain ⟨tokens, hspells, hitem⟩ := hitems first (by simp)
      have hfirst : Renders joined (render first) [first] := ⟨tokens, hspells, hone hitem⟩
      have hgrow {text : List Char} {done : List α} {x : α} (hdone : Renders joined text done)
          (hx : Renders item (render x) x) :
          Renders joined (text ++ (separator ++ render x)) (done ++ [x]) := by
        obtain ⟨front, hfront, hjoined⟩ := hdone
        obtain ⟨back, hback, hlast⟩ := hx
        exact ⟨_, hfront.append (hseparator hback) (hboundary _), hmore hjoined hlast⟩
      have hrest : ∀ x ∈ rest, Renders item (render x) x :=
        fun x hx => hitems x (List.mem_cons_of_mem first hx)
      have hall := grow_flatMap hgrow hfirst hrest
      rw [List.map_cons, intercalate_cons, List.flatMap_map]
      exact hall

end Join

theorem spells_comma {text : List Char} {tokens : List Token}
    (hspells : Spells extendsWord text tokens) :
    Spells extendsWord ([',', ' '] ++ text) (.comma :: tokens) :=
  hspells.blank.mark rfl rfl

theorem spells_pipe {text : List Char} {tokens : List Token}
    (hspells : Spells extendsWord text tokens) :
    Spells extendsWord ([' ', '|', ' '] ++ text) (.pipe :: tokens) :=
  (hspells.blank.mark rfl rfl).blank

theorem renders_commas {α : Type} {item : List Token → α → Prop} {render : α → List Char}
    {xs : List α} (hne : xs ≠ []) (hitems : ∀ x ∈ xs, Renders item (render x) x) :
    Renders (IsListOf item) (commas (xs.map render)) xs := by
  refine renders_intercalate (fun hitem => .one hitem)
    (fun hfront hitem => .more hfront hitem) spells_comma ?_ hne hitems
  intro text
  exact boundary_cons.mpr (by decide)

/-! ## Numbers -/

theorem isNumber_repr {m : Nat} (hm : m < 2 ^ 63) : IsNumber m.repr m := by
  have hnumeral := Decimal.isNumeral_toDigits m
  rw [← Nat.toList_repr] at hnumeral
  refine ⟨?_, hnumeral.isDigit, ?_, hm⟩
  · intro hempty
    exact hnumeral.ne_nil (congrArg String.toList hempty)
  · rw [Decimal.natOfDigits_eq_ofDigitChars, hnumeral.value]

theorem spells_name {name : String} (hname : IsName name) :
    Spells extendsWord name.toList [.word name] := by
  have hne : name.toList ≠ [] := by simpa using hname.1
  have hspells := spells_word hne hname.2
  rwa [String.ofList_toList] at hspells

theorem isName_of_isNumber {word : String} {m : Nat} (hword : IsNumber word m) : IsName word :=
  ⟨hword.ne_empty, fun c hc => isWordChar_of_isDigit (hword.digits c hc)⟩

theorem toString_int64 (n : Int64) :
    toString n = if 0 ≤ n.toInt then n.toInt.toNat.repr else "-" ++ (-n.toInt).toNat.repr :=
  Int.repr_eq_if

theorem exists_spells_integer {n : Int64} (hn : IsSignedNumber n) :
    ∃ (negative : Bool) (m : Nat) (word : String), IsNumber word m ∧
      n.toInt = (if negative then -(m : Int) else m) ∧
      Spells extendsWord (toString n).toList
        ((if negative then [.minus] else []) ++ [.word word]) := by
  have hlt := (isSignedNumber_iff n).mp hn
  by_cases hneg : 0 ≤ n.toInt
  · have hm : n.toInt.toNat < 2 ^ 63 := by omega
    have hnumber := isNumber_repr hm
    have hspells := spells_name (isName_of_isNumber hnumber)
    refine ⟨false, _, _, hnumber, ?_, ?_⟩
    · simp only [Bool.false_eq_true, if_false]
      omega
    · rw [toString_int64, if_pos hneg]
      exact hspells
  · have hm : (-n.toInt).toNat < 2 ^ 63 := by omega
    have hnumber := isNumber_repr hm
    have hspells := spells_name (isName_of_isNumber hnumber)
    refine ⟨true, _, _, hnumber, ?_, ?_⟩
    · simp only [if_true]
      omega
    · rw [toString_int64, if_neg hneg, String.toList_append]
      exact hspells.mark rfl rfl

theorem renders_bound {n : Int64} (hn : IsSignedNumber n) :
    Renders IsBound (toString n).toList n := by
  obtain ⟨negative, m, word, hword, hvalue, hspells⟩ := exists_spells_integer hn
  refine ⟨_, hspells, ?_⟩
  cases negative with
  | false => exact .plain hword hvalue
  | true => exact .negative hword hvalue

theorem renders_argument (quoting : Quoting) {argument : Literal} (hwell : argument.WellFormed)
    (hfloat : ∀ x, argument ≠ .float x) :
    Renders IsArgument (argument.render quoting) argument := by
  cases argument with
  | string text =>
      have hbody := quoting.quotedBody_flatMap text.toList
      have hspells := spells_string (p := extendsWord) quoting.mark_eq hbody
      rw [String.ofList_toList] at hspells
      exact ⟨_, hspells, .string text⟩
  | integer n =>
      obtain ⟨negative, m, word, hword, hvalue, hspells⟩ := exists_spells_integer hwell
      refine ⟨_, hspells, .integer ?_ hword hvalue⟩
      cases negative with
      | false => exact .none
      | true => exact .minus
  | float x => exact absurd rfl (hfloat x)

theorem isSignedNumber_of_nonneg {n : Int64} (hn : 0 ≤ n) : IsSignedNumber n := by
  have hle := Int64.le_iff_toInt_le.mp hn
  have hlt := n.toInt_lt
  rw [Int64.toInt_zero] at hle
  rw [isSignedNumber_iff]
  omega

theorem renders_entry {entry : SubsetEntry} (hwell : entry.WellFormed) :
    Renders IsEntry entry.render entry := by
  cases entry with
  | index n =>
      obtain ⟨tokens, hspells, hbound⟩ := renders_bound (isSignedNumber_of_nonneg hwell)
      exact ⟨tokens, hspells, .index hbound hwell⟩
  | range lo hi =>
      obtain ⟨low, hlow, hlo⟩ := renders_bound hwell.1
      obtain ⟨high, hhigh, hhi⟩ := renders_bound hwell.2
      have hback : Spells extendsWord ('-' :: (toString hi).toList) (.minus :: high) :=
        hhigh.mark rfl rfl
      exact ⟨_, hlow.append hback (boundary_cons.mpr (by decide)), .range hlo hhi⟩

/-! ## Filters -/

theorem extendsWord_of_extendsName {c : Char} (hc : extendsName c = true) :
    extendsWord c = true := by
  simp [extendsWord, hc]

theorem extendsWord_of_isWordChar {c : Char} (hc : isWordChar c = true) :
    extendsWord c = true := by
  simp [extendsWord, extendsName, hc]

theorem spells_field {c : Char} {sigil : Token} (gap : List Char) {name : String}
    (hmark : mark? c = some sigil) (hsigil : sigil.isSigil = true)
    (hgap : ∀ d ∈ gap, isBlank d = true) (hname : IsName name) :
    Spells extendsName (c :: (gap ++ name.toList)) [sigil, .word name] := by
  have hne : name.toList ≠ [] := by simpa using hname.1
  have hspells := spells_sigil hmark hsigil hgap hne hname.2
  rwa [String.ofList_toList] at hspells

/-- The points of a path follow names, not digits, so they never start a fraction. -/
theorem renders_path {path : List String} (hne : path ≠ [])
    (hnames : ∀ name ∈ path, IsName name) :
    Renders IsPath (path.flatMap fun name => '.' :: name.toList) path := by
  have hpoint {name : String} (hname : IsName name) :
      Spells extendsName ('.' :: name.toList) [.dot, .word name] :=
    spells_field [] rfl rfl (by simp) hname
  cases path with
  | nil => exact absurd rfl hne
  | cons first rest =>
      let P (text : List Char) (done : List String) : Prop :=
        ∃ tokens, Spells extendsName text tokens ∧ IsPath tokens done
      have hfirst : P ('.' :: first.toList) [first] :=
        ⟨_, hpoint (hnames first (by simp)), .one first⟩
      have hgrow {text : List Char} {done : List String} {name : String} (hdone : P text done)
          (hname : IsName name) : P (text ++ '.' :: name.toList) (done ++ [name]) := by
        obtain ⟨tokens, hspells, hpath⟩ := hdone
        exact ⟨_, hspells.append (hpoint hname) (boundary_cons.mpr (by decide)),
          .more name hpath⟩
      have hrest : ∀ name ∈ rest, IsName name :=
        fun name hname => hnames name (List.mem_cons_of_mem first hname)
      obtain ⟨tokens, hspells, hpath⟩ := grow_flatMap hgrow hfirst hrest
      rw [List.flatMap_cons]
      exact ⟨tokens, hspells.mono fun _ => extendsWord_of_extendsName, hpath⟩

theorem spells_enclosed {c d : Char} {opening closing : Token} {text : List Char}
    {tokens : List Token} (hspells : Spells extendsWord text tokens)
    (hopen : mark? c = some opening) (hclose : mark? d = some closing)
    (hsigils : opening.isSigil = false ∧ closing.isSigil = false)
    (hd : extendsWord d = false) :
    Spells extendsWord (c :: (text ++ [d])) (opening :: (tokens ++ [closing])) := by
  have hend : Spells extendsWord [d] [closing] := spells_mark hclose hsigils.2
  have hinner := hspells.append hend (boundary_cons.mpr hd)
  exact hinner.mark hopen hsigils.1

theorem renders_filter (quoting : Quoting) {filter : Filter} (hwell : filter.WellFormed)
    (hfloat : filter.FloatFree) : Renders IsFilter (filter.render quoting) filter := by
  cases filter with
  | function name arguments =>
      obtain ⟨hname, harguments⟩ := hwell
      have hword := spells_name hname
      cases arguments with
      | nil => exact ⟨_, hword, .function name⟩
      | cons first rest =>
          have hitems : ∀ argument ∈ first :: rest,
              Renders IsArgument (argument.render quoting) argument := by
            intro argument hmem
            refine renders_argument quoting (harguments argument hmem) ?_
            rintro x rfl
            exact hfloat x hmem
          obtain ⟨tokens, hspells, hlist⟩ := renders_commas (List.cons_ne_nil first rest) hitems
          have henclosed := spells_enclosed (c := '(') (d := ')') hspells rfl rfl ⟨rfl, rfl⟩
            (by decide)
          exact ⟨_, hword.append henclosed (boundary_cons.mpr (by decide)), .call name hlist⟩
  | property path =>
      obtain ⟨tokens, hspells, hpath⟩ := renders_path hwell.1 hwell.2
      exact ⟨tokens, hspells, .property hpath⟩
  | access name =>
      have hspells := spells_field [' '] (c := '<') rfl rfl isBlank_of_mem_space hwell
      exact ⟨_, hspells.mono fun _ => extendsWord_of_extendsName, .access name⟩
  | assign name =>
      have hspells := spells_field [' '] (c := '>') rfl rfl isBlank_of_mem_space hwell
      exact ⟨_, hspells.mono fun _ => extendsWord_of_extendsName, .assign name⟩
  | subset entries =>
      have hitems : ∀ entry ∈ entries, Renders IsEntry entry.render entry :=
        fun entry hmem => renders_entry (hwell.2 entry hmem)
      obtain ⟨tokens, hspells, hlist⟩ := renders_commas hwell.1 hitems
      have henclosed := spells_enclosed (c := '[') (d := ']') hspells rfl rfl ⟨rfl, rfl⟩
        (by decide)
      exact ⟨_, henclosed, .subset hlist⟩
  | matching find flags =>
      obtain ⟨⟨hne, hfind⟩, hflags⟩ := hwell
      have hspells := spells_matching (by simpa using hne) hfind hflags
      simp only [String.ofList_toList] at hspells
      exact ⟨_, hspells.mono fun _ => extendsWord_of_isWordChar, .matching find flags⟩
  | substitution find replace flags =>
      obtain ⟨⟨hne, hfind⟩, hreplace, hflags⟩ := hwell
      have hspells := spells_substitution (by simpa using hne) hfind hreplace hflags
      simp only [String.ofList_toList] at hspells
      exact ⟨_, hspells.mono fun _ => extendsWord_of_isWordChar,
        .substitution find replace flags⟩

theorem renders_chain (quoting : Quoting) {chain : Chain} (hwell : chain.WellFormed)
    (hfloat : ∀ filter ∈ chain, filter.FloatFree) :
    Renders IsChain (chain.render quoting) chain := by
  refine renders_intercalate (fun hfilter => .one hfilter)
    (fun hfront hfilter => .piped hfront hfilter) spells_pipe ?_ hwell.1 ?_
  · intro text
    exact boundary_cons.mpr (by decide)
  · intro filter hmem
    exact renders_filter quoting (hwell.2 filter hmem) (hfloat filter hmem)

theorem Tree.parse_render (quoting : Quoting) {tree : Tree} (hwell : tree.WellFormed)
    (hfloat : tree.FloatFree) : Tree.parse (tree.render quoting) = .ok tree := by
  have hchains : ∀ chain ∈ tree, Renders IsChain (Chain.render quoting chain) chain :=
    fun chain hmem => renders_chain quoting (hwell.2 chain hmem) (hfloat chain hmem)
  obtain ⟨tokens, hspells, htree⟩ := renders_commas hwell.1 hchains
  obtain ⟨place, hending, htokens⟩ := hspells.lexing
  apply Tree.parse_of_isTree hending
  rw [htokens]
  exact htree

/-- Parsed trees are well formed, and a well-formed tree without floats is parsed from its
text, in whatever way its strings are quoted. -/
theorem Tree.parse_image :
    (∀ text tree, Tree.parse text = .ok tree → tree.WellFormed) ∧
      ∀ quoting (tree : Tree), tree.WellFormed → tree.FloatFree →
        Tree.parse (tree.render quoting) = .ok tree :=
  ⟨fun _ _ => wellFormed_of_parse, fun quoting _ => parse_render quoting⟩

/-- Names of digits, a word like the start of a pattern, quotes, slashes and signs. -/
theorem Tree.parse_image_of_mixed_tree :
    let tree : Tree :=
      [[.function "m" [.string "it's\n", .integer (-3)], .property ["1", "5"], .property ["s"]],
        [.subset [.range (-3) (-1), .index 0], .matching "a\\/b" "gi"]]
    Tree.parse (tree.render ⟨false, (· == '\n')⟩) = .ok tree ∧ tree.WellFormed := by
  intro tree
  have hwell : tree.WellFormed := by
    have hsection : Section ['a', '\\', '/', 'b'] :=
      .plain (by decide) (by decide) (.pair (.plain (by decide) (by decide) .nil))
    simp [tree, Tree.WellFormed, Chain.WellFormed, Filter.WellFormed, Literal.WellFormed,
      SubsetEntry.WellFormed, IsSignedNumber, IsName, IsPattern, AreFlags, hsection]
    decide
  have hfloat : tree.FloatFree := by
    simp [tree, Tree.FloatFree, Filter.FloatFree]
  have hparse := Tree.parse_image.2 ⟨false, (· == '\n')⟩ tree hwell hfloat
  exact ⟨hparse, Tree.parse_image.1 _ tree hparse⟩

end FilterChain
